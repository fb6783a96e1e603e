import CartoSentry.Foundation.Binary64
import CartoSentry.Foundation.Json
import Mathlib.Data.Prod.Lex

set_option autoImplicit false

/-!
# Arithmetic on doubles

The operations of IEEE 754 on doubles that are carried by their values, rounded to
nearest, and their comparisons, which no NaN passes.
-/

namespace CartoSentry.Foundation

/-- What is no longer rounded to the largest finite double. -/
def overflowBound : ℚ :=
  2 ^ 1024 - 2 ^ 970

/-- The nearest double of a number with this sign. -/
def doubleOf (negative : Bool) (magnitude : ℚ) : Double :=
  if overflowBound ≤ magnitude then .infinity negative
  else if nearestDouble magnitude = 0 then if negative then .negativeZero else .finite 0
  else .finite (if negative then -nearestDouble magnitude else nearestDouble magnitude)

namespace Double

/-! ## Signs -/

def isNaN : Double → Bool
  | .nan => true
  | _ => false

def neg : Double → Double
  | .finite value => if value = 0 then .negativeZero else .finite (-value)
  | .negativeZero => .finite 0
  | .infinity negative => .infinity !negative
  | .nan => .nan

def isNegative : Double → Bool
  | .finite value => value < 0
  | .negativeZero => true
  | .infinity negative => negative
  | .nan => false

def abs (value : Double) : Double :=
  if value.isNegative then value.neg else value

/-- The number that a finite double is. -/
def number : Double → ℚ
  | .finite value => value
  | _ => 0

/-- An exact result as a double, with the sign of the result where it is zero. -/
def rounded (negative : Bool) (value : ℚ) : Double :=
  if value = 0 then if negative then .negativeZero else .finite 0
  else doubleOf (value < 0) |value|

/-! ## Operations -/

def add : Double → Double → Double
  | .nan, _ | _, .nan => .nan
  | .infinity left, .infinity right => if left = right then .infinity left else .nan
  | .infinity negative, _ | _, .infinity negative => .infinity negative
  | .negativeZero, .negativeZero => .negativeZero
  | left, right => rounded false (left.number + right.number)

def sub (left right : Double) : Double :=
  left.add right.neg

def mul (left right : Double) : Double :=
  match left, right with
  | .nan, _ | _, .nan => .nan
  | .infinity _, .infinity _ => .infinity (left.isNegative != right.isNegative)
  | .infinity _, other | other, .infinity _ =>
    if other.number = 0 then .nan else .infinity (left.isNegative != right.isNegative)
  | _, _ => rounded (left.isNegative != right.isNegative) (left.number * right.number)

def div (left right : Double) : Double :=
  match left, right with
  | .nan, _ | _, .nan => .nan
  | .infinity _, .infinity _ => .nan
  | .infinity _, _ => .infinity (left.isNegative != right.isNegative)
  | _, .infinity _ => rounded (left.isNegative != right.isNegative) 0
  | _, _ =>
    if right.number = 0 then
      if left.number = 0 then .nan else .infinity (left.isNegative != right.isNegative)
    else rounded (left.isNegative != right.isNegative) (left.number / right.number)

/-- The remainder of the division by the nearest integer, the even one of two. -/
def remainder (left right : Double) : Double :=
  match left, right with
  | .nan, _ | _, .nan | .infinity _, _ => .nan
  | _, .infinity _ => left
  | _, _ =>
    if right.number = 0 then .nan
    else rounded left.isNegative
      (left.number - nearestEven (left.number / right.number) * right.number)

def ofNat (value : Nat) : Double :=
  rounded false value

/-! ## Comparisons -/

/-- The place of a double among the others, NaN excluded. -/
def rank : Double → ℤ ×ₗ ℚ
  | .infinity true => toLex (-1, 0)
  | .infinity false => toLex (1, 0)
  | value => toLex (0, value.number)

def lt (left right : Double) : Bool :=
  !left.isNaN && !right.isNaN && decide (left.rank < right.rank)

def le (left right : Double) : Bool :=
  !left.isNaN && !right.isNaN && decide (left.rank ≤ right.rank)

def eq (left right : Double) : Bool :=
  !left.isNaN && !right.isNaN && decide (left.rank = right.rank)

/-- `std::max`. -/
def max (left right : Double) : Double :=
  if left.lt right then right else left

/-- `std::clamp`. -/
def clamp (value low high : Double) : Double :=
  if value.lt low then low else if high.lt value then high else value

/-- The largest finite double. -/
def largest : Double :=
  .finite (2 ^ 1024 - 2 ^ 971)

/-! ## Exact results -/

/-- A natural number of 53 bits is its own double. -/
theorem rounded_natCast {count : Nat} (h : count < 2 ^ 53) :
    rounded false count = .finite count := by
  have hbound : (count : ℚ) < overflowBound :=
    calc (count : ℚ) < 2 ^ 53 := by exact_mod_cast h
      _ ≤ overflowBound := by decide +kernel
  unfold rounded doubleOf
  rw [Nat.abs_cast, nearestDouble_natCast h, if_neg (not_le.mpr hbound),
    decide_eq_false (not_lt.mpr (Nat.cast_nonneg' count))]
  by_cases hzero : (count : ℚ) = 0
  · rw [if_pos hzero, hzero]
    rfl
  · rw [if_neg hzero, if_neg hzero]
    rfl

/-! ## NaN -/

theorem isNaN_rounded (negative : Bool) (value : ℚ) : (rounded negative value).isNaN = false := by
  unfold rounded doubleOf
  split_ifs <;> rfl

theorem isNaN_neg (value : Double) : value.neg.isNaN = value.isNaN := by
  cases value with
  | finite value =>
    unfold neg
    dsimp only
    split_ifs <;> rfl
  | negativeZero | infinity | nan => rfl

theorem not_isNaN_of_isFinite {value : Double} (h : value.isFinite = true) :
    value.isNaN = false := by
  cases value with
  | finite | negativeZero => rfl
  | infinity | nan => cases h

/-- The sum of a finite number and a number is a number. -/
theorem isNaN_add {left right : Double} (hleft : left.isFinite = true)
    (hright : right.isNaN = false) : (left.add right).isNaN = false := by
  cases left with
  | infinity | nan => cases hleft
  | finite value =>
    cases right with
    | nan => cases hright
    | infinity => rfl
    | finite | negativeZero => exact isNaN_rounded _ _
  | negativeZero =>
    cases right with
    | nan => cases hright
    | infinity | negativeZero => rfl
    | finite => exact isNaN_rounded _ _

theorem isNaN_sub {left right : Double} (hleft : left.isFinite = true)
    (hright : right.isNaN = false) : (left.sub right).isNaN = false :=
  isNaN_add hleft ((isNaN_neg right).trans hright)

/-- Half of a number is a number. -/
theorem isNaN_div_two {value : Double} (h : value.isNaN = false) :
    (value.div (.finite 2)).isNaN = false := by
  have htwo : ¬ (Double.finite 2).number = 0 := by decide
  cases value with
  | nan => cases h
  | infinity => rfl
  | finite value =>
    unfold div
    dsimp only
    rw [if_neg htwo]
    exact isNaN_rounded _ _
  | negativeZero =>
    unfold div
    dsimp only
    rw [if_neg htwo]
    exact isNaN_rounded _ _

theorem neg_zero_eq : (finite 0).neg = negativeZero := by
  simp [neg]

theorem neg_finite {value : ℚ} (h : value ≠ 0) : (finite value).neg = finite (-value) :=
  if_neg h

theorem isFinite_neg (value : Double) : value.neg.isFinite = value.isFinite := by
  cases value with
  | finite value =>
    by_cases hzero : value = 0
    · rw [hzero, neg_zero_eq]
      rfl
    · rw [neg_finite hzero]
      rfl
  | negativeZero | infinity | nan => rfl

theorem isNaN_abs (value : Double) : value.abs.isNaN = value.isNaN := by
  unfold abs
  split_ifs
  · exact isNaN_neg value
  · rfl

/-- Magnitudes add up to a number, even where the first is infinite. -/
theorem isNaN_add_abs {left right : Double} (hleft : left.abs.isFinite = false)
    (hnumber : left.abs.isNaN = false) (hright : right.isNaN = false) :
    (left.abs.add right.abs).isNaN = false := by
  have hinfinite : left.abs = infinity false := by
    cases left with
    | infinity negative => cases negative <;> rfl
    | nan => cases hnumber
    | negativeZero => cases hleft
    | finite value =>
      unfold abs at hleft
      split_ifs at hleft
      · rw [isFinite_neg] at hleft
        cases hleft
      · cases hleft
  have hother : right.abs.isNaN = false := (isNaN_abs right).trans hright
  rw [hinfinite]
  cases habs : right.abs with
  | nan =>
    rw [habs] at hother
    cases hother
  | finite | negativeZero => rfl
  | infinity negative =>
    cases right with
    | infinity sign => cases sign <;> cases habs <;> rfl
    | nan => cases hright
    | negativeZero => cases habs
    | finite value =>
      unfold abs at habs
      split_ifs at habs
      unfold neg at habs
      dsimp only at habs
      split_ifs at habs

/-! ## Comparisons of numbers -/

theorem lt_iff_rank {left right : Double} (hleft : left.isNaN = false)
    (hright : right.isNaN = false) : left.lt right = true ↔ left.rank < right.rank := by
  simp [lt, hleft, hright]

theorem eq_iff_rank {left right : Double} (hleft : left.isNaN = false)
    (hright : right.isNaN = false) : left.eq right = true ↔ left.rank = right.rank := by
  simp [eq, hleft, hright]

theorem le_iff_rank {left right : Double} (hleft : left.isNaN = false)
    (hright : right.isNaN = false) : left.le right = true ↔ left.rank ≤ right.rank := by
  simp [le, hleft, hright]

theorem le_iff_not_lt {left right : Double} (hleft : left.isNaN = false)
    (hright : right.isNaN = false) : left.le right = true ↔ ¬ right.lt left = true := by
  rw [le_iff_rank hleft hright, lt_iff_rank hright hleft, not_lt]

protected theorem lt_of_lt_of_le {left middle right : Double} (hlt : left.lt middle = true)
    (hle : middle.le right = true) : left.lt right = true := by
  simp only [lt, le, Bool.and_eq_true, decide_eq_true_eq] at hlt hle ⊢
  exact ⟨⟨hlt.1.1, hle.1.2⟩, lt_of_lt_of_le hlt.2 hle.2⟩

/-! ## Opposites -/

theorem number_neg (value : Double) : value.neg.number = -value.number := by
  cases value with
  | finite value =>
    by_cases hzero : value = 0
    · rw [hzero, neg_zero_eq]
      exact neg_zero.symm
    · rw [neg_finite hzero]
      rfl
  | negativeZero | infinity | nan => exact neg_zero.symm

protected theorem neg_neg (value : Double) : value.neg.neg = value := by
  cases value with
  | finite value =>
    by_cases hzero : value = 0
    · rw [hzero, neg_zero_eq]
      rfl
    · rw [neg_finite hzero, neg_finite (neg_ne_zero.mpr hzero), neg_neg]
  | negativeZero => exact neg_zero_eq
  | infinity negative => exact congrArg infinity (Bool.not_not negative)
  | nan => rfl

theorem isNegative_neg {value : Double} (h : value.isNaN = false) :
    value.neg.isNegative = !value.isNegative := by
  cases value with
  | finite value =>
    rcases lt_trichotomy value 0 with hneg | rfl | hpos
    · rw [neg_finite hneg.ne]
      simp [isNegative, hneg, hneg.le]
    · rw [neg_zero_eq]
      rfl
    · rw [neg_finite hpos.ne']
      simp [isNegative, hpos, hpos.le]
  | negativeZero | infinity => rfl
  | nan => cases h

protected theorem abs_neg (value : Double) : value.neg.abs = value.abs := by
  cases hnan : value.isNaN with
  | true =>
    cases value with
    | nan => rfl
    | finite | negativeZero | infinity => cases hnan
  | false =>
    unfold abs
    rw [isNegative_neg hnan, Double.neg_neg]
    cases value.isNegative <;> rfl

protected theorem abs_abs (value : Double) : value.abs.abs = value.abs := by
  cases hnegative : value.isNegative with
  | false => simp [abs, hnegative]
  | true =>
    have hnumber : value.isNaN = false := by
      cases value with
      | nan => cases hnegative
      | finite | negativeZero | infinity => rfl
    have hopposite := isNegative_neg hnumber
    simp [abs, hnegative, hopposite]

theorem neg_doubleOf (negative : Bool) (magnitude : ℚ) :
    (doubleOf negative magnitude).neg = doubleOf (!negative) magnitude := by
  unfold doubleOf
  by_cases hoverflow : overflowBound ≤ magnitude
  · rw [if_pos hoverflow, if_pos hoverflow]
    rfl
  rw [if_neg hoverflow, if_neg hoverflow]
  by_cases hzero : nearestDouble magnitude = 0
  · rw [if_pos hzero, if_pos hzero]
    cases negative with
    | false => exact neg_zero_eq
    | true => rfl
  · rw [if_neg hzero, if_neg hzero]
    cases negative with
    | false => exact neg_finite hzero
    | true =>
      have hopposite : (finite (-nearestDouble magnitude)).neg = finite (nearestDouble magnitude) :=
        by rw [neg_finite (neg_ne_zero.mpr hzero), neg_neg]
      exact hopposite

/-- Only a zero has its sign from elsewhere. -/
theorem neg_rounded {value : ℚ} (h : value ≠ 0) (negative other : Bool) :
    (rounded negative value).neg = rounded other (-value) := by
  have hsign : (!decide (value < 0)) = decide (-value < 0) := by
    rcases lt_or_gt_of_ne h with hneg | hpos
    · simp [hneg, hneg.le]
    · simp [hpos, hpos.le]
  unfold rounded
  rw [if_neg h, if_neg (neg_ne_zero.mpr h), neg_doubleOf, abs_neg, hsign]

theorem neg_rounded_zero (negative : Bool) :
    (rounded negative 0).neg = rounded (!negative) 0 := by
  cases negative with
  | false => exact neg_zero_eq
  | true => rfl

/-- The difference of finite numbers, which is negative zero in one case only. -/
theorem sub_of_isFinite {left right : Double} (hleft : left.isFinite = true)
    (hright : right.isFinite = true) : left.sub right =
      if left = .negativeZero ∧ right = .finite 0 then .negativeZero
      else rounded false (left.number - right.number) := by
  have hsub : ∀ value : ℚ, left.number + right.neg.number = left.number - right.number := by
    intro value
    rw [number_neg, sub_eq_add_neg]
  cases left with
  | infinity | nan => cases hleft
  | finite value =>
    rw [if_neg (fun h => nomatch h.1), ← hsub 0]
    cases right with
    | infinity | nan => cases hright
    | negativeZero => rfl
    | finite other =>
      by_cases hzero : other = 0
      · unfold sub
        rw [hzero, neg_zero_eq]
        rfl
      · unfold sub
        rw [neg_finite hzero]
        rfl
  | negativeZero =>
    cases right with
    | infinity | nan => cases hright
    | negativeZero =>
      rw [if_neg (fun h => nomatch h.2), ← hsub 0]
      rfl
    | finite other =>
      by_cases hzero : other = 0
      · rw [if_pos ⟨rfl, by rw [hzero]⟩]
        unfold sub
        rw [hzero, neg_zero_eq]
        rfl
      · rw [if_neg (fun h => hzero (Double.finite.inj h.2)), ← hsub 0]
        unfold sub
        rw [neg_finite hzero]
        rfl

theorem infinity_sub (negative : Bool) {value : Double} (h : value.isFinite = true) :
    (infinity negative).sub value = infinity negative := by
  cases value with
  | infinity | nan => cases h
  | negativeZero => rfl
  | finite value =>
    unfold sub
    by_cases hzero : value = 0
    · rw [hzero, neg_zero_eq]
      rfl
    · rw [neg_finite hzero]
      rfl

theorem sub_infinity (negative : Bool) {value : Double} (h : value.isFinite = true) :
    value.sub (infinity negative) = infinity !negative := by
  cases value with
  | infinity | nan => cases h
  | negativeZero | finite => rfl

theorem nan_sub (value : Double) : nan.sub value = nan := by
  rfl

theorem sub_nan (value : Double) : value.sub nan = nan := by
  cases value <;> rfl

/-- The difference the other way is the opposite, unless both are the zero without a
sign. -/
theorem sub_comm_of_isFinite {left right : Double} (hleft : left.isFinite = true)
    (hright : right.isFinite = true) :
    right.sub left = (left.sub right).neg ∨ right.sub left = left.sub right := by
  rw [sub_of_isFinite hleft hright, sub_of_isFinite hright hleft]
  by_cases hequal : left.number - right.number = 0
  · have hopposite : right.number - left.number = 0 := by linarith
    rw [hequal, hopposite]
    split_ifs
    · exact Or.inr rfl
    · exact Or.inl neg_zero_eq.symm
    · exact Or.inl rfl
    · exact Or.inr rfl
  · have hnotLeft : ¬ (left = .negativeZero ∧ right = .finite 0) := by
      rintro ⟨rfl, rfl⟩
      exact hequal (sub_zero 0)
    have hnotRight : ¬ (right = .negativeZero ∧ left = .finite 0) := by
      rintro ⟨rfl, rfl⟩
      exact hequal (sub_zero 0)
    rw [if_neg hnotLeft, if_neg hnotRight, neg_rounded hequal false false, neg_sub]
    exact Or.inl rfl

theorem sub_comm_cases (left right : Double) :
    right.sub left = (left.sub right).neg ∨ right.sub left = left.sub right := by
  have hkinds : ∀ value : Double, value.isFinite = true ∨
      (∃ negative, value = infinity negative) ∨ value = nan := by
    intro value
    cases value with
    | finite | negativeZero => exact Or.inl rfl
    | infinity negative => exact Or.inr (Or.inl ⟨negative, rfl⟩)
    | nan => exact Or.inr (Or.inr rfl)
  rcases hkinds left with hleft | ⟨negative, rfl⟩ | rfl
  · rcases hkinds right with hright | ⟨other, rfl⟩ | rfl
    · exact sub_comm_of_isFinite hleft hright
    · rw [infinity_sub other hleft, sub_infinity other hleft]
      exact Or.inl (congrArg infinity (Bool.not_not other).symm)
    · rw [nan_sub, sub_nan]
      exact Or.inr rfl
  · rcases hkinds right with hright | ⟨other, rfl⟩ | rfl
    · rw [infinity_sub negative hright, sub_infinity negative hright]
      exact Or.inl rfl
    · cases negative <;> cases other <;> simp [sub, add, neg]
    · rw [nan_sub, sub_nan]
      exact Or.inr rfl
  · rw [nan_sub, sub_nan]
    exact Or.inr rfl

/-- Magnitudes do not tell which way the difference was taken. -/
theorem abs_sub_comm (left right : Double) : (right.sub left).abs = (left.sub right).abs := by
  rcases sub_comm_cases left right with h | h
  · rw [h, Double.abs_neg]
  · rw [h]

theorem remainder_of_number {left right : Double} (hleft : left.isFinite = true)
    (hright : right.isFinite = true) : left.remainder right =
      if right.number = 0 then .nan
      else rounded left.isNegative
        (left.number - nearestEven (left.number / right.number) * right.number) := by
  cases left with
  | infinity | nan => cases hleft
  | finite | negativeZero =>
    cases right with
    | infinity | nan => cases hright
    | finite | negativeZero => rfl

theorem remainder_neg (left : Double) {right : Double} (hright : right.isFinite = true) :
    left.neg.remainder right = (left.remainder right).neg := by
  cases hfinite : left.isFinite with
  | false =>
    cases left with
    | finite | negativeZero => cases hfinite
    | infinity | nan =>
      cases right with
      | infinity | nan => cases hright
      | finite | negativeZero => rfl
  | true =>
    have hopposite : left.neg.isFinite = true := (isFinite_neg left).trans hfinite
    rw [remainder_of_number hfinite hright, remainder_of_number hopposite hright]
    by_cases hzero : right.number = 0
    · rw [if_pos hzero, if_pos hzero]
      rfl
    rw [if_neg hzero, if_neg hzero, number_neg, neg_div, nearestEven_neg,
      isNegative_neg (not_isNaN_of_isFinite hfinite)]
    have hvalue : -left.number - ((-nearestEven (left.number / right.number) : ℤ) : ℚ) * right.number =
        -(left.number - nearestEven (left.number / right.number) * right.number) := by
      push_cast
      ring
    rw [hvalue]
    by_cases hexact : left.number - nearestEven (left.number / right.number) * right.number = 0
    · rw [hexact, neg_zero, neg_rounded_zero]
    · rw [neg_rounded hexact]

theorem abs_remainder_sub_comm (left right : Double) {divisor : Double}
    (hdivisor : divisor.isFinite = true) :
    ((right.sub left).remainder divisor).abs = ((left.sub right).remainder divisor).abs := by
  rcases sub_comm_cases left right with h | h
  · rw [h, remainder_neg _ hdivisor, Double.abs_neg]
  · rw [h]

end Double

end CartoSentry.Foundation
