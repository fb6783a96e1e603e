import CartoSentry.Foundation.Binary64
import CartoSentry.Foundation.Outcome
import Mathlib.Algebra.Order.Field.Power
import Mathlib.Algebra.Ring.Int.Parity
import Mathlib.Data.Nat.Log
import Mathlib.Tactic.Ring

set_option autoImplicit false

/-!
# Decimal arithmetic

Numbers of the General Decimal Arithmetic: a sign, a coefficient and an exponent, or a special
value.  Products are rounded to the digits and the exponents of a context, the even one of two.
-/

namespace CartoSentry.Foundation

/-- The digits and the exponents of a context, the exponents of the first digit. -/
structure DecimalContext where
  precision : Nat
  least : Int
  greatest : Int
  precision_pos : 0 < precision
  least_le_greatest : least ≤ greatest

/-- The exponent of the last digit that the smallest numbers have. -/
def DecimalContext.tiny (context : DecimalContext) : Int :=
  context.least - (context.precision - 1)

/-- What an operation signals instead of a result. -/
inductive DecimalSignal where
  | invalidOperation
  | overflow
  deriving DecidableEq, Repr

inductive Decimal where
  | finite (negative : Bool) (coefficient : Nat) (exponent : Int)
  | infinity (negative : Bool)
  | nan (signaling negative : Bool) (payload : Nat)
  deriving DecidableEq, Repr

/-! ## Rounding -/

/-- The exponent of the first digit. -/
def leading (coefficient : Nat) (exponent : Int) : Int :=
  exponent + Nat.log 10 coefficient

/-- A coefficient and an exponent as a rational. -/
def magnitude (coefficient : Nat) (exponent : Int) : ℚ :=
  coefficient * 10 ^ exponent

namespace DecimalContext

variable (context : DecimalContext)

/-- The exponent of the last digit that a result has at most. -/
def lastExponent (coefficient : Nat) (exponent : Int) : Int :=
  max (leading coefficient exponent - (context.precision - 1)) context.tiny

/-- A number rounded to the context. -/
def round (negative : Bool) (coefficient : Nat) (exponent : Int) :
    Except DecimalSignal Decimal :=
  if coefficient = 0 then
    .ok (.finite negative 0 (max context.tiny (min exponent context.greatest)))
  else if context.greatest < leading coefficient exponent then .error .overflow
  else
    let last := max exponent (context.lastExponent coefficient exponent)
    let rounded := (nearestEven (magnitude coefficient (exponent - last))).toNat
    if context.greatest < leading rounded last then .error .overflow
    else .ok (.finite negative rounded last)

/-- The payload of a NaN keeps its last digits. -/
def quiet (negative : Bool) (payload : Nat) : Decimal :=
  .nan false negative (payload % 10 ^ context.precision)

/-- The product of two numbers. -/
def mul : Decimal → Decimal → Except DecimalSignal Decimal
  | .nan true _ _, _ => .error .invalidOperation
  | _, .nan true _ _ => .error .invalidOperation
  | .nan false negative payload, _ => .ok (context.quiet negative payload)
  | _, .nan false negative payload => .ok (context.quiet negative payload)
  | .infinity left, .infinity right => .ok (.infinity (left ^^ right))
  | .infinity left, .finite right coefficient _ =>
    if coefficient = 0 then .error .invalidOperation else .ok (.infinity (left ^^ right))
  | .finite left coefficient _, .infinity right =>
    if coefficient = 0 then .error .invalidOperation else .ok (.infinity (left ^^ right))
  | .finite left coefficient exponent, .finite right coefficient' exponent' =>
    context.round (left ^^ right) (coefficient * coefficient') (exponent + exponent')

end DecimalContext

namespace Decimal

/-- The whole number next to a number. -/
def toIntegralValue : Decimal → Except DecimalSignal Decimal
  | .finite negative coefficient exponent =>
    if 0 ≤ exponent then .ok (.finite negative coefficient exponent)
    else .ok (.finite negative (nearestEven (magnitude coefficient exponent)).toNat 0)
  | .infinity negative => .ok (.infinity negative)
  | .nan true _ _ => .error .invalidOperation
  | .nan false negative payload => .ok (.nan false negative payload)

/-- A sign before a magnitude. -/
def signed (negative : Bool) (value : ℚ) : ℚ :=
  if negative then -value else value

/-- Equality of numbers.  A NaN is not equal to anything. -/
def equals : Decimal → Decimal → Except DecimalSignal Bool
  | .nan true _ _, _ => .error .invalidOperation
  | _, .nan true _ _ => .error .invalidOperation
  | .finite left coefficient exponent, .finite right coefficient' exponent' =>
    .ok (signed left (magnitude coefficient exponent) =
      signed right (magnitude coefficient' exponent'))
  | .infinity left, .infinity right => .ok (left == right)
  | _, _ => .ok false

end Decimal

/-! ## Magnitudes -/

theorem magnitude_pos {coefficient : Nat} (h : coefficient ≠ 0) (exponent : Int) :
    0 < magnitude coefficient exponent := by
  unfold magnitude
  have hcoefficient : (0 : ℚ) < coefficient := Nat.cast_pos.mpr (Nat.pos_of_ne_zero h)
  positivity

theorem magnitude_nonneg (coefficient : Nat) (exponent : Int) :
    0 ≤ magnitude coefficient exponent := by
  unfold magnitude
  positivity

@[simp]
theorem magnitude_zero (exponent : Int) : magnitude 0 exponent = 0 := by
  rw [magnitude, Nat.cast_zero, zero_mul]

/-- Moving the point moves the exponent. -/
theorem magnitude_mul_zpow (coefficient : Nat) (exponent shift : Int) :
    magnitude coefficient exponent * 10 ^ shift = magnitude coefficient (exponent + shift) := by
  rw [magnitude, magnitude, mul_assoc, ← zpow_add₀ (by norm_num)]

theorem magnitude_eq_sub_mul (coefficient : Nat) (exponent last : Int) :
    magnitude coefficient exponent = magnitude coefficient (exponent - last) * 10 ^ last := by
  rw [magnitude_mul_zpow, sub_add_cancel]

theorem zpow_le_magnitude_iff {coefficient : Nat} (h : coefficient ≠ 0) (exponent bound : Int) :
    (10 : ℚ) ^ bound ≤ magnitude coefficient exponent ↔ bound ≤ leading coefficient exponent := by
  rw [← sub_add_cancel bound exponent, zpow_add₀ (by norm_num), magnitude,
    mul_le_mul_iff_of_pos_right (by positivity)]
  have hcast := Int.zpow_le_iff_le_log (R := ℚ) (b := 10) (x := bound - exponent)
    (by norm_num) (Nat.cast_pos.mpr (Nat.pos_of_ne_zero h))
  rw [Int.log_natCast, Nat.cast_ofNat] at hcast
  rw [hcast, leading]
  omega

/-! ## Nearest integers -/

theorem nearestEven_of_even {value : ℚ} {unit : ℤ} (heven : Even unit)
    (h : |value - unit| ≤ 1 / 2) : nearestEven value = unit := by
  obtain ⟨hlower, hupper⟩ := abs_le.mp h
  rcases le_or_gt (unit : ℚ) value with habove | hbelow
  · have hfloor : ⌊value⌋ = unit := Int.floor_eq_iff.mpr ⟨habove, by linarith⟩
    unfold nearestEven
    rw [hfloor, if_pos heven]
    split_ifs
    · rfl
    · linarith
    · rfl
  · have hfloor : ⌊value⌋ = unit - 1 := by
      rw [Int.floor_eq_iff]
      push_cast
      constructor <;> linarith
    have hodd : ¬ Even (unit - 1) := fun hsub => Int.even_sub_one.mp hsub heven
    unfold nearestEven
    rw [hfloor, if_neg (by push_cast; linarith), if_neg hodd]
    split_ifs <;> ring

/-- The nearest integer is above an integer that the number is above. -/
theorem le_nearestEven {value : ℚ} {unit : ℤ} (h : (unit : ℚ) ≤ value) :
    unit ≤ nearestEven value := by
  have hnear := (abs_le.mp (abs_nearestEven_sub_le value)).1
  have hcast : ((unit - 1 : ℤ) : ℚ) < nearestEven value := by
    push_cast
    linarith
  exact Int.sub_one_lt_iff.mp (Int.cast_lt.mp hcast)

theorem nearestEven_nonneg {value : ℚ} (h : 0 ≤ value) : 0 ≤ nearestEven value :=
  le_nearestEven (by rwa [Int.cast_zero])

/-- An even integer is the nearest one from half a unit below it on. -/
theorem even_le_nearestEven_iff {value : ℚ} {unit : ℤ} (heven : Even unit) :
    unit ≤ nearestEven value ↔ unit - 1 / 2 ≤ value := by
  constructor
  · intro h
    have hnear := (abs_le.mp (abs_nearestEven_sub_le value)).2
    have hcast : (unit : ℚ) ≤ nearestEven value := Int.cast_le.mpr h
    linarith
  · intro h
    rcases le_or_gt (unit : ℚ) value with habove | hbelow
    · exact le_nearestEven habove
    · refine le_of_eq (nearestEven_of_even heven ?_).symm
      rw [abs_le]
      constructor <;> linarith

/-! ## Rounded magnitudes -/

namespace DecimalContext

variable (context : DecimalContext)

/-- The value that a rounded number has. -/
def rounded (coefficient : Nat) (exponent : Int) : ℚ :=
  nearestEven (magnitude coefficient (exponent - context.lastExponent coefficient exponent)) *
    10 ^ context.lastExponent coefficient exponent

theorem tiny_le_greatest : context.tiny ≤ context.greatest := by
  have hprecision := context.precision_pos
  have hexponents := context.least_le_greatest
  unfold tiny
  omega

theorem tiny_le_lastExponent (coefficient : Nat) (exponent : Int) :
    context.tiny ≤ context.lastExponent coefficient exponent :=
  le_max_right _ _

theorem lastExponent_le_greatest {coefficient : Nat} {exponent : Int}
    (h : leading coefficient exponent ≤ context.greatest) :
    context.lastExponent coefficient exponent ≤ context.greatest := by
  have hprecision := context.precision_pos
  have htiny := context.tiny_le_greatest
  unfold lastExponent
  omega

theorem magnitude_rounded_last {coefficient : Nat} (exponent : Int) :
    magnitude (nearestEven (magnitude coefficient
        (exponent - max exponent (context.lastExponent coefficient exponent)))).toNat
      (max exponent (context.lastExponent coefficient exponent)) =
        context.rounded coefficient exponent := by
  unfold rounded
  generalize context.lastExponent coefficient exponent = last
  rcases le_total exponent last with h | h
  · rw [max_eq_right h]
    have hnonneg := nearestEven_nonneg (magnitude_nonneg coefficient (exponent - last))
    have hcast : ((nearestEven (magnitude coefficient (exponent - last))).toNat : ℚ) =
        nearestEven (magnitude coefficient (exponent - last)) := by
      exact_mod_cast Int.toNat_of_nonneg hnonneg
    rw [magnitude, hcast]
  · -- Nothing is cut off: the coefficient is whole in both units.
    have hwhole : ∀ shift : Nat, magnitude coefficient shift =
        ((coefficient * 10 ^ shift : ℤ) : ℚ) := by
      intro shift
      rw [magnitude, zpow_natCast]
      norm_cast
    obtain ⟨shift, hshift⟩ := Int.eq_ofNat_of_zero_le (sub_nonneg.mpr h)
    have hzero : nearestEven (magnitude coefficient 0) = coefficient := by
      have hcoefficient : magnitude coefficient 0 = ((coefficient : ℤ) : ℚ) := by
        rw [magnitude, zpow_zero, mul_one, Int.cast_natCast]
      rw [hcoefficient, nearestEven_intCast]
    rw [max_eq_left h, sub_self, hzero, Int.toNat_natCast, hshift, hwhole, nearestEven_intCast,
      ← hwhole, ← hshift, magnitude_mul_zpow, sub_add_cancel]

/-- A rounded number has as many digits before the point as the number has. -/
theorem zpow_leading_le_rounded {coefficient : Nat} (h : coefficient ≠ 0) {exponent : Int}
    (htiny : context.tiny ≤ leading coefficient exponent) :
    (10 : ℚ) ^ leading coefficient exponent ≤ context.rounded coefficient exponent := by
  have hlast : context.lastExponent coefficient exponent ≤ leading coefficient exponent := by
    have hprecision := context.precision_pos
    unfold lastExponent
    omega
  have hfirst := (zpow_le_magnitude_iff h exponent _).mpr (le_refl (leading coefficient exponent))
  unfold rounded
  generalize context.lastExponent coefficient exponent = last at *
  generalize leading coefficient exponent = first at *
  obtain ⟨shift, hshift⟩ := Int.eq_ofNat_of_zero_le (sub_nonneg.mpr hlast)
  have hpower : (10 : ℚ) ^ first = ((10 ^ shift : ℤ) : ℚ) * 10 ^ last := by
    push_cast
    rw [← zpow_natCast, ← zpow_add₀ (by norm_num), ← hshift, sub_add_cancel]
  rw [hpower, magnitude_eq_sub_mul coefficient exponent last,
    mul_le_mul_iff_of_pos_right (by positivity)] at hfirst
  rw [hpower, mul_le_mul_iff_of_pos_right (by positivity)]
  exact Int.cast_le.mpr (le_nearestEven hfirst)

/-- A number that does not fit overflows. -/
theorem round_eq_overflow {negative : Bool} {coefficient : Nat} {exponent : Int}
    (h : coefficient ≠ 0)
    (hlarge : (10 : ℚ) ^ (context.greatest + 1) ≤ context.rounded coefficient exponent) :
    context.round negative coefficient exponent = .error .overflow := by
  unfold round
  rw [if_neg h]
  split_ifs with hfirst
  · rfl
  · dsimp only
    have hne : (nearestEven (magnitude coefficient
        (exponent - max exponent (context.lastExponent coefficient exponent)))).toNat ≠ 0 := by
      intro hzero
      rw [← context.magnitude_rounded_last, hzero, magnitude_zero] at hlarge
      exact absurd hlarge (not_le.mpr (by positivity))
    rw [← context.magnitude_rounded_last, zpow_le_magnitude_iff hne] at hlarge
    rw [if_pos (by omega)]

/-- A number that fits is the rounded one. -/
theorem round_eq_ok {negative : Bool} {coefficient : Nat} {exponent : Int}
    (h : coefficient ≠ 0)
    (hsmall : context.rounded coefficient exponent < (10 : ℚ) ^ (context.greatest + 1)) :
    ∃ coefficient' exponent',
      context.round negative coefficient exponent = .ok (.finite negative coefficient' exponent') ∧
      magnitude coefficient' exponent' = context.rounded coefficient exponent := by
  have hfirst : leading coefficient exponent ≤ context.greatest := by
    by_contra hfirst
    rw [not_le] at hfirst
    have hrounded := context.zpow_leading_le_rounded h
      (context.tiny_le_greatest.trans hfirst.le)
    have hpower : (10 : ℚ) ^ (context.greatest + 1) ≤ 10 ^ leading coefficient exponent :=
      zpow_le_zpow_right₀ (by norm_num) hfirst
    exact absurd (hpower.trans hrounded) (not_le.mpr hsmall)
  have hlast : max exponent (context.lastExponent coefficient exponent) ≤ context.greatest := by
    refine max_le (le_trans ?_ hfirst) (context.lastExponent_le_greatest hfirst)
    unfold leading
    omega
  refine ⟨_, _, ?_, context.magnitude_rounded_last exponent⟩
  unfold round
  rw [if_neg h, if_neg (not_lt.mpr hfirst)]
  dsimp only
  refine if_neg (not_lt.mpr ?_)
  rw [← context.magnitude_rounded_last] at hsmall
  generalize (nearestEven (magnitude coefficient
    (exponent - max exponent (context.lastExponent coefficient exponent)))).toNat = result at *
  rcases Nat.eq_zero_or_pos result with rfl | hpos
  · unfold leading
    simpa using hlast
  · rw [← not_le, zpow_le_magnitude_iff hpos.ne'] at hsmall
    omega

theorem abs_rounded_sub_le (coefficient : Nat) (exponent : Int) :
    |context.rounded coefficient exponent - magnitude coefficient exponent| ≤
      10 ^ context.lastExponent coefficient exponent / 2 := by
  unfold rounded
  generalize context.lastExponent coefficient exponent = last
  have hnear := abs_nearestEven_sub_le (magnitude coefficient (exponent - last))
  have hunit : (0 : ℚ) < 10 ^ last := by positivity
  calc |(nearestEven (magnitude coefficient (exponent - last)) : ℚ) * 10 ^ last -
        magnitude coefficient exponent|
      = |(nearestEven (magnitude coefficient (exponent - last)) : ℚ) -
          magnitude coefficient (exponent - last)| * 10 ^ last := by
        rw [magnitude_eq_sub_mul coefficient exponent last, ← sub_mul, abs_mul,
          abs_of_pos hunit]
    _ ≤ 1 / 2 * 10 ^ last := mul_le_mul_of_nonneg_right hnear hunit.le
    _ = 10 ^ last / 2 := by ring

/-! ## Overflow -/

/-- The smallest magnitude that does not fit: half a unit below the first power that has no
place. -/
def overflowBound : ℚ :=
  (10 ^ context.precision - 1 / 2) * 10 ^ (context.greatest + 1 - context.precision)

theorem overflowBound_eq : context.overflowBound =
    10 ^ (context.greatest + 1) - 10 ^ (context.greatest + 1 - context.precision) / 2 := by
  have hpower : (10 : ℚ) ^ (context.greatest + 1) =
      10 ^ context.precision * 10 ^ (context.greatest + 1 - context.precision) := by
    rw [← zpow_natCast, ← zpow_add₀ (by norm_num), add_sub_cancel]
  rw [hpower, overflowBound]
  ring

theorem overflowBound_le_of_rounded {coefficient : Nat} (h : coefficient ≠ 0) {exponent : Int}
    (hlarge : (10 : ℚ) ^ (context.greatest + 1) ≤ context.rounded coefficient exponent) :
    context.overflowBound ≤ magnitude coefficient exponent := by
  rw [overflowBound_eq]
  rcases lt_or_ge context.greatest (leading coefficient exponent) with hfirst | hfirst
  · have hpower := (zpow_le_magnitude_iff h exponent (context.greatest + 1)).mpr hfirst
    have hunit : (0 : ℚ) < 10 ^ (context.greatest + 1 - context.precision) := by positivity
    linarith
  · have hlast : context.lastExponent coefficient exponent ≤
        context.greatest + 1 - context.precision := by
      have hexponents := context.least_le_greatest
      unfold lastExponent tiny
      omega
    have hunit : (10 : ℚ) ^ context.lastExponent coefficient exponent ≤
        10 ^ (context.greatest + 1 - context.precision) :=
      zpow_le_zpow_right₀ (by norm_num) hlast
    have hnear := (abs_le.mp (context.abs_rounded_sub_le coefficient exponent)).2
    linarith

theorem rounded_of_overflowBound_le {coefficient : Nat} (h : coefficient ≠ 0) {exponent : Int}
    (hlarge : context.overflowBound ≤ magnitude coefficient exponent) :
    (10 : ℚ) ^ (context.greatest + 1) ≤ context.rounded coefficient exponent := by
  have hprecision := context.precision_pos
  have hfirst : context.greatest ≤ leading coefficient exponent := by
    rw [← zpow_le_magnitude_iff h]
    refine le_trans ?_ hlarge
    have hunit : (10 : ℚ) ^ (context.greatest + 1 - context.precision) ≤ 10 ^ context.greatest :=
      zpow_le_zpow_right₀ (by norm_num) (by omega)
    have hpositive : (0 : ℚ) < 10 ^ context.greatest := by positivity
    rw [overflowBound_eq, zpow_add_one₀ (by norm_num)]
    linarith
  rcases eq_or_lt_of_le hfirst with heq | hlt
  · have hlast : context.lastExponent coefficient exponent =
        context.greatest + 1 - context.precision := by
      have hexponents := context.least_le_greatest
      unfold lastExponent tiny
      omega
    have heven : Even (10 ^ context.precision : ℤ) :=
      Even.pow_of_ne_zero (by decide) hprecision.ne'
    have hunit : (0 : ℚ) < 10 ^ (context.greatest + 1 - context.precision) := by positivity
    have hscaled : ((10 ^ context.precision : ℤ) : ℚ) - 1 / 2 ≤ magnitude coefficient
        (exponent - (context.greatest + 1 - context.precision)) := by
      rw [overflowBound, magnitude_eq_sub_mul coefficient exponent
        (context.greatest + 1 - context.precision), mul_le_mul_iff_of_pos_right hunit] at hlarge
      exact_mod_cast hlarge
    have hnearest : ((10 ^ context.precision : ℤ) : ℚ) ≤ nearestEven (magnitude coefficient
        (exponent - (context.greatest + 1 - context.precision))) :=
      Int.cast_le.mpr ((even_le_nearestEven_iff heven).mpr hscaled)
    have hpower : (10 : ℚ) ^ (context.greatest + 1) = ((10 ^ context.precision : ℤ) : ℚ) *
        10 ^ (context.greatest + 1 - context.precision) := by
      push_cast
      rw [← zpow_natCast, ← zpow_add₀ (by norm_num), add_sub_cancel]
    rw [rounded, hlast, hpower, mul_le_mul_iff_of_pos_right hunit]
    exact hnearest
  · refine le_trans (zpow_le_zpow_right₀ (by norm_num) hlt)
      (context.zpow_leading_le_rounded h (context.tiny_le_greatest.trans hfirst))

/-- A product overflows from the bound on. -/
theorem zpow_le_rounded_iff {coefficient : Nat} (h : coefficient ≠ 0) {exponent : Int} :
    (10 : ℚ) ^ (context.greatest + 1) ≤ context.rounded coefficient exponent ↔
      context.overflowBound ≤ magnitude coefficient exponent :=
  ⟨context.overflowBound_le_of_rounded h, context.rounded_of_overflowBound_le h⟩

/-! ## Whole numbers -/

/-- A small whole number is the rounded value of what is within half a unit from it. -/
theorem rounded_eq_natCast_iff {coefficient : Nat} (h : coefficient ≠ 0) {exponent : Int}
    {whole : Nat} (hsmall : 2 * whole < 10 ^ (context.precision - 1)) (htiny : context.tiny < 0) :
    context.rounded coefficient exponent = whole ↔
      2 * |magnitude coefficient exponent - whole| ≤
        10 ^ context.lastExponent coefficient exponent := by
  constructor
  · intro hrounded
    have hnear := context.abs_rounded_sub_le coefficient exponent
    rw [hrounded, abs_sub_comm] at hnear
    linarith
  · intro hnear
    rcases lt_or_ge (context.lastExponent coefficient exponent) 0 with hlast | hlast
    · unfold rounded
      generalize context.lastExponent coefficient exponent = last at *
      obtain ⟨shift, hshift⟩ := Int.eq_ofNat_of_zero_le (neg_nonneg.mpr hlast.le)
      have hunit : (0 : ℚ) < 10 ^ last := by positivity
      have heven : Even (whole * 10 ^ shift : ℤ) :=
        (Even.pow_of_ne_zero (by decide) (by omega)).mul_left _
      have hwhole : ((whole * 10 ^ shift : ℤ) : ℚ) * 10 ^ last = whole := by
        push_cast
        rw [mul_assoc, ← zpow_natCast, ← hshift, ← zpow_add₀ (by norm_num), neg_add_cancel,
          zpow_zero, mul_one]
      rw [nearestEven_of_even heven, hwhole]
      rw [magnitude_eq_sub_mul coefficient exponent last, ← hwhole, ← sub_mul, abs_mul,
        abs_of_pos hunit, ← mul_assoc] at hnear
      have hhalf := (mul_le_iff_le_one_left hunit).mp hnear
      linarith
    · -- A number whose last digit is not behind the point is too large to be near.
      exfalso
      have hprecision := context.precision_pos
      have hleading : leading coefficient exponent =
          (context.precision - 1 : Nat) + context.lastExponent coefficient exponent := by
        unfold lastExponent at hlast ⊢
        omega
      have hfirst := (zpow_le_magnitude_iff h exponent _).mpr
        (le_refl (leading coefficient exponent))
      rw [hleading, zpow_add₀ (by norm_num), zpow_natCast] at hfirst
      have hunit : (1 : ℚ) ≤ 10 ^ context.lastExponent coefficient exponent :=
        one_le_zpow₀ (by norm_num) hlast
      have hpower : ((2 * whole + 1 : Nat) : ℚ) ≤ 10 ^ (context.precision - 1) := by
        exact_mod_cast hsmall
      have hproduct : (2 * whole + 1 : ℚ) * 10 ^ context.lastExponent coefficient exponent ≤
          10 ^ (context.precision - 1) * 10 ^ context.lastExponent coefficient exponent := by
        refine mul_le_mul_of_nonneg_right ?_ (by linarith)
        exact_mod_cast hpower
      have hwhole : (whole : ℚ) ≤ whole * 10 ^ context.lastExponent coefficient exponent :=
        le_mul_of_one_le_right (Nat.cast_nonneg whole) hunit
      have hbelow := (abs_le.mp (show |magnitude coefficient exponent - whole| ≤
        10 ^ context.lastExponent coefficient exponent / 2 by linarith)).2
      linarith

end DecimalContext

end CartoSentry.Foundation
