import Mathlib.Algebra.Order.Floor.Ring
import Mathlib.Algebra.Order.Group.MinMax
import Mathlib.Data.Rat.Floor
import Mathlib.Tactic.Linarith
import Mathlib.Tactic.Positivity
import CartoSentry.Matching.Contracts

set_option autoImplicit false

/-!
# Road matching: decimal rounding

`checked_round`: rounding to a number of decimal places, half to even, where a
value counts as a half within a tolerance that grows with its magnitude.  The
tolerance makes the rounding wider at halves but keeps it monotone.
-/

namespace CartoSentry.Matching

/-- Eight times `std::numeric_limits<double>::epsilon()`. -/
def eightEpsilon : ℚ := 8 / 2 ^ 52

/-- `half_tie_tolerance`. -/
def halfTieTolerance (scaled : ℚ) : ℚ :=
  min (1 / 4) (eightEpsilon * max 1 |scaled|)

/-- The value is taken for a half. -/
def isTie (scaled : ℚ) : Prop :=
  |scaled - ⌊scaled⌋ - 1 / 2| ≤ halfTieTolerance scaled

instance (scaled : ℚ) : Decidable (isTie scaled) :=
  inferInstanceAs (Decidable (_ ≤ _))

/-- The rounded integer of a scaled value. -/
def roundScaled (scaled : ℚ) : ℤ :=
  if isTie scaled then (if Even ⌊scaled⌋ then ⌊scaled⌋ else ⌊scaled⌋ + 1)
  else ⌊scaled + 1 / 2⌋

/-- `checked_round` on places it accepts. -/
def roundTo (value : ℚ) (places : Nat) : ℚ :=
  roundScaled (value * 10 ^ places) / 10 ^ places

/-- `checked_round`. -/
def checkedRound (value : ℚ) (decimalPlaces : Int) : Except InvalidArgument ℚ :=
  if decimalPlaces < 0 ∨ 15 < decimalPlaces then
    .error ⟨"native map rounding input is invalid"⟩
  else .ok (roundTo value decimalPlaces.toNat)

theorem checkedRound_of_valid {value : ℚ} {decimalPlaces : Int} (h : 0 ≤ decimalPlaces)
    (h' : decimalPlaces ≤ 15) :
    checkedRound value decimalPlaces = .ok (roundTo value decimalPlaces.toNat) := by
  apply if_neg
  omega

/-! ## The tolerance -/

theorem halfTieTolerance_pos (scaled : ℚ) : 0 < halfTieTolerance scaled := by
  unfold halfTieTolerance eightEpsilon
  positivity

theorem halfTieTolerance_le (scaled : ℚ) : halfTieTolerance scaled ≤ 1 / 4 :=
  min_le_left _ _

/-- The tolerance changes by at most `eightEpsilon` for each unit. -/
theorem halfTieTolerance_sub_le (left right : ℚ) :
    |halfTieTolerance left - halfTieTolerance right| ≤ eightEpsilon * |left - right| := by
  have hpos : (0 : ℚ) ≤ eightEpsilon := by unfold eightEpsilon; positivity
  have hmin := abs_min_sub_min_le_max (1 / 4) (eightEpsilon * max 1 |left|) (1 / 4)
    (eightEpsilon * max 1 |right|)
  have hmax : abs (max 1 |left| - max 1 |right|) ≤ |left - right| := by
    have hparts := abs_max_sub_max_le_max 1 |left| 1 |right|
    rw [sub_self, abs_zero] at hparts
    exact hparts.trans (max_le (abs_nonneg _) (abs_abs_sub_abs_le left right))
  unfold halfTieTolerance
  apply hmin.trans
  rw [sub_self, abs_zero, ← mul_sub, abs_mul, abs_of_nonneg hpos]
  exact max_le (by positivity) (mul_le_mul_of_nonneg_left hmax hpos)

/-! ## Rounding within one unit -/

theorem floor_add_half (scaled : ℚ) :
    ⌊scaled + 1 / 2⌋ = if scaled - ⌊scaled⌋ < 1 / 2 then ⌊scaled⌋ else ⌊scaled⌋ + 1 := by
  have hlower := Int.floor_le scaled
  have hupper := Int.lt_floor_add_one scaled
  rw [Int.floor_eq_iff]
  split_ifs with hhalf
  · constructor <;> linarith
  · push_cast
    constructor <;> linarith

/-- Rounding yields the unit below or above. -/
theorem roundScaled_eq_or (scaled : ℚ) :
    roundScaled scaled = ⌊scaled⌋ ∨ roundScaled scaled = ⌊scaled⌋ + 1 := by
  unfold roundScaled
  rw [floor_add_half]
  split_ifs <;> simp

theorem floor_le_roundScaled (scaled : ℚ) : ⌊scaled⌋ ≤ roundScaled scaled := by
  rcases roundScaled_eq_or scaled with h | h <;> omega

theorem roundScaled_le_floor_add_one (scaled : ℚ) : roundScaled scaled ≤ ⌊scaled⌋ + 1 := by
  rcases roundScaled_eq_or scaled with h | h <;> omega

/-- Why a value is rounded up: it is a tie over an odd unit, or beyond the ties. -/
theorem rounds_up {scaled : ℚ} (h : roundScaled scaled = ⌊scaled⌋ + 1) :
    isTie scaled ∧ ¬ Even ⌊scaled⌋ ∨
      1 / 2 + halfTieTolerance scaled < scaled - ⌊scaled⌋ := by
  unfold roundScaled at h
  rw [floor_add_half] at h
  by_cases htie : isTie scaled
  · rw [if_pos htie] at h
    refine Or.inl ⟨htie, fun heven => ?_⟩
    rw [if_pos heven] at h
    omega
  · rw [if_neg htie] at h
    have hbeyond := not_le.mp htie
    by_cases hhalf : scaled - ⌊scaled⌋ < 1 / 2
    · rw [if_pos hhalf] at h
      omega
    · rw [abs_of_nonneg (by linarith)] at hbeyond
      exact Or.inr (by linarith)

/-- Why a value is rounded down. -/
theorem rounds_down {scaled : ℚ} (h : roundScaled scaled = ⌊scaled⌋) :
    isTie scaled ∧ Even ⌊scaled⌋ ∨
      scaled - ⌊scaled⌋ < 1 / 2 - halfTieTolerance scaled := by
  unfold roundScaled at h
  rw [floor_add_half] at h
  by_cases htie : isTie scaled
  · rw [if_pos htie] at h
    refine Or.inl ⟨htie, ?_⟩
    by_contra hodd
    rw [if_neg hodd] at h
    omega
  · rw [if_neg htie] at h
    have hbeyond := not_le.mp htie
    by_cases hhalf : scaled - ⌊scaled⌋ < 1 / 2
    · rw [abs_of_neg (by linarith)] at hbeyond
      exact Or.inr (by linarith)
    · rw [if_neg hhalf] at h
      omega

/-! ## Monotonicity -/

/-- Within one unit a greater value is not rounded down where a smaller one is
rounded up: the edges of the ties move slower than the value. -/
theorem not_up_down {left right : ℚ} (hle : left ≤ right) (hunit : ⌊left⌋ = ⌊right⌋)
    (hup : roundScaled left = ⌊left⌋ + 1) (hdown : roundScaled right = ⌊right⌋) : False := by
  have hmove := halfTieTolerance_sub_le left right
  rw [abs_sub_comm left right, abs_of_nonneg (sub_nonneg.mpr hle)] at hmove
  have hslow : eightEpsilon * (right - left) ≤ (right - left) / 2 := by
    have hhalf : eightEpsilon ≤ 1 / 2 := by unfold eightEpsilon; norm_num
    have hscaled := mul_le_mul_of_nonneg_right hhalf (sub_nonneg.mpr hle)
    linarith
  obtain ⟨hbelow, habove⟩ := abs_le.mp hmove
  have htiePos := halfTieTolerance_pos right
  rw [hunit] at hup
  rcases rounds_up (show roundScaled left = ⌊left⌋ + 1 by rw [hup, hunit]) with ⟨htie, hodd⟩ | hbeyond
  · rcases rounds_down hdown with ⟨-, heven⟩ | hbefore
    · exact hodd (by rw [hunit]; exact heven)
    · have hnear := (abs_le.mp htie).1
      rw [hunit] at hnear
      linarith
  · rw [hunit] at hbeyond
    rcases rounds_down hdown with ⟨htie, -⟩ | hbefore
    · have hnear := (abs_le.mp htie).2
      linarith
    · have hleft := halfTieTolerance_pos left
      linarith

theorem roundScaled_mono {left right : ℚ} (hle : left ≤ right) :
    roundScaled left ≤ roundScaled right := by
  rcases (Int.floor_mono hle).lt_or_eq with hlt | hunit
  · calc roundScaled left ≤ ⌊left⌋ + 1 := roundScaled_le_floor_add_one left
      _ ≤ ⌊right⌋ := hlt
      _ ≤ roundScaled right := floor_le_roundScaled right
  · rcases roundScaled_eq_or left with hdown | hup
    · rw [hdown, hunit]
      exact floor_le_roundScaled right
    · rcases roundScaled_eq_or right with hdown | hup'
      · exact (not_up_down hle hunit hup hdown).elim
      · rw [hup, hup', hunit]

/-- Rounding to decimal places is monotone. -/
theorem roundTo_mono (places : Nat) {left right : ℚ} (hle : left ≤ right) :
    roundTo left places ≤ roundTo right places := by
  have hpower : (0 : ℚ) ≤ 10 ^ places := by positivity
  have hscaled := roundScaled_mono (mul_le_mul_of_nonneg_right hle hpower)
  exact div_le_div_of_nonneg_right (by exact_mod_cast hscaled) hpower

/-- A whole number is its own rounding. -/
theorem roundScaled_intCast (unit : ℤ) : roundScaled unit = unit := by
  have hnot : ¬ isTie unit := by
    unfold isTie
    have hle := halfTieTolerance_le (unit : ℚ)
    rw [Int.floor_intCast, sub_self, zero_sub, abs_neg, not_le]
    norm_num
    linarith
  rw [roundScaled, if_neg hnot, floor_add_half, Int.floor_intCast, sub_self]
  norm_num

theorem roundTo_zero (places : Nat) : roundTo 0 places = 0 := by
  have h := roundScaled_intCast 0
  simp only [Int.cast_zero] at h
  simp [roundTo, h]

end CartoSentry.Matching
