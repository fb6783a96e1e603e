import Mathlib.Algebra.Order.Field.Basic
import Mathlib.Tactic.Linarith
import Mathlib.Tactic.Positivity
import CartoSentry.RoadBins.Contracts

set_option autoImplicit false

/-!
# Road bins: rounding

`rounded` keeps order and signs, and leaves what is rounded already.
-/

namespace CartoSentry.RoadBins

theorem roundAway_intCast (value : Int) : roundAway (value : ℚ) = value := by
  rw [roundAway]
  split_ifs with hsign
  · rw [Int.floor_eq_iff]
    constructor
    · linarith
    · linarith
  · rw [Int.ceil_eq_iff]
    constructor
    · linarith
    · linarith

theorem roundAway_nonneg {value : ℚ} (h : 0 ≤ value) : 0 ≤ roundAway value := by
  rw [roundAway, if_pos h]
  exact Int.floor_nonneg.mpr (by linarith)

theorem roundAway_nonpos {value : ℚ} (h : value < 0) : roundAway value ≤ 0 := by
  rw [roundAway, if_neg (not_le.mpr h)]
  apply Int.ceil_le.mpr
  push_cast
  linarith

theorem roundAway_mono {left right : ℚ} (h : left ≤ right) : roundAway left ≤ roundAway right := by
  by_cases hleft : 0 ≤ left
  · rw [roundAway, roundAway, if_pos hleft, if_pos (hleft.trans h)]
    exact Int.floor_mono (by linarith)
  · by_cases hright : 0 ≤ right
    · exact (roundAway_nonpos (not_le.mp hleft)).trans (roundAway_nonneg hright)
    · rw [roundAway, roundAway, if_neg hleft, if_neg hright]
      exact Int.ceil_mono (by linarith)

section Places

variable (decimalPlaces : Int)

theorem scale_pos : (0 : ℚ) < 10 ^ decimalPlaces.toNat := by
  positivity

theorem rounded_mono {left right : ℚ} (h : left ≤ right) :
    rounded left decimalPlaces ≤ rounded right decimalPlaces := by
  have hscale := scale_pos decimalPlaces
  rw [rounded, rounded]
  apply (div_le_div_iff_of_pos_right hscale).mpr
  exact_mod_cast roundAway_mono (mul_le_mul_of_nonneg_right h hscale.le)

@[simp]
theorem rounded_zero : rounded 0 decimalPlaces = 0 := by
  have h := roundAway_intCast 0
  rw [Int.cast_zero] at h
  rw [rounded, zero_mul, h, Int.cast_zero, zero_div]

theorem rounded_nonneg {value : ℚ} (h : 0 ≤ value) : 0 ≤ rounded value decimalPlaces := by
  rw [← rounded_zero decimalPlaces]
  exact rounded_mono decimalPlaces h

/-- What a rounded value is at the scale of its places. -/
theorem rounded_mul_scale (value : ℚ) :
    rounded value decimalPlaces * 10 ^ decimalPlaces.toNat =
      roundAway (value * 10 ^ decimalPlaces.toNat) := by
  rw [rounded]
  exact div_mul_cancel₀ _ (scale_pos decimalPlaces).ne'

end Places

end CartoSentry.RoadBins
