import CartoSentry.Foundation.Binary64
import CartoSentry.Matching.Rounding

set_option autoImplicit false

/-!
# Road matching: Python's rounding

Python's `round` takes the nearest decimal of the exact value, the even one of two.
`checked_round` takes every value near a half for a half, so the two differ on values
that are near a half without being one, where the even unit is not the nearest.
-/

namespace CartoSentry.Matching

open Foundation (nearestEven nearestEven_intCast nearestDouble ulp ulp_le
  abs_nearestDouble_sub_le)

/-- Python's `round(value, places)`. -/
def pythonRound (value : ℚ) (places : Nat) : ℚ :=
  nearestEven (value * 10 ^ places) / 10 ^ places

/-- The scaled value is taken for a half without being one, and the even unit is not
the nearest. -/
def MisjudgedTie (scaled : ℚ) : Prop :=
  isTie scaled ∧ scaled - ⌊scaled⌋ ≠ 1 / 2 ∧ (Even ⌊scaled⌋ ↔ 1 / 2 < scaled - ⌊scaled⌋)

instance (scaled : ℚ) : Decidable (MisjudgedTie scaled) :=
  inferInstanceAs (Decidable (_ ∧ _))

theorem nearestEven_of_lt {scaled : ℚ} (h : scaled - ⌊scaled⌋ < 1 / 2) :
    nearestEven scaled = ⌊scaled⌋ :=
  if_pos h

theorem nearestEven_of_gt {scaled : ℚ} (h : 1 / 2 < scaled - ⌊scaled⌋) :
    nearestEven scaled = ⌊scaled⌋ + 1 := by
  rw [nearestEven, if_neg (by linarith), if_pos h]

/-- Where the value is no tie both roundings take the nearest unit. -/
theorem roundScaled_eq_nearestEven_of_not_tie {scaled : ℚ} (htie : ¬ isTie scaled) :
    roundScaled scaled = nearestEven scaled := by
  have hne : scaled - ⌊scaled⌋ ≠ 1 / 2 := by
    intro hhalf
    apply htie
    rw [isTie, hhalf, sub_self, abs_zero]
    exact (halfTieTolerance_pos scaled).le
  rw [roundScaled, if_neg htie, floor_add_half]
  cases lt_or_gt_of_ne hne with
  | inl hbelow => rw [if_pos hbelow, nearestEven_of_lt hbelow]
  | inr habove => rw [if_neg (by linarith), nearestEven_of_gt habove]

/-- The roundings of a scaled value differ exactly on misjudged ties. -/
theorem roundScaled_eq_nearestEven_iff {scaled : ℚ} :
    roundScaled scaled = nearestEven scaled ↔ ¬ MisjudgedTie scaled := by
  by_cases htie : isTie scaled
  · rw [roundScaled, if_pos htie, nearestEven, MisjudgedTie, and_iff_right htie]
    generalize scaled - ⌊scaled⌋ = fraction
    generalize ⌊scaled⌋ = unit
    generalize (1 / 2 : ℚ) = half
    rcases lt_trichotomy fraction half with hbelow | rfl | habove
    · by_cases heven : Even unit
      · simp [heven, hbelow, hbelow.asymm]
      · simp [heven, hbelow, hbelow.asymm, hbelow.ne]
    · simp
    · have hnot : ¬ fraction < half := habove.asymm
      by_cases heven : Even unit
      · simp [heven, habove, habove.ne', hnot]
      · simp [heven, habove, hnot]
  · simp [roundScaled_eq_nearestEven_of_not_tie htie, MisjudgedTie, htie]

/-- `checked_round` and `round` agree on a value exactly where it is no misjudged tie. -/
theorem roundTo_eq_pythonRound_iff {value : ℚ} {places : Nat} :
    roundTo value places = pythonRound value places ↔ ¬ MisjudgedTie (value * 10 ^ places) := by
  have hpower : (10 : ℚ) ^ places ≠ 0 := by positivity
  rw [roundTo, pythonRound, div_left_inj' hpower, Int.cast_inj, roundScaled_eq_nearestEven_iff]

/-- Whole units are their own roundings. -/
theorem roundTo_of_whole {value : ℚ} {places : Nat} {units : ℤ}
    (h : value * 10 ^ places = units) : roundTo value places = value := by
  have hpower : (10 : ℚ) ^ places ≠ 0 := by positivity
  rw [roundTo, h, roundScaled_intCast, ← h, mul_div_cancel_right₀ _ hpower]

theorem not_misjudgedTie_intCast (units : ℤ) : ¬ MisjudgedTie units := by
  rw [← roundScaled_eq_nearestEven_iff, roundScaled_intCast, nearestEven_intCast]

/-- A value that rounding leaves alone is no misjudged tie. -/
theorem not_misjudgedTie_of_roundTo_eq {value : ℚ} {places : Nat}
    (h : roundTo value places = value) : ¬ MisjudgedTie (value * 10 ^ places) := by
  have hpower : (10 : ℚ) ^ places ≠ 0 := by positivity
  rw [← h, roundTo, div_mul_cancel₀ _ hpower]
  exact not_misjudgedTie_intCast _

/-! ## Doubles of small magnitude -/

/-- A value closer to a whole unit than a quarter is no tie. -/
theorem not_misjudgedTie_of_near {scaled : ℚ} {units : ℤ} (h : |scaled - units| < 1 / 4) :
    ¬ MisjudgedTie scaled := by
  intro ⟨htie, _⟩
  have htolerance := (abs_le.mp htie)
  have hquarter := halfTieTolerance_le scaled
  have hlower := Int.floor_le scaled
  have hupper := Int.lt_floor_add_one scaled
  obtain ⟨hleft, hright⟩ := abs_lt.mp h
  have hfloor : ⌊scaled⌋ = units ∨ ⌊scaled⌋ + 1 = units := by
    have hlow : (units : ℚ) - 1 < ⌊scaled⌋ + 1 := by linarith
    have hhigh : (⌊scaled⌋ : ℚ) < units + 1 := by linarith
    have hlow' : units - 1 < ⌊scaled⌋ + 1 := by exact_mod_cast hlow
    have hhigh' : ⌊scaled⌋ < units + 1 := by exact_mod_cast hhigh
    omega
  cases hfloor with
  | inl hunits =>
    rw [hunits] at htolerance
    linarith
  | inr hunits =>
    have hcast : (⌊scaled⌋ : ℚ) = units - 1 := by
      rw [← hunits]
      push_cast
      ring
    rw [hcast] at htolerance
    linarith

/-- The doubles next to decimals of twelve places, in logarithms below `2 ^ 11`. -/
theorem abs_double_sub_le {total : ℚ} (h : |total| < 2 ^ 11) :
    |nearestDouble total - total| ≤ 2 ^ (-43 : ℤ) := by
  by_cases hzero : total = 0
  · rw [hzero]
    simp [nearestDouble, Foundation.nearestEven]
  · have hulp : ulp total ≤ (2 : ℚ) ^ (11 - 53 : ℤ) := by
      apply ulp_le (by norm_num) hzero
      exact_mod_cast h
    calc |nearestDouble total - total| ≤ ulp total / 2 := abs_nearestDouble_sub_le total
      _ ≤ 2 ^ (11 - 53 : ℤ) / 2 := div_le_div_of_nonneg_right hulp (by norm_num)
      _ = 2 ^ (-43 : ℤ) := by norm_num

/-- Two totals below `2 ^ 11` that are the doubles nearest to twelve places have a
difference that both roundings take for the same decimal. -/
theorem separation_agrees_of_small {bestUnits runnerUnits : ℤ}
    (hbest : |(bestUnits : ℚ) / 10 ^ 12| < 2 ^ 11)
    (hrunner : |(runnerUnits : ℚ) / 10 ^ 12| < 2 ^ 11) :
    ¬ MisjudgedTie ((nearestDouble (bestUnits / 10 ^ 12) -
      nearestDouble (runnerUnits / 10 ^ 12)) * 10 ^ 12) := by
  apply @not_misjudgedTie_of_near _ (bestUnits - runnerUnits)
  have hbestError := abs_le.mp (abs_double_sub_le hbest)
  have hrunnerError := abs_le.mp (abs_double_sub_le hrunner)
  have hpower : (2 : ℚ) ^ (-43 : ℤ) = 1 / 8796093022208 := by norm_num
  rw [hpower] at hbestError hrunnerError
  push_cast
  rw [abs_lt]
  constructor <;> linarith

end CartoSentry.Matching
