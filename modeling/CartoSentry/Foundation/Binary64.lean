import Mathlib.Algebra.Order.Floor.Ring
import Mathlib.Data.Int.Log
import Mathlib.Data.Rat.Floor
import Mathlib.Tactic.FieldSimp
import Mathlib.Tactic.Linarith
import Mathlib.Tactic.Positivity

set_option autoImplicit false

/-!
# Nearest integers and nearest doubles

Rounding a rational to the nearest integer and to the nearest IEEE 754 double of
53 significant bits, the even one of two.  Exponents have a lower bound and no upper
one: a rational that overflows has no double and is not rounded here.
-/

namespace CartoSentry.Foundation

/-- The nearest integer, the even one of two. -/
def nearestEven (value : ℚ) : ℤ :=
  if value - ⌊value⌋ < 1 / 2 then ⌊value⌋
  else if 1 / 2 < value - ⌊value⌋ then ⌊value⌋ + 1
  else if Even ⌊value⌋ then ⌊value⌋ else ⌊value⌋ + 1

theorem nearestEven_intCast (unit : ℤ) : nearestEven unit = unit := by
  rw [nearestEven, Int.floor_intCast, if_pos (by norm_num)]

theorem nearestEven_neg (value : ℚ) : nearestEven (-value) = -nearestEven value := by
  by_cases hinteger : value = ⌊value⌋
  · rw [hinteger, ← Int.cast_neg, nearestEven_intCast, nearestEven_intCast]
  · have hlower : (⌊value⌋ : ℚ) < value := lt_of_le_of_ne (Int.floor_le value) (Ne.symm hinteger)
    have hupper := Int.lt_floor_add_one value
    have hfloor : ⌊-value⌋ = -⌊value⌋ - 1 := by
      rw [Int.floor_eq_iff]
      push_cast
      constructor <;> linarith
    have heven : Even (-⌊value⌋ - 1) ↔ ¬ Even ⌊value⌋ := by
      rw [Int.even_sub_one, even_neg]
    unfold nearestEven
    rw [hfloor]
    push_cast
    split_ifs
    all_goals first | linarith | tauto

theorem abs_nearestEven_sub_le (value : ℚ) : |(nearestEven value : ℚ) - value| ≤ 1 / 2 := by
  have hlower := Int.floor_le value
  have hupper := Int.lt_floor_add_one value
  rw [abs_le, nearestEven]
  split_ifs with hbelow habove heven
  · constructor <;> linarith
  · push_cast
    constructor <;> linarith
  · constructor <;> linarith
  · push_cast
    constructor <;> linarith

/-- The distance of the doubles next to a rational. -/
def ulp (value : ℚ) : ℚ :=
  2 ^ (max (Int.log 2 |value|) (-1022) - 52)

/-- The nearest double. -/
def nearestDouble (value : ℚ) : ℚ :=
  nearestEven (value / ulp value) * ulp value

theorem ulp_pos (value : ℚ) : 0 < ulp value := by
  exact zpow_pos (by norm_num) _

/-- A double is off by at most half of its ulp. -/
theorem abs_nearestDouble_sub_le (value : ℚ) : |nearestDouble value - value| ≤ ulp value / 2 := by
  have hulp := ulp_pos value
  have hunits := abs_nearestEven_sub_le (value / ulp value)
  calc |nearestDouble value - value|
      = |((nearestEven (value / ulp value) : ℚ) - value / ulp value) * ulp value| := by
        rw [nearestDouble, sub_mul, div_mul_cancel₀ _ hulp.ne']
    _ = |(nearestEven (value / ulp value) : ℚ) - value / ulp value| * ulp value := by
        rw [abs_mul, abs_of_pos hulp]
    _ ≤ 1 / 2 * ulp value := mul_le_mul_of_nonneg_right hunits hulp.le
    _ = ulp value / 2 := by ring

/-- A natural number of 53 bits is a double. -/
theorem nearestDouble_natCast {count : Nat} (h : count < 2 ^ 53) :
    nearestDouble count = count := by
  have hlog : Int.log 2 |(count : ℚ)| ≤ 52 := by
    rw [Nat.abs_cast, Int.log_natCast]
    exact_mod_cast Nat.lt_succ_iff.mp (Nat.log_lt_of_lt_pow' (by norm_num) h)
  obtain ⟨places, hplaces⟩ :=
    Int.exists_eq_neg_ofNat (a := max (Int.log 2 |(count : ℚ)|) (-1022) - 52) (by omega)
  have hunits : (count : ℚ) / ulp count = ((count * 2 ^ places : ℕ) : ℤ) := by
    rw [ulp, hplaces, zpow_neg, div_inv_eq_mul, zpow_natCast]
    push_cast
    rfl
  rw [nearestDouble, hunits, nearestEven_intCast, ← hunits,
    div_mul_cancel₀ _ (ulp_pos _).ne']

/-- Below a power of two the doubles are at most so far apart. -/
theorem ulp_le {value : ℚ} {exponent : ℤ} (hlow : -1021 ≤ exponent) (hzero : value ≠ 0)
    (h : |value| < 2 ^ exponent) : ulp value ≤ 2 ^ (exponent - 53) := by
  have hlog : Int.log 2 |value| < exponent :=
    (Int.lt_zpow_iff_log_lt (by norm_num) (abs_pos.mpr hzero)).mp (by exact_mod_cast h)
  unfold ulp
  apply zpow_le_zpow_right₀ (by norm_num)
  omega

end CartoSentry.Foundation
