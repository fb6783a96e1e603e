import Mathlib.Algebra.BigOperators.Group.List.Lemmas
import Mathlib.Algebra.Order.BigOperators.Group.List
import Mathlib.Algebra.Order.Field.Basic
import Mathlib.Tactic.FieldSimp
import Mathlib.Tactic.Ring

set_option autoImplicit false

/-!
# Foundation: mean and variance of a list

The mean squared deviation from the mean, and how it comes from the sums of the values and of
their squares.
-/

namespace CartoSentry.Foundation

variable {K : Type} [Field K]

def mean (values : List K) : K :=
  values.sum / values.length

/-- The mean of the squared deviations from the mean. -/
def variance (values : List K) : K :=
  (values.map fun value => (value - mean values) ^ 2).sum / values.length

/-- The sum of squared deviations from any center. -/
theorem sum_sub_sq (values : List K) (center : K) :
    (values.map fun value => (value - center) ^ 2).sum =
      (values.map fun value => value * value).sum - 2 * center * values.sum +
        values.length * center ^ 2 := by
  induction values with
  | nil => simp
  | cons value rest ih =>
    rw [List.map_cons, List.sum_cons, ih, List.map_cons, List.sum_cons, List.sum_cons,
      List.length_cons, Nat.cast_succ]
    ring

section Ordered

variable [LinearOrder K] [IsStrictOrderedRing K]

/-- The variance is the mean square less the square of the mean. -/
theorem variance_eq {values : List K} (h : values ≠ []) :
    variance values = (values.map fun value => value * value).sum * (1 / values.length) -
      (values.sum * (1 / values.length)) ^ 2 := by
  have hlength : (values.length : K) ≠ 0 :=
    Nat.cast_ne_zero.mpr (mt List.length_eq_zero_iff.mp h)
  unfold variance
  rw [sum_sub_sq]
  unfold mean
  field_simp
  ring

theorem variance_nonneg (values : List K) : 0 ≤ variance values := by
  refine div_nonneg (List.sum_nonneg fun square hsquare => ?_) (Nat.cast_nonneg _)
  obtain ⟨value, -, rfl⟩ := List.mem_map.mp hsquare
  exact sq_nonneg _

end Ordered

end CartoSentry.Foundation
