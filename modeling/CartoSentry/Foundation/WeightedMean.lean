import Mathlib.Algebra.BigOperators.Group.List.Basic
import Mathlib.Algebra.Order.Ring.Rat
import Mathlib.Tactic.FieldSimp
import Mathlib.Tactic.Linarith
import Mathlib.Tactic.Ring

set_option autoImplicit false

/-!
# Weighted means

Sums that a loop keeps, means over the items of a list, and when two weightings of the items
give the same mean.
-/

namespace CartoSentry.Foundation

variable {A : Type}

/-- A loop whose turns each add a part to a reading adds up the parts. -/
theorem foldl_sum {S M : Type} [AddMonoid M] {step : S → A → S} {read : S → M} {part : A → M}
    (h : ∀ state item, read (step state item) = read state + part item) (items : List A)
    (state : S) : read (items.foldl step state) = read state + (items.map part).sum := by
  induction items generalizing state with
  | nil => exact (add_zero _).symm
  | cons item rest ih => rw [List.foldl_cons, ih, h, List.map_cons, List.sum_cons, add_assoc]

/-- Items that are left out add nothing where their part is zero. -/
theorem sum_filter_eq {M : Type} [AddMonoid M] {keep : A → Bool} {part other : A → M}
    {items : List A} (hkept : ∀ a ∈ items, keep a = true → part a = other a)
    (hdropped : ∀ a ∈ items, keep a = false → other a = 0) :
    ((items.filter keep).map part).sum = (items.map other).sum := by
  induction items with
  | nil => rfl
  | cons a rest ih =>
    obtain ⟨hkeptFirst, hkept⟩ := List.forall_mem_cons.mp hkept
    obtain ⟨hdroppedFirst, hdropped⟩ := List.forall_mem_cons.mp hdropped
    have hrest := ih hkept hdropped
    cases hkeep : keep a with
    | true =>
      rw [List.filter_cons_of_pos hkeep, List.map_cons, List.map_cons, List.sum_cons, List.sum_cons,
        hrest, hkeptFirst hkeep]
    | false =>
      rw [List.filter_cons_of_neg (by rw [hkeep]; exact Bool.false_ne_true), hrest, List.map_cons,
        List.sum_cons, hdroppedFirst hkeep, zero_add]

variable (value weight other : A → ℚ) (items : List A)

/-- The mean of a value over items, each with its weight. -/
def weightedMean : ℚ :=
  (items.map fun a => value a * weight a).sum / (items.map weight).sum

/-- Summed over the pairs of items, how far their values differ times how far their shares of
the two weightings do. -/
def pairBalance : ℚ :=
  (items.map fun a => (items.map fun b =>
    (value a - value b) * (weight a * other b - weight b * other a)).sum).sum

theorem pairBalance_eq :
    pairBalance value weight other items =
      2 * ((items.map fun a => value a * weight a).sum * (items.map other).sum -
        (items.map fun a => value a * other a).sum * (items.map weight).sum) := by
  have hinner (a : A) (rest : List A) :
      (rest.map fun b => (value a - value b) * (weight a * other b - weight b * other a)).sum =
        value a * weight a * (rest.map other).sum - value a * other a * (rest.map weight).sum -
          weight a * (rest.map fun b => value b * other b).sum +
            other a * (rest.map fun b => value b * weight b).sum := by
    induction rest with
    | nil => simp
    | cons b rest ih =>
      simp only [List.map_cons, List.sum_cons, ih]
      ring
  have houter (others weights valuesOther valuesWeight : ℚ) (rest : List A) :
      (rest.map fun a => value a * weight a * others - value a * other a * weights -
          weight a * valuesOther + other a * valuesWeight).sum =
        (rest.map fun a => value a * weight a).sum * others -
          (rest.map fun a => value a * other a).sum * weights -
            (rest.map weight).sum * valuesOther + (rest.map other).sum * valuesWeight := by
    induction rest with
    | nil => simp
    | cons a rest ih =>
      simp only [List.map_cons, List.sum_cons, ih]
      ring
  rw [pairBalance, List.map_congr_left fun a _ => hinner a items, houter]
  ring

variable {value weight other items}

/-- Two weightings give the same mean exactly when the pairs of items balance. -/
theorem weightedMean_eq_iff (hweight : 0 < (items.map weight).sum)
    (hother : 0 < (items.map other).sum) :
    weightedMean value weight items = weightedMean value other items ↔
      pairBalance value weight other items = 0 := by
  rw [weightedMean, weightedMean, div_eq_div_iff hweight.ne' hother.ne', pairBalance_eq]
  constructor
  · intro heq
    rw [heq, sub_self, mul_zero]
  · intro hzero
    linarith

end CartoSentry.Foundation
