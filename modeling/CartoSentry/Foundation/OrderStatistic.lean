import Mathlib.Data.List.Sort
import Mathlib.Order.Lattice

set_option autoImplicit false

/-!
# Order statistics

The values of a list by their place in the ascending order, and what a count of the values
below a bound says about them.
-/

namespace CartoSentry.Foundation

variable {A I : Type} [LinearOrder A] [LinearOrder I] {values : List A}

/-- The value with this many values in front of it in the ascending order. -/
def orderStatistic (values : List A) (place : Nat) : Option A :=
  (values.insertionSort (· ≤ ·))[place]?

theorem exists_orderStatistic {place : Nat} (h : place < values.length) :
    ∃ value, orderStatistic values place = some value := by
  refine ⟨_, List.getElem?_eq_getElem ?_⟩
  rw [List.length_insertionSort]
  exact h

theorem mem_of_orderStatistic {place : Nat} {value : A}
    (h : orderStatistic values place = some value) : value ∈ values :=
  (List.perm_insertionSort _ values).subset (List.mem_of_getElem? h)

/-- The order in which the values come does not matter. -/
theorem orderStatistic_perm {other : List A} (h : other.Perm values) (place : Nat) :
    orderStatistic other place = orderStatistic values place := by
  have hsorted : other.insertionSort (· ≤ ·) = values.insertionSort (· ≤ ·) :=
    ((List.perm_insertionSort _ other).trans (h.trans (List.perm_insertionSort _ values).symm)
      ).eq_of_pairwise' (List.pairwise_insertionSort _ other) (List.pairwise_insertionSort _ values)
  rw [orderStatistic, hsorted]
  rfl

/-- A later place has a value that is not less. -/
theorem orderStatistic_mono {place later : Nat} {value next : A} (hle : place ≤ later)
    (h : orderStatistic values place = some value)
    (hnext : orderStatistic values later = some next) : value ≤ next := by
  obtain ⟨hplace, rfl⟩ := List.getElem?_eq_some_iff.mp h
  obtain ⟨hlater, rfl⟩ := List.getElem?_eq_some_iff.mp hnext
  rcases hle.eq_or_lt with rfl | hlt
  · exact le_rfl
  · exact List.pairwise_iff_getElem.mp (List.pairwise_insertionSort (· ≤ ·) values) _ _ hplace
      hlater hlt

/-- More values than stand in front of a place are below a bound just when the value at the
place is. -/
theorem lt_countP_iff {f : A → I} (hf : Monotone f) {place : Nat} {value : A}
    (h : orderStatistic values place = some value) (bound : I) :
    place < values.countP (fun item => f item ≤ bound) ↔ f value ≤ bound := by
  have hsorted := List.pairwise_insertionSort (· ≤ ·) values
  obtain ⟨hplace, hvalue⟩ := List.getElem?_eq_some_iff.mp h
  rw [← (List.perm_insertionSort (· ≤ ·) values).countP_eq]
  generalize values.insertionSort (· ≤ ·) = sorted at hsorted hplace hvalue
  have hsplit : sorted = sorted.take place ++ value :: sorted.drop (place + 1) := by
    rw [← hvalue, List.getElem_cons_drop, List.take_append_drop]
  have htake : (sorted.take place).length = place := List.length_take_of_le hplace.le
  rw [hsplit] at hsorted
  obtain ⟨-, hback, hfront⟩ := List.pairwise_append.mp hsorted
  rw [hsplit, List.countP_append]
  constructor
  · intro hcount
    by_contra habove
    have hnone : (value :: sorted.drop (place + 1)).countP (fun item => f item ≤ bound) = 0 := by
      refine List.countP_eq_zero.mpr fun item hitem hbelow => habove ?_
      have hle : value ≤ item := by
        rcases List.mem_cons.mp hitem with rfl | hmem
        · exact le_rfl
        · exact (List.pairwise_cons.mp hback).1 item hmem
      exact (hf hle).trans (of_decide_eq_true hbelow)
    have hlength := List.countP_le_length (p := fun item => decide (f item ≤ bound))
      (l := sorted.take place)
    omega
  · intro hbelow
    have hall : (sorted.take place).countP (fun item => f item ≤ bound) =
        (sorted.take place).length := by
      refine List.countP_eq_length.mpr fun item hitem => decide_eq_true ?_
      exact (hf (hfront item hitem value List.mem_cons_self)).trans hbelow
    have hown : 0 < (value :: sorted.drop (place + 1)).countP (fun item => f item ≤ bound) :=
      List.countP_pos_iff.mpr ⟨value, List.mem_cons_self, decide_eq_true hbelow⟩
    omega

/-- One more value of the bound is one more step of the count. -/
theorem countP_lt_succ {B : Type} (f : B → Nat) (items : List B) (bound : Nat) :
    items.countP (fun item => f item < bound + 1) =
      items.countP (fun item => f item < bound) + items.countP (fun item => f item = bound) := by
  induction items with
  | nil => rfl
  | cons item items ih =>
    simp only [List.countP_cons, ih, decide_eq_true_eq]
    split_ifs <;> omega

end CartoSentry.Foundation
