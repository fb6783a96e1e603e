import Mathlib.Algebra.BigOperators.Fin
import Mathlib.Algebra.Order.BigOperators.Group.Multiset
import Mathlib.Algebra.Order.Group.Nat

set_option autoImplicit false

/-!
# Weights of multisets

The total weight of the items of a multiset, the share of it that falls on one key,
and what replacing one summand of a finite family changes.  A ledger kept beside a
changing collection is right when each of its numbers is such a weight.
-/

namespace CartoSentry.Foundation

universe u v

variable {A : Type u} {K : Type v}

/-- The total weight of the items. -/
def weigh (weight : A → Nat) (items : Multiset A) : Nat :=
  (items.map weight).sum

@[simp] theorem weigh_zero (weight : A → Nat) : weigh weight 0 = 0 :=
  rfl

@[simp] theorem weigh_cons (weight : A → Nat) (item : A) (items : Multiset A) :
    weigh weight (item ::ₘ items) = weight item + weigh weight items := by
  rw [weigh, Multiset.map_cons, Multiset.sum_cons, weigh]

@[simp] theorem weigh_add (weight : A → Nat) (left right : Multiset A) :
    weigh weight (left + right) = weigh weight left + weigh weight right := by
  rw [weigh, Multiset.map_add, Multiset.sum_add, weigh, weigh]

theorem weigh_one (items : Multiset A) : weigh (fun _ => 1) items = items.card := by
  rw [weigh, Multiset.map_const', Multiset.sum_replicate, smul_eq_mul, mul_one]

theorem weigh_congr {weight other : A → Nat} {items : Multiset A}
    (h : ∀ item ∈ items, weight item = other item) : weigh weight items = weigh other items := by
  rw [weigh, weigh, Multiset.map_congr rfl h]

theorem weigh_eq_zero {weight : A → Nat} {items : Multiset A} (h : ∀ item ∈ items, weight item = 0) :
    weigh weight items = 0 := by
  apply Multiset.sum_eq_zero
  intro share hshare
  obtain ⟨item, hitem, rfl⟩ := Multiset.mem_map.mp hshare
  exact h item hitem

theorem weigh_mono {weight other : A → Nat} {items : Multiset A}
    (h : ∀ item ∈ items, weight item ≤ other item) : weigh weight items ≤ weigh other items :=
  Multiset.sum_map_le_sum_map _ _ h

section Keys

/-- The weight of the items whose key counts, and nothing for the others. -/
def among (counts : K → Bool) (key : A → K) (weight : A → Nat) (item : A) : Nat :=
  if counts (key item) then weight item else 0

variable {counts : K → Bool} {key : A → K} {weight : A → Nat} {item : A}

theorem among_of_counts (h : counts (key item) = true) : among counts key weight item = weight item :=
  if_pos h

theorem among_of_not (h : counts (key item) = false) : among counts key weight item = 0 :=
  if_neg (Bool.eq_false_iff.mp h)

variable [DecidableEq K]

theorem sum_among {keys : List K} (hkeys : keys.Nodup) (hitem : key item ∈ keys) :
    (keys.map fun wanted => among (· == wanted) key weight item).sum = weight item := by
  induction keys with
  | nil => cases hitem
  | cons first rest ih =>
    obtain ⟨hfirst, hrest⟩ := List.nodup_cons.mp hkeys
    rw [List.map_cons, List.sum_cons]
    have hother {wanted : K} (hwanted : key item ≠ wanted) :
        among (· == wanted) key weight item = 0 := if_neg fun h => hwanted (beq_iff_eq.mp h)
    cases hitem with
    | head =>
      have hothers : (rest.map fun wanted => among (· == wanted) key weight item).sum = 0 := by
        apply List.sum_eq_zero
        intro share hshare
        obtain ⟨wanted, hwanted, rfl⟩ := List.mem_map.mp hshare
        exact hother (ne_of_mem_of_not_mem hwanted hfirst).symm
      have hself : among (· == key item) key weight item = weight item := if_pos (beq_self_eq_true _)
      rw [hothers, hself, Nat.add_zero]
    | tail _ hmem =>
      have hmem : key item ∈ rest := hmem
      rw [ih hrest hmem, hother (ne_of_mem_of_not_mem hmem hfirst), Nat.zero_add]

/-- The shares of the keys add up to the whole. -/
theorem sum_weigh_among {items : Multiset A} {keys : List K} (hkeys : keys.Nodup)
    (hitems : ∀ item ∈ items, key item ∈ keys) :
    (keys.map fun wanted => weigh (among (· == wanted) key weight) items).sum = weigh weight items := by
  induction items using Multiset.induction_on with
  | empty => simp
  | cons item items ih =>
    have hrest := ih fun other hother => hitems other (Multiset.mem_cons_of_mem hother)
    have hfirst : (keys.map fun wanted => among (· == wanted) key weight item).sum = weight item :=
      sum_among hkeys (hitems item (Multiset.mem_cons_self _ _))
    simp only [weigh_cons, List.sum_map_add]
    rw [hrest, hfirst]

end Keys

/-- Replacing one member of a family exchanges its summand for the new one. -/
theorem sum_update_add {I : Type u} [Fintype I] [DecidableEq I] {B : Type v} {M : Type*} [AddCommMonoid M]
    (measure : B → M) (family : I → B) (index : I) (value : B) :
    (∑ other, measure (Function.update family index value other)) + measure (family index) =
      (∑ other, measure (family other)) + measure value := by
  have hothers : ∑ other ∈ Finset.univ.erase index, measure (Function.update family index value other) =
      ∑ other ∈ Finset.univ.erase index, measure (family other) := by
    apply Finset.sum_congr rfl
    intro other hother
    rw [Function.update_of_ne (Finset.ne_of_mem_erase hother)]
  rw [← Finset.add_sum_erase _ _ (Finset.mem_univ index), hothers, Function.update_self,
    ← Finset.add_sum_erase _ (fun other => measure (family other)) (Finset.mem_univ index)]
  exact add_right_comm _ _ _ |>.trans (by rw [add_comm (measure value), add_right_comm])

end CartoSentry.Foundation
