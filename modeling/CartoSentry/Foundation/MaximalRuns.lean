import Mathlib.Data.List.TakeWhile

set_option autoImplicit false

/-!
# Maximal runs by position

A half-open range of places whose items pass a test, and that neither neighbour extends.
-/

namespace CartoSentry.Foundation

universe u

variable {A : Type u}

structure IsMaximalRun (test : A → Bool) (items : List A) (start stop : Nat) : Prop where
  nonempty : start < stop
  passes : ∀ place, start ≤ place → place < stop → (items[place]?).any test = true
  opens : ∀ place, place + 1 = start → (items[place]?).any test = false
  closes : (items[stop]?).any test = false

variable {test : A → Bool} {items front rest : List A} {start stop : Nat}

theorem lt_length_of_any {place : Nat} (h : (items[place]?).any test = true) :
    place < items.length := by
  by_contra hover
  rw [List.getElem?_eq_none (by omega), Option.any_none] at h
  cases h

/-- Around a place there is one maximal run. -/
theorem IsMaximalRun.unique {start' stop' place : Nat} (h : IsMaximalRun test items start stop)
    (h' : IsMaximalRun test items start' stop') (hplace : start ≤ place ∧ place < stop)
    (hplace' : start' ≤ place ∧ place < stop') : start = start' ∧ stop = stop' := by
  constructor
  · rcases Nat.lt_trichotomy start start' with hlt | heq | hgt
    · have hopens := h'.opens (start' - 1) (by omega)
      rw [h.passes (start' - 1) (by omega) (by omega)] at hopens
      cases hopens
    · exact heq
    · have hopens := h.opens (start - 1) (by omega)
      rw [h'.passes (start - 1) (by omega) (by omega)] at hopens
      cases hopens
  · rcases Nat.lt_trichotomy stop stop' with hlt | heq | hgt
    · have hcloses := h.closes
      rw [h'.passes stop (by omega) hlt] at hcloses
      cases hcloses
    · exact heq
    · have hcloses := h'.closes
      rw [h.passes stop' (by omega) hgt] at hcloses
      cases hcloses

theorem getElem?_append_add (front rest : List A) (place : Nat) :
    (front ++ rest)[front.length + place]? = rest[place]? := by
  rw [List.getElem?_append_right (Nat.le_add_right _ _), Nat.add_sub_cancel_left]

/-- Where the items are cut next to one that fails, the runs behind the cut are runs. -/
theorem isMaximalRun_append_iff
    (hcut : (front.getLast?).any test = false ∨ (rest.head?).any test = false) :
    IsMaximalRun test (front ++ rest) (front.length + start) (front.length + stop) ↔
      IsMaximalRun test rest start stop := by
  constructor
  · intro h
    refine ⟨by have := h.nonempty; omega, fun place hstart hstop => ?_, fun place hplace => ?_, ?_⟩
    · rw [← getElem?_append_add front]
      exact h.passes _ (by omega) (by omega)
    · rw [← getElem?_append_add front]
      exact h.opens _ (by omega)
    · rw [← getElem?_append_add front]
      exact h.closes
  · intro h
    have hnonempty := h.nonempty
    refine ⟨by omega, fun place hstart hstop => ?_, fun place hplace => ?_, ?_⟩
    · obtain ⟨behind, rfl⟩ := Nat.exists_eq_add_of_le (show front.length ≤ place by omega)
      rw [getElem?_append_add]
      exact h.passes behind (by omega) (by omega)
    · cases start with
      | zero =>
        -- the first item behind the cut passes, so the one in front of it fails
        have hfirst := h.passes 0 le_rfl hnonempty
        rw [← List.head?_eq_getElem?] at hfirst
        rw [hfirst] at hcut
        obtain rfl : place = front.length - 1 := by omega
        rw [List.getElem?_append_left (by omega), ← List.getLast?_eq_getElem?]
        exact hcut.resolve_right Bool.noConfusion
      | succ start =>
        obtain rfl : place = front.length + start := by omega
        rw [getElem?_append_add]
        exact h.opens start rfl
    · rw [getElem?_append_add]
      exact h.closes

theorem any_head?_dropWhile (test : A → Bool) (items : List A) :
    ((items.dropWhile test).head?).any test = false := by
  have hhead := List.head?_dropWhile_not test items
  cases h : (items.dropWhile test).head? with
  | none => rfl
  | some item =>
    rw [h] at hhead
    rw [Option.any_some]
    exact hhead

/-- What a scan takes from a cut is a maximal run. -/
theorem isMaximalRun_takeWhile (hfirst : (items.head?).any test = true) :
    IsMaximalRun test items 0 (items.takeWhile test).length := by
  have hsplit := List.takeWhile_append_dropWhile (p := test) (l := items)
  refine ⟨?_, fun place _ hstop => ?_, fun place hplace => absurd hplace (Nat.succ_ne_zero _), ?_⟩
  · cases items with
    | nil => cases hfirst
    | cons item items =>
      rw [List.head?_cons, Option.any_some] at hfirst
      rw [List.takeWhile_cons_of_pos hfirst]
      exact Nat.zero_lt_succ _
  · have hpasses := List.all_eq_true.mp List.all_takeWhile _ (List.getElem_mem hstop)
    rw [← hsplit, List.getElem?_append_left hstop, List.getElem?_eq_getElem hstop, Option.any_some]
    exact hpasses
  · have hcut := getElem?_append_add (items.takeWhile test) (items.dropWhile test) 0
    rw [Nat.add_zero, hsplit, ← List.head?_eq_getElem?] at hcut
    rw [hcut]
    exact any_head?_dropWhile test items

end CartoSentry.Foundation
