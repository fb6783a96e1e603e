import Mathlib.Data.List.FinRange
import Mathlib.Data.List.Infix
import Mathlib.Order.Defs.LinearOrder

set_option autoImplicit false

/-!
# Cuts of a list

Neighbours in a sorted list, and the parts of a list between two neighbouring places that pass
a test.
-/

namespace CartoSentry.Foundation

/-- Each member with the one after it. -/
def neighbours {A : Type} (l : List A) : List (A × A) :=
  l.zip l.tail

theorem mem_neighbours_iff {A : Type} [LinearOrder A] {l : List A} {a b : A}
    (hsorted : l.Pairwise (· < ·)) :
    (a, b) ∈ neighbours l ↔ a ∈ l ∧ b ∈ l ∧ a < b ∧ ∀ c ∈ l, ¬ (a < c ∧ c < b) := by
  induction l with
  | nil => simp [neighbours]
  | cons first rest ih =>
    obtain ⟨hfirst, hrest⟩ := List.pairwise_cons.mp hsorted
    cases rest with
    | nil =>
      refine iff_of_false List.not_mem_nil ?_
      rintro ⟨ha, hb, hlt, -⟩
      rw [List.mem_singleton.mp ha, List.mem_singleton.mp hb] at hlt
      exact lt_irrefl _ hlt
    | cons second rest =>
      have hcons : neighbours (first :: second :: rest) =
          (first, second) :: neighbours (second :: rest) := rfl
      rw [hcons, List.mem_cons, ih hrest, Prod.mk.injEq]
      constructor
      · rintro (⟨rfl, rfl⟩ | ⟨ha, hb, hlt, hbetween⟩)
        · refine ⟨List.mem_cons_self, List.mem_cons_of_mem _ List.mem_cons_self,
            hfirst _ List.mem_cons_self, fun c hc hlt => ?_⟩
          rcases List.mem_cons.mp hc with rfl | hc
          · exact lt_irrefl _ hlt.1
          · rcases List.mem_cons.mp hc with rfl | hc
            · exact lt_irrefl _ hlt.2
            · exact lt_asymm hlt.2 ((List.pairwise_cons.mp hrest).1 c hc)
        · refine ⟨List.mem_cons_of_mem _ ha, List.mem_cons_of_mem _ hb, hlt, fun c hc => ?_⟩
          rcases List.mem_cons.mp hc with rfl | hc
          · exact fun h => lt_asymm h.1 (hfirst a ha)
          · exact hbetween c hc
      · rintro ⟨ha, hb, hlt, hbetween⟩
        rcases List.mem_cons.mp ha with rfl | harest
        · rcases List.mem_cons.mp hb with rfl | hbrest
          · exact absurd hlt (lt_irrefl _)
          · rcases List.mem_cons.mp hbrest with rfl | hbafter
            · exact .inl ⟨rfl, rfl⟩
            · exact absurd ⟨hfirst _ List.mem_cons_self, (List.pairwise_cons.mp hrest).1 b hbafter⟩
                (hbetween second (List.mem_cons_of_mem _ List.mem_cons_self))
        · rcases List.mem_cons.mp hb with rfl | hbrest
          · exact absurd hlt (lt_asymm (hfirst a harest))
          · exact .inr ⟨harest, hbrest, hlt, fun c hc => hbetween c (List.mem_cons_of_mem _ hc)⟩

theorem head?_eq_some_of_least {A : Type} [LinearOrder A] {l : List A} {a : A}
    (hsorted : l.Pairwise (· < ·)) (ha : a ∈ l) (hleast : ∀ b ∈ l, a ≤ b) : l.head? = some a := by
  cases l with
  | nil => exact absurd ha List.not_mem_nil
  | cons first rest =>
    rcases List.mem_cons.mp ha with rfl | hrest
    · rfl
    · exact absurd ((List.pairwise_cons.mp hsorted).1 a hrest)
        (not_lt.mpr (hleast first List.mem_cons_self))

theorem getLast?_eq_some_of_greatest {A : Type} [LinearOrder A] {l : List A} {a : A}
    (hsorted : l.Pairwise (· < ·)) (ha : a ∈ l) (hgreatest : ∀ b ∈ l, b ≤ a) :
    l.getLast? = some a := by
  obtain ⟨front, back, rfl⟩ := List.append_of_mem ha
  cases back with
  | nil => exact List.getLast?_concat
  | cons next back =>
    have hafter := (List.pairwise_cons.mp (List.pairwise_append.mp hsorted).2.1).1 next
      List.mem_cons_self
    exact absurd hafter (not_lt.mpr (hgreatest next (by simp)))

/-! ## Parts of a list -/

section Parts

variable {A : Type} {l : List A}

/-- The members from one place to another, both ends included. -/
def between (l : List A) (start stop : Nat) : List A :=
  (l.take (stop + 1)).drop start

theorem length_between {start stop : Nat} (hstop : stop < l.length) :
    (between l start stop).length = stop + 1 - start := by
  rw [between, List.length_drop, List.length_take]
  omega

theorem between_infix (start stop : Nat) : between l start stop <:+: l :=
  ((List.drop_suffix _ _).isInfix).trans (List.take_prefix _ _).isInfix

/-! A part of the list at its places. -/

section At

variable {front middle back : List A} {a b : A} (h : l = front ++ (a :: middle ++ [b]) ++ back)

include h

theorem getElem?_start : l[front.length]? = some a := by
  simp [h]

theorem getElem?_stop : l[front.length + middle.length + 1]? = some b := by
  rw [h, List.append_assoc, List.getElem?_append_right (by omega)]
  have hoffset : front.length + middle.length + 1 - front.length = middle.length + 1 := by omega
  rw [hoffset]
  simp

theorem mem_middle_of_getElem? {place : Nat} {c : A} (hstart : front.length < place)
    (hstop : place < front.length + middle.length + 1) (hget : l[place]? = some c) :
    c ∈ middle := by
  obtain ⟨offset, rfl⟩ : ∃ offset, place = front.length + (offset + 1) :=
    ⟨place - front.length - 1, by omega⟩
  rw [h, List.append_assoc, List.getElem?_append_right (by omega), Nat.add_sub_cancel_left,
    List.cons_append, List.cons_append, List.getElem?_cons_succ, List.append_assoc,
    List.getElem?_append_left (by omega)] at hget
  exact List.mem_of_getElem? hget

theorem between_eq_part :
    between l front.length (front.length + middle.length + 1) = a :: middle ++ [b] := by
  have hlength : front.length + middle.length + 1 + 1 =
      (front ++ (a :: middle ++ [b])).length := by
    simp
    omega
  rw [between, hlength, h, List.take_left, List.drop_left]

end At

/-- The part between two places: its ends, and what is strictly between them. -/
theorem between_eq_cons_append {start stop : Nat} {a b : A} (hlt : start < stop)
    (ha : l[start]? = some a) (hb : l[stop]? = some b) :
    ∃ middle, between l start stop = a :: middle ++ [b] ∧
      ∀ c ∈ middle, ∃ place, start < place ∧ place < stop ∧ l[place]? = some c := by
  have hfront : l.take (stop + 1) = l.take stop ++ [b] := by
    rw [List.take_add_one, hb]
    rfl
  obtain ⟨hstop, -⟩ := List.getElem?_eq_some_iff.mp hb
  have hstart : start < (l.take stop).length := by
    rw [List.length_take]
    omega
  have hfirst : (l.take stop)[start] = a := by
    rw [List.getElem_take]
    exact (List.getElem?_eq_some_iff.mp ha).2
  refine ⟨(l.take stop).drop (start + 1), ?_, fun c hc => ?_⟩
  · rw [between, hfront, List.drop_append_of_le_length hstart.le,
      List.drop_eq_getElem_cons hstart, hfirst]
  · obtain ⟨offset, hoffset⟩ := List.mem_iff_getElem?.mp hc
    have hbound : start + 1 + offset < stop := by
      have hlength := (List.getElem?_eq_some_iff.mp hoffset).1
      rw [List.length_drop, List.length_take] at hlength
      omega
    rw [List.getElem?_drop, List.getElem?_take_of_lt hbound] at hoffset
    exact ⟨start + 1 + offset, by omega, hbound, hoffset⟩

end Parts

end CartoSentry.Foundation
