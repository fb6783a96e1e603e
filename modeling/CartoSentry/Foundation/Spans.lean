import Mathlib.Algebra.BigOperators.Group.List.Basic
import Mathlib.Algebra.Order.Group.Defs
import Mathlib.Tactic.Abel

set_option autoImplicit false

/-!
# Spans that abut

Lists of spans, each of which starts where the one before it ends, and the sum of their
lengths.
-/

namespace CartoSentry.Foundation

variable {A : Type}

/-- The spans lead from one place to another without a gap or an overlap. -/
def Tiles (start finish : A) : List (A × A) → Prop
  | [] => start = finish
  | span :: rest => span.1 = start ∧ Tiles span.2 finish rest

/-- Spans that go forward lie behind each other. -/
theorem Tiles.pairwise [Preorder A] {start finish : A} {spans : List (A × A)}
    (h : Tiles start finish spans) (hforward : ∀ span ∈ spans, span.1 ≤ span.2) :
    (∀ span ∈ spans, start ≤ span.1) ∧ spans.Pairwise fun left right => left.2 ≤ right.1 := by
  induction spans generalizing start with
  | nil => exact ⟨fun _ hspan => (nomatch hspan), List.Pairwise.nil⟩
  | cons span rest ih =>
    obtain ⟨rfl, hrest⟩ := h
    obtain ⟨hspan, hforward⟩ := List.forall_mem_cons.mp hforward
    obtain ⟨hlater, hpairwise⟩ := ih hrest hforward
    constructor
    · exact List.forall_mem_cons.mpr ⟨le_refl _, fun other hother => hspan.trans (hlater other hother)⟩
    · exact List.pairwise_cons.mpr ⟨hlater, hpairwise⟩

section Group

variable [AddCommGroup A] {start finish : A} {spans : List (A × A)}

/-- Lengths telescope. -/
theorem Tiles.sum_lengths (h : Tiles start finish spans) :
    (spans.map fun span => span.2 - span.1).sum = finish - start := by
  induction spans generalizing start with
  | nil =>
    obtain rfl : start = finish := h
    rw [List.map_nil, List.sum_nil, sub_self]
  | cons span rest ih =>
    obtain ⟨rfl, hrest⟩ := h
    rw [List.map_cons, List.sum_cons, ih hrest]
    abel

end Group

/-- The parts of a sum that a test keeps and drops. -/
theorem sum_filter_add_sum_filter_not {B : Type} [AddCommMonoid B] (test : A → Bool) (f : A → B)
    (items : List A) :
    ((items.filter test).map f).sum + ((items.filter fun item => !test item).map f).sum =
      (items.map f).sum := by
  rw [← List.sum_append, ← List.map_append]
  exact ((List.filter_append_perm test items).map f).sum_eq

end CartoSentry.Foundation
