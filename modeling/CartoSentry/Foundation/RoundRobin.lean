import Mathlib.Algebra.Group.Fin.Basic
import Mathlib.Data.Nat.Count
import Mathlib.Data.Int.CardIntervalMod
import Mathlib.Data.Finset.Lattice.Fold
import Mathlib.Data.Fintype.Basic
import Mathlib.Algebra.Order.Group.Nat
import Mathlib.Order.Lattice.Nat

set_option autoImplicit false

/-!
# Queues served in rotation

A cursor goes round a fixed number of queues: the queue served next is the first waiting
one at or after the cursor, and the cursor moves just behind it.  Two facts about such a
rotation: a queue that keeps waiting comes nearer to the cursor with every turn that
another takes, and queues to which nothing is added are served round by round.
-/

namespace CartoSentry.Foundation.Rotation

universe u

variable {k : Nat}

/-- How many queues the cursor passes before it reaches `index`. -/
def turnsTo (cursor index : Fin k) : Nat :=
  (index - cursor).val

theorem turnsTo_lt (cursor index : Fin k) : turnsTo cursor index < k :=
  (index - cursor).isLt

theorem turnsTo_eq (cursor index : Fin k) :
    turnsTo cursor index =
      if cursor.val ≤ index.val then index.val - cursor.val else k + index.val - cursor.val := by
  have hcursor := cursor.isLt
  have hindex := index.isLt
  rw [turnsTo, Fin.sub_def]
  show (k - cursor.val + index.val) % k = _
  split
  · next hle =>
    rw [show k - cursor.val + index.val = (index.val - cursor.val) + k by omega, Nat.add_mod_right]
    exact Nat.mod_eq_of_lt (by omega)
  · next hlt =>
    rw [show k - cursor.val + index.val = k + index.val - cursor.val by omega]
    exact Nat.mod_eq_of_lt (by omega)

variable [NeZero k]

/-- The first waiting queue at or after the cursor. -/
def nextTurn (waiting : Fin k → Bool) (cursor : Fin k) : Option (Fin k) :=
  ((List.finRange k).map fun offset => cursor + offset).find? waiting

section Distance

variable {cursor index other : Fin k}

theorem val_succ (index : Fin k) :
    (index + 1).val = if index.val + 1 = k then 0 else index.val + 1 := by
  have hindex := index.isLt
  rw [Fin.val_add, Fin.val_one', Nat.add_mod_mod]
  split
  · next hlast => rw [hlast, Nat.mod_self]
  · next hinner => exact Nat.mod_eq_of_lt (by omega)

theorem turnsTo_add (cursor offset : Fin k) : turnsTo cursor (cursor + offset) = offset.val := by
  rw [turnsTo, add_sub_cancel_left]

theorem eq_of_turnsTo_eq (h : turnsTo cursor index = turnsTo cursor other) : index = other :=
  sub_left_inj.mp (Fin.ext h)

/-- Just behind a queue the cursor passes all the others before it comes back. -/
theorem turnsTo_behind (h : other ≠ index) : turnsTo (index + 1) other < turnsTo (index + 1) index := by
  have hother := other.isLt
  have hindex := index.isLt
  have hne : other.val ≠ index.val := fun heq => h (Fin.ext heq)
  rw [turnsTo_eq, turnsTo_eq, val_succ]
  split_ifs <;> omega

/-- A turn taken by a nearer queue brings the others nearer by what the cursor moved. -/
theorem turnsTo_after (h : turnsTo cursor index < turnsTo cursor other) :
    turnsTo (index + 1) other = turnsTo cursor other - turnsTo cursor index - 1 := by
  have hother := other.isLt
  have hindex := index.isLt
  have hcursor := cursor.isLt
  rw [turnsTo_eq, turnsTo_eq] at *
  rw [turnsTo_eq, val_succ]
  split_ifs at * <;> omega

end Distance

section Turns

variable {waiting : Fin k → Bool} {cursor index : Fin k}

theorem nextTurn_eq_none_iff : nextTurn waiting cursor = none ↔ ∀ other, waiting other = false := by
  rw [nextTurn, List.find?_eq_none]
  constructor
  · intro hnone other
    have hmem : other ∈ (List.finRange k).map fun offset => cursor + offset :=
      List.mem_map.mpr ⟨other - cursor, List.mem_finRange _, add_sub_cancel cursor other⟩
    exact Bool.eq_false_iff.mpr (hnone other hmem)
  · intro hnone other _
    rw [hnone other]
    exact Bool.false_ne_true

/-- The queue whose turn it is waits, and none that waits is nearer to the cursor. -/
theorem nextTurn_eq_some (h : nextTurn waiting cursor = some index) :
    waiting index = true ∧
      ∀ other, waiting other = true → turnsTo cursor index ≤ turnsTo cursor other := by
  obtain ⟨hwaiting, position, hposition, hindex, hbefore⟩ := List.find?_eq_some_iff_getElem.mp h
  refine ⟨hwaiting, fun other hother => ?_⟩
  have hlength : position < k := by simpa using hposition
  have hturns : turnsTo cursor index = position := by
    rw [← hindex, List.getElem_map, turnsTo_add, List.getElem_finRange]
    rfl
  rw [hturns]
  apply Nat.le_of_not_lt
  intro hnearer
  have hpassed := hbefore (turnsTo cursor other) hnearer
  rw [List.getElem_map, List.getElem_finRange] at hpassed
  have hsame : cursor + (⟨turnsTo cursor other, turnsTo_lt cursor other⟩ : Fin k) = other :=
    add_sub_cancel cursor other
  simp only [Fin.cast_mk, hsame, hother] at hpassed
  exact absurd hpassed (by decide)

end Turns

/-! ## Queues to which nothing is added -/

section Rounds

variable {A : Type u}

/-- Round by round, one item of each queue that still has one. -/
def roundRobin (queues : Fin k → List A) : List A :=
  (List.range (Finset.univ.sup fun index => (queues index).length)).flatMap fun round =>
    (List.finRange k).filterMap fun index => (queues index)[round]?

/-- What the cursor meets when it visits a queue for the `visit / k`-th time. -/
def visitAt (queues : Fin k → List A) (visit : Nat) : Option A :=
  (queues (Fin.ofNat k visit))[visit / k]?

/-- What the first visits met. -/
def visited (queues : Fin k → List A) (visits : Nat) : List A :=
  (List.range visits).filterMap (visitAt queues)

/-- What the first visits left of each queue. -/
def remainingAt (queues : Fin k → List A) (visits : Nat) (index : Fin k) : List A :=
  (queues index).drop (Nat.count (fun visit => visit % k = index.val) visits)

variable {queues : Fin k → List A} {visits steps : Nat} {index : Fin k}

theorem ofNat_add (left right : Nat) :
    Fin.ofNat k (left + right) = Fin.ofNat k left + Fin.ofNat k right := by
  apply Fin.ext
  simp [Fin.val_add]

theorem count_visits (visits : Nat) : Nat.count (fun visit => visit % k = visits % k) visits = visits / k := by
  have hpos := Nat.pos_of_ne_zero (NeZero.ne k)
  have hcount := Nat.count_modEq_card visits hpos visits
  rw [if_neg (Nat.lt_irrefl _), Nat.add_zero] at hcount
  exact hcount

theorem remainingAt_visit (queues : Fin k → List A) (visits : Nat) :
    remainingAt queues visits (Fin.ofNat k visits) = (queues (Fin.ofNat k visits)).drop (visits / k) := by
  rw [remainingAt, Fin.val_ofNat, count_visits]

theorem visitAt_eq_head? (queues : Fin k → List A) (visits : Nat) :
    visitAt queues visits = (remainingAt queues visits (Fin.ofNat k visits)).head? := by
  rw [remainingAt_visit, List.head?_drop, visitAt]

theorem remainingAt_succ_self (queues : Fin k → List A) (visits : Nat) :
    remainingAt queues (visits + 1) (Fin.ofNat k visits) =
      (remainingAt queues visits (Fin.ofNat k visits)).tail := by
  rw [remainingAt, remainingAt, Nat.count_succ, if_pos (Fin.val_ofNat ..).symm, List.tail_drop]

theorem remainingAt_succ_of_ne (h : index ≠ Fin.ofNat k visits) :
    remainingAt queues (visits + 1) index = remainingAt queues visits index := by
  have hother : ¬visits % k = index.val := fun heq => h (Fin.ext heq.symm)
  rw [remainingAt, remainingAt, Nat.count_succ, if_neg hother, Nat.add_zero]

theorem visited_succ (queues : Fin k → List A) (visits : Nat) :
    visited queues (visits + 1) = visited queues visits ++ (visitAt queues visits).toList := by
  rw [visited, List.range_succ, List.filterMap_append, visited]
  cases hvisit : visitAt queues visits with
  | none => simp [hvisit]
  | some item => simp [hvisit]

theorem remainingAt_skip (h : visitAt queues visits = none) :
    remainingAt queues (visits + 1) = remainingAt queues visits := by
  funext index
  by_cases hindex : index = Fin.ofNat k visits
  · rw [visitAt_eq_head?, List.head?_eq_none_iff] at h
    rw [hindex, remainingAt_succ_self, h, List.tail_nil]
  · exact remainingAt_succ_of_ne hindex

/-- Visits that meet nothing change nothing. -/
theorem skip (h : ∀ step < steps, visitAt queues (visits + step) = none) :
    remainingAt queues (visits + steps) = remainingAt queues visits ∧
      visited queues (visits + steps) = visited queues visits := by
  induction steps with
  | zero => exact ⟨rfl, rfl⟩
  | succ steps ih =>
    obtain ⟨hremaining, hvisited⟩ := ih fun step hstep => h step (by omega)
    have hnone := h steps (Nat.lt_succ_self _)
    rw [← Nat.add_assoc, remainingAt_skip hnone, visited_succ, hnone, hremaining, hvisited]
    exact ⟨rfl, List.append_nil _⟩

theorem visitAt_eq_none_of_empty (h : ∀ index, remainingAt queues visits index = []) :
    ∀ step < steps, visitAt queues (visits + step) = none := by
  induction steps with
  | zero => intro step hstep; omega
  | succ steps ih =>
    intro step hstep
    have hbefore : ∀ earlier < step, visitAt queues (visits + earlier) = none := fun earlier hearlier =>
      ih earlier (by omega)
    rw [visitAt_eq_head?, (skip hbefore).1, h]
    rfl

theorem visitAt_eq_none_of_le (h : ∀ index, (queues index).length ≤ visits) :
    visitAt queues (k * visits + steps) = none := by
  have hpos := Nat.pos_of_ne_zero (NeZero.ne k)
  rw [visitAt, List.getElem?_eq_none_iff, Nat.mul_add_div hpos]
  exact (h _).trans (Nat.le_add_right _ _)

theorem visited_rounds (queues : Fin k → List A) (rounds : Nat) :
    visited queues (k * rounds) = (List.range rounds).flatMap fun round =>
      (List.finRange k).filterMap fun index => (queues index)[round]? := by
  have hpos := Nat.pos_of_ne_zero (NeZero.ne k)
  induction rounds with
  | zero => rfl
  | succ rounds ih =>
    have hround : (List.range k).filterMap (fun step => visitAt queues (k * rounds + step)) =
        (List.finRange k).filterMap fun index => (queues index)[rounds]? := by
      rw [← List.map_coe_finRange_eq_range, List.filterMap_map]
      apply List.filterMap_congr
      intro index _
      have hindex : Fin.ofNat k (k * rounds + index.val) = index := by
        apply Fin.ext
        rw [Fin.val_ofNat, Nat.mul_add_mod, Nat.mod_eq_of_lt index.isLt]
      have hdiv : (k * rounds + index.val) / k = rounds := by
        rw [Nat.mul_add_div hpos, Nat.div_eq_of_lt index.isLt, Nat.add_zero]
      rw [Function.comp_apply, visitAt, hindex, hdiv]
    rw [List.range_succ, List.flatMap_append, ← ih, List.flatMap_singleton, ← hround, Nat.mul_succ,
      visited, List.range_add, List.filterMap_append, List.filterMap_map, visited]
    rfl

theorem visited_eq_roundRobin (h : ∀ index, remainingAt queues visits index = []) :
    visited queues visits = roundRobin queues := by
  have hlength : ∀ index, (queues index).length ≤ Finset.univ.sup fun index => (queues index).length :=
    fun index => Finset.le_sup (f := fun index => (queues index).length) (Finset.mem_univ index)
  have hend : visited queues visits = visited queues
      (visits + k * Finset.univ.sup fun index => (queues index).length) :=
    (skip (visitAt_eq_none_of_empty h)).2.symm
  rw [hend, Nat.add_comm, (skip fun step _ => visitAt_eq_none_of_le hlength).2, visited_rounds]
  rfl

/-- The queues were served from the first one on and stand where `visits` visits left them. -/
structure Served (queues : Fin k → List A) (visits : Nat) (cursor : Fin k)
    (remaining : Fin k → List A) (taken : List A) : Prop where
  cursor_eq : cursor = Fin.ofNat k visits
  remaining_eq : remaining = remainingAt queues visits
  taken_eq : taken = visited queues visits

namespace Served

variable {cursor : Fin k} {remaining : Fin k → List A} {taken rest : List A} {item : A}

theorem start (queues : Fin k → List A) : Served queues 0 0 queues [] where
  cursor_eq := rfl
  remaining_eq := by
    funext index
    rw [remainingAt, Nat.count_zero, List.drop_zero]
  taken_eq := rfl

/-- Until the next turn the cursor meets empty queues only. -/
theorem before (h : Served queues visits cursor remaining taken)
    (hturn : nextTurn (fun index => !(remaining index).isEmpty) cursor = some index) :
    ∀ step < turnsTo cursor index, visitAt queues (visits + step) = none := by
  have hnearest := (nextTurn_eq_some hturn).2
  suffices hall : ∀ steps ≤ turnsTo cursor index, ∀ step < steps, visitAt queues (visits + step) = none from
    hall _ (Nat.le_refl _)
  intro steps
  induction steps with
  | zero => intro _ step hstep; omega
  | succ steps ih =>
    intro hsteps step hstep
    have hbefore := ih (by omega)
    rcases Nat.lt_succ_iff_lt_or_eq.mp hstep with hlt | rfl
    · exact hbefore step hlt
    -- the queue visited next is nearer than the one whose turn it is, so it is empty
    have hoffset : Fin.ofNat k (visits + step) = cursor + Fin.ofNat k step := by
      rw [h.cursor_eq, ofNat_add]
    have hnearer : ¬turnsTo cursor index ≤ turnsTo cursor (cursor + Fin.ofNat k step) := by
      have hlt := turnsTo_lt cursor index
      rw [turnsTo_add, Fin.val_ofNat, Nat.mod_eq_of_lt (by omega)]
      omega
    have hempty : remaining (cursor + Fin.ofNat k step) = [] := by
      apply List.isEmpty_iff.mp
      apply Bool.eq_true_of_not_eq_false
      intro hwaiting
      exact hnearer (hnearest _ (by rw [hwaiting]; rfl))
    rw [visitAt_eq_head?, (skip hbefore).1, ← h.remaining_eq, hoffset, hempty]
    rfl

theorem step (h : Served queues visits cursor remaining taken)
    (hturn : nextTurn (fun index => !(remaining index).isEmpty) cursor = some index)
    (hitem : remaining index = item :: rest) :
    Served queues (visits + turnsTo cursor index + 1) (index + 1)
      (Function.update remaining index rest) (taken ++ [item]) := by
  obtain ⟨hremaining, hvisited⟩ := skip (h.before hturn)
  have hindex : Fin.ofNat k (visits + turnsTo cursor index) = index := by
    rw [ofNat_add, ← h.cursor_eq, turnsTo, Fin.ofNat_val_eq_self, add_sub_cancel]
  have hhead : remainingAt queues (visits + turnsTo cursor index) index = item :: rest := by
    rw [hremaining, ← h.remaining_eq, hitem]
  constructor
  · rw [ofNat_add, hindex]
    rfl
  · funext other
    by_cases hother : other = index
    · subst hother
      have hself := remainingAt_succ_self queues (visits + turnsTo cursor other)
      rw [hindex, hhead, List.tail_cons] at hself
      rw [Function.update_self, hself]
    · rw [Function.update_of_ne hother, remainingAt_succ_of_ne (by rwa [hindex]), hremaining,
        h.remaining_eq]
  · have hvisit : visitAt queues (visits + turnsTo cursor index) = some item := by
      rw [visitAt_eq_head?, hindex, hhead, List.head?_cons]
    rw [visited_succ, hvisit, hvisited, h.taken_eq]
    rfl

/-- Served to the end, the queues were served round by round. -/
theorem finished (h : Served queues visits cursor remaining taken)
    (hempty : ∀ index, remaining index = []) : taken = roundRobin queues := by
  rw [h.taken_eq]
  apply visited_eq_roundRobin
  intro index
  rw [← h.remaining_eq, hempty]

end Served

end Rounds

end CartoSentry.Foundation.Rotation
