import Mathlib.Algebra.Order.Monoid.Defs
import Mathlib.Data.List.Basic
import Mathlib.Data.List.Count
import Mathlib.Data.List.Induction
import Mathlib.Data.Set.Insert

set_option autoImplicit false

/-!
# Contraction of lines

Directed lines over places, travelled step by step or in pieces cut at the stops.  Travel by
pieces is travel by steps.  Where a place that is no stop lies on one line only, at one place
of it, travel by steps between stops can be done by pieces at no greater weight.
-/

namespace CartoSentry.Foundation.Contraction

variable {V K : Type} [AddCommMonoid K]

/-! ## Travel over weighted edges -/

/-- Travel from `start`, with the place it has come to and what it weighs. -/
inductive Travel (edge : V → V → K → Prop) (start : V) : V → K → Prop where
  | here : Travel edge start start 0
  | onward {place next : V} {cost fare : K} (h : Travel edge start place cost)
      (hedge : edge place next fare) : Travel edge start next (cost + fare)

section Travels

variable {edge : V → V → K → Prop} {start place next : V} {cost fare : K}

theorem Travel.trans (h : Travel edge start place cost) (h' : Travel edge place next fare) :
    Travel edge start next (cost + fare) := by
  induction h' with
  | here =>
    rw [add_zero]
    exact h
  | onward _ hedge ih =>
    rw [← add_assoc]
    exact ih.onward hedge

/-- Edges that are themselves travel over other edges make no new travel. -/
theorem Travel.expand {edge' : V → V → K → Prop}
    (hedge : ∀ a b k, edge a b k → Travel edge' a b k) (h : Travel edge start place cost) :
    Travel edge' start place cost := by
  induction h with
  | here => exact .here
  | onward _ hnext ih => exact ih.trans (hedge _ _ _ hnext)

theorem Travel.map {edge' : V → V → K → Prop} (hedge : ∀ a b k, edge a b k → edge' a b k)
    (h : Travel edge start place cost) : Travel edge' start place cost := by
  induction h with
  | here => exact .here
  | onward _ hnext ih => exact ih.onward (hedge _ _ _ hnext)

end Travels

/-! ## Lines, steps and pieces -/

section Lines

variable (weight : V → V → K)

/-- The weight of a path, the sum over its steps. -/
def pathWeight : List V → K
  | a :: b :: rest => weight a b + pathWeight (b :: rest)
  | _ => 0

@[simp] theorem pathWeight_singleton (a : V) : pathWeight weight [a] = 0 := rfl

@[simp] theorem pathWeight_cons_cons (a b : V) (rest : List V) :
    pathWeight weight (a :: b :: rest) = weight a b + pathWeight weight (b :: rest) := rfl

theorem pathWeight_concat (path : List V) (a b : V) :
    pathWeight weight (path ++ [a, b]) = pathWeight weight (path ++ [a]) + weight a b := by
  induction path with
  | nil => simp
  | cons first rest ih =>
    cases rest with
    | nil => simp
    | cons second rest =>
      simp only [List.cons_append, pathWeight_cons_cons] at ih ⊢
      rw [ih, add_assoc]

variable (lines : Set (List V)) (stop : V → Prop)

/-- One step along a line. -/
def Step (a b : V) (k : K) : Prop :=
  (∃ line ∈ lines, [a, b] <:+: line) ∧ k = weight a b

/-- A part of a line between two stops, with no stop inside. -/
structure Piece (path : List V) (a b : V) : Prop where
  onLine : ∃ line ∈ lines, path <:+: line
  shape : ∃ middle, path = a :: middle ++ [b] ∧ ∀ place ∈ middle, ¬ stop place
  starts : stop a
  ends : stop b

/-- A piece travelled from end to end. -/
def Ride (a b : V) (k : K) : Prop :=
  ∃ path, Piece lines stop path a b ∧ k = pathWeight weight path

/-- A place that is no stop lies on one line, or its reverse, and once in it. -/
def PassedOnce [DecidableEq V] : Prop :=
  ∀ place, ¬ stop place → ∀ line ∈ lines, place ∈ line → line.count place = 1 ∧
    ∀ other ∈ lines, place ∈ other → other = line ∨ other = line.reverse

end Lines

section Contract

variable {weight : V → V → K} {lines : Set (List V)} {stop : V → Prop}

/-! ## Pieces -/

theorem Piece.mono {lines' : Set (List V)} {path : List V} {a b : V} (h : Piece lines stop path a b)
    (hlines : lines ⊆ lines') : Piece lines' stop path a b where
  onLine := h.onLine.imp fun _ hline => ⟨hlines hline.1, hline.2⟩
  shape := h.shape
  starts := h.starts
  ends := h.ends

theorem Piece.head? {path : List V} {a b : V} (h : Piece lines stop path a b) :
    path.head? = some a := by
  obtain ⟨middle, rfl, -⟩ := h.shape
  rfl

theorem Piece.getLast? {path : List V} {a b : V} (h : Piece lines stop path a b) :
    path.getLast? = some b := by
  obtain ⟨middle, rfl, -⟩ := h.shape
  exact List.getLast?_concat

theorem Piece.reverse {line path : List V} {a b : V} (h : Piece {line} stop path a b) :
    Piece {line.reverse} stop path.reverse b a := by
  obtain ⟨other, hother, hpart⟩ := h.onLine
  obtain rfl := Set.mem_singleton_iff.mp hother
  obtain ⟨middle, rfl, hmiddle⟩ := h.shape
  refine ⟨⟨_, rfl, hpart.reverse⟩, ⟨middle.reverse, by simp, fun place hplace => ?_⟩, h.ends,
    h.starts⟩
  exact hmiddle place (List.mem_reverse.mp hplace)

/-! ## Pieces are made of steps -/

theorem travel_of_infix {line path : List V} {a b : V} (hline : line ∈ lines)
    (hpath : a :: path ++ [b] <:+: line) :
    Travel (Step weight lines) a b (pathWeight weight (a :: path ++ [b])) := by
  induction path using List.reverseRecOn generalizing b with
  | nil =>
    have hstep : Travel (Step weight lines) a b (0 + weight a b) :=
      Travel.here.onward ⟨⟨line, hline, hpath⟩, rfl⟩
    simpa using hstep
  | append_singleton path last ih =>
    have hassoc : a :: (path ++ [last]) ++ [b] = (a :: path) ++ [last, b] := by simp
    rw [hassoc] at hpath ⊢
    have hfront : a :: path ++ [last] <:+: line :=
      List.IsInfix.trans ⟨[], [b], by simp⟩ hpath
    have hstep : [last, b] <:+: line := List.IsInfix.trans ⟨a :: path, [], by simp⟩ hpath
    rw [pathWeight_concat]
    exact (ih hfront).onward ⟨⟨line, hline, hstep⟩, rfl⟩

theorem travel_of_ride {a b : V} {k : K} (h : Ride weight lines stop a b k) :
    Travel (Step weight lines) a b k := by
  obtain ⟨path, hpiece, rfl⟩ := h
  obtain ⟨line, hline, hpart⟩ := hpiece.onLine
  obtain ⟨middle, rfl, -⟩ := hpiece.shape
  exact travel_of_infix hline hpart

/-- Travel by pieces is travel by steps, of the same weight. -/
theorem travel_steps_of_rides {a b : V} {k : K} (h : Travel (Ride weight lines stop) a b k) :
    Travel (Step weight lines) a b k :=
  h.expand fun _ _ _ => travel_of_ride

/-! ## A place that a line passes once -/

section Once

variable [DecidableEq V] {line front back front' back' : List V} {place : V}

theorem notMem_of_count_eq_one (hcount : line.count place = 1)
    (h : line = front ++ place :: back) : place ∉ front ∧ place ∉ back := by
  rw [h, List.count_append, List.count_cons_self] at hcount
  constructor <;> intro hmem
  · have hfront := List.count_pos_iff.mpr hmem
    omega
  · have hback := List.count_pos_iff.mpr hmem
    omega

theorem sides_unique (hcount : line.count place = 1) (h : line = front ++ place :: back)
    (h' : line = front' ++ place :: back') : front = front' ∧ back = back' := by
  have hnot := notMem_of_count_eq_one hcount h'
  have hsides := (List.append_cons_inj_of_notMem hnot.1 hnot.2).mp (h'.symm.trans h)
  exact ⟨hsides.1.symm, hsides.2.2.symm⟩

/-- The step on from a place passed once goes on behind it. -/
theorem infix_step_on {path : List V} {next : V} (hcount : line.count place = 1)
    (hpath : path ++ [place] <:+: line) (hstep : [place, next] <:+: line) :
    path ++ [place, next] <:+: line := by
  obtain ⟨before, after, hline⟩ := hpath
  obtain ⟨before', after', hline'⟩ := hstep
  have hsides : before ++ path = before' ∧ after = next :: after' :=
    sides_unique hcount (by simp [← hline]) (by simp [← hline'])
  refine ⟨before, after', ?_⟩
  rw [← hline, hsides.2]
  simp

/-- The step back from a place passed once goes to the place before it. -/
theorem getLast?_of_step_back {path : List V} {next : V} (hcount : line.count place = 1)
    (hne : path ≠ []) (hpath : path ++ [place] <:+: line) (hstep : [next, place] <:+: line) :
    path.getLast? = some next := by
  obtain ⟨before, after, hline⟩ := hpath
  obtain ⟨before', after', hline'⟩ := hstep
  have hsides : before ++ path = before' ++ [next] ∧ after = after' :=
    sides_unique hcount (by simp [← hline]) (by simp [← hline'])
  have hlast := congrArg List.getLast? hsides.1
  rw [List.getLast?_append_of_ne_nil _ hne, List.getLast?_concat] at hlast
  exact hlast

end Once

/-! ## Steps between stops are made of pieces -/

/-- How far travel by pieces has come while travel by steps stands at a place. -/
inductive Underway [LE K] (weight : V → V → K) (lines : Set (List V)) (stop : V → Prop)
    (start : V) : V → K → Prop where
  | stopped {place : V} {cost spent : K} (hstop : stop place)
      (h : Travel (Ride weight lines stop) start place spent) (hle : spent ≤ cost) :
      Underway weight lines stop start place cost
  | between {line middle : List V} {last place : V} {cost spent : K} (hline : line ∈ lines)
      (hpath : last :: middle ++ [place] <:+: line) (hlast : stop last)
      (hmiddle : ∀ inner ∈ middle, ¬ stop inner) (hplace : ¬ stop place)
      (h : Travel (Ride weight lines stop) start last spent)
      (hle : spent + pathWeight weight (last :: middle ++ [place]) ≤ cost) :
      Underway weight lines stop start place cost

variable [PartialOrder K] {start : V}

/-- A path from a stop without stops inside ends a piece or goes on with one. -/
theorem Underway.arrive {line middle : List V} {last place : V} {cost spent : K}
    (hline : line ∈ lines) (hpath : last :: middle ++ [place] <:+: line) (hlast : stop last)
    (hmiddle : ∀ inner ∈ middle, ¬ stop inner)
    (h : Travel (Ride weight lines stop) start last spent)
    (hle : spent + pathWeight weight (last :: middle ++ [place]) ≤ cost) :
    Underway weight lines stop start place cost := by
  by_cases hplace : stop place
  · have hpiece : Piece lines stop (last :: middle ++ [place]) last place :=
      ⟨⟨line, hline, hpath⟩, ⟨middle, rfl, hmiddle⟩, hlast, hplace⟩
    exact .stopped hplace (h.onward ⟨_, hpiece, rfl⟩) hle
  · exact .between hline hpath hlast hmiddle hplace h hle

variable [IsOrderedAddMonoid K]

theorem pathWeight_nonneg (hweight : ∀ a b, 0 ≤ weight a b) (path : List V) :
    0 ≤ pathWeight weight path := by
  induction path with
  | nil => exact le_refl _
  | cons first rest ih =>
    cases rest with
    | nil => exact le_refl _
    | cons second rest => exact add_nonneg (hweight _ _) ih

variable [DecidableEq V]

/-- One more step: on along the line, or back towards the last stop. -/
theorem Underway.step {place next : V} {cost fare : K} (hweight : ∀ a b, 0 ≤ weight a b)
    (honce : PassedOnce lines stop) (h : Underway weight lines stop start place cost)
    (hstep : Step weight lines place next fare) :
    Underway weight lines stop start next (cost + fare) := by
  obtain ⟨⟨other, hother, hpart⟩, rfl⟩ := hstep
  cases h with
  | stopped hstop h hle =>
    have hpath : place :: [] ++ [next] <:+: other := hpart
    have hfare : pathWeight weight (place :: [] ++ [next]) = weight place next := by simp
    exact .arrive hother hpath hstop (by simp) h (hfare ▸ add_le_add_left hle _)
  | @between line middle last _ _ spent hline hpath hlast hmiddle hplace h hle =>
    have hmem : place ∈ line := hpath.subset (by simp)
    obtain ⟨hcount, hsame⟩ := honce place hplace line hline hmem
    have hfurther : cost ≤ cost + weight place next := le_add_of_nonneg_right (hweight _ _)
    rcases hsame other hother (hpart.subset (by simp)) with rfl | rfl
    · -- on along the line
      have hpath' : last :: (middle ++ [place]) ++ [next] <:+: other := by
        simpa using infix_step_on hcount hpath hpart
      refine .arrive hline hpath' hlast ?_ h ?_
      · intro inner hinner
        rcases List.mem_append.mp hinner with hinner | hinner
        · exact hmiddle inner hinner
        · rwa [List.mem_singleton.mp hinner]
      · have hpieces : last :: (middle ++ [place]) ++ [next] = last :: middle ++ [place, next] := by
          simp
        rw [hpieces, pathWeight_concat, ← add_assoc]
        exact add_le_add_left hle _
    · -- back towards the last stop
      have hback : [next, place] <:+: line := by
        rw [← List.reverse_infix]
        exact hpart
      have hbefore := getLast?_of_step_back hcount (List.cons_ne_nil last middle) hpath hback
      rcases List.eq_nil_or_concat' middle with rfl | ⟨front, inner, rfl⟩
      · obtain rfl : last = next := by simpa using hbefore
        have hspent : spent ≤ spent + pathWeight weight (last :: [] ++ [place]) :=
          le_add_of_nonneg_right (pathWeight_nonneg hweight _)
        exact .stopped hlast h ((hspent.trans hle).trans hfurther)
      · rw [← List.cons_append, List.getLast?_concat] at hbefore
        obtain rfl : inner = next := Option.some.inj hbefore
        have hshort : last :: (front ++ [inner]) ++ [place] = last :: front ++ [inner, place] := by
          simp
        rw [hshort, pathWeight_concat, ← add_assoc] at hle
        rw [hshort] at hpath
        have hfront : last :: front ++ [inner] <:+: line :=
          List.IsInfix.trans ⟨[], [place], by simp⟩ hpath
        refine .between hline hfront hlast (fun i hi => hmiddle i (by simp [hi]))
          (hmiddle inner (by simp)) h ?_
        exact ((le_add_of_nonneg_right (hweight _ _)).trans hle).trans hfurther

/-- Travel by steps between stops can be done by pieces, at no greater weight. -/
theorem travel_rides_of_steps {place : V} {cost : K} (hweight : ∀ a b, 0 ≤ weight a b)
    (honce : PassedOnce lines stop) (hstart : stop start) (hplace : stop place)
    (h : Travel (Step weight lines) start place cost) :
    ∃ spent ≤ cost, Travel (Ride weight lines stop) start place spent := by
  have hunderway : ∀ place cost, Travel (Step weight lines) start place cost →
      Underway weight lines stop start place cost := by
    intro place cost h
    induction h with
    | here => exact .stopped hstart .here (le_refl _)
    | onward _ hstep ih => exact ih.step hweight honce hstep
  cases hunderway place cost h with
  | stopped _ h hle => exact ⟨_, hle, h⟩
  | between _ _ _ _ hnot _ _ => exact absurd hplace hnot

end Contract

end CartoSentry.Foundation.Contraction
