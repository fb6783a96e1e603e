import Mathlib.Data.List.TakeWhile

set_option autoImplicit false

/-!
# Runs of equal keys

A list cut into its maximal runs of one key: a run constant in its key that neither
neighbour extends, and half-open ranges of positions that follow one another.
-/

namespace CartoSentry.Foundation

universe u v

variable {A : Type u} {K : Type v}

/-- The run between `front` and `back` is of one key and no neighbour extends it. -/
structure IsRun (key : A → K) (front run back : List A) : Prop where
  nonempty : run ≠ []
  constant : ∀ left ∈ run, ∀ right ∈ run, key left = key right
  opens : ∀ neighbour ∈ front.getLast?, ∀ item ∈ run, key neighbour ≠ key item
  closes : ∀ neighbour ∈ back.head?, ∀ item ∈ run, key neighbour ≠ key item

section Take

variable [DecidableEq K] {key : A → K} {front rest : List A} {first : A}

/-- The items after the run that starts with `first`. -/
def runRest (key : A → K) (first : A) (rest : List A) : List A :=
  rest.dropWhile fun item => key item = key first

/-- The run that starts with `first`. -/
def runFrom (key : A → K) (first : A) (rest : List A) : List A :=
  first :: rest.takeWhile fun item => key item = key first

theorem runFrom_append_runRest : runFrom key first rest ++ runRest key first rest = first :: rest := by
  rw [runFrom, runRest, List.cons_append, List.takeWhile_append_dropWhile]

theorem key_of_mem_runFrom {item : A} (hitem : item ∈ runFrom key first rest) :
    key item = key first := by
  cases hitem with
  | head => rfl
  | tail _ hmem =>
    have htaken := @List.all_takeWhile _ (fun item => decide (key item = key first)) rest
    exact of_decide_eq_true (List.all_eq_true.mp htaken item hmem)

theorem key_ne_of_mem_head?_runRest {item : A} (hitem : item ∈ (runRest key first rest).head?) :
    key item ≠ key first := by
  have hnot := List.head?_dropWhile_not (fun item => decide (key item = key first)) rest
  rw [runRest, Option.mem_def] at hitem
  rw [hitem] at hnot
  simpa using hnot

/-- What the scan takes is a run where no item of its key comes before. -/
theorem isRun_runFrom (hopens : ∀ neighbour ∈ front.getLast?, key neighbour ≠ key first) :
    IsRun key front (runFrom key first rest) (runRest key first rest) where
  nonempty := List.cons_ne_nil _ _
  constant left hleft right hright := by
    rw [key_of_mem_runFrom hleft, key_of_mem_runFrom hright]
  opens neighbour hneighbour item hitem := by
    rw [key_of_mem_runFrom hitem]
    exact hopens neighbour hneighbour
  closes neighbour hneighbour item hitem := by
    rw [key_of_mem_runFrom hitem]
    exact key_ne_of_mem_head?_runRest hneighbour

/-- After the run the scan goes on with another key. -/
theorem opens_runRest {next : A} {others : List A} (hrest : runRest key first rest = next :: others) :
    ∀ neighbour ∈ (front ++ runFrom key first rest).getLast?, key neighbour ≠ key next := by
  intro neighbour hneighbour
  have hnext : key next ≠ key first := by
    apply key_ne_of_mem_head?_runRest
    rw [hrest]
    exact rfl
  have hlast : neighbour ∈ (runFrom key first rest).getLast? := by
    have hsome : (runFrom key first rest).getLast?.isSome = true :=
      List.getLast?_isSome.mpr (List.cons_ne_nil _ _)
    rwa [List.getLast?_append, Option.or_of_isSome hsome] at hneighbour
  rw [key_of_mem_runFrom (List.mem_of_getLast? hlast)]
  exact hnext.symm

end Take

/-! ## Ranges that follow one another -/

/-- The half-open ranges lead from `start` to `stop` without gap or overlap. -/
def Consecutive : Nat → Nat → List (Nat × Nat) → Prop
  | start, stop, [] => start = stop
  | start, stop, range :: rest =>
      range.1 = start ∧ range.1 < range.2 ∧ Consecutive range.2 stop rest

namespace Consecutive

variable {start stop position : Nat} {ranges : List (Nat × Nat)}

theorem le (h : Consecutive start stop ranges) : start ≤ stop := by
  induction ranges generalizing start with
  | nil => exact h.le
  | cons range rest ih =>
    obtain ⟨hstart, hrange, hrest⟩ := h
    have hstop := ih hrest
    omega

theorem bounds (h : Consecutive start stop ranges) {range : Nat × Nat} (hrange : range ∈ ranges) :
    start ≤ range.1 ∧ range.1 < range.2 ∧ range.2 ≤ stop := by
  induction ranges generalizing start with
  | nil => cases hrange
  | cons first rest ih =>
    obtain ⟨hstart, hfirst, hrest⟩ := h
    have hstop := hrest.le
    cases hrange with
    | head => omega
    | tail _ hmem =>
      have hbounds := ih hrest hmem
      omega

/-- The ranges hold every position between their ends once. -/
theorem countP_eq_one (h : Consecutive start stop ranges) (hstart : start ≤ position)
    (hstop : position < stop) :
    ranges.countP (fun range => range.1 ≤ position ∧ position < range.2) = 1 := by
  induction ranges generalizing start with
  | nil =>
    have hend : start = stop := h
    omega
  | cons range rest ih =>
    obtain ⟨hfirst, hrange, hrest⟩ := h
    by_cases hinside : position < range.2
    · rw [List.countP_cons_of_pos (by simp; omega), Nat.add_eq_right, List.countP_eq_zero]
      intro other hother
      have hbounds := hrest.bounds hother
      simp
      omega
    · rw [List.countP_cons_of_neg (by simp; omega)]
      exact ih hrest (by omega)

end Consecutive

end CartoSentry.Foundation
