import Mathlib.Data.Set.Card
import CartoSentry.Matching.RouteExact

set_option autoImplicit false

/-!
# Road matching: why a route is rejected

A rejection that names a missing path or a blocked turn tells the truth unless
the search dropped successors beyond the search distance: where every legal path
lies beyond it, the emptied queue is reported as if no path existed.
-/

namespace CartoSentry.Matching

open Foundation.BestFirst

section Reasons

variable (graph : Graph) (parameters : TransitionParameters) (query : RouteQuery)

/-- What a rejection claims about the legal paths. -/
structure TruthfulRejection (reason : TransitionRejection) : Prop where
  /-- No directed path means that there is none of any length. -/
  noPath : reason = .noDirectedPath → ¬ ∃ path, LegalPath graph query path
  /-- A blocked turn means that there is no legal path, and that some legal approach
  to the current arc is blocked by a rule of that kind. -/
  blockedTurn : reason = .forbiddenTurn ∨ reason = .unknownRestriction →
    (¬ ∃ path, LegalPath graph query path) ∧
      ∃ walk index, Walk (Follows graph) query.previousIndex walk index ∧
        AtTarget graph query index ∧ entryBlocked graph query index = some reason
  /-- A legal path that was not returned is beyond a budget. -/
  budget : (∃ path, LegalPath graph query path) → reason = .graphSearchBudget

/-- Every rejection of the route search is truthful. -/
def RejectsTruthfully (previous current : Candidate) : Prop :=
  ∀ reason, route graph previous current parameters = .ok (.rejected reason) →
    TruthfulRejection graph query reason

/-- The arcs at the end of legal walks inside the search distance. -/
def arcsWithinDistance : Set Nat :=
  { index | ∃ walk, Walk (Follows graph) query.previousIndex walk index ∧
    travelled graph query walk ≤ parameters.maximumGraphSearchDistance }

/-- A search that may visit all it reaches, while every legal path needs more than
the search distance before its last arc, and there is such a path. -/
structure AllPathsOverlong : Prop where
  searches : query.Searches graph parameters
  legal : ∃ path, LegalPath graph query path
  overlong : ∀ path, LegalPath graph query path →
    parameters.maximumGraphSearchDistance < travelled graph query path.dropLast
  visited : (arcsWithinDistance graph parameters query).ncard ≤ parameters.maximumGraphSearchStates

end Reasons

section Truthful

variable {graph : Graph} {parameters : TransitionParameters} {query : RouteQuery}

theorem Walk.index_lt {start index : Nat} {walk : List Nat}
    (hwalk : Walk (Follows graph) start walk index) (hstart : start < graph.arcs.length) :
    index < graph.arcs.length := by
  cases hwalk with
  | single => exact hstart
  | snoc _ hnext => exact hnext.1

theorem arcsWithinDistance_finite (hquery : query.Valid graph) :
    (arcsWithinDistance graph parameters query).Finite := by
  apply (Set.finite_lt_nat graph.arcs.length).subset
  intro index ⟨walk, hwalk, _⟩
  exact Walk.index_lt hwalk hquery.previousArc

/-- Distinct arcs within the distance are at most as many as there are. -/
theorem length_le_ncard (hquery : query.Valid graph) {expanded : List Nat}
    (hdistinct : expanded.Nodup)
    (hreached : ∀ index ∈ expanded, index ∈ arcsWithinDistance graph parameters query) :
    expanded.length ≤ (arcsWithinDistance graph parameters query).ncard := by
  rw [← List.toFinset_card_of_nodup hdistinct, ← Set.ncard_coe_finset]
  apply Set.ncard_le_ncard _ (arcsWithinDistance_finite hquery)
  intro index hindex
  exact hreached index (by simpa using hindex)

theorem ncard_eq_length {expanded : List Nat} (hdistinct : expanded.Nodup)
    (hreached : ∀ index, index ∈ expanded ↔ index ∈ arcsWithinDistance graph parameters query) :
    (arcsWithinDistance graph parameters query).ncard = expanded.length := by
  rw [← List.toFinset_card_of_nodup hdistinct, ← Set.ncard_coe_finset]
  congr 1
  ext index
  simp [hreached]

theorem emptyQueueReason_ne_budget (rejections : List TransitionRejection) :
    emptyQueueReason rejections ≠ .graphSearchBudget := by
  unfold emptyQueueReason
  split_ifs <;> simp

theorem mem_of_emptyQueueReason {rejections : List TransitionRejection}
    {reason : TransitionRejection} (hreason : emptyQueueReason rejections = reason)
    (hblocked : reason = .forbiddenTurn ∨ reason = .unknownRestriction) : reason ∈ rejections := by
  unfold emptyQueueReason at hreason
  split_ifs at hreason with hforbidden hunknown
  · rwa [← hreason]
  · rwa [← hreason]
  · rw [← hreason] at hblocked
    simp at hblocked

theorem truthful_budget : TruthfulRejection graph query .graphSearchBudget where
  noPath := by simp
  blockedTurn := by simp
  budget _ := rfl

/-- With no legal path, the reason of an emptied queue is truthful. -/
theorem truthful_of_no_path (hvalid : graph.Valid) {rejections : List TransitionRejection}
    (hnone : ¬ ∃ path, LegalPath graph query path)
    (hrejections : ∀ reason, reason ∈ rejections ↔
      ∃ index ∈ reachedArcs hvalid parameters query,
        AtTarget graph query index ∧ entryBlocked graph query index = some reason) :
    TruthfulRejection graph query (emptyQueueReason rejections) where
  noPath _ := hnone
  blockedTurn := by
    intro hblocked
    refine ⟨hnone, ?_⟩
    have hmem := mem_of_emptyQueueReason rfl hblocked
    obtain ⟨index, ⟨walk, hreach⟩, hat, hreason⟩ := (hrejections _).mp hmem
    exact ⟨walk, index, hreach.1, hat, hreason⟩
  budget hlegal := absurd hlegal hnone

/-- A search that ends without an entry has every legal path beyond its distance. -/
theorem overlong_of_no_entry (hvalid : graph.Valid) (hsearches : query.Searches graph parameters)
    (hnoEntry : ∀ index ∈ reachedArcs hvalid parameters query,
      AtTarget graph query index → entryBlocked graph query index ≠ none)
    {path : List Nat} (hpath : LegalPath graph query path) :
    parameters.maximumGraphSearchDistance < travelled graph query path.dropLast := by
  rcases hpath.cases with ⟨himmediate, -⟩ | ⟨walk, index, hwalk, hat, hopen, rfl⟩
  · exact absurd himmediate hsearches.1
  · rw [List.dropLast_concat]
    by_contra hwithin
    exact hnoEntry index ⟨walk, hwalk, not_lt.mp hwithin⟩ hat hopen

/-- What an overlong search reports is no budget. -/
theorem searchLoop_of_overlong (hvalid : graph.Valid) (hquery : query.Valid graph)
    (h : AllPathsOverlong graph parameters query) :
    ∃ rejections, searchLoop graph parameters query (initialState graph query) =
      .rejected (emptyQueueReason rejections) := by
  have hend := searchLoop_end (searchInvariant_initial hvalid h.searches.2)
  generalize searchLoop graph parameters query (initialState graph query) = outcome at hend
  cases hend with
  | states hdistinct hreached hover =>
    have hcount := (length_le_ncard hquery hdistinct hreached).trans h.visited
    exact absurd hover (not_lt.mpr hcount)
  | target hreach htarget hopen _ =>
    have hlong := h.overlong _ (legalPath_append hquery hreach.1 htarget hopen)
    rw [List.dropLast_concat] at hlong
    exact absurd hreach.2 (not_le.mpr hlong)
  | exhausted _ _ _ _ _ => exact ⟨_, rfl⟩

/-- Off an overlong search every rejection is truthful. -/
theorem truthful_of_rejected (hvalid : graph.Valid) (h : ¬ AllPathsOverlong graph parameters query)
    {reason : TransitionRejection}
    (hrejected : routeBetween graph parameters query = .rejected reason) :
    TruthfulRejection graph query reason := by
  by_cases himmediate : query.Immediate
  · rw [routeBetween_immediate himmediate] at hrejected
    simp at hrejected
  · by_cases hinitial : initialDistance graph query ≤ parameters.maximumGraphSearchDistance
    · rw [routeBetween_search himmediate hinitial] at hrejected
      have hend := searchLoop_end (searchInvariant_initial hvalid hinitial)
      rw [hrejected] at hend
      generalize houtcome : RouteOutcome.rejected reason = outcome at hend
      cases hend with
      | states _ _ _ =>
        rw [RouteOutcome.rejected.inj houtcome]
        exact truthful_budget
      | target _ _ _ _ =>
        unfold finish at houtcome
        simp only at houtcome
        split_ifs at houtcome
        rw [RouteOutcome.rejected.inj houtcome]
        exact truthful_budget
      | exhausted hdistinct hreached hbudget hnoEntry hrejections =>
        rw [RouteOutcome.rejected.inj houtcome]
        apply truthful_of_no_path hvalid _ hrejections
        intro hlegal
        apply h
        refine ⟨⟨himmediate, hinitial⟩, hlegal, ?_, ?_⟩
        · intro path hpath
          exact overlong_of_no_entry hvalid ⟨himmediate, hinitial⟩ hnoEntry hpath
        · rw [ncard_eq_length hdistinct hreached]
          exact hbudget
    · rw [routeBetween_overlong himmediate (not_le.mp hinitial)] at hrejected
      rw [← RouteOutcome.rejected.inj hrejected]
      exact truthful_budget

end Truthful

namespace LongRoad

/-- Roads `first`, `middle` and `last` in a row, the middle one 5000 long. -/
def graph : Graph where
  arcs := [{ arcId := "first", fromNodeId := "a", toNodeId := "b", sourceWayId := 1,
             direction := .forward, length := 100, geometry := [⟨0, 0⟩, ⟨100, 0⟩] },
           { arcId := "last", fromNodeId := "c", toNodeId := "d", sourceWayId := 3,
             direction := .forward, length := 100, geometry := [⟨5100, 0⟩, ⟨5200, 0⟩] },
           { arcId := "middle", fromNodeId := "b", toNodeId := "c", sourceWayId := 2,
             direction := .forward, length := 5000, geometry := [⟨100, 0⟩, ⟨5100, 0⟩] }]
  transitionRules := []

/-- A candidate on an arc, 50 along it. -/
def candidateOn (observationIndex arcIndex : Nat) : Candidate :=
  { LoopRoad.candidateAt observationIndex 50 with arcIndex := some arcIndex }

def query (previousIndex currentIndex : Nat) : RouteQuery where
  previousIndex := previousIndex
  currentIndex := currentIndex
  previousOffset := 50
  currentOffset := 50

theorem graph_valid : graph.Valid := by decide +kernel

theorem path_legal : LegalPath graph (query 0 1) [0, 2, 1] where
  starts := rfl
  ends := rfl
  connected := by
    apply List.IsChain.cons_cons
    · exact ⟨by decide, by decide +kernel, by decide +kernel⟩
    · apply List.IsChain.cons_cons
      · exact ⟨by decide, by decide +kernel, by decide +kernel⟩
      · exact List.isChain_singleton _
  forwards := by simp

end LongRoad

end CartoSentry.Matching
