import Mathlib.Data.List.Lex
import Mathlib.Data.List.Sort
import Mathlib.Data.Prod.Lex
import CartoSentry.Matching.Contracts

set_option autoImplicit false

/-!
# Road matching: route search

`blocked_transition`, `count_u_turns` and `route`: a uniform-cost search over the
arcs of the graph, ordered by distance, then turns, then the path of arc indices,
that stops at the first arc from which the current candidate's arc may be
entered.
-/

namespace CartoSentry.Matching

/-! ## Transition rules -/

/-- The scan of `blocked_transition` with its flag. -/
def scanRules (fromArcId toArcId : String) :
    List TransitionRule → Bool → Option TransitionRejection
  | [], unknown => if unknown then some .unknownRestriction else none
  | rule :: rest, unknown =>
      if rule.fromArcId ≠ fromArcId ∨ rule.toArcId ≠ toArcId then
        scanRules fromArcId toArcId rest unknown
      else if rule.state = .forbidden then some .forbiddenTurn
      else scanRules fromArcId toArcId rest true

/-- `blocked_transition`. -/
def blockedTransition (graph : Graph) (fromArcId toArcId : String) :
    Option TransitionRejection :=
  scanRules fromArcId toArcId graph.transitionRules false

theorem scanRules_eq_none_iff {fromArcId toArcId : String} {rules : List TransitionRule}
    {unknown : Bool} :
    scanRules fromArcId toArcId rules unknown = none ↔
      unknown = false ∧ ∀ rule ∈ rules, ¬ (rule.fromArcId = fromArcId ∧ rule.toArcId = toArcId) := by
  induction rules generalizing unknown with
  | nil => cases unknown <;> simp [scanRules]
  | cons rule rest ih =>
    rw [scanRules]
    split_ifs with hother hforbidden
    · rw [ih, List.forall_mem_cons]
      tauto
    · simp only [List.forall_mem_cons, false_iff]
      tauto
    · rw [ih, List.forall_mem_cons]
      simp only [Bool.true_eq_false, false_and, false_iff]
      tauto

/-- A transition is open when no rule names its arcs. -/
theorem blockedTransition_eq_none_iff {graph : Graph} {fromArcId toArcId : String} :
    blockedTransition graph fromArcId toArcId = none ↔
      ∀ rule ∈ graph.transitionRules, ¬ (rule.fromArcId = fromArcId ∧ rule.toArcId = toArcId) := by
  rw [blockedTransition, scanRules_eq_none_iff]
  simp

theorem scanRules_reason {fromArcId toArcId : String} {rules : List TransitionRule}
    {unknown : Bool} {reason : TransitionRejection}
    (h : scanRules fromArcId toArcId rules unknown = some reason) :
    reason = .forbiddenTurn ∨ reason = .unknownRestriction := by
  induction rules generalizing unknown with
  | nil =>
    cases unknown with
    | false => simp [scanRules] at h
    | true => exact Or.inr (by simpa [scanRules] using h.symm)
  | cons rule rest ih =>
    rw [scanRules] at h
    split_ifs at h with hother hforbidden
    · exact ih h
    · exact Or.inl (by simpa using h.symm)
    · exact ih h

theorem blockedTransition_reason {graph : Graph} {fromArcId toArcId : String}
    {reason : TransitionRejection}
    (h : blockedTransition graph fromArcId toArcId = some reason) :
    reason = .forbiddenTurn ∨ reason = .unknownRestriction :=
  scanRules_reason h

/-! ## Arcs by index -/

/-- `outgoing[node_id]`; a node without departing arcs has no entry. -/
def Graph.outgoing (graph : Graph) (nodeId : String) : List Nat :=
  (List.range graph.arcs.length).filter fun index => (graph.arc index).fromNodeId = nodeId

theorem Graph.mem_outgoing {graph : Graph} {nodeId : String} {index : Nat} :
    index ∈ graph.outgoing nodeId ↔
      index < graph.arcs.length ∧ (graph.arc index).fromNodeId = nodeId := by
  simp [Graph.outgoing]

/-- Whether the pair of consecutive arcs of a path turns back on its own way. -/
def isUTurn (graph : Graph) (left right : Nat) : Bool :=
  (graph.arc left).sourceWayId = (graph.arc right).sourceWayId ∧
    (graph.arc left).direction ≠ (graph.arc right).direction

/-- `count_u_turns`. -/
def countUTurns (graph : Graph) : List Nat → Nat
  | left :: right :: rest =>
      (if isUTurn graph left right then 1 else 0) + countUTurns graph (right :: rest)
  | _ => 0

/-! ## Search state -/

structure RouteResult where
  distance : ℚ
  turnCount : Nat
  uTurnCount : Nat
  path : List Nat
  deriving DecidableEq, Repr

/-- The `std::variant` that `route` returns. -/
inductive RouteOutcome where
  | found (result : RouteResult)
  | rejected (reason : TransitionRejection)
  deriving DecidableEq, Repr

structure QueueEntry where
  distance : ℚ
  turns : Nat
  path : List Nat
  nodeId : String
  incomingArcIndex : Nat
  deriving DecidableEq, Repr

structure BestRanking where
  distance : ℚ
  turns : Nat
  path : List Nat
  deriving DecidableEq, Repr

/-- The tuple that orders rankings. -/
def BestRanking.key (ranking : BestRanking) : ℚ ×ₗ ℕ ×ₗ List ℕ :=
  toLex (ranking.distance, toLex (ranking.turns, ranking.path))

def QueueEntry.ranking (entry : QueueEntry) : BestRanking where
  distance := entry.distance
  turns := entry.turns
  path := entry.path

/-- The tuple `QueueGreater` compares: the ranking, then node and incoming arc. -/
def QueueEntry.key (entry : QueueEntry) : (ℚ ×ₗ ℕ ×ₗ List ℕ) ×ₗ String ×ₗ ℕ :=
  toLex (entry.ranking.key, toLex (entry.nodeId, entry.incomingArcIndex))

/-- `queue.push`: the queue is kept in the order in which it is popped. -/
def push (queue : List QueueEntry) (entry : QueueEntry) : List QueueEntry :=
  queue.orderedInsert (fun left right => left.key ≤ right.key) entry

structure SearchState where
  queue : List QueueEntry
  best : List ((String × Nat) × BestRanking)
  targetRejections : List TransitionRejection
  visited : Nat
  deriving DecidableEq, Repr

/-- The arguments of `route` after its own completeness checks. -/
structure RouteQuery where
  previousIndex : Nat
  currentIndex : Nat
  previousOffset : ℚ
  currentOffset : ℚ
  deriving DecidableEq, Repr

section Search

variable (graph : Graph) (parameters : TransitionParameters) (query : RouteQuery)

def initialDistance : ℚ :=
  (graph.arc query.previousIndex).length - query.previousOffset

def initialState : SearchState where
  queue := [{ distance := initialDistance graph query, turns := 0,
              path := [query.previousIndex],
              nodeId := (graph.arc query.previousIndex).toNodeId,
              incomingArcIndex := query.previousIndex }]
  best := []
  targetRejections := []
  visited := 0

/-- The entry pushed for one departing arc that is neither blocked nor beyond the
search distance. -/
def successor (item : QueueEntry) (nextIndex : Nat) : Option QueueEntry :=
  if (blockedTransition graph (graph.arc item.incomingArcIndex).arcId
      (graph.arc nextIndex).arcId).isSome then none
  else if parameters.maximumGraphSearchDistance <
      item.distance + (graph.arc nextIndex).length then none
  else some { distance := item.distance + (graph.arc nextIndex).length,
              turns := item.turns + 1, path := item.path ++ [nextIndex],
              nodeId := (graph.arc nextIndex).toNodeId, incomingArcIndex := nextIndex }

theorem successor_eq_some_iff {item entry : QueueEntry} {nextIndex : Nat} :
    successor graph parameters item nextIndex = some entry ↔
      blockedTransition graph (graph.arc item.incomingArcIndex).arcId
          (graph.arc nextIndex).arcId = none ∧
        item.distance + (graph.arc nextIndex).length ≤ parameters.maximumGraphSearchDistance ∧
          entry = { distance := item.distance + (graph.arc nextIndex).length,
                    turns := item.turns + 1, path := item.path ++ [nextIndex],
                    nodeId := (graph.arc nextIndex).toNodeId, incomingArcIndex := nextIndex } := by
  unfold successor
  split_ifs with hblocked hbudget
  · simp [Option.isSome_iff_ne_none.mp hblocked]
  · simp [not_le.mpr hbudget]
  · simp [Option.not_isSome_iff_eq_none.mp hblocked, not_lt.mp hbudget, eq_comm]

def successors (item : QueueEntry) : List QueueEntry :=
  (graph.outgoing item.nodeId).filterMap (successor graph parameters item)

/-- The path reported from an item at which the current arc may be entered.  The
current arc is not repeated when the item's path already ends with it. -/
def resultPath (item : QueueEntry) : List Nat :=
  if item.path.getLast? ≠ some query.currentIndex then item.path ++ [query.currentIndex]
  else item.path

def finish (item : QueueEntry) : RouteOutcome :=
  let path := resultPath query item
  let total := item.distance + query.currentOffset
  if parameters.maximumGraphSearchDistance < total then .rejected .graphSearchBudget
  else .found { distance := total, turnCount := path.length - 1,
                uTurnCount := countUTurns graph path, path := path }

/-- The best ranking recorded for the item's state is no worse than the item. -/
def stale (best : List ((String × Nat) × BestRanking)) (item : QueueEntry) : Bool :=
  match best.lookup (item.nodeId, item.incomingArcIndex) with
  | some found => decide (found.key ≤ item.ranking.key)
  | none => false

/-- The reason returned once the queue is empty. -/
def emptyQueueReason (targetRejections : List TransitionRejection) : TransitionRejection :=
  if .forbiddenTurn ∈ targetRejections then .forbiddenTurn
  else if .unknownRestriction ∈ targetRejections then .unknownRestriction
  else .noDirectedPath

/-- The reason the current arc may not be entered from the item, `some none` where
it may, and `none` where the item does not end at the current arc's start. -/
def targetTest (item : QueueEntry) : Option (Option TransitionRejection) :=
  let currentArc := graph.arc query.currentIndex
  if item.nodeId = currentArc.fromNodeId then
    some (blockedTransition graph (graph.arc item.incomingArcIndex).arcId currentArc.arcId)
  else none

/-- One iteration of the search loop: a new state, or the outcome. -/
def searchStep (state : SearchState) : SearchState ⊕ RouteOutcome :=
  match state.queue with
  | [] => .inr (.rejected (emptyQueueReason state.targetRejections))
  | item :: rest =>
      if stale state.best item then .inl { state with queue := rest }
      else
        let best := ((item.nodeId, item.incomingArcIndex), item.ranking) :: state.best
        let visited := state.visited + 1
        let queue := (successors graph parameters item).foldl push rest
        if parameters.maximumGraphSearchStates < visited then .inr (.rejected .graphSearchBudget)
        else
          match targetTest graph query item with
          | some none => .inr (finish graph parameters query item)
          | some (some blocked) =>
              .inl { queue := queue, best := best, visited := visited,
                     targetRejections := blocked :: state.targetRejections }
          | none =>
              .inl { queue := queue, best := best, visited := visited,
                     targetRejections := state.targetRejections }

/-- An iteration that continues visits one more state of a bounded number, or
drops a queue entry. -/
theorem searchStep_decreases {state next : SearchState}
    (h : searchStep graph parameters query state = .inl next) :
    Prod.Lex (· < ·) (· < ·)
      (parameters.maximumGraphSearchStates + 1 - next.visited, next.queue.length)
      (parameters.maximumGraphSearchStates + 1 - state.visited, state.queue.length) := by
  unfold searchStep at h
  cases hqueue : state.queue with
  | nil => simp [hqueue] at h
  | cons item rest =>
    simp only [hqueue] at h
    split_ifs at h with hstale hbudget
    · rw [← Sum.inl.inj h]
      exact .right _ (by simp)
    · have hvisited : next.visited = state.visited + 1 := by
        cases htarget : targetTest graph query item with
        | none =>
          simp only [htarget] at h
          rw [← Sum.inl.inj h]
        | some blocked =>
          cases blocked with
          | none => simp [htarget] at h
          | some reason =>
            simp only [htarget] at h
            rw [← Sum.inl.inj h]
      exact .left _ _ (by omega)

/-- The search loop.  It ends on every input. -/
def searchLoop (state : SearchState) : RouteOutcome :=
  match _h : searchStep graph parameters query state with
  | .inr outcome => outcome
  | .inl next => searchLoop next
termination_by (parameters.maximumGraphSearchStates + 1 - state.visited, state.queue.length)
decreasing_by exact searchStep_decreases graph parameters query ‹_›

theorem searchLoop_continue {state next : SearchState}
    (h : searchStep graph parameters query state = .inl next) :
    searchLoop graph parameters query state = searchLoop graph parameters query next := by
  rw [searchLoop]
  split
  · next outcome hstep => simp [h] at hstep
  · next other hstep =>
    rw [h] at hstep
    rw [Sum.inl.inj hstep]

theorem searchLoop_stop {state : SearchState} {outcome : RouteOutcome}
    (h : searchStep graph parameters query state = .inr outcome) :
    searchLoop graph parameters query state = outcome := by
  rw [searchLoop]
  split
  · next other hstep =>
    rw [h] at hstep
    exact (Sum.inr.inj hstep).symm
  · next next hstep => simp [h] at hstep

/-- The outcome within a number of iterations. -/
def searchWithin : Nat → SearchState → Option RouteOutcome
  | 0, _ => none
  | fuel + 1, state =>
      match searchStep graph parameters query state with
      | .inr outcome => some outcome
      | .inl next => searchWithin fuel next

theorem searchLoop_of_within {fuel : Nat} {state : SearchState} {outcome : RouteOutcome}
    (h : searchWithin graph parameters query fuel state = some outcome) :
    searchLoop graph parameters query state = outcome := by
  induction fuel generalizing state with
  | zero => simp [searchWithin] at h
  | succ fuel ih =>
    rw [searchWithin] at h
    cases hstep : searchStep graph parameters query state with
    | inr stopped =>
      rw [hstep] at h
      rw [searchLoop_stop graph parameters query hstep]
      exact Option.some.inj h
    | inl next =>
      rw [hstep] at h
      rw [searchLoop_continue graph parameters query hstep]
      exact ih h

/-- The query moves forwards on one arc. -/
def RouteQuery.Immediate (query : RouteQuery) : Prop :=
  query.previousIndex = query.currentIndex ∧ query.previousOffset ≤ query.currentOffset

instance : Decidable query.Immediate :=
  inferInstanceAs (Decidable (_ ∧ _))

/-- `route` between two positions on the graph. -/
def routeBetween : RouteOutcome :=
  if query.Immediate then
    .found { distance := query.currentOffset - query.previousOffset, turnCount := 0,
             uTurnCount := 0, path := [query.previousIndex] }
  else if parameters.maximumGraphSearchDistance < initialDistance graph query then
    .rejected .graphSearchBudget
  else searchLoop graph parameters query (initialState graph query)

end Search

/-- The completeness checks at the head of `route`. -/
def routeQuery (graph : Graph) (previous current : Candidate) :
    Except InvalidArgument RouteQuery :=
  match previous.arcIndex, current.arcIndex, previous.alongArcOffset, current.alongArcOffset with
  | some previousIndex, some currentIndex, some previousOffset, some currentOffset =>
      if graph.arcs.length ≤ previousIndex ∨ graph.arcs.length ≤ currentIndex then
        .error ⟨"native on-road candidate is incomplete"⟩
      else .ok { previousIndex, currentIndex, previousOffset, currentOffset }
  | _, _, _, _ => .error ⟨"native on-road candidate is incomplete"⟩

/-- `route`. -/
def route (graph : Graph) (previous current : Candidate) (parameters : TransitionParameters) :
    Except InvalidArgument RouteOutcome := do
  let query ← routeQuery graph previous current
  return routeBetween graph parameters query

end CartoSentry.Matching
