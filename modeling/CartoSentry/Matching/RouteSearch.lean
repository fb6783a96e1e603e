import Mathlib.Algebra.BigOperators.Group.List.Basic
import Mathlib.Tactic.Linarith
import CartoSentry.Foundation.BestFirst
import CartoSentry.Matching.Route

set_option autoImplicit false

/-!
# Road matching: what the route search explores

Legal paths between two positions, the search problem whose walks are their
fronts, the invariant of the search loop, and what holds when it ends.
-/

namespace CartoSentry.Matching

open Foundation.BestFirst

/-! ## Legal paths -/

section Paths

variable (graph : Graph) (query : RouteQuery)

/-- The arc may be entered from the other: they share a node and no rule forbids
the turn or leaves it unknown. -/
def Follows (left right : Nat) : Prop :=
  right < graph.arcs.length ∧ (graph.arc left).toNodeId = (graph.arc right).fromNodeId ∧
    blockedTransition graph (graph.arc left).arcId (graph.arc right).arcId = none

/-- A path from the previous to the current position.  A single arc is one only
forwards. -/
structure LegalPath (path : List Nat) : Prop where
  starts : path.head? = some query.previousIndex
  ends : path.getLast? = some query.currentIndex
  connected : path.IsChain (Follows graph)
  forwards : path.length = 1 → query.previousOffset ≤ query.currentOffset

/-- The rest of the first arc and the whole of the arcs after it. -/
def travelled : List Nat → ℚ
  | [] => 0
  | first :: rest =>
      (graph.arc first).length - query.previousOffset +
        (rest.map fun index => (graph.arc index).length).sum

/-- The length of a path between the two positions. -/
def pathDistance (path : List Nat) : ℚ :=
  if path.length = 1 then query.currentOffset - query.previousOffset
  else travelled graph query path.dropLast + query.currentOffset

/-- The order of paths: distance, then arc changes, then arc indices. -/
def pathRank (path : List Nat) : ℚ ×ₗ ℕ ×ₗ List ℕ :=
  toLex (pathDistance graph query path, toLex (path.length - 1, path))

/-- The ranking the search gives to a walk. -/
def walkRanking (walk : List Nat) : BestRanking where
  distance := travelled graph query walk
  turns := walk.length - 1
  path := walk

theorem travelled_append {walk : List Nat} (hwalk : walk ≠ []) (index : Nat) :
    travelled graph query (walk ++ [index]) =
      travelled graph query walk + (graph.arc index).length := by
  cases walk with
  | nil => exact absurd rfl hwalk
  | cons first rest =>
    simp only [List.cons_append, travelled, List.map_append, List.map_cons, List.map_nil,
      List.sum_append, List.sum_cons, List.sum_nil, add_zero]
    exact (add_assoc ..).symm

theorem pathDistance_append {walk : List Nat} (hwalk : walk ≠ []) (index : Nat) :
    pathDistance graph query (walk ++ [index]) =
      travelled graph query walk + query.currentOffset := by
  have hlength : (walk ++ [index]).length ≠ 1 := by
    have hpos := List.length_pos_of_ne_nil hwalk
    simp
    omega
  rw [pathDistance, if_neg hlength, List.dropLast_concat]

end Paths

/-- Lists of one length keep their order under a common extension. -/
theorem append_le_append_of_length_eq {left right : List ℕ} (hlength : left.length = right.length)
    (hle : left ≤ right) (extension : List ℕ) : left ++ extension ≤ right ++ extension := by
  rcases hle.lt_or_eq with hlt | rfl
  · apply le_of_lt
    induction left generalizing right with
    | nil =>
      cases right with
      | nil => exact absurd hlt (lt_irrefl _)
      | cons head tail => simp at hlength
    | cons head tail ih =>
      cases right with
      | nil => simp at hlength
      | cons other rest =>
        rw [List.cons_append, List.cons_append]
        have htail : tail.length = rest.length := by simpa using hlength
        rcases List.cons_lt_cons_iff.mp hlt with hhead | ⟨rfl, hrest⟩
        · exact List.cons_lt_cons_iff.mpr (Or.inl hhead)
        · exact List.cons_lt_cons_iff.mpr (Or.inr ⟨rfl, ih htail hrest.le hrest⟩)
  · exact le_rfl

/-- A later component counts only where the earlier ones agree. -/
theorem rank_le_rank_of {d d' e e' : ℚ} {m m' : ℕ} {left right : List ℕ}
    (h : toLex (d, toLex (m, left)) ≤ toLex (d', toLex (m', right)))
    (hdistance : d ≤ d' → e ≤ e') (hstrict : d < d' → e < e')
    {n n' : ℕ} {left' right' : List ℕ} (hturns : m < m' → n < n') (hsame : m = m' → n = n')
    (hpath : m = m' → left ≤ right → left' ≤ right') :
    toLex (e, toLex (n, left')) ≤ toLex (e', toLex (n', right')) := by
  rw [Prod.Lex.toLex_le_toLex] at h ⊢
  rcases h with hlt | ⟨heq, hrest⟩
  · exact Or.inl (hstrict hlt)
  · rcases (hdistance heq.le).lt_or_eq with hlt | heq'
    · exact Or.inl hlt
    · refine Or.inr ⟨heq', ?_⟩
      simp only at hrest ⊢
      rw [Prod.Lex.toLex_le_toLex] at hrest ⊢
      rcases hrest with hfewer | ⟨hequal, hle⟩
      · exact Or.inl (hturns hfewer)
      · exact Or.inr ⟨hsame hequal, hpath hequal hle⟩

section Problem

variable {graph : Graph} (hvalid : graph.Valid) (parameters : TransitionParameters)
  (query : RouteQuery)

/-- The search problem of `route`: walks over the arcs from the previous arc, in
the order of their rankings, inside the search distance. -/
def routeProblem : Problem Nat (ℚ ×ₗ ℕ ×ₗ List ℕ) where
  next := Follows graph
  start := query.previousIndex
  key walk := (walkRanking graph query walk).key
  within walk := travelled graph query walk ≤ parameters.maximumGraphSearchDistance
  key_extend := by
    intro walk a b hwalk hnext
    have hpos := hvalid.arc_length_pos hnext.1
    rw [BestRanking.key, BestRanking.key, Prod.Lex.toLex_lt_toLex]
    apply Or.inl
    simp only [walkRanking, travelled_append graph query hwalk.ne_nil]
    linarith
  key_append := by
    intro left right a b hleft hright hnext hle
    have hleftLength := List.length_pos_of_ne_nil hleft.ne_nil
    have hrightLength := List.length_pos_of_ne_nil hright.ne_nil
    refine rank_le_rank_of hle ?_ ?_ ?_ ?_ ?_
    · simp only [walkRanking, travelled_append graph query hleft.ne_nil,
        travelled_append graph query hright.ne_nil]
      intro hdistance
      linarith
    · simp only [walkRanking, travelled_append graph query hleft.ne_nil,
        travelled_append graph query hright.ne_nil]
      intro hdistance
      linarith
    · simp only [walkRanking, List.length_append, List.length_singleton]
      omega
    · simp only [walkRanking, List.length_append, List.length_singleton]
      omega
    · intro hsame hpath
      simp only [walkRanking] at hsame hpath ⊢
      exact append_le_append_of_length_eq (by omega) hpath [b]
  within_of_le := by
    intro left right a b hleft hright hle hwithin
    rw [BestRanking.key, BestRanking.key, Prod.Lex.toLex_le_toLex] at hle
    simp only [walkRanking] at hle
    rcases hle with hlt | ⟨heq, -⟩
    · exact hlt.le.trans hwithin
    · exact heq.le.trans hwithin

/-- The node at which a walk ending with the arc stands is the start of the
current arc. -/
def AtTarget (graph : Graph) (query : RouteQuery) (index : Nat) : Prop :=
  (graph.arc index).toNodeId = (graph.arc query.currentIndex).fromNodeId

instance (graph : Graph) (query : RouteQuery) (index : Nat) :
    Decidable (AtTarget graph query index) :=
  inferInstanceAs (Decidable (_ = _))

/-- What the rules say about entering the current arc from the arc. -/
def entryBlocked (graph : Graph) (query : RouteQuery) (index : Nat) :
    Option TransitionRejection :=
  blockedTransition graph (graph.arc index).arcId (graph.arc query.currentIndex).arcId

/-! ## Invariant of the search -/

/-- The entry that stands for a walk. -/
def entryFor (graph : Graph) (query : RouteQuery) (item : List Nat × Nat) : QueueEntry where
  distance := travelled graph query item.1
  turns := item.1.length - 1
  path := item.1
  nodeId := (graph.arc item.2).toNodeId
  incomingArcIndex := item.2

@[simp] theorem entryFor_ranking (item : List Nat × Nat) :
    (entryFor graph query item).ranking = walkRanking graph query item.1 := rfl

/-- The loop's state, with the walks it queues and the arcs it has expanded. -/
structure SearchInvariant (state : SearchState) (walks : List (List Nat × Nat))
    (settled : List (Nat × List Nat)) : Prop where
  frontier : Frontier (routeProblem hvalid parameters query) walks settled
  queue : state.queue = walks.map (entryFor graph query)
  sorted : state.queue.Pairwise fun left right => left.key ≤ right.key
  best : state.best = settled.map fun label =>
    (((graph.arc label.1).toNodeId, label.1), walkRanking graph query label.2)
  visited : state.visited = settled.length
  budget : settled.length ≤ parameters.maximumGraphSearchStates
  noEntry : ∀ label ∈ settled, AtTarget graph query label.1 → entryBlocked graph query label.1 ≠ none
  rejections : ∀ reason, reason ∈ state.targetRejections ↔
    ∃ label ∈ settled, AtTarget graph query label.1 ∧
      entryBlocked graph query label.1 = some reason

variable {parameters query} {hvalid} {state : SearchState} {walks : List (List Nat × Nat)}
  {settled : List (Nat × List Nat)}

theorem searchInvariant_initial (hvalid : graph.Valid)
    (hwithin : initialDistance graph query ≤ parameters.maximumGraphSearchDistance) :
    SearchInvariant hvalid parameters query (initialState graph query)
      [([query.previousIndex], query.previousIndex)] [] where
  frontier := by
    apply Frontier.initial (routeProblem hvalid parameters query)
    simpa [routeProblem, travelled, initialDistance] using hwithin
  queue := by simp [initialState, entryFor, travelled, initialDistance]
  sorted := List.pairwise_singleton _ _
  best := rfl
  visited := rfl
  budget := Nat.zero_le _
  noEntry := by simp
  rejections := by simp [initialState]

theorem lookup_settled {index : Nat} :
    (settled.map fun label =>
        (((graph.arc label.1).toNodeId, label.1), walkRanking graph query label.2)).lookup
          ((graph.arc index).toNodeId, index) =
      (settled.lookup index).map (walkRanking graph query) := by
  induction settled with
  | nil => rfl
  | cons label rest ih =>
    obtain ⟨other, walk⟩ := label
    rw [List.map_cons, List.lookup_cons, List.lookup_cons]
    by_cases hsame : index = other
    · subst hsame
      simp
    · have hindex : (index == other) = false := beq_false_of_ne hsame
      have hstate : (((graph.arc index).toNodeId, index) ==
          ((graph.arc other).toNodeId, other)) = false := by
        apply beq_false_of_ne
        intro hpair
        exact hsame (Prod.mk.inj hpair).2
      rw [hindex, hstate]
      exact ih

theorem mem_of_lookup_eq_some {index : Nat} {walk : List Nat}
    (h : settled.lookup index = some walk) : (index, walk) ∈ settled := by
  obtain ⟨front, back, hsplit, -⟩ := List.lookup_eq_some_iff.mp h
  rw [hsplit]
  exact List.mem_append_right _ List.mem_cons_self

theorem lookup_eq_none_iff_notMem {index : Nat} :
    settled.lookup index = none ↔ index ∉ settled.map Prod.fst := by
  rw [List.lookup_eq_none_iff, List.mem_map]
  constructor
  · intro hnone ⟨label, hlabel, hindex⟩
    exact bne_iff_ne.mp (hnone label hlabel) hindex.symm
  · intro hnone label hlabel
    apply bne_iff_ne.mpr
    intro hindex
    exact hnone ⟨label, hlabel, hindex.symm⟩

/-- An entry is stale exactly when its arc has been expanded. -/
theorem stale_iff {item : List Nat × Nat} {rest : List (List Nat × Nat)}
    (h : SearchInvariant hvalid parameters query state (item :: rest) settled) :
    stale state.best (entryFor graph query item) = true ↔ item.2 ∈ settled.map Prod.fst := by
  have hlookupBest : state.best.lookup ((entryFor graph query item).nodeId,
      (entryFor graph query item).incomingArcIndex) =
        (settled.lookup item.2).map (walkRanking graph query) := by
    rw [h.best]
    exact lookup_settled
  unfold stale
  rw [hlookupBest]
  cases hlookup : settled.lookup item.2 with
  | none => simpa using lookup_eq_none_iff_notMem.mp hlookup
  | some walk =>
    have hmem := mem_of_lookup_eq_some hlookup
    have hle := h.frontier.before _ hmem item List.mem_cons_self
    constructor
    · intro _
      exact List.mem_map_of_mem hmem
    · intro _
      exact decide_eq_true hle

theorem mem_foldl_push {added queue : List QueueEntry} {entry : QueueEntry} :
    entry ∈ added.foldl push queue ↔ entry ∈ queue ∨ entry ∈ added := by
  induction added generalizing queue with
  | nil => simp
  | cons head tail ih =>
    rw [List.foldl_cons, ih, push, List.mem_orderedInsert, List.mem_cons]
    tauto

theorem sorted_foldl_push {added queue : List QueueEntry}
    (h : queue.Pairwise fun left right => left.key ≤ right.key) :
    (added.foldl push queue).Pairwise fun left right => left.key ≤ right.key := by
  induction added generalizing queue with
  | nil => exact h
  | cons head tail ih => exact ih (h.orderedInsert head queue)

/-- The entries pushed for an item are those of its walk's extensions. -/
theorem mem_successors {item : List Nat × Nat} (hwalk : item.1 ≠ []) {entry : QueueEntry} :
    entry ∈ successors graph parameters (entryFor graph query item) ↔
      ∃ index, Follows graph item.2 index ∧
        travelled graph query (item.1 ++ [index]) ≤ parameters.maximumGraphSearchDistance ∧
          entry = entryFor graph query (item.1 ++ [index], index) := by
  have hlength := List.length_pos_of_ne_nil hwalk
  have hentry (index : Nat) : entryFor graph query (item.1 ++ [index], index) =
      { distance := travelled graph query item.1 + (graph.arc index).length,
        turns := item.1.length - 1 + 1, path := item.1 ++ [index],
        nodeId := (graph.arc index).toNodeId, incomingArcIndex := index } := by
    simp only [entryFor, travelled_append graph query hwalk, List.length_append,
      List.length_singleton]
    congr 1
    omega
  simp only [successors, List.mem_filterMap, Graph.mem_outgoing, successor_eq_some_iff, hentry,
    travelled_append graph query hwalk, Follows]
  simp only [entryFor]
  constructor
  · rintro ⟨index, ⟨hindex, hnode⟩, hopen, hbudget, rfl⟩
    exact ⟨index, ⟨hindex, hnode.symm, hopen⟩, hbudget, rfl⟩
  · rintro ⟨index, ⟨hindex, hnode, hopen⟩, hbudget, rfl⟩
    exact ⟨index, ⟨hindex, hnode.symm⟩, hopen, hbudget, rfl⟩

/-! ## One iteration -/

section Iteration

variable {item : List Nat × Nat} {rest : List (List Nat × Nat)}

/-- The head of the queue has the least ranking. -/
theorem head_least
    (h : SearchInvariant hvalid parameters query state (item :: rest) settled) :
    ∀ other ∈ rest, (routeProblem hvalid parameters query).key item.1 ≤
      (routeProblem hvalid parameters query).key other.1 := by
  intro other hother
  have hsorted := h.sorted
  rw [h.queue, List.map_cons, List.pairwise_cons] at hsorted
  have hle := hsorted.1 _ (List.mem_map_of_mem hother)
  rw [QueueEntry.key, QueueEntry.key, Prod.Lex.toLex_le_toLex] at hle
  rcases hle with hlt | ⟨heq, -⟩
  · exact hlt.le
  · exact heq.le

theorem drop_stale
    (h : SearchInvariant hvalid parameters query state (item :: rest) settled)
    (hsettled : item.2 ∈ settled.map Prod.fst) :
    SearchInvariant hvalid parameters query
      { state with queue := rest.map (entryFor graph query) } rest settled where
  frontier := h.frontier.discard hsettled
  queue := rfl
  sorted := by
    have hsorted := h.sorted
    rw [h.queue, List.map_cons] at hsorted
    exact hsorted.tail
  best := h.best
  visited := h.visited
  budget := h.budget
  noEntry := h.noEntry
  rejections := h.rejections

/-- The state after the head of the queue has been expanded. -/
def expandedState (graph : Graph) (parameters : TransitionParameters) (query : RouteQuery)
    (state : SearchState) (item : List Nat × Nat) (rest : List (List Nat × Nat)) : SearchState where
  queue := (successors graph parameters (entryFor graph query item)).foldl push
    (rest.map (entryFor graph query))
  best := (((graph.arc item.2).toNodeId, item.2), walkRanking graph query item.1) :: state.best
  targetRejections :=
    if AtTarget graph query item.2 then
      (entryBlocked graph query item.2).toList ++ state.targetRejections
    else state.targetRejections
  visited := state.visited + 1

theorem expand_invariant
    (h : SearchInvariant hvalid parameters query state (item :: rest) settled)
    (hfresh : item.2 ∉ settled.map Prod.fst)
    (hbudget : settled.length + 1 ≤ parameters.maximumGraphSearchStates)
    (hentry : AtTarget graph query item.2 → entryBlocked graph query item.2 ≠ none) :
    ∃ walks, SearchInvariant hvalid parameters query
      (expandedState graph parameters query state item rest) walks
      ((item.2, item.1) :: settled) := by
  have hreach := h.frontier.queued item List.mem_cons_self
  have hpushed (entry : QueueEntry) :
      entry ∈ (expandedState graph parameters query state item rest).queue ↔
        entry ∈ rest.map (entryFor graph query) ∨ ∃ index, Follows graph item.2 index ∧
          travelled graph query (item.1 ++ [index]) ≤ parameters.maximumGraphSearchDistance ∧
            entry = entryFor graph query (item.1 ++ [index], index) := by
    rw [← mem_successors hreach.1.ne_nil]
    exact mem_foldl_push
  have hqueue : (expandedState graph parameters query state item rest).queue =
      ((expandedState graph parameters query state item rest).queue.map fun entry =>
        (entry.path, entry.incomingArcIndex)).map (entryFor graph query) := by
    have hentry : ∀ entry ∈ (expandedState graph parameters query state item rest).queue,
        entry = entryFor graph query (entry.path, entry.incomingArcIndex) := by
      intro entry hmem
      rcases (hpushed entry).mp hmem with hold | ⟨index, -, -, rfl⟩
      · obtain ⟨other, -, rfl⟩ := List.mem_map.mp hold
        rfl
      · rfl
    rw [List.map_map]
    exact (List.map_id _).symm.trans (List.map_congr_left hentry)
  refine ⟨_, ?_, hqueue, ?_, ?_, ?_, hbudget, ?_, ?_⟩
  · apply h.frontier.settle (head_least h) hfresh
    intro walk
    rw [List.mem_map]
    constructor
    · rintro ⟨entry, hmem, rfl⟩
      rcases (hpushed entry).mp hmem with hold | ⟨index, hnext, hwithin, rfl⟩
      · obtain ⟨other, hother, rfl⟩ := List.mem_map.mp hold
        exact Or.inl hother
      · exact Or.inr ⟨index, hnext, hwithin, rfl⟩
    · rintro (hold | ⟨index, hnext, hwithin, rfl⟩)
      · exact ⟨entryFor graph query walk, (hpushed _).mpr (Or.inl (List.mem_map_of_mem hold)), rfl⟩
      · exact ⟨_, (hpushed _).mpr (Or.inr ⟨index, hnext, hwithin, rfl⟩), rfl⟩
  · apply sorted_foldl_push
    have hsorted := h.sorted
    rw [h.queue, List.map_cons] at hsorted
    exact hsorted.tail
  · simp only [expandedState, h.best, List.map_cons]
  · simp only [expandedState, h.visited, List.length_cons]
  · intro label hlabel
    rcases List.mem_cons.mp hlabel with rfl | hold
    · exact hentry
    · exact h.noEntry label hold
  · intro reason
    have hold := h.rejections reason
    simp only [expandedState, List.exists_mem_cons_iff]
    split_ifs with htarget
    · rw [List.mem_append, Option.mem_toList, hold]
      simp [htarget]
    · rw [hold]
      simp [htarget]

/-- What one iteration does in a state of the search. -/
inductive IterationResult (hvalid : graph.Valid) (parameters : TransitionParameters)
    (query : RouteQuery) (state : SearchState) (settled : List (Nat × List Nat)) :
    List (List Nat × Nat) → SearchState ⊕ RouteOutcome → Prop where
  | exhausted :
      IterationResult hvalid parameters query state settled []
        (.inr (.rejected (emptyQueueReason state.targetRejections)))
  | stale {item : List Nat × Nat} {rest : List (List Nat × Nat)}
      (hsettled : item.2 ∈ settled.map Prod.fst) :
      IterationResult hvalid parameters query state settled (item :: rest)
        (.inl { state with queue := rest.map (entryFor graph query) })
  | states {item : List Nat × Nat} {rest : List (List Nat × Nat)}
      (hfresh : item.2 ∉ settled.map Prod.fst)
      (hover : parameters.maximumGraphSearchStates < settled.length + 1) :
      IterationResult hvalid parameters query state settled (item :: rest)
        (.inr (.rejected .graphSearchBudget))
  | target {item : List Nat × Nat} {rest : List (List Nat × Nat)}
      (hfresh : item.2 ∉ settled.map Prod.fst)
      (htarget : AtTarget graph query item.2) (hopen : entryBlocked graph query item.2 = none) :
      IterationResult hvalid parameters query state settled (item :: rest)
        (.inr (finish graph parameters query (entryFor graph query item)))
  | expanded {item : List Nat × Nat} {rest : List (List Nat × Nat)}
      (hfresh : item.2 ∉ settled.map Prod.fst)
      (hbudget : settled.length + 1 ≤ parameters.maximumGraphSearchStates)
      (hentry : AtTarget graph query item.2 → entryBlocked graph query item.2 ≠ none) :
      IterationResult hvalid parameters query state settled (item :: rest)
        (.inl (expandedState graph parameters query state item rest))

theorem targetTest_entryFor :
    targetTest graph query (entryFor graph query item) =
      if AtTarget graph query item.2 then some (entryBlocked graph query item.2) else none := rfl

theorem searchStep_result
    (h : SearchInvariant hvalid parameters query state walks settled) :
    IterationResult hvalid parameters query state settled walks
      (searchStep graph parameters query state) := by
  unfold searchStep
  cases walks with
  | nil =>
    rw [h.queue]
    exact .exhausted
  | cons item rest =>
    have hstale := stale_iff h
    have hqueue := h.queue
    rw [List.map_cons] at hqueue
    simp only [hqueue]
    by_cases hsettled : item.2 ∈ settled.map Prod.fst
    · rw [if_pos (hstale.mpr hsettled)]
      exact .stale hsettled
    · rw [if_neg (fun hdropped => hsettled (hstale.mp hdropped)), h.visited]
      by_cases hover : parameters.maximumGraphSearchStates < settled.length + 1
      · rw [if_pos hover]
        exact .states hsettled hover
      · rw [if_neg hover, targetTest_entryFor]
        have hbudget := not_lt.mp hover
        by_cases htarget : AtTarget graph query item.2
        · rw [if_pos htarget]
          cases hblocked : entryBlocked graph query item.2 with
          | none => exact .target hsettled htarget hblocked
          | some reason =>
            have hnext : IterationResult hvalid parameters query state settled (item :: rest)
                (.inl (expandedState graph parameters query state item rest)) :=
              .expanded hsettled hbudget
                (fun _ => by rw [hblocked]; exact Option.some_ne_none reason)
            rw [expandedState, if_pos htarget, hblocked, h.visited] at hnext
            exact hnext
        · rw [if_neg htarget]
          have hnext : IterationResult hvalid parameters query state settled (item :: rest)
              (.inl (expandedState graph parameters query state item rest)) :=
            .expanded hsettled hbudget (fun hat => absurd hat htarget)
          rw [expandedState, if_neg htarget, h.visited] at hnext
          exact hnext

end Iteration

/-! ## The whole search -/

/-- The arcs that walks inside the search distance end with. -/
def reachedArcs (hvalid : graph.Valid) (parameters : TransitionParameters) (query : RouteQuery) :
    Set Nat :=
  { index | ∃ walk, (routeProblem hvalid parameters query).Reaches walk index }

/-- What holds of the outcome of a search. -/
inductive SearchEnd (hvalid : graph.Valid) (parameters : TransitionParameters)
    (query : RouteQuery) : RouteOutcome → Prop where
  /-- More arcs are reached than may be visited. -/
  | states {expanded : List Nat} (hdistinct : expanded.Nodup)
      (hreached : ∀ index ∈ expanded, index ∈ reachedArcs hvalid parameters query)
      (hover : parameters.maximumGraphSearchStates < expanded.length) :
      SearchEnd hvalid parameters query (.rejected .graphSearchBudget)
  /-- The least walk from which the current arc may be entered. -/
  | target {walk : List Nat} {index : Nat}
      (hreach : (routeProblem hvalid parameters query).Reaches walk index)
      (htarget : AtTarget graph query index) (hopen : entryBlocked graph query index = none)
      (hleast : ∀ other last, (routeProblem hvalid parameters query).Reaches other last →
        AtTarget graph query last → entryBlocked graph query last = none →
          (walkRanking graph query walk).key ≤ (walkRanking graph query other).key) :
      SearchEnd hvalid parameters query
        (finish graph parameters query (entryFor graph query (walk, index)))
  /-- Every reached arc was expanded, and none of them may enter the current arc. -/
  | exhausted {expanded : List Nat} {rejections : List TransitionRejection}
      (hdistinct : expanded.Nodup)
      (hreached : ∀ index, index ∈ expanded ↔ index ∈ reachedArcs hvalid parameters query)
      (hbudget : expanded.length ≤ parameters.maximumGraphSearchStates)
      (hnoEntry : ∀ index ∈ reachedArcs hvalid parameters query,
        AtTarget graph query index → entryBlocked graph query index ≠ none)
      (hrejections : ∀ reason, reason ∈ rejections ↔
        ∃ index ∈ reachedArcs hvalid parameters query,
          AtTarget graph query index ∧ entryBlocked graph query index = some reason) :
      SearchEnd hvalid parameters query (.rejected (emptyQueueReason rejections))

theorem mem_reachedArcs_of_settled
    (h : SearchInvariant hvalid parameters query state walks settled) {index : Nat}
    (hmem : index ∈ settled.map Prod.fst) : index ∈ reachedArcs hvalid parameters query := by
  obtain ⟨label, hlabel, rfl⟩ := List.mem_map.mp hmem
  exact ⟨label.2, h.frontier.reached label hlabel⟩

/-- A search that takes an open entry takes the least one. -/
theorem search_target {item : List Nat × Nat} {rest : List (List Nat × Nat)}
    (h : SearchInvariant hvalid parameters query state (item :: rest) settled)
    (htarget : AtTarget graph query item.2) (hopen : entryBlocked graph query item.2 = none) :
    SearchEnd hvalid parameters query
      (finish graph parameters query (entryFor graph query item)) := by
  apply SearchEnd.target (h.frontier.queued item List.mem_cons_self) htarget hopen
  intro other last hreach hat hfree
  apply h.frontier.taken_le (head_least h) hreach
  intro hmem
  obtain ⟨label, hlabel, rfl⟩ := List.mem_map.mp hmem
  exact h.noEntry label hlabel hat hfree

theorem search_states {item : List Nat × Nat} {rest : List (List Nat × Nat)}
    (h : SearchInvariant hvalid parameters query state (item :: rest) settled)
    (hfresh : item.2 ∉ settled.map Prod.fst)
    (hover : parameters.maximumGraphSearchStates < settled.length + 1) :
    SearchEnd hvalid parameters query (.rejected .graphSearchBudget) := by
  have hdistinct : (item.2 :: settled.map Prod.fst).Nodup :=
    List.nodup_cons.mpr ⟨hfresh, h.frontier.distinct⟩
  apply SearchEnd.states hdistinct
  · intro index hindex
    cases List.mem_cons.mp hindex with
    | inl heq => exact ⟨item.1, by rw [heq]; exact h.frontier.queued item List.mem_cons_self⟩
    | inr hold => exact mem_reachedArcs_of_settled h hold
  · simpa using hover

theorem search_exhausted
    (h : SearchInvariant hvalid parameters query state [] settled) :
    SearchEnd hvalid parameters query (.rejected (emptyQueueReason state.targetRejections)) := by
  have hreached (index : Nat) :
      index ∈ settled.map Prod.fst ↔ index ∈ reachedArcs hvalid parameters query := by
    constructor
    · exact mem_reachedArcs_of_settled h
    · intro ⟨walk, hreach⟩
      exact h.frontier.exhausted hreach
  apply SearchEnd.exhausted h.frontier.distinct hreached
  · simpa using h.budget
  · intro index hindex htarget
    obtain ⟨label, hlabel, rfl⟩ := List.mem_map.mp ((hreached index).mpr hindex)
    exact h.noEntry label hlabel htarget
  · intro reason
    rw [h.rejections]
    constructor
    · intro ⟨label, hlabel, hat⟩
      exact ⟨label.1, (hreached _).mp (List.mem_map_of_mem hlabel), hat⟩
    · intro ⟨index, hindex, hat⟩
      obtain ⟨label, hlabel, rfl⟩ := List.mem_map.mp ((hreached index).mpr hindex)
      exact ⟨label, hlabel, hat⟩

/-- The whole search, by induction on its iterations. -/
theorem searchLoop_end
    (h : SearchInvariant hvalid parameters query state walks settled) :
    SearchEnd hvalid parameters query (searchLoop graph parameters query state) := by
  induction state using searchLoop.induct graph parameters query generalizing walks settled with
  | case1 state outcome hstep =>
    have hresult := searchStep_result h
    rw [hstep] at hresult
    rw [searchLoop_stop graph parameters query hstep]
    cases hresult with
    | exhausted => exact search_exhausted h
    | states hfresh hover => exact search_states h hfresh hover
    | target _ htarget hopen => exact search_target h htarget hopen
  | case2 state next hstep ih =>
    have hresult := searchStep_result h
    rw [hstep] at hresult
    rw [searchLoop_continue graph parameters query hstep]
    cases hresult with
    | stale hsettled => exact ih (drop_stale h hsettled)
    | expanded hfresh hbudget hentry =>
      obtain ⟨pushed, hnext⟩ := expand_invariant h hfresh hbudget hentry
      exact ih hnext

/-! ## Expansions -/

/-- The arc an iteration expands, if any. -/
def expandedArc (state : SearchState) : Option Nat :=
  match state.queue with
  | [] => none
  | item :: _ => if stale state.best item then none else some item.incomingArcIndex

/-- The arcs expanded in a number of iterations. -/
def expansions (graph : Graph) (parameters : TransitionParameters) (query : RouteQuery) :
    Nat → SearchState → List Nat
  | 0, _ => []
  | count + 1, state =>
      (expandedArc state).toList ++
        match searchStep graph parameters query state with
        | .inl next => expansions graph parameters query count next
        | .inr _ => []

theorem expandedArc_eq {item : List Nat × Nat} {rest : List (List Nat × Nat)}
    (h : SearchInvariant hvalid parameters query state (item :: rest) settled) :
    expandedArc state = if item.2 ∈ settled.map Prod.fst then none else some item.2 := by
  have hstale := stale_iff h
  have hqueue := h.queue
  rw [List.map_cons] at hqueue
  unfold expandedArc
  simp only [hqueue, hstale]
  rfl

/-- No arc is expanded twice: an expanded arc is settled, and an iteration expands
only an unsettled one. -/
theorem expansions_nodup
    (h : SearchInvariant hvalid parameters query state walks settled) (count : Nat) :
    (expansions graph parameters query count state).Nodup ∧
      ∀ index ∈ expansions graph parameters query count state,
        index ∉ settled.map Prod.fst := by
  induction count generalizing state walks settled with
  | zero => simp [expansions]
  | succ count ih =>
    have hresult := searchStep_result h
    rw [expansions]
    cases walks with
    | nil =>
      have hnone : expandedArc state = none := by simp [expandedArc, h.queue]
      rw [hnone]
      generalize searchStep graph parameters query state = outcome at hresult ⊢
      cases hresult
      simp
    | cons item rest =>
      rw [expandedArc_eq h]
      generalize searchStep graph parameters query state = outcome at hresult ⊢
      cases hresult with
      | stale hsettled =>
        rw [if_pos hsettled]
        exact ih (drop_stale h hsettled)
      | states hfresh _ =>
        rw [if_neg hfresh]
        simpa using hfresh
      | target hfresh _ _ =>
        rw [if_neg hfresh]
        simpa using hfresh
      | expanded hfresh hbudget hentry =>
        obtain ⟨pushed, hnext⟩ := expand_invariant h hfresh hbudget hentry
        obtain ⟨hnodup, hnew⟩ := ih hnext
        rw [if_neg hfresh, Option.toList_some, List.singleton_append, List.nodup_cons]
        refine ⟨⟨?_, hnodup⟩, ?_⟩
        · intro hagain
          exact hnew _ hagain (by simp)
        · intro index hindex
          cases List.mem_cons.mp hindex with
          | inl heq => rw [heq]; exact hfresh
          | inr hlater =>
            intro hsettled
            exact hnew index hlater (List.mem_cons_of_mem _ hsettled)

end Problem

end CartoSentry.Matching
