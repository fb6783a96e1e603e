import CartoSentry.Matching.RouteSearch

set_option autoImplicit false

/-!
# Road matching: the route search is exact

A returned path is legal, its distance is its own length and it is least among
all legal paths, with one exception: backwards on a self-loop arc that may be
re-entered, the search reports the single arc in place of the loop it measured.
-/

namespace CartoSentry.Matching

open Foundation.BestFirst

section Query

variable {graph : Graph} {parameters : TransitionParameters} {query : RouteQuery}

/-- Both ends of the query are positions on arcs of the graph. -/
structure RouteQuery.Valid (graph : Graph) (query : RouteQuery) : Prop where
  previousArc : query.previousIndex < graph.arcs.length
  currentArc : query.currentIndex < graph.arcs.length
  previousStart : 0 ≤ query.previousOffset
  previousEnd : query.previousOffset ≤ (graph.arc query.previousIndex).length
  currentStart : 0 ≤ query.currentOffset
  currentEnd : query.currentOffset ≤ (graph.arc query.currentIndex).length

/-- Validated candidates make a valid query. -/
theorem routeQuery_valid {previous current : Candidate} {previousObservation : Nat}
    {currentObservation : Nat}
    (hprevious : validateCandidateReference graph previous previousObservation = .ok ())
    (hcurrent : validateCandidateReference graph current currentObservation = .ok ())
    (hquery : routeQuery graph previous current = .ok query) : query.Valid graph := by
  unfold routeQuery at hquery
  split at hquery
  · next hpreviousArc hcurrentArc hpreviousOffset hcurrentOffset =>
    obtain ⟨hpreviousIndex, hstart, hend⟩ :=
      validateCandidateReference_onRoad hprevious hpreviousArc hpreviousOffset
    obtain ⟨hcurrentIndex, hstart', hend'⟩ :=
      validateCandidateReference_onRoad hcurrent hcurrentArc hcurrentOffset
    rw [if_neg (by omega)] at hquery
    rw [← Except.ok.inj hquery]
    exact ⟨hpreviousIndex, hcurrentIndex, hstart, hend, hstart', hend'⟩
  · simp at hquery

theorem routeBetween_immediate (h : query.Immediate) :
    routeBetween graph parameters query =
      .found { distance := query.currentOffset - query.previousOffset, turnCount := 0,
               uTurnCount := 0, path := [query.previousIndex] } :=
  if_pos h

theorem routeBetween_overlong (h : ¬ query.Immediate)
    (hinitial : parameters.maximumGraphSearchDistance < initialDistance graph query) :
    routeBetween graph parameters query = .rejected .graphSearchBudget := by
  unfold routeBetween
  rw [if_neg h, if_pos hinitial]

theorem routeBetween_search (h : ¬ query.Immediate)
    (hinitial : initialDistance graph query ≤ parameters.maximumGraphSearchDistance) :
    routeBetween graph parameters query =
      searchLoop graph parameters query (initialState graph query) := by
  unfold routeBetween
  rw [if_neg h, if_neg (not_lt.mpr hinitial)]

end Query

/-! ## Legal paths and walks -/

section LegalPaths

variable {graph : Graph} {query : RouteQuery} {path : List Nat}

/-- A legal path is a single arc, forwards, or a walk that enters the current arc. -/
theorem LegalPath.cases (h : LegalPath graph query path) :
    query.Immediate ∧ path = [query.previousIndex] ∨
      ∃ walk index, Walk (Follows graph) query.previousIndex walk index ∧
        AtTarget graph query index ∧ entryBlocked graph query index = none ∧
          path = walk ++ [query.currentIndex] := by
  have hwalk : Walk (Follows graph) query.previousIndex path query.currentIndex :=
    walk_iff_isChain.mpr ⟨h.starts, h.ends, h.connected⟩
  generalize hlast : query.currentIndex = last at hwalk
  cases hwalk with
  | single => exact Or.inl ⟨⟨hlast.symm, h.forwards rfl⟩, rfl⟩
  | @snoc walk index _ hfront hnext =>
    subst hlast
    exact Or.inr ⟨walk, index, hfront, hnext.2.1, hnext.2.2, rfl⟩

theorem legalPath_append {walk : List Nat} {index : Nat} (hquery : query.Valid graph)
    (hwalk : Walk (Follows graph) query.previousIndex walk index)
    (htarget : AtTarget graph query index) (hopen : entryBlocked graph query index = none) :
    LegalPath graph query (walk ++ [query.currentIndex]) := by
  have hentered : Walk (Follows graph) query.previousIndex (walk ++ [query.currentIndex])
      query.currentIndex := .snoc hwalk ⟨hquery.currentArc, htarget, hopen⟩
  refine ⟨hentered.head?, hentered.getLast?, hentered.isChain, ?_⟩
  intro hlength
  have hpos := List.length_pos_of_ne_nil hwalk.ne_nil
  simp only [List.length_append, List.length_singleton] at hlength
  omega

/-- Every walk is at least the rest of the first arc long. -/
theorem initialDistance_le_travelled (hvalid : graph.Valid) {walk : List Nat} {index : Nat}
    (hwalk : Walk (Follows graph) query.previousIndex walk index) :
    initialDistance graph query ≤ travelled graph query walk := by
  induction hwalk with
  | single => simp [initialDistance, travelled]
  | snoc hfront hnext ih =>
    rw [travelled_append graph query hfront.ne_nil]
    have hpos := hvalid.arc_length_pos hnext.1
    linarith

/-- Entering the current arc keeps the order of walks. -/
theorem pathRank_append_le {left right : List Nat} (hleft : left ≠ []) (hright : right ≠ [])
    (hle : (walkRanking graph query left).key ≤ (walkRanking graph query right).key) :
    pathRank graph query (left ++ [query.currentIndex]) ≤
      pathRank graph query (right ++ [query.currentIndex]) := by
  have hleftLength := List.length_pos_of_ne_nil hleft
  have hrightLength := List.length_pos_of_ne_nil hright
  unfold pathRank
  rw [pathDistance_append graph query hleft, pathDistance_append graph query hright]
  refine rank_le_rank_of hle ?_ ?_ ?_ ?_ ?_
  · intro hdistance
    simp only [walkRanking] at hdistance
    linarith
  · intro hdistance
    simp only [walkRanking] at hdistance
    linarith
  · simp only [walkRanking, List.length_append, List.length_singleton]
    omega
  · simp only [walkRanking, List.length_append, List.length_singleton]
    omega
  · intro hsame hpath
    simp only [walkRanking] at hsame hpath
    exact append_le_append_of_length_eq (by omega) hpath _

end LegalPaths

/-! ## Exactness -/

section Exact

variable {graph : Graph} (hvalid : graph.Valid) {parameters : TransitionParameters}
  {query : RouteQuery}

/-- What the search promises of a returned path. -/
structure ExactResult (graph : Graph) (query : RouteQuery) (result : RouteResult) : Prop where
  legal : LegalPath graph query result.path
  distance : result.distance = pathDistance graph query result.path
  least : ∀ path, LegalPath graph query path →
    pathRank graph query result.path ≤ pathRank graph query path
  turns : result.turnCount = result.path.length - 1

include hvalid

theorem exactResult_immediate (hquery : query.Valid graph) (himmediate : query.Immediate) :
    ExactResult graph query
      { distance := query.currentOffset - query.previousOffset, turnCount := 0, uTurnCount := 0,
        path := [query.previousIndex] } where
  legal := by
    refine ⟨rfl, ?_, List.isChain_singleton _, fun _ => himmediate.2⟩
    rw [himmediate.1]
    rfl
  distance := rfl
  least := by
    intro path hpath
    rcases hpath.cases with ⟨-, rfl⟩ | ⟨walk, index, hwalk, -, -, rfl⟩
    · exact le_rfl
    · rw [pathRank, pathRank, Prod.Lex.toLex_le_toLex]
      apply Or.inl
      rw [pathDistance_append graph query hwalk.ne_nil]
      have hrest := initialDistance_le_travelled hvalid hwalk
      have hpos := hvalid.arc_length_pos hquery.previousArc
      have hsingle : pathDistance graph query [query.previousIndex] =
          query.currentOffset - query.previousOffset := rfl
      simp only [hsingle, initialDistance] at hrest ⊢
      linarith
  turns := rfl

omit hvalid in
theorem finish_entryFor {walk : List Nat} {index : Nat} :
    finish graph parameters query (entryFor graph query (walk, index)) =
      let path := resultPath query (entryFor graph query (walk, index))
      if parameters.maximumGraphSearchDistance < travelled graph query walk + query.currentOffset
      then .rejected .graphSearchBudget
      else .found { distance := travelled graph query walk + query.currentOffset,
                    turnCount := path.length - 1, uTurnCount := countUTurns graph path,
                    path := path } := rfl

omit hvalid in
/-- A walk that does not end with the current arc is completed with it. -/
theorem resultPath_append {walk : List Nat} {index : Nat}
    (hwalk : Walk (Follows graph) query.previousIndex walk index)
    (hindex : index ≠ query.currentIndex) :
    resultPath query (entryFor graph query (walk, index)) = walk ++ [query.currentIndex] := by
  have hlast : (entryFor graph query (walk, index)).path.getLast? = some index := hwalk.getLast?
  unfold resultPath
  rw [hlast, if_pos (by simpa using hindex)]
  rfl

/-- The least walk from which the current arc may be entered ends with that arc
only where it is the first arc itself. -/
theorem target_not_current {walk : List Nat} {index : Nat}
    (hreach : (routeProblem hvalid parameters query).Reaches walk index)
    (hleast : ∀ other last, (routeProblem hvalid parameters query).Reaches other last →
      AtTarget graph query last → entryBlocked graph query last = none →
        (walkRanking graph query walk).key ≤ (walkRanking graph query other).key)
    (hcurrent : index = query.currentIndex) :
    query.previousIndex = query.currentIndex ∧ walk = [query.previousIndex] := by
  obtain ⟨hwalk, hwithin⟩ := hreach
  change Walk (Follows graph) query.previousIndex walk index at hwalk
  cases hwalk with
  | single => exact ⟨hcurrent, rfl⟩
  | @snoc front before _ hfront hnext =>
    have hinit := Problem.Reaches.init hfront hnext hwithin
    have hentry := hnext
    rw [hcurrent] at hentry
    have hle := hleast front before hinit hentry.2.1 hentry.2.2
    have hlt := (routeProblem hvalid parameters query).key_extend hfront hnext
    exact absurd hle (not_le.mpr hlt)

theorem exactResult_target (hquery : query.Valid graph) (himmediate : ¬ query.Immediate)
    {walk : List Nat} {index : Nat}
    (hreach : (routeProblem hvalid parameters query).Reaches walk index)
    (htarget : AtTarget graph query index) (hopen : entryBlocked graph query index = none)
    (hleast : ∀ other last, (routeProblem hvalid parameters query).Reaches other last →
      AtTarget graph query last → entryBlocked graph query last = none →
        (walkRanking graph query walk).key ≤ (walkRanking graph query other).key) :
    ExactResult graph query
      { distance := travelled graph query walk + query.currentOffset,
        turnCount := (walk ++ [query.currentIndex]).length - 1,
        uTurnCount := countUTurns graph (walk ++ [query.currentIndex]),
        path := walk ++ [query.currentIndex] } where
  legal := legalPath_append hquery hreach.1 htarget hopen
  distance := (pathDistance_append graph query hreach.1.ne_nil _).symm
  least := by
    intro path hpath
    rcases hpath.cases with ⟨hforwards, -⟩ | ⟨other, last, hother, hat, hfree, rfl⟩
    · exact absurd hforwards himmediate
    · apply pathRank_append_le hreach.1.ne_nil hother.ne_nil
      -- a walk beyond the search distance is longer than the one that was taken
      by_contra hgt
      have hlt := not_le.mp hgt
      have hwithin := (routeProblem hvalid parameters query).within_of_le hother hreach.1
        hlt.le hreach.2
      exact hgt (hleast other last ⟨hother, hwithin⟩ hat hfree)
  turns := rfl

omit hvalid in
/-- Backwards on a self-loop arc that may be re-entered within the search
distance: the search returns at its first state. -/
def ReentersLoop (graph : Graph) (parameters : TransitionParameters) (query : RouteQuery) :
    Prop :=
  query.previousIndex = query.currentIndex ∧ query.currentOffset < query.previousOffset ∧
    AtTarget graph query query.currentIndex ∧ entryBlocked graph query query.currentIndex = none ∧
      initialDistance graph query + query.currentOffset ≤ parameters.maximumGraphSearchDistance

/-- Off a re-entered loop every returned path is exact. -/
theorem exactResult_of_found (hquery : query.Valid graph)
    (hloop : ¬ ReentersLoop graph parameters query) {result : RouteResult}
    (hfound : routeBetween graph parameters query = .found result) :
    ExactResult graph query result := by
  by_cases himmediate : query.Immediate
  · rw [routeBetween_immediate himmediate] at hfound
    rw [← RouteOutcome.found.inj hfound]
    exact exactResult_immediate hvalid hquery himmediate
  · have hinitial : initialDistance graph query ≤ parameters.maximumGraphSearchDistance := by
      by_contra hover
      rw [routeBetween_overlong himmediate (not_le.mp hover)] at hfound
      simp at hfound
    rw [routeBetween_search himmediate hinitial] at hfound
    have hend := searchLoop_end (searchInvariant_initial hvalid hinitial)
    rw [hfound] at hend
    generalize houtcome : RouteOutcome.found result = outcome at hend
    cases hend with
    | states _ _ _ => simp at houtcome
    | exhausted _ _ _ _ _ => simp at houtcome
    | @target walk index hreach htarget hopen hleast =>
      rw [finish_entryFor] at houtcome
      by_cases hover : parameters.maximumGraphSearchDistance <
          travelled graph query walk + query.currentOffset
      · simp [hover] at houtcome
      · rw [if_neg hover] at houtcome
        have hnotCurrent : index ≠ query.currentIndex := by
          intro hcurrent
          obtain ⟨hsame, hwalk⟩ := target_not_current hvalid hreach hleast hcurrent
          rw [hcurrent] at htarget hopen
          apply hloop
          refine ⟨hsame, ?_, htarget, hopen, ?_⟩
          · by_contra hback
            exact himmediate ⟨hsame, not_lt.mp hback⟩
          · rw [hwalk] at hover
            simpa [travelled, initialDistance] using hover
        rw [resultPath_append hreach.1 hnotCurrent] at houtcome
        rw [RouteOutcome.found.inj houtcome]
        exact exactResult_target hvalid hquery himmediate hreach htarget hopen hleast

/-- On a re-entered loop the search returns the single arc. -/
theorem routeBetween_reentersLoop (hquery : query.Valid graph)
    (hstates : 0 < parameters.maximumGraphSearchStates)
    (hloop : ReentersLoop graph parameters query) :
    routeBetween graph parameters query =
      .found { distance := initialDistance graph query + query.currentOffset, turnCount := 0,
               uTurnCount := 0, path := [query.previousIndex] } := by
  obtain ⟨hsame, hback, hat, hfree, htotal⟩ := hloop
  have himmediate : ¬ query.Immediate := fun h => absurd h.2 (not_le.mpr hback)
  have hinitial : initialDistance graph query ≤ parameters.maximumGraphSearchDistance := by
    have hstart := hquery.currentStart
    linarith
  have hresult := searchStep_result (searchInvariant_initial hvalid hinitial)
  rw [routeBetween_search himmediate hinitial]
  generalize hstep : searchStep graph parameters query (initialState graph query) = outcome
    at hresult
  cases hresult with
  | stale hsettled => simp at hsettled
  | states _ hover =>
    simp only [List.length_nil] at hover
    omega
  | expanded _ _ hentry =>
    simp only [hsame] at hentry
    exact absurd hfree (hentry hat)
  | target _ _ _ =>
    rw [searchLoop_stop graph parameters query hstep, finish_entryFor]
    have hpath : resultPath query
        (entryFor graph query ([query.previousIndex], query.previousIndex)) =
          [query.previousIndex] := by
      simp [resultPath, entryFor, hsame]
    have htravelled : travelled graph query [query.previousIndex] = initialDistance graph query := by
      simp [travelled, initialDistance]
    rw [hpath, htravelled]
    exact if_neg (not_lt.mpr htotal)

/-- The query is answered by a search: it is neither forwards on one arc nor beyond
the search distance from the outset. -/
def RouteQuery.Searches (graph : Graph) (parameters : TransitionParameters)
    (query : RouteQuery) : Prop :=
  ¬ query.Immediate ∧ initialDistance graph query ≤ parameters.maximumGraphSearchDistance

/-- The property at one query: a returned path is exact, and a search expands no
arc twice in any number of iterations. -/
def RouteIsExact (graph : Graph) (previous current : Candidate)
    (parameters : TransitionParameters) (query : RouteQuery) : Prop :=
  (∀ result, route graph previous current parameters = .ok (.found result) →
    ExactResult graph query result) ∧
  (query.Searches graph parameters →
    ∀ count, (expansions graph parameters query count (initialState graph query)).Nodup)

omit hvalid in
theorem route_of_query (parameters : TransitionParameters) {previous current : Candidate}
    (hquery : routeQuery graph previous current = .ok query) :
    route graph previous current parameters = .ok (routeBetween graph parameters query) := by
  unfold route
  rw [hquery]
  rfl

end Exact

/-- The route search is exact for every pair of validated on-road candidates but
those that move backwards on a self-loop arc which may be re-entered within the
search distance. -/
theorem route_exact_iff {graph : Graph} {parameters : TransitionParameters}
    {previous current : Candidate} {previousObservation currentObservation : Nat}
    {query : RouteQuery} (hvalid : graph.Valid)
    (hparameters : validateTransitionParameters parameters = .ok ())
    (hprevious : validateCandidateReference graph previous previousObservation = .ok ())
    (hcurrent : validateCandidateReference graph current currentObservation = .ok ())
    (hquery : routeQuery graph previous current = .ok query) :
    RouteIsExact graph previous current parameters query ↔
      ¬ ReentersLoop graph parameters query := by
  have hpositions := routeQuery_valid hprevious hcurrent hquery
  have hroute := route_of_query parameters hquery
  constructor
  · intro ⟨hexact, _⟩ hloop
    have hfound := routeBetween_reentersLoop hvalid hpositions
      (validateTransitionParameters_states hparameters) hloop
    rw [hfound] at hroute
    have hlegal := (hexact _ hroute).legal
    exact absurd (hlegal.forwards rfl) (not_le.mpr hloop.2.1)
  · intro hloop
    constructor
    · intro result hresult
      rw [hroute] at hresult
      exact exactResult_of_found hvalid hpositions hloop (Except.ok.inj hresult)
    · intro hsearches count
      have hinvariant := searchInvariant_initial hvalid hsearches.2
      exact (expansions_nodup hinvariant count).1

/-! ## A loop road -/

namespace LoopRoad

/-- A circular one-way road at node `a`. -/
def graph : Graph where
  arcs := [{ arcId := "loop", fromNodeId := "a", toNodeId := "a", sourceWayId := 1,
             direction := .forward, length := 100, geometry := [⟨0, 0⟩, ⟨50, 0⟩, ⟨0, 0⟩] }]
  transitionRules := []

def parameters : TransitionParameters where
  pathDiscrepancyScale := 10
  maximumAbsoluteSpeed := 60
  observedSpeedExcessAllowance := 5
  speedExcessPenalty := 1
  turnPenalty := 1
  uTurnPenalty := 2
  offMapEnterLogLikelihood := -8
  offMapExitLogLikelihood := -8
  offMapStayLogLikelihood := -1
  maximumGraphSearchDistance := 1000
  maximumGraphSearchStates := 100
  scoreRoundingDecimalPlaces := 12

/-- A candidate on the road. -/
def candidateAt (observationIndex : Nat) (offset : ℚ) : Candidate where
  candidateId := "on-road"
  observationIndex := observationIndex
  arcIndex := some 0
  projectedPosition := some ⟨0, 0⟩
  lateralDistance := some 0
  tangentHeading := some 0
  alongArcOffset := some offset
  searchRadius := 20
  emission := { lateralSigma := some 5, lateralLogLikelihood := some 0, headingUsed := false,
                headingWeight := 0, headingDifference := none, headingLogLikelihood := none,
                offMapLogLikelihood := none, totalLogLikelihood := 0 }

def query (previousOffset currentOffset : ℚ) : RouteQuery where
  previousIndex := 0
  currentIndex := 0
  previousOffset := previousOffset
  currentOffset := currentOffset

theorem graph_valid : graph.Valid := by decide +kernel

/-- Back from 60 to 20 the search reports the single arc: a path that is not legal,
with a distance that is not its own. -/
theorem route_not_exact :
    graph.Valid ∧ validateTransitionParameters parameters = .ok () ∧
      validateCandidateReference graph (candidateAt 0 60) 0 = .ok () ∧
      validateCandidateReference graph (candidateAt 1 20) 1 = .ok () ∧
      routeQuery graph (candidateAt 0 60) (candidateAt 1 20) = .ok (query 60 20) ∧
      ¬ RouteIsExact graph (candidateAt 0 60) (candidateAt 1 20) parameters (query 60 20) := by
  refine ⟨graph_valid, by decide +kernel, by decide +kernel, by decide +kernel, rfl, ?_⟩
  intro ⟨hexact, _⟩
  have hsearch : routeBetween graph parameters (query 60 20) =
      .found { distance := 60, turnCount := 0, uTurnCount := 0, path := [0] } := by
    have hquery : ¬ (query 60 20).Immediate := by decide +kernel
    rw [routeBetween_search hquery (by decide +kernel)]
    have hfirst : searchWithin graph parameters (query 60 20) 1 (initialState graph (query 60 20)) =
        some (.found { distance := 60, turnCount := 0, uTurnCount := 0, path := [0] }) := by
      decide +kernel
    exact searchLoop_of_within graph parameters (query 60 20) hfirst
  have hroute := route_of_query parameters
    (show routeQuery graph (candidateAt 0 60) (candidateAt 1 20) = .ok (query 60 20) from rfl)
  rw [hsearch] at hroute
  have hforwards := (hexact _ hroute).legal.forwards rfl
  exact absurd hforwards (by decide +kernel)

/-- Forwards from 20 to 60 it is exact. -/
theorem route_exact_forwards :
    RouteIsExact graph (candidateAt 0 20) (candidateAt 1 60) parameters (query 20 60) := by
  have hprevious : validateCandidateReference graph (candidateAt 0 20) 0 = .ok () := by
    decide +kernel
  have hcurrent : validateCandidateReference graph (candidateAt 1 60) 1 = .ok () := by
    decide +kernel
  apply (route_exact_iff graph_valid (by decide +kernel) hprevious hcurrent rfl).mpr
  intro hloop
  exact absurd hloop.2.1 (by decide +kernel)

end LoopRoad

end CartoSentry.Matching
