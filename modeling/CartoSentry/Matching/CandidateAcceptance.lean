import CartoSentry.Matching.RoadCandidate

set_option autoImplicit false

/-!
# Road matching: native candidates and their Python model

Which generated candidates the Python model accepts: those whose tangent heading
rounds to no more than pi and whose sigma does not round to zero.  A road due west
has a heading of pi, which rounds up at twelve places.
-/

namespace CartoSentry.Matching

open Foundation (bind_eq_ok_iff)

/-! ## Kept arcs -/

section Kept

variable (math : NativeMath) (candidateParameters : CandidateParameters)
  (emissionParameters : EmissionParameters) (graph : Graph)

/-- The candidate on an arc, where the arc is within the search radius. -/
def arcCandidate (observationIndex : Nat) (observation : Observation) (arcIndex : Nat) :
    Option Candidate :=
  match makeOnRoadCandidate math candidateParameters emissionParameters observationIndex
      observation arcIndex (graph.arc arcIndex) (searchRadius observation candidateParameters) with
  | .ok candidate => candidate
  | .error _ => none

/-- The arc is within the search radius of the observation, and fewer such arcs than
the maximum are better. -/
def Keeps (observationIndex : Nat) (observation : Observation) (arcIndex : Nat) : Prop :=
  ∃ candidate, arcCandidate math candidateParameters emissionParameters graph observationIndex
      observation arcIndex = some candidate ∧
    (List.range graph.arcs.length).countP (fun other =>
      (arcCandidate math candidateParameters emissionParameters graph observationIndex observation
        other).any fun better => candidateKey graph better < candidateKey graph candidate) <
      candidateParameters.maximumOnRoadCandidates

/-- On every kept arc the heading at the projection of the observation is one of at
most pi after rounding, and the sigma is still positive. -/
def RoundsWithin (observations : List Observation) : Prop :=
  ∀ observationIndex observation, observations[observationIndex]? = some observation →
    ∀ arcIndex < graph.arcs.length,
      Keeps math candidateParameters emissionParameters graph observationIndex observation
        arcIndex →
      ∀ projection, project math (graph.arc arcIndex) observation.position = .ok projection →
        (-numbersPi ≤ roundTo projection.tangentHeading emissionParameters.places ∧
          roundTo projection.tangentHeading emissionParameters.places ≤ numbersPi) ∧
        0 < roundTo (lateralSigma math observation emissionParameters) emissionParameters.places

end Kept

section Batches

variable {math : NativeMath} {candidateParameters : CandidateParameters}
  {emissionParameters : EmissionParameters} {graph : Graph}

/-- The batches are made one by one. -/
theorem candidateBatchesFrom_get {start : Nat} {observations : List Observation}
    {batches : List (List Candidate)}
    (h : candidateBatchesFrom math candidateParameters emissionParameters graph start
      observations = .ok batches) {observationIndex : Nat} {batch : List Candidate} :
    batches[observationIndex]? = some batch ↔ ∃ observation,
      observations[observationIndex]? = some observation ∧
        candidateBatch math candidateParameters emissionParameters graph
          (start + observationIndex) observation = .ok batch := by
  induction observations generalizing start batches observationIndex with
  | nil =>
    cases h
    simp
  | cons observation rest ih =>
    unfold candidateBatchesFrom at h
    rw [bind_eq_ok_iff] at h
    obtain ⟨first, hfirst, h⟩ := h
    rw [bind_eq_ok_iff] at h
    obtain ⟨others, hothers, h⟩ := h
    cases h
    cases observationIndex with
    | zero =>
      simp only [List.getElem?_cons_zero, Option.some.injEq, exists_eq_left', Nat.add_zero, hfirst,
        Except.ok.injEq]
    | succ observationIndex =>
      have hrest := @ih _ _ hothers observationIndex
      rw [show start + 1 + observationIndex = start + (observationIndex + 1) by omega] at hrest
      simpa only [List.getElem?_cons_succ] using hrest

variable (hparameters : validateParameters candidateParameters emissionParameters = .ok ())

include hparameters

theorem makeOnRoadCandidate_of_arcCandidate {observationIndex arcIndex : Nat}
    {observation : Observation} {candidate : Candidate}
    (h : arcCandidate math candidateParameters emissionParameters graph observationIndex
      observation arcIndex = some candidate) :
    makeOnRoadCandidate math candidateParameters emissionParameters observationIndex observation
      arcIndex (graph.arc arcIndex) (searchRadius observation candidateParameters) =
        .ok (some candidate) ∧ candidate.arcIndex = some arcIndex := by
  unfold arcCandidate at h
  split at h
  · next made hmade =>
    rw [h] at hmade
    obtain ⟨_, _, -, -, -, -, harcIndex, -⟩ := makeOnRoadCandidate_fields hparameters hmade
    exact ⟨hmade, harcIndex⟩
  · simp at h

/-- No two arcs have candidates of one key. -/
theorem sortCandidates_strict (hgraph : graph.Valid) {observationIndex : Nat}
    {observation : Observation} :
    (sortCandidates graph ((List.range graph.arcs.length).filterMap
      (arcCandidate math candidateParameters emissionParameters graph observationIndex
        observation))).Pairwise
      fun left right => candidateKey graph left < candidateKey graph right := by
  set found := (List.range graph.arcs.length).filterMap
    (arcCandidate math candidateParameters emissionParameters graph observationIndex observation)
  have hsorted : (sortCandidates graph found).Pairwise
      fun left right => candidateKey graph left ≤ candidateKey graph right :=
    List.pairwise_insertionSort _ _
  have harc : ∀ candidate ∈ found, ∃ arcIndex < graph.arcs.length,
      arcCandidate math candidateParameters emissionParameters graph observationIndex observation
        arcIndex = some candidate ∧ candidate.arcIndex = some arcIndex := by
    intro candidate hmem
    obtain ⟨arcIndex, hrange, hcandidate⟩ := List.mem_filterMap.mp hmem
    exact ⟨arcIndex, List.mem_range.mp hrange, hcandidate,
      (makeOnRoadCandidate_of_arcCandidate hparameters hcandidate).2⟩
  have hperm : (sortCandidates graph found).Perm found := List.perm_insertionSort _ found
  have hnodup : (sortCandidates graph found).Nodup := by
    rw [hperm.nodup_iff]
    apply List.nodup_range.filterMap
    intro left right candidate hleft hright
    have hleftIndex := (makeOnRoadCandidate_of_arcCandidate hparameters hleft).2
    have hrightIndex := (makeOnRoadCandidate_of_arcCandidate hparameters hright).2
    exact Option.some.inj (hleftIndex.symm.trans hrightIndex)
  apply (hsorted.and hnodup).imp_of_mem
  intro left right hleft hright hpair
  apply lt_of_le_of_ne hpair.1
  intro hkey
  obtain ⟨leftIndex, hleftBound, hleftCandidate, hleftIndex⟩ :=
    harc left ((List.mem_insertionSort _).mp hleft)
  obtain ⟨rightIndex, hrightBound, hrightCandidate, hrightIndex⟩ :=
    harc right ((List.mem_insertionSort _).mp hright)
  have hid : (graph.arc leftIndex).arcId = (graph.arc rightIndex).arcId := by
    have hids := congrArg (fun key => (ofLex (ofLex key).2).2) hkey
    simpa [candidateKey, hleftIndex, hrightIndex] using hids
  obtain rfl := hgraph.arcId_inj hleftBound hrightBound hid
  exact hpair.2 (Option.some.inj (hleftCandidate.symm.trans hrightCandidate))

/-- A batch holds the candidates on the kept arcs and the one off the map. -/
theorem mem_candidateBatch (hgraph : graph.Valid) {observationIndex : Nat}
    {observation : Observation} {batch : List Candidate}
    (h : candidateBatch math candidateParameters emissionParameters graph observationIndex
      observation = .ok batch) {candidate : Candidate} :
    candidate ∈ batch ↔
      (∃ arcIndex < graph.arcs.length,
        arcCandidate math candidateParameters emissionParameters graph observationIndex observation
          arcIndex = some candidate ∧
        Keeps math candidateParameters emissionParameters graph observationIndex observation
          arcIndex) ∨
      candidate = makeOffMapCandidate emissionParameters observationIndex
        (searchRadius observation candidateParameters) := by
  unfold candidateBatch at h
  rw [bind_eq_ok_iff] at h
  obtain ⟨onRoad, honRoad, h⟩ := h
  cases h
  have hfound : onRoad.reduceOption = (List.range graph.arcs.length).filterMap
      (arcCandidate math candidateParameters emissionParameters graph observationIndex
        observation) := by
    rw [mapM_eq_map honRoad (g := arcCandidate math candidateParameters emissionParameters graph
      observationIndex observation), List.reduceOption, List.filterMap_map]
    · rfl
    · intro arcIndex _ result hresult
      rw [arcCandidate, hresult]
  rw [List.mem_append, List.mem_singleton]
  apply or_congr_left
  rw [hfound, Foundation.mem_take_iff_countP (sortCandidates_strict hparameters hgraph)]
  have hperm : ∀ candidates, (sortCandidates graph candidates).Perm candidates :=
    fun candidates => List.perm_insertionSort _ candidates
  have hany (better : Candidate → Bool) (candidate : Option Candidate) :
      (candidate.map better).getD false = candidate.any better := by
    cases candidate <;> rfl
  rw [(hperm _).mem_iff, (hperm _).countP_eq, List.countP_filterMap, List.mem_filterMap]
  simp only [hany]
  constructor
  · intro ⟨⟨arcIndex, hrange, hcandidate⟩, hcount⟩
    exact ⟨arcIndex, List.mem_range.mp hrange, hcandidate, candidate, hcandidate, hcount⟩
  · intro ⟨arcIndex, hindex, hcandidate, kept, hkept, hcount⟩
    obtain rfl := Option.some.inj (hkept.symm.trans hcandidate)
    exact ⟨⟨arcIndex, List.mem_range.mpr hindex, hcandidate⟩, hcount⟩

end Batches

namespace WestRoad

/-- A road of 50 from east to west. -/
def graph : Graph where
  arcs := [{ arcId := "west", fromNodeId := "a", toNodeId := "b", sourceWayId := 1,
             direction := .forward, length := 50, geometry := [⟨50, 0⟩, ⟨0, 0⟩] }]
  transitionRules := []

def observations : List Observation :=
  [LoopRoad.observationAt "first" 0 10]

/-- The batches generated for one observation on the road. -/
def generated : List (List Candidate) :=
  match generateCandidateBatches LoopRoad.math LoopRoad.candidateParameters
    LoopRoad.emissionParameters graph observations with
  | .ok batches => batches
  | .error _ => []

theorem math_sqrtNonneg : LoopRoad.math.SqrtNonneg := by
  intro value _
  unfold LoopRoad.math
  dsimp only
  split_ifs <;> norm_num

end WestRoad

end CartoSentry.Matching
