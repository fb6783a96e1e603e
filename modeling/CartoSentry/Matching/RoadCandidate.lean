import CartoSentry.Foundation.ListOrder
import CartoSentry.Matching.GeneratedDecoding

set_option autoImplicit false

/-!
# Road matching: the Python model of a candidate

`EmissionFeatures` and `RoadCandidate`, whose field constraints every native
candidate has to meet, and which native candidates meet them.
-/

namespace CartoSentry.Matching

open Foundation (bind_unit_eq_ok_iff bind_eq_ok_iff)

/-! ## Models -/

/-- Why `_candidate_from_native` raises. -/
inductive CandidateError where
  | wrongObservation
  | field (path : String)
  | incompleteProjection
  | offMapEmission
  | projectionEvidence
  deriving DecidableEq, Repr

/-- A field constraint. -/
def requireField (path : String) (constraint : Prop) [Decidable constraint] :
    Except CandidateError Unit :=
  if constraint then .ok () else .error (.field path)

theorem requireField_eq_ok_iff {path : String} {constraint : Prop} [Decidable constraint] :
    requireField path constraint = .ok () ↔ constraint := by
  unfold requireField
  split_ifs with h <;> simp [h]

/-- `EmissionFeatures`: `math.pi` is the native number. -/
def EmissionResult.validate (emission : EmissionResult) : Except CandidateError Unit := do
  requireField "lateral_sigma_m" (∀ sigma ∈ emission.lateralSigma, 0 < sigma)
  requireField "heading_weight" (0 ≤ emission.headingWeight ∧ emission.headingWeight ≤ 1)
  requireField "heading_difference_rad"
    (∀ difference ∈ emission.headingDifference, 0 ≤ difference ∧ difference ≤ numbersPi)

/-- The fields of a `RoadCandidate` with constraints, its identities apart. -/
structure RoadCandidate where
  directedArcId : Option String
  sourceWayId : Option Int
  projectedPosition : Option Point2
  lateralDistance : Option ℚ
  tangentHeading : Option ℚ
  alongArcOffset : Option ℚ
  searchRadius : ℚ
  emission : EmissionResult
  deriving DecidableEq, Repr

namespace RoadCandidate

variable (candidate : RoadCandidate)

/-- The constraints of the fields. -/
def validateFields : Except CandidateError Unit := do
  requireField "source_way_id" (∀ way ∈ candidate.sourceWayId, 0 < way)
  requireField "lateral_distance_m" (∀ distance ∈ candidate.lateralDistance, 0 ≤ distance)
  requireField "tangent_heading_rad"
    (∀ heading ∈ candidate.tangentHeading, -numbersPi ≤ heading ∧ heading ≤ numbersPi)
  requireField "along_arc_offset_m" (∀ offset ∈ candidate.alongArcOffset, 0 ≤ offset)
  requireField "search_radius_m" (0 < candidate.searchRadius)

/-- `validate_state_fields`; the state is on the road where there is an arc. -/
def validateStateFields : Except CandidateError Unit :=
  if candidate.directedArcId.isSome then
    if candidate.sourceWayId = none ∨ candidate.projectedPosition = none ∨
        candidate.lateralDistance = none ∨ candidate.tangentHeading = none ∨
        candidate.alongArcOffset = none then
      .error .incompleteProjection
    else if candidate.emission.offMapLogLikelihood.isSome then .error .offMapEmission
    else .ok ()
  else if candidate.sourceWayId.isSome ∨ candidate.projectedPosition.isSome ∨
      candidate.lateralDistance.isSome ∨ candidate.tangentHeading.isSome ∨
      candidate.alongArcOffset.isSome then
    .error .projectionEvidence
  else .ok ()

end RoadCandidate

/-- `candidate_to_python`: the fields a native candidate is handed over with. -/
def candidateToPython (graph : Graph) (candidate : Candidate) : RoadCandidate :=
  match candidate.arcIndex with
  | some arcIndex =>
      { directedArcId := some (graph.arc arcIndex).arcId,
        sourceWayId := some (graph.arc arcIndex).sourceWayId,
        projectedPosition := candidate.projectedPosition,
        lateralDistance := candidate.lateralDistance,
        tangentHeading := candidate.tangentHeading,
        alongArcOffset := candidate.alongArcOffset, searchRadius := candidate.searchRadius,
        emission := candidate.emission }
  | none =>
      { directedArcId := none, sourceWayId := none, projectedPosition := none,
        lateralDistance := none, tangentHeading := none, alongArcOffset := none,
        searchRadius := candidate.searchRadius, emission := candidate.emission }

/-- `_candidate_from_native`. -/
def candidateFromNative (graph : Graph) (observationIndex : Nat) (candidate : Candidate) :
    Except CandidateError RoadCandidate := do
  if candidate.observationIndex ≠ observationIndex then throw .wrongObservation
  else
    let road := candidateToPython graph candidate
    road.emission.validate
    road.validateFields
    road.validateStateFields
    return road

/-! ## Projections -/

/-- The library's square root is not negative. -/
def NativeMath.SqrtNonneg (math : NativeMath) : Prop :=
  ∀ value, 0 ≤ value → 0 ≤ math.sqrt value

section Projections

variable {math : NativeMath} (hsqrt : math.SqrtNonneg)

/-- Distances found so far are not negative. -/
structure ProjectionState.Nonneg (state : ProjectionState) : Prop where
  squared : ∀ squared ∈ state.bestSquared, 0 ≤ squared
  along : 0 ≤ state.bestAlong
  accumulated : 0 ≤ state.accumulated

include hsqrt

theorem projectSegment_nonneg {observation left right : Point2} {state : ProjectionState}
    (h : state.Nonneg) : (projectSegment math observation left right state).Nonneg := by
  unfold projectSegment
  dsimp only
  have hlength : 0 ≤ math.sqrt ((left.delta right).x * (left.delta right).x +
      (left.delta right).y * (left.delta right).y) := by
    apply hsqrt
    exact add_nonneg (mul_self_nonneg _) (mul_self_nonneg _)
  split_ifs
  · exact h
  · constructor
    · intro squared hsquared
      cases hsquared
      exact add_nonneg (mul_self_nonneg _) (mul_self_nonneg _)
    · exact add_nonneg h.accumulated (mul_nonneg (le_max_left _ _) hlength)
    · exact add_nonneg h.accumulated hlength
  · exact ⟨h.squared, h.along, add_nonneg h.accumulated hlength⟩

theorem projectFrom_nonneg {observation : Point2} {geometry : List Point2}
    {state : ProjectionState} (h : state.Nonneg) :
    (projectFrom math observation geometry state).Nonneg := by
  induction geometry generalizing state with
  | nil => exact h
  | cons left rest ih =>
    cases rest with
    | nil => exact h
    | cons right rest => exact ih (projectSegment_nonneg hsqrt h)

theorem project_nonneg {arc : Arc} {observation : Point2} {projection : Projection}
    (h : project math arc observation = .ok projection) :
    0 ≤ projection.lateralDistance ∧ 0 ≤ projection.projectedGeometryDistance ∧
      0 < projection.geometryLength := by
  unfold project at h
  rw [bind_unit_eq_ok_iff, throwIf_eq_ok_iff, not_le] at h
  obtain ⟨hlength, h⟩ := h
  have hinitial : ProjectionState.Nonneg ⟨none, arc.geometry.headD ⟨0, 0⟩, 0, 0⟩ :=
    ⟨by simp, le_rfl, le_rfl⟩
  have hstate : (projectFrom math observation arc.geometry _).Nonneg :=
    projectFrom_nonneg hsqrt hinitial
  dsimp only at h
  split at h
  · simp at h
  · next bestSquared hbest =>
    rw [bind_eq_ok_iff] at h
    obtain ⟨tangent, -, h⟩ := h
    cases h
    exact ⟨hsqrt _ (hstate.squared _ hbest), hstate.along, hlength⟩

end Projections

/-! ## Candidates on the road -/

section OnRoad

variable {math : NativeMath} {candidateParameters : CandidateParameters}
  {emissionParameters : EmissionParameters}

/-- The places that accepted parameters round distances and scores to. -/
def CandidateParameters.places (candidateParameters : CandidateParameters) : Nat :=
  candidateParameters.distanceRoundingDecimalPlaces.toNat

def EmissionParameters.places (emissionParameters : EmissionParameters) : Nat :=
  emissionParameters.scoreRoundingDecimalPlaces.toNat

theorem option_mapM_ok {ε A B : Type} (f : A → B) (value : Option A) :
    value.mapM (fun value => (.ok (f value) : Except ε B)) = .ok (value.map f) := by
  cases value <;> rfl

variable (hparameters : validateParameters candidateParameters emissionParameters = .ok ())

include hparameters

theorem validateParameters_bounds :
    0 < candidateParameters.minimumSearchRadius ∧
      0 ≤ candidateParameters.distanceRoundingDecimalPlaces ∧
      candidateParameters.distanceRoundingDecimalPlaces ≤ 12 ∧
      emissionParameters.headingDisabledBelowSpeed < emissionParameters.headingFullWeightSpeed ∧
      0 ≤ emissionParameters.scoreRoundingDecimalPlaces ∧
      emissionParameters.scoreRoundingDecimalPlaces ≤ 15 := by
  have hchecked := hparameters
  unfold validateParameters at hchecked
  split_ifs at hchecked with hinvalid
  push Not at hinvalid
  obtain ⟨hradius, -, -, -, -, hplaces, hplaces', -, -, -, -, -, hspeed, -, hscore, hscore'⟩ :=
    hinvalid
  exact ⟨hradius, hplaces, hplaces', hspeed, hscore, hscore'⟩

/-- The constrained fields of an emission. -/
theorem onRoadEmission_fields {observation : Observation} {lateralDistance tangent : ℚ}
    {emission : EmissionResult}
    (h : onRoadEmission math emissionParameters observation lateralDistance tangent =
      .ok emission) :
    emission.lateralSigma =
        some (roundTo (lateralSigma math observation emissionParameters)
          emissionParameters.places) ∧
      emission.headingWeight =
        roundTo (observedWeight emissionParameters observation) emissionParameters.places ∧
      emission.headingDifference =
        (observedDifference emissionParameters observation tangent).map (fun difference =>
          min numbersPi (roundTo difference emissionParameters.places)) ∧
      emission.offMapLogLikelihood = none := by
  obtain ⟨-, -, -, -, hscore, hscore'⟩ := validateParameters_bounds hparameters
  unfold onRoadEmission at h
  simp only [checkedRound_of_valid hscore hscore', option_mapM_ok, bind,
    Except.bind] at h
  cases h
  refine ⟨rfl, rfl, ?_, rfl⟩
  rw [Option.map_map]
  rfl

/-- The constrained fields of a candidate on the road. -/
theorem makeOnRoadCandidate_fields {observationIndex arcIndex : Nat} {observation : Observation}
    {arc : Arc} {radius : ℚ} {candidate : Candidate}
    (h : makeOnRoadCandidate math candidateParameters emissionParameters observationIndex
      observation arcIndex arc radius = .ok (some candidate)) :
    ∃ projection tangent, project math arc observation.position = .ok projection ∧
      projection.lateralDistance ≤ radius ∧
      tangent = roundTo projection.tangentHeading emissionParameters.places ∧
      candidate.observationIndex = observationIndex ∧ candidate.arcIndex = some arcIndex ∧
      candidate.projectedPosition.isSome ∧
      candidate.lateralDistance =
        some (roundTo projection.lateralDistance candidateParameters.places) ∧
      candidate.tangentHeading = some tangent ∧
      candidate.alongArcOffset = some (roundTo (min arc.length
        (projection.projectedGeometryDistance / projection.geometryLength * arc.length))
          candidateParameters.places) ∧
      candidate.searchRadius = radius ∧
      onRoadEmission math emissionParameters observation
        (roundTo projection.lateralDistance candidateParameters.places) tangent =
          .ok candidate.emission := by
  obtain ⟨-, hplaces, hplaces', -, hscore, hscore'⟩ := validateParameters_bounds hparameters
  unfold makeOnRoadCandidate at h
  rw [bind_eq_ok_iff] at h
  obtain ⟨projection, hprojection, h⟩ := h
  split_ifs at h with hradius
  · cases h
  · rw [bind_eq_ok_iff] at h
    obtain ⟨made, hmade, h⟩ := h
    cases h
    unfold projectedCandidate at hmade
    simp only [checkedRound_of_valid hscore hscore',
      checkedRound_of_valid hplaces (hplaces'.trans (by norm_num))] at hmade
    simp only [bind, Except.bind] at hmade
    cases hemission : onRoadEmission math emissionParameters observation
        (roundTo projection.lateralDistance candidateParameters.places)
        (roundTo projection.tangentHeading emissionParameters.places) with
    | error failure =>
      unfold CandidateParameters.places EmissionParameters.places at hemission
      rw [hemission] at hmade
      cases hmade
    | ok emission =>
      have hsame := hemission
      unfold CandidateParameters.places EmissionParameters.places at hemission
      rw [hemission] at hmade
      cases hmade
      exact ⟨projection, _, hprojection, not_lt.mp hradius, rfl, rfl, rfl, rfl, rfl, rfl, rfl, rfl,
        hsame⟩

end OnRoad

/-! ## Which fields can fail -/

theorem numbersPi_pos : 0 < numbersPi := by
  unfold numbersPi
  norm_num

/-- Whole numbers round to themselves. -/
theorem roundTo_one (places : Nat) : roundTo 1 places = 1 := by
  have hpower : (10 : ℚ) ^ places ≠ 0 := by positivity
  have hunit := roundScaled_intCast (10 ^ places)
  push_cast at hunit
  rw [roundTo, one_mul, hunit]
  push_cast
  exact div_self hpower

theorem roundTo_nonneg {value : ℚ} (h : 0 ≤ value) (places : Nat) : 0 ≤ roundTo value places := by
  have hmono := roundTo_mono places h
  rwa [roundTo_zero] at hmono

section Fields

variable {math : NativeMath} {candidateParameters : CandidateParameters}
  {emissionParameters : EmissionParameters}
  (hparameters : validateParameters candidateParameters emissionParameters = .ok ())

include hparameters

theorem observedWeight_bounds (observation : Observation) :
    0 ≤ observedWeight emissionParameters observation ∧
      observedWeight emissionParameters observation ≤ 1 := by
  obtain ⟨-, -, -, hspeed, -, -⟩ := validateParameters_bounds hparameters
  unfold observedWeight headingWeight
  split
  · dsimp only
    split_ifs with hslow
    · exact ⟨le_rfl, zero_le_one⟩
    · refine ⟨le_min zero_le_one (div_nonneg ?_ ?_), min_le_left _ _⟩
      · linarith
      · linarith
  · exact ⟨le_rfl, zero_le_one⟩

theorem searchRadius_pos (observation : Observation) :
    0 < searchRadius observation candidateParameters := by
  obtain ⟨hradius, -⟩ := validateParameters_bounds hparameters
  exact lt_max_of_lt_left hradius

/-- An emission on the road fails by its sigma only: the heading difference is capped. -/
theorem onRoadEmission_validate {observation : Observation} {lateralDistance tangent : ℚ}
    {emission : EmissionResult}
    (h : onRoadEmission math emissionParameters observation lateralDistance tangent =
      .ok emission) :
    emission.validate = .ok () ↔
      0 < roundTo (lateralSigma math observation emissionParameters) emissionParameters.places := by
  obtain ⟨hsigma, hweight, hdifference, -⟩ := onRoadEmission_fields hparameters h
  obtain ⟨hlow, hhigh⟩ := observedWeight_bounds hparameters observation
  have hweightLow := roundTo_nonneg hlow emissionParameters.places
  have hweightHigh := roundTo_mono emissionParameters.places hhigh
  rw [roundTo_one] at hweightHigh
  have hcapped : ∀ difference ∈ emission.headingDifference,
      0 ≤ difference ∧ difference ≤ numbersPi := by
    intro difference hmem
    rw [hdifference, Option.mem_def, Option.map_eq_some_iff] at hmem
    obtain ⟨raw, hraw, rfl⟩ := hmem
    have hnonneg : 0 ≤ raw := by
      unfold observedDifference at hraw
      split at hraw
      · split_ifs at hraw
        cases hraw
        exact abs_nonneg _
      · simp at hraw
    exact ⟨le_min numbersPi_pos.le (roundTo_nonneg hnonneg _), min_le_left _ _⟩
  unfold EmissionResult.validate
  rw [bind_unit_eq_ok_iff, bind_unit_eq_ok_iff, requireField_eq_ok_iff, requireField_eq_ok_iff,
    requireField_eq_ok_iff, hsigma, hweight]
  constructor
  · intro ⟨hpositive, _⟩
    exact hpositive _ rfl
  · intro hpositive
    refine ⟨fun sigma hmem => ?_, ⟨hweightLow, hweightHigh⟩, hcapped⟩
    rw [← Option.some.inj hmem]
    exact hpositive

/-- A candidate on the road is accepted when its tangent heading is still one after
rounding, and its sigma still positive. -/
theorem candidateFromNative_onRoad (hsqrt : math.SqrtNonneg) {graph : Graph}
    (hgraph : graph.Valid) {observationIndex arcIndex : Nat} (harc : arcIndex < graph.arcs.length)
    {observation : Observation} {candidate : Candidate} {projection : Projection}
    (hprojection : project math (graph.arc arcIndex) observation.position = .ok projection)
    (h : makeOnRoadCandidate math candidateParameters emissionParameters observationIndex
      observation arcIndex (graph.arc arcIndex) (searchRadius observation candidateParameters) =
        .ok (some candidate)) :
    (∃ road, candidateFromNative graph observationIndex candidate = .ok road) ↔
      (-numbersPi ≤ roundTo projection.tangentHeading emissionParameters.places ∧
        roundTo projection.tangentHeading emissionParameters.places ≤ numbersPi) ∧
      0 < roundTo (lateralSigma math observation emissionParameters)
        emissionParameters.places := by
  obtain ⟨made, tangent, hmade, -, htangent, hindex, harcIndex, hposition, hlateral, hheading,
    hoffset, hradius, hemission⟩ := makeOnRoadCandidate_fields hparameters h
  obtain rfl : made = projection := Except.ok.inj (hmade.symm.trans hprojection)
  obtain ⟨hdistance, halong, hlength⟩ := project_nonneg hsqrt hprojection
  obtain ⟨-, -, -, hoff⟩ := onRoadEmission_fields hparameters hemission
  have hvalidate := onRoadEmission_validate hparameters hemission
  have hway : 0 < (graph.arc arcIndex).sourceWayId :=
    hgraph.sourceWayId_pos (Graph.arc_mem harc)
  have hlateralNonneg := roundTo_nonneg hdistance candidateParameters.places
  have hoffsetNonneg : 0 ≤ roundTo (min (graph.arc arcIndex).length
      (made.projectedGeometryDistance / made.geometryLength * (graph.arc arcIndex).length))
        candidateParameters.places := by
    have harcLength := (hgraph.arc_length_pos harc).le
    apply roundTo_nonneg
    exact le_min harcLength (mul_nonneg (div_nonneg halong hlength.le) harcLength)
  have hradiusPos := searchRadius_pos hparameters observation
  have hfields : (candidateToPython graph candidate).validateFields = .ok () ↔
      -numbersPi ≤ tangent ∧ tangent ≤ numbersPi := by
    unfold RoadCandidate.validateFields candidateToPython
    simp only [harcIndex, hlateral, hheading, hoffset, hradius, bind_unit_eq_ok_iff,
      requireField_eq_ok_iff, Option.mem_def, Option.some.injEq, forall_eq']
    simp [hway, hlateralNonneg, hoffsetNonneg, hradiusPos]
  have hstate : (candidateToPython graph candidate).validateStateFields = .ok () := by
    obtain ⟨position, hposition⟩ := Option.isSome_iff_exists.mp hposition
    unfold RoadCandidate.validateStateFields candidateToPython
    simp [harcIndex, hlateral, hheading, hoffset, hposition, hoff]
  have hsame : (candidateToPython graph candidate).emission = candidate.emission := by
    unfold candidateToPython
    rw [harcIndex]
  unfold candidateFromNative
  rw [if_neg (by rw [hindex]; simp)]
  simp only [bind_unit_eq_ok_iff, exists_and_left, hsame, hvalidate, hfields, hstate, true_and]
  rw [← htangent]
  constructor
  · intro ⟨hsigma, hrange, _⟩
    exact ⟨hrange, hsigma⟩
  · intro ⟨hrange, hsigma⟩
    exact ⟨hsigma, hrange, _, rfl⟩

/-- The candidate off the map is always accepted. -/
theorem candidateFromNative_offMap (graph : Graph) (observationIndex : Nat)
    (observation : Observation) :
    ∃ road, candidateFromNative graph observationIndex
      (makeOffMapCandidate emissionParameters observationIndex
        (searchRadius observation candidateParameters)) = .ok road := by
  have hradiusPos := searchRadius_pos hparameters observation
  refine ⟨candidateToPython graph (makeOffMapCandidate emissionParameters observationIndex
    (searchRadius observation candidateParameters)), ?_⟩
  unfold candidateFromNative
  rw [if_neg (by simp [makeOffMapCandidate])]
  simp only [bind_unit_eq_ok_iff]
  refine ⟨?_, ?_, ?_, rfl⟩
  · unfold EmissionResult.validate
    simp [bind_unit_eq_ok_iff, requireField_eq_ok_iff, candidateToPython, makeOffMapCandidate]
  · unfold RoadCandidate.validateFields
    simp [bind_unit_eq_ok_iff, requireField_eq_ok_iff, candidateToPython, makeOffMapCandidate,
      hradiusPos]
  · simp [RoadCandidate.validateStateFields, candidateToPython, makeOffMapCandidate]

end Fields

end CartoSentry.Matching
