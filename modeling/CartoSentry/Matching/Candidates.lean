import Mathlib.Algebra.Order.Field.Rat
import Mathlib.Data.List.ReduceOption
import Mathlib.Data.List.Sort
import Mathlib.Data.Prod.Lex
import CartoSentry.Foundation.Binary64
import CartoSentry.Matching.Transition

set_option autoImplicit false

/-!
# Road matching: candidates

`generate_candidate_batches`: every observation is projected on every arc; the arcs
within the search radius become on-road candidates, the best of them are kept, and
one candidate off the map is added.
-/

namespace CartoSentry.Matching

open Foundation (nearestEven)

section Candidates

variable (math : NativeMath)

/-! ## Projection -/

structure Projection where
  point : Point2
  lateralDistance : ℚ
  projectedGeometryDistance : ℚ
  geometryLength : ℚ
  tangentHeading : ℚ
  deriving DecidableEq, Repr

/-- `delta` of two points. -/
def Point2.delta (left right : Point2) : Point2 :=
  ⟨right.x - left.x, right.y - left.y⟩

/-- The heading of a displacement. -/
def headingOf (delta : Point2) : ℚ :=
  math.atan2 delta.y delta.x

/-- The loop of `tangent_at` over the segments of the geometry. -/
def tangentFrom : ℚ → Option Point2 → List Point2 → Except InvalidArgument ℚ
  | remaining, fallback, left :: right :: rest =>
      let delta := left.delta right
      let length := math.hypot delta.x delta.y
      if length = 0 then tangentFrom remaining fallback (right :: rest)
      else if remaining ≤ length then .ok (headingOf math delta)
      else tangentFrom (remaining - length) (some delta) (right :: rest)
  | _, some delta, _ => .ok (headingOf math delta)
  | _, none, _ => .error ⟨"native directed arc has no horizontal segment"⟩

/-- `tangent_at`. -/
def tangentAt (geometry : List Point2) (projectedDistance : ℚ) : Except InvalidArgument ℚ :=
  tangentFrom math projectedDistance none geometry

def geometryLength : List Point2 → ℚ
  | left :: right :: rest => distanceBetween math left right + geometryLength (right :: rest)
  | _ => 0

/-- The variables of the loop in `project`; the best squared distance is infinite
before the first segment. -/
structure ProjectionState where
  bestSquared : Option ℚ
  bestPoint : Point2
  bestAlong : ℚ
  accumulated : ℚ

/-- One iteration of the loop in `project`. -/
def projectSegment (observation left right : Point2) (state : ProjectionState) :
    ProjectionState :=
  let delta := left.delta right
  let squaredLength := delta.x * delta.x + delta.y * delta.y
  if squaredLength = 0 then state
  else
    let segmentLength := math.sqrt squaredLength
    let unclamped :=
      ((observation.x - left.x) * delta.x + (observation.y - left.y) * delta.y) / squaredLength
    let fraction := max 0 (min unclamped 1)
    let candidate : Point2 := ⟨left.x + fraction * delta.x, left.y + fraction * delta.y⟩
    let difference := candidate.delta observation
    let squared := difference.x * difference.x + difference.y * difference.y
    if state.bestSquared.all fun best => squared < best then
      { bestSquared := some squared, bestPoint := candidate,
        bestAlong := state.accumulated + fraction * segmentLength,
        accumulated := state.accumulated + segmentLength }
    else { state with accumulated := state.accumulated + segmentLength }

def projectFrom (observation : Point2) : List Point2 → ProjectionState → ProjectionState
  | left :: right :: rest, state =>
      projectFrom observation (right :: rest) (projectSegment math observation left right state)
  | _, state => state

/-- `project`. -/
def project (arc : Arc) (observation : Point2) : Except InvalidArgument Projection := do
  let total := geometryLength math arc.geometry
  throwIf (total ≤ 0) "native directed arc has invalid geometry"
  let state := projectFrom math observation arc.geometry
    { bestSquared := none, bestPoint := arc.geometry.headD ⟨0, 0⟩, bestAlong := 0,
      accumulated := 0 }
  match state.bestSquared with
  | none => throw ⟨"native directed arc cannot be projected"⟩
  | some bestSquared =>
      let tangent ← tangentAt math arc.geometry state.bestAlong
      return { point := state.bestPoint, lateralDistance := math.sqrt bestSquared,
               projectedGeometryDistance := state.bestAlong, geometryLength := total,
               tangentHeading := tangent }

/-! ## Emission -/

/-- `gaussian_log_likelihood`. -/
def gaussianLogLikelihood (residual sigma : ℚ) : ℚ :=
  -(1 / 2) * (residual / sigma) ^ 2 - math.log (sigma * math.sqrt (2 * numbersPi))

/-- `std::remainder`. -/
def remainder (value modulus : ℚ) : ℚ :=
  value - nearestEven (value / modulus) * modulus

/-- `wrapped_heading_difference`. -/
def wrappedHeadingDifference (left right : ℚ) : ℚ :=
  |remainder (left - right) (2 * numbersPi)|

/-- `heading_weight`. -/
def headingWeight (speed : ℚ) (parameters : EmissionParameters) : ℚ :=
  if speed ≤ parameters.headingDisabledBelowSpeed then 0
  else
    let span := parameters.headingFullWeightSpeed - parameters.headingDisabledBelowSpeed
    min 1 ((speed - parameters.headingDisabledBelowSpeed) / span)

/-- `search_radius`. -/
def searchRadius (observation : Observation) (parameters : CandidateParameters) : ℚ :=
  let requested :=
    match observation.horizontalUncertainty with
    | some uncertainty =>
        max parameters.defaultSearchRadius (uncertainty * parameters.uncertaintyRadiusMultiplier)
    | none => parameters.defaultSearchRadius
  max parameters.minimumSearchRadius (min requested parameters.maximumSearchRadius)

/-- `lateral_sigma` before it is rounded. -/
def lateralSigma (observation : Observation) (parameters : EmissionParameters) : ℚ :=
  min parameters.maximumLateralSigma
    (math.hypot parameters.baseLateralSigma (observation.horizontalUncertainty.getD 0))

section Parameters

variable (candidateParameters : CandidateParameters) (emissionParameters : EmissionParameters)

/-- The weight of the heading of an observation. -/
def observedWeight (observation : Observation) : ℚ :=
  match observation.headingRad with
  | some _ => headingWeight observation.speed emissionParameters
  | none => 0

/-- The difference of an observed heading and a tangent; none without weight. -/
def observedDifference (observation : Observation) (tangent : ℚ) : Option ℚ :=
  match observation.headingRad with
  | some heading =>
      if 0 < observedWeight emissionParameters observation then
        some (wrappedHeadingDifference heading tangent)
      else none
  | none => none

/-- The emission of a candidate on the road. -/
def onRoadEmission (observation : Observation) (lateralDistance tangent : ℚ) :
    Except InvalidArgument EmissionResult := do
  let places := emissionParameters.scoreRoundingDecimalPlaces
  let sigma := lateralSigma math observation emissionParameters
  let lateralLog := gaussianLogLikelihood math lateralDistance sigma
  let weight := observedWeight emissionParameters observation
  let difference := observedDifference emissionParameters observation tangent
  let headingLog := difference.map fun difference =>
    gaussianLogLikelihood math difference emissionParameters.headingSigma
  let total := lateralLog + weight * headingLog.getD 0
  let roundedSigma ← checkedRound sigma places
  let roundedLateral ← checkedRound lateralLog places
  let roundedWeight ← checkedRound weight places
  let roundedDifference ← difference.mapM fun difference => checkedRound difference places
  let roundedHeading ← headingLog.mapM fun headingLog => checkedRound headingLog places
  let roundedTotal ← checkedRound total places
  return { lateralSigma := some roundedSigma, lateralLogLikelihood := some roundedLateral,
           headingUsed := difference.isSome, headingWeight := roundedWeight,
           headingDifference := roundedDifference.map fun difference => min numbersPi difference,
           headingLogLikelihood := roundedHeading, offMapLogLikelihood := none,
           totalLogLikelihood := roundedTotal }

/-- `make_on_road_candidate` of a projection within the radius. -/
def projectedCandidate (observationIndex : Nat) (observation : Observation) (arcIndex : Nat)
    (arc : Arc) (radius : ℚ) (projection : Projection) : Except InvalidArgument Candidate := do
  let places := candidateParameters.distanceRoundingDecimalPlaces
  let lateralDistance ← checkedRound projection.lateralDistance places
  let alongOffset ← checkedRound
    (min arc.length
      (projection.projectedGeometryDistance / projection.geometryLength * arc.length)) places
  let tangent ← checkedRound projection.tangentHeading
    emissionParameters.scoreRoundingDecimalPlaces
  let x ← checkedRound projection.point.x places
  let y ← checkedRound projection.point.y places
  let emission ← onRoadEmission math emissionParameters observation lateralDistance tangent
  return { candidateId := "", observationIndex := observationIndex, arcIndex := some arcIndex,
           projectedPosition := some ⟨x, y⟩, lateralDistance := some lateralDistance,
           tangentHeading := some tangent, alongArcOffset := some alongOffset,
           searchRadius := radius, emission := emission }

/-- `make_on_road_candidate`. -/
def makeOnRoadCandidate (observationIndex : Nat) (observation : Observation) (arcIndex : Nat)
    (arc : Arc) (radius : ℚ) : Except InvalidArgument (Option Candidate) := do
  let projection ← project math arc observation.position
  if radius < projection.lateralDistance then return none
  else
    let candidate ← projectedCandidate math candidateParameters emissionParameters
      observationIndex observation arcIndex arc radius projection
    return some candidate

/-- `make_off_map_candidate`. -/
def makeOffMapCandidate (observationIndex : Nat) (radius : ℚ) : Candidate where
  candidateId := ""
  observationIndex := observationIndex
  arcIndex := none
  projectedPosition := none
  lateralDistance := none
  tangentHeading := none
  alongArcOffset := none
  searchRadius := radius
  emission := { lateralSigma := none, lateralLogLikelihood := none, headingUsed := false,
                headingWeight := 0, headingDifference := none, headingLogLikelihood := none,
                offMapLogLikelihood := some emissionParameters.offMapLogLikelihood,
                totalLogLikelihood := emissionParameters.offMapLogLikelihood }

/-! ## Batches -/

/-- What `generate_candidate_batches` sorts candidates on the road by. -/
def candidateKey (graph : Graph) (candidate : Candidate) : ℚᵒᵈ ×ₗ ℚ ×ₗ String :=
  toLex (OrderDual.toDual candidate.emission.totalLogLikelihood,
    toLex (candidate.lateralDistance.getD 0, (graph.arc (candidate.arcIndex.getD 0)).arcId))

def sortCandidates (graph : Graph) (candidates : List Candidate) : List Candidate :=
  candidates.insertionSort fun left right => candidateKey graph left ≤ candidateKey graph right

/-- One iteration of the loop over observations. -/
def candidateBatch (graph : Graph) (observationIndex : Nat) (observation : Observation) :
    Except InvalidArgument (List Candidate) := do
  let radius := searchRadius observation candidateParameters
  let onRoad ← (List.range graph.arcs.length).mapM fun arcIndex =>
    makeOnRoadCandidate math candidateParameters emissionParameters observationIndex observation
      arcIndex (graph.arc arcIndex) radius
  return (sortCandidates graph onRoad.reduceOption).take
      candidateParameters.maximumOnRoadCandidates ++
    [makeOffMapCandidate emissionParameters observationIndex radius]

def candidateBatchesFrom (graph : Graph) :
    Nat → List Observation → Except InvalidArgument (List (List Candidate))
  | _, [] => .ok []
  | observationIndex, observation :: rest => do
      let batch ← candidateBatch math candidateParameters emissionParameters graph
        observationIndex observation
      let batches ← candidateBatchesFrom graph (observationIndex + 1) rest
      return batch :: batches

/-- `generate_candidate_batches`. -/
def generateCandidateBatches (graph : Graph) (observations : List Observation) :
    Except InvalidArgument (List (List Candidate)) := do
  validateGraph graph
  validateObservations observations
  validateParameters candidateParameters emissionParameters
  candidateBatchesFrom math candidateParameters emissionParameters graph 0 observations

end Parameters

end Candidates

end CartoSentry.Matching
