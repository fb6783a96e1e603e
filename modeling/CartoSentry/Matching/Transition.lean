import CartoSentry.Matching.Route
import CartoSentry.Matching.Rounding

set_option autoImplicit false

/-!
# Road matching: transition scores

`score_transition_impl`.  The functions of the C++ mathematics library are
parameters: a `NativeMath` is any choice of them, over exact rationals.
-/

namespace CartoSentry.Matching

/-- The functions the matcher calls from `<cmath>`. -/
structure NativeMath where
  hypot : ℚ → ℚ → ℚ
  sqrt : ℚ → ℚ
  log : ℚ → ℚ
  atan2 : ℚ → ℚ → ℚ

/-- `distance`. -/
def distanceBetween (math : NativeMath) (left right : Point2) : ℚ :=
  math.hypot (right.x - left.x) (right.y - left.y)

structure TransitionResult where
  possible : Bool
  rejectionReason : Option TransitionRejection := none
  elapsedSeconds : ℚ
  observedDisplacement : ℚ
  graphDistance : Option ℚ := none
  impliedGraphSpeed : Option ℚ := none
  pathDiscrepancy : Option ℚ := none
  turnCount : Option Nat := none
  uTurnCount : Option Nat := none
  pathArcIds : List String := []
  pathLogLikelihood : Option ℚ := none
  speedLogLikelihood : Option ℚ := none
  turnLogLikelihood : Option ℚ := none
  offMapLogLikelihood : Option ℚ := none
  totalLogLikelihood : Option ℚ := none
  deriving DecidableEq, Repr

structure TransitionQuery where
  previousObservationIndex : Nat
  previous : Candidate
  currentObservationIndex : Nat
  current : Candidate

/-- `impossible`. -/
def impossible (reason : TransitionRejection) (elapsedSeconds observedDisplacement : ℚ)
    (graphDistance impliedSpeed : Option ℚ) (path : List String) : TransitionResult where
  possible := false
  rejectionReason := some reason
  elapsedSeconds := max 0 elapsedSeconds
  observedDisplacement := observedDisplacement
  graphDistance := graphDistance
  impliedGraphSpeed := impliedSpeed
  pathArcIds := path

/-- The guard against an elapsed time beyond 64 bits. -/
def elapsedOverflows (previousTimeNs currentTimeNs : Int) : Prop :=
  previousTimeNs < 0 ∧ int64Max + previousTimeNs < currentTimeNs ∨
    0 < previousTimeNs ∧ currentTimeNs < int64Min + previousTimeNs

instance (previousTimeNs currentTimeNs : Int) :
    Decidable (elapsedOverflows previousTimeNs currentTimeNs) :=
  inferInstanceAs (Decidable (_ ∨ _))

section Score

variable (math : NativeMath) (graph : Graph) (candidateParameters : CandidateParameters)
  (transitionParameters : TransitionParameters)

/-- The score of a transition that leaves, enters or stays off the map. -/
def offMapLog (previous current : Candidate) : ℚ :=
  if previous.offMap = current.offMap then transitionParameters.offMapStayLogLikelihood
  else if previous.offMap then transitionParameters.offMapExitLogLikelihood
  else transitionParameters.offMapEnterLogLikelihood

def offMapTransition (elapsedSeconds observedDisplacement : ℚ) (previous current : Candidate) :
    Except InvalidArgument TransitionResult := do
  let rounded ← checkedRound (offMapLog transitionParameters previous current)
    transitionParameters.scoreRoundingDecimalPlaces
  return { possible := true, elapsedSeconds := elapsedSeconds,
           observedDisplacement := observedDisplacement, offMapLogLikelihood := some rounded,
           totalLogLikelihood := some rounded }

/-- The scored transition along a route. -/
def routedTransition (elapsedSeconds observedDisplacement : ℚ)
    (previousObservation currentObservation : Observation) (matched : RouteResult) :
    Except InvalidArgument TransitionResult := do
  let places := transitionParameters.scoreRoundingDecimalPlaces
  let graphDistance ← checkedRound matched.distance
    candidateParameters.distanceRoundingDecimalPlaces
  let impliedSpeed := graphDistance / elapsedSeconds
  let pathIds := matched.path.map fun index => (graph.arc index).arcId
  if transitionParameters.maximumAbsoluteSpeed < impliedSpeed then
    return impossible .implausibleAbsoluteSpeed elapsedSeconds observedDisplacement
      (some graphDistance) (some impliedSpeed) pathIds
  else
  let discrepancy := |graphDistance - observedDisplacement|
  let pathLog := -discrepancy / transitionParameters.pathDiscrepancyScale
  let supportedSpeed := max previousObservation.speed currentObservation.speed
  let speedExcess := max 0
    (impliedSpeed - supportedSpeed - transitionParameters.observedSpeedExcessAllowance)
  let speedLog := -speedExcess * transitionParameters.speedExcessPenalty
  let turnLog := -(matched.turnCount * transitionParameters.turnPenalty +
    matched.uTurnCount * transitionParameters.uTurnPenalty)
  let roundedSpeed ← checkedRound impliedSpeed places
  let roundedDiscrepancy ← checkedRound discrepancy places
  let roundedPath ← checkedRound pathLog places
  let roundedSpeedLog ← checkedRound speedLog places
  let roundedTurn ← checkedRound turnLog places
  let roundedTotal ← checkedRound (pathLog + speedLog + turnLog) places
  return { possible := true, elapsedSeconds := elapsedSeconds,
           observedDisplacement := observedDisplacement, graphDistance := some graphDistance,
           impliedGraphSpeed := some roundedSpeed, pathDiscrepancy := some roundedDiscrepancy,
           turnCount := some matched.turnCount, uTurnCount := some matched.uTurnCount,
           pathArcIds := pathIds, pathLogLikelihood := some roundedPath,
           speedLogLikelihood := some roundedSpeedLog, turnLogLikelihood := some roundedTurn,
           totalLogLikelihood := some roundedTotal }

/-- The transition between two candidates at a positive elapsed time. -/
def timedTransition (elapsedSeconds observedDisplacement : ℚ)
    (previousObservation currentObservation : Observation) (previous current : Candidate) :
    Except InvalidArgument TransitionResult := do
  if previous.offMap ∨ current.offMap then
    offMapTransition transitionParameters elapsedSeconds observedDisplacement previous current
  else
    match ← route graph previous current transitionParameters with
    | .rejected reason =>
        return impossible reason elapsedSeconds observedDisplacement none none []
    | .found matched =>
        routedTransition graph candidateParameters transitionParameters elapsedSeconds
          observedDisplacement previousObservation currentObservation matched

/-- `score_transition_impl`. -/
def scoreTransition (observations : List Observation) (query : TransitionQuery) :
    Except InvalidArgument TransitionResult := do
  match observations[query.previousObservationIndex]?,
      observations[query.currentObservationIndex]? with
  | some previousObservation, some currentObservation =>
      throwIf (candidateParameters.distanceRoundingDecimalPlaces < 0 ∨
          12 < candidateParameters.distanceRoundingDecimalPlaces)
        "native map transition query is invalid"
      validateCandidateReference graph query.previous query.previousObservationIndex
      validateCandidateReference graph query.current query.currentObservationIndex
      let observedDisplacement :=
        distanceBetween math previousObservation.position currentObservation.position
      throwIf (elapsedOverflows previousObservation.timeNs currentObservation.timeNs)
        "native map transition elapsed time overflows"
      let elapsedSeconds : ℚ :=
        (currentObservation.timeNs - previousObservation.timeNs) / 1000000000
      if elapsedSeconds ≤ 0 then
        return impossible .nonPositiveElapsedTime elapsedSeconds observedDisplacement none none []
      else
        timedTransition graph candidateParameters transitionParameters elapsedSeconds
          observedDisplacement previousObservation currentObservation query.previous query.current
  | _, _ => throw ⟨"native map transition query is invalid"⟩

end Score

end CartoSentry.Matching
