import CartoSentry.Matching.DecodedIntervals
import CartoSentry.Matching.PythonRounding
import CartoSentry.Matching.RoadCandidate

set_option autoImplicit false

/-!
# Road matching: the Python model of a decoded path

`decode_road_path` reads the native result into decoded points and matched intervals
and makes a `DecodedRoadPath` of them, which recomputes what the result says of itself.
Hashes and the identities of graphs, candidates and observations that the wrapper
copies are left out.
-/

namespace CartoSentry.Matching

/-- Python's `ValueError`. -/
structure ValueError where
  message : String
  deriving DecidableEq, Repr

/-- A check that raises on its condition. -/
def raiseIf (condition : Prop) [Decidable condition] (message : String) :
    Except ValueError Unit :=
  if condition then .error ⟨message⟩ else .ok ()

theorem raiseIf_eq_ok_iff {condition : Prop} [Decidable condition] {message : String} :
    raiseIf condition message = .ok () ↔ ¬ condition := by
  unfold raiseIf
  split_ifs with h <;> simp [h]

inductive MatchConfidence where
  | confident
  | ambiguous
  deriving DecidableEq, Repr

def confidenceOf (ambiguous : Bool) : MatchConfidence :=
  if ambiguous then .ambiguous else .confident

/-! ## Points -/

structure DecodedMatchPoint where
  observationIndex : Nat
  observation : Observation
  candidate : Candidate
  stationary : Bool
  confidence : MatchConfidence
  runnerUpCandidateId : Option String
  pathSeparation : Option ℚ

namespace DecodedMatchPoint

variable (graph : Graph) (point : DecodedMatchPoint)

/-- The constraint of the separation and `validate_ownership`. -/
def validate : Except ValueError Unit := do
  raiseIf (∃ separation ∈ point.pathSeparation, separation < 0) "path_separation_log_likelihood"
  raiseIf (point.confidence = .ambiguous ∧
      (point.runnerUpCandidateId = none ∨ point.pathSeparation = none))
    "ambiguous points require runner-up path evidence"

/-- `candidate.directed_arc_id`; the candidate is on the road where there is one. -/
def directedArcId : Option String :=
  (candidateToPython graph point.candidate).directedArcId

def alongArcOffset : Option ℚ :=
  (candidateToPython graph point.candidate).alongArcOffset

/-- The tuple of `support_keys`. -/
def supportKey : Option String × Bool × MatchConfidence :=
  (point.directedArcId graph, point.stationary, point.confidence)

end DecodedMatchPoint

/-- The `DecodedMatchPoint` of one observation. -/
def matchedPoint (separation : Option ℚ) (index : Nat) (observation : Observation)
    (point : DecodedPoint) : DecodedMatchPoint where
  observationIndex := index
  observation := observation
  candidate := point.candidate
  stationary := point.stationary
  confidence := confidenceOf point.ambiguous
  runnerUpCandidateId := if point.differs then point.runner.map Candidate.candidateId else none
  pathSeparation := if point.differs then separation else none

/-- One iteration of the loop that makes the points. -/
def matchPoint (separation : Option ℚ) (expectedAmbiguous : Bool) (index : Nat)
    (observation : Observation) (point : DecodedPoint) : Except ValueError DecodedMatchPoint := do
  raiseIf (point.ambiguous ≠ (expectedAmbiguous && point.differs))
    "native map decoder point confidence is invalid"
  (matchedPoint separation index observation point).validate
  return matchedPoint separation index observation point

def matchPoints (separation : Option ℚ) (expectedAmbiguous : Bool) :
    Nat → List Observation → List DecodedPoint → Except ValueError (List DecodedMatchPoint)
  | index, observation :: observations, point :: points => do
      let matched ← matchPoint separation expectedAmbiguous index observation point
      let rest ← matchPoints separation expectedAmbiguous (index + 1) observations points
      return matched :: rest
  | _, _, _ => .ok []

/-! ## Intervals -/

/-- A `MatchedRoadInterval`; its state is on the road where it has an arc. -/
structure MatchedRoadInterval where
  startObservationIndex : Nat
  endObservationIndexExclusive : Nat
  firstTimeNs : Int
  lastTimeNs : Int
  observationCount : Nat
  directedArcId : Option String
  startAlongArcOffset : Option ℚ
  endAlongArcOffset : Option ℚ
  stationary : Bool
  confidence : MatchConfidence
  pathSeparation : Option ℚ
  usableDistance : ℚ
  sourceObservationIds : List String

/-- `points[start:end]`. -/
def supportOf (points : List DecodedMatchPoint) (start stop : Nat) : List DecodedMatchPoint :=
  (points.drop start).take (stop - start)

namespace MatchedRoadInterval

variable (interval : MatchedRoadInterval)

/-- The constraints of the fields and `validate_interval`. -/
def validate : Except ValueError Unit := do
  raiseIf ((∃ offset ∈ interval.startAlongArcOffset, offset < 0) ∨
      (∃ offset ∈ interval.endAlongArcOffset, offset < 0) ∨
      (∃ separation ∈ interval.pathSeparation, separation < 0) ∨ interval.usableDistance < 0)
    "matched interval field"
  raiseIf (interval.endObservationIndexExclusive - interval.startObservationIndex ≠
        interval.observationCount ∨
      interval.sourceObservationIds.length ≠ interval.observationCount ∨
      interval.lastTimeNs < interval.firstTimeNs)
    "matched interval bounds are inconsistent"
  raiseIf (interval.directedArcId = none ∧
      (interval.startAlongArcOffset ≠ none ∨ interval.endAlongArcOffset ≠ none ∨
        interval.usableDistance ≠ 0))
    "off-map intervals cannot carry road coverage"
  raiseIf (interval.directedArcId ≠ none ∧
      (interval.startAlongArcOffset = none ∨ interval.endAlongArcOffset = none))
    "on-road intervals require directed offsets"
  raiseIf ((interval.stationary = true ∨ interval.confidence = .ambiguous) ∧
      interval.usableDistance ≠ 0)
    "stationary or ambiguous intervals cannot add coverage"

end MatchedRoadInterval

/-- The `MatchedRoadInterval` of a group of points. -/
def matchedInterval (graph : Graph) (native : DecodedInterval) (first last : DecodedMatchPoint)
    (group : List DecodedMatchPoint) : MatchedRoadInterval where
  startObservationIndex := native.startObservationIndex
  endObservationIndexExclusive := native.endObservationIndexExclusive
  firstTimeNs := first.observation.timeNs
  lastTimeNs := last.observation.timeNs
  observationCount := group.length
  directedArcId := first.directedArcId graph
  startAlongArcOffset := first.alongArcOffset graph
  endAlongArcOffset := last.alongArcOffset graph
  stationary := first.stationary
  confidence := first.confidence
  pathSeparation := native.pathSeparation
  usableDistance := native.usableDistance
  sourceObservationIds := group.map fun point => point.observation.observationId

/-- One iteration of the loop that makes the intervals. -/
def matchInterval (graph : Graph) (points : List DecodedMatchPoint) (native : DecodedInterval) :
    Except ValueError MatchedRoadInterval := do
  raiseIf (¬ (native.startObservationIndex < native.endObservationIndexExclusive ∧
      native.endObservationIndexExclusive ≤ points.length))
    "native map decoder interval bounds are invalid"
  let group := supportOf points native.startObservationIndex native.endObservationIndexExclusive
  match group.head?, group.getLast? with
  | some first, some last =>
      (matchedInterval graph native first last group).validate
      return matchedInterval graph native first last group
  | _, _ => throw ⟨"list index out of range"⟩

/-! ## Paths -/

structure DecodedRoadPath where
  bestTotalLogLikelihood : ℚ
  runnerUpTotalLogLikelihood : Option ℚ
  pathSeparation : Option ℚ
  confidence : MatchConfidence
  points : List DecodedMatchPoint
  intervals : List MatchedRoadInterval
  runnerUpCandidates : List Candidate
  diagnostics : DecoderDiagnostics

/-- The sum over the pairs of neighbours in `validate_path`. -/
def offsetChanges (graph : Graph) : List DecodedMatchPoint → ℚ
  | left :: right :: rest =>
      |(right.alongArcOffset graph).getD 0 - (left.alongArcOffset graph).getD 0| +
        offsetChanges graph (right :: rest)
  | _ => 0

/-- `usable_distance` of `validate_path`. -/
def recomputedDistance (graph : Graph) (first : DecodedMatchPoint)
    (support : List DecodedMatchPoint) : ℚ :=
  if first.directedArcId graph ≠ none ∧ first.stationary = false ∧
      first.confidence = .confident then
    pythonRound (offsetChanges graph support) 6
  else 0

/-- The `usable_distance` recomputed for an interval. -/
def recomputedOf (graph : Graph) (points : List DecodedMatchPoint) (interval : DecodedInterval) :
    ℚ :=
  let support :=
    supportOf points interval.startObservationIndex interval.endObservationIndexExclusive
  match support.head? with
  | some first => recomputedDistance graph first support
  | none => 0

/-- `expected_separation` of `validate_path`. -/
def expectedSeparation (best runnerUp : ℚ) : ℚ :=
  pythonRound (best - runnerUp) 12

/-- One iteration of the interval loop of `validate_path`. -/
def checkInterval (graph : Graph) (points : List DecodedMatchPoint) (cursor : Nat)
    (interval : MatchedRoadInterval) : Except ValueError Unit := do
  raiseIf (interval.startObservationIndex ≠ cursor ∨
      points.length < interval.endObservationIndexExclusive)
    "matched intervals do not partition the path"
  let support :=
    supportOf points interval.startObservationIndex interval.endObservationIndexExclusive
  match support.head?, support.getLast? with
  | some first, some last =>
      raiseIf (¬ (support.all fun point => point.supportKey graph = first.supportKey graph) ∨
          interval.directedArcId ≠ first.directedArcId graph ∨
          interval.stationary ≠ first.stationary ∨ interval.confidence ≠ first.confidence ∨
          interval.firstTimeNs ≠ first.observation.timeNs ∨
          interval.lastTimeNs ≠ last.observation.timeNs ∨
          interval.startAlongArcOffset ≠ first.alongArcOffset graph ∨
          interval.endAlongArcOffset ≠ last.alongArcOffset graph ∨
          interval.sourceObservationIds ≠
            support.map (fun point => point.observation.observationId) ∨
          interval.usableDistance ≠ recomputedDistance graph first support ∨
          interval.pathSeparation ≠
            (support.filterMap DecodedMatchPoint.pathSeparation).min?)
        "matched interval evidence is inconsistent"
  | _, _ => throw ⟨"list index out of range"⟩

/-- The interval loop of `validate_path`; it returns the last cursor. -/
def checkIntervals (graph : Graph) (points : List DecodedMatchPoint) :
    Nat → List MatchedRoadInterval → Except ValueError Unit
  | cursor, [] =>
      raiseIf (cursor ≠ points.length) "matched intervals do not cover the path"
  | cursor, interval :: rest => do
      checkInterval graph points cursor interval
      checkIntervals graph points interval.endObservationIndexExclusive rest

/-- The loop over points and runner-up candidates in `validate_path`. -/
def checkRunnerUps (separation : Option ℚ) (confidence : MatchConfidence) :
    List DecodedMatchPoint → List Candidate → Except ValueError Unit
  | point :: points, runnerUp :: runnerUps => do
      let differs : Bool := runnerUp.candidateId ≠ point.candidate.candidateId
      raiseIf (point.runnerUpCandidateId ≠
            (if differs then some runnerUp.candidateId else none) ∨
          point.pathSeparation ≠ (if differs then separation else none) ∨
          point.confidence ≠ (if differs ∧ confidence = .ambiguous then .ambiguous
            else .confident))
        "point runner-up evidence is inconsistent"
      checkRunnerUps separation confidence points runnerUps
  | _, _ => .ok ()

namespace DecodedRoadPath

variable (graph : Graph) (path : DecodedRoadPath)

/-- The separation checks of `validate_path`. -/
def checkSeparation : Except ValueError Unit :=
  match path.runnerUpTotalLogLikelihood with
  | none =>
      raiseIf (path.pathSeparation ≠ none ∨ path.runnerUpCandidates ≠ [] ∨
          path.confidence ≠ .confident)
        "path separation requires a runner-up path"
  | some runnerUpTotal => do
      let expected := expectedSeparation path.bestTotalLogLikelihood runnerUpTotal
      raiseIf (path.pathSeparation ≠ some expected ∨ expected < 0 ∨
          path.runnerUpCandidates.length ≠ path.points.length)
        "runner-up path evidence is incomplete"
      raiseIf (path.confidence ≠ confidenceOf (expected ≤ 1))
        "sequence confidence contradicts path separation"

/-- The points' evidence in `validate_path`. -/
def checkPoints : Except ValueError Unit :=
  if path.runnerUpCandidates ≠ [] then
    checkRunnerUps path.pathSeparation path.confidence path.points path.runnerUpCandidates
  else
    raiseIf (∃ point ∈ path.points, point.runnerUpCandidateId ≠ none ∨
        point.pathSeparation ≠ none ∨ point.confidence ≠ .confident)
      "decoded points claim unavailable runner-up evidence"

/-- `validate_path`. -/
def validatePath : Except ValueError Unit := do
  raiseIf (path.points = []) "decoded road path cannot be empty"
  raiseIf (path.diagnostics.generatedCandidateCounts.length ≠ path.points.length ∨
      path.diagnostics.retainedHypothesisCounts.length ≠ path.points.length ∨
      path.diagnostics.rejectedTransitionCounts.length ≠ path.points.length ∨
      path.diagnostics.prunedHypothesisCounts.length ≠ path.points.length)
    "decoder diagnostics do not cover every observation"
  raiseIf (path.points.map DecodedMatchPoint.observationIndex ≠ List.range path.points.length)
    "decoded point ordering or graph authority is invalid"
  raiseIf (¬ (path.points.map fun point => point.observation.observationId).Nodup ∨
      ¬ (path.points.map fun point => point.observation.timeNs).IsChain (· < ·))
    "decoded observations are not unique and time ordered"
  path.checkSeparation
  path.checkPoints
  checkIntervals graph path.points 0 path.intervals

end DecodedRoadPath

/-- The `DecodedRoadPath` of a native result. -/
def decodedPath (input : DecoderInput) (result : DecodeResult) (points : List DecodedMatchPoint)
    (intervals : List MatchedRoadInterval) : DecodedRoadPath where
  bestTotalLogLikelihood := result.bestTotalLogLikelihood
  runnerUpTotalLogLikelihood := result.runnerUpTotalLogLikelihood
  pathSeparation := result.pathSeparation
  confidence := confidenceOf result.ambiguous
  points := points
  intervals := intervals
  runnerUpCandidates := candidatesOf input.batches result.runnerUpCandidateIndices
  diagnostics := result.diagnostics

/-- `decode_road_path` from the native result on. -/
def decodeRoadPath (input : DecoderInput) (result : DecodeResult) :
    Except ValueError DecodedRoadPath := do
  let expectedAmbiguous : Bool := result.pathSeparation.any fun separation =>
    separation ≤ input.decoderParameters.ambiguityPathSeparation
  raiseIf (result.ambiguous ≠ expectedAmbiguous)
    "native map decoder confidence contradicts its separation"
  let points ← matchPoints result.pathSeparation expectedAmbiguous 0 input.observations
    (result.points input.batches)
  let intervals ← result.intervals.mapM (matchInterval input.graph points)
  raiseIf (∃ separation ∈ result.pathSeparation, separation < 0) "path_separation_log_likelihood"
  (decodedPath input result points intervals).validatePath input.graph
  return decodedPath input result points intervals

end CartoSentry.Matching
