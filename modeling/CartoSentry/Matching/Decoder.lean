import Mathlib.Data.List.Sort
import CartoSentry.Foundation.BeamSearch
import CartoSentry.Matching.Transition

set_option autoImplicit false

/-!
# Road matching: beam decoder

`decode_candidate_batches`: a list of partial candidate sequences is extended by
every candidate of the next batch, ranked, pruned per terminal candidate, by
score and by width; the best two sequences, their separation and the intervals
of the best one are returned.
-/

namespace CartoSentry.Matching

open Foundation.BeamSearch (keepFirst selectWithin)

/-! ## Hypotheses -/

/-- `Hypothesis`: the chain of shared pointers is the value itself, and the number
of links is its observation index. -/
inductive Hypothesis where
  | initial (candidateIndex : Nat) (totalScore : ℚ) (lexicographicRank : Nat)
  | extended (previous : Hypothesis) (candidateIndex : Nat) (totalScore : ℚ)
      (lexicographicRank : Nat)
  deriving DecidableEq, Repr

namespace Hypothesis

def observationIndex : Hypothesis → Nat
  | .initial .. => 0
  | .extended previous .. => previous.observationIndex + 1

def candidateIndex : Hypothesis → Nat
  | .initial candidateIndex .. => candidateIndex
  | .extended _ candidateIndex .. => candidateIndex

def totalScore : Hypothesis → ℚ
  | .initial _ totalScore _ => totalScore
  | .extended _ _ totalScore _ => totalScore

def lexicographicRank : Hypothesis → Nat
  | .initial _ _ rank => rank
  | .extended _ _ _ rank => rank

/-- `left->previous ? left->previous->lexicographic_rank : 0U`. -/
def previousRank : Hypothesis → Nat
  | .initial .. => 0
  | .extended previous .. => previous.lexicographicRank

def withRank (rank : Nat) : Hypothesis → Hypothesis
  | .initial candidateIndex totalScore _ => .initial candidateIndex totalScore rank
  | .extended previous candidateIndex totalScore _ =>
      .extended previous candidateIndex totalScore rank

/-- `reconstruct`. -/
def reconstruct : Hypothesis → List Nat
  | .initial candidateIndex .. => [candidateIndex]
  | .extended previous candidateIndex .. => previous.reconstruct ++ [candidateIndex]

end Hypothesis

/-- A candidate without content, read only outside a batch, which no modelled
function does. -/
def Candidate.absent : Candidate where
  candidateId := ""
  observationIndex := 0
  arcIndex := none
  projectedPosition := none
  lateralDistance := none
  tangentHeading := none
  alongArcOffset := none
  searchRadius := 0
  emission := { lateralSigma := none, lateralLogLikelihood := none, headingUsed := false,
                headingWeight := 0, headingDifference := none, headingLogLikelihood := none,
                offMapLogLikelihood := none, totalLogLikelihood := 0 }

/-- `candidate_batches[observation_index]`. -/
def batchAt (batches : List (List Candidate)) (observationIndex : Nat) : List Candidate :=
  batches.getD observationIndex []

/-- `candidate_batches[observation_index][candidate_index]`. -/
def candidateAt (batches : List (List Candidate)) (observationIndex candidateIndex : Nat) :
    Candidate :=
  (batchAt batches observationIndex).getD candidateIndex .absent

/-- The candidate a hypothesis ends with. -/
def terminalOf (batches : List (List Candidate)) (hypothesis : Hypothesis) : Candidate :=
  candidateAt batches hypothesis.observationIndex hypothesis.candidateIndex

/-! ## Ranks and orders -/

/-- The tuple by which `assign_lexicographic_ranks` sorts. -/
def rankKey (batches : List (List Candidate)) (hypothesis : Hypothesis) : ℕ ×ₗ String :=
  toLex (hypothesis.previousRank, (terminalOf batches hypothesis).candidateId)

/-- `assign_lexicographic_ranks`: the beam keeps its own order, and each member
gets its position in the sorted copy. -/
def assignLexicographicRanks (batches : List (List Candidate)) (beam : List Hypothesis) :
    List Hypothesis :=
  let ranked := beam.insertionSort fun left right => rankKey batches left ≤ rankKey batches right
  beam.map fun hypothesis => hypothesis.withRank (ranked.idxOf hypothesis)

/-- `hypothesis_order`, not strict: higher scores first, then lower ranks. -/
def hypothesisOrder (left right : Hypothesis) : Prop :=
  right.totalScore < left.totalScore ∨
    left.totalScore = right.totalScore ∧ left.lexicographicRank ≤ right.lexicographicRank

instance : DecidableRel hypothesisOrder := fun _ _ =>
  inferInstanceAs (Decidable (_ ∨ _))

def sortHypotheses (beam : List Hypothesis) : List Hypothesis :=
  beam.insertionSort hypothesisOrder

/-! ## Pruning -/

/-- The terminal pruning: the first hypotheses of each terminal identity, up to the
limit. -/
def pruneTerminals (batches : List (List Candidate)) (limit : Nat) (beam : List Hypothesis) :
    List Hypothesis :=
  keepFirst limit (fun hypothesis => (terminalOf batches hypothesis).candidateId) beam []

/-- The hypotheses whose score is at least the threshold, up to the beam width. -/
def selectBeam (beamWidth : Nat) (threshold : ℚ) (beam : List Hypothesis) : List Hypothesis :=
  selectWithin beamWidth threshold Hypothesis.totalScore beam 0

/-! ## Decoding -/

structure DecoderDiagnostics where
  generatedCandidateCounts : List Nat
  retainedHypothesisCounts : List Nat
  rejectedTransitionCounts : List Nat
  prunedHypothesisCounts : List Nat
  deriving DecidableEq, Repr

structure DecodedInterval where
  startObservationIndex : Nat
  endObservationIndexExclusive : Nat
  usableDistance : ℚ
  pathSeparation : Option ℚ
  deriving DecidableEq, Repr

structure DecodeResult where
  bestCandidateIndices : List Nat
  runnerUpCandidateIndices : List Nat
  bestTotalLogLikelihood : ℚ
  runnerUpTotalLogLikelihood : Option ℚ
  pathSeparation : Option ℚ
  ambiguous : Bool
  pointAmbiguous : List Bool
  stationary : List Bool
  intervals : List DecodedInterval
  diagnostics : DecoderDiagnostics
  deriving DecidableEq, Repr

/-- The beam after an observation and the counts gathered so far. -/
structure BeamState where
  beam : List Hypothesis
  retained : List Nat
  rejected : List Nat
  pruned : List Nat
  deriving DecidableEq, Repr

/-- The arguments of `decode_candidate_batches`. -/
structure DecoderInput where
  graph : Graph
  observations : List Observation
  batches : List (List Candidate)
  candidateParameters : CandidateParameters
  transitionParameters : TransitionParameters
  decoderParameters : DecoderParameters

/-- The candidate checks of one batch, identities read so far included. -/
def validateBatch (graph : Graph) (observationIndex : Nat) :
    List Candidate → List String → Except InvalidArgument Unit
  | [], _ => .ok ()
  | candidate :: rest, seen => do
      validateCandidateReference graph candidate observationIndex
      throwIf (candidate.candidateId ∈ seen)
        "native map decoder candidate identities are not unique"
      validateBatch graph observationIndex rest (candidate.candidateId :: seen)

/-- The checks of the observations and batches from an index on. -/
def validateBatches (graph : Graph) :
    Nat → Option Int → List Observation → List (List Candidate) → Except InvalidArgument Unit
  | observationIndex, previousTimeNs, observation :: observations, batch :: batches => do
      throwIf (∃ time ∈ previousTimeNs, observation.timeNs ≤ time)
        "native map decoder observations are not time ordered"
      throwIf (batch = []) "native map decoder has an empty candidate set"
      validateBatch graph observationIndex batch []
      validateBatches graph (observationIndex + 1) (some observation.timeNs) observations batches
  | _, _, _, _ => .ok ()

/-- The checks at the head of `decode_candidate_batches`. -/
def validateDecoderInput (input : DecoderInput) : Except InvalidArgument Unit := do
  validateGraph input.graph
  validateObservations input.observations
  validateTransitionParameters input.transitionParameters
  validateDecoderParameters input.decoderParameters
  throwIf (input.decoderParameters.maximumSequenceObservations < input.observations.length ∨
      input.batches.length ≠ input.observations.length)
    "native map decoder input exceeds its contract"
  validateBatches input.graph 0 none input.observations input.batches

section Decode

variable (math : NativeMath) (input : DecoderInput)

/-- The unranked hypotheses of the first batch. -/
def initialHypotheses : Except InvalidArgument (List Hypothesis) :=
  (List.range (batchAt input.batches 0).length).mapM fun candidateIndex => do
    let score ← checkedRound (candidateAt input.batches 0 candidateIndex).emission.totalLogLikelihood
      input.decoderParameters.scoreRoundingDecimalPlaces
    return .initial candidateIndex score 0

/-- The beam before the second observation. -/
def initialBeam : Except InvalidArgument BeamState := do
  let hypotheses ← initialHypotheses input
  let sorted := sortHypotheses (assignLexicographicRanks input.batches hypotheses)
  let beam := sorted.take input.decoderParameters.beamWidth
  return { beam := beam, retained := [beam.length], rejected := [0],
           pruned := [sorted.length - beam.length] }

/-- One previous hypothesis extended by one candidate; `none` where the transition
is impossible.  A possible transition always has a total. -/
def extendHypothesis (observationIndex : Nat) (pair : Hypothesis × Nat) :
    Except InvalidArgument (Option Hypothesis) := do
  let previous := candidateAt input.batches (observationIndex - 1) pair.1.candidateIndex
  let current := candidateAt input.batches observationIndex pair.2
  let transition ← scoreTransition math input.graph input.candidateParameters
    input.transitionParameters input.observations
    { previousObservationIndex := observationIndex - 1, previous := previous,
      currentObservationIndex := observationIndex, current := current }
  if transition.possible then
    let score ← checkedRound
      (pair.1.totalScore + transition.totalLogLikelihood.getD 0 +
        current.emission.totalLogLikelihood)
      input.decoderParameters.scoreRoundingDecimalPlaces
    return some (.extended pair.1 pair.2 score 0)
  else return none

/-- Every hypothesis of the beam with every candidate index of the batch. -/
def extensionPairs (beam : List Hypothesis) (observationIndex : Nat) : List (Hypothesis × Nat) :=
  beam.flatMap fun previous =>
    (List.range (batchAt input.batches observationIndex).length).map fun index => (previous, index)

/-- The expanded hypotheses ranked, sorted and pruned per terminal candidate. -/
def pruneExpanded (expanded : List Hypothesis) : List Hypothesis :=
  pruneTerminals input.batches input.decoderParameters.hypothesesPerTerminalCandidate
    (sortHypotheses (assignLexicographicRanks input.batches expanded))

/-- The beam kept of the terminal-pruned hypotheses; the first one has the best
score. -/
def keepBeam (terminalPruned : List Hypothesis) : List Hypothesis :=
  let bestScore := (terminalPruned.head?.map Hypothesis.totalScore).getD 0
  selectBeam input.decoderParameters.beamWidth
    (bestScore - input.decoderParameters.beamScoreDelta) terminalPruned

/-- The inner loops of one iteration: a result for each pair. -/
def expandBeam (beam : List Hypothesis) (observationIndex : Nat) :
    Except InvalidArgument (List (Option Hypothesis)) :=
  (extensionPairs input beam observationIndex).mapM (extendHypothesis math input observationIndex)

/-- One iteration of the loop over observations. -/
def decodeStep (state : BeamState) (observationIndex : Nat) :
    Except InvalidArgument BeamState := do
  let results ← expandBeam math input state.beam observationIndex
  let expanded := results.reduceOption
  throwIf (expanded = []) "native map decoder has no graph-valid path hypothesis"
  let beam := assignLexicographicRanks input.batches (keepBeam input (pruneExpanded input expanded))
  return { beam := beam, retained := state.retained ++ [beam.length],
           rejected := state.rejected ++ [results.countP Option.isNone],
           pruned := state.pruned ++ [expanded.length - beam.length] }

/-- The beam after a number of observations, the first included. -/
def beamAfter : Nat → Except InvalidArgument BeamState
  | 0 => initialBeam input
  | observationIndex + 1 => do
      let state ← beamAfter observationIndex
      decodeStep math input state (observationIndex + 1)

/-! ## Result -/

/-- One stop: the run of slow observations, and whether it is long enough and
stays near its start. -/
def stationaryRun (run : List Observation) : Bool :=
  match run with
  | [] => false
  | first :: _ =>
      (run.all fun observation =>
        distanceBetween math first.position observation.position ≤
          input.decoderParameters.stationaryPositionTolerance) &&
      input.decoderParameters.stationaryMinimumObservations ≤ run.length

def isSlow (observation : Observation) : Bool :=
  observation.speed ≤ input.decoderParameters.stationarySpeedThreshold

/-- The loop of `stationary_flags`; each iteration consumes an observation. -/
def stationaryFrom : Nat → List Observation → List Bool
  | 0, _ => []
  | _ + 1, [] => []
  | fuel + 1, observation :: rest =>
      if isSlow input observation then
        let run := (observation :: rest).takeWhile (isSlow input)
        List.replicate run.length (stationaryRun math input run) ++
          stationaryFrom fuel ((observation :: rest).drop run.length)
      else false :: stationaryFrom fuel rest

/-- `stationary_flags`. -/
def stationaryFlags : List Bool :=
  stationaryFrom math input input.observations.length input.observations

/-- What the interval loop reads at one observation. -/
structure DecodedPoint where
  candidate : Candidate
  runner : Option Candidate
  stationary : Bool
  ambiguous : Bool

def DecodedPoint.continues (first point : DecodedPoint) : Bool :=
  point.candidate.offMap = first.candidate.offMap ∧
    point.candidate.arcIndex = first.candidate.arcIndex ∧
      point.stationary = first.stationary ∧ point.ambiguous = first.ambiguous

/-- The best and the runner-up candidate of the point differ. -/
def DecodedPoint.differs (point : DecodedPoint) : Bool :=
  match point.runner with
  | some runner => point.candidate.candidateId ≠ runner.candidateId
  | none => false

/-- The sum of the advances along the arc; every member of such a run has an
offset. -/
def travelledAlong : List DecodedPoint → ℚ
  | left :: right :: rest =>
      |right.candidate.alongArcOffset.getD 0 - left.candidate.alongArcOffset.getD 0| +
        travelledAlong (right :: rest)
  | _ => 0

/-- The interval of one run of points. -/
def intervalOf (pathSeparation : Option ℚ) (cursor : Nat) (first : DecodedPoint)
    (run : List DecodedPoint) : DecodedInterval where
  startObservationIndex := cursor
  endObservationIndexExclusive := cursor + run.length
  usableDistance :=
    roundTo (if first.candidate.offMap ∨ first.stationary ∨ first.ambiguous then 0
      else travelledAlong run) 6
  pathSeparation := if run.any DecodedPoint.differs then pathSeparation else none

/-- The loop that cuts the points into intervals; each iteration consumes a
point. -/
def intervalsFrom (pathSeparation : Option ℚ) :
    Nat → Nat → List DecodedPoint → List DecodedInterval
  | 0, _, _ => []
  | _ + 1, _, [] => []
  | fuel + 1, cursor, first :: rest =>
      let run := first :: rest.takeWhile first.continues
      intervalOf pathSeparation cursor first run ::
        intervalsFrom pathSeparation fuel (cursor + run.length)
          (rest.drop (rest.takeWhile first.continues).length)

/-- The candidates of a sequence of candidate indices. -/
def candidatesOf (batches : List (List Candidate)) (indices : List Nat) : List Candidate :=
  List.zipWith (fun batch index => batch.getD index .absent) batches indices

/-- The candidates of the runner-up at each observation; none without runner-up. -/
def runnersOf (batches : List (List Candidate)) (indices : Option (List Nat)) :
    List (Option Candidate) :=
  match indices with
  | some indices => (candidatesOf batches indices).map some
  | none => batches.map fun _ => none

/-- `result.point_ambiguous`. -/
def pointAmbiguity (ambiguous : Bool) (best : List Candidate) (runners : List (Option Candidate)) :
    List Bool :=
  List.zipWith (fun best runner =>
    match runner with
    | some runner => ambiguous && (best.candidateId ≠ runner.candidateId : Bool)
    | none => false) best runners

/-- The points the interval loop reads. -/
def decodedPoints : List Candidate → List (Option Candidate) → List Bool → List Bool →
    List DecodedPoint
  | candidate :: candidates, runner :: runners, stationary :: flags, ambiguous :: ambiguity =>
      { candidate, runner, stationary, ambiguous } ::
        decodedPoints candidates runners flags ambiguity
  | _, _, _, _ => []

/-- The result read off the final beam, which is never empty. -/
def decodeResult (state : BeamState) : Except InvalidArgument DecodeResult := do
  let beam := sortHypotheses state.beam
  let best := beam.headD (.initial 0 0 0)
  let runner := beam[1]?
  let pathSeparation ← runner.mapM fun runner =>
    checkedRound (best.totalScore - runner.totalScore)
      input.decoderParameters.scoreRoundingDecimalPlaces
  let ambiguous := pathSeparation.any fun separation =>
    separation ≤ input.decoderParameters.ambiguityPathSeparation
  let bestCandidates := candidatesOf input.batches best.reconstruct
  let runners := runnersOf input.batches (runner.map Hypothesis.reconstruct)
  let ambiguity := pointAmbiguity ambiguous bestCandidates runners
  let stationary := stationaryFlags math input
  return { bestCandidateIndices := best.reconstruct,
           runnerUpCandidateIndices := (runner.map Hypothesis.reconstruct).getD [],
           bestTotalLogLikelihood := best.totalScore,
           runnerUpTotalLogLikelihood := runner.map Hypothesis.totalScore,
           pathSeparation := pathSeparation, ambiguous := ambiguous,
           pointAmbiguous := ambiguity, stationary := stationary,
           intervals := intervalsFrom pathSeparation input.observations.length 0
             (decodedPoints bestCandidates runners stationary ambiguity),
           diagnostics := { generatedCandidateCounts := input.batches.map List.length,
                            retainedHypothesisCounts := state.retained,
                            rejectedTransitionCounts := state.rejected,
                            prunedHypothesisCounts := state.pruned } }

/-- `decode_candidate_batches`. -/
def decodeCandidateBatches : Except InvalidArgument DecodeResult := do
  validateDecoderInput input
  let state ← beamAfter math input (input.observations.length - 1)
  decodeResult math input state

end Decode

end CartoSentry.Matching
