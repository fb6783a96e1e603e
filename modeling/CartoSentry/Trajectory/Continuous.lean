import CartoSentry.Foundation.ListOrder
import CartoSentry.Trajectory.Contracts
import Mathlib.Data.Int.ConditionallyCompleteOrder
import Mathlib.Data.List.SplitBy

set_option autoImplicit false

/-!
# Trajectory: the continuous reference trajectory

`ContinuousReferenceTrajectory`: segments without an oversized gap, windows for the
derivatives, stationary runs with held headings, and the evaluation at a time.
-/

namespace CartoSentry.Trajectory

open Artifacts (FrameId)
open Contracts (Raised raiseIf)
open Foundation (Double least)

/-! ## Segments and windows -/

/-- `_Segment` -/
structure Segment where
  start : Nat
  finish : Nat
  deriving DecidableEq, Repr

def Segment.sampleCount (segment : Segment) : Nat :=
  segment.finish - segment.start + 1

def timeAt (times : List Int) (index : Nat) : Int :=
  times.getD index 0

section Segments

variable (parameters : TrajectoryGateParameters) (times : List Int)

def segmentStarts : List Nat :=
  0 :: (List.range' 1 (times.length - 1)).filter fun index =>
    decide ((parameters.maximumSupportGapNs : Int) < timeAt times index - timeAt times (index - 1))

/-- `_make_segments` -/
def makeSegments : List Segment :=
  let starts := segmentStarts parameters times
  starts.zipIdx.map fun entry =>
    ⟨entry.1,
      if entry.2 + 1 < starts.length then starts.getD (entry.2 + 1) 0 - 1 else times.length - 1⟩

/-- `bisect.bisect_left` on ordered times: what is before the place is before the query. -/
def bisectLeft (queryTimeNs : Int) (lo hi : Nat) : Nat :=
  lo + (((times.take hi).drop lo).takeWhile fun time => decide (time < queryTimeNs)).length

/-- `_window` -/
def window (segment : Segment) (queryTimeNs : Int) : Nat × Nat :=
  let width := 2 * parameters.derivativeHalfWindowSamples + 1
  let insertion := bisectLeft times queryTimeNs segment.start (segment.finish + 1)
  let start := max segment.start (insertion - parameters.derivativeHalfWindowSamples)
  let finish := min (segment.finish + 1) (start + width)
  (max segment.start (finish - width), finish)

/-- `_segment_for` -/
def segmentFor (segments : List Segment) (queryTimeNs : Int) : Option Segment × TrajectorySupport :=
  if queryTimeNs < timeAt times 0 ∨ timeAt times (times.length - 1) < queryTimeNs then
    (none, .outsideSourceSupport)
  else
    match segments.find? fun segment => decide (timeAt times segment.start ≤ queryTimeNs ∧
        queryTimeNs ≤ timeAt times segment.finish) with
    | none => (none, .unsupportedGap)
    | some segment =>
      if segment.sampleCount < derivativePolynomialDegree + 1 then
        (none, .insufficientDerivativeSupport)
      else (some segment, .supported)

end Segments

/-! ## Fits -/

section Fits

variable (library : NumericLibrary) (parameters : TrajectoryGateParameters) (times : List Int)

/-- `_fit` over the samples from the start on, in front of the end. -/
def fitAt (queryTimeNs : Int) (start finish : Nat) (values : List (List Double)) :
    Except Raised Coefficients :=
  library.fit parameters
    ((List.range' start (finish - start)).map fun index =>
      (floatOf (timeAt times index - queryTimeNs)).div (.finite 1000000000))
    ((values.take finish).drop start)

variable (velocities : List (Option Vector3)) (positions : List (List Double))

/-- The speed at a sample, and whether it had to be derived from the positions. -/
def speedAt (segment : Segment) (index : Nat) : Except Raised (Double × Bool) :=
  match velocities.getD index none with
  | some velocity => return (velocity.magnitude library.toFloatLibrary, false)
  | none =>
    if segment.sampleCount < derivativePolynomialDegree + 1 then return (.infinity false, false)
    else do
      let bounds := window parameters times segment (timeAt times index)
      let coefficients ← fitAt library parameters times (timeAt times index) bounds.1 bounds.2
        positions
      return (library.norm (coefficients.row 1), true)

/-- The speed by which a sample is classified: a derived one is smoothed. -/
def classificationSpeed (speeds : List (Double × Bool)) (place : Nat) (entry : Double × Bool) :
    Double :=
  if entry.2 then
    library.median (((speeds.map Prod.fst).take
      (place + parameters.derivativeHalfWindowSamples + 1)).drop
        (place - parameters.derivativeHalfWindowSamples))
  else entry.1

/-- A run of candidates is stationary when it lasts. -/
def stationaryRun (run : List (Bool × Int)) : List Bool :=
  let lasts := match run.head?, run.getLast? with
    | some first, some last =>
      first.1 && decide ((parameters.stationaryMinimumDurationNs : Int) ≤ last.2 - first.2)
    | _, _ => false
  List.replicate run.length lasts

def classifySegment (segment : Segment) : Except Raised (List Bool) := do
  let indices := List.range' segment.start segment.sampleCount
  let speeds ← indices.mapM (speedAt library parameters times velocities positions segment)
  let candidates := speeds.zipIdx.map fun entry =>
    (classificationSpeed library parameters speeds entry.2 entry.1).le
      parameters.stationarySpeedThresholdMps
  let runs := (candidates.zip (indices.map (timeAt times))).splitBy fun left right =>
    left.1 == right.1
  return runs.flatMap (stationaryRun parameters)

/-- `_classify_stationary` -/
def classifyStationary (segments : List Segment) : Except Raised (List Bool) := do
  let flags ← segments.mapM (classifySegment library parameters times velocities positions)
  return flags.flatten

end Fits

/-! ## Headings -/

section Headings

variable (library : NumericLibrary)

/-- `_yaw` -/
def yaw (rotation : UnitQuaternion) : Double :=
  library.atan2
    ((Double.finite 2).mul ((rotation.w.mul rotation.z).add (rotation.x.mul rotation.y)))
    ((Double.finite 1).sub
      ((Double.finite 2).mul ((rotation.y.mul rotation.y).add (rotation.z.mul rotation.z))))

/-- A stationary run holds the heading in front of it, or else the one behind it. -/
def holdRuns (previous : Option Double) : List (List (Bool × Double)) → List Double
  | [] => []
  | run :: rest =>
    if (run.head?.map Prod.fst).getD false then
      let following := (rest.head?.bind List.head?).map Prod.snd
      let held := (previous.or following).getD (library.median (run.map Prod.snd))
      List.replicate run.length held ++ holdRuns (some held) rest
    else run.map Prod.snd ++ holdRuns (run.getLast?.map Prod.snd) rest

/-- `_hold_stationary_headings` -/
def holdStationaryHeadings (segments : List Segment) (stationary : List Bool)
    (raw : List Double) : List Double :=
  segments.flatMap fun segment =>
    let entries := ((stationary.zip raw).take (segment.finish + 1)).drop segment.start
    holdRuns library none (entries.splitBy fun left right => left.1 == right.1)

end Headings

/-! ## The constructor -/

def localWorldFrame : FrameId :=
  ⟨"trajectory_local_world", by decide⟩

/-- The checks of a sample against the first and the previous one. -/
def checkSample (first : ReferenceSample) (previous : Option Int) (sample : ReferenceSample) :
    Except Raised Unit := do
  raiseIf (sample.timeDomain ≠ first.timeDomain)
    "reference trajectory samples must share one time domain"
  raiseIf (sample.frames ≠ first.frames) "reference trajectory samples must share named frames"
  raiseIf (∃ time ∈ previous, sample.timeNs ≤ time)
    "reference trajectory timestamps must be strictly increasing"

def checkSamples (first : ReferenceSample) (previous : Option Int) :
    List ReferenceSample → Except Raised Unit
  | [] => return ()
  | sample :: rest => do
    checkSample first previous sample
    checkSamples first (some sample.timeNs) rest

/-- A sample in the local world: the transform is validated again. -/
def localSample (origin : Vector3) (sample : ReferenceSample) : Except Raised ReferenceSample :=
  if h : (sample.worldFromRig.translationM.sub origin).isFinite = true then
    .ok { sample with
      worldFromRig := {
        targetFrame := localWorldFrame
        sourceFrame := sample.worldFromRig.sourceFrame
        translationM := sample.worldFromRig.translationM.sub origin
        rotation := sample.worldFromRig.rotation
        finite := h } }
  else .error (.valueError "Input should be a finite number")

structure ContinuousReferenceTrajectory where
  parameters : TrajectoryGateParameters
  samples : List ReferenceSample
  segments : List Segment
  stationary : List Bool
  headings : List Double

namespace ContinuousReferenceTrajectory

variable (library : NumericLibrary)

/-- `__init__` -/
def construct (parameters : TrajectoryGateParameters) (source : List ReferenceSample) :
    Except Raised ContinuousReferenceTrajectory := do
  match source with
  | [] => .error (.valueError "reference trajectory requires at least 4 samples")
  | first :: _ =>
    raiseIf (source.length < derivativePolynomialDegree + 1)
      "reference trajectory requires at least 4 samples"
    checkSamples first none source
    let samples ← source.mapM (localSample first.worldFromRig.translationM)
    let times := samples.map ReferenceSample.timeNs
    let segments := makeSegments parameters times
    let rawHeadings := library.unwrap
      (samples.map fun sample => yaw library sample.worldFromRig.rotation)
    let stationary ← classifyStationary library parameters times
      (samples.map ReferenceSample.sourceVelocityWorldMps)
      (samples.map fun sample => sample.worldFromRig.translationM.toList) segments
    return {
      parameters := parameters
      samples := samples
      segments := segments
      stationary := stationary
      headings := holdStationaryHeadings library segments stationary rawHeadings }

variable (trajectory : ContinuousReferenceTrajectory)

def times : List Int :=
  trajectory.samples.map ReferenceSample.timeNs

def positions : List (List Double) :=
  trajectory.samples.map fun sample => sample.worldFromRig.translationM.toList

/-- The pose at a time in a segment. -/
def poseAt (segment : Segment) (queryTimeNs : Int) : Except Raised (Option RigidTransform) :=
  let insertion := bisectLeft trajectory.times queryTimeNs segment.start (segment.finish + 1)
  if insertion ≤ segment.finish ∧ timeAt trajectory.times insertion = queryTimeNs then
    return trajectory.samples[insertion]?.map ReferenceSample.worldFromRig
  else
    match trajectory.samples[insertion - 1]?, trajectory.samples[insertion]? with
    | some left, some right => do
      let fraction := trueDivision (queryTimeNs - left.timeNs) (right.timeNs - left.timeNs)
      let pose ← library.interpolate left.worldFromRig right.worldFromRig fraction
      return some pose
    | _, _ => return none

/-- What the two fits say at a time. -/
def derivativesOf (positionCoefficients headingCoefficients : Coefficients) (stationary : Bool) :
    TrajectoryDerivatives :=
  let velocity := vectorOf (positionCoefficients.row 1)
  let acceleration := vectorOf ((positionCoefficients.row 2).map (Double.finite 2).mul)
  let jerk := vectorOf ((positionCoefficients.row 3).map (Double.finite 6).mul)
  let yawRate := (headingCoefficients.row 1).getD 0 .nan
  let speed := velocity.magnitude library.toFloatLibrary
  { velocityWorldMps := velocity
    accelerationWorldMps2 := acceleration
    jerkWorldMps3 := jerk
    headingRad := (headingCoefficients.row 0).getD 0 .nan
    yawRateRadps := yawRate
    curvaturePerM :=
      if stationary || speed.le trajectory.parameters.stationarySpeedThresholdMps then .finite 0
      else yawRate.div speed
    stationary := stationary }

/-- `evaluate` -/
def evaluate (queryTimeNs : Int) : Except Raised TrajectoryEvaluation := do
  let parameters := trajectory.parameters
  let times := trajectory.times
  match segmentFor times trajectory.segments queryTimeNs with
  | (none, support) =>
    return { queryTimeNs := queryTimeNs, support := support, pose := none, derivatives := none }
  | (some segment, _) =>
    let pose ← poseAt library trajectory segment queryTimeNs
    let bounds := window parameters times segment queryTimeNs
    let positionCoefficients ← fitAt library parameters times queryTimeNs bounds.1 bounds.2
      trajectory.positions
    let headingCoefficients ← fitAt library parameters times queryTimeNs bounds.1 bounds.2
      (trajectory.headings.map fun heading => [heading])
    let nearest := least (fun index => |timeAt times index - queryTimeNs|)
      (List.range' bounds.1 (bounds.2 - bounds.1))
    let stationary := (nearest.bind fun index => trajectory.stationary[index]?).getD false
    let derivatives := derivativesOf library trajectory positionCoefficients headingCoefficients
      stationary
    raiseIf (derivatives.isFinite = false) "Input should be a finite number"
    return {
      queryTimeNs := queryTimeNs
      support := .supported
      pose := pose
      derivatives := some derivatives }

end ContinuousReferenceTrajectory

end CartoSentry.Trajectory
