import CartoSentry.LidarIntegrity.Contracts
import CartoSentry.LidarIntegrity.Histogram

set_option autoImplicit false

/-!
# Lidar integrity: the analyzer

`LidarIntegrityAnalyzer.process_frame`: one pass over the records of a frame, and what its
counters say about the frame.
-/

namespace CartoSentry.LidarIntegrity

open Contracts (Raised raiseIf)
open Foundation (Double)
open Trajectory (trueDivision)
open TrajectoryIntegrity (Severity)

/-! ## Floating point -/

/-- What the analyzer takes of `math`. -/
structure MathLibrary where
  sqrt : Double → Double
  atan2 : Double → Double → Double

/-- `2.0 * math.pi` -/
def tau : Double :=
  .finite (884279719003555 / 140737488355328)

/-- `angle % (2.0 * math.pi)`: the remainder is not negative. -/
def wrapped (angle : Double) : Double :=
  if angle.isFinite then
    let turns := angle.number / tau.number
    let whole := if 0 ≤ turns then ⌊turns⌋ else ⌈turns⌉
    let rest := angle.number - whole * tau.number
    if 0 ≤ rest then .finite rest else .rounded false (rest + tau.number)
  else .nan

/-- `float(value)` of a whole number. -/
def toFloat (value : Int) : Except Raised Double :=
  if (Double.rounded false value).isFinite then .ok (.rounded false value)
  else .error (.overflowError "int too large to convert to float")

/-- `value if previous is None else min(previous, value)` -/
def lesser {A : Type} (below : A → A → Bool) (previous : Option A) (value : A) : A :=
  match previous with
  | none => value
  | some own => if below value own then value else own

/-- `value if previous is None else max(previous, value)` -/
def greater {A : Type} (below : A → A → Bool) (previous : Option A) (value : A) : A :=
  match previous with
  | none => value
  | some own => if below own value then value else own

def lessTime (left right : Int) : Bool :=
  decide (left < right)

/-! ## State -/

structure LidarIntegrityAnalyzer where
  rangeHistogram : FixedHistogram Double
  intensityHistogram : FixedHistogram Double
  perRingCounts : List Nat
  perAzimuthCounts : List Nat
  rawFailures : List RawFailure
  frameCount : Nat
  pointCount : Nat
  finitePointCount : Nat
  invalidRecordCount : Nat
  maximumBlankBins : Nat
  maximumFramePointCount : Nat
  minimumScanDurationNs : Option Int
  maximumScanDurationNs : Option Int
  minimumObservedPointSpanNs : Option Double
  maximumObservedPointSpanNs : Option Double
  minimumFrameCadenceNs : Option Int
  maximumFrameCadenceNs : Option Int
  previousReferenceTimeNs : Option Int
  previousFrameIndex : Option Int
  deriving DecidableEq

/-- The counters of one frame. -/
structure FrameCounters where
  ringCounts : List Nat
  azimuthCounts : List Nat
  invalidOffsets : LidarRule → List Int
  points : Nat
  nonfinite : Nat
  invalidRange : Nat
  invalidIntensity : Nat
  invalidRing : Nat
  invalidPointTime : Nat
  previousPointTime : Option Double
  minimumPointTime : Option Double
  maximumPointTime : Option Double

section Analyzer

variable (library : MathLibrary) (profile : LidarIntegrityProfile) (model : LidarSensorModel)

/-- `__init__` -/
def LidarIntegrityAnalyzer.construct : LidarIntegrityAnalyzer where
  rangeHistogram := .construct model.minimumRangeM model.maximumRangeM
    profile.thresholds.histogramBins
  intensityHistogram := .construct model.minimumIntensity model.maximumIntensity
    profile.thresholds.histogramBins
  perRingCounts := List.replicate model.ringIds.length 0
  perAzimuthCounts := List.replicate model.azimuthBins 0
  rawFailures := []
  frameCount := 0
  pointCount := 0
  finitePointCount := 0
  invalidRecordCount := 0
  maximumBlankBins := 0
  maximumFramePointCount := 0
  minimumScanDurationNs := none
  maximumScanDurationNs := none
  minimumObservedPointSpanNs := none
  maximumObservedPointSpanNs := none
  minimumFrameCadenceNs := none
  maximumFrameCadenceNs := none
  previousReferenceTimeNs := none
  previousFrameIndex := none

def FrameCounters.construct : FrameCounters where
  ringCounts := List.replicate model.ringIds.length 0
  azimuthCounts := List.replicate model.azimuthBins 0
  invalidOffsets := fun _ => []
  points := 0
  nonfinite := 0
  invalidRange := 0
  invalidIntensity := 0
  invalidRing := 0
  invalidPointTime := 0
  previousPointTime := none
  minimumPointTime := none
  maximumPointTime := none

/-! ## Records -/

namespace LidarPointInput

variable (point : LidarPointInput)

/-- The required values are finite. -/
def isFinite : Bool :=
  point.x.isFinite && point.y.isFinite && point.z.isFinite && point.intensity.isFinite &&
    point.relativeTimeNs.isFinite

/-- `point_range` -/
def range : Double :=
  library.sqrt (((point.x.mul point.x).add (point.y.mul point.y)).add (point.z.mul point.z))

def outOfRange : Bool :=
  !(model.minimumRangeM.le (point.range library) && (point.range library).le model.maximumRangeM)

def outOfIntensity : Bool :=
  !(model.minimumIntensity.le point.intensity && point.intensity.le model.maximumIntensity)

/-- `ring_index.get(point.ring_id)` -/
def ringPosition : Option Nat :=
  model.ringIds.idxOf? point.ringId

/-- The time is outside of the interval: whole numbers compare exactly with floats. -/
def outOfTime : Bool :=
  !((Double.finite model.minimumRelativePointTimeNs).le point.relativeTimeNs &&
    point.relativeTimeNs.le (.finite model.maximumRelativePointTimeNs))

/-- The time is before that of the previous finite record. -/
def outOfOrder (previous : Option Double) : Bool :=
  previous.any fun time => point.relativeTimeNs.lt time

def azimuthIndex : Except Raised Int := do
  let azimuth := wrapped (library.atan2 point.y point.x)
  let index ← Arithmetic.truncate ((azimuth.div tau).mul (.rounded false model.azimuthBins))
  return min (model.azimuthBins - 1 : Int) index

/-- `invalid_rules` -/
def invalidRules (previous : Option Double) : List LidarRule :=
  (if point.outOfRange library model then [.range] else []) ++
    (if point.outOfIntensity model then [.intensity] else []) ++
    (if (point.ringPosition model).isNone then [.invalidRing] else []) ++
    (if point.outOfTime model || point.outOfOrder previous then [.pointTime] else [])

end LidarPointInput

/-- The offset is kept as one of the first of its rule. -/
def keepOffset (offset : Int) (offsets : LidarRule → List Int) (rule : LidarRule) :
    LidarRule → List Int :=
  fun other =>
    if other = rule ∧
        (offsets rule).length < profile.budgets.maximumRepresentativeInvalidOffsets then
      offsets other ++ [offset]
    else offsets other

/-- `counts[ring_position] += 1`, where the ring is known. -/
def countRing (position : Option Nat) (counts : List Nat) : Except Raised (List Nat) :=
  match position with
  | none => .ok counts
  | some place => increment counts place

/-- The counters of the analyzer after a finite record, the time before it given. -/
def countFinite (analyzer : LidarIntegrityAnalyzer) (previous : Option Double)
    (point : LidarPointInput) : Except Raised LidarIntegrityAnalyzer := do
  let rangeHistogram ← analyzer.rangeHistogram.add (point.range library)
  let intensityHistogram ← analyzer.intensityHistogram.add point.intensity
  let perRingCounts ← countRing (point.ringPosition model) analyzer.perRingCounts
  let azimuthIndex ← point.azimuthIndex library model
  let perAzimuthCounts ← increment analyzer.perAzimuthCounts azimuthIndex
  return { analyzer with
    finitePointCount := analyzer.finitePointCount + 1
    rangeHistogram := rangeHistogram
    intensityHistogram := intensityHistogram
    perRingCounts := perRingCounts
    perAzimuthCounts := perAzimuthCounts
    invalidRecordCount := analyzer.invalidRecordCount +
      if point.invalidRules library model previous = [] then 0 else 1 }

/-- The counters of the frame after a finite record. -/
def countRecord (counters : FrameCounters) (point : LidarPointInput) :
    Except Raised FrameCounters := do
  let ringCounts ← countRing (point.ringPosition model) counters.ringCounts
  let azimuthIndex ← point.azimuthIndex library model
  let azimuthCounts ← increment counters.azimuthCounts azimuthIndex
  return { counters with
    ringCounts := ringCounts
    azimuthCounts := azimuthCounts
    invalidOffsets := (point.invalidRules library model counters.previousPointTime).foldl
      (keepOffset profile point.sourceOffset) counters.invalidOffsets
    invalidRange := counters.invalidRange + if point.outOfRange library model then 1 else 0
    invalidIntensity := counters.invalidIntensity + if point.outOfIntensity model then 1 else 0
    invalidRing := counters.invalidRing + if (point.ringPosition model).isNone then 1 else 0
    -- a record that is out of the interval and out of order is counted for both
    invalidPointTime := counters.invalidPointTime + (if point.outOfTime model then 1 else 0) +
      if point.outOfOrder counters.previousPointTime then 1 else 0
    previousPointTime := some point.relativeTimeNs
    minimumPointTime := some (lesser Double.lt counters.minimumPointTime point.relativeTimeNs)
    maximumPointTime := some (greater Double.lt counters.maximumPointTime point.relativeTimeNs) }

/-- One more record of the frame. -/
def countPoint (counters : FrameCounters) : FrameCounters :=
  { counters with points := counters.points + 1 }

def countNonfinite (counters : FrameCounters) (point : LidarPointInput) : FrameCounters :=
  { counters with
    nonfinite := counters.nonfinite + 1
    invalidOffsets := keepOffset profile point.sourceOffset counters.invalidOffsets .nonfinite }

/-- The state of the pass over the records. -/
structure Pass where
  analyzer : LidarIntegrityAnalyzer
  counters : FrameCounters

/-- A turn of the loop over the records. -/
def processPoint (state : Pass) (point : LidarPointInput) : Except Raised Pass := do
  let counters := countPoint state.counters
  raiseIf (profile.budgets.maximumPointsPerFrame < counters.points)
    "lidar points per frame exceed the frozen budget"
  if point.isFinite then do
    let analyzer ← countFinite library model state.analyzer counters.previousPointTime point
    let counters ← countRecord library profile model counters point
    return { analyzer := analyzer, counters := counters }
  else
    return {
      analyzer := { state.analyzer with
        invalidRecordCount := state.analyzer.invalidRecordCount + 1 }
      counters := countNonfinite profile counters point }

/-! ## What a frame shows -/

/-- `_maximum_circular_blank_bins` -/
def maximumCircularBlankBins (counts : List Nat) : Nat :=
  if counts.all (· = 0) then counts.length
  else
    let scanned := (counts ++ counts).foldl (fun (longest, current) count =>
      if count = 0 then (max longest (current + 1), current + 1) else (longest, 0)) (0, 0)
    min scanned.1 counts.length

/-- A failure of the frame over the time of its capture. -/
def captureFailure (frame : LidarFrameInput) (rule : LidarRule)
    (measurements : List (String × Double)) (severity : Severity) (sourceOffsets : List Int) :
    RawFailure where
  rule := rule
  frameIndex := frame.frameIndex
  startTimeNs := frame.captureStartNs
  endTimeNs := frame.captureEndNs
  measurements := measurements
  severity := severity
  sourceOffsets := sourceOffsets

/-- The time since the previous frame. -/
def cadenceFailures (frame : LidarFrameInput) (previous : Option Int) :
    Except Raised (List RawFailure) :=
  match previous with
  | none => .ok []
  | some previousTimeNs => do
    let cadence := frame.referenceTimeNs - previousTimeNs
    let cadenceError := |cadence - model.expectedFrameCadenceNs|
    if cadence ≤ 0 ∨ (model.frameCadenceToleranceNs : Int) < cadenceError then do
      let cadenceValue ← toFloat cadence
      let errorValue ← toFloat cadenceError
      return [{
        rule := .frameCadence
        frameIndex := frame.frameIndex
        startTimeNs := previousTimeNs
        endTimeNs := max (previousTimeNs + 1) frame.referenceTimeNs
        measurements := [("cadence_ns", cadenceValue), ("cadence_error_ns", errorValue)]
        severity := .critical }]
    else return []

def durationFailures (frame : LidarFrameInput) : Except Raised (List RawFailure) := do
  let duration := frame.captureEndNs - frame.captureStartNs
  if (model.scanDurationToleranceNs : Int) < |duration - model.expectedScanDurationNs| then do
    let value ← toFloat duration
    return [captureFailure frame .scanDuration [("capture_duration_ns", value)] .critical []]
  else return []

/-- A counter of the frame that is not zero. -/
def countFailures (frame : LidarFrameInput) (common : List (String × Double)) (rule : LidarRule)
    (key : String) (count : Nat) (severity : Severity) (offsets : List Int) :
    Except Raised (List RawFailure) :=
  if count = 0 then .ok []
  else do
    let value ← toFloat count
    return [captureFailure frame rule (common ++ [(key, value)]) severity offsets]

/-- The failures of the records, by their rules. -/
def recordFailures (frame : LidarFrameInput) (common : List (String × Double))
    (counters : FrameCounters) : Except Raised (List RawFailure) := do
  let nonfinite ← countFailures frame common .nonfinite "nonfinite_count" counters.nonfinite
    .critical (counters.invalidOffsets .nonfinite)
  let invalid ← [(LidarRule.invalidRing, counters.invalidRing), (.range, counters.invalidRange),
      (.intensity, counters.invalidIntensity), (.pointTime, counters.invalidPointTime)].mapM
    fun entry => countFailures frame common entry.1 "invalid_count" entry.2 .critical
      (counters.invalidOffsets entry.1)
  return nonfinite ++ invalid.flatten

/-- The span of the point times, where there is a finite record. -/
def observedSpan (counters : FrameCounters) : Option Double :=
  match counters.minimumPointTime, counters.maximumPointTime with
  | some least, some greatest => some (greatest.sub least)
  | _, _ => none

def spanFailures (frame : LidarFrameInput) (counters : FrameCounters) : List RawFailure :=
  match observedSpan counters with
  | none => []
  | some span =>
    if span.lt (.finite model.minimumObservedPointSpanNs) then
      [captureFailure frame .scanDuration [("observed_point_span_ns", span)] .critical []]
    else []

def ringFailures (frame : LidarFrameInput) (common : List (String × Double))
    (counters : FrameCounters) : Except Raised (List RawFailure) :=
  countFailures frame common .ringLoss "missing_supported_ring_count"
    (counters.ringCounts.countP fun observed => observed < model.minimumPointsPerRing) .warning []

def sectorFailures (frame : LidarFrameInput) (common : List (String × Double))
    (blankBins : Nat) : Except Raised (List RawFailure) :=
  if model.maximumBlankAzimuthBins < blankBins then do
    let value ← toFloat blankBins
    return [captureFailure frame .sectorLoss (common ++ [("maximum_blank_azimuth_bins", value)])
      .warning []]
  else .ok []

/-- `density_ratio` -/
def densityRatio (points maximumFramePointCount : Nat) : Double :=
  if maximumFramePointCount = 0 then .finite 1 else trueDivision points maximumFramePointCount

def densityFailures (frame : LidarFrameInput) (common : List (String × Double))
    (points : Nat) (ratio : Double) : Except Raised (List RawFailure) :=
  if points < model.minimumPointsPerFrame ∨
      ratio.lt profile.thresholds.minimumDensityRatioToRunningMaximum = true then do
    let value ← toFloat model.minimumPointsPerFrame
    return [captureFailure frame .density (common ++ [("minimum_points_per_frame", value),
      ("density_ratio_to_running_maximum", ratio)]) .warning []]
  else .ok []

/-! ## Frames -/

/-- `_append` -/
def append (analyzer : LidarIntegrityAnalyzer) (failure : RawFailure) :
    Except Raised LidarIntegrityAnalyzer := do
  let analyzer := { analyzer with rawFailures := analyzer.rawFailures ++ [failure] }
  raiseIf (profile.budgets.maximumRawFailures < analyzer.rawFailures.length)
    "lidar raw failure count exceeds the frozen budget"
  return analyzer

def appendAll (analyzer : LidarIntegrityAnalyzer) (failures : List RawFailure) :
    Except Raised LidarIntegrityAnalyzer :=
  failures.foldlM (append profile) analyzer

/-- The frame before its records are read. -/
def openFrame (analyzer : LidarIntegrityAnalyzer) (frame : LidarFrameInput) :
    Except Raised LidarIntegrityAnalyzer := do
  raiseIf (profile.budgets.maximumFrames ≤ analyzer.frameCount)
    "lidar frame count exceeds the frozen budget"
  raiseIf (frame.captureEndNs ≤ frame.captureStartNs)
    "lidar frame capture interval must be nonempty"
  raiseIf (∃ index ∈ analyzer.previousFrameIndex, frame.frameIndex ≤ index)
    "lidar frame indices must increase"
  let cadence := analyzer.previousReferenceTimeNs.map fun time => frame.referenceTimeNs - time
  let failures ← cadenceFailures model frame analyzer.previousReferenceTimeNs
  let analyzer ← appendAll profile { analyzer with
    minimumFrameCadenceNs := (cadence.map (lesser lessTime analyzer.minimumFrameCadenceNs)).or
      analyzer.minimumFrameCadenceNs
    maximumFrameCadenceNs := (cadence.map (greater lessTime analyzer.maximumFrameCadenceNs)).or
      analyzer.maximumFrameCadenceNs } failures
  let duration := frame.captureEndNs - frame.captureStartNs
  let failures ← durationFailures model frame
  appendAll profile { analyzer with
    previousReferenceTimeNs := some frame.referenceTimeNs
    previousFrameIndex := some frame.frameIndex
    minimumScanDurationNs := some (lesser lessTime analyzer.minimumScanDurationNs duration)
    maximumScanDurationNs := some (greater lessTime analyzer.maximumScanDurationNs duration) }
    failures

/-- The frame after its records are read. -/
def closeFrame (analyzer : LidarIntegrityAnalyzer) (frame : LidarFrameInput)
    (counters : FrameCounters) : Except Raised LidarIntegrityAnalyzer := do
  let pointValue ← toFloat counters.points
  let indexValue ← toFloat frame.frameIndex
  let common := [("frame_point_count", pointValue), ("frame_index", indexValue)]
  let failures ← recordFailures frame common counters
  let analyzer ← appendAll profile { analyzer with
    frameCount := analyzer.frameCount + 1
    pointCount := analyzer.pointCount + counters.points } failures
  let span := observedSpan counters
  let analyzer ← appendAll profile { analyzer with
    minimumObservedPointSpanNs :=
      (span.map (lesser Double.lt analyzer.minimumObservedPointSpanNs)).or
        analyzer.minimumObservedPointSpanNs
    maximumObservedPointSpanNs :=
      (span.map (greater Double.lt analyzer.maximumObservedPointSpanNs)).or
        analyzer.maximumObservedPointSpanNs } (spanFailures model frame counters)
  let failures ← ringFailures model frame common counters
  let analyzer ← appendAll profile analyzer failures
  let blankBins := maximumCircularBlankBins counters.azimuthCounts
  let failures ← sectorFailures model frame common blankBins
  let analyzer ← appendAll profile { analyzer with
    maximumBlankBins := max analyzer.maximumBlankBins blankBins } failures
  let failures ← densityFailures profile model frame common counters.points
    (densityRatio counters.points analyzer.maximumFramePointCount)
  let analyzer ← appendAll profile analyzer failures
  return { analyzer with
    maximumFramePointCount := max analyzer.maximumFramePointCount counters.points }

/-- `process_frame` -/
def processFrame (analyzer : LidarIntegrityAnalyzer) (frame : LidarFrameInput) :
    Except Raised LidarIntegrityAnalyzer := do
  let analyzer ← openFrame profile model analyzer frame
  let pass ← frame.points.foldlM (processPoint library profile model)
    { analyzer := analyzer, counters := FrameCounters.construct model }
  closeFrame profile model pass.analyzer frame pass.counters

/-- The frames of `analyze_lidar_integrity`. -/
def processFrames (frames : List LidarFrameInput) : Except Raised LidarIntegrityAnalyzer :=
  frames.foldlM (processFrame library profile model)
    (LidarIntegrityAnalyzer.construct profile model)

end Analyzer

end CartoSentry.LidarIntegrity
