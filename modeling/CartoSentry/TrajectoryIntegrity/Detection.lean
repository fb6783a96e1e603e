import CartoSentry.Trajectory.Continuous
import CartoSentry.TrajectoryIntegrity.Consolidation

set_option autoImplicit false

/-!
# Trajectory integrity: detection

`detect_trajectory_integrity`: a structural pass over the raw times, rules about content
where the structure allows for them, and the consolidation of what failed.
-/

namespace CartoSentry.TrajectoryIntegrity

open Artifacts (Platform Sha256 isSha256 TimeEpoch TimeReference sortedBy)
open Contracts (Raised raiseIf)
open Foundation (Double)
open Trajectory (Vector3 FloatLibrary NumericLibrary ReferenceSample TrajectoryGateParameters
  TrajectoryDerivatives ContinuousReferenceTrajectory floatOf trueDivision timeAt)

/-! ## Reference evidence -/

inductive ReferenceEvidenceKind where
  | none
  | declaredIndependentReference
  | pairedCoordinateSelfConsistency
  deriving DecidableEq, Repr

structure ReferencePositionSample where
  timeNs : Int
  timeEpoch : TimeEpoch
  clockId : String
  timeReference : TimeReference
  targetFrame : String
  sourceFrame : String
  positionM : Vector3
  deriving DecidableEq

structure ReferencePositionEvidence where
  evidenceKind : ReferenceEvidenceKind
  referenceSourceSha256 : Sha256
  samples : List ReferencePositionSample
  evidenceSha256 : Sha256

/-- The evidence has a position for this sample. -/
def checkAligned (sample : ReferenceSample) (evidence : ReferencePositionSample) :
    Except Raised Unit := do
  raiseIf (evidence.timeNs ≠ sample.timeNs) "reference position timestamps do not align exactly"
  raiseIf ((evidence.timeEpoch, evidence.clockId, evidence.timeReference) ≠ sample.timeDomain)
    "reference position time domains do not align"
  raiseIf (evidence.targetFrame ≠ sample.worldFromRig.targetFrame.text ∨
      evidence.sourceFrame ≠ sample.worldFromRig.sourceFrame.text)
    "reference position named frames do not align"

/-- The positions and the kind of the evidence. -/
def referencePositions (source : List ReferenceSample) (sourceSha256 : Sha256) :
    Option ReferencePositionEvidence → Except Raised (Option (List Vector3) × ReferenceEvidenceKind)
  | none => return (none, .none)
  | some evidence => do
    raiseIf (evidence.evidenceKind = .declaredIndependentReference ∧
      evidence.referenceSourceSha256 = sourceSha256)
      "independent reference evidence cannot be self-derived"
    raiseIf (evidence.samples.length ≠ source.length)
      "reference position sample count does not align"
    let _ ← (source.zip evidence.samples).mapM fun entry => checkAligned entry.1 entry.2
    return (some (evidence.samples.map ReferencePositionSample.positionM), evidence.evidenceKind)

/-! ## Failures of the structure -/

/-- The middle of the steps forward in nanoseconds, or one. -/
def strideOf (times : List Int) : Int :=
  let deltas := sortedBy id (((times.zip times.tail).map fun step => step.2 - step.1).filter
    fun delta => decide (0 < delta))
  let middle := deltas.length / 2
  if deltas = [] then 1
  else if deltas.length % 2 = 1 then deltas.getD middle 0
  else ⌊(trueDivision (deltas.getD (middle - 1) 0 + deltas.getD middle 0) 2).number⌋

/-- `_interval_end` -/
def intervalEnd (times : List Int) (index : Nat) (strideNs : Int) : Int :=
  if index + 1 < times.length ∧ timeAt times index < timeAt times (index + 1) then
    timeAt times (index + 1)
  else timeAt times index + max 1 strideNs

/-- `_safe_structural_interval` -/
def safeStructuralInterval (leftTimeNs rightTimeNs : Int) : Int × Int :=
  let start := min leftTimeNs rightTimeNs
  let finish := max leftTimeNs rightTimeNs
  (start, if start < finish then finish else start + 1)

section Structure

variable (profile : TrajectoryIntegrityProfile)

/-- More nanoseconds than the threshold: whole numbers compare exactly with floats. -/
def beyondGap (deltaNs : Int) : Bool :=
  (profile.thresholds .maximumGapNs).value.lt (.finite deltaNs)

/-- A failure of the structure between a sample and the next. -/
def structuralFailure (rule : TrajectoryRule) (key : ThresholdKey) (value : Double)
    (severity : Severity) (interval : Int × Int) (index : Nat) : RawFailure where
  rule := rule
  startTimeNs := interval.1
  endTimeNs := interval.2
  startIndex := index
  endIndexExclusive := index + 1
  measurements := [measurement profile rule key value]
  severity := severity

def stepFailure (index : Nat) (left right : Int) : Option RawFailure :=
  if right = left then
    some (structuralFailure profile .duplicateTimestamp .duplicateCount (.finite 1)
      .blockingAnalysis (safeStructuralInterval left right) index)
  else if right < left then
    some (structuralFailure profile .timestampRegression .regressionCount (.finite 1)
      .blockingAnalysis (safeStructuralInterval left right) index)
  else if beyondGap profile (right - left) then
    some (structuralFailure profile .timestampGap .maximumGapNs (floatOf (right - left))
      .critical (left, right) index)
  else none

def stepFailures (times : List Int) : List RawFailure :=
  (times.zip times.tail).zipIdx.filterMap fun entry =>
    stepFailure profile entry.2 entry.1.1 entry.1.2

/-- Every step goes forward. -/
def forwardSteps (times : List Int) : Bool :=
  (times.zip times.tail).all fun step => decide (step.1 < step.2)

/-- `_coordinate_mismatches` -/
def coordinateMismatches (first : ReferenceSample) (samples : List ReferenceSample) : List Nat :=
  (samples.zipIdx.filter fun entry => decide (entry.1.timeDomain ≠ first.timeDomain ∨
    entry.1.frames ≠ first.frames ∨ entry.1.geographic ≠ first.geographic)).map Prod.snd

def coordinateFailure (times : List Int) (strideNs : Int) (count index : Nat) : RawFailure :=
  let start := timeAt times index
  let finish := intervalEnd times index strideNs
  structuralFailure profile .coordinateContinuity .coordinateContinuityMismatchCount
    (floatOf count) .blockingAnalysis
    (if finish ≤ start then safeStructuralInterval start finish else (start, finish)) index

end Structure

/-! ## Failures of the motion -/

section Motion

variable (library : FloatLibrary) (profile : TrajectoryIntegrityProfile)

/-- `math.isclose`, for tolerances that are not negative. -/
def isClose (relativeTolerance absoluteTolerance left right : Double) : Bool :=
  if left.eq right then true
  else if left.abs = .infinity false ∨ right.abs = .infinity false then false
  else
    let difference := (right.sub left).abs
    difference.le (relativeTolerance.mul right).abs ||
      difference.le (relativeTolerance.mul left).abs || difference.le absoluteTolerance

/-- `_exceeds_threshold` -/
def exceedsThreshold (value threshold : Double) : Bool :=
  threshold.lt value && !isClose profile.numericalComparison.relativeTolerance
    profile.numericalComparison.absoluteTolerance value threshold

/-- `min` of two floats. -/
def lesserFloat (left right : Double) : Double :=
  if right.lt left then right else left

/-- A step between two samples, as the content rules see it. -/
structure Motion where
  seconds : Double
  observed : Vector3
  residualVector : Vector3
  sourceSpeed : Double

def motionOf (left right : ReferenceSample) (leftVelocity rightVelocity : Vector3) : Motion :=
  let seconds := (floatOf (right.timeNs - left.timeNs)).div (.finite 1000000000)
  let half := fun a b => ((Double.finite (1 / 2)).mul (a.add b)).mul seconds
  let predicted : Vector3 := ⟨half leftVelocity.x rightVelocity.x,
    half leftVelocity.y rightVelocity.y, half leftVelocity.z rightVelocity.z⟩
  let observed := subtract right.worldFromRig.translationM left.worldFromRig.translationM
  { seconds := seconds
    observed := observed
    residualVector := subtract observed predicted
    sourceSpeed := lesserFloat (norm library leftVelocity) (norm library rightVelocity) }

def Motion.residualM (motion : Motion) : Double :=
  norm library motion.residualVector

def Motion.observedSpeed (motion : Motion) : Double :=
  (norm library motion.observed).div motion.seconds

/-- The position stays where the source velocity says that it moves. -/
def Motion.frozen (motion : Motion) : Bool :=
  (motion.observedSpeed library).le (profile.thresholds .freezeObservedSpeedMps).value &&
    (profile.thresholds .freezeSourceSpeedMps).value.le motion.sourceSpeed

def jumpFailure (times : List Int) (index : Nat) (motion : Motion) : Option RawFailure :=
  if exceedsThreshold profile (motion.residualM library)
      (profile.thresholds .positionJumpResidualM).value then
    some {
      rule := .positionJump
      startTimeNs := timeAt times index
      endTimeNs := timeAt times (index + 1)
      startIndex := index
      endIndexExclusive := index + 1
      measurements :=
        [measurement profile .positionJump .positionJumpResidualM (motion.residualM library)]
      severity := .critical
      vector := some motion.residualVector }
  else none

def velocityFailure (times : List Int) (strideNs : Int) (index : Nat) (motion : Motion) :
    Option RawFailure :=
  let residual := (motion.residualM library).div motion.seconds
  if exceedsThreshold profile residual (profile.thresholds .velocityResidualMps).value then
    some {
      rule := .velocityResidual
      startTimeNs := timeAt times (index + 1)
      endTimeNs := intervalEnd times (index + 1) strideNs
      startIndex := index + 1
      endIndexExclusive := min times.length (index + 2)
      measurements := [measurement profile .velocityResidual .velocityResidualMps residual]
      severity := .warning
      compatibleCauses := [⟨"position drift"⟩, ⟨"source velocity inconsistency"⟩] }
  else none

/-- The step and the one behind it, as far as there is one. -/
def freezeStep (times : List Int) (index : Nat) (motion : Motion) : RawFailure :=
  let freezeEndIndex := min (times.length - 1) (index + 2)
  { rule := .positionFreeze
    startTimeNs := timeAt times index
    endTimeNs :=
      if index < freezeEndIndex then timeAt times freezeEndIndex else timeAt times (index + 1)
    startIndex := index
    endIndexExclusive := freezeEndIndex
    measurements := [
      measurement profile .positionFreeze .freezeObservedSpeedMps (motion.observedSpeed library),
      measurement profile .positionFreeze .freezeSourceSpeedMps motion.sourceSpeed]
    severity := .critical }

def freezeFailure (times : List Int) (index : Nat) (motion : Motion) : Option RawFailure :=
  if motion.frozen library profile then some (freezeStep library profile times index motion)
  else none

/-- The motion at an index, unless the step to the next sample is an oversized gap. -/
def motionAt (source : List ReferenceSample) (index : Nat) : Option Motion :=
  match source[index]?, source[index + 1]? with
  | some left, some right =>
    if beyondGap profile (right.timeNs - left.timeNs) then none
    else
      match left.sourceVelocityWorldMps, right.sourceVelocityWorldMps with
      | some leftVelocity, some rightVelocity =>
        some (motionOf library left right leftVelocity rightVelocity)
      | _, _ => none
  | _, _ => none

def motionFailures (source : List ReferenceSample) (strideNs : Int) : List RawFailure :=
  let times := source.map ReferenceSample.timeNs
  (List.range (source.length - 1)).flatMap fun index =>
    match motionAt library profile source index with
    | none => []
    | some motion =>
      (jumpFailure library profile times index motion).toList ++
        (velocityFailure library profile times strideNs index motion).toList ++
        (freezeFailure library profile times index motion).toList

/-- A sample away from its reference position. -/
def referenceFailure (times : List Int) (strideNs : Int) (index : Nat)
    (position referencePosition : Vector3) : Option RawFailure :=
  let residual := norm library (subtract position referencePosition)
  if exceedsThreshold profile residual (profile.thresholds .referencePositionResidualM).value then
    some {
      rule := .referencePositionResidual
      startTimeNs := timeAt times index
      endTimeNs := intervalEnd times index strideNs
      startIndex := index
      endIndexExclusive := index + 1
      measurements :=
        [measurement profile .referencePositionResidual .referencePositionResidualM residual]
      severity := .warning
      compatibleCauses := [⟨"constant position bias"⟩, ⟨"local-world origin disagreement"⟩,
        ⟨"coordinate-frame interpretation error"⟩] }
  else none

def referenceFailures (source : List ReferenceSample) (strideNs : Int)
    (positions : Option (List Vector3)) : List RawFailure :=
  match positions with
  | none => []
  | some referencePositions =>
    (source.zip referencePositions).zipIdx.filterMap fun entry =>
      referenceFailure library profile (source.map ReferenceSample.timeNs) strideNs entry.2
        entry.1.1.worldFromRig.translationM entry.1.2

/-- `derivative_rules` -/
def derivativeRules (derivatives : TrajectoryDerivatives) :
    List (TrajectoryRule × ThresholdKey × Double) :=
  [(.maximumSpeed, .maximumSpeedMps, norm library derivatives.velocityWorldMps),
    (.maximumAcceleration, .maximumAccelerationMps2,
      norm library derivatives.accelerationWorldMps2),
    (.maximumJerk, .maximumJerkMps3, norm library derivatives.jerkWorldMps3),
    (.maximumYawRate, .maximumYawRateRadps, derivatives.yawRateRadps.abs)]

def derivativeFailures (times : List Int) (strideNs : Int) (index : Nat)
    (derivatives : TrajectoryDerivatives) : List RawFailure :=
  (derivativeRules library derivatives).filterMap fun entry =>
    if exceedsThreshold profile entry.2.2 (profile.thresholds entry.2.1).value then
      some {
        rule := entry.1
        startTimeNs := timeAt times index
        endTimeNs := intervalEnd times index strideNs
        startIndex := index
        endIndexExclusive := index + 1
        measurements := [measurement profile entry.1 entry.2.1 entry.2.2]
        severity := .warning }
    else none

end Motion

/-! ## Support of the rules -/

structure RuleSupport where
  rule : TrajectoryRule
  observability : Observability
  evidenceKind : ReferenceEvidenceKind
  detail : String
  deriving DecidableEq, Repr

section Support

variable (structuralValid velocityAvailable : Bool)

/-- `content_observability` -/
def contentObservability : Observability :=
  if structuralValid then .observable else .notApplicable

def timestampSupport (rule : TrajectoryRule) : RuleSupport where
  rule := rule
  observability := .observable
  evidenceKind := .none
  detail := "Canonical source timestamps are inspected before interpolation."

/-- The support of a rule that compares with the source velocity. -/
def velocitySupport (rule : TrajectoryRule) (absent : String) : RuleSupport where
  rule := rule
  observability := if velocityAvailable then contentObservability structuralValid else .notObservable
  evidenceKind := if velocityAvailable then .pairedCoordinateSelfConsistency else .none
  detail :=
    if velocityAvailable then "A paired source-velocity field supports self-consistency evidence."
    else absent

def referenceSupport (positions : Option (List Vector3)) (kind : ReferenceEvidenceKind) :
    RuleSupport where
  rule := .referencePositionResidual
  observability :=
    if positions.isSome then contentObservability structuralValid else .notObservable
  evidenceKind := kind
  detail :=
    match kind with
    | .declaredIndependentReference =>
      "A declared independent position reference supports residual evidence."
    | .pairedCoordinateSelfConsistency =>
      "A paired coordinate field supports self-consistency evidence."
    | .none => "No independent position reference was declared; constant bias is not observable."

def derivativeSupport (rule : TrajectoryRule) : RuleSupport where
  rule := rule
  observability := contentObservability structuralValid
  evidenceKind := .none
  detail := "Gap-aware robust trajectory derivatives provide supported evidence."

def supportRecords (positions : Option (List Vector3)) (kind : ReferenceEvidenceKind) :
    List RuleSupport :=
  [timestampSupport .timestampRegression,
    timestampSupport .duplicateTimestamp,
    { rule := .timestampGap
      observability := .observable
      evidenceKind := .none
      detail := "Elapsed source time is compared with the frozen support ceiling." },
    { rule := .coordinateContinuity
      observability := .observable
      evidenceKind := .none
      detail := "Time-domain and named transform-frame continuity are explicit." },
    velocitySupport structuralValid velocityAvailable .positionJump
      "Source velocity is absent, so motion disagreement is not observable.",
    velocitySupport structuralValid velocityAvailable .positionFreeze
      "Source velocity is absent, so motion disagreement is not observable.",
    referenceSupport structuralValid positions kind,
    velocitySupport structuralValid velocityAvailable .velocityResidual
      "Source velocity is absent, so velocity residual is not observable.",
    derivativeSupport structuralValid .maximumSpeed,
    derivativeSupport structuralValid .maximumAcceleration,
    derivativeSupport structuralValid .maximumJerk,
    derivativeSupport structuralValid .maximumYawRate]

/-- `support_by_rule[rule]` -/
def supportOf (support : List RuleSupport) (rule : TrajectoryRule) : Except Raised RuleSupport :=
  match support.reverse.find? fun item => item.rule = rule with
  | none => .error (.keyError rule.value)
  | some item => .ok item

end Support

/-! ## Detection -/

inductive SyntheticPartition where
  | development
  | thresholdCalibration
  | policyTuning
  deriving DecidableEq, Repr

structure TrajectoryIntegrityReport where
  sourceSha256 : Sha256
  partition : SyntheticPartition
  profileImmutableSha256 : Sha256
  profileFileSha256 : Sha256
  referenceEvidenceSha256 : Option Sha256
  sampleCount : Nat
  structuralValid : Bool
  support : List RuleSupport
  events : List TrajectoryIntegrityEvent
  deriving DecidableEq

/-- A full lowercase digest. -/
def sourceDigest (text : String) : Except Raised Sha256 :=
  if h : isSha256 text.toList = true then .ok ⟨text, h⟩
  else .error (.valueError "trajectory source hash is not a full lowercase SHA-256")

section Detect

variable (platform : Platform) (library : NumericLibrary) (profile : TrajectoryIntegrityProfile)

def append (raw : List RawFailure) (failure : RawFailure) : Except Raised (List RawFailure) := do
  raiseIf (profile.budgets.maximumRawFailures < raw.length + 1)
    "trajectory raw failure count exceeds the frozen budget"
  return raw ++ [failure]

def appendAll (raw failures : List RawFailure) : Except Raised (List RawFailure) :=
  failures.foldlM (append profile) raw

/-- The rules on what the continuous trajectory derives at one sample. -/
def judgeDerivatives (trajectory : ContinuousReferenceTrajectory) (times : List Int)
    (strideNs : Int) (raw : List RawFailure) (entry : Int × Nat) :
    Except Raised (List RawFailure) := do
  let evaluation ← trajectory.evaluate library entry.1
  match evaluation.derivatives with
  | none => return raw
  | some derivatives =>
    appendAll profile raw
      (derivativeFailures library.toFloatLibrary profile times strideNs entry.2 derivatives)

/-- The rules about content, for a source with a valid structure. -/
def contentFailures (parameters : TrajectoryGateParameters) (source : List ReferenceSample)
    (strideNs : Int) (velocityAvailable : Bool) (positions : Option (List Vector3))
    (raw : List RawFailure) : Except Raised (List RawFailure) := do
  let times := source.map ReferenceSample.timeNs
  let raw ← appendAll profile raw
    (if velocityAvailable then motionFailures library.toFloatLibrary profile source strideNs else [])
  let raw ← appendAll profile raw
    (referenceFailures library.toFloatLibrary profile source strideNs positions)
  let trajectory ← ContinuousReferenceTrajectory.construct library parameters source
  times.zipIdx.foldlM (judgeDerivatives library profile trajectory times strideNs) raw

/-- Increasing times in one domain and between the same frames. -/
def structurallyValid (first : ReferenceSample) (samples : List ReferenceSample) : Bool :=
  forwardSteps (samples.map ReferenceSample.timeNs) &&
    (coordinateMismatches first samples).isEmpty

def velocityAvailable (samples : List ReferenceSample) : Bool :=
  samples.all fun sample => sample.sourceVelocityWorldMps.isSome

/-- The failures of both passes. -/
def rawFailures (parameters : TrajectoryGateParameters) (first : ReferenceSample)
    (samples : List ReferenceSample) (positions : Option (List Vector3)) :
    Except Raised (List RawFailure) := do
  let times := samples.map ReferenceSample.timeNs
  let strideNs := strideOf times
  let mismatches := coordinateMismatches first samples
  let raw ← appendAll profile [] (stepFailures profile times)
  let raw ← appendAll profile raw
    (mismatches.map (coordinateFailure profile times strideNs mismatches.length))
  if structurallyValid first samples then
    contentFailures library profile parameters samples strideNs (velocityAvailable samples)
      positions raw
  else return raw

/-- What the raw failures are consolidated from: paired position steps and lasting freezes. -/
def consolidateFailures (raw : List RawFailure) : Except Raised (List RawFailure) :=
  consolidateFreezes profile (pairPositionSteps library.toFloatLibrary
    (profile.thresholds .positionJumpResidualM).value
    profile.eventConsolidation.pairedStepMaximumDurationNs raw)

/-- `detect_trajectory_integrity` -/
def detectTrajectoryIntegrity (samples : List ReferenceSample) (sourceSha256 : String)
    (partition : SyntheticPartition) (profileFileSha256 : Sha256)
    (parameters : TrajectoryGateParameters) (evidence : Option ReferencePositionEvidence) :
    Except Raised TrajectoryIntegrityReport := do
  match samples with
  | [] => .error (.valueError "trajectory integrity needs at least one sample")
  | first :: _ =>
    raiseIf (profile.budgets.maximumSamples < samples.length)
      "trajectory sample count exceeds the frozen budget"
    let digest ← sourceDigest sourceSha256
    let (positions, kind) ← referencePositions samples digest evidence
    let raw ← rawFailures library profile parameters first samples positions
    let consolidated ← consolidateFailures library profile raw
    let events ← consolidateEvents platform profile consolidated digest
      (strideOf (samples.map ReferenceSample.timeNs))
    let structuralValid := structurallyValid first samples
    let support ← TrajectoryRule.all.mapM
      (supportOf (supportRecords structuralValid (velocityAvailable samples) positions kind))
    return {
      sourceSha256 := digest
      partition := partition
      profileImmutableSha256 := profile.immutableSha256
      profileFileSha256 := profileFileSha256
      referenceEvidenceSha256 := evidence.map ReferencePositionEvidence.evidenceSha256
      sampleCount := samples.length
      structuralValid := structuralValid
      support := support
      events := events }

end Detect

end CartoSentry.TrajectoryIntegrity
