import CartoSentry.Foundation.SweepGroups
import CartoSentry.TrajectoryIntegrity.Contracts
import Mathlib.Data.List.SplitBy
import Mathlib.Data.String.Basic

set_option autoImplicit false

/-!
# Trajectory integrity: consolidation

What becomes of the raw failures: opposing position steps are paired, frozen steps are
joined to freezes, and everything is gathered into events.
-/

namespace CartoSentry.TrajectoryIntegrity

open Artifacts (Platform Sha256 sortedBy jsonText)
open Contracts (Raised raiseIf)
open Foundation (Double JsonValue sweepGroups)
open Trajectory (Vector3 FloatLibrary floatOf)

/-! ## Position steps -/

section PositionSteps

variable (library : FloatLibrary) (jumpThresholdM : Double) (maximumPairDurationNs : Int)

/-- The second jump takes back the first, as far as the comparisons can tell: one with a
NaN does not separate them. -/
def opposes (left right : RawFailure) : Bool :=
  match left.vector, right.vector with
  | some leftVector, some rightVector =>
    let dot := library.sum
      [leftVector.x.mul rightVector.x, leftVector.y.mul rightVector.y,
        leftVector.z.mul rightVector.z]
    let cancellation := norm library
      ⟨leftVector.x.add rightVector.x, leftVector.y.add rightVector.y,
        leftVector.z.add rightVector.z⟩
    let tolerance := (jumpThresholdM.mul (.finite (1 / 4))).max
      ((Double.finite (1 / 4)).mul ((norm library leftVector).max (norm library rightVector)))
    let pairDurationNs := right.endTimeNs - left.endTimeNs
    !((Double.finite 0).le dot || tolerance.lt cancellation ||
      decide (maximumPairDurationNs < pairDurationNs))
  | _, _ => false

/-- One failure for a jump and its return. -/
def pairedStep (left right : RawFailure) : RawFailure where
  rule := .positionJump
  startTimeNs := left.endTimeNs
  endTimeNs := right.endTimeNs
  startIndex := left.endIndexExclusive
  endIndexExclusive := right.endIndexExclusive
  measurements := left.measurements ++ right.measurements
  severity := .critical
  compatibleCauses := [⟨"bounded position step"⟩, ⟨"reference pose discontinuity"⟩,
    ⟨"coordinate-frame interpretation error"⟩]

/-- The loop over the jumps from the cursor on. -/
def pairJumps : List RawFailure → List RawFailure
  | [] => []
  | [left] => [left]
  | left :: right :: rest =>
    if opposes library jumpThresholdM maximumPairDurationNs left right then
      pairedStep left right :: pairJumps rest
    else left :: pairJumps (right :: rest)

/-- `_pair_position_steps` -/
def pairPositionSteps (failures : List RawFailure) : List RawFailure :=
  let jumps := failures.filter fun item => item.rule = .positionJump
  let retained := failures.filter fun item => item.rule ≠ .positionJump
  retained ++ pairJumps library jumpThresholdM maximumPairDurationNs jumps

end PositionSteps

/-! ## Freezes -/

/-- `int(value)` of a float that is at least zero. -/
def truncated : Double → Except Raised Int
  | .finite value => .ok ⌊value⌋
  | .negativeZero => .ok 0
  | .infinity _ => .error (.overflowError "cannot convert float infinity to integer")
  | .nan => .error (.valueError "cannot convert float NaN to integer")

section Freezes

variable (profile : TrajectoryIntegrityProfile)

/-- The failure of a group of frozen steps, from its first to its last. -/
def freezeOf (group : List RawFailure) (start last : RawFailure) : RawFailure where
  rule := .positionFreeze
  startTimeNs := start.startTimeNs
  endTimeNs := last.endTimeNs
  startIndex := start.startIndex
  endIndexExclusive := last.endIndexExclusive
  measurements := group.flatMap RawFailure.measurements ++
    [measurement profile .positionFreeze .freezeMinimumDurationNs
      (floatOf (last.endTimeNs - start.startTimeNs))]
  severity := .critical
  compatibleCauses := [⟨"frozen position output"⟩, ⟨"source velocity disagreement"⟩]

/-- The freeze that a group is kept as, where it lasts. -/
def keptFreeze (minimumDurationNs : Int) (group : List RawFailure) : Option RawFailure :=
  match group.head?, group.getLast? with
  | some start, some last =>
    if last.endTimeNs - start.startTimeNs < minimumDurationNs then none
    else some (freezeOf profile group start last)
  | _, _ => none

/-- The next frozen step starts no later than the sample that ends the last one. -/
def continues (last next : RawFailure) : Bool :=
  next.startIndex ≤ last.endIndexExclusive

/-- `_consolidate_freezes` -/
def consolidateFreezes (failures : List RawFailure) : Except Raised (List RawFailure) := do
  let minimumDurationNs ← truncated (profile.thresholds .freezeMinimumDurationNs).value
  let freezes := sortedBy
    (fun item : RawFailure => (toLex (item.startTimeNs, item.startIndex) : Int ×ₗ Nat))
    (failures.filter fun item => item.rule = .positionFreeze)
  let retained := failures.filter fun item => item.rule ≠ .positionFreeze
  return retained ++ (freezes.splitBy continues).filterMap (keptFreeze profile minimumDurationNs)

end Freezes

/-! ## Measurements -/

/-- The measurement keeps its place in the dictionary, with the greater magnitude. -/
def keepGreater (selected : List RuleMeasurement) (measurement : RuleMeasurement) :
    List RuleMeasurement :=
  let sameKey := fun other : RuleMeasurement =>
    decide (other.rule = measurement.rule ∧ other.thresholdKey = measurement.thresholdKey)
  match selected.find? sameKey with
  | none => selected ++ [measurement]
  | some previous =>
    if previous.value.abs.lt measurement.value.abs then
      selected.map fun other => if sameKey other then measurement else other
    else selected

/-- `_deduplicate_measurements` -/
def deduplicateMeasurements (measurements : List RuleMeasurement) : List RuleMeasurement :=
  sortedBy (fun item : RuleMeasurement =>
      (toLex (item.rule.value, item.thresholdKey) : String ×ₗ String))
    (measurements.foldl keepGreater [])

/-! ## Events -/

section Events

variable (platform : Platform) (profile : TrajectoryIntegrityProfile)

def priority (rule : TrajectoryRule) : Nat :=
  profile.eventConsolidation.primaryRulePriority.idxOf rule

/-- The payload of an event's identity. -/
def eventPayload (sourceSha256 : Sha256) (startTimeNs endTimeNs : Int) (primary : TrajectoryRule)
    (rules : List TrajectoryRule) : JsonValue String :=
  .object [("detector_id", .string "trajectory-integrity-v1"),
    ("detector_version", .string "1.0.0"), ("source_sha256", .string sourceSha256.text),
    ("start_time_ns", .integer startTimeNs), ("end_time_ns", .integer endTimeNs),
    ("primary_rule", .string primary.value),
    ("triggered_rules", .array (rules.map fun rule => .string rule.value))]

/-- `_event_id` -/
def eventId (payload : JsonValue String) : Except Raised String :=
  match jsonText platform payload with
  | .error _ => .error (.valueError "Out of range float values are not JSON compliant")
  | .ok text =>
    .ok ("trajectory-event-sha256-" ++ (platform.sha256 (text.flatMap String.utf8EncodeChar)).text)

/-- `min` of a sequence. -/
def minimumOf {N : Type} [LinearOrder N] : List N → Except Raised N
  | [] => .error (.valueError "min() iterable argument is empty")
  | first :: rest => .ok (rest.foldl min first)

/-- `max` of a sequence. -/
def maximumOf {N : Type} [LinearOrder N] : List N → Except Raised N
  | [] => .error (.valueError "max() iterable argument is empty")
  | first :: rest => .ok (rest.foldl max first)

/-- `max(group, key=…).severity` -/
def highestSeverity (group : List RawFailure) : Except Raised Severity :=
  match group with
  | [] => .error (.valueError "max() iterable argument is empty")
  | first :: rest => .ok (rest.foldl (fun best item =>
      if best.order < item.severity.order then item.severity else best) first.severity)

/-- `adjacency` -/
def adjacency (strideNs : Int) : Int :=
  max (profile.eventConsolidation.temporalAdjacencyNs : Int)
    (profile.eventConsolidation.clearWindowsRequired * strideNs)

/-- The rules of the group in the order of their priority. -/
def groupRules (group : List RawFailure) : List TrajectoryRule :=
  sortedBy (priority profile) (group.map RawFailure.rule).dedup

/-- The rule whose failures bound the event. -/
def boundaryRule (strideNs : Int) (group : List RawFailure) (rules : List TrajectoryRule)
    (primary : TrajectoryRule) : TrajectoryRule :=
  let longPositionStep := group.any fun item =>
    decide (item.rule = .positionJump ∧ 2 * strideNs < item.endTimeNs - item.startTimeNs)
  if ∃ rule ∈ rules, rule ∈ structuralLocalizationRules then primary
  else if .positionFreeze ∈ rules then .positionFreeze
  else if longPositionStep then .positionJump
  else if .referencePositionResidual ∈ rules then .referencePositionResidual
  else if .velocityResidual ∈ rules then .velocityResidual
  else primary

/-- The event of a group. -/
def eventOf (sourceSha256 : Sha256) (strideNs : Int) (group : List RawFailure) :
    Except Raised TrajectoryIntegrityEvent := do
  let rules := groupRules profile group
  let primary := rules.headD .timestampRegression
  let boundary := boundaryRule strideNs group rules primary
  let boundaryItems := group.filter fun item => item.rule = boundary
  let startTimeNs ← minimumOf (boundaryItems.map RawFailure.startTimeNs)
  let endTimeNs ← maximumOf (boundaryItems.map RawFailure.endTimeNs)
  let startIndex ← minimumOf (boundaryItems.map RawFailure.startIndex)
  let endIndex ← maximumOf (boundaryItems.map RawFailure.endIndexExclusive)
  let measurements := deduplicateMeasurements (group.flatMap RawFailure.measurements)
  let causes := sortedBy id
    ((group.flatMap RawFailure.compatibleCauses).map CompatibleCause.label).dedup
  let severity ← highestSeverity group
  let identifier ← eventId platform (eventPayload sourceSha256 startTimeNs endTimeNs primary rules)
  TrajectoryIntegrityEvent.validateInterval {
    eventId := identifier
    startTimeNs := startTimeNs
    endTimeNs := endTimeNs
    startSampleIndex := startIndex
    endSampleIndexExclusive := endIndex
    primaryRule := primary
    triggeredRules := rules
    severity := severity
    observability := .observable
    measurements := measurements
    compatibleCauses := causes.map CompatibleCause.mk }

/-- The failures in the order of the sweep. -/
def orderedFailures (raw : List RawFailure) : List RawFailure :=
  sortedBy (fun item : RawFailure =>
    (toLex (item.startTimeNs, toLex (item.endTimeNs, priority profile item.rule)) :
      Int ×ₗ Int ×ₗ Nat)) raw

/-- `_consolidate_events` -/
def consolidateEvents (raw : List RawFailure) (sourceSha256 : Sha256) (strideNs : Int) :
    Except Raised (List TrajectoryIntegrityEvent) := do
  let groups := sweepGroups (adjacency profile strideNs) RawFailure.startTimeNs
    RawFailure.endTimeNs (orderedFailures profile raw)
  raiseIf (profile.budgets.maximumEvents < groups.length)
    "trajectory event count exceeds the frozen budget"
  groups.mapM (eventOf platform profile sourceSha256 strideNs)

end Events

end CartoSentry.TrajectoryIntegrity
