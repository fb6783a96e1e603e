import CartoSentry.Artifacts.IdentityText
import CartoSentry.Artifacts.SequenceIdentity
import CartoSentry.LidarIntegrity.Contracts
import CartoSentry.TrajectoryIntegrity.Events
import Mathlib.Data.List.SplitBy
import Mathlib.Data.String.Basic

set_option autoImplicit false

/-!
# Lidar integrity: events

`_events`: the raw failures in the order of their rules and frames, grouped as long as a
rule fails frame by frame, and an event for every group that is reported.
-/

namespace CartoSentry.LidarIntegrity

open Artifacts (Platform Sha256 sortedBy jsonText)
open Contracts (Raised raiseIf)
open Foundation (Double JsonValue)
open TrajectoryIntegrity (Severity minimumOf maximumOf)

/-! ## Groups -/

section Groups

variable (profile : LidarIntegrityProfile)

/-- `priority[rule]` -/
def priority (rule : LidarRule) : Nat :=
  profile.rulePriority.idxOf rule

/-- The failures in the order of the sweep. -/
def orderedFailures (raw : List RawFailure) : List RawFailure :=
  sortedBy (fun item : RawFailure =>
    (toLex (priority profile item.rule, item.frameIndex) : Nat ×ₗ Int)) raw

/-- The next failure does not open a group: a group has the rule of its last failure. -/
def continues (last next : RawFailure) : Bool :=
  decide (last.rule = next.rule ∧ next.frameIndex ≤ last.frameIndex + 1)

/-- `grouped` -/
def groupFailures (raw : List RawFailure) : List (List RawFailure) :=
  (orderedFailures profile raw).splitBy continues

def distinctFrames (group : List RawFailure) : Nat :=
  (group.map RawFailure.frameIndex).dedup.length

/-- A failure of coverage has to persist. -/
def isReported (group : List RawFailure) : Bool :=
  group.head?.any fun first => !(first.rule.isCoverage &&
    decide (distinctFrames group < profile.thresholds.minimumConsecutiveCoverageFrames))

end Groups

/-! ## The parts of an event -/

/-- `max` of a sequence: the first value that none after it exceeds. -/
def maximumBy {A : Type} (below : A → A → Bool) : List A → Except Raised A
  | [] => .error (.valueError "max() iterable argument is empty")
  | first :: rest => .ok (rest.foldl (fun best value => if below best value then value else best) first)

def lessSevere (left right : Severity) : Bool :=
  decide (left.order < right.order)

def measurementKeys (group : List RawFailure) : List String :=
  sortedBy id ((group.flatMap fun item => item.measurements.map Prod.fst).dedup)

/-- The greatest measurement under a key. -/
def greatestMeasurement (group : List RawFailure) (key : String) :
    Except Raised (String × Double) := do
  let value ← maximumBy Double.lt (group.filterMap fun item => item.measured key)
  return (key, value)

section Events

variable (platform : Platform) (profile : LidarIntegrityProfile) (sourceSha256 : Sha256)

/-- `identity` -/
def identityPayload (rule : LidarRule) (startFrame endFrame : Int) : JsonValue String :=
  .object [("detector_id", .string "lidar-integrity-v1"), ("detector_version", .string "1.0.0"),
    ("source_sha256", .string sourceSha256.text), ("rule", .string rule.value),
    ("start_frame_index", .integer startFrame), ("end_frame_index_exclusive", .integer endFrame)]

/-- The identifier of an event: `_canonical_hash` of its identity. -/
def eventId (payload : JsonValue String) : Except Raised String :=
  match jsonText platform payload with
  | .error _ => .error (.valueError "Out of range float values are not JSON compliant")
  | .ok text =>
    .ok ("lidar-event-sha256-" ++ (platform.sha256 (text.flatMap String.utf8EncodeChar)).text)

/-- The event of a group. -/
def eventOf (group : List RawFailure) : Except Raised LidarEvent :=
  match group with
  | [] => .error (.indexError "list index out of range")
  | first :: _ => do
    let measurements ← (measurementKeys group).mapM (greatestMeasurement group)
    let offsets := (sortedBy id (group.flatMap RawFailure.sourceOffsets).dedup).take
      profile.budgets.maximumRepresentativeInvalidOffsets
    let startFrame ← minimumOf (group.map RawFailure.frameIndex)
    let lastFrame ← maximumOf (group.map RawFailure.frameIndex)
    let startTimeNs ← minimumOf (group.map RawFailure.startTimeNs)
    let endTimeNs ← maximumOf (group.map RawFailure.endTimeNs)
    let identifier ← eventId platform
      (identityPayload sourceSha256 first.rule startFrame (lastFrame + 1))
    let severity ← maximumBy lessSevere (group.map RawFailure.severity)
    LidarEvent.validate {
      eventId := identifier
      rule := first.rule
      severity := severity
      startFrameIndex := startFrame
      endFrameIndexExclusive := lastFrame + 1
      startTimeNs := startTimeNs
      endTimeNs := endTimeNs
      measurements := measurements
      representativeSourceOffsets := offsets
      compatibleCauses := first.rule.compatible }

/-- `_events` -/
def events (raw : List RawFailure) : Except Raised (List LidarEvent) := do
  let reported ← ((groupFailures profile raw).filter (isReported profile)).mapM
    (eventOf platform profile sourceSha256)
  raiseIf (profile.budgets.maximumEvents < reported.length)
    "lidar event count exceeds the frozen budget"
  return sortedBy (fun event : LidarEvent =>
    (toLex (event.startFrameIndex, priority profile event.rule) : Int ×ₗ Nat)) reported

end Events

end CartoSentry.LidarIntegrity
