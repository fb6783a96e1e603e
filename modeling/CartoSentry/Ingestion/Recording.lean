import CartoSentry.Ingestion.BuildManifest
import CartoSentry.Ingestion.IndexWriter
import Mathlib.Data.Prod.Lex

set_option autoImplicit false

/-!
# Ingestion: what is said about a recording

The views of `adapters/base.py` that the indexing pass reads, and the findings, ranges,
summaries and results of `ingestion.py`.
-/

namespace CartoSentry.Ingestion

open Artifacts (Identifier Platform IdentityError Sha256 StableId StreamId TimePoint optional sortedBy
  identifier)
open Contracts (NonemptyString)
open Foundation (JsonValue)

/-! ## Views -/

/-- What the pass reads of a `TrajectorySample` or a `LidarPoseSample`. -/
structure PoseSample where
  time : TimePoint
  sourceKey : String
  recordIndex : Nat

structure FramePayloadHandle where
  sourceKey : NonemptyString
  byteCount : ℕ+
  recordCount : ℕ+

/-- A frame of the stream `lidar-lidar`. -/
structure LidarFrameView where
  sourceFrameKey : Identifier
  times : FrameTimes
  payload : FramePayloadHandle

/-- `ReadOnlyAdapter`. Its sources are enumerated twice, and may have changed by then. -/
structure ReadOnlyAdapter extends ManifestAdapter where
  sourceFiles : Yield AdapterSourceFile
  latestSourceFiles : Yield AdapterSourceFile
  sourceChunks : AdapterSourceFile → Yield (List UInt8)
  poseSamples : Yield PoseSample
  lidarPoseSamples : Yield PoseSample
  frames : Yield LidarFrameView

structure IngestionBudget where
  budgetId : Identifier
  hashChunkBytes : ℕ+
  indexBatchBytes : ℕ+
  maximumSourceFiles : ℕ+
  maximumStructuralFindings : ℕ+

/-! ## Findings -/

inductive RecordKind where
  | trajectorySample
  | lidarPoseSample
  | lidarFrame
  deriving DecidableEq, Repr

def RecordKind.value : RecordKind → String
  | .trajectorySample => "trajectory-sample"
  | .lidarPoseSample => "lidar-pose-sample"
  | .lidarFrame => "lidar-frame"

inductive StructuralCode where
  | corruptSource
  | duplicateSourceKey
  | duplicateTimestamp
  | findingLimitExceeded
  | missingRequiredSource
  | parseError
  | sourceChanged
  | sourceOrderReordered
  | sourceReadError
  deriving DecidableEq, Repr

def StructuralCode.value : StructuralCode → String
  | .corruptSource => "CORRUPT_SOURCE"
  | .duplicateSourceKey => "DUPLICATE_SOURCE_KEY"
  | .duplicateTimestamp => "DUPLICATE_TIMESTAMP"
  | .findingLimitExceeded => "FINDING_LIMIT_EXCEEDED"
  | .missingRequiredSource => "MISSING_REQUIRED_SOURCE"
  | .parseError => "PARSE_ERROR"
  | .sourceChanged => "SOURCE_CHANGED"
  | .sourceOrderReordered => "SOURCE_ORDER_REORDERED"
  | .sourceReadError => "SOURCE_READ_ERROR"

inductive FindingSeverity where
  | info
  | blockingAnalysis
  deriving DecidableEq, Repr

def FindingSeverity.value : FindingSeverity → String
  | .info => "INFO"
  | .blockingAnalysis => "BLOCKING_ANALYSIS"

structure StructuralFinding where
  code : StructuralCode
  severity : FindingSeverity
  sourceKey : Option String := none
  streamKey : Option StreamId := none
  recordKind : Option RecordKind := none
  recordIndex : Option Nat := none
  timestampNs : Option Int := none
  detail : String
  deriving DecidableEq

namespace StructuralFinding

def isBlocking (finding : StructuralFinding) : Bool :=
  finding.severity == .blockingAnalysis

/-- The key by which findings are sorted. -/
def sortKey (finding : StructuralFinding) :
    String ×ₗ String ×ₗ String ×ₗ String ×ₗ Int ×ₗ Int :=
  toLex (finding.code.value, toLex ((finding.streamKey.map fun key => key.text).getD "",
    toLex ((finding.recordKind.map RecordKind.value).getD "", toLex (finding.sourceKey.getD "",
      toLex ((finding.recordIndex.map fun index : Nat => (index : Int)).getD (-1),
        finding.timestampNs.getD (-2 ^ 63))))))

def dump (finding : StructuralFinding) : JsonValue String :=
  .object [("code", .string finding.code.value), ("severity", .string finding.severity.value),
    ("source_key", optional JsonValue.string finding.sourceKey),
    ("stream_key", optional (fun key : StreamId => .string key.text) finding.streamKey),
    ("record_kind", optional (fun kind : RecordKind => .string kind.value) finding.recordKind),
    ("record_index", optional (fun index : Nat => .integer index) finding.recordIndex),
    ("timestamp_ns", optional JsonValue.integer finding.timestampNs),
    ("detail", .string finding.detail)]

end StructuralFinding

/-- What takes the place of the last finding once there are too many. -/
def limitExceeded : StructuralFinding where
  code := .findingLimitExceeded
  severity := .blockingAnalysis
  detail := "The frozen structural-finding limit was exceeded."

/-- `_FindingCollector`. -/
structure FindingCollector where
  maximum : Nat
  findings : List StructuralFinding
  limitReported : Bool

namespace FindingCollector

def create (maximum : Nat) : FindingCollector where
  maximum := maximum
  findings := []
  limitReported := false

def add (collector : FindingCollector) (finding : StructuralFinding) : FindingCollector :=
  if collector.findings.length < collector.maximum then
    { collector with findings := collector.findings ++ [finding] }
  else if collector.limitReported then collector
  else
    { collector with
      findings := collector.findings.dropLast ++ [limitExceeded]
      limitReported := true }

def values (collector : FindingCollector) : List StructuralFinding :=
  sortedBy StructuralFinding.sortKey collector.findings

def hasBlocking (collector : FindingCollector) : Bool :=
  collector.findings.any StructuralFinding.isBlocking

end FindingCollector

/-- `_adapter_failure`. An error without a source key makes no finding. -/
def adapterFailure (field sourceKey : String) (record : Nat) : Except Raised StructuralFinding :=
  let (code, detail) :=
    if field = "record_layout" then
      (StructuralCode.corruptSource, "The selected source has an invalid record layout.")
    else if field = "source_snapshot" then
      (.sourceChanged, "The selected source changed during immutable indexing.")
    else (.parseError, "The selected source did not satisfy the adapter contract.")
  if sourceKey = "" then .error (.other "String should have at least 1 character")
  else .ok {
    code := code
    severity := .blockingAnalysis
    sourceKey := some sourceKey
    recordIndex := if record = 0 then none else some record
    detail := detail }

/-! ## Ranges -/

structure SourceRangeSummary where
  streamId : StreamId
  recordKind : RecordKind
  recordCount : ℕ+
  minimumTimeNs : Int
  maximumTimeNs : Int
  timestampsNondecreasingInSourceOrder : Bool
  duplicateTimestampCount : Nat
  deriving DecidableEq

def SourceRangeSummary.dump (range : SourceRangeSummary) : JsonValue String :=
  .object [("stream_id", .string range.streamId.text),
    ("record_kind", .string range.recordKind.value), ("record_count", .integer range.recordCount),
    ("minimum_time_ns", .integer range.minimumTimeNs),
    ("maximum_time_ns", .integer range.maximumTimeNs),
    ("timestamps_nondecreasing_in_source_order",
      .boolean range.timestampsNondecreasingInSourceOrder),
    ("duplicate_timestamp_count", .integer range.duplicateTimestampCount)]

/-- `_RangeAccumulator`. -/
structure RangeAccumulator where
  streamId : StreamId
  recordKind : RecordKind
  count : Nat := 0
  minimum : Option Int := none
  maximum : Option Int := none
  previous : Option Int := none
  nondecreasing : Bool := true
  duplicates : Nat := 0

namespace RangeAccumulator

def observe (accumulator : RangeAccumulator) (timestampNs : Int) : RangeAccumulator :=
  { accumulator with
    count := accumulator.count + 1
    minimum := some (accumulator.minimum.elim timestampNs (min · timestampNs))
    maximum := some (accumulator.maximum.elim timestampNs (max · timestampNs))
    nondecreasing :=
      accumulator.nondecreasing && accumulator.previous.all fun previous => previous ≤ timestampNs
    previous := some timestampNs }

def repeated (accumulator : RangeAccumulator) : RangeAccumulator :=
  { accumulator with duplicates := accumulator.duplicates + 1 }

def finish (accumulator : RangeAccumulator) : Except Raised SourceRangeSummary :=
  if h : 0 < accumulator.count then
    match accumulator.minimum, accumulator.maximum with
    | some minimum, some maximum => .ok {
        streamId := accumulator.streamId
        recordKind := accumulator.recordKind
        recordCount := ⟨accumulator.count, h⟩
        minimumTimeNs := minimum
        maximumTimeNs := maximum
        timestampsNondecreasingInSourceOrder := accumulator.nondecreasing
        duplicateTimestampCount := accumulator.duplicates }
    | _, _ => .error (.other "source range cannot be empty")
  else .error (.other "source range cannot be empty")

end RangeAccumulator

/-! ## Summaries and results -/

/-- A `PositiveInt` of a model. -/
def positive (value : Nat) : Except Raised ℕ+ :=
  if h : 0 < value then .ok ⟨value, h⟩ else .error (.other "Input should be greater than 0")

structure FrameIndexSummary where
  sequenceId : StableId
  sourceIdentitySha256 : Sha256
  manifestSha256 : Sha256
  indexSha256 : Sha256
  sourceFileCount : ℕ+
  sourceByteCount : ℕ+
  frameIndexEntryCount : ℕ+
  sourceRanges : List SourceRangeSummary
  structuralFindings : List StructuralFinding
  budgetId : Identifier
  budgetSha256 : Sha256
  indexMemoryBudgetBytes : ℕ+
  maximumRetainedIndexBatchBytes : ℕ+
  hashChunkBytes : ℕ+

def FrameIndexSummary.dump (summary : FrameIndexSummary) : JsonValue String :=
  .object [("schema_version", .string "cartosentry.frame-index-summary.v1"),
    ("sequence_id", .string summary.sequenceId.text),
    ("source_identity_sha256", .string summary.sourceIdentitySha256.text),
    ("manifest_sha256", .string summary.manifestSha256.text),
    ("index_sha256", .string summary.indexSha256.text),
    ("source_file_count", .integer summary.sourceFileCount),
    ("source_byte_count", .integer summary.sourceByteCount),
    ("frame_index_entry_count", .integer summary.frameIndexEntryCount),
    ("source_ranges", .array (summary.sourceRanges.map SourceRangeSummary.dump)),
    ("structural_findings", .array (summary.structuralFindings.map StructuralFinding.dump)),
    ("budget_id", .string summary.budgetId.text),
    ("budget_sha256", .string summary.budgetSha256.text),
    ("index_memory_budget_bytes", .integer summary.indexMemoryBudgetBytes),
    ("maximum_retained_index_batch_bytes", .integer summary.maximumRetainedIndexBatchBytes),
    ("hash_chunk_bytes", .integer summary.hashChunkBytes)]

structure IngestionCompletion where
  sequenceId : StableId
  sourceIdentitySha256 : Sha256
  manifest : Sha256
  index : Sha256
  summary : Sha256

def IngestionCompletion.dump (completion : IngestionCompletion) : JsonValue String :=
  .object [("schema_version", .string "cartosentry.ingestion-completion.v1"),
    ("sequence_id", .string completion.sequenceId.text),
    ("source_identity_sha256", .string completion.sourceIdentitySha256.text),
    ("artifacts", .object [("manifest", .string completion.manifest.text),
      ("index", .string completion.index.text), ("summary", .string completion.summary.text)])]

/-- The values of `artifact_sha256`, where it is not empty. -/
structure ArtifactSha256 where
  completion : Sha256
  index : Sha256
  manifest : Sha256
  summary : Sha256
  deriving DecidableEq

structure IngestionQualification where
  accepted : Bool
  published : Bool
  sequenceId : Option StableId
  sourceIdentitySha256 : Option Sha256
  sourceFileCount : Nat
  sourceByteCount : Nat
  frameIndexEntryCount : Nat
  sourceRanges : List SourceRangeSummary
  structuralFindings : List StructuralFinding
  budgetId : Identifier
  budgetSha256 : Sha256
  indexMemoryBudgetBytes : ℕ+
  maximumRetainedIndexBatchBytes : Nat
  artifactSha256 : Option ArtifactSha256

/-- `_failure`. -/
def failureOf (budget : IngestionBudget) (budgetSha256 : Sha256) (findings : List StructuralFinding)
    (sources : List AdapterSourceFile) (maximumBatchBytes : Nat)
    (sourceRanges : List SourceRangeSummary) : IngestionQualification where
  accepted := false
  published := false
  sequenceId := none
  sourceIdentitySha256 := none
  sourceFileCount := sources.length
  sourceByteCount := (sources.map AdapterSourceFile.byteCount).sum
  frameIndexEntryCount := 0
  sourceRanges := sourceRanges
  structuralFindings := findings
  budgetId := budget.budgetId
  budgetSha256 := budgetSha256
  indexMemoryBudgetBytes := budget.indexBatchBytes
  maximumRetainedIndexBatchBytes := maximumBatchBytes
  artifactSha256 := none

/-! ## Entries -/

/-- `_entry_times_state`. -/
def entryTimesState (times : FrameTimes) : CaptureIntervalState :=
  if times.captureStart.isSome then .sourceCaptureInterval
  else if times.sensorTime.isSome then .sensorTimeOnly
  else .unavailable

/-- The payload of `make_frame_id`. -/
def framePayload (streamId : StreamId) (frame : LidarFrameView) : JsonValue String :=
  .object [("capture_interval", .object [("times", frame.times.dump)]),
    ("source_frame_key", .string frame.sourceFrameKey.text), ("stream_id", .string streamId.text)]

theorem isKind_frame : Artifacts.isKind "frame".toList = true := by decide

/-- `_canonical_frame_id`. -/
def canonicalFrameId (platform : Platform) (streamId : StreamId) (frame : LidarFrameView) :
    Except IdentityError StableId :=
  identifier platform ⟨"frame", isKind_frame⟩ (framePayload streamId frame)

/-- The entry of a frame. -/
def frameEntry (platform : Platform) (streamId : StreamId) (sourceOrdinal : Nat)
    (frame : LidarFrameView) : Except IdentityError FrameIndexEntry := do
  let frameId ← canonicalFrameId platform streamId frame
  return {
    streamId := streamId
    frameId := frameId
    sourceKey := frame.payload.sourceKey
    sourceOrdinal := sourceOrdinal
    sourceRecordIndex := none
    byteOffset := some 0
    byteCount := some frame.payload.byteCount
    times := frame.times
    captureIntervalState := entryTimesState frame.times
    payloadRecordCount := some frame.payload.recordCount }

/-! ## Snapshots -/

/-- `_source_snapshot_key`. -/
def AdapterSourceFile.snapshotKey (source : AdapterSourceFile) : Nat × Nat × Nat × Nat :=
  (source.byteCount, source.modifiedTimeNs, source.deviceId, source.fileId)

/-- The snapshot of a key: of two sources with one key the last counts. -/
def snapshotOf (sources : List AdapterSourceFile) (key : String) : Option (Nat × Nat × Nat × Nat) :=
  (sources.reverse.find? fun source => source.sourceKey = key).map AdapterSourceFile.snapshotKey

/-- The same snapshots under the same keys. -/
def sameSnapshots (latest original : List AdapterSourceFile) : Bool :=
  (latest ++ original).all fun source =>
    snapshotOf latest source.sourceKey == snapshotOf original source.sourceKey

end CartoSentry.Ingestion
