import CartoSentry.Artifacts.AcceptedData
import Mathlib.Data.PNat.Notation

set_option autoImplicit false

/-!
# Ingestion: writing the frame index

`FrameIndexEntry` and `_IndexWriter` of `ingestion.py`.  The size of a list object depends on what
was done with it before, so the sizes of objects are given.
-/

namespace CartoSentry.Ingestion

open Artifacts (Platform IdentityError Sha256 StableId StreamId TimeEpoch TimePoint optional require
  checkPortable jsonText)
open Artifacts.RecapturePlan (require_eq_ok_iff)
open Contracts (Int64Value NonemptyString)
open Foundation (Double JsonValue bind_eq_ok_iff bind_unit_eq_ok_iff)

/-! ## Frame times -/

/-- A capture interval that `validate_half_open_interval` has accepted. -/
structure FrameInterval where
  captureStart : TimePoint
  captureEnd : TimePoint
  nonempty : ∃ duration, captureEnd.difference captureStart = .ok duration ∧ 0 < duration.value

structure CorrectedTime where
  original : TimePoint
  correctedValueNs : Int64Value
  targetEpoch : TimeEpoch
  targetClockId : NonemptyString
  correctionModelId : NonemptyString
  correctionModelSha256 : Sha256
  pivotNs : Int64Value
  offsetNs : Int64Value
  ratePpb : Double
  uncertaintyNs : Int64Value
  applicability : FrameInterval
  finite : ratePpb.isFinite = true
  nonnegative : 0 ≤ uncertaintyNs.value
  sinceStart : ∃ duration, original.difference applicability.captureStart = .ok duration ∧
    0 ≤ duration.value
  untilEnd : ∃ duration, applicability.captureEnd.difference original = .ok duration ∧
    0 < duration.value

/-- `==` on time points: two zeros of different signs are equal. -/
def sameTime (left right : TimePoint) : Prop :=
  left.valueNs = right.valueNs ∧ left.clockId = right.clockId ∧
    { left.raw.fields with
      maximumConversionErrorNs := right.raw.fields.maximumConversionErrorNs } = right.raw.fields ∧
    left.raw.fields.maximumConversionErrorNs.value.number =
      right.raw.fields.maximumConversionErrorNs.value.number

/-- Times that `validate_capture_pair` has accepted. -/
structure FrameTimes where
  captureStart : Option TimePoint
  captureEnd : Option TimePoint
  sensorTime : Option TimePoint
  hostReceiveTime : Option TimePoint
  correctedSensorTime : Option CorrectedTime
  together : captureStart.isNone = captureEnd.isNone
  interval : ∀ start ∈ captureStart, ∀ finish ∈ captureEnd, ∃ duration,
    finish.difference start = .ok duration ∧ 0 < duration.value
  retained : ∀ time ∈ sensorTime, ∀ corrected ∈ correctedSensorTime,
    sameTime corrected.original time

/-! ## Entries -/

inductive CaptureIntervalState where
  | sourceCaptureInterval
  | sensorTimeOnly
  | unavailable
  deriving DecidableEq, Repr

def CaptureIntervalState.value : CaptureIntervalState → String
  | .sourceCaptureInterval => "SOURCE_CAPTURE_INTERVAL"
  | .sensorTimeOnly => "SENSOR_TIME_ONLY"
  | .unavailable => "UNAVAILABLE"

structure FrameIndexEntry where
  streamId : StreamId
  frameId : StableId
  sourceKey : NonemptyString
  sourceOrdinal : Nat
  sourceRecordIndex : Option Nat
  byteOffset : Option Nat
  byteCount : Option ℕ+
  times : FrameTimes
  captureIntervalState : CaptureIntervalState
  payloadRecordCount : Option ℕ+

def FrameInterval.dump (interval : FrameInterval) : JsonValue String :=
  .object [("capture_start", interval.captureStart.dump),
    ("capture_end", interval.captureEnd.dump)]

def CorrectedTime.dump (time : CorrectedTime) : JsonValue String :=
  .object [("original", time.original.dump),
    ("corrected_value_ns", .integer time.correctedValueNs.value),
    ("target_epoch", .string time.targetEpoch.value),
    ("target_clock_id", .string time.targetClockId.text),
    ("correction_model_id", .string time.correctionModelId.text),
    ("correction_model_sha256", .string time.correctionModelSha256.text),
    ("pivot_ns", .integer time.pivotNs.value), ("offset_ns", .integer time.offsetNs.value),
    ("rate_ppb", .real time.ratePpb), ("uncertainty_ns", .integer time.uncertaintyNs.value),
    ("applicability", time.applicability.dump)]

def FrameTimes.dump (times : FrameTimes) : JsonValue String :=
  .object [("capture_start", optional TimePoint.dump times.captureStart),
    ("capture_end", optional TimePoint.dump times.captureEnd),
    ("sensor_time", optional TimePoint.dump times.sensorTime),
    ("host_receive_time", optional TimePoint.dump times.hostReceiveTime),
    ("corrected_sensor_time", optional CorrectedTime.dump times.correctedSensorTime)]

/-- `model_dump(mode="json")` -/
def FrameIndexEntry.dump (entry : FrameIndexEntry) : JsonValue String :=
  .object [("schema_version", .string "cartosentry.frame-index-entry.v1"),
    ("stream_id", .string entry.streamId.text), ("frame_id", .string entry.frameId.text),
    ("source_key", .string entry.sourceKey.text), ("source_ordinal", .integer entry.sourceOrdinal),
    ("source_record_index", optional (fun index : Nat => .integer index) entry.sourceRecordIndex),
    ("byte_offset", optional (fun offset : Nat => .integer offset) entry.byteOffset),
    ("byte_count", optional (fun count : ℕ+ => .integer count) entry.byteCount),
    ("times", entry.times.dump),
    ("capture_interval_state", .string entry.captureIntervalState.value),
    ("parse_status", .string "PARSED"),
    ("payload_record_count",
      optional (fun count : ℕ+ => .integer count) entry.payloadRecordCount)]

/-- `_canonical_json` -/
def canonicalJson (platform : Platform) (value : JsonValue String) :
    Except IdentityError (List UInt8) := do
  checkPortable platform value "artifact"
  let text ← jsonText platform value
  return text.flatMap String.utf8EncodeChar

/-- The line of an entry. -/
def FrameIndexEntry.serialized (platform : Platform) (entry : FrameIndexEntry) :
    Except IdentityError (List UInt8) := do
  let text ← canonicalJson platform entry.dump
  return text ++ String.utf8EncodeChar '\n'

/-! ## The writer -/

/-- What is done with a list object. -/
inductive BufferAction where
  | append (item : List UInt8)
  | pop
  | clear

/-- `sys.getsizeof`, of a list by what was done with it since it was made. -/
structure ObjectSizes where
  list : List BufferAction → Nat
  bytes : List UInt8 → Nat

/-- The writer, with the bytes in its stream and those that its digest has taken. -/
structure IndexWriter where
  stream : List UInt8
  byteBudget : Int
  buffer : List (List UInt8)
  actions : List BufferAction
  maximumBufferBytes : Nat
  entryCount : Nat
  hashed : List UInt8

def budgetMessage : String :=
  "one frame-index record exceeds the frozen byte budget"

namespace IndexWriter

/-- `__init__` -/
def create (byteBudget : Int) : IndexWriter where
  stream := []
  byteBudget := byteBudget
  buffer := []
  actions := []
  maximumBufferBytes := 0
  entryCount := 0
  hashed := []

/-- `self._buffer.append(item)` -/
def push (writer : IndexWriter) (item : List UInt8) : IndexWriter :=
  { writer with
    buffer := writer.buffer ++ [item]
    actions := writer.actions ++ [.append item] }

/-- `self._buffer.pop()`, on a buffer that is not empty. -/
def pop (writer : IndexWriter) : List UInt8 × IndexWriter :=
  (writer.buffer.getLastD [],
    { writer with buffer := writer.buffer.dropLast, actions := writer.actions ++ [.pop] })

/-- `flush` -/
def flush (writer : IndexWriter) : IndexWriter :=
  { writer with
    stream := writer.buffer.foldl (fun stream serialized => stream ++ serialized) writer.stream
    hashed := writer.buffer.foldl (fun hashed serialized => hashed ++ serialized) writer.hashed
    buffer := []
    actions := writer.actions ++ [.clear] }

section Run

variable (platform : Platform) (sizes : ObjectSizes)

/-- `_retained_buffer_bytes` -/
def retainedBufferBytes (writer : IndexWriter) : Nat :=
  sizes.list writer.actions + (writer.buffer.map sizes.bytes).sum

/-- The buffer once a line is in it: it is flushed first where it would be too large. -/
def settle (writer : IndexWriter) (serialized : List UInt8) : IndexWriter :=
  let pushed := writer.push serialized
  if writer.byteBudget < pushed.retainedBufferBytes sizes ∧ 1 < pushed.buffer.length then
    let (removed, popped) := pushed.pop
    popped.flush.push removed
  else pushed

/-- `append` -/
def append (writer : IndexWriter) (entry : FrameIndexEntry) :
    Except IdentityError IndexWriter := do
  let serialized ← entry.serialized platform
  require ((sizes.list [] + sizes.bytes serialized : Nat) ≤ writer.byteBudget) budgetMessage
  let settled := writer.settle sizes serialized
  require (settled.retainedBufferBytes sizes ≤ writer.byteBudget) budgetMessage
  return { settled with
    maximumBufferBytes :=
      max settled.maximumBufferBytes (settled.retainedBufferBytes sizes)
    entryCount := settled.entryCount + 1 }

/-- The entries appended one after another. -/
def appendAll (writer : IndexWriter) : List FrameIndexEntry → Except IdentityError IndexWriter
  | [] => .ok writer
  | entry :: entries => do
    let next ← writer.append platform sizes entry
    next.appendAll entries

end Run

end IndexWriter

/-- What is left of a writer that has finished. -/
structure FrameIndex where
  content : List UInt8
  digest : Sha256
  entryCount : Nat
  maximumBufferBytes : Nat
  deriving DecidableEq

/-- `finish` -/
def IndexWriter.finish (platform : Platform) (writer : IndexWriter) : FrameIndex where
  content := writer.flush.stream
  digest := platform.sha256 writer.flush.hashed
  entryCount := writer.entryCount
  maximumBufferBytes := writer.maximumBufferBytes

/-- An index written from its first entry to its end. -/
def writeIndex (platform : Platform) (sizes : ObjectSizes) (byteBudget : Int)
    (entries : List FrameIndexEntry) : Except IdentityError FrameIndex := do
  let writer ← (IndexWriter.create byteBudget).appendAll platform sizes entries
  return writer.finish platform

/-! ## Errors -/

theorem bind_eq_error_iff {E A B : Type} {first : Except E A} {rest : A → Except E B} {error : E} :
    first >>= rest = .error error ↔
      first = .error error ∨ ∃ value, first = .ok value ∧ rest value = .error error := by
  cases first with
  | error e =>
    refine ⟨fun h => .inl (congrArg _ (Except.error.inj h)), ?_⟩
    rintro (herror | ⟨_, hok, -⟩)
    · exact congrArg _ (Except.error.inj herror)
    · cases hok
  | ok value =>
    refine ⟨fun h => .inr ⟨value, rfl, h⟩, ?_⟩
    rintro (herror | ⟨_, hok, h⟩)
    · cases herror
    · obtain rfl := Except.ok.inj hok
      exact h

theorem require_eq_error {condition : Prop} [Decidable condition] {message : String}
    {error : IdentityError} (h : require condition message = .error error) :
    error = .value message := by
  unfold require at h
  split_ifs at h
  exact (Except.error.inj h).symm

/-! ## What a writer holds -/

namespace IndexWriter

variable {platform : Platform} {sizes : ObjectSizes} {writer next : IndexWriter}
  {lines : List (List UInt8)}

/-- The stream and the buffer together are the lines that were appended. -/
structure Holds (writer : IndexWriter) (lines : List (List UInt8)) : Prop where
  content : writer.stream ++ writer.buffer.flatten = lines.flatten
  hashed : writer.hashed = writer.stream
  counted : writer.entryCount = lines.length

theorem foldl_append {A : Type} (items : List (List A)) (start : List A) :
    items.foldl (fun written item => written ++ item) start = start ++ items.flatten := by
  induction items generalizing start with
  | nil => exact (List.append_nil start).symm
  | cons item items ih => rw [List.foldl_cons, ih, List.flatten_cons, List.append_assoc]

@[simp] theorem flush_stream (writer : IndexWriter) :
    writer.flush.stream = writer.stream ++ writer.buffer.flatten :=
  foldl_append _ _

@[simp] theorem flush_hashed (writer : IndexWriter) :
    writer.flush.hashed = writer.hashed ++ writer.buffer.flatten :=
  foldl_append _ _

@[simp] theorem pop_push (writer : IndexWriter) (item : List UInt8) :
    (writer.push item).pop =
      (item, { writer with actions := writer.actions ++ [.append item] ++ [.pop] }) := by
  unfold push pop
  rw [List.getLastD_concat, List.dropLast_concat]

theorem holds_create (byteBudget : Int) : (create byteBudget).Holds [] :=
  ⟨rfl, rfl, rfl⟩

/-- The digest takes what the stream takes, and neither loses what was in the buffer. -/
theorem settle_spec (sizes : ObjectSizes) (h : writer.Holds lines) (serialized : List UInt8) :
    (writer.settle sizes serialized).stream ++ (writer.settle sizes serialized).buffer.flatten =
        (lines ++ [serialized]).flatten ∧
      (writer.settle sizes serialized).hashed = (writer.settle sizes serialized).stream ∧
      (writer.settle sizes serialized).entryCount = lines.length := by
  have hline : (lines ++ [serialized]).flatten = lines.flatten ++ serialized := by
    rw [List.flatten_append, List.flatten_singleton]
  rw [hline, ← h.content]
  unfold settle
  dsimp only
  split_ifs with hover
  · rw [pop_push]
    refine ⟨?_, ?_, h.counted⟩
    · change (flush _).stream ++ ([] ++ [serialized]).flatten = _
      rw [flush_stream, List.nil_append, List.flatten_singleton]
    · change (flush _).hashed = (flush _).stream
      rw [flush_hashed, flush_stream]
      exact congrArg (· ++ writer.buffer.flatten) h.hashed
  · refine ⟨?_, h.hashed, h.counted⟩
    change writer.stream ++ (writer.buffer ++ [serialized]).flatten = _
    rw [List.flatten_append, List.flatten_singleton, List.append_assoc]

@[simp] theorem settle_byteBudget (writer : IndexWriter) (serialized : List UInt8) :
    (writer.settle sizes serialized).byteBudget = writer.byteBudget := by
  unfold settle
  dsimp only
  split_ifs <;> rfl

/-- An append that returns has added a line, and the buffer keeps to the budget. -/
theorem append_spec {entry : FrameIndexEntry} (h : writer.append platform sizes entry = .ok next) :
    ∃ line, entry.serialized platform = .ok line ∧
      (∀ lines, writer.Holds lines → next.Holds (lines ++ [line])) ∧
      next.retainedBufferBytes sizes ≤ next.byteBudget ∧ next.byteBudget = writer.byteBudget := by
  unfold append at h
  obtain ⟨line, hline, h⟩ := bind_eq_ok_iff.mp h
  obtain ⟨-, h⟩ := bind_unit_eq_ok_iff.mp h
  obtain ⟨hretained, h⟩ := bind_unit_eq_ok_iff.mp h
  rw [require_eq_ok_iff] at hretained
  obtain rfl := Except.ok.inj h
  refine ⟨line, hline, fun lines hlines => ?_, ?_, settle_byteBudget writer line⟩
  · obtain ⟨hcontent, hhashed, hcounted⟩ := settle_spec sizes hlines line
    refine ⟨hcontent, hhashed, ?_⟩
    rw [List.length_append, List.length_singleton, ← hcounted]
  · rw [settle_byteBudget]
    exact hretained

/-- An append fails for its budget or for the canonical form of its entry. -/
theorem append_error {entry : FrameIndexEntry} {error : IdentityError}
    (h : writer.append platform sizes entry = .error error) :
    error = .value budgetMessage ∨ entry.serialized platform = .error error := by
  unfold append at h
  rcases bind_eq_error_iff.mp h with hline | ⟨line, -, h⟩
  · exact .inr hline
  left
  rcases bind_eq_error_iff.mp h with hminimum | ⟨_, -, h⟩
  · exact require_eq_error hminimum
  rcases bind_eq_error_iff.mp h with hretained | ⟨_, -, h⟩
  · exact require_eq_error hretained
  · cases h

theorem appendAll_append (front rest : List FrameIndexEntry) :
    writer.appendAll platform sizes (front ++ rest) =
      writer.appendAll platform sizes front >>= fun next => next.appendAll platform sizes rest := by
  induction front generalizing writer with
  | nil => rfl
  | cons entry front ih =>
    rw [List.cons_append, appendAll, appendAll, bind_assoc]
    exact congrArg _ (funext fun _ => ih)

/-- The lines of entries. -/
def Lines (platform : Platform) (entries : List FrameIndexEntry) (lines : List (List UInt8)) :
    Prop :=
  List.Forall₂ (fun entry line => entry.serialized platform = .ok line) entries lines

theorem Lines.unique {entries : List FrameIndexEntry} {others : List (List UInt8)}
    (h : Lines platform entries lines) (hothers : Lines platform entries others) :
    lines = others := by
  induction h generalizing others with
  | nil => cases hothers; rfl
  | cons hline _ ih =>
    obtain _ | ⟨hother, hothers⟩ := hothers
    rw [Except.ok.inj (hline.symm.trans hother), ih hothers]

/-- A run of appends adds the lines of its entries. -/
theorem appendAll_spec {entries : List FrameIndexEntry}
    (h : writer.appendAll platform sizes entries = .ok next) (hlines : writer.Holds lines) :
    ∃ added, Lines platform entries added ∧ next.Holds (lines ++ added) := by
  induction entries generalizing writer lines with
  | nil =>
    obtain rfl := Except.ok.inj h
    exact ⟨[], .nil, by rwa [List.append_nil]⟩
  | cons entry entries ih =>
    obtain ⟨middle, hmiddle, h⟩ := bind_eq_ok_iff.mp h
    obtain ⟨line, hline, hholds, -⟩ := append_spec hmiddle
    obtain ⟨added, hadded, hnext⟩ := ih h (hholds lines hlines)
    refine ⟨line :: added, .cons hline hadded, ?_⟩
    rwa [List.append_cons]

theorem appendAll_byteBudget {entries : List FrameIndexEntry}
    (h : writer.appendAll platform sizes entries = .ok next) :
    next.byteBudget = writer.byteBudget := by
  induction entries generalizing writer with
  | nil =>
    obtain rfl := Except.ok.inj h
    rfl
  | cons entry entries ih =>
    obtain ⟨middle, hmiddle, h⟩ := bind_eq_ok_iff.mp h
    obtain ⟨-, -, -, -, hbudget⟩ := append_spec hmiddle
    exact (ih h).trans hbudget

/-- A run of appends fails at one of its entries. -/
theorem appendAll_error {entries : List FrameIndexEntry} {error : IdentityError}
    (h : writer.appendAll platform sizes entries = .error error) :
    error = .value budgetMessage ∨ ∃ entry ∈ entries, entry.serialized platform = .error error := by
  induction entries generalizing writer with
  | nil => cases h
  | cons entry entries ih =>
    rcases bind_eq_error_iff.mp h with hfirst | ⟨middle, -, h⟩
    · exact (append_error hfirst).imp_right fun herror => ⟨entry, List.mem_cons_self, herror⟩
    · exact (ih h).imp_right fun ⟨later, hlater, herror⟩ =>
        ⟨later, List.mem_cons_of_mem entry hlater, herror⟩

/-- The buffer keeps to the budget after the last append of a run. -/
theorem retained_le {front : List FrameIndexEntry} {entry : FrameIndexEntry}
    (h : writer.appendAll platform sizes (front ++ [entry]) = .ok next) :
    next.retainedBufferBytes sizes ≤ writer.byteBudget := by
  rw [appendAll_append] at h
  obtain ⟨middle, hmiddle, h⟩ := bind_eq_ok_iff.mp h
  obtain ⟨last, hlast, h⟩ := bind_eq_ok_iff.mp h
  obtain rfl := Except.ok.inj h
  obtain ⟨-, -, -, hretained, hbudget⟩ := append_spec hlast
  rwa [hbudget, appendAll_byteBudget hmiddle] at hretained

end IndexWriter

/-! ## Indexes -/

/-- An index of entries: their lines in order, the digest of these and their number. -/
structure IndexOf (platform : Platform) (entries : List FrameIndexEntry) (index : FrameIndex) :
    Prop where
  content : ∃ lines, IndexWriter.Lines platform entries lines ∧ index.content = lines.flatten
  digest : index.digest = platform.sha256 index.content
  counted : index.entryCount = entries.length

theorem IndexOf.content_eq {platform : Platform} {entries : List FrameIndexEntry}
    {index other : FrameIndex} (h : IndexOf platform entries index)
    (hother : IndexOf platform entries other) : index.content = other.content := by
  obtain ⟨lines, hlines, hcontent⟩ := h.content
  obtain ⟨others, hothers, hcontent'⟩ := hother.content
  rw [hcontent, hcontent', hlines.unique hothers]

theorem writeIndex_spec {platform : Platform} {sizes : ObjectSizes} {byteBudget : Int}
    {entries : List FrameIndexEntry} {index : FrameIndex}
    (h : writeIndex platform sizes byteBudget entries = .ok index) :
    IndexOf platform entries index := by
  obtain ⟨writer, hwriter, h⟩ := bind_eq_ok_iff.mp h
  obtain rfl := Except.ok.inj h
  obtain ⟨lines, hlines, hholds⟩ :=
    IndexWriter.appendAll_spec hwriter (IndexWriter.holds_create byteBudget)
  refine ⟨⟨lines, hlines, ?_⟩, ?_, ?_⟩
  · exact (IndexWriter.flush_stream writer).trans hholds.content
  · unfold IndexWriter.finish
    rw [IndexWriter.flush_hashed, IndexWriter.flush_stream, hholds.hashed]
  · exact hholds.counted.trans hlines.length_eq.symm

/-- Whatever the budget, an index that is written is that of its entries, and the buffer keeps
to the budget. -/
theorem index_writer_exact (platform : Platform) (sizes : ObjectSizes) (byteBudget : Int)
    (entries : List FrameIndexEntry) :
    ((∃ index, writeIndex platform sizes byteBudget entries = .ok index ∧
        IndexOf platform entries index) ∨
      ∃ error, writeIndex platform sizes byteBudget entries = .error error ∧
        (error = .value budgetMessage ∨
          ∃ entry ∈ entries, entry.serialized platform = .error error)) ∧
    (∀ front entry writer,
      (IndexWriter.create byteBudget).appendAll platform sizes (front ++ [entry]) = .ok writer →
        writer.retainedBufferBytes sizes ≤ byteBudget) ∧
    ∀ (otherSizes : ObjectSizes) (otherBudget : Int) (index other : FrameIndex),
      writeIndex platform sizes byteBudget entries = .ok index →
      writeIndex platform otherSizes otherBudget entries = .ok other →
        index.content = other.content := by
  refine ⟨?_, fun front entry writer h => IndexWriter.retained_le h,
    fun otherSizes otherBudget index other hindex hother =>
      (writeIndex_spec hindex).content_eq (writeIndex_spec hother)⟩
  cases hwritten : writeIndex platform sizes byteBudget entries with
  | ok index => exact .inl ⟨index, rfl, writeIndex_spec hwritten⟩
  | error error =>
    refine .inr ⟨error, rfl, ?_⟩
    rcases bind_eq_error_iff.mp hwritten with happend | ⟨_, -, h⟩
    · exact IndexWriter.appendAll_error happend
    · cases h

/-! ## An entry with a local path -/

/-- A frame whose source key is a path of the machine. -/
def localEntry : FrameIndexEntry where
  streamId :=
    ⟨"stream-lidar-velodyne-ffffffffffffffffffffffffffffffffffffffffffffffffffffffffffffffff",
      by decide +kernel⟩
  frameId := ⟨"frame-sha256-ffffffffffffffffffffffffffffffffffffffffffffffffffffffffffffffff",
    by decide +kernel⟩
  sourceKey := ⟨"/tmp/lidar/1.bin", by decide⟩
  sourceOrdinal := 0
  sourceRecordIndex := none
  byteOffset := none
  byteCount := none
  times := {
    captureStart := none
    captureEnd := none
    sensorTime := none
    hostReceiveTime := none
    correctedSensorTime := none
    together := rfl
    interval := fun _ h => by cases h
    retained := fun _ h => by cases h }
  captureIntervalState := .unavailable
  payloadRecordCount := none

/-- Sizes of 56 bytes for a list and 33 for bytes, with their items. -/
def sampleSizes : ObjectSizes where
  list actions := 56 + 8 * actions.length
  bytes content := 33 + content.length

/-- An entry can be refused for what it says, at any budget. -/
theorem local_entry_refused :
    ¬ ∀ (platform : Platform) (sizes : ObjectSizes) (byteBudget : Int)
      (entries : List FrameIndexEntry), (∀ actions, 0 < sizes.list actions) →
      (∀ content, 0 < sizes.bytes content) →
      writeIndex platform sizes byteBudget entries = .error (.value budgetMessage) ∨
        ∃ index, writeIndex platform sizes byteBudget entries = .ok index := by
  intro h
  have hrefused : (writeIndex samplePlatform sampleSizes 1000000 [localEntry]).toOption = none ∧
      writeIndex samplePlatform sampleSizes 1000000 [localEntry] ≠
        .error (.value budgetMessage) := by
    decide +kernel
  obtain ⟨hnone, hbudget⟩ := hrefused
  have hlist : ∀ actions, 0 < sampleSizes.list actions := fun _ => Nat.lt_add_right _ (by omega)
  have hbytes : ∀ content, 0 < sampleSizes.bytes content := fun _ => Nat.lt_add_right _ (by omega)
  rcases h samplePlatform sampleSizes 1000000 [localEntry] hlist hbytes with
    herror | ⟨index, hindex⟩
  · exact hbudget herror
  · rw [hindex] at hnone
    cases hnone

end CartoSentry.Ingestion
