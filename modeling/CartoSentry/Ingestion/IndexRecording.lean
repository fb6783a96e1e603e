import CartoSentry.Foundation.Handlers
import CartoSentry.Ingestion.Recording

set_option autoImplicit false

/-!
# Ingestion: indexing a recording

`index_recording` of `ingestion.py` with what it calls, as a process over the output
directory and the attempt directory beside it. Each call of the file system and of the
database can fail, and the process can be killed before each of them.
-/

namespace CartoSentry.Ingestion

open Artifacts (Identifier Platform Sha256 StableId StreamId SequenceManifest)
open Foundation (Machine Proc JsonValue)

/-! ## The file system -/

/-- `MANIFEST_FILE`, `INDEX_FILE`, `SUMMARY_FILE` and `COMPLETION_FILE`. -/
inductive FileName where
  | manifest
  | index
  | summary
  | completion
  deriving DecidableEq, Repr

def FileName.path : FileName → String
  | .manifest => "sequence-manifest.json"
  | .index => "frame-index.jsonl"
  | .summary => "frame-index-summary.json"
  | .completion => "completion.json"

/-- A row of `seen_timestamp`. -/
structure SeenTimestamp where
  recordKind : RecordKind
  streamId : StreamId
  timestampNs : Int
  deriving DecidableEq

/-- A directory of one attempt: its files, and the database that is there for a while. -/
structure Directory where
  manifest : Option (List UInt8) := none
  index : Option (List UInt8) := none
  summary : Option (List UInt8) := none
  completion : Option (List UInt8) := none
  database : Option (List SeenTimestamp) := none
  deriving DecidableEq

namespace Directory

def file (directory : Directory) : FileName → Option (List UInt8)
  | .manifest => directory.manifest
  | .index => directory.index
  | .summary => directory.summary
  | .completion => directory.completion

def put (directory : Directory) (name : FileName) (content : List UInt8) : Directory :=
  match name with
  | .manifest => { directory with manifest := some content }
  | .index => { directory with index := some content }
  | .summary => { directory with summary := some content }
  | .completion => { directory with completion := some content }

@[simp] theorem file_put (directory : Directory) (name : FileName) (content : List UInt8) :
    (directory.put name content).file name = some content := by
  cases name <;> rfl

def insert (directory : Directory) (row : SeenTimestamp) : Directory :=
  { directory with database := directory.database.map (· ++ [row]) }

end Directory

/-- The steps of writing one file. -/
inductive FileStep where
  | open
  | write
  | flush
  | sync
  | close
  deriving DecidableEq, Repr

/-- A call that can fail. -/
inductive FileCall where
  | makeParents
  | makeAttempt
  | file (name : FileName) (step : FileStep)
  | connect
  | createTable
  | insert (kind : RecordKind) (ordinal : Nat)
  | append (ordinal : Nat)
  | commit
  | closeDatabase
  | removeDatabase
  | openAttempt
  | syncAttempt
  | closeAttempt
  | replace
  | openParent
  | syncParent
  | closeParent
  | closeWriter
  | findAttempt
  | removeAttempt
  deriving DecidableEq, Repr

/-- A writer with its stream. -/
structure OpenWriter where
  writer : IndexWriter
  closed : Bool

/-- The directories on disk, and what the pass keeps in memory. -/
structure Workspace where
  output : Option Directory
  attempt : Option Directory
  findings : FindingCollector
  writer : Option OpenWriter

inductive Action where
  | memory
  | file (call : FileCall)
  deriving DecidableEq, Repr

/-- What the pass depends on. A flush that fails has written the bytes that are kept. -/
structure Environment where
  platform : Platform
  sizes : ObjectSizes
  canonicalizePortableArtifact : SequenceManifest → Except Raised (List UInt8)
  fails : FileCall → Bool
  kept : FileName → Nat

abbrev Indexing (A : Type) : Type :=
  Proc Workspace Action Raised A

/-- A dictionary whose last entry of a key counts. -/
def streamOf (streamByKey : List (Identifier × StreamId)) (key : String) :
    Except Raised StreamId :=
  match streamByKey.reverse.find? fun entry => entry.1.text = key with
  | some entry => .ok entry.2
  | none => .error (.missingKey key)

section Calls

/-- A change of what is in memory. -/
def remember (change : Workspace → Workspace) : Indexing Unit :=
  Proc.transact fun w => .ok ⟨(), change w, .memory⟩

/-- `findings.add`. -/
def addFinding (finding : StructuralFinding) : Indexing Unit :=
  remember fun w => { w with findings := w.findings.add finding }

/-- A change of the attempt directory. -/
def onAttempt (change : Directory → Directory) (w : Workspace) : Workspace :=
  { w with attempt := w.attempt.map change }

variable (env : Environment)

/-- A call: it fails or has its effect. -/
def call (c : FileCall) (effect : Workspace → Workspace) : Indexing Unit :=
  if env.fails c then Proc.raise .system
  else Proc.transact fun w => .ok ⟨(), effect w, .file c⟩

/-- The buffered bytes of a stream reach its file, or some of them do. -/
def flushStream (name : FileName) (content : List UInt8) : Indexing Unit :=
  if env.fails (.file name .flush) then do
    Proc.transact fun w =>
      .ok ⟨(), onAttempt (·.put name (content.take (env.kept name))) w, .file (.file name .flush)⟩
    Proc.raise .system
  else
    Proc.transact fun w => .ok ⟨(), onAttempt (·.put name content) w, .file (.file name .flush)⟩

/-- A file opened for writing, written, flushed, synced and closed. -/
def writeFile (name : FileName) (content : List UInt8) : Indexing Unit := do
  call env (.file name .open) (onAttempt (·.put name []))
  Proc.tryFinally (do
    call env (.file name .write) id
    flushStream env name content
    call env (.file name .sync) id) (call env (.file name .close) id)

/-- `_write_json`. -/
def writeJson (name : FileName) (value : JsonValue String) : Indexing Sha256 := do
  let text ← Proc.ofExcept (ofIdentity (canonicalJson env.platform value))
  let serialized := text ++ String.utf8EncodeChar '\n'
  writeFile env name serialized
  return env.platform.sha256 serialized

/-- A directory opened, synced and closed. -/
def syncDirectory (opening syncing closing : FileCall) : Indexing Unit := do
  call env opening id
  Proc.tryFinally (call env syncing id) (call env closing id)

/-! ## Records -/

/-- The finding of a timestamp that is there already. -/
def duplicateTimestamp (accumulator : RangeAccumulator) (timestampNs : Int) (sourceKey : String)
    (recordIndex : Nat) : StructuralFinding where
  code := .duplicateTimestamp
  severity := .blockingAnalysis
  sourceKey := some sourceKey
  streamKey := some accumulator.streamId
  recordKind := some accumulator.recordKind
  recordIndex := some recordIndex
  timestampNs := some timestampNs
  detail := "A stream record repeats a canonical timestamp."

/-- The rows of the database of the attempt. -/
def Workspace.seen (w : Workspace) : List SeenTimestamp :=
  (w.attempt.bind Directory.database).getD []

/-- `_observe_timestamp`, of the record of this number. -/
def observeTimestamp (accumulator : RangeAccumulator) (ordinal : Nat) (timestampNs : Int)
    (sourceKey : String) (recordIndex : Nat) : Indexing RangeAccumulator := do
  let observed := accumulator.observe timestampNs
  let row : SeenTimestamp := ⟨accumulator.recordKind, accumulator.streamId, timestampNs⟩
  let w ← Proc.read
  if row ∈ w.seen then do
    call env (.insert accumulator.recordKind ordinal) id
    addFinding (duplicateTimestamp accumulator timestampNs sourceKey recordIndex)
    return observed.repeated
  else do
    call env (.insert accumulator.recordKind ordinal) (onAttempt (·.insert row))
    return observed

/-- The end of an iterator. -/
def exhausted {A : Type} (source : Yield A) : Indexing Unit :=
  Proc.ofExcept (source.collect.map fun _ => ())

/-- The loop over samples of a trajectory. -/
def scanPoses (streamId : StreamId) (kind : RecordKind) (samples : Yield PoseSample) :
    Indexing RangeAccumulator := do
  let accumulator ← Proc.forEach (fun accumulator (sample : PoseSample × Nat) =>
      observeTimestamp env accumulator sample.2 sample.1.time.valueNs.value sample.1.sourceKey
        sample.1.recordIndex)
    { streamId := streamId, recordKind := kind } samples.items.zipIdx
  exhausted samples
  return accumulator

/-- The buffer is flushed before a line is in it. -/
def IndexWriter.overflows (writer : IndexWriter) (sizes : ObjectSizes) (serialized : List UInt8) :
    Bool :=
  let pushed := writer.push serialized
  writer.byteBudget < pushed.retainedBufferBytes sizes && 1 < pushed.buffer.length

/-- `writer.append(entry)`: the flush, where there is one, comes before the last check. -/
def appendEntry (writer : IndexWriter) (ordinal : Nat) (entry : FrameIndexEntry) :
    Indexing IndexWriter := do
  let serialized ← Proc.ofExcept (ofIdentity (entry.serialized env.platform))
  Proc.ofExcept (ofIdentity (Artifacts.require
    ((env.sizes.list [] + env.sizes.bytes serialized : Nat) ≤ writer.byteBudget) budgetMessage))
  Proc.when (writer.overflows env.sizes serialized) (call env (.append ordinal) id)
  let next ← Proc.ofExcept (ofIdentity (writer.append env.platform env.sizes entry))
  remember fun w => { w with writer := some ⟨next, false⟩ }
  return next

/-- The body of the loop over frames. -/
def scanFrame (streamByKey : List (Identifier × StreamId))
    (carried : RangeAccumulator × IndexWriter) (frame : LidarFrameView × Nat) :
    Indexing (RangeAccumulator × IndexWriter) := do
  let timestamp ← Proc.ofExcept (match frame.1.times.sensorTime with
    | some time => .ok time
    | none => .error (.other "indexed lidar frame has no sensor timestamp"))
  let accumulator ← observeTimestamp env carried.1 frame.2 timestamp.valueNs.value
    frame.1.payload.sourceKey.text frame.2
  let streamId ← Proc.ofExcept (streamOf streamByKey "lidar-lidar")
  let entry ← Proc.ofExcept (ofIdentity (frameEntry env.platform streamId frame.2 frame.1))
  let writer ← appendEntry env carried.2 frame.2 entry
  return (accumulator, writer)

/-- The finding of records out of order. -/
def sourceOrderReordered (accumulator : RangeAccumulator) : StructuralFinding where
  code := .sourceOrderReordered
  severity := .info
  streamKey := some accumulator.streamId
  recordKind := some accumulator.recordKind
  detail := "Source order differs from timestamp order; the index retains explicit timestamps " ++
    "for ordered queries."

/-- The findings of the streams out of order. -/
def reportReordered (accumulators : List RangeAccumulator) : Indexing Unit :=
  Proc.forEach (fun _ accumulator =>
    Proc.when (!accumulator.nondecreasing) (addFinding (sourceOrderReordered accumulator)))
    () accumulators

/-- `_scan_ranges_and_frames`, with the writer that the frames leave. -/
def scanRangesAndFrames (adapter : ReadOnlyAdapter) (streamByKey : List (Identifier × StreamId))
    (writer : IndexWriter) : Indexing (List SourceRangeSummary × IndexWriter) := do
  let trajectoryId ← Proc.ofExcept (streamOf streamByKey "trajectory-postprocessed")
  let trajectory ← scanPoses env trajectoryId .trajectorySample adapter.poseSamples
  let lidarId ← Proc.ofExcept (streamOf streamByKey "lidar-lidar")
  let lidarPose ← scanPoses env lidarId .lidarPoseSample adapter.lidarPoseSamples
  let (lidarFrames, written) ← Proc.forEach (scanFrame env streamByKey)
    ({ streamId := lidarId, recordKind := .lidarFrame }, writer) adapter.frames.items.zipIdx
  exhausted adapter.frames
  reportReordered [trajectory, lidarPose, lidarFrames]
  let ranges ← Proc.ofExcept ([trajectory, lidarPose, lidarFrames].mapM RangeAccumulator.finish)
  return (ranges, written)

/-! ## The index -/

/-- `writer.finish()`. -/
def finishWriter (writer : IndexWriter) : Indexing FrameIndex := do
  let index := writer.finish env.platform
  call env (.file .index .write) id
  flushStream env .index index.content
  call env (.file .index .sync) id
  remember fun w => { w with writer := some ⟨writer, true⟩ }
  call env (.file .index .close) id
  return index

/-- The database of timestamps, and the index that is written while it is open. -/
def writeIndexFile (adapter : ReadOnlyAdapter) (budget : IngestionBudget)
    (streamByKey : List (Identifier × StreamId)) :
    Indexing (List SourceRangeSummary × FrameIndex) := do
  call env .connect (onAttempt fun directory => { directory with database := some [] })
  Proc.tryFinally (do
    call env .createTable id
    let writer := IndexWriter.create budget.indexBatchBytes
    call env (.file .index .open) fun w =>
      { onAttempt (·.put .index []) w with writer := some ⟨writer, false⟩ }
    let (ranges, written) ← scanRangesAndFrames env adapter streamByKey writer
    call env .commit id
    let index ← finishWriter env written
    return (ranges, index)) (do
    call env .closeDatabase id
    call env .removeDatabase (onAttempt fun directory => { directory with database := none }))

/-! ## Sources -/

/-- The findings of the enumeration of sources. -/
def sourceCountExceeded : StructuralFinding where
  code := .sourceReadError
  severity := .blockingAnalysis
  sourceKey := some "sequence"
  detail := "The source-file count exceeds the frozen ingestion limit."

def noSources : StructuralFinding where
  code := .missingRequiredSource
  severity := .blockingAnalysis
  sourceKey := some "sequence"
  detail := "The adapter selected no source files."

def duplicateSourceKey (source : AdapterSourceFile) : StructuralFinding where
  code := .duplicateSourceKey
  severity := .blockingAnalysis
  sourceKey := some source.sourceKey
  detail := "The adapter enumerated a source key more than once."

def sourceChanged : StructuralFinding where
  code := .sourceChanged
  severity := .blockingAnalysis
  sourceKey := some "sequence"
  detail := "One or more sources changed during immutable indexing."

def readError : StructuralFinding where
  code := .sourceReadError
  severity := .blockingAnalysis
  sourceKey := some "sequence"
  detail := "The immutable ingestion pass could not read or stage data."

/-- The loop over the sources of the adapter. -/
def enumerateSources (budget : IngestionBudget) (sources : Yield AdapterSourceFile) :
    Indexing (List AdapterSourceFile) :=
  if budget.maximumSourceFiles < sources.items.length then do
    addFinding sourceCountExceeded
    return sources.items.take budget.maximumSourceFiles
  else Proc.ofExcept sources.collect

/-- The checks on what was enumerated. -/
def checkSources (enumerated : List AdapterSourceFile) : Indexing Unit := do
  Proc.when enumerated.isEmpty (addFinding noSources)
  let _ ← Proc.forEach (fun seen (source : AdapterSourceFile) => do
    Proc.when (seen.contains source.sourceKey) (addFinding (duplicateSourceKey source))
    return source.sourceKey :: seen) [] enumerated

/-! ## The pass -/

section Pass

variable (budget : IngestionBudget) (budgetSha256 : Sha256)

/-- `_failure(…)`, of the findings so far. -/
def failure (sources : List AdapterSourceFile) (sourceRanges : List SourceRangeSummary)
    (maximumBatchBytes : Workspace → Nat) : Indexing IngestionQualification := do
  let w ← Proc.read
  return failureOf budget budgetSha256 w.findings.values sources (maximumBatchBytes w) sourceRanges

/-- `0 if writer is None else writer.maximum_buffer_bytes`. -/
def Workspace.maximumBatchBytes (w : Workspace) : Nat :=
  w.writer.elim 0 fun opened => opened.writer.maximumBufferBytes

/-- The model of the summary. -/
def summarize (manifest : SequenceManifest) (manifestSha256 : Sha256) (index : FrameIndex)
    (ranges : List SourceRangeSummary) (findings : List StructuralFinding) :
    Except Raised FrameIndexSummary := do
  let sourceFileCount ← positive manifest.sourceFiles.length
  let sourceByteCount ← positive (manifest.sourceFiles.map fun file => file.byteCount).sum
  let entryCount ← positive index.entryCount
  let retained ← positive index.maximumBufferBytes
  return {
    sequenceId := manifest.sequenceId
    sourceIdentitySha256 := manifest.sourceIdentitySha256
    manifestSha256 := manifestSha256
    indexSha256 := index.digest
    sourceFileCount := sourceFileCount
    sourceByteCount := sourceByteCount
    frameIndexEntryCount := entryCount
    sourceRanges := ranges
    structuralFindings := findings
    budgetId := budget.budgetId
    budgetSha256 := budgetSha256
    indexMemoryBudgetBytes := budget.indexBatchBytes
    maximumRetainedIndexBatchBytes := retained
    hashChunkBytes := budget.hashChunkBytes }

/-- The result of a pass that published. -/
def publishedResult (summary : FrameIndexSummary) (artifacts : ArtifactSha256)
    (index : FrameIndex) : IngestionQualification where
  accepted := true
  published := true
  sequenceId := some summary.sequenceId
  sourceIdentitySha256 := some summary.sourceIdentitySha256
  sourceFileCount := summary.sourceFileCount
  sourceByteCount := summary.sourceByteCount
  frameIndexEntryCount := index.entryCount
  sourceRanges := summary.sourceRanges
  structuralFindings := summary.structuralFindings
  budgetId := budget.budgetId
  budgetSha256 := budgetSha256
  indexMemoryBudgetBytes := budget.indexBatchBytes
  maximumRetainedIndexBatchBytes := index.maximumBufferBytes
  artifactSha256 := some artifacts

/-- The summary, the completion and the replacement of the output. -/
def publish (manifest : SequenceManifest) (manifestSha256 : Sha256) (index : FrameIndex)
    (ranges : List SourceRangeSummary) (findings : List StructuralFinding) :
    Indexing IngestionQualification := do
  let summary ← Proc.ofExcept
    (summarize budget budgetSha256 manifest manifestSha256 index ranges findings)
  let summarySha256 ← writeJson env .summary summary.dump
  let completion : IngestionCompletion := {
    sequenceId := manifest.sequenceId
    sourceIdentitySha256 := manifest.sourceIdentitySha256
    manifest := manifestSha256
    index := index.digest
    summary := summarySha256 }
  let completionSha256 ← writeJson env .completion completion.dump
  syncDirectory env .openAttempt .syncAttempt .closeAttempt
  call env .replace fun w => { w with output := w.attempt, attempt := none }
  syncDirectory env .openParent .syncParent .closeParent
  return publishedResult budget budgetSha256 summary
    ⟨completionSha256, index.digest, manifestSha256, summarySha256⟩ index

/-- The body of the `try` statement. -/
def stage (adapter : ReadOnlyAdapter) (sources : List AdapterSourceFile) :
    Indexing IngestionQualification := do
  let (sourceFiles, sourceIdentity) ← Proc.ofExcept
    (hashSources env.platform adapter.sourceChunks budget.hashChunkBytes sources)
  let (manifest, streamByKey) ← Proc.ofExcept
    (buildManifest env.platform adapter.toManifestAdapter sourceFiles sourceIdentity)
  let text ← Proc.ofExcept (env.canonicalizePortableArtifact manifest)
  let manifestText := text ++ String.utf8EncodeChar '\n'
  writeFile env .manifest manifestText
  let (ranges, index) ← writeIndexFile env adapter budget streamByKey
  let latest ← Proc.ofExcept adapter.latestSourceFiles.collect
  Proc.when (!sameSnapshots latest sources) (addFinding sourceChanged)
  if budget.indexBatchBytes < index.maximumBufferBytes then
    Proc.raise (.other "frame-index writer exceeded its frozen byte budget")
  else
    let w ← Proc.read
    if w.findings.hasBlocking then
      failure budget budgetSha256 sources ranges fun _ => index.maximumBufferBytes
    else
      publish env budget budgetSha256 manifest (env.platform.sha256 manifestText) index ranges
        w.findings.values

/-- The handlers of the `try` statement. -/
def answer (sources : List AdapterSourceFile) :
    Raised → Option (Indexing IngestionQualification)
  | .boreas field sourceKey record => some do
    let finding ← Proc.ofExcept (adapterFailure field sourceKey record)
    addFinding finding
    failure budget budgetSha256 sources [] Workspace.maximumBatchBytes
  | .system => some do
    addFinding readError
    failure budget budgetSha256 sources [] Workspace.maximumBatchBytes
  | _ => none

/-- The `finally` clause. -/
def cleanUp : Indexing Unit := do
  let w ← Proc.read
  Proc.when (w.writer.any fun opened => !opened.closed) (call env .closeWriter id)
  call env .findAttempt id
  let w ← Proc.read
  Proc.when w.attempt.isSome (call env .removeAttempt fun w => { w with attempt := none })

/-- The handler of the enumeration. -/
def answerEnumeration : Raised → Option (Indexing (Option (List AdapterSourceFile)))
  | .boreas field sourceKey record => some do
    let finding ← Proc.ofExcept (adapterFailure field sourceKey record)
    addFinding finding
    return none
  | _ => none

/-- `index_recording`, once its output is known not to exist. -/
def indexFresh (adapter : ReadOnlyAdapter) : Indexing IngestionQualification := do
  call env .makeParents id
  remember fun w =>
    { w with findings := .create budget.maximumStructuralFindings, writer := none }
  let enumerated ← Proc.tryExcept (do
    let sources ← enumerateSources budget adapter.sourceFiles
    return some sources) answerEnumeration
  match enumerated with
  | none => failure budget budgetSha256 [] [] fun _ => 0
  | some enumerated =>
    checkSources enumerated
    let sources := orderedSources enumerated
    let w ← Proc.read
    if w.findings.hasBlocking then
      failure budget budgetSha256 sources [] fun _ => 0
    else
      call env .makeAttempt fun w => { w with attempt := some {} }
      Proc.tryFinally
        (Proc.tryExcept (stage env budget budgetSha256 adapter sources)
          (answer budget budgetSha256 sources))
        (cleanUp env)

/-- `index_recording`. -/
def indexRecording (adapter : ReadOnlyAdapter) : Indexing IngestionQualification := do
  let w ← Proc.read
  if w.output.isSome then Proc.raise (.other "ingestion output must not already exist")
  else indexFresh env budget budgetSha256 adapter

end Pass

end Calls

end CartoSentry.Ingestion
