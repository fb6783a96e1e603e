import CartoSentry.Foundation.DurableProc
import CartoSentry.Runstate.Database
import CartoSentry.Runstate.Published

set_option autoImplicit false

/-!
# Run state: the engine

`RunEngine`, method by method, as processes over the run root: the database, the
attempts in progress, the published tree, the completion pointers and the
exported run artifact.  Every database transaction, file write and rename is one
durable effect, so the process can die between any two of them.

The fsync calls have no counterpart: a durable effect is durable once it has
happened.  `quick_check` passes, because nothing here damages the database file.
-/

namespace CartoSentry.Runstate

open CartoSentry.Foundation

variable {Bytes : Type}

/-! ## The run root -/

structure StageRecord where
  state : StageState
  attemptId : Option AttemptId
  outputHashes : List (String × Sha256)
  deriving DecidableEq, Repr

/-- An artifact named by the run artifact; its source key is the path of a file
below a published directory. -/
structure ArtifactReference where
  sourceKey : PublishedDirectory × RelativePath
  sha256 : Sha256
  byteCount : Nat
  mediaType : String
  deriving DecidableEq, Repr

/-- `run.json`, without its constant identity fields. -/
structure RunArtifact where
  state : StageState
  stages : List (StageId × StageRecord)
  artifacts : List ArtifactReference
  deriving DecidableEq, Repr

/-- Everything durable below a run root. -/
structure RunRoot (Bytes : Type) where
  database : RunDatabase
  attempts : List (AttemptId × AttemptFiles Bytes)
  artifacts : ArtifactTree Bytes
  completions : StageId → Option Bytes
  runArtifact : Option RunArtifact

/-- What each durable effect of the engine is.  `visited` marks the point where
reconciliation turns to a stage, `external` a change made by somebody else. -/
inductive Label (Bytes : Type) where
  | visited (definition : StageDefinition Bytes)
  | invalidated (scope : List StageId) (force : Bool)
  | marked (stageId : StageId) (state : StageState)
  | began (stageId : StageId) (attemptId : AttemptId) (attemptNumber : Nat)
  | completed (manifest : AttemptManifest) (directory : PublishedDirectory)
  | pointerWritten (stageId : StageId)
  | exported
  | attemptChanged (attemptId : AttemptId)
  | cacheRootMade (stageId : StageId) (cacheKey : Sha256)
  | published (stageId : StageId) (cacheKey : Sha256) (attemptId : AttemptId)
  | external

abbrev EngineProc (Bytes α : Type) : Type := Proc (RunRoot Bytes) (Label Bytes) RunError α

/-- An engine opened on a run root. -/
structure RunEngine (Bytes : Type) where
  inputs : RunInputs
  definitions : List (StageDefinition Bytes)

/-- The crash callback and the random part of the attempt names of one process. -/
structure ProcessEnv where
  crashCallback : CommitBoundary → StageId → Signal String
  uuid4 : StageId → String

/-- `crash_callback(boundary, stage_id)`. -/
def ProcessEnv.call (env : ProcessEnv) (boundary : CommitBoundary) (stageId : StageId) :
    EngineProc Bytes Unit :=
  Proc.obey ((env.crashCallback boundary stageId).mapError .interrupted)

structure RunExecutionReport where
  runId : String
  complete : Bool
  forcedScope : List StageId
  actions : List StageActionRecord
  stageStates : List (StageId × StageState)
  semanticSha256 : Option Sha256
  incompleteAttemptCount : Nat
  deriving DecidableEq, Repr

/-! ## Cache keys -/

section CacheKey

variable (platform : Platform Bytes) (database : RunDatabase)

/-- `_upstream_hashes`. -/
def upstreamHashes : List StageId → Except RunError (List (String × Sha256))
  | [] => .ok []
  | upstream :: rest =>
    if (database.stage upstream).state ≠ .complete then .error .upstreamIncomplete
    else
      match upstreamHashes rest with
      | .error e => .error e
      | .ok hashes =>
        .ok ((database.artifactHashes upstream).map
          (fun entry => (upstream ++ ":" ++ entry.1, entry.2)) ++ hashes)

/-- The hashes of the relevant configuration keys. -/
def relevantConfiguration (inputs : RunInputs) (stageId : StageId) :
    List String → Except RunError (List (String × Sha256))
  | [] => .ok []
  | key :: rest =>
    match inputs.configurationHashes.lookup key with
    | none => .error (.missingConfiguration stageId key)
    | some digest =>
      match relevantConfiguration inputs stageId rest with
      | .error e => .error e
      | .ok hashes => .ok ((key, digest) :: hashes)

/-- `build_stage_cache_key`. -/
def buildStageCacheKey (workflowId : String) (stageId : StageId)
    (sourceHashes upstreamArtifactHashes relevantConfigurationHashes : List (String × Sha256))
    (algorithmVersion numericalBackend : String) : Sha256 :=
  platform.canonicalSha256 (.object [
    ("algorithm_version", .string algorithmVersion),
    ("numerical_backend", .string numericalBackend),
    ("relevant_configuration_hashes", .ofMapping relevantConfigurationHashes),
    ("source_hashes", .ofMapping sourceHashes),
    ("stage_id", .string stageId),
    ("upstream_artifact_hashes", .ofMapping upstreamArtifactHashes),
    ("workflow_id", .string workflowId)])

/-- `RunEngine.cache_key`. -/
def cacheKey (inputs : RunInputs) (definition : StageDefinition Bytes) : Except RunError Sha256 :=
  match relevantConfiguration inputs definition.stageId definition.relevantConfigurationKeys with
  | .error e => .error e
  | .ok relevant =>
    match upstreamHashes database definition.dependencies with
    | .error e => .error e
    | .ok upstream =>
      .ok (buildStageCacheKey platform inputs.workflowId definition.stageId inputs.sourceHashes
        upstream relevant definition.algorithmVersion inputs.numericalBackend)

end CacheKey

/-! ## The exported run artifact -/

/-- The state of the whole run. -/
def runState (states : List StageState) : StageState :=
  if states ≠ [] ∧ states.all (fun s => s = .complete || s = .skippedNotApplicable) then .complete
  else if states.any (· = .failedFinal) then .failedFinal
  else if states.any (· = .running) then .running
  else if states.any (· = .failedRetryable) then .failedRetryable
  else if states.any (· = .invalidated) then .invalidated
  else .pending

def stageRecord (database : RunDatabase) (stageId : StageId) : StageRecord where
  state := (database.stage stageId).state
  attemptId := (database.stage stageId).attemptId
  outputHashes := database.artifactHashes stageId

def artifactReference (row : ArtifactRow) : ArtifactReference where
  sourceKey := (row.directory, row.relativePath)
  sha256 := row.sha256
  byteCount := row.byteCount
  mediaType := row.mediaType

/-- What the model of the run artifact and the portability check ask of it. -/
def isPortableRun (run : RunArtifact) : Bool :=
  run.stages.all (fun entry =>
      isIdentifier entry.1 && !isForbiddenPortableKey entry.1
        && entry.2.outputHashes.all (fun output =>
          isIdentifier output.1 && !isForbiddenPortableKey output.1))
    && run.artifacts.all (fun reference => !pathLeak reference.mediaType)

/-- The run artifact of a database, as `export_run_artifact` composes it. -/
def runArtifactOf (database : RunDatabase) : RunArtifact where
  state := runState (database.stageStates.map Prod.snd)
  stages := database.stageIds.map (fun stageId => (stageId, stageRecord database stageId))
  artifacts := database.artifactRows.map (fun entry => artifactReference entry.2)

def exportRunArtifact : EngineProc Bytes Unit :=
  Proc.transact fun root =>
    let run := runArtifactOf root.database
    if isPortableRun run then .ok ⟨(), { root with runArtifact := some run }, .exported⟩
    else .error (.contractViolated "run artifact is not portable")

/-! ## Database effects -/

def beginAttempt (stageId : StageId) (cacheKey : Sha256) (uuid : String) :
    EngineProc Bytes (AttemptId × Nat) :=
  Proc.transact fun root =>
    match root.database.beginAttempt stageId cacheKey uuid with
    | .error e => .error e
    | .ok (attemptId, attemptNumber, database) =>
      .ok ⟨(attemptId, attemptNumber), { root with database := database },
        .began stageId attemptId attemptNumber⟩

def recordComplete (manifest : AttemptManifest) (manifestSha256 : Sha256)
    (directory : PublishedDirectory) : EngineProc Bytes Unit :=
  Proc.transact fun root =>
    match root.database.recordComplete manifest manifestSha256 directory with
    | .error e => .error e
    | .ok database =>
      .ok ⟨(), { root with database := database }, .completed manifest directory⟩

def markState (stageId : StageId) (state : StageState) (errorCode : Option String) :
    EngineProc Bytes Unit :=
  Proc.transact fun root =>
    match root.database.markState stageId state errorCode with
    | .error e => .error e
    | .ok database => .ok ⟨(), { root with database := database }, .marked stageId state⟩

def invalidate (scope : List StageId) (force : Bool) : EngineProc Bytes Unit :=
  Proc.transact fun root =>
    match root.database.invalidate force scope with
    | .error e => .error e
    | .ok database => .ok ⟨(), { root with database := database }, .invalidated scope force⟩

namespace RunEngine

variable (platform : Platform Bytes) (engine : RunEngine Bytes)

/-! ## Reconciliation -/

/-- `dependency_closure`. -/
def dependencyClosure (stageId : StageId) : Except RunError (List StageId) :=
  if stageId ∈ (topologyOf engine.definitions).nodes then
    .ok (closure (topologyOf engine.definitions) stageId)
  else .error (.unknownStage stageId)

def completionPointer (attempt : PublishedAttempt) : CompletionPointer where
  workflowId := engine.inputs.workflowId
  stageId := attempt.manifest.stageId
  cacheKey := attempt.manifest.cacheKey
  attemptId := attempt.manifest.attemptId
  attemptNumber := attempt.manifest.attemptNumber
  artifactDirectory := attempt.directory
  attemptManifestSha256 := attempt.manifestSha256

/-- The pointer file already names the attempt. -/
def pointerCurrent (attempt : PublishedAttempt) (content : Option Bytes) : Bool :=
  match content with
  | none => false
  | some bytes =>
    platform.byteCount bytes ≤ maxControlFileBytes
      && platform.pointers.parse bytes == some (engine.completionPointer attempt)

/-- `_publish_pointer`; returns whether the pointer was written. -/
def publishPointer (attempt : PublishedAttempt) : EngineProc Bytes Bool := do
  let root ← Proc.read
  if engine.pointerCurrent platform attempt (root.completions attempt.manifest.stageId) then
    return false
  else
    Proc.transact fun root =>
      .ok ⟨true,
        { root with
          completions := Function.update root.completions attempt.manifest.stageId
            (some (platform.pointers.encode (engine.completionPointer attempt))) },
        .pointerWritten attempt.manifest.stageId⟩

/-- An upstream stage of the definition is not complete. -/
def upstreamIncomplete (database : RunDatabase) (definition : StageDefinition Bytes) : Bool :=
  definition.dependencies.any (fun upstream => (database.stage upstream).state ≠ .complete)

/-- The rest of a visit once the expected cache key is known. -/
def reconcilePublished (definition : StageDefinition Bytes) (expectedCache : Sha256) :
    EngineProc Bytes (List StageActionRecord) := do
  let root ← Proc.read
  let row ← Proc.ofExcept (root.database.stageRow definition.stageId)
  match selectPublished platform engine.inputs.workflowId definition expectedCache
      root.artifacts with
  | .error _ => do
    markState definition.stageId .failedFinal (some "ARTIFACT_INTEGRITY")
    return [⟨definition.stageId, .failedFinal,
      "Published immutable artifacts failed hash validation."⟩]
  | .ok published =>
    match published.filter
        (fun attempt => row.requiredAttemptNumber ≤ attempt.manifest.attemptNumber) with
    | some attempt => do
      let repaired ← engine.publishPointer platform attempt
      recordComplete attempt.manifest attempt.manifestSha256 attempt.directory
      if repaired then
        return [⟨definition.stageId, .repairedPointer,
          "Rebuilt the completion pointer from verified hashes."⟩]
      else if ¬ (row.state = .complete ∧ row.attemptId = some attempt.manifest.attemptId) then
        return [⟨definition.stageId, .adoptedPublished,
          "Adopted a verified filesystem publish into SQLite."⟩]
      else return []
    | none =>
      if row.state = .complete then do
        markState definition.stageId .failedFinal (some "PUBLISHED_ARTIFACT_MISSING")
        return [⟨definition.stageId, .failedFinal,
          "SQLite recorded completion but verified artifacts are missing."⟩]
      else if row.state = .running then do
        markState definition.stageId .failedRetryable (some "INTERRUPTED_ATTEMPT")
        return [⟨definition.stageId, .interruptedRetry,
          "A running attempt ended before immutable publication."⟩]
      else return []

/-- The body of the loop of `reconcile`: the actions taken and the stages invalidated. -/
def reconcileStage (definition : StageDefinition Bytes) :
    EngineProc Bytes (List StageActionRecord × List StageId) := do
  Proc.note (.visited definition)
  let root ← Proc.read
  let row ← Proc.ofExcept (root.database.stageRow definition.stageId)
  if upstreamIncomplete root.database definition then
    if row.state = .complete then do
      let scope ← Proc.ofExcept (engine.dependencyClosure definition.stageId)
      invalidate scope false
      return ([], scope)
    else return ([], [])
  else do
    let expectedCache ← Proc.ofExcept (cacheKey platform root.database engine.inputs definition)
    if row.state = .complete ∧ row.cacheKey ≠ some expectedCache then do
      let scope ← Proc.ofExcept (engine.dependencyClosure definition.stageId)
      invalidate scope false
      let actions ← engine.reconcilePublished platform definition expectedCache
      return (⟨definition.stageId, .invalidatedCache,
        "Semantic cache inputs changed for this dependency closure."⟩ :: actions, scope)
    else do
      let actions ← engine.reconcilePublished platform definition expectedCache
      return (actions, [])

def reconcileStages : List (StageDefinition Bytes) →
    EngineProc Bytes (List StageActionRecord × List StageId)
  | [] => return ([], [])
  | definition :: rest => do
    let (actions, invalidated) ← engine.reconcileStage platform definition
    let (laterActions, laterInvalidated) ← reconcileStages rest
    return (actions ++ laterActions, invalidated ++ laterInvalidated)

/-- The actions of stages that were only invalidated, one for each. -/
def invalidatedActions (actions : List StageActionRecord) (invalidated : List StageId) :
    List StageActionRecord :=
  (invalidated.dedup.filter (fun stageId => !actions.any (fun item => item.stageId == stageId))).map
    (fun stageId => ⟨stageId, .invalidatedCache, "An upstream semantic cache input changed."⟩)

def reconcile : EngineProc Bytes (List StageActionRecord) := do
  let (actions, invalidated) ← engine.reconcileStages platform engine.definitions
  return actions ++ invalidatedActions actions invalidated

/-! ## Execution -/

/-- The executor's payloads, after the checks on the set of them. -/
def executeValidated (definition : StageDefinition Bytes) (context : StageExecutionContext) :
    Except RunError (List (ArtifactPayload Bytes)) :=
  match definition.execute context with
  | .error message => .error (.stageFailed message)
  | .ok payloads =>
    if (payloads.map ArtifactPayload.artifactKey).insertionSort (· ≤ ·) ≠
        sortedOutputKeys definition then
      .error (.contractViolated "stage output keys do not match their definition")
    else if ¬ (payloads.map ArtifactPayload.relativePath).Nodup then
      .error (.contractViolated "stage output paths must be unique")
    else
      match definition.validateOutputs context payloads with
      | .error message => .error (.stageFailed message)
      | .ok () => .ok payloads

/-- `sorted(payloads, key=lambda item: item.artifact_key)`. -/
def sortedPayloads (payloads : List (ArtifactPayload Bytes)) : List (ArtifactPayload Bytes) :=
  payloads.insertionSort (fun left right => left.artifactKey ≤ right.artifactKey)

/-- The checks on one payload before it is written. -/
def checkPayload (payload : ArtifactPayload Bytes) : Except RunError Unit :=
  if ¬ validateRelativePath payload.relativePath then
    .error (.contractViolated "artifact path must be a normalized portable relative path")
  else if payload.artifactKey = "" ∨ payload.mediaType = "" then
    .error (.contractViolated "artifact identity and media type are required")
  else .ok ()

/-- The manifest entry of a written payload. -/
def manifestEntry (payload : ArtifactPayload Bytes) : Except RunError ArtifactManifestEntry :=
  if h : isIdentifier payload.artifactKey = true ∧
      validateRelativePath payload.relativePath = true ∧ payload.mediaType ≠ "" then
    .ok {
      artifactKey := payload.artifactKey, relativePath := payload.relativePath,
      sha256 := platform.sha256 payload.content, byteCount := platform.byteCount payload.content,
      mediaType := payload.mediaType, artifactKey_identifier := h.1, relativePath_valid := h.2.1,
      mediaType_ne := h.2.2 }
  else .error (.contractViolated "artifact manifest entry is invalid")

/-- A file can be created at the path: nothing is there, no file lies on the way
and the path is not a directory. -/
def canCreate (files : AttemptFiles Bytes) (path : RelativePath) : Bool :=
  files.all (fun file => !file.1.isPrefixOf path && !path.isPrefixOf file.1)

def setAttempt (attempts : List (AttemptId × AttemptFiles Bytes)) (attemptId : AttemptId)
    (files : AttemptFiles Bytes) : List (AttemptId × AttemptFiles Bytes) :=
  (attemptId, files) :: attempts.filter (fun entry => entry.1 ≠ attemptId)

/-- `attempt_directory.mkdir()`. -/
def makeAttemptDirectory (attemptId : AttemptId) : EngineProc Bytes Unit :=
  Proc.transact fun root =>
    if (root.attempts.lookup attemptId).isSome then .error .fileSystem
    else .ok ⟨(), { root with attempts := setAttempt root.attempts attemptId [] },
      .attemptChanged attemptId⟩

/-- `_write_bytes`, within an attempt directory. -/
def writeAttemptFile (attemptId : AttemptId) (path : RelativePath) (content : Bytes) :
    EngineProc Bytes Unit :=
  Proc.transact fun root =>
    match root.attempts.lookup attemptId with
    | none => .error .fileSystem
    | some files =>
      if ¬ canCreate files path then .error .fileSystem
      else .ok ⟨(),
        { root with attempts := setAttempt root.attempts attemptId (files ++ [(path, content)]) },
        .attemptChanged attemptId⟩

/-- The loop that writes the payloads and collects their manifest entries. -/
def writeOutputs (attemptId : AttemptId) :
    List (ArtifactPayload Bytes) → EngineProc Bytes (List ArtifactManifestEntry)
  | [] => return []
  | payload :: rest => do
    Proc.ofExcept (checkPayload payload)
    writeAttemptFile attemptId payload.relativePath payload.content
    let entry ← Proc.ofExcept (manifestEntry platform payload)
    let entries ← writeOutputs attemptId rest
    return entry :: entries

/-- The manifest of an attempt, with the checks of its model. -/
def attemptManifest (stageId : StageId) (attemptId : AttemptId) (attemptNumber : Nat)
    (cacheKey : Sha256) (artifacts : List ArtifactManifestEntry) :
    Except RunError AttemptManifest :=
  if h : 0 < attemptNumber ∧ artifacts ≠ [] ∧
      (artifacts.map ArtifactManifestEntry.artifactKey).Nodup ∧
      (artifacts.map ArtifactManifestEntry.relativePath).Nodup then
    if isIdentifier stageId then
      .ok {
        workflowId := engine.inputs.workflowId, stageId := stageId, attemptId := attemptId,
        attemptNumber := attemptNumber, cacheKey := cacheKey, artifacts := artifacts,
        attemptNumber_pos := h.1, artifacts_ne := h.2.1, keys_nodup := h.2.2.1,
        paths_nodup := h.2.2.2 }
    else .error (.contractViolated "stage identifier is invalid")
  else .error (.contractViolated "attempt artifact keys and paths must be unique")

/-- `cache_root.mkdir(parents=True, exist_ok=True)`. -/
def makeCacheRoot (stageId : StageId) (cacheKey : Sha256) : EngineProc Bytes Unit :=
  Proc.transact fun root =>
    match root.artifacts stageId cacheKey with
    | .missing => .ok ⟨(),
        { root with artifacts := root.artifacts.set stageId cacheKey (.directory []) },
        .cacheRootMade stageId cacheKey⟩
    | .notDirectory => .error .fileSystem
    | .directory _ => .ok ⟨(), root, .cacheRootMade stageId cacheKey⟩

/-- `os.replace(attempt_directory, cache_root / attempt_id)`. -/
def publishDirectory (stageId : StageId) (cacheKey : Sha256) (attemptId : AttemptId) :
    EngineProc Bytes Unit :=
  Proc.transact fun root =>
    match root.attempts.lookup attemptId, root.artifacts stageId cacheKey with
    | some files, .directory entries =>
      if (entries.lookup attemptId).isSome then .error .fileSystem
      else .ok ⟨(),
        { root with
          attempts := root.attempts.filter (fun entry => entry.1 ≠ attemptId),
          artifacts := root.artifacts.set stageId cacheKey
            (.directory (entries ++ [(attemptId, .directory files)])) },
        .published stageId cacheKey attemptId⟩
    | _, _ => .error .fileSystem

/-- `_verify_attempt_directory` on the directory just published. -/
def verifyPublished (directory : PublishedDirectory) (tree : ArtifactTree Bytes) :
    Except RunError PublishedAttempt :=
  match tree directory.stageId directory.cacheKey with
  | .directory entries =>
    match entries.lookup directory.name with
    | some (.directory files) => verifyAttemptDirectory platform directory files
    | _ => .error (.artifactIntegrity "attempt manifest is invalid")
  | _ => .error (.artifactIntegrity "attempt manifest is invalid")

/-- The body of the `try` of `_execute_stage`. -/
def publishAttempt (env : ProcessEnv) (definition : StageDefinition Bytes) (cacheKey : Sha256)
    (attemptId : AttemptId) (attemptNumber : Nat) : EngineProc Bytes Unit := do
  let root ← Proc.read
  let upstream ← Proc.ofExcept (upstreamHashes root.database definition.dependencies)
  let payloads ← Proc.ofExcept (executeValidated definition
    ⟨engine.inputs, definition.stageId, cacheKey, upstream⟩)
  let entries ← writeOutputs platform attemptId (sortedPayloads payloads)
  env.call .afterOutputsFsynced definition.stageId
  let manifest ← Proc.ofExcept
    (engine.attemptManifest definition.stageId attemptId attemptNumber cacheKey entries)
  writeAttemptFile attemptId attemptManifestFile (platform.manifests.encode manifest)
  env.call .afterManifestFsynced definition.stageId
  makeCacheRoot definition.stageId cacheKey
  publishDirectory definition.stageId cacheKey attemptId
  env.call .afterArtifactPublished definition.stageId
  let root ← Proc.read
  let published ← Proc.ofExcept
    (verifyPublished platform ⟨definition.stageId, cacheKey, attemptId⟩ root.artifacts)
  let _ ← engine.publishPointer platform published
  env.call .afterPointerPublished definition.stageId
  recordComplete manifest published.manifestSha256 ⟨definition.stageId, cacheKey, attemptId⟩
  exportRunArtifact
  env.call .afterDbCommitted definition.stageId

/-- The handler of `_execute_stage`. -/
def failAttempt (definition : StageDefinition Bytes) : EngineProc Bytes Unit := do
  let root ← Proc.read
  let row ← Proc.ofExcept (root.database.stageRow definition.stageId)
  if row.state = .running then do
    markState definition.stageId .failedRetryable (some "STAGE_EXECUTION_FAILED")
    exportRunArtifact
  else return ()

/-- `_execute_stage`. -/
def executeStage (env : ProcessEnv) (definition : StageDefinition Bytes) :
    EngineProc Bytes Unit := do
  let root ← Proc.read
  let key ← Proc.ofExcept (cacheKey platform root.database engine.inputs definition)
  let (attemptId, attemptNumber) ←
    beginAttempt definition.stageId key (env.uuid4 definition.stageId)
  exportRunArtifact
  env.call .afterDbRunning definition.stageId
  makeAttemptDirectory attemptId
  Proc.onRaise (engine.publishAttempt platform env definition key attemptId attemptNumber)
    (failAttempt definition)

/-- The loop of `run` over the definitions. -/
def executeStages (env : ProcessEnv) (forcedScope : List StageId) :
    List (StageDefinition Bytes) → EngineProc Bytes (List StageActionRecord)
  | [] => return []
  | definition :: rest => do
    let root ← Proc.read
    let row ← Proc.ofExcept (root.database.stageRow definition.stageId)
    if row.state = .complete ∧ definition.stageId ∉ forcedScope then do
      let later ← executeStages env forcedScope rest
      return ⟨definition.stageId, .skippedComplete,
        "Verified complete artifacts matched the semantic cache key."⟩ :: later
    else if row.state = .failedFinal then
      return [⟨definition.stageId, .failedFinal,
        "A final artifact-integrity failure requires intervention."⟩]
    else if upstreamIncomplete root.database definition then do
      let later ← executeStages env forcedScope rest
      return ⟨definition.stageId, .blocked, "An upstream stage is not complete."⟩ :: later
    else do
      engine.executeStage platform env definition
      let later ← executeStages env forcedScope rest
      return ⟨definition.stageId, .executed,
        "Published and committed a new immutable stage attempt."⟩ :: later

/-! ## Whole runs -/

/-- `make_run_id`. -/
def runId : String :=
  "run-sha256-" ++ platform.canonicalSha256 (.object [
    ("configuration_hashes", .ofMapping engine.inputs.configurationHashes),
    ("engine_version", .string engine.inputs.engineVersion),
    ("profile_id", .string engine.inputs.profileId),
    ("road_graph_id", .string engine.inputs.roadGraphId),
    ("sequence_id", .string engine.inputs.sequenceId)])

/-- The document hashed by `semantic_sha256`. -/
def semanticDocument (database : RunDatabase) : JsonValue :=
  .object (database.stageIds.map
    (fun stageId => (stageId, .ofMapping (database.artifactHashes stageId))))

/-- `semantic_sha256`. -/
def semanticSha256 (database : RunDatabase) : Option Sha256 :=
  if database.stageStates.any (fun entry => entry.2 ≠ .complete) then none
  else some (platform.canonicalSha256 (semanticDocument database))

/-- `_report`. -/
def report (root : RunRoot Bytes) (actions : List StageActionRecord)
    (forcedScope : List StageId) : RunExecutionReport where
  runId := engine.runId platform
  complete := root.database.stageStates.all (fun entry => entry.2 = .complete)
  forcedScope := forcedScope
  actions := actions
  stageStates := root.database.stageStates
  semanticSha256 := semanticSha256 platform root.database
  incompleteAttemptCount := root.attempts.length

/-- The forced scope of a run. -/
def forcedScopeOf : Option StageId → Except RunError (List StageId)
  | none => .ok []
  | some stageId => engine.dependencyClosure stageId

/-- The forced invalidation of `run`. -/
def forceInvalidate (forceStage : Option StageId) (forcedScope : List StageId) :
    EngineProc Bytes (List StageActionRecord) :=
  match forceStage with
  | none => return []
  | some _ => do
    invalidate forcedScope true
    return forcedScope.map (fun stageId => ⟨stageId, .forceInvalidated,
      "The selected force-stage dependency closure was invalidated."⟩)

/-- Everything `run` does after reconciliation. -/
def runReconciled (env : ProcessEnv) (forceStage : Option StageId) (forcedScope : List StageId)
    (actions : List StageActionRecord) : EngineProc Bytes RunExecutionReport := do
  let forced ← forceInvalidate forceStage forcedScope
  let executed ← engine.executeStages platform env forcedScope engine.definitions
  exportRunArtifact
  let root ← Proc.read
  return engine.report platform root (actions ++ forced ++ executed) forcedScope

/-- `RunEngine.run`. -/
def run (env : ProcessEnv) (forceStage : Option StageId) (dryRun : Bool) :
    EngineProc Bytes RunExecutionReport := do
  let forcedScope ← Proc.ofExcept (engine.forcedScopeOf forceStage)
  if dryRun then
    if forceStage.isSome then do
      let root ← Proc.read
      return engine.report platform root [] forcedScope
    else Proc.raise .dryRunRequiresForce
  else do
    let actions ← engine.reconcile platform
    engine.runReconciled platform env forceStage forcedScope actions

end RunEngine

/-! ## Process lifetimes -/

/-- One process on a run root: it opens the root with its definitions, calls
`run` once and survives `lifespan` durable effects. -/
structure Lifetime (Bytes : Type) where
  definitions : List (StageDefinition Bytes)
  forceStage : Option StageId
  dryRun : Bool
  env : ProcessEnv
  lifespan : Option Nat

/-- The root of a new run, once its database is initialised. -/
def RunRoot.create (inputs : RunInputs) (definitions : List (StageDefinition Bytes)) :
    RunRoot Bytes where
  database := .created inputs definitions
  attempts := []
  artifacts := fun _ _ => .missing
  completions := fun _ => none
  runArtifact := none

/-- `RunEngine.open`: the definitions are valid and the database is this run's.
The run inputs are those of the root and never change. -/
def openEngine (definitions : List (StageDefinition Bytes)) :
    EngineProc Bytes (RunEngine Bytes) := do
  Proc.ofExcept (validateStageDefinitions definitions)
  let root ← Proc.read
  Proc.ofExcept (root.database.checkIdentity root.database.inputs definitions)
  return ⟨root.database.inputs, definitions⟩

/-- What the process of a lifetime does. -/
def Lifetime.process (platform : Platform Bytes) (life : Lifetime Bytes) :
    EngineProc Bytes RunExecutionReport := do
  let engine ← openEngine life.definitions
  engine.run platform life.env life.forceStage life.dryRun

end CartoSentry.Runstate
