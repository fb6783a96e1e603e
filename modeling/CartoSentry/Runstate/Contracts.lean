import Mathlib.Data.List.Basic
import Mathlib.Data.List.Nodup
import Mathlib.Data.List.Sort
import Mathlib.Data.String.Basic

set_option autoImplicit false

/-!
# Run state: contracts and stage definitions

The values that cross the engine's persistence boundary, with the checks their
models make.  A value whose model has a validator carries the validator's
conclusion as a field, so an invalid manifest or entry cannot be built.

File contents stay abstract: `Bytes` is any type of contents, and a `Platform`
supplies the length, the hashes and the bounded JSON codecs the engine applies
to them.
-/

namespace CartoSentry.Runstate

abbrev StageId : Type := String
abbrev Sha256 : Type := String

/-- A relative path text, split at its slashes. -/
abbrev RelativePath : Type := List String

inductive StageState where
  | pending
  | running
  | complete
  | failedRetryable
  | failedFinal
  | invalidated
  | skippedNotApplicable
  deriving DecidableEq, Repr

def StageState.value : StageState → String
  | .pending => "PENDING"
  | .running => "RUNNING"
  | .complete => "COMPLETE"
  | .failedRetryable => "FAILED_RETRYABLE"
  | .failedFinal => "FAILED_FINAL"
  | .invalidated => "INVALIDATED"
  | .skippedNotApplicable => "SKIPPED_NOT_APPLICABLE"

inductive CommitBoundary where
  | afterDbRunning
  | afterOutputsFsynced
  | afterManifestFsynced
  | afterArtifactPublished
  | afterPointerPublished
  | afterDbCommitted
  deriving DecidableEq, Repr

inductive StageAction where
  | adoptedPublished
  | blocked
  | executed
  | failedFinal
  | forceInvalidated
  | interruptedRetry
  | invalidatedCache
  | repairedPointer
  | skippedComplete
  deriving DecidableEq, Repr

structure StageActionRecord where
  stageId : StageId
  action : StageAction
  detail : String
  deriving DecidableEq, Repr

/-! ## Errors -/

/-- What engine code raises.  `stageFailed` is whatever an executor or output
validator raises, `interrupted` whatever the crash callback raises. -/
inductive RunError where
  | invalidDefinitions (message : String)
  | runIdentityMismatch
  | unknownStage (stageId : StageId)
  | cannotBegin (stageId : StageId) (state : StageState)
  | dependencyIncomplete
  | cannotReconcile (stageId : StageId) (state : StageState)
  | invalidTransition (current next : StageState)
  | constraintViolated
  | upstreamIncomplete
  | missingConfiguration (stageId : StageId) (key : String)
  | artifactIntegrity (message : String)
  | contractViolated (message : String)
  | fileSystem
  | stageFailed (message : String)
  | interrupted (message : String)
  | dryRunRequiresForce
  deriving DecidableEq, Repr

def RunError.message : RunError → String
  | .invalidDefinitions message => message
  | .runIdentityMismatch => "run database identity or stage topology does not match this run"
  | .unknownStage stageId => "unknown stage: " ++ stageId
  | .cannotBegin stageId state => "stage " ++ stageId ++ " cannot begin from state " ++ state.value
  | .dependencyIncomplete => "stage cannot begin before every dependency completes"
  | .cannotReconcile stageId state =>
      "stage " ++ stageId ++ " cannot reconcile completion from state " ++ state.value
  | .invalidTransition current next =>
      "invalid stage transition: " ++ current.value ++ " -> " ++ next.value
  | .constraintViolated => "UNIQUE constraint failed"
  | .upstreamIncomplete => "upstream stage is incomplete"
  | .missingConfiguration stageId key =>
      "stage " ++ stageId ++ " requires configuration hash " ++ key
  | .artifactIntegrity message => message
  | .contractViolated message => message
  | .fileSystem => "OSError"
  | .stageFailed message => message
  | .interrupted message => message
  | .dryRunRequiresForce => "dry-run requires force-stage"

/-! ## Text checks -/

/-- `Identifier`: `^[A-Za-z0-9][A-Za-z0-9_.:-]*$`. -/
def isIdentifier (value : String) : Bool :=
  match value.toList with
  | [] => false
  | first :: rest =>
    first.isAlphanum &&
      rest.all (fun c => c.isAlphanum || c = '_' || c = '.' || c = ':' || c = '-')

def forbiddenPortableKeys : List String :=
  ["absolute_path", "host_name", "hostname", "local_context", "local_path", "machine_id",
    "source_root", "source_roots"]

/-- `key_text.lower() in _FORBIDDEN_PORTABLE_KEYS`. -/
def isForbiddenPortableKey (key : String) : Bool :=
  forbiddenPortableKeys.any (fun name => name.toList == key.toList.map Char.toLower)

/-- `_WINDOWS_ABSOLUTE`: `^[A-Za-z]:[\\/]`. -/
def isWindowsAbsolute : List Char → Bool
  | drive :: ':' :: separator :: _ => drive.isAlpha && (separator = '\\' || separator = '/')
  | _ => false

/-- `_path_leak`. -/
def pathLeak (value : String) : Bool :=
  let normalized := value.toList.map (fun c => if c = '\\' then '/' else c)
  ["/", "~/", "//", "file://"].any (fun start => start.toList.isPrefixOf normalized)
    || isWindowsAbsolute value.toList
    || (normalized.splitOn '/').any (· == ['.', '.'])

/-- `_validate_relative_path`, on the parts of the path: the path is its own
normal form, has no backslash and leaks no local root. -/
def validateRelativePath (path : RelativePath) : Bool :=
  !path.isEmpty
    && path.all (fun part => part != "" && part != "." && part != ".."
        && part.toList.all (fun c => c != '\\' && c != '/'))
    && (path.length == 1
        || (path.head? != some "~"
            && (path.head?.all (fun part =>
                !isWindowsAbsolute (part.toList ++ ['/'])))))

/-! ## JSON documents that are hashed -/

/-- The part of JSON that hashed documents use. -/
inductive JsonValue where
  | string (value : String)
  | array (items : List JsonValue)
  | object (entries : List (String × JsonValue))

/-- `dict(sorted(mapping.items()))` for a mapping of texts. -/
def sortedMapping (entries : List (String × String)) : List (String × String) :=
  entries.insertionSort (fun left right => left.1 ≤ right.1)

def JsonValue.ofMapping (entries : List (String × String)) : JsonValue :=
  .object ((sortedMapping entries).map (fun entry => (entry.1, .string entry.2)))

/-! ## Run inputs -/

structure RunInputs where
  workflowId : String
  sequenceId : String
  roadGraphId : String
  profileId : String
  engineVersion : String
  sourceHashes : List (String × Sha256)
  configurationHashes : List (String × Sha256)
  numericalBackend : String
  deriving DecidableEq, Repr

/-! ## Attempts and their manifests -/

/-- The name of an attempt.  `issued` is the text
`attempt-{stage_id}-{attempt_number:08d}-{uuid}`, from which its three parts can
be read back; `foreign` is any other text. -/
inductive AttemptId where
  | issued (stageId : StageId) (attemptNumber : Nat) (uuid : String)
  | foreign (text : String)
  deriving DecidableEq, Repr

/-- `{number:08d}`. -/
def zeroPadded (number : Nat) : String :=
  let digits := number.repr
  String.ofList (List.replicate (8 - digits.length) '0') ++ digits

def AttemptId.text : AttemptId → String
  | .issued stageId attemptNumber uuid =>
      "attempt-" ++ stageId ++ "-" ++ zeroPadded attemptNumber ++ "-" ++ uuid
  | .foreign text => text

/-- A directory `artifacts/{stage_id}/{cache_key}/{name}` below the run root. -/
structure PublishedDirectory where
  stageId : StageId
  cacheKey : Sha256
  name : AttemptId
  deriving DecidableEq, Repr

/-- One artifact of an attempt, as its manifest records it. -/
structure ArtifactManifestEntry where
  artifactKey : String
  relativePath : RelativePath
  sha256 : Sha256
  byteCount : Nat
  mediaType : String
  artifactKey_identifier : isIdentifier artifactKey = true
  relativePath_valid : validateRelativePath relativePath = true
  mediaType_ne : mediaType ≠ ""
  deriving DecidableEq

/-- A manifest is valid when its attempt number is positive and its artifacts are
present and have distinct keys and paths. -/
structure AttemptManifest where
  workflowId : String
  stageId : StageId
  attemptId : AttemptId
  attemptNumber : Nat
  cacheKey : Sha256
  artifacts : List ArtifactManifestEntry
  attemptNumber_pos : 0 < attemptNumber
  artifacts_ne : artifacts ≠ []
  keys_nodup : (artifacts.map ArtifactManifestEntry.artifactKey).Nodup
  paths_nodup : (artifacts.map ArtifactManifestEntry.relativePath).Nodup
  deriving DecidableEq

structure CompletionPointer where
  workflowId : String
  stageId : StageId
  cacheKey : Sha256
  attemptId : AttemptId
  attemptNumber : Nat
  artifactDirectory : PublishedDirectory
  attemptManifestSha256 : Sha256
  deriving DecidableEq, Repr

/-! ## What the engine takes from outside -/

def maxControlFileBytes : Nat := 1024 * 1024

/-- Serialisation and bounded parsing of one model.  Documents within the size
limit of a control file are read back unchanged. -/
structure BoundedCodec (Bytes : Type) (byteCount : Bytes → Nat) (α : Type) where
  encode : α → Bytes
  parse : Bytes → Option α
  parse_encode : ∀ value, byteCount (encode value) ≤ maxControlFileBytes →
    parse (encode value) = some value

/-- Contents, hashes and codecs. -/
structure Platform (Bytes : Type) where
  byteCount : Bytes → Nat
  sha256 : Bytes → Sha256
  canonicalSha256 : JsonValue → Sha256
  manifests : BoundedCodec Bytes byteCount AttemptManifest
  pointers : BoundedCodec Bytes byteCount CompletionPointer

/-! ## Stage definitions -/

structure ArtifactPayload (Bytes : Type) where
  artifactKey : String
  relativePath : RelativePath
  content : Bytes
  mediaType : String
  deriving DecidableEq

structure StageExecutionContext where
  inputs : RunInputs
  stageId : StageId
  cacheKey : Sha256
  upstreamArtifactHashes : List (String × Sha256)
  deriving DecidableEq, Repr

structure StageDefinition (Bytes : Type) where
  stageId : StageId
  dependencies : List StageId
  algorithmVersion : String
  relevantConfigurationKeys : List String
  outputKeys : List String
  execute : StageExecutionContext → Except String (List (ArtifactPayload Bytes))
  validateOutputs : StageExecutionContext → List (ArtifactPayload Bytes) → Except String Unit

variable {Bytes : Type}

def isStageIdCharacter (c : Char) : Bool :=
  c.isLower || c.isDigit || c = '-' || c = '_' || c = '.'

def isVersionCharacter (c : Char) : Bool :=
  c.isAlphanum || c = '-' || c = '_' || c = '.'

/-- The body of the loop of `validate_stage_definitions`. -/
def validateStageDefinition (seen : List StageId) (item : StageDefinition Bytes) :
    Except RunError Unit :=
  if item.stageId = "" ∨ item.stageId ∈ seen then
    .error (.invalidDefinitions "stage identifiers must be nonempty and unique")
  else if item.stageId.toList.any (fun c => !isStageIdCharacter c) then
    .error (.invalidDefinitions "stage identifier is not portable")
  else if item.algorithmVersion = "" ∨
      item.algorithmVersion.toList.any (fun c => !isVersionCharacter c) then
    .error (.invalidDefinitions "stage algorithm version is required")
  else if item.outputKeys = [] ∨ ¬ item.outputKeys.Nodup then
    .error (.invalidDefinitions "stage output keys must be nonempty and unique")
  else if ¬ item.dependencies.Nodup then
    .error (.invalidDefinitions "stage dependencies must be unique")
  else if item.dependencies.any (· ∉ seen) then
    .error (.invalidDefinitions "stage definitions must be in dependency order")
  else if ¬ item.relevantConfigurationKeys.Nodup then
    .error (.invalidDefinitions "relevant configuration keys must be unique")
  else .ok ()

def validateStageDefinitionsFrom : List StageId → List (StageDefinition Bytes) →
    Except RunError Unit
  | _, [] => .ok ()
  | seen, item :: rest =>
    match validateStageDefinition seen item with
    | .error e => .error e
    | .ok () => validateStageDefinitionsFrom (seen ++ [item.stageId]) rest

def validateStageDefinitions (definitions : List (StageDefinition Bytes)) :
    Except RunError Unit :=
  if definitions = [] then
    .error (.invalidDefinitions "at least one stage definition is required")
  else validateStageDefinitionsFrom [] definitions

end CartoSentry.Runstate
