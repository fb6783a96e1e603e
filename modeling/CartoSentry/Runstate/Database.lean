import CartoSentry.Foundation.DependencyOrder
import CartoSentry.Runstate.Contracts
import Mathlib.Logic.Function.Basic

set_option autoImplicit false

/-!
# Run state: the SQLite run database

The tables and the four mutators that change them.  A mutator is one
transaction: it commits the database it returns, or raises and changes nothing.
Reading a table is a plain function of the database.

`run_meta` keeps hashes of the run inputs and of the stage topology; the model
keeps the two documents themselves and compares them by value.
-/

namespace CartoSentry.Runstate

open CartoSentry.Foundation

variable {Bytes : Type}

/-- The document hashed into `topology_sha256`: every stage with its dependencies. -/
def topologyOf (definitions : List (StageDefinition Bytes)) : DependencyGraph StageId :=
  definitions.map (fun definition => (definition.stageId, definition.dependencies))

/-! ## Tables -/

/-- A row of `stage`. -/
structure StageRow where
  state : StageState
  attemptId : Option AttemptId
  cacheKey : Option Sha256
  attemptCounter : Nat
  requiredAttemptNumber : Nat
  errorCode : Option String
  deriving DecidableEq, Repr

/-- The row of a stage as the database is created. -/
def StageRow.initial : StageRow where
  state := .pending
  attemptId := none
  cacheKey := none
  attemptCounter := 0
  requiredAttemptNumber := 0
  errorCode := none

/-- A row of `attempt`. -/
structure AttemptRow where
  attemptId : AttemptId
  stageId : StageId
  attemptNumber : Nat
  cacheKey : Sha256
  complete : Bool
  manifestSha256 : Option Sha256
  deriving DecidableEq, Repr

/-- A row of `artifact`. -/
structure ArtifactRow where
  artifactKey : String
  directory : PublishedDirectory
  relativePath : RelativePath
  sha256 : Sha256
  byteCount : Nat
  mediaType : String
  deriving DecidableEq, Repr

/-- The database.  `topology` stands for the `dependency` table and the positions
of the `stage` table, which no mutator changes. -/
structure RunDatabase where
  inputs : RunInputs
  topology : DependencyGraph StageId
  stage : StageId → StageRow
  attempt : List AttemptRow
  artifact : StageId → List ArtifactRow

namespace RunDatabase

variable (database : RunDatabase)

/-- The database `_initialize` creates for a new run. -/
def created (inputs : RunInputs) (definitions : List (StageDefinition Bytes)) : RunDatabase where
  inputs := inputs
  topology := topologyOf definitions
  stage := fun _ => .initial
  attempt := []
  artifact := fun _ => []

/-- `_initialize` on an existing database. -/
def checkIdentity (inputs : RunInputs) (definitions : List (StageDefinition Bytes)) :
    Except RunError Unit :=
  if database.inputs = inputs ∧ database.topology = topologyOf definitions then .ok ()
  else .error .runIdentityMismatch

/-! ## Reading -/

/-- The stages in position order. -/
def stageIds : List StageId := database.topology.nodes

def dependencies (stageId : StageId) : List StageId :=
  (database.topology.lookup stageId).getD []

def stageRow (stageId : StageId) : Except RunError StageRow :=
  if stageId ∈ database.stageIds then .ok (database.stage stageId)
  else .error (.unknownStage stageId)

def stageStates : List (StageId × StageState) :=
  database.stageIds.map (fun stageId => (stageId, (database.stage stageId).state))

def sortedArtifacts (stageId : StageId) : List ArtifactRow :=
  (database.artifact stageId).insertionSort (fun left right => left.artifactKey ≤ right.artifactKey)

def artifactHashes (stageId : StageId) : List (String × Sha256) :=
  (database.sortedArtifacts stageId).map (fun row => (row.artifactKey, row.sha256))

/-- All artifact rows, `ORDER BY stage_id, artifact_key`. -/
def artifactRows : List (StageId × ArtifactRow) :=
  (database.stageIds.insertionSort (· ≤ ·)).flatMap
    (fun stageId => (database.sortedArtifacts stageId).map (fun row => (stageId, row)))

/-! ## Writing -/

/-- Change one row of `stage`. -/
def setStage (stageId : StageId) (row : StageRow) : RunDatabase :=
  { database with stage := Function.update database.stage stageId row }

/-- Replace the artifact rows of one stage. -/
def setArtifacts (stageId : StageId) (rows : List ArtifactRow) : RunDatabase :=
  { database with artifact := Function.update database.artifact stageId rows }

/-- `UNIQUE(stage_id, attempt_number)` and the primary key of `attempt`. -/
def admitsAttempt (row : AttemptRow) : Bool :=
  database.attempt.all (fun other =>
    other.attemptId != row.attemptId
      && !(other.stageId == row.stageId && other.attemptNumber == row.attemptNumber))

/-- The states in which an attempt can begin. -/
def canBegin : StageState → Bool
  | .pending | .failedRetryable | .invalidated => true
  | .running | .complete | .failedFinal | .skippedNotApplicable => false

/-- Every dependency of the stage is complete. -/
def DependenciesComplete (stageId : StageId) : Prop :=
  ∀ upstream ∈ database.dependencies stageId, (database.stage upstream).state = .complete

instance (stageId : StageId) : Decidable (database.DependenciesComplete stageId) :=
  inferInstanceAs (Decidable (∀ _ ∈ _, _))

/-- The row of a stage whose attempt has begun. -/
def begunRow (row : StageRow) (attemptId : AttemptId) (cacheKey : Sha256) : StageRow where
  state := .running
  attemptId := some attemptId
  cacheKey := some cacheKey
  attemptCounter := row.attemptCounter + 1
  requiredAttemptNumber := row.requiredAttemptNumber
  errorCode := none

def beginAttempt (stageId : StageId) (cacheKey : Sha256) (uuid : String) :
    Except RunError (AttemptId × Nat × RunDatabase) :=
  match database.stageRow stageId with
  | .error e => .error e
  | .ok row =>
    if ¬ canBegin row.state then .error (.cannotBegin stageId row.state)
    else if ¬ database.DependenciesComplete stageId then .error .dependencyIncomplete
    else
      let attemptNumber := row.attemptCounter + 1
      let attemptId := AttemptId.issued stageId attemptNumber uuid
      let attemptRow : AttemptRow :=
        { attemptId, stageId, attemptNumber, cacheKey, complete := false, manifestSha256 := none }
      if ¬ database.admitsAttempt attemptRow then .error .constraintViolated
      else
        let next := database.setStage stageId (begunRow row attemptId cacheKey)
        .ok (attemptId, attemptNumber, { next with attempt := next.attempt ++ [attemptRow] })

/-- `INSERT ... ON CONFLICT(attempt_id) DO UPDATE SET state='COMPLETE', ...`. -/
def upsertAttempt (manifest : AttemptManifest) (manifestSha256 : Sha256) :
    Except RunError (List AttemptRow) :=
  if database.attempt.any (fun row => row.attemptId == manifest.attemptId) then
    .ok (database.attempt.map (fun row =>
      if row.attemptId = manifest.attemptId then
        { row with complete := true, manifestSha256 := some manifestSha256 }
      else row))
  else
    let row : AttemptRow :=
      { attemptId := manifest.attemptId, stageId := manifest.stageId,
        attemptNumber := manifest.attemptNumber, cacheKey := manifest.cacheKey,
        complete := true, manifestSha256 := some manifestSha256 }
    if database.admitsAttempt row then .ok (database.attempt ++ [row])
    else .error .constraintViolated

/-- The artifact row of one manifest entry. -/
def artifactRowOf (directory : PublishedDirectory) (item : ArtifactManifestEntry) : ArtifactRow where
  artifactKey := item.artifactKey
  directory := directory
  relativePath := item.relativePath
  sha256 := item.sha256
  byteCount := item.byteCount
  mediaType := item.mediaType

/-- The states from which a completion is recorded. -/
def canReconcile : StageState → Bool
  | .pending | .running | .complete | .failedRetryable | .invalidated => true
  | .failedFinal | .skippedNotApplicable => false

/-- The row of a stage whose completion has been recorded. -/
def completedRow (row : StageRow) (manifest : AttemptManifest) : StageRow where
  state := .complete
  attemptId := some manifest.attemptId
  cacheKey := some manifest.cacheKey
  attemptCounter := max row.attemptCounter manifest.attemptNumber
  requiredAttemptNumber := 0
  errorCode := none

def recordComplete (manifest : AttemptManifest) (manifestSha256 : Sha256)
    (artifactDirectory : PublishedDirectory) : Except RunError RunDatabase :=
  match database.stageRow manifest.stageId with
  | .error e => .error e
  | .ok row =>
    if ¬ canReconcile row.state then .error (.cannotReconcile manifest.stageId row.state)
    else
      match database.upsertAttempt manifest manifestSha256 with
      | .error e => .error e
      | .ok attempt =>
        let next := database.setArtifacts manifest.stageId
          (manifest.artifacts.map (artifactRowOf artifactDirectory))
        .ok { next.setStage manifest.stageId (completedRow row manifest) with attempt := attempt }

/-- The table `allowed` of `mark_state`. -/
def allowedTransition : StageState → StageState → Bool
  | .pending, next => next = .pending || next = .failedFinal
  | .running, next => next = .running || next = .failedRetryable || next = .failedFinal
  | .complete, next => next = .complete || next = .failedFinal
  | .failedRetryable, next => next = .failedRetryable || next = .failedFinal
  | .failedFinal, next => next = .failedFinal
  | .invalidated, next => next = .invalidated || next = .failedFinal
  | .skippedNotApplicable, next => next = .skippedNotApplicable

def markState (stageId : StageId) (state : StageState) (errorCode : Option String) :
    Except RunError RunDatabase :=
  match database.stageRow stageId with
  | .error e => .error e
  | .ok row =>
    if ¬ allowedTransition row.state state then .error (.invalidTransition row.state state)
    else .ok (database.setStage stageId { row with state := state, errorCode := errorCode })

/-- The row of a stage that `invalidate` has reset. -/
def invalidatedRow (row : StageRow) (force : Bool) : StageRow where
  state := .invalidated
  attemptId := none
  cacheKey := none
  attemptCounter := row.attemptCounter
  requiredAttemptNumber := if force then row.attemptCounter + 1 else 0
  errorCode := none

/-- `invalidate`: one transaction over all the stages named. -/
def invalidate (database : RunDatabase) (force : Bool) : List StageId → Except RunError RunDatabase
  | [] => .ok database
  | stageId :: rest =>
    match database.stageRow stageId with
    | .error e => .error e
    | .ok row =>
      RunDatabase.invalidate
        ((database.setArtifacts stageId []).setStage stageId (invalidatedRow row force)) force rest

/-! ## What the writers leave alone -/

variable {database} {stageId other : StageId}

@[simp] theorem setStage_topology (row : StageRow) :
    (database.setStage stageId row).topology = database.topology := rfl

@[simp] theorem setStage_inputs (row : StageRow) :
    (database.setStage stageId row).inputs = database.inputs := rfl

@[simp] theorem setStage_artifact (row : StageRow) :
    (database.setStage stageId row).artifact = database.artifact := rfl

@[simp] theorem setStage_attempt (row : StageRow) :
    (database.setStage stageId row).attempt = database.attempt := rfl

@[simp] theorem setStage_stage_self (row : StageRow) :
    (database.setStage stageId row).stage stageId = row := by
  simp [setStage]

theorem setStage_stage_of_ne (row : StageRow) (h : other ≠ stageId) :
    (database.setStage stageId row).stage other = database.stage other := by
  simp [setStage, h]

@[simp] theorem setArtifacts_topology (rows : List ArtifactRow) :
    (database.setArtifacts stageId rows).topology = database.topology := rfl

@[simp] theorem setArtifacts_inputs (rows : List ArtifactRow) :
    (database.setArtifacts stageId rows).inputs = database.inputs := rfl

@[simp] theorem setArtifacts_stage (rows : List ArtifactRow) :
    (database.setArtifacts stageId rows).stage = database.stage := rfl

@[simp] theorem setArtifacts_attempt (rows : List ArtifactRow) :
    (database.setArtifacts stageId rows).attempt = database.attempt := rfl

@[simp] theorem setArtifacts_artifact_self (rows : List ArtifactRow) :
    (database.setArtifacts stageId rows).artifact stageId = rows := by
  simp [setArtifacts]

theorem setArtifacts_artifact_of_ne (rows : List ArtifactRow) (h : other ≠ stageId) :
    (database.setArtifacts stageId rows).artifact other = database.artifact other := by
  simp [setArtifacts, h]

/-! ## What a committed transaction did -/

theorem stageRow_eq_ok {row : StageRow} (h : database.stageRow stageId = .ok row) :
    stageId ∈ database.stageIds ∧ row = database.stage stageId := by
  unfold stageRow at h
  split at h
  · rename_i hmem
    exact ⟨hmem, (Except.ok.inj h).symm⟩
  · exact absurd h (by simp)

theorem stageRow_of_mem (h : stageId ∈ database.stageIds) :
    database.stageRow stageId = .ok (database.stage stageId) := by
  rw [stageRow, if_pos h]

/-- What a committed `begin_attempt` says. -/
structure Begun (database : RunDatabase) (stageId : StageId) (cacheKey : Sha256) (uuid : String)
    (attemptId : AttemptId) (attemptNumber : Nat) (next : RunDatabase) : Prop where
  mem : stageId ∈ database.stageIds
  begins : canBegin (database.stage stageId).state = true
  dependencies : database.DependenciesComplete stageId
  number : attemptNumber = (database.stage stageId).attemptCounter + 1
  name : attemptId = .issued stageId attemptNumber uuid
  inputs : next.inputs = database.inputs
  topology : next.topology = database.topology
  stage : next.stage = Function.update database.stage stageId
    (begunRow (database.stage stageId) attemptId cacheKey)
  artifact : next.artifact = database.artifact
  attempt : ∃ row : AttemptRow, next.attempt = database.attempt ++ [row] ∧
    row.attemptId = attemptId ∧ row.stageId = stageId ∧ row.attemptNumber = attemptNumber

theorem beginAttempt_eq_ok {cacheKey : Sha256} {uuid : String} {attemptId : AttemptId}
    {attemptNumber : Nat} {next : RunDatabase}
    (h : database.beginAttempt stageId cacheKey uuid = .ok (attemptId, attemptNumber, next)) :
    Begun database stageId cacheKey uuid attemptId attemptNumber next := by
  unfold beginAttempt at h
  split at h
  · exact absurd h (by simp)
  · rename_i row hrow
    obtain ⟨hmem, rfl⟩ := stageRow_eq_ok hrow
    by_cases hbegin : canBegin (database.stage stageId).state = true
    · rw [if_neg (by simpa using hbegin)] at h
      by_cases hdeps : database.DependenciesComplete stageId
      · rw [if_neg (by simpa using hdeps)] at h
        dsimp only at h
        split at h
        · exact absurd h (by simp)
        · simp only [Except.ok.injEq, Prod.mk.injEq] at h
          obtain ⟨rfl, rfl, rfl⟩ := h
          exact {
            mem := hmem, begins := hbegin, dependencies := hdeps, number := rfl, name := rfl,
            inputs := rfl, topology := rfl, stage := rfl, artifact := rfl,
            attempt := ⟨_, rfl, rfl, rfl, rfl⟩ }
      · rw [if_pos hdeps] at h
        exact absurd h (by simp)
    · rw [if_pos hbegin] at h
      exact absurd h (by simp)

/-- What a committed `record_complete` says. -/
structure Completed (database : RunDatabase) (manifest : AttemptManifest)
    (directory : PublishedDirectory) (next : RunDatabase) : Prop where
  mem : manifest.stageId ∈ database.stageIds
  reconciles : canReconcile (database.stage manifest.stageId).state = true
  inputs : next.inputs = database.inputs
  topology : next.topology = database.topology
  stage : next.stage = Function.update database.stage manifest.stageId
    (completedRow (database.stage manifest.stageId) manifest)
  artifact : next.artifact = Function.update database.artifact manifest.stageId
    (manifest.artifacts.map (artifactRowOf directory))
  attempt : ∃ sha, database.upsertAttempt manifest sha = .ok next.attempt

theorem recordComplete_eq_ok {manifest : AttemptManifest} {manifestSha256 : Sha256}
    {directory : PublishedDirectory} {next : RunDatabase}
    (h : database.recordComplete manifest manifestSha256 directory = .ok next) :
    Completed database manifest directory next := by
  unfold recordComplete at h
  split at h
  · exact absurd h (by simp)
  · rename_i row hrow
    obtain ⟨hmem, rfl⟩ := stageRow_eq_ok hrow
    by_cases hreconcile : canReconcile (database.stage manifest.stageId).state = true
    · rw [if_neg (by simpa using hreconcile)] at h
      split at h
      · exact absurd h (by simp)
      · rename_i attempt hattempt
        obtain rfl := Except.ok.inj h
        exact {
          mem := hmem, reconciles := hreconcile, inputs := rfl, topology := rfl, stage := rfl,
          artifact := rfl, attempt := ⟨manifestSha256, hattempt⟩ }
    · rw [if_pos hreconcile] at h
      exact absurd h (by simp)

/-- What a committed `mark_state` says. -/
structure Marked (database : RunDatabase) (stageId : StageId) (state : StageState)
    (errorCode : Option String) (next : RunDatabase) : Prop where
  mem : stageId ∈ database.stageIds
  allowed : allowedTransition (database.stage stageId).state state = true
  next_eq : next = database.setStage stageId
    { database.stage stageId with state := state, errorCode := errorCode }

/-- Marking a stage changes no counter and no name. -/
theorem Marked.kept {state : StageState} {errorCode : Option String} {next : RunDatabase}
    (h : Marked database stageId state errorCode next) (other : StageId) :
    (next.stage other).attemptCounter = (database.stage other).attemptCounter ∧
      (next.stage other).attemptId = (database.stage other).attemptId := by
  rw [h.next_eq]
  by_cases hsame : other = stageId
  · subst hsame
    rw [setStage_stage_self]
    exact ⟨rfl, rfl⟩
  · rw [setStage_stage_of_ne _ hsame]
    exact ⟨rfl, rfl⟩

theorem markState_eq_ok {state : StageState} {errorCode : Option String} {next : RunDatabase}
    (h : database.markState stageId state errorCode = .ok next) :
    Marked database stageId state errorCode next := by
  unfold markState at h
  split at h
  · exact absurd h (by simp)
  · rename_i row hrow
    obtain ⟨hmem, rfl⟩ := stageRow_eq_ok hrow
    by_cases hallowed : allowedTransition (database.stage stageId).state state = true
    · rw [if_neg (by simpa using hallowed)] at h
      exact ⟨hmem, hallowed, (Except.ok.inj h).symm⟩
    · rw [if_pos hallowed] at h
      exact absurd h (by simp)

/-- What a committed `invalidate` says. -/
structure Invalidated (database : RunDatabase) (scope : List StageId) (force : Bool)
    (next : RunDatabase) : Prop where
  inputs : next.inputs = database.inputs
  topology : next.topology = database.topology
  attempt : next.attempt = database.attempt
  stage_of_mem : ∀ stageId ∈ scope, next.stage stageId = invalidatedRow (database.stage stageId) force
  stage_of_not_mem : ∀ stageId ∉ scope, next.stage stageId = database.stage stageId
  artifact_of_mem : ∀ stageId ∈ scope, next.artifact stageId = []
  artifact_of_not_mem : ∀ stageId ∉ scope, next.artifact stageId = database.artifact stageId

@[simp] theorem invalidatedRow_twice (row : StageRow) (force : Bool) :
    invalidatedRow (invalidatedRow row force) force = invalidatedRow row force := rfl

theorem invalidate_eq_ok : ∀ {scope : List StageId} {database next : RunDatabase} {force : Bool},
    database.invalidate force scope = .ok next → Invalidated database scope force next := by
  intro scope
  induction scope with
  | nil =>
    intro database next force h
    obtain rfl := Except.ok.inj h
    exact ⟨rfl, rfl, rfl, by simp, by simp, by simp, by simp⟩
  | cons first rest ih =>
    intro database next force h
    unfold invalidate at h
    split at h
    · exact absurd h (by simp)
    · rename_i row hrow
      obtain ⟨_, rfl⟩ := stageRow_eq_ok hrow
      have hrest := ih h
      refine ⟨hrest.inputs, hrest.topology, hrest.attempt, ?_, ?_, ?_, ?_⟩
      · intro stageId hmem
        by_cases hin : stageId ∈ rest
        · rw [hrest.stage_of_mem stageId hin]
          by_cases hfirst : stageId = first
          · subst hfirst; simp
          · rw [setStage_stage_of_ne _ hfirst]; rfl
        · obtain rfl := (List.mem_cons.mp hmem).resolve_right hin
          rw [hrest.stage_of_not_mem stageId hin]; simp
      · intro stageId hmem
        obtain ⟨hfirst, hin⟩ := not_or.mp (fun h => hmem (List.mem_cons.mpr h))
        rw [hrest.stage_of_not_mem stageId hin, setStage_stage_of_ne _ hfirst]; rfl
      · intro stageId hmem
        by_cases hin : stageId ∈ rest
        · exact hrest.artifact_of_mem stageId hin
        · obtain rfl := (List.mem_cons.mp hmem).resolve_right hin
          rw [hrest.artifact_of_not_mem stageId hin]; simp
      · intro stageId hmem
        obtain ⟨hfirst, hin⟩ := not_or.mp (fun h => hmem (List.mem_cons.mpr h))
        rw [hrest.artifact_of_not_mem stageId hin]
        simp [setArtifacts_artifact_of_ne _ hfirst]

/-- `invalidate` commits whenever every stage of its scope exists. -/
theorem exists_invalidate : ∀ {scope : List StageId} {database : RunDatabase} {force : Bool},
    (∀ stageId ∈ scope, stageId ∈ database.stageIds) →
    ∃ next, database.invalidate force scope = .ok next := by
  intro scope
  induction scope with
  | nil => intro database force _; exact ⟨database, rfl⟩
  | cons first rest ih =>
    intro database force h
    unfold invalidate
    rw [stageRow_of_mem (h first List.mem_cons_self)]
    exact ih (fun stageId hmem => h stageId (List.mem_cons_of_mem _ hmem))

end RunDatabase

end CartoSentry.Runstate
