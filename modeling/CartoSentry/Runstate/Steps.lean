import CartoSentry.Foundation.History
import CartoSentry.Runstate.Engine

set_option autoImplicit false

/-!
# Run state: what one durable effect of an engine can do

The engine as a transition system over the run root.  A step says which stage
the engine works on, what it has just read and which transaction or file
operation it commits; `RunStep` adds the processes that come and go and the
changes made by others.  The processes of `Engine` refine this system, so what
every step preserves holds of every root that any of them leaves behind.
-/

namespace CartoSentry.Runstate

open CartoSentry.Foundation RunEngine

variable {Bytes : Type}

/-! ## Validated definitions -/

/-- What `validate_stage_definitions` establishes. -/
structure ValidDefinitions (definitions : List (StageDefinition Bytes)) : Prop where
  ordered : (topologyOf definitions).Ordered
  outputs : ∀ definition ∈ definitions, definition.outputKeys ≠ [] ∧ definition.outputKeys.Nodup

theorem validateStageDefinition_eq_ok {seen : List StageId} {item : StageDefinition Bytes}
    (h : validateStageDefinition seen item = .ok ()) :
    item.stageId ∉ seen ∧ (∀ upstream ∈ item.dependencies, upstream ∈ seen) ∧
      item.outputKeys ≠ [] ∧ item.outputKeys.Nodup := by
  unfold validateStageDefinition at h
  split at h
  · exact absurd h (by simp)
  · rename_i hid
    split at h
    · exact absurd h (by simp)
    · split at h
      · exact absurd h (by simp)
      · split at h
        · exact absurd h (by simp)
        · rename_i houtputs
          split at h
          · exact absurd h (by simp)
          · split at h
            · exact absurd h (by simp)
            · rename_i hseen
              rw [not_or] at hid houtputs
              refine ⟨hid.2, fun upstream hupstream => ?_, houtputs.1, not_not.mp houtputs.2⟩
              by_contra hnot
              exact hseen (List.any_eq_true.mpr ⟨upstream, hupstream, by simpa using hnot⟩)

theorem validateStageDefinitionsFrom_eq_ok : ∀ {definitions : List (StageDefinition Bytes)}
    {seen : List StageId}, validateStageDefinitionsFrom seen definitions = .ok () →
    OrderedAfter seen (topologyOf definitions) ∧
      ∀ definition ∈ definitions, definition.outputKeys ≠ [] ∧ definition.outputKeys.Nodup := by
  intro definitions
  induction definitions with
  | nil => intro seen _; exact ⟨trivial, by simp⟩
  | cons item rest ih =>
    intro seen h
    unfold validateStageDefinitionsFrom at h
    split at h
    · exact absurd h (by simp)
    · rename_i hitem
      obtain ⟨hnew, hseen, houtputs⟩ := validateStageDefinition_eq_ok hitem
      obtain ⟨hrest, hrestOutputs⟩ := ih h
      refine ⟨⟨hnew, hseen, hrest⟩, fun definition hmem => ?_⟩
      rcases List.mem_cons.mp hmem with rfl | hmem
      · exact houtputs
      · exact hrestOutputs definition hmem

theorem validateStageDefinitions_eq_ok {definitions : List (StageDefinition Bytes)}
    (h : validateStageDefinitions definitions = .ok ()) : ValidDefinitions definitions := by
  unfold validateStageDefinitions at h
  split at h
  · exact absurd h (by simp)
  · obtain ⟨hordered, houtputs⟩ := validateStageDefinitionsFrom_eq_ok h
    exact ⟨hordered, houtputs⟩

theorem nodes_topologyOf (definitions : List (StageDefinition Bytes)) :
    (topologyOf definitions).nodes = definitions.map StageDefinition.stageId := by
  simp [topologyOf, DependencyGraph.nodes]

theorem mem_topologyOf {definitions : List (StageDefinition Bytes)}
    {definition : StageDefinition Bytes} (h : definition ∈ definitions) :
    (definition.stageId, definition.dependencies) ∈ topologyOf definitions :=
  List.mem_map_of_mem h

/-- The root is the engine's run, and the engine's definitions are valid. -/
structure Opened (engine : RunEngine Bytes) (root : RunRoot Bytes) : Prop where
  inputs : root.database.inputs = engine.inputs
  topology : root.database.topology = topologyOf engine.definitions
  valid : ValidDefinitions engine.definitions

namespace Opened

variable {engine : RunEngine Bytes} {root : RunRoot Bytes} {definition : StageDefinition Bytes}

theorem ordered (h : Opened engine root) : root.database.topology.Ordered :=
  h.topology ▸ h.valid.ordered

theorem mem_topology (h : Opened engine root) (hmem : definition ∈ engine.definitions) :
    (definition.stageId, definition.dependencies) ∈ root.database.topology := by
  rw [h.topology]
  exact mem_topologyOf hmem

theorem mem_stageIds (h : Opened engine root) (hmem : definition ∈ engine.definitions) :
    definition.stageId ∈ root.database.stageIds :=
  DependencyGraph.mem_nodes (h.mem_topology hmem)

theorem dependencies (h : Opened engine root) (hmem : definition ∈ engine.definitions) :
    root.database.dependencies definition.stageId = definition.dependencies := by
  unfold RunDatabase.dependencies
  rw [lookup_of_mem h.ordered.nodup (h.mem_topology hmem)]
  rfl

theorem definition_of_mem (h : Opened engine root) {stageId : StageId}
    (hstage : stageId ∈ root.database.stageIds) :
    ∃ definition ∈ engine.definitions, definition.stageId = stageId := by
  unfold RunDatabase.stageIds at hstage
  rw [h.topology, nodes_topologyOf] at hstage
  exact List.mem_map.mp hstage

/-- A stage has one definition. -/
theorem definition_ext (h : Opened engine root) {other : StageDefinition Bytes}
    (hother : other ∈ engine.definitions) (hmem : definition ∈ engine.definitions)
    (hstage : other.stageId = definition.stageId) : other = definition := by
  have hnodup := h.valid.ordered.nodup
  rw [nodes_topologyOf] at hnodup
  exact List.inj_on_of_nodup_map hnodup hother hmem hstage

/-- A root whose database keeps its inputs and topology is still the engine's run. -/
theorem keep {next : RunRoot Bytes} (h : Opened engine root)
    (hinputs : next.database.inputs = root.database.inputs)
    (htopology : next.database.topology = root.database.topology) : Opened engine next :=
  ⟨hinputs.trans h.inputs, htopology.trans h.topology, h.valid⟩

end Opened

/-! ## Cache keys and what they read -/

section CacheKeyFacts

variable {platform : Platform Bytes} {database next : RunDatabase} {inputs : RunInputs}
  {definition : StageDefinition Bytes}

theorem upstreamHashes_complete : ∀ {dependencies : List StageId}
    {hashes : List (String × Sha256)}, upstreamHashes database dependencies = .ok hashes →
    ∀ upstream ∈ dependencies, (database.stage upstream).state = .complete := by
  intro dependencies
  induction dependencies with
  | nil => intro _ _ upstream hmem; simp at hmem
  | cons first rest ih =>
    intro hashes h upstream hmem
    unfold upstreamHashes at h
    split at h
    · exact absurd h (by simp)
    · rename_i hcomplete
      split at h
      · exact absurd h (by simp)
      · rename_i later hlater
        rcases List.mem_cons.mp hmem with rfl | hmem
        · exact not_not.mp hcomplete
        · exact ih hlater upstream hmem

theorem upstreamHashes_congr : ∀ {dependencies : List StageId},
    (∀ upstream ∈ dependencies, (next.stage upstream).state = (database.stage upstream).state) →
    (∀ upstream ∈ dependencies, next.artifact upstream = database.artifact upstream) →
    upstreamHashes next dependencies = upstreamHashes database dependencies := by
  intro dependencies
  induction dependencies with
  | nil => intro _ _; rfl
  | cons first rest ih =>
    intro hstage hartifact
    have hrest := ih (fun u hu => hstage u (List.mem_cons_of_mem _ hu))
      (fun u hu => hartifact u (List.mem_cons_of_mem _ hu))
    unfold upstreamHashes
    rw [hstage first List.mem_cons_self, hrest]
    unfold RunDatabase.artifactHashes RunDatabase.sortedArtifacts
    rw [hartifact first List.mem_cons_self]

/-- A cache key exists only while every upstream stage is complete. -/
theorem cacheKey_complete {key : Sha256} (h : cacheKey platform database inputs definition = .ok key) :
    ∀ upstream ∈ definition.dependencies, (database.stage upstream).state = .complete := by
  unfold cacheKey at h
  split at h
  · exact absurd h (by simp)
  · split at h
    · exact absurd h (by simp)
    · rename_i hashes hhashes
      exact upstreamHashes_complete hhashes

/-- A cache key reads the states and the artifact rows of the upstream stages only. -/
theorem cacheKey_congr
    (hstage : ∀ upstream ∈ definition.dependencies,
      (next.stage upstream).state = (database.stage upstream).state)
    (hartifact : ∀ upstream ∈ definition.dependencies,
      next.artifact upstream = database.artifact upstream) :
    cacheKey platform next inputs definition = cacheKey platform database inputs definition := by
  unfold cacheKey
  rw [upstreamHashes_congr hstage hartifact]

theorem upstreamIncomplete_eq_false
    (h : ∀ upstream ∈ definition.dependencies, (database.stage upstream).state = .complete) :
    upstreamIncomplete database definition = false := by
  unfold upstreamIncomplete
  rw [List.any_eq_false]
  intro upstream hmem
  simp [h upstream hmem]

theorem complete_of_upstreamIncomplete_eq_false
    (h : upstreamIncomplete database definition = false) :
    ∀ upstream ∈ definition.dependencies, (database.stage upstream).state = .complete := by
  intro upstream hmem
  have := List.any_eq_false.mp h upstream hmem
  simpa using this

end CacheKeyFacts

/-! ## Steps -/

abbrev RunLog (Bytes : Type) : Type := List (Effect (RunRoot Bytes) (Label Bytes))

/-- The row of a stage is COMPLETE. -/
def IsComplete (root : RunRoot Bytes) (stageId : StageId) : Prop :=
  (root.database.stage stageId).state = .complete

instance (root : RunRoot Bytes) (stageId : StageId) : Decidable (IsComplete root stageId) :=
  inferInstanceAs (Decidable (_ = _))

section Step

variable (platform : Platform Bytes) (engine : RunEngine Bytes)

/-- Its dependencies are complete, and `key` is the cache key they give it. -/
def HasKey (root : RunRoot Bytes) (definition : StageDefinition Bytes) (key : Sha256) : Prop :=
  cacheKey platform root.database engine.inputs definition = .ok key

/-- A complete stage whose row no longer fits: an upstream stage is incomplete,
or its cache key is not the recorded one. -/
def Stale (root : RunRoot Bytes) (definition : StageDefinition Bytes) : Prop :=
  IsComplete root definition.stageId ∧
    (upstreamIncomplete root.database definition = true ∨
      ∃ key, HasKey platform engine root definition key ∧
        (root.database.stage definition.stageId).cacheKey ≠ some key)

/-- What `_select_published` reads for a definition under a key. -/
def selection (root : RunRoot Bytes) (definition : StageDefinition Bytes) (key : Sha256) :
    Except RunError (Option PublishedAttempt) :=
  selectPublished platform engine.inputs.workflowId definition key root.artifacts

/-- The published attempt that a visit would adopt. -/
structure Adoptable (root : RunRoot Bytes) (definition : StageDefinition Bytes) (key : Sha256)
    (attempt : PublishedAttempt) : Prop where
  hasKey : HasKey platform engine root definition key
  selected : selection platform engine root definition key = .ok (some attempt)
  required : (root.database.stage definition.stageId).requiredAttemptNumber ≤
    attempt.manifest.attemptNumber

/-- A stage that failed finally, although a visit would adopt a published attempt. -/
def Blocked (root : RunRoot Bytes) (definition : StageDefinition Bytes) : Prop :=
  (root.database.stage definition.stageId).state = .failedFinal ∧
    ∃ key attempt, Adoptable platform engine root definition key attempt

/-- The files and the manifest that an attempt of a definition produces. -/
structure Produced (root : RunRoot Bytes) (definition : StageDefinition Bytes) (key : Sha256)
    (attemptId : AttemptId) (files : AttemptFiles Bytes) (manifest : AttemptManifest) : Prop where
  mem : definition ∈ engine.definitions
  hasKey : HasKey platform engine root definition key
  running : (root.database.stage definition.stageId).state = .running
  name : (root.database.stage definition.stageId).attemptId = some attemptId
  produced : ∃ upstream payloads entries,
    upstreamHashes root.database definition.dependencies = .ok upstream ∧
    executeValidated definition ⟨engine.inputs, definition.stageId, key, upstream⟩ =
      .ok payloads ∧
    List.Forall₂ (fun payload entry => manifestEntry platform payload = .ok entry)
      (sortedPayloads payloads) entries ∧
    engine.attemptManifest definition.stageId attemptId
      (root.database.stage definition.stageId).attemptCounter key entries = .ok manifest ∧
    files = (sortedPayloads payloads).map (fun payload => (payload.relativePath, payload.content))
      ++ [(attemptManifestFile, platform.manifests.encode manifest)]

variable (forceStage : Option StageId)

/-- One durable effect of a process of the engine, after the effects in the log. -/
inductive EngineStep : RunLog Bytes → RunRoot Bytes →
    Label Bytes → RunRoot Bytes → Prop
  | stale {log : RunLog Bytes} {root : RunRoot Bytes}
      {definition : StageDefinition Bytes} {next : RunDatabase}
      (hmem : definition ∈ engine.definitions)
      (hvisit : log.getLast? = some ⟨root, .visited definition⟩)
      (hstale : Stale platform engine root definition)
      (hcommit : root.database.invalidate false
        (closure root.database.topology definition.stageId) = .ok next) :
      EngineStep log root
        (.invalidated (closure root.database.topology definition.stageId) false)
        { root with database := next }
  | forced {log : RunLog Bytes} {root : RunRoot Bytes}
      {stageId : StageId} {next : RunDatabase} (hforce : forceStage = some stageId)
      (hmem : stageId ∈ root.database.stageIds)
      (hcommit : root.database.invalidate true (closure root.database.topology stageId) =
        .ok next) :
      EngineStep log root (.invalidated (closure root.database.topology stageId) true)
        { root with database := next }
  | failedFinal {log : RunLog Bytes} {root : RunRoot Bytes}
      {definition : StageDefinition Bytes} {key : Sha256} {code : Option String}
      {next : RunDatabase} (hmem : definition ∈ engine.definitions)
      (hkey : HasKey platform engine root definition key)
      (hselection : (∃ e, selection platform engine root definition key = .error e) ∨
        (IsComplete root definition.stageId ∧
          ∀ attempt, ¬ Adoptable platform engine root definition key attempt))
      (hcomplete : IsComplete root definition.stageId →
        (root.database.stage definition.stageId).cacheKey = some key ∧
        log.getLast? = some ⟨root, .visited definition⟩)
      (hcommit : root.database.markState definition.stageId .failedFinal code = .ok next) :
      EngineStep log root (.marked definition.stageId .failedFinal) { root with database := next }
  | failedRetryable {log : RunLog Bytes} {root : RunRoot Bytes}
      {definition : StageDefinition Bytes} {code : Option String} {next : RunDatabase}
      (hmem : definition ∈ engine.definitions)
      (hrunning : (root.database.stage definition.stageId).state = .running)
      (hcommit : root.database.markState definition.stageId .failedRetryable code = .ok next) :
      EngineStep log root (.marked definition.stageId .failedRetryable)
        { root with database := next }
  | adopted {log : RunLog Bytes} {root : RunRoot Bytes}
      {definition : StageDefinition Bytes} {key : Sha256} {attempt : PublishedAttempt}
      {next : RunDatabase} (hmem : definition ∈ engine.definitions)
      (hadoptable : Adoptable platform engine root definition key attempt)
      (hcomplete : IsComplete root definition.stageId →
        (root.database.stage definition.stageId).cacheKey = some key)
      (hcommit : root.database.recordComplete attempt.manifest attempt.manifestSha256
        attempt.directory = .ok next) :
      EngineStep log root (.completed attempt.manifest attempt.directory)
        { root with database := next }
  | began {log : RunLog Bytes} {root : RunRoot Bytes}
      {definition : StageDefinition Bytes} {key : Sha256} {uuid : String} {attemptId : AttemptId}
      {attemptNumber : Nat} {next : RunDatabase} (hmem : definition ∈ engine.definitions)
      (hkey : HasKey platform engine root definition key)
      (hcommit : root.database.beginAttempt definition.stageId key uuid =
        .ok (attemptId, attemptNumber, next)) :
      EngineStep log root (.began definition.stageId attemptId attemptNumber)
        { root with database := next }
  | attemptChanged {log : RunLog Bytes} {root : RunRoot Bytes} {stageId : StageId}
      {attemptId : AttemptId} {files : AttemptFiles Bytes}
      (hname : (root.database.stage stageId).attemptId = some attemptId) :
      EngineStep log root (.attemptChanged attemptId)
        { root with attempts := setAttempt root.attempts attemptId files }
  | cacheRootMade {log : RunLog Bytes} {root : RunRoot Bytes}
      {stageId : StageId} {cacheKey : Sha256} :
      EngineStep log root (.cacheRootMade stageId cacheKey) root
  | cacheRootCreated {log : RunLog Bytes} {root : RunRoot Bytes}
      {stageId : StageId} {cacheKey : Sha256}
      (hmissing : root.artifacts stageId cacheKey = .missing) :
      EngineStep log root (.cacheRootMade stageId cacheKey)
        { root with artifacts := root.artifacts.set stageId cacheKey (.directory []) }
  | published {log : RunLog Bytes} {root : RunRoot Bytes}
      {definition : StageDefinition Bytes} {key : Sha256} {attemptId : AttemptId}
      {files : AttemptFiles Bytes} {manifest : AttemptManifest}
      {entries : List (AttemptId × CacheEntry Bytes)}
      (hproduced : Produced platform engine root definition key attemptId files manifest)
      (hread : files.lookup attemptManifestFile = some (platform.manifests.encode manifest))
      (hroot : root.artifacts definition.stageId key = .directory entries) :
      EngineStep log root (.published definition.stageId key attemptId)
        { root with
          attempts := root.attempts.filter (fun entry => entry.1 ≠ attemptId),
          artifacts := root.artifacts.set definition.stageId key
            (.directory (entries ++ [(attemptId, .directory files)])) }
  | executed {log : RunLog Bytes} {root : RunRoot Bytes}
      {definition : StageDefinition Bytes} {key : Sha256} {attemptId : AttemptId}
      {files : AttemptFiles Bytes} {manifest : AttemptManifest}
      {entries : List (AttemptId × CacheEntry Bytes)} {sha : Sha256} {next : RunDatabase}
      (hproduced : Produced platform engine root definition key attemptId files manifest)
      (hroot : root.artifacts definition.stageId key = .directory entries)
      (hentry : (attemptId, CacheEntry.directory files) ∈ entries)
      (hread : files.lookup attemptManifestFile = some (platform.manifests.encode manifest))
      (hparse : platform.manifests.parse (platform.manifests.encode manifest) = some manifest)
      (hcommit : root.database.recordComplete manifest sha
        ⟨definition.stageId, key, attemptId⟩ = .ok next) :
      EngineStep log root (.completed manifest ⟨definition.stageId, key, attemptId⟩)
        { root with database := next }
  | pointerWritten {log : RunLog Bytes} {root : RunRoot Bytes}
      {stageId : StageId} {content : Option Bytes} :
      EngineStep log root (.pointerWritten stageId)
        { root with completions := Function.update root.completions stageId content }
  | exported {log : RunLog Bytes} {root : RunRoot Bytes} :
      EngineStep log root .exported
        { root with runArtifact := some (runArtifactOf root.database) }

end Step

/-! ## Runs of the whole system -/

/-- What the processes and their surroundings may do: the lifetimes that occur,
and the changes others make below `artifacts/` and `completions/` between them. -/
structure Setting (Bytes : Type) where
  platform : Platform Bytes
  lives : Lifetime Bytes → Prop
  disturbs : RunRoot Bytes → ArtifactTree Bytes → (StageId → Option Bytes) → Prop

/-- Every lifetime and every disturbance. -/
def Setting.unrestricted (platform : Platform Bytes) : Setting Bytes where
  platform := platform
  lives := fun _ => True
  disturbs := fun _ _ _ => True

/-- The engine that a process with these definitions opens on a root. -/
def engineOn (root : RunRoot Bytes) (definitions : List (StageDefinition Bytes)) :
    RunEngine Bytes where
  inputs := root.database.inputs
  definitions := definitions

/-- One step of a run root among its processes and its surroundings. -/
inductive RunStep (setting : Setting Bytes) : RunLog Bytes → RunRoot Bytes → Label Bytes →
    RunRoot Bytes → Prop
  | visited {log : RunLog Bytes} {root : RunRoot Bytes} {life : Lifetime Bytes}
      {definition : StageDefinition Bytes} (hlife : setting.lives life)
      (hopened : Opened (engineOn root life.definitions) root)
      (hmem : definition ∈ life.definitions) :
      RunStep setting log root (.visited definition) root
  | engine {log : RunLog Bytes} {root next : RunRoot Bytes} {life : Lifetime Bytes}
      {label : Label Bytes} (hlife : setting.lives life)
      (hopened : Opened (engineOn root life.definitions) root)
      (hstep : EngineStep setting.platform (engineOn root life.definitions) life.forceStage
        log root label next) :
      RunStep setting log root label next
  | external {log : RunLog Bytes} {root : RunRoot Bytes} {tree : ArtifactTree Bytes}
      {completions : StageId → Option Bytes} (hdisturbs : setting.disturbs root tree completions) :
      RunStep setting log root .external { root with artifacts := tree, completions := completions }

/-- A history of a run root: it is created, its processes live and die, and
others disturb it. -/
inductive Reaches (setting : Setting Bytes) (start : RunRoot Bytes) :
    RunLog Bytes → RunRoot Bytes → Prop
  | created {inputs : RunInputs} {definitions : List (StageDefinition Bytes)}
      (hvalid : validateStageDefinitions definitions = .ok ())
      (hstart : start = RunRoot.create inputs definitions) : Reaches setting start [] start
  | lived {log : RunLog Bytes} {root : RunRoot Bytes}
      {life : Lifetime Bytes} {outcome : Outcome RunError RunExecutionReport}
      {m : Machine (RunRoot Bytes) (Label Bytes)} (h : Reaches setting start log root)
      (hlife : setting.lives life)
      (hprocess : life.process setting.platform ⟨root, life.lifespan, log⟩ = (outcome, m)) :
      Reaches setting start m.log m.store
  | disturbed {log : RunLog Bytes} {root : RunRoot Bytes}
      {tree : ArtifactTree Bytes} {completions : StageId → Option Bytes}
      (h : Reaches setting start log root) (hdisturbs : setting.disturbs root tree completions) :
      Reaches setting start (log ++ [⟨root, .external⟩])
        { root with artifacts := tree, completions := completions }

end CartoSentry.Runstate
