import CartoSentry.Runstate.Refinement

set_option autoImplicit false

/-!
# Run state: artifact rows and complete stages

`record_complete` writes the artifact rows of a stage and `invalidate` deletes
them, but `mark_state` leaves them alone.  So a stage has artifact rows exactly
while it is complete, until reconciliation finds a complete stage whose
published attempt is gone or damaged: it is marked FAILED_FINAL with its rows.
-/

namespace CartoSentry.Runstate

open CartoSentry.Foundation RunEngine

variable {Bytes : Type}

/-- A stage is complete under its current cache key, but no published attempt
verifies under that key. -/
def damagedComplete (platform : Platform Bytes) (root : RunRoot Bytes)
    (definition : StageDefinition Bytes) : Bool :=
  match cacheKey platform root.database root.database.inputs definition with
  | .error _ => false
  | .ok key =>
    (root.database.stage definition.stageId).state = .complete
      && (root.database.stage definition.stageId).cacheKey = some key
      && (match selectPublished platform root.database.inputs.workflowId definition key
            root.artifacts with
          | .ok (some _) => false
          | _ => true)

/-- Reconciliation never visits a complete stage whose published attempt is damaged. -/
def IntactVisits (platform : Platform Bytes) (log : RunLog Bytes) : Prop :=
  ∀ effect ∈ log, ∀ definition, effect.label = .visited definition →
    damagedComplete platform effect.before definition = false

theorem IntactVisits.earlier {platform : Platform Bytes} {log later : RunLog Bytes}
    (h : IntactVisits platform (log ++ later)) : IntactVisits platform log :=
  fun effect hmem => h effect (List.mem_append_left _ hmem)

/-- A stage has artifact rows exactly while it is complete, and they lie below
its own published directories. -/
structure RowsMatch (database : RunDatabase) : Prop where
  complete : ∀ stageId, database.artifact stageId ≠ [] ↔
    (database.stage stageId).state = .complete
  directory : ∀ stageId, ∀ row ∈ database.artifact stageId, row.directory.stageId = stageId

theorem RowsMatch.eq_nil {database : RunDatabase} (h : RowsMatch database) {stageId : StageId}
    (hstate : (database.stage stageId).state ≠ .complete) : database.artifact stageId = [] :=
  by_contra (fun hne => hstate ((h.complete stageId).mp hne))

section Steps

variable {setting : Setting Bytes} {platform : Platform Bytes} {engine : RunEngine Bytes}
  {root next : RunRoot Bytes} {log : RunLog Bytes} {label : Label Bytes}

/-- A complete stage that a visit fails finally is damaged. -/
theorem damagedComplete_of_failed {definition : StageDefinition Bytes} {key : Sha256}
    (hopened : Opened engine root) (hsound : Sound root.database)
    (hcomplete : IsComplete root definition.stageId)
    (hkey : HasKey platform engine root definition key)
    (hrow : (root.database.stage definition.stageId).cacheKey = some key)
    (hselection : (∃ e, selection platform engine root definition key = .error e) ∨
      (IsComplete root definition.stageId ∧
        ∀ attempt, ¬ Adoptable platform engine root definition key attempt)) :
    damagedComplete platform root definition = true := by
  have hnone : ∀ attempt,
      selection platform engine root definition key ≠ .ok (some attempt) := by
    intro attempt hsome
    rcases hselection with ⟨e, herror⟩ | ⟨_, hmissing⟩
    · rw [herror] at hsome; cases hsome
    · refine hmissing attempt ⟨hkey, hsome, ?_⟩
      rw [hsound.required _ hcomplete]
      exact Nat.zero_le _
  unfold HasKey at hkey
  unfold selection at hnone
  unfold IsComplete at hcomplete
  unfold damagedComplete
  rw [hopened.inputs, hkey]
  dsimp only
  rw [hcomplete, hrow]
  split
  · rename_i attempt hsome
    exact absurd hsome (hnone attempt)
  · simp

/-- The rows of a completion lie below the directory it records. -/
theorem EngineStep.completed_directory {forceStage : Option StageId}
    {manifest : AttemptManifest} {directory : PublishedDirectory}
    (h : EngineStep platform engine forceStage log root (.completed manifest directory) next) :
    directory.stageId = manifest.stageId := by
  cases h with
  | adopted _ hadoptable =>
    obtain ⟨_, _, hverified⟩ := hadoptable.verified
    rw [hverified.directory, hverified.stage]
  | executed hproduced =>
    obtain ⟨_, _, _, _, _, _, hmanifest, _⟩ := hproduced.produced
    exact (attemptManifest_eq_ok hmanifest).2.1.symm

/-- A mutator keeps rows and states in step, unless it fails a complete stage. -/
theorem RowsMatch.change {database after : RunDatabase} (h : RowsMatch database)
    (hchange : DatabaseChange database label after)
    (hdirectory : ∀ manifest directory, label = .completed manifest directory →
      directory.stageId = manifest.stageId)
    (hmark : ∀ stageId, label = .marked stageId .failedFinal →
      (database.stage stageId).state ≠ .complete) : RowsMatch after := by
  cases hchange with
  | same => exact h
  | @invalidated first force _ _ hinvalidated =>
    refine ⟨fun stageId => ?_, fun stageId row hrow => ?_⟩
    · by_cases hmem : stageId ∈ closure database.topology first
      · rw [hinvalidated.artifact_of_mem _ hmem, hinvalidated.stage_of_mem _ hmem]
        simp [RunDatabase.invalidatedRow]
      · rw [hinvalidated.artifact_of_not_mem _ hmem, hinvalidated.stage_of_not_mem _ hmem]
        exact h.complete stageId
    · by_cases hmem : stageId ∈ closure database.topology first
      · rw [hinvalidated.artifact_of_mem _ hmem] at hrow
        simp at hrow
      · rw [hinvalidated.artifact_of_not_mem _ hmem] at hrow
        exact h.directory stageId row hrow
  | @began begun _ _ _ _ _ hbegun =>
    refine ⟨fun stageId => ?_, fun stageId row hrow => h.directory stageId row ?_⟩
    · rw [hbegun.artifact, hbegun.stage]
      by_cases hsame : stageId = begun
      · subst hsame
        have hstate : (database.stage stageId).state ≠ .complete := by
          intro hcomplete
          have hbegins := hbegun.begins
          rw [hcomplete] at hbegins
          cases hbegins
        rw [Function.update_self, h.eq_nil hstate]
        simp [RunDatabase.begunRow]
      · rw [Function.update_of_ne hsame]
        exact h.complete stageId
    · rwa [hbegun.artifact] at hrow
  | @completed manifest directory _ hcompleted =>
    refine ⟨fun stageId => ?_, fun stageId row hrow => ?_⟩
    · rw [hcompleted.artifact, hcompleted.stage]
      by_cases hsame : stageId = manifest.stageId
      · subst hsame
        simpa [RunDatabase.completedRow] using manifest.artifacts_ne
      · rw [Function.update_of_ne hsame, Function.update_of_ne hsame]
        exact h.complete stageId
    · rw [hcompleted.artifact] at hrow
      by_cases hsame : stageId = manifest.stageId
      · subst hsame
        rw [Function.update_self] at hrow
        obtain ⟨item, _, rfl⟩ := List.mem_map.mp hrow
        exact hdirectory manifest directory rfl
      · rw [Function.update_of_ne hsame] at hrow
        exact h.directory stageId row hrow
  | @marked marked state code _ hstate hmarked =>
    have hincomplete : (database.stage marked).state ≠ .complete := by
      rcases hstate with rfl | ⟨rfl, hrunning⟩
      · exact hmark marked rfl
      · rw [hrunning]; simp
    rw [hmarked.next_eq]
    refine ⟨fun stageId => ?_, fun stageId row hrow => h.directory stageId row hrow⟩
    by_cases hsame : stageId = marked
    · subst hsame
      rw [RunDatabase.setStage_artifact, h.eq_nil hincomplete, RunDatabase.setStage_stage_self]
      rcases hstate with rfl | ⟨rfl, _⟩
      · simp
      · simp
    · rw [RunDatabase.setStage_artifact, RunDatabase.setStage_stage_of_ne _ hsame]
      exact h.complete stageId

/-- A complete stage is failed finally only right after a visit that found it damaged. -/
theorem EngineStep.failed_incomplete {forceStage : Option StageId} {stageId : StageId}
    (hopened : Opened engine root) (hsound : Sound root.database)
    (hintact : IntactVisits platform log)
    (h : EngineStep platform engine forceStage log root (.marked stageId .failedFinal) next) :
    (root.database.stage stageId).state ≠ .complete := by
  intro hcomplete
  cases h with
  | failedFinal _ hkey hselection hvisit =>
    obtain ⟨hrow, hlast⟩ := hvisit hcomplete
    have hdamaged := damagedComplete_of_failed hopened hsound hcomplete hkey hrow hselection
    have hclean := hintact _ (List.mem_of_getLast? hlast) _ rfl
    rw [hdamaged] at hclean
    cases hclean

/-- One step keeps rows and states in step, when visits find nothing damaged. -/
theorem RowsMatch.step (h : RowsMatch root.database) (hsound : Sound root.database)
    (hintact : IntactVisits setting.platform log) (hstep : RunStep setting log root label next) :
    RowsMatch next.database := by
  cases hstep with
  | visited => exact h
  | external => exact h
  | engine _ hopened hstep =>
    refine h.change (hstep.databaseChange hopened) (fun manifest directory hlabel => ?_)
      (fun stageId hlabel => ?_)
    · subst hlabel
      exact hstep.completed_directory
    · subst hlabel
      exact hstep.failed_incomplete hopened hsound hintact

/-- The run artifact changes only when it is exported. -/
theorem RunStep.runArtifact (hstep : RunStep setting log root label next) :
    next.runArtifact = root.runArtifact ∨
      next.runArtifact = some (runArtifactOf root.database) := by
  cases hstep with
  | visited => exact .inl rfl
  | external => exact .inl rfl
  | engine _ _ hstep =>
    cases hstep with
    | exported => exact .inr rfl
    | _ => exact .inl rfl

end Steps

/-! ## The exported run artifact -/

/-- A run artifact names outputs of complete stages only. -/
structure NamesComplete (run : RunArtifact) : Prop where
  outputs : ∀ entry ∈ run.stages, entry.2.outputHashes ≠ [] → entry.2.state = .complete
  artifacts : ∀ reference ∈ run.artifacts, ∃ entry ∈ run.stages,
    entry.1 = reference.sourceKey.1.stageId ∧ entry.2.state = .complete

theorem RowsMatch.namesComplete {database : RunDatabase} (h : RowsMatch database) :
    NamesComplete (runArtifactOf database) := by
  refine ⟨fun entry hentry houtputs => ?_, fun reference hreference => ?_⟩
  · obtain ⟨stageId, _, rfl⟩ := List.mem_map.mp hentry
    refine (h.complete stageId).mp (fun hnil => houtputs ?_)
    simp [stageRecord, RunDatabase.artifactHashes, RunDatabase.sortedArtifacts, hnil]
  · obtain ⟨⟨stageId, row⟩, hrow, rfl⟩ := List.mem_map.mp hreference
    unfold RunDatabase.artifactRows at hrow
    obtain ⟨listed, hlisted, hrow⟩ := List.mem_flatMap.mp hrow
    obtain ⟨found, hfound, heq⟩ := List.mem_map.mp hrow
    obtain ⟨rfl, rfl⟩ := Prod.mk.inj heq
    have hstage : listed ∈ database.stageIds := (List.mem_insertionSort _).mp hlisted
    have hmem : found ∈ database.artifact listed := (List.mem_insertionSort _).mp hfound
    refine ⟨(listed, stageRecord database listed), List.mem_map_of_mem hstage, ?_, ?_⟩
    · exact (h.directory listed found hmem).symm
    · exact (h.complete listed).mp (List.ne_nil_of_mem hmem)

/-- In every history whose visits find no damaged complete stage, a stage has
artifact rows exactly while it is complete, and the exported run artifact names
outputs of complete stages only. -/
theorem rows_match_complete {platform : Platform Bytes} {start root : RunRoot Bytes}
    {log : RunLog Bytes} (h : Reaches (Setting.unrestricted platform) start log root)
    (hintact : IntactVisits platform log) :
    (∀ stageId, root.database.artifact stageId ≠ [] ↔
      (root.database.stage stageId).state = .complete) ∧
    ∀ run, root.runArtifact = some run → NamesComplete run := by
  obtain ⟨hstart, hhistory⟩ := h.history
  have hinvariant : IntactVisits platform log → RowsMatch root.database ∧
      ∀ run, root.runArtifact = some run → NamesComplete run := by
    refine hhistory.induct (J := fun log root => IntactVisits platform log →
      RowsMatch root.database ∧ ∀ run, root.runArtifact = some run → NamesComplete run) ?_ ?_
    · obtain ⟨inputs, definitions, rfl⟩ := h.created_start
      refine fun _ => ⟨⟨fun stageId => ?_, fun stageId row hrow => ?_⟩, fun run hrun => ?_⟩
      · simp [RunRoot.create, RunDatabase.created, StageRow.initial]
      · simp [RunRoot.create, RunDatabase.created] at hrow
      · simp [RunRoot.create] at hrun
    · intro log root label next hhistory ih hstep hintact
      obtain ⟨hrows, hnames⟩ := ih hintact.earlier
      have hsound := sound_of_history hstart hhistory
      refine ⟨hrows.step hsound hintact.earlier hstep, fun run hrun => ?_⟩
      rcases hstep.runArtifact with hsame | hexported
      · exact hnames run (hsame ▸ hrun)
      · rw [hexported] at hrun
        exact Option.some.inj hrun ▸ hrows.namesComplete
  obtain ⟨hrows, hnames⟩ := hinvariant hintact
  exact ⟨hrows.complete, hnames⟩

/-- The first lifetime of the small run finds nothing damaged. -/
theorem rows_match_complete_small : SmallReaches smallComplete ∧
    smallComplete.store.database.artifact "report" ≠ [] ∧
    ((smallComplete.store.database.stage "report").state = .complete) ∧
    ∀ run, smallComplete.store.runArtifact = some run → NamesComplete run := by
  have hclean : (smallComplete.log.all (fun effect => match effect.label with
      | .visited definition => !damagedComplete smallPlatform effect.before definition
      | _ => true)) = true := by decide +kernel
  have hintact : IntactVisits smallPlatform smallComplete.log := by
    intro effect hmem definition hlabel
    have := List.all_eq_true.mp hclean effect hmem
    simpa [hlabel] using this
  have hcomplete : (smallComplete.store.database.stage "report").state = .complete := by
    decide +kernel
  obtain ⟨hrows, hnames⟩ := rows_match_complete smallComplete_reaches hintact
  exact ⟨smallComplete_reaches, (hrows "report").mpr hcomplete, hcomplete, hnames⟩

/-- The small run, resumed after everything published has been removed. -/
def smallRemoved : RunMachine SmallBytes :=
  smallAfter (smallLife (smallDefinitions "1") none)
    (smallDisturbed (fun _ _ => .missing) smallComplete)

/-- There the stage that failed finally keeps its rows, and `run.json` names them. -/
theorem rows_of_failed_stage : SmallReaches smallRemoved ∧
    (smallRemoved.store.database.stage "detect").state = .failedFinal ∧
    smallRemoved.store.database.artifact "detect" ≠ [] ∧
    ∃ run, smallRemoved.store.runArtifact = some run ∧ ¬ NamesComplete run := by
  have hreaches : SmallReaches smallRemoved :=
    smallAfter_reaches _ (smallDisturbed_reaches _ smallComplete_reaches)
  have hartifact : smallRemoved.store.runArtifact.any (fun run => run.stages.any (fun entry =>
      entry.2.outputHashes ≠ [] && entry.2.state ≠ .complete)) = true := by decide +kernel
  refine ⟨hreaches, by decide +kernel, by decide +kernel, ?_⟩
  obtain ⟨run, hrun, hnamed⟩ := (Option.any_eq_true _ _).mp hartifact
  obtain ⟨entry, hentry, hstate⟩ := List.any_eq_true.mp hnamed
  rw [Bool.and_eq_true, decide_eq_true_eq, decide_eq_true_eq] at hstate
  exact ⟨run, hrun, fun hcomplete => hstate.2 (hcomplete.outputs entry hentry hstate.1)⟩

end CartoSentry.Runstate
