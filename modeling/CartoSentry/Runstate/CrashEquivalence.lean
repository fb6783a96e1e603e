import CartoSentry.Runstate.OnPlan

set_option autoImplicit false

/-!
# Run state: crash equivalence

Wherever the processes of a run are stopped, they leave the root on plan.  A run
that nothing stops raises nothing on such a root and completes every stage, so it
finishes the plan; and the plan depends on the inputs and the definitions only.
-/

namespace CartoSentry.Runstate

open CartoSentry.Foundation RunEngine

variable {Bytes : Type}

/-- Every lifetime runs these definitions with nothing forced, and nobody else
touches the root. -/
def Setting.crashing (platform : Platform Bytes) (definitions : List (StageDefinition Bytes)) :
    Setting Bytes where
  platform := platform
  lives := fun life => life.definitions = definitions ∧ life.forceStage = none ∧
    life.dryRun = false
  disturbs := fun _ _ _ => False

/-! ## Runs that nothing stops -/

section Run

variable {platform : Platform Bytes} {engine : RunEngine Bytes} {plan : StageId → StagePlan}
  {start root : RunRoot Bytes} {log : RunLog Bytes}

/-- The passed stages are complete, unless some stage has failed finally. -/
def Progress (front : List (StageDefinition Bytes)) (root : RunRoot Bytes) : Prop :=
  (∃ stageId, (root.database.stage stageId).state = .failedFinal) ∨
    ∀ definition ∈ front, IsComplete root definition.stageId

theorem mem_nodes_front {front : List (StageDefinition Bytes)} {stageId : StageId}
    (h : stageId ∈ (topologyOf front).nodes) :
    ∃ definition ∈ front, definition.stageId = stageId := by
  rw [nodes_topologyOf] at h
  exact List.mem_map.mp h

/-- The loop of a run that forces nothing completes every stage it passes. -/
theorem progress_invariant (hopened : Opened engine root) :
    ExecutionInvariant platform engine [] (fun front root =>
      Pending engine [] front root ∧ Progress front root) (Progress engine.definitions) := by
  have hpending : ExecutionInvariant platform engine [] (Pending engine []) (fun _ => True) :=
    pending_invariant hopened
  refine {
    skipped := ?_, failedFinal := fun _ _ _ _ _ _ hfailed => .inl ⟨_, hfailed⟩, blocked := ?_,
    begins := fun front definition rest root hsplit hsound h =>
      hpending.begins front definition rest root hsplit hsound h.1,
    executed := ?_, done := fun _ h => h.2, exported := fun _ _ h => h }
  · intro front definition rest root hsplit h hcomplete hscope
    have hnext := hpending.skipped front definition rest root hsplit h.1 hcomplete hscope
    refine ⟨hnext, h.2.imp_right (fun hfront other hmem => ?_)⟩
    rcases List.mem_append.mp hmem with hmem | hmem
    · exact hfront other hmem
    · rw [List.mem_singleton.mp hmem]
      exact hcomplete
  · intro front definition rest root hsplit h hskip hfinal hupstream
    have hnext := hpending.blocked front definition rest root hsplit h.1 hskip hfinal hupstream
    refine ⟨hnext, ?_⟩
    rcases h.2 with hfailed | hfront
    · exact .inl hfailed
    · -- every stage before this one is complete, so it cannot be blocked
      have hclear : ∀ upstream ∈ definition.dependencies,
          (root.database.stage upstream).state = .complete := by
        intro upstream hdep
        obtain ⟨other, hother, rfl⟩ := mem_nodes_front (hopened.dependency_front hsplit upstream hdep)
        exact hfront other hother
      rw [upstreamIncomplete_eq_false hclear] at hupstream
      cases hupstream
  · intro front definition rest root key attemptId manifest payloads next hsplit hopen h hclear
      hexecuted
    have hnext := hpending.executed front definition rest root key attemptId manifest payloads next
      hsplit hopen h.1 hclear hexecuted
    refine ⟨hnext, ?_⟩
    rcases h.2 with ⟨stageId, hfailed⟩ | hfront
    · refine .inl ⟨stageId, ?_⟩
      have hne : stageId ≠ definition.stageId := by
        rintro rfl
        have hbegins := hexecuted.begins
        rw [hfailed] at hbegins
        cases hbegins
      rw [hexecuted.stage, Function.update_of_ne hne]
      exact hfailed
    · refine .inr (fun other hmem => ?_)
      unfold IsComplete
      rw [hexecuted.stage]
      by_cases hsame : other.stageId = definition.stageId
      · rw [hsame, Function.update_self]
        rfl
      · rw [Function.update_of_ne hsame]
        rcases List.mem_append.mp hmem with hmem | hmem
        · exact hfront other hmem
        · exact absurd (congrArg _ (List.mem_singleton.mp hmem)) hsame

/-- A new root is on every plan. -/
theorem OnPlan.created {inputs : RunInputs} {definitions : List (StageDefinition Bytes)}
    (hvalid : ValidDefinitions definitions) :
    OnPlan platform ⟨inputs, definitions⟩ plan (RunRoot.create inputs definitions) where
  opened := ⟨rfl, rfl, hvalid⟩
  named := Named.created inputs definitions
  state := fun _ => ⟨by simp [RunRoot.create, RunDatabase.created, StageRow.initial],
    by simp [RunRoot.create, RunDatabase.created, StageRow.initial]⟩
  required := fun _ => rfl
  idle := fun _ _ => rfl
  running := by
    intro stageId attemptId hrunning
    simp [RunRoot.create, RunDatabase.created, StageRow.initial] at hrunning
  complete := by
    intro definition _ hcomplete
    simp [IsComplete, RunRoot.create, RunDatabase.created, StageRow.initial] at hcomplete
  cacheRoot := fun _ _ => by simp [RunRoot.create]
  published := by
    intro definition _ entry hentry
    simp [RunRoot.create, CacheRoot.entries] at hentry

/-- What the run inputs and the definitions have to supply for a run to finish. -/
structure Runnable (platform : Platform Bytes) (engine : RunEngine Bytes) : Prop where
  valid : ValidDefinitions engine.definitions
  configured : ∀ definition ∈ engine.definitions, ∃ relevant, relevantConfiguration engine.inputs
    definition.stageId definition.relevantConfigurationKeys = .ok relevant
  outputs : ∀ definition ∈ engine.definitions, ValidOutputs platform engine.inputs definition
  exportable : ∀ definition ∈ engine.definitions, Exportable engine.inputs definition

/-- Wherever the processes of a crashing history stop, the root is on plan. -/
theorem onPlan_of_history (hrunnable : Runnable platform engine)
    (hplan : ∀ definition ∈ engine.definitions, Planned platform engine.inputs plan definition)
    (h : History (RunStep (Setting.crashing platform engine.definitions))
      (RunRoot.create engine.inputs engine.definitions) log root) :
    OnPlan platform engine plan root := by
  refine h.invariant (I := OnPlan platform engine plan) (OnPlan.created hrunnable.valid) ?_
  intro log root label next honPlan hstep
  cases hstep with
  | visited => exact honPlan
  | engine hlife _ hstep =>
    obtain ⟨hdefinitions, hforce, _⟩ := hlife
    rw [engineOn_eq honPlan.opened hdefinitions.symm, hforce] at hstep
    exact honPlan.step hplan hrunnable.outputs hstep
  | external hdisturbs => exact hdisturbs.elim

/-- A root on plan raises nothing in a process that nothing stops. -/
theorem productive_onPlan (hrunnable : Runnable platform engine)
    (hplan : ∀ definition ∈ engine.definitions, Planned platform engine.inputs plan definition)
    {env : ProcessEnv} (hproceeds : ∀ boundary stageId,
      env.crashCallback boundary stageId = .proceed) {I : RunMachine Bytes → Prop}
    (hlives : ∀ m, I m → m.lifespan = none) (hsound : ∀ m, I m → Sound m.store.database)
    (honPlan : ∀ m, I m → OnPlan platform engine plan m.store) :
    Productive platform engine env I where
  lives := hlives
  configured := hrunnable.configured
  unblocked := fun m hm definition _ hblocked => ((honPlan m hm).state _).1 hblocked.1
  recordable := by
    intro m hm definition hmem key attempt hadoptable
    obtain ⟨_, _, _, _, hrow⟩ := (honPlan m hm).follows.adoptable hplan hmem hadoptable
    exact upsertAttempt_of_row hrow
  proceeds := hproceeds
  outputs := hrunnable.outputs
  portable := fun m hm => (honPlan m hm).follows.portable hplan
    (fun definition hmem => (hrunnable.outputs definition hmem).1) hrunnable.exportable
  admits := fun m hm definition _ row hstage hnumber hname => by
    obtain ⟨uuid, hname⟩ := hname
    exact (honPlan m hm).named.admits (hsound m hm) hstage hnumber hname
  unused := fun m hm definition _ uuid => (honPlan m hm).named.unused definition.stageId uuid
  unpublished := fun m hm definition _ cacheKey uuid =>
    ⟨(honPlan m hm).cacheRoot _ _, (honPlan m hm).named.unpublished definition.stageId cacheKey uuid⟩

/-- The semantic hash of a run that carries out the plan. -/
def plannedSha256 (platform : Platform Bytes) (definitions : List (StageDefinition Bytes))
    (plan : StageId → StagePlan) : Sha256 :=
  platform.canonicalSha256 (.object ((topologyOf definitions).nodes.map (fun stageId =>
    (stageId, .ofMapping (entryHashes (plan stageId).artifacts)))))

theorem Opened.stageStates_complete (hopened : Opened engine root)
    (hcomplete : ∀ definition ∈ engine.definitions, IsComplete root definition.stageId) :
    ∀ entry ∈ root.database.stageStates, entry.2 = .complete := by
  intro entry hentry
  obtain ⟨stageId, hstage, rfl⟩ := List.mem_map.mp hentry
  obtain ⟨definition, hmem, rfl⟩ := hopened.definition_of_mem hstage
  exact hcomplete definition hmem

/-- Once every stage is complete, the report says so. -/
theorem Opened.report_complete (hopened : Opened engine root)
    (hcomplete : ∀ definition ∈ engine.definitions, IsComplete root definition.stageId)
    (actions : List StageActionRecord) (scope : List StageId) :
    (engine.report platform root actions scope).complete = true :=
  List.all_eq_true.mpr (fun entry hentry =>
    decide_eq_true (hopened.stageStates_complete hcomplete entry hentry))

/-- Once every stage is complete, the report says so and hashes the plan. -/
theorem OnPlan.report (h : OnPlan platform engine plan root)
    (hcomplete : ∀ definition ∈ engine.definitions, IsComplete root definition.stageId)
    (actions : List StageActionRecord) (scope : List StageId) :
    (engine.report platform root actions scope).complete = true ∧
      (engine.report platform root actions scope).semanticSha256 =
        some (plannedSha256 platform engine.definitions plan) := by
  have hstates := h.opened.stageStates_complete hcomplete
  refine ⟨h.opened.report_complete hcomplete actions scope, ?_⟩
  change semanticSha256 platform root.database = _
  unfold semanticSha256 semanticDocument plannedSha256
  rw [if_neg (by simpa using fun stageId state hentry => hstates (stageId, state) hentry)]
  have hdocument : ∀ stageId ∈ root.database.stageIds,
      root.database.artifactHashes stageId = entryHashes (plan stageId).artifacts := by
    intro stageId hstage
    obtain ⟨definition, hmem, rfl⟩ := h.opened.definition_of_mem hstage
    exact artifactHashes_planned (h.complete definition hmem (hcomplete definition hmem)).rows
  rw [← h.opened.topology]
  refine congrArg (fun entries => some (platform.canonicalSha256 (.object entries))) ?_
  exact List.map_congr_left (fun stageId hstage => by rw [hdocument stageId hstage])

/-- A machine that never dies, in a process of a crashing history. -/
def Unstopped (platform : Platform Bytes) (engine : RunEngine Bytes) (m : RunMachine Bytes) :
    Prop :=
  Running (Setting.crashing platform engine.definitions)
    (RunRoot.create engine.inputs engine.definitions) engine m ∧ m.lifespan = none

theorem preserved_unstopped (hrunnable : Runnable platform engine) :
    Preserved platform engine none (Unstopped platform engine) (fun m =>
      Running (Setting.crashing platform engine.definitions)
        (RunRoot.create engine.inputs engine.definitions) engine m ∧ True) := by
  let life : Lifetime Bytes :=
    ⟨engine.definitions, none, false, ⟨fun _ _ => .proceed, fun _ => ""⟩, none⟩
  have hlife : (Setting.crashing platform engine.definitions).lives life := ⟨rfl, rfl, rfl⟩
  have hstart : Sound (RunRoot.create engine.inputs engine.definitions).database :=
    Sound.created hrunnable.valid
  have hrunning : Preserved platform engine none _ _ := preserved_running hstart hlife rfl
  exact hrunning.and (fun m _ _ _ hm _ => by simp [hm]) (fun _ _ hm _ => hm)
    (fun _ _ _ _ => trivial) (fun _ _ _ _ => trivial)

/-- A run that nothing stops finishes the plan, wherever earlier ones were stopped. -/
theorem run_finishes (hrunnable : Runnable platform engine)
    (hplan : ∀ definition ∈ engine.definitions, Planned platform engine.inputs plan definition)
    {env : ProcessEnv} (hproceeds : ∀ boundary stageId,
      env.crashCallback boundary stageId = .proceed)
    (h : History (RunStep (Setting.crashing platform engine.definitions))
      (RunRoot.create engine.inputs engine.definitions) log root) :
    ∃ report, (engine.run platform env none false ⟨root, none, log⟩).1 = .returned report ∧
      report.complete = true ∧
      report.semanticSha256 = some (plannedSha256 platform engine.definitions plan) := by
  have hstart : Sound (RunRoot.create engine.inputs engine.definitions).database :=
    Sound.created hrunnable.valid
  have honPlan := onPlan_of_history hrunnable hplan h
  have hproductive : True → Productive platform engine env (Unstopped platform engine) := fun _ =>
    productive_onPlan hrunnable hplan hproceeds (fun m hm => hm.2)
      (fun m hm => sound_of_history hstart hm.1.1)
      (fun m hm => onPlan_of_history hrunnable hplan hm.1.1)
  have hended := run_triple (preserved_unstopped hrunnable) hproductive rfl allVisited_invariant
    (progress_invariant honPlan.opened) ?_ ⟨root, none, log⟩
    ⟨⟨⟨h, honPlan.opened⟩, rfl⟩, fun _ hnil => by simp at hnil⟩
  · generalize engine.run platform env none false ⟨root, none, log⟩ = ended at hended ⊢
    obtain ⟨outcome, m⟩ := ended
    cases outcome with
    | raised e => exact absurd trivial hended.1
    | died => exact absurd trivial hended.1
    | returned report =>
      obtain ⟨⟨⟨hhistory, _⟩, _⟩, hprogress, _, actions, rfl⟩ := hended
      have hend := onPlan_of_history hrunnable hplan hhistory
      refine ⟨_, rfl, hend.report ?_ actions []⟩
      rcases hprogress with ⟨stageId, hfailed⟩ | hcomplete
      · exact absurd hfailed (hend.state stageId).1
      · exact hcomplete
  · intro root next hopened hsound hvisited hforce
    exact ⟨pending_of_visited hopened hsound rfl hvisited hforce, .inr (fun _ hnil => by simp at hnil)⟩

theorem relevantConfiguration_eq_ok {inputs : RunInputs} {stageId : StageId} :
    ∀ {keys : List String}, (∀ key ∈ keys, (inputs.configurationHashes.lookup key).isSome = true) →
      ∃ relevant, relevantConfiguration inputs stageId keys = .ok relevant := by
  intro keys
  induction keys with
  | nil => intro _; exact ⟨[], rfl⟩
  | cons key rest ih =>
    intro h
    obtain ⟨digest, hdigest⟩ := Option.isSome_iff_exists.mp (h key List.mem_cons_self)
    obtain ⟨relevant, hrelevant⟩ := ih (fun other hother => h other (List.mem_cons_of_mem _ hother))
    unfold relevantConfiguration
    rw [hdigest]
    dsimp only
    rw [hrelevant]
    exact ⟨_, rfl⟩

end Run

/-! ## The small run -/

theorem small_validOutputs (stageId : StageId) (dependencies : List StageId) (version : String)
    (hidentifier : isIdentifier stageId = true) :
    ValidOutputs smallPlatform smallInputs (smallStage stageId dependencies version) := by
  refine ⟨hidentifier, fun cacheKey upstream =>
    ⟨[⟨"output", ["output.txt"], .text stageId, "text/plain"⟩], rfl, ?_, ?_, ?_, ?_⟩⟩
  · intro payload hmem
    rw [List.mem_singleton.mp hmem]
    have hpath : validateRelativePath ["output.txt"] = true := by decide
    simp [checkPayload, hpath]
  · intro payload hmem
    rw [List.mem_singleton.mp hmem]
    have hvalid : isIdentifier "output" = true ∧ validateRelativePath ["output.txt"] = true ∧
        "text/plain" ≠ "" := by decide
    exact ⟨_, dif_pos hvalid⟩
  · have hapart : [["output.txt"], attemptManifestFile].Pairwise (fun left right =>
        left.isPrefixOf right = false ∧ right.isPrefixOf left = false) := by decide
    exact hapart
  · intro manifest _
    exact Nat.one_le_iff_ne_zero.mpr (by decide)

theorem small_exportable (stageId : StageId) (dependencies : List StageId) (version : String)
    (hid : isForbiddenPortableKey stageId = false) :
    Exportable smallInputs (smallStage stageId dependencies version) := by
  refine ⟨hid, fun key hkey => ?_, fun cacheKey upstream payloads hpayloads payload hmem => ?_⟩
  · rw [List.mem_singleton.mp hkey]
    decide
  · obtain rfl := Except.ok.inj hpayloads
    rw [List.mem_singleton.mp hmem]
    have htype : pathLeak "text/plain" = false := by decide
    exact htype

/-- The small run, stopped before the completion of its first stage is recorded. -/
def smallStopped : RunMachine SmallBytes :=
  smallAfter (smallCrash (smallDefinitions "1") none .afterPointerPublished "detect")
    ⟨smallStart, none, []⟩

theorem smallAfter_crashing {definitions : List (StageDefinition SmallBytes)}
    (life : Lifetime SmallBytes) {m : RunMachine SmallBytes}
    (h : Reaches (Setting.crashing smallPlatform definitions) smallStart m.log m.store)
    (hlife : (Setting.crashing smallPlatform definitions).lives life) :
    Reaches (Setting.crashing smallPlatform definitions) smallStart (smallAfter life m).log
      (smallAfter life m).store :=
  Reaches.next h hlife

/-- A stage that needs a configuration hash the run inputs do not have. -/
def smallConfigured : List (StageDefinition SmallBytes) :=
  [{ smallStage "detect" [] "1" with relevantConfigurationKeys := ["threshold"] }]

end CartoSentry.Runstate
