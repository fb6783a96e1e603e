import CartoSentry.Runstate.CompleteClosure

set_option autoImplicit false

/-!
# Run state: the processes refine the steps

Whatever a process does on a run root, and wherever it is stopped, its log is a
history of `RunStep`.  So the invariants of the steps hold of every root that any
sequence of lifetimes and disturbances leaves behind.
-/

namespace CartoSentry.Runstate

open CartoSentry.Foundation RunEngine

variable {Bytes : Type}

section Refinement

variable {setting : Setting Bytes} {start : RunRoot Bytes} {life : Lifetime Bytes}
  {engine : RunEngine Bytes}

theorem engineOn_eq {root : RunRoot Bytes} {definitions : List (StageDefinition Bytes)}
    (hopened : Opened engine root) (hdefinitions : engine.definitions = definitions) :
    engineOn root definitions = engine := by
  obtain ⟨inputs, _⟩ := engine
  subst hdefinitions
  rw [engineOn, hopened.inputs]

theorem engineOn_opened {root : RunRoot Bytes} {definitions : List (StageDefinition Bytes)}
    (htopology : root.database.topology = topologyOf definitions)
    (hvalid : ValidDefinitions definitions) : Opened (engineOn root definitions) root :=
  ⟨rfl, htopology, hvalid⟩

/-- A machine of an engine that a lifetime has opened, with its log a history. -/
def Running (setting : Setting Bytes) (start : RunRoot Bytes) (engine : RunEngine Bytes)
    (m : RunMachine Bytes) : Prop :=
  Recorded (RunStep setting) start m ∧ Opened engine m.store

theorem Running.after {m : RunMachine Bytes} {label : Label Bytes} {root : RunRoot Bytes}
    (h : Running setting start engine m) (hlife : setting.lives life)
    (hdefinitions : engine.definitions = life.definitions)
    (hstep : EngineStep setting.platform engine life.forceStage m.log m.store label root) :
    Running setting start engine (m.after label root) := by
  obtain ⟨hrecorded, hopened⟩ := h
  have hengine := engineOn_eq hopened hdefinitions
  have hchange := hstep.databaseChange hopened
  refine ⟨hrecorded.after (.engine hlife (hengine ▸ hopened) (hengine ▸ hstep)), ?_⟩
  exact hopened.keep hchange.inputs hchange.topology

theorem Running.noted {m : RunMachine Bytes} {definition : StageDefinition Bytes}
    (h : Running setting start engine m) (hlife : setting.lives life)
    (hdefinitions : engine.definitions = life.definitions)
    (hmem : definition ∈ engine.definitions) :
    Running setting start engine (m.noted (.visited definition)) := by
  obtain ⟨hrecorded, hopened⟩ := h
  have hengine := engineOn_eq hopened hdefinitions
  exact ⟨hrecorded.noted (.visited hlife (hengine ▸ hopened) (hdefinitions ▸ hmem)), hopened⟩

/-- The effects of an opened engine only add steps to a history. -/
theorem preserved_running (hstart : Sound start.database) (hlife : setting.lives life)
    (hdefinitions : engine.definitions = life.definitions) :
    Preserved setting.platform engine life.forceStage (Running setting start engine)
      (Running setting start engine) where
  opened := fun _ h => h.2
  sound := fun _ h => sound_of_history hstart h.1
  effect := fun _ _ _ h hstep => h.after hlife hdefinitions hstep
  visit := fun _ _ h hmem _ => h.noted hlife hdefinitions hmem
  stuck := fun _ _ h hmem _ => h.noted hlife hdefinitions hmem
  stuckPointer := fun _ _ _ h => h.after hlife hdefinitions .pointerWritten

/-- Among unrestricted lifetimes there is one for every engine and forced stage. -/
theorem preserved_unrestricted (platform : Platform Bytes) (engine : RunEngine Bytes)
    (forceStage : Option StageId) (hstart : Sound start.database) :
    Preserved platform engine forceStage (Running (Setting.unrestricted platform) start engine)
      (Running (Setting.unrestricted platform) start engine) := by
  let life : Lifetime Bytes :=
    ⟨engine.definitions, forceStage, false, ⟨fun _ _ => .proceed, fun _ => ""⟩, none⟩
  have hlife : (Setting.unrestricted platform).lives life := trivial
  exact preserved_running hstart hlife rfl

/-- `open` leaves the root alone and checks its identity and the definitions. -/
theorem openEngine_triple {definitions : List (StageDefinition Bytes)}
    {P : RunMachine Bytes → Prop} :
    Triple P (openEngine definitions) ⟨fun engine m => P m ∧ Opened engine m.store ∧
      engine.definitions = definitions, fun _ => P, P⟩ := by
  unfold openEngine
  refine Triple.bind (R := fun _ m => P m ∧ ValidDefinitions definitions) ?_ (fun _ => ?_)
  · exact Triple.ofExcept (fun _ hok m hm => ⟨hm, validateStageDefinitions_eq_ok hok⟩)
      (fun _ _ m hm => hm)
  refine Triple.readBind (fun root => ?_)
  refine Triple.bind (R := fun _ m => (P m ∧ ValidDefinitions definitions) ∧ m.store = root ∧
    root.database.topology = topologyOf definitions) ?_ (fun _ => Triple.pure ?_)
  · refine Triple.ofExcept (fun _ hok m hm => ⟨hm.1, hm.2, ?_⟩) (fun _ _ m hm => hm.1.1)
    unfold RunDatabase.checkIdentity at hok
    split at hok
    · rename_i hidentity
      exact hidentity.2
    · exact absurd hok (by simp)
  · rintro m ⟨⟨hP, hvalid⟩, rfl, htopology⟩
    exact ⟨hP, ⟨rfl, htopology, hvalid⟩, rfl⟩

/-- Every reconciliation of an opened engine, however it ends. -/
theorem reconcile_opened {platform : Platform Bytes} {forceStage : Option StageId}
    {I B : RunMachine Bytes → Prop} (hI : Preserved platform engine forceStage I B) :
    Triple I (engine.reconcile platform) (reconciling I B False (fun actions m =>
      NothingExecuted actions ∧ AllVisited platform engine engine.definitions m.store)) :=
  (reconcile_triple hI (fun h => h.elim) allVisited_invariant).strengthenPre
    (fun _ hm => ⟨hm, fun _ hnil => by simp at hnil⟩)

/-- Every run of an opened engine, whatever it is asked for and however it ends. -/
theorem run_opened {platform : Platform Bytes} {forceStage : Option StageId}
    {I B : RunMachine Bytes → Prop} (hI : Preserved platform engine forceStage I B)
    (env : ProcessEnv) (dryRun : Bool) :
    Triple I (engine.run platform env forceStage dryRun)
      (reconciling I B False (fun _ _ => True)) := by
  cases hscope : engine.forcedScopeOf forceStage with
  | error e =>
    unfold RunEngine.run
    rw [hscope]
    refine Triple.bind (R := fun _ _ => False) (Triple.raise (fun m hm => ?_)) (fun _ m h => h.elim)
    have hunknown : e.isRefusal = false := by
      unfold RunEngine.forcedScopeOf at hscope
      cases forceStage with
      | none => cases hscope
      | some stageId =>
        unfold RunEngine.dependencyClosure at hscope
        dsimp only at hscope
        split at hscope
        · cases hscope
        · obtain rfl := Except.error.inj hscope; rfl
    refine ⟨id, e.isBegin_of_not_refusal hunknown, ?_⟩
    rw [e.isTransition_of_not_refusal hunknown]
    exact hm
  | ok scope =>
    cases dryRun with
    | true =>
      unfold RunEngine.run
      refine Triple.ofExceptKnown hscope ?_
      rw [if_pos rfl]
      refine Triple.ite (fun _ => Triple.readBind (fun root => Triple.pure ?_))
        (fun _ => Triple.raise (fun m hm => ⟨id, rfl, hm⟩))
      exact fun m hm => ⟨hm.1, trivial⟩
    | false =>
      refine Triple.perStore (fun root => ?_)
      refine Triple.assume (fun m hm => hm.2 ▸ hI.opened m hm.1) (fun hopened => ?_)
      refine (run_triple hI (fun h => h.elim) hscope allVisited_invariant
        (pending_invariant hopened) (fun _ _ hopened hsound hvisited hforce =>
          pending_of_visited hopened hsound hscope hvisited hforce)).weaken ?_ ?_
        (fun _ _ h => h) (fun _ h => h)
      · exact fun m hm => ⟨hm.1, fun _ h => by simp at h⟩
      · exact fun _ m hm => ⟨hm.1, trivial⟩

/-- A process of these definitions that forces nothing and lives as long as it likes. -/
def Lifetime.unforced (definitions : List (StageDefinition Bytes)) (env : ProcessEnv) :
    Lifetime Bytes where
  definitions := definitions
  forceStage := none
  dryRun := false
  env := env
  lifespan := none

/-- Opening a root with its own definitions leads to `run`. -/
theorem process_eq_run (life : Lifetime Bytes) {platform : Platform Bytes}
    (hvalid : validateStageDefinitions life.definitions = .ok ()) {m : RunMachine Bytes}
    (htopology : m.store.database.topology = topologyOf life.definitions) :
    life.process platform m =
      (engineOn m.store life.definitions).run platform life.env life.forceStage life.dryRun m := by
  have hidentity : m.store.database.checkIdentity m.store.database.inputs life.definitions =
      .ok () := if_pos ⟨rfl, htopology⟩
  have hopen : openEngine life.definitions m =
      (.returned (engineOn m.store life.definitions), m) := by
    unfold openEngine
    rw [hvalid]
    change Proc.bind (Proc.ofExcept (m.store.database.checkIdentity m.store.database.inputs
      life.definitions)) _ m = _
    rw [hidentity]
    rfl
  unfold Lifetime.process
  change Proc.bind _ _ _ = _
  unfold Proc.bind
  rw [hopen]

/-- A lifetime only adds steps to a history. -/
theorem process_recorded (hstart : Sound start.database) (hlife : setting.lives life)
    {m : RunMachine Bytes} (h : Recorded (RunStep setting) start m) :
    Recorded (RunStep setting) start (life.process setting.platform m).2 := by
  have htriple : Triple (Recorded (RunStep setting) start) (life.process setting.platform)
      (Post.always (Recorded (RunStep setting) start)) := by
    unfold Lifetime.process
    refine Triple.bind openEngine_triple (fun engine => ?_)
    refine Triple.assume (fun m hm => hm.2.2) (fun hdefinitions => ?_)
    refine (run_opened (preserved_running hstart hlife hdefinitions) life.env life.dryRun).weaken
      (fun m hm => ⟨hm.1, hm.2.1⟩) ?_ ?_ ?_
    · exact fun _ m hm => hm.1.1
    · rintro e m ⟨_, _, hm⟩
      split at hm
      · exact hm.1
      · exact hm.1
    · rintro m ⟨_, hm | hm⟩
      · exact hm.1
      · exact hm.1
  exact (htriple m h).machine (fun _ _ h => h) (fun _ _ h => h) (fun _ h => h)

/-- Every root that processes and disturbances leave behind is at the end of a history. -/
theorem Reaches.history {log : RunLog Bytes} {root : RunRoot Bytes}
    (h : Reaches setting start log root) :
    Sound start.database ∧ History (RunStep setting) start log root := by
  induction h with
  | created hvalid hstart =>
    exact ⟨hstart ▸ Sound.created (validateStageDefinitions_eq_ok hvalid), .nil⟩
  | @lived log root life outcome m _ hlife hprocess ih =>
    refine ⟨ih.1, ?_⟩
    have hrecorded := process_recorded ih.1 hlife (m := ⟨root, life.lifespan, log⟩) ih.2
    rw [hprocess] at hrecorded
    exact hrecorded
  | disturbed _ hdisturbs ih => exact ⟨ih.1, ih.2.snoc (.external hdisturbs)⟩

theorem Reaches.created_start {log : RunLog Bytes} {root : RunRoot Bytes}
    (h : Reaches setting start log root) :
    ∃ inputs definitions, start = RunRoot.create inputs definitions := by
  induction h with
  | @created inputs definitions _ hstart => exact ⟨inputs, definitions, hstart⟩
  | lived _ _ _ ih => exact ih
  | disturbed _ _ ih => exact ih

/-- The history after one more lifetime. -/
theorem Reaches.next {log : RunLog Bytes} {root : RunRoot Bytes}
    (h : Reaches setting start log root) (hlife : setting.lives life) :
    Reaches setting start (life.process setting.platform ⟨root, life.lifespan, log⟩).2.log
      (life.process setting.platform ⟨root, life.lifespan, log⟩).2.store :=
  .lived h hlife rfl

theorem Reaches.sound {log : RunLog Bytes} {root : RunRoot Bytes}
    (h : Reaches setting start log root) : Sound root.database :=
  sound_of_history h.history.1 h.history.2

end Refinement

/-! ## Attempt numbers over a history -/

/-- The numbers of the attempts of a stage that a history has begun. -/
def beganNumbers (stageId : StageId) (log : RunLog Bytes) : List Nat :=
  log.filterMap (fun effect => match effect.label with
    | .began begun _ attemptNumber => if begun = stageId then some attemptNumber else none
    | _ => none)

theorem beganNumbers_snoc (stageId : StageId) (log : RunLog Bytes) (root : RunRoot Bytes)
    (label : Label Bytes) : beganNumbers stageId (log ++ [⟨root, label⟩]) =
      beganNumbers stageId log ++ beganNumbers stageId [⟨root, label⟩] := by
  simp [beganNumbers]

/-- A step begins nothing, or the attempt that follows all those counted. -/
theorem RunStep.beganNumbers {setting : Setting Bytes} {log : RunLog Bytes}
    {root next : RunRoot Bytes} {label : Label Bytes} (h : RunStep setting log root label next)
    (stageId : StageId) : Runstate.beganNumbers stageId [⟨root, label⟩] = [] ∨
      ∃ number, Runstate.beganNumbers stageId [⟨root, label⟩] = [number] ∧
        (root.database.stage stageId).attemptCounter < number ∧
        number ≤ (next.database.stage stageId).attemptCounter := by
  cases label with
  | began begun attemptId number =>
    by_cases hsame : begun = stageId
    · subst hsame
      refine .inr ⟨number, by simp [Runstate.beganNumbers], ?_⟩
      cases h with
      | engine _ _ hstep =>
        cases hstep with
        | began _ _ hcommit =>
          have hbegun := RunDatabase.beginAttempt_eq_ok hcommit
          have hnumber := hbegun.number
          simp only [hbegun.stage, Function.update_self, RunDatabase.begunRow]
          omega
    · exact .inl (by simp [Runstate.beganNumbers, hsame])
  | _ => exact .inl rfl

/-- The attempt numbers of a stage increase strictly over a history. -/
theorem beganNumbers_increase {setting : Setting Bytes} {start root : RunRoot Bytes}
    {log : RunLog Bytes} (h : History (RunStep setting) start log root) (stageId : StageId) :
    (beganNumbers stageId log).Pairwise (· < ·) ∧ ∀ number ∈ beganNumbers stageId log,
      number ≤ (root.database.stage stageId).attemptCounter := by
  refine h.induct (J := fun log root => (beganNumbers stageId log).Pairwise (· < ·) ∧
    ∀ number ∈ beganNumbers stageId log,
      number ≤ (root.database.stage stageId).attemptCounter) ?_ ?_
  · exact ⟨.nil, by simp [beganNumbers]⟩
  intro log root label next _ ⟨hincreasing, hcounted⟩ hstep
  have hcounter := (hstep.databaseChange.rowChange stageId).attemptCounter_le
  rw [beganNumbers_snoc]
  rcases hstep.beganNumbers stageId with hnone | ⟨number, hnumber, hnew, hle⟩
  · rw [hnone, List.append_nil]
    exact ⟨hincreasing, fun n hn => Nat.le_trans (hcounted n hn) hcounter⟩
  · rw [hnumber]
    refine ⟨List.pairwise_append.mpr ⟨hincreasing, List.pairwise_singleton _ _, ?_⟩, ?_⟩
    · intro n hn later hlater
      rw [List.mem_singleton.mp hlater]
      exact Nat.lt_of_le_of_lt (hcounted n hn) hnew
    · intro n hn
      rcases List.mem_append.mp hn with hn | hn
      · exact Nat.le_trans (hcounted n hn) hcounter
      · rw [List.mem_singleton.mp hn]
        exact hle

/-! ## A small run -/

/-- Contents of the files of the small run. -/
inductive SmallBytes where
  | text (content : String)
  | manifest (value : AttemptManifest)
  | pointer (value : CompletionPointer)
  deriving DecidableEq

/-- A hash that keeps the whole of a document of depth two. -/
def renderSmall (entries : List (String × JsonValue)) : String :=
  String.join (entries.map (fun entry => entry.1 ++ "=" ++
    (match entry.2 with
      | .string value => value
      | .object fields => String.join (fields.map (fun field => field.1 ++ ":" ++
          (match field.2 with
            | .string value => value
            | _ => "") ++ ","))
      | .array _ => "") ++ ";"))

def smallPlatform : Platform SmallBytes where
  byteCount
    | .text content => content.length
    | .manifest _ | .pointer _ => 1
  sha256
    | .text content => "text " ++ content
    | .manifest value => "manifest " ++ value.attemptId.text
    | .pointer value => "pointer " ++ value.attemptId.text
  canonicalSha256
    | .object entries => renderSmall entries
    | .string _ | .array _ => ""
  manifests :=
    { encode := .manifest
      parse := fun | .manifest value => some value | _ => none
      parse_encode := fun _ _ => rfl }
  pointers :=
    { encode := .pointer
      parse := fun | .pointer value => some value | _ => none
      parse_encode := fun _ _ => rfl }

def smallInputs : RunInputs where
  workflowId := "workflow"
  sequenceId := "sequence"
  roadGraphId := "graph"
  profileId := "profile"
  engineVersion := "engine"
  sourceHashes := []
  configurationHashes := []
  numericalBackend := "backend"

/-- A stage with one output, which names the stage. -/
def smallStage (stageId : StageId) (dependencies : List StageId) (algorithmVersion : String) :
    StageDefinition SmallBytes where
  stageId := stageId
  dependencies := dependencies
  algorithmVersion := algorithmVersion
  relevantConfigurationKeys := []
  outputKeys := ["output"]
  execute := fun _ => .ok [⟨"output", ["output.txt"], .text stageId, "text/plain"⟩]
  validateOutputs := fun _ _ => .ok ()

/-- Two stages, the second downstream of the first. -/
def smallDefinitions (algorithmVersion : String) : List (StageDefinition SmallBytes) :=
  [smallStage "detect" [] algorithmVersion, smallStage "report" ["detect"] "1"]

def smallEnv : ProcessEnv where
  crashCallback := fun _ _ => .proceed
  uuid4 := fun _ => "uuid"

/-- The engine of the small run opens a root whose topology is its own. -/
theorem small_opened (root : RunRoot SmallBytes)
    (htopology : root.database.topology = topologyOf (smallDefinitions "1")) :
    Opened (engineOn root (smallDefinitions "1")) root :=
  have hvalid : validateStageDefinitions (smallDefinitions "1") = .ok () := by decide +kernel
  engineOn_opened htopology (validateStageDefinitions_eq_ok hvalid)

/-- A lifetime of the small run that nothing stops. -/
def smallLife (definitions : List (StageDefinition SmallBytes)) (forceStage : Option StageId) :
    Lifetime SmallBytes where
  definitions := definitions
  forceStage := forceStage
  dryRun := false
  env := smallEnv
  lifespan := none

/-- A lifetime of the small run that dies at a commit boundary of a stage. -/
def smallCrash (definitions : List (StageDefinition SmallBytes)) (forceStage : Option StageId)
    (boundary : CommitBoundary) (stageId : StageId) : Lifetime SmallBytes where
  definitions := definitions
  forceStage := forceStage
  dryRun := false
  env :=
    { crashCallback := fun reached stage =>
        if reached = boundary ∧ stage = stageId then .die else .proceed
      uuid4 := fun _ => "uuid" }
  lifespan := none

def smallStart : RunRoot SmallBytes := RunRoot.create smallInputs (smallDefinitions "1")

/-- The machine after a lifetime on the root of another. -/
def smallAfter (life : Lifetime SmallBytes) (m : RunMachine SmallBytes) : RunMachine SmallBytes :=
  (life.process smallPlatform ⟨m.store, life.lifespan, m.log⟩).2

/-- The machine after somebody else has replaced the published tree. -/
def smallDisturbed (tree : ArtifactTree SmallBytes) (m : RunMachine SmallBytes) :
    RunMachine SmallBytes :=
  ⟨{ m.store with artifacts := tree }, none, m.log ++ [⟨m.store, .external⟩]⟩

/-- The small run after its first lifetime. -/
def smallComplete : RunMachine SmallBytes :=
  smallAfter (smallLife (smallDefinitions "1") none) ⟨smallStart, none, []⟩

/-- The machines that the small run reaches. -/
def SmallReaches (m : RunMachine SmallBytes) : Prop :=
  Reaches (Setting.unrestricted smallPlatform) smallStart m.log m.store

theorem process_eq_smallAfter (life : Lifetime SmallBytes) (m : RunMachine SmallBytes)
    {outcome : Outcome RunError RunExecutionReport}
    (h : (life.process smallPlatform ⟨m.store, life.lifespan, m.log⟩).1 = outcome) :
    life.process smallPlatform ⟨m.store, life.lifespan, m.log⟩ = (outcome, smallAfter life m) :=
  Prod.ext h rfl

theorem smallStart_reaches : SmallReaches ⟨smallStart, none, []⟩ :=
  have hvalid : validateStageDefinitions (smallDefinitions "1") = .ok () := by decide +kernel
  .created hvalid rfl

theorem smallAfter_reaches (life : Lifetime SmallBytes) {m : RunMachine SmallBytes}
    (h : SmallReaches m) : SmallReaches (smallAfter life m) :=
  Reaches.next h trivial

theorem smallDisturbed_reaches (tree : ArtifactTree SmallBytes) {m : RunMachine SmallBytes}
    (h : SmallReaches m) : SmallReaches (smallDisturbed tree m) :=
  Reaches.disturbed h trivial

theorem smallComplete_reaches : SmallReaches smallComplete :=
  smallAfter_reaches _ smallStart_reaches

end CartoSentry.Runstate
