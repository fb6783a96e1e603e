import CartoSentry.Runstate.CrashEquivalence
import CartoSentry.Runstate.Stability

set_option autoImplicit false

/-!
# Run state: forced runs

On a root that follows its plan and is complete, reconciliation changes no state and
no counter.  The forced invalidation then resets exactly what lies downstream of the
forced stage, and the loop of `run` executes each of these stages once, in definition
order.
-/

namespace CartoSentry.Runstate

open CartoSentry.Foundation RunEngine DependencyGraph

variable {Bytes : Type}

/-! ## What every effect of an engine keeps -/

/-- The root is sound, follows its plan and has counted whatever is published. -/
structure Consistent (platform : Platform Bytes) (engine : RunEngine Bytes)
    (plan : StageId → StagePlan) (root : RunRoot Bytes) : Prop where
  sound : Sound root.database
  follows : FollowsPlan platform engine plan root
  counted : Counted platform root

/-- Every lifetime of these definitions, whatever it forces, and nobody else touches
the root. -/
def Setting.undisturbed (platform : Platform Bytes) (definitions : List (StageDefinition Bytes)) :
    Setting Bytes where
  platform := platform
  lives := fun life => life.definitions = definitions
  disturbs := fun _ _ _ => False

section Consistent

variable {platform : Platform Bytes} {engine : RunEngine Bytes} {plan : StageId → StagePlan}
  {forceStage : Option StageId} {root next : RunRoot Bytes} {log : RunLog Bytes}

theorem Consistent.step (h : Consistent platform engine plan root)
    (hplan : ∀ definition ∈ engine.definitions, Planned platform engine.inputs plan definition)
    (houtputs : ∀ definition ∈ engine.definitions,
      ValidOutputs platform engine.inputs definition) {label : Label Bytes}
    (hstep : EngineStep platform engine forceStage log root label next) :
    Consistent platform engine plan next where
  sound := h.sound.preserved (hstep.databaseChange h.follows.opened)
  follows := h.follows.step hplan houtputs h.sound.required hstep
  counted := h.counted.step h.follows.opened hstep

/-- Whatever lifetimes of these definitions do, forced or not and stopped anywhere,
they leave a consistent root. -/
theorem consistent_of_history (hrunnable : Runnable platform engine)
    (hplan : ∀ definition ∈ engine.definitions, Planned platform engine.inputs plan definition)
    (h : History (RunStep (Setting.undisturbed platform engine.definitions))
      (RunRoot.create engine.inputs engine.definitions) log root) :
    Consistent platform engine plan root := by
  refine h.invariant (I := Consistent platform engine plan) ?_ ?_
  · exact ⟨Sound.created hrunnable.valid, (OnPlan.created hrunnable.valid).follows,
      Counted.created⟩
  intro log root label next hconsistent hstep
  cases hstep with
  | visited => exact hconsistent
  | engine hlife _ hstep =>
    rw [engineOn_eq hconsistent.follows.opened hlife.symm] at hstep
    exact hconsistent.step hplan hrunnable.outputs hstep
  | external hdisturbs => exact hdisturbs.elim

/-- A machine that never dies, on a consistent root. -/
structure Steadfast (platform : Platform Bytes) (engine : RunEngine Bytes)
    (plan : StageId → StagePlan) (m : RunMachine Bytes) : Prop where
  lives : m.lifespan = none
  consistent : Consistent platform engine plan m.store

theorem preserved_steadfast (hrunnable : Runnable platform engine)
    (hplan : ∀ definition ∈ engine.definitions, Planned platform engine.inputs plan definition)
    (forceStage : Option StageId) :
    Preserved platform engine forceStage (Steadfast platform engine plan) (fun _ => True) where
  opened := fun _ hm => hm.consistent.follows.opened
  sound := fun _ hm => hm.consistent.sound
  effect := fun m label root hm hstep =>
    ⟨by simp [hm.lives], hm.consistent.step hplan hrunnable.outputs hstep⟩
  visit := fun _ _ hm _ _ => ⟨hm.lives, hm.consistent⟩
  stuck := fun _ _ _ _ _ => trivial
  stuckPointer := fun _ _ _ _ => trivial

/-- A consistent root raises nothing in a process that nothing stops. -/
theorem productive_steadfast (hrunnable : Runnable platform engine)
    (hplan : ∀ definition ∈ engine.definitions, Planned platform engine.inputs plan definition)
    {env : ProcessEnv} (hproceeds : ∀ boundary stageId,
      env.crashCallback boundary stageId = .proceed) :
    Productive platform engine env (Steadfast platform engine plan) where
  lives := fun _ hm => hm.lives
  configured := hrunnable.configured
  unblocked := fun m hm definition _ hblocked =>
    hm.consistent.follows.state _ hblocked.1
  recordable := by
    intro m hm definition hmem key attempt hadoptable
    obtain ⟨_, _, _, _, hrow⟩ := hm.consistent.follows.adoptable hplan hmem hadoptable
    exact upsertAttempt_of_row hrow
  proceeds := hproceeds
  outputs := hrunnable.outputs
  portable := fun m hm => hm.consistent.follows.portable hplan
    (fun definition hmem => (hrunnable.outputs definition hmem).1) hrunnable.exportable
  admits := fun m hm definition _ row hstage hnumber hname => by
    obtain ⟨uuid, hname⟩ := hname
    exact hm.consistent.follows.named.admits hm.consistent.sound hstage hnumber hname
  unused := fun m hm definition _ uuid =>
    hm.consistent.follows.named.unused definition.stageId uuid
  unpublished := fun m hm definition _ cacheKey uuid =>
    ⟨hm.consistent.follows.cacheRoot _ _,
      hm.consistent.follows.named.unpublished definition.stageId cacheKey uuid⟩

end Consistent

/-! ## Reconciliation of a complete root -/

section Reconciled

variable {platform : Platform Bytes} {engine : RunEngine Bytes} {plan : StageId → StagePlan}
  {count : StageId → Nat} {root next : RunRoot Bytes} {log : RunLog Bytes}
  {definition : StageDefinition Bytes}

/-- Every stage is complete, with these counters. -/
def CompleteAt (engine : RunEngine Bytes) (count : StageId → Nat) (root : RunRoot Bytes) : Prop :=
  ∀ definition ∈ engine.definitions, IsComplete root definition.stageId ∧
    (root.database.stage definition.stageId).attemptCounter = count definition.stageId

theorem CompleteAt.same (h : CompleteAt engine count root)
    (hdatabase : next.database = root.database) : CompleteAt engine count next := by
  intro definition hmem
  unfold IsComplete
  rw [hdatabase]
  exact h definition hmem

/-- The number of an adopted attempt is one that its stage has counted. -/
theorem Counted.adoptable_le (h : Counted platform root) {key : Sha256}
    {attempt : PublishedAttempt}
    (hadoptable : Adoptable platform engine root definition key attempt) :
    attempt.manifest.attemptNumber ≤
      (root.database.stage definition.stageId).attemptCounter := by
  obtain ⟨entries, hselected⟩ := selectPublished_eq_some hadoptable.selected
  obtain ⟨⟨name, entry⟩, hentry, hverify⟩ := hselected.mem
  obtain ⟨files, rfl, hverified⟩ := verifyCandidate_directory hverify
  refine h definition.stageId key name files attempt ?_ hverified
  rw [hselected.root]
  exact hentry

/-- With nothing forced, the effects of an engine leave a complete root complete and
its counters as they were. -/
theorem CompleteAt.step (h : CompleteAt engine count root)
    (hconsistent : Consistent platform engine plan root)
    (hplan : ∀ definition ∈ engine.definitions, Planned platform engine.inputs plan definition)
    {label : Label Bytes} (hstep : EngineStep platform engine none log root label next) :
    CompleteAt engine count next := by
  have hrunning : ∀ {other : StageDefinition Bytes}, other ∈ engine.definitions →
      (root.database.stage other.stageId).state ≠ .running := by
    intro other hmem hstate
    have hcomplete := (h other hmem).1
    rw [IsComplete, hstate] at hcomplete
    cases hcomplete
  cases hstep with
  | stale hmem _ hstale => exact absurd hstale (hconsistent.follows.not_stale hplan hmem)
  | forced hforce => cases hforce
  | @failedFinal definition key _ _ hmem hkey hselection =>
    -- what is complete is published, so there is something to adopt
    obtain rfl := hconsistent.follows.hasKey hplan hmem hkey
    obtain ⟨published, hpublished, hsome⟩ := hconsistent.follows.selection hmem
    have hcomplete := (h definition hmem).1
    have hentries := (hconsistent.follows.complete definition hmem hcomplete).published
    rcases hselection with ⟨e, he⟩ | ⟨_, hnone⟩
    · rw [hpublished] at he
      cases he
    · cases published with
      | none => exact absurd rfl (hsome hentries)
      | some attempt =>
        refine absurd ⟨hkey, hpublished, ?_⟩ (hnone attempt)
        rw [hconsistent.sound.required _ hcomplete]
        exact Nat.zero_le _
  | failedRetryable hmem hstate => exact absurd hstate (hrunning hmem)
  | @adopted definition key attempt database hmem hadoptable _ hcommit =>
    have hcompleted := RunDatabase.recordComplete_eq_ok hcommit
    have hle := hconsistent.counted.adoptable_le hadoptable
    intro other hother
    unfold IsComplete
    dsimp only
    rw [hcompleted.stage, hadoptable.stageId]
    by_cases hsame : other.stageId = definition.stageId
    · rw [hsame, Function.update_self, ← (h definition hmem).2]
      exact ⟨rfl, Nat.max_eq_left hle⟩
    · rw [Function.update_of_ne hsame]
      exact h other hother
  | @began definition _ _ _ _ _ hmem _ hcommit =>
    have hbegins := (RunDatabase.beginAttempt_eq_ok hcommit).begins
    have hcomplete := (h definition hmem).1
    rw [IsComplete] at hcomplete
    rw [hcomplete] at hbegins
    cases hbegins
  | executed hproduced => exact absurd hproduced.running (hrunning hproduced.mem)
  | attemptChanged | cacheRootMade | cacheRootCreated | published | pointerWritten | exported =>
    exact h.same rfl

/-- Reconciliation of a complete root raises nothing and leaves it complete. -/
theorem reconcile_complete_triple (hrunnable : Runnable platform engine)
    (hplan : ∀ definition ∈ engine.definitions, Planned platform engine.inputs plan definition)
    {env : ProcessEnv} (hproceeds : ∀ boundary stageId,
      env.crashCallback boundary stageId = .proceed) :
    Triple (fun m => Steadfast platform engine plan m ∧ CompleteAt engine count m.store)
      (engine.reconcile platform)
      ⟨fun actions m => NothingExecuted actions ∧ Steadfast platform engine plan m ∧
        CompleteAt engine count m.store, fun _ _ => False, fun _ => False⟩ := by
  have hsteadfast : Preserved platform engine none (Steadfast platform engine plan) _ :=
    preserved_steadfast hrunnable hplan none
  have hI : Preserved platform engine none
      (fun m => Steadfast platform engine plan m ∧ CompleteAt engine count m.store)
      (fun _ => True ∧ True) :=
    hsteadfast.and (fun m label root hm hcomplete hstep => hcomplete.step hm.consistent hplan hstep)
      (fun _ _ hm _ => hm) (fun _ _ _ _ => trivial) (fun _ _ _ _ => trivial)
  have hproductive := productive_steadfast hrunnable hplan hproceeds
  have huntroubled : Untroubled platform engine
      (fun m => Steadfast platform engine plan m ∧ CompleteAt engine count m.store) := {
    lives := fun m hm => hproductive.lives m hm.1
    configured := hproductive.configured
    unblocked := fun m hm => hproductive.unblocked m hm.1
    recordable := fun m hm => hproductive.recordable m hm.1 }
  refine (reconcile_triple (P := fun _ _ => True) hI (fun _ : True => huntroubled)
    (fun _ _ _ _ _ _ _ _ _ _ _ _ => trivial)).weaken (fun m hm => ⟨hm, trivial⟩) ?_ ?_ ?_
  · exact fun _ m hm => ⟨hm.2.1, hm.1⟩
  · exact fun _ m hm => absurd trivial hm.1
  · exact fun m hm => absurd trivial hm.1

end Reconciled

/-! ## The loop of a forced run -/

section Forced

variable {platform : Platform Bytes} {engine : RunEngine Bytes} {plan : StageId → StagePlan}
  {count : StageId → Nat} {scope : List StageId} {root next : RunRoot Bytes}

/-- The stages of a list of actions that were executed. -/
def executedStages (actions : List StageActionRecord) : List StageId :=
  (actions.filter (fun item => item.action = .executed)).map StageActionRecord.stageId

@[simp] theorem executedStages_append (left right : List StageActionRecord) :
    executedStages (left ++ right) = executedStages left ++ executedStages right := by
  simp [executedStages]

theorem executedStages_of_nothing {actions : List StageActionRecord}
    (h : NothingExecuted actions) : executedStages actions = [] := by
  unfold executedStages
  rw [List.map_eq_nil_iff, List.filter_eq_nil_iff]
  exact fun item hitem => by simpa using h item hitem

/-- A stage of the scope is invalidated until the loop has passed it. -/
def Waits (scope : List StageId) (front : List (StageDefinition Bytes)) (stageId : StageId) :
    Prop :=
  stageId ∈ scope ∧ stageId ∉ (topologyOf front).nodes

/-- The loop of a forced run has passed `front`: the stages of the scope among them are
executed once more, the others of the scope still wait, and the rest is untouched. -/
structure Passed (engine : RunEngine Bytes) (count : StageId → Nat) (scope : List StageId)
    (front : List (StageDefinition Bytes)) (root : RunRoot Bytes) : Prop where
  waiting : ∀ definition ∈ engine.definitions, Waits scope front definition.stageId →
    (root.database.stage definition.stageId).state = .invalidated ∧
      (root.database.stage definition.stageId).attemptCounter = count definition.stageId
  complete : ∀ definition ∈ engine.definitions, ¬ Waits scope front definition.stageId →
    IsComplete root definition.stageId ∧
      (root.database.stage definition.stageId).attemptCounter =
        if definition.stageId ∈ scope then count definition.stageId + 1
        else count definition.stageId

theorem waits_append {front : List (StageDefinition Bytes)} {definition : StageDefinition Bytes}
    {stageId : StageId} : Waits scope (front ++ [definition]) stageId ↔
      Waits scope front stageId ∧ stageId ≠ definition.stageId := by
  unfold Waits
  simp only [topologyOf, List.map_append, nodes_append, List.mem_append, List.map_cons,
    List.map_nil, nodes_cons, nodes_nil, List.mem_singleton, not_or]
  exact and_assoc.symm

/-- The forced invalidation of a complete root. -/
theorem Passed.of_invalidated (h : CompleteAt engine count root) {database : RunDatabase}
    (hinvalidated : RunDatabase.Invalidated root.database scope true database) :
    Passed engine count scope [] { root with database := database } where
  waiting := by
    intro definition hmem hwaits
    rw [hinvalidated.stage_of_mem _ hwaits.1]
    exact ⟨rfl, (h definition hmem).2⟩
  complete := by
    intro definition hmem hwaits
    have hout : definition.stageId ∉ scope := fun hin => hwaits ⟨hin, by simp [topologyOf]⟩
    unfold IsComplete
    rw [hinvalidated.stage_of_not_mem _ hout, if_neg hout]
    exact h definition hmem

/-- The loop passes a stage outside the scope. -/
theorem Passed.skip {front : List (StageDefinition Bytes)} {definition : StageDefinition Bytes}
    (h : Passed engine count scope front root) (hout : definition.stageId ∉ scope) :
    Passed engine count scope (front ++ [definition]) root where
  waiting := fun other hmem hwaits => h.waiting other hmem (waits_append.mp hwaits).1
  complete := by
    intro other hmem hwaits
    refine h.complete other hmem (fun hfront => hwaits (waits_append.mpr ⟨hfront, ?_⟩))
    intro heq
    exact hout (heq ▸ hfront.1)

/-- The loop executes a stage of the scope. -/
theorem Passed.executed {front : List (StageDefinition Bytes)}
    {definition : StageDefinition Bytes} {key : Sha256} {attemptId : AttemptId}
    {manifest : AttemptManifest} {payloads : List (ArtifactPayload Bytes)}
    (h : Passed engine count scope front root) (hmem : definition ∈ engine.definitions)
    (hwaits : Waits scope front definition.stageId)
    (hexecuted : Executed platform engine definition root key attemptId manifest payloads next) :
    Passed engine count scope (front ++ [definition]) next where
  waiting := by
    intro other hother hwaiting
    obtain ⟨hfront, hne⟩ := waits_append.mp hwaiting
    rw [hexecuted.stage, Function.update_of_ne hne]
    exact h.waiting other hother hfront
  complete := by
    intro other hother hpassed
    unfold IsComplete
    rw [hexecuted.stage]
    by_cases hsame : other.stageId = definition.stageId
    · have hcounter := (h.waiting definition hmem hwaits).2
      have hnumber := hexecuted.number
      rw [hsame, Function.update_self, if_pos hwaits.1]
      refine ⟨rfl, ?_⟩
      simp only [RunDatabase.completedRow, RunDatabase.begunRow]
      omega
    · rw [Function.update_of_ne hsame]
      exact h.complete other hother (fun hfront => hpassed (waits_append.mpr ⟨hfront, hsame⟩))

/-- The loop of a forced run executes the stages of the scope that it comes to, in
their order. -/
theorem executeForced_triple {env : ProcessEnv} {I : RunMachine Bytes → Prop}
    {forceStage : Option StageId} (hI : Preserved platform engine forceStage I (fun _ => True))
    (hproductive : Productive platform engine env I) :
    ∀ (rest front : List (StageDefinition Bytes)), engine.definitions = front ++ rest →
      Triple (fun m => I m ∧ Passed engine count scope front m.store)
        (engine.executeStages platform env scope rest)
        (executing I True (fun actions m =>
          executedStages actions = (rest.map StageDefinition.stageId).filter (· ∈ scope) ∧
            Passed engine count scope engine.definitions m.store)) := by
  intro rest
  induction rest with
  | nil =>
    intro front hsplit
    rw [List.append_nil] at hsplit
    unfold RunEngine.executeStages
    exact Triple.pure (fun m hm => ⟨hm.1, by simp [executedStages], hsplit ▸ hm.2⟩)
  | cons definition rest ih =>
    intro front hsplit
    have hmem : definition ∈ engine.definitions := by simp [hsplit]
    have hlater : engine.definitions = (front ++ [definition]) ++ rest := by simp [hsplit]
    refine Triple.perStore (fun root => ?_)
    refine Triple.assume (F := Opened engine root ∧ Passed engine count scope front root) ?_ ?_
    · rintro m ⟨⟨hIm, hpassed⟩, rfl⟩
      exact ⟨hI.opened m hIm, hpassed⟩
    rintro ⟨hopened, hpassed⟩
    have hnot : definition.stageId ∉ (topologyOf front).nodes :=
      fun hin => hopened.front_ne hsplit hin rfl
    -- what the stage depends on has been passed
    have hclear : ∀ upstream ∈ definition.dependencies,
        (root.database.stage upstream).state = .complete := by
      intro upstream hdep
      have hfront := hopened.dependency_front hsplit upstream hdep
      obtain ⟨other, hother, rfl⟩ := mem_nodes_front hfront
      have hmemOther : other ∈ engine.definitions := by simp [hsplit, hother]
      exact (hpassed.complete other hmemOther (fun hwaits => hwaits.2 hfront)).1
    unfold RunEngine.executeStages
    refine Triple.readKnown (s := root) (fun m hm => hm.2) ?_
    refine Triple.ofExceptKnown (RunDatabase.stageRow_of_mem (hopened.mem_stageIds hmem)) ?_
    by_cases hscope : definition.stageId ∈ scope
    · have hwaits : Waits scope front definition.stageId := ⟨hscope, hnot⟩
      have hstate := (hpassed.waiting definition hmem hwaits).1
      rw [if_neg (fun h => h.2 hscope), if_neg (by rw [hstate]; simp),
        if_neg (by simp [upstreamIncomplete_eq_false hclear])]
      refine Triple.bind (R := fun _ m => I m ∧
        Passed engine count scope (front ++ [definition]) m.store) ?_ (fun _ => ?_)
      · refine (executeStage_triple hI (fun _ : True => hproductive) hmem hopened
          (by rw [hstate]; rfl) hclear).weaken (fun m hm => ⟨hm.1.1, hm.2⟩) ?_
          (fun _ _ h => h) (fun _ h => h)
        rintro _ m ⟨hIm, key, attemptId, manifest, payloads, hexecuted⟩
        exact ⟨hIm, hpassed.executed hmem hwaits hexecuted⟩
      · refine Triple.bind (ih (front ++ [definition]) hlater) (fun later => Triple.pure ?_)
        rintro m ⟨hIm, hstages, hend⟩
        refine ⟨hIm, ?_, hend⟩
        rw [List.map_cons, List.filter_cons_of_pos (by simpa using hscope), ← hstages]
        simp [executedStages]
    · have hcomplete := (hpassed.complete definition hmem (fun hwaits => hscope hwaits.1)).1
      have hnext := hpassed.skip hscope
      rw [if_pos ⟨hcomplete, hscope⟩]
      refine Triple.bind ((ih (front ++ [definition]) hlater).strengthenPre
        (fun m hm => ⟨hm.1.1, hm.2 ▸ hnext⟩)) (fun later => Triple.pure ?_)
      rintro m ⟨hIm, hstages, hend⟩
      refine ⟨hIm, ?_, hend⟩
      rw [List.map_cons, List.filter_cons_of_neg (by simpa using hscope), ← hstages]
      simp [executedStages]

/-- Once the loop has passed every definition, all are complete and exactly the scope
has one attempt more. -/
theorem Passed.done (h : Passed engine count scope engine.definitions root)
    {definition : StageDefinition Bytes} (hmem : definition ∈ engine.definitions) :
    IsComplete root definition.stageId ∧
      (root.database.stage definition.stageId).attemptCounter =
        if definition.stageId ∈ scope then count definition.stageId + 1
        else count definition.stageId :=
  h.complete definition hmem (fun hwaits => hwaits.2 (mem_front_nodes hmem))

theorem Passed.same {front : List (StageDefinition Bytes)}
    (h : Passed engine count scope front root) (hdatabase : next.database = root.database) :
    Passed engine count scope front next where
  waiting := by
    rw [hdatabase]
    exact h.waiting
  complete := by
    unfold IsComplete
    rw [hdatabase]
    exact h.complete

/-- A forced run of a complete root that nothing stops. -/
theorem run_forced_triple (hrunnable : Runnable platform engine)
    (hplan : ∀ definition ∈ engine.definitions, Planned platform engine.inputs plan definition)
    {env : ProcessEnv} (hproceeds : ∀ boundary stageId,
      env.crashCallback boundary stageId = .proceed) {stageId : StageId}
    (hscope : engine.forcedScopeOf (some stageId) = .ok scope) :
    Triple (fun m => Steadfast platform engine plan m ∧ CompleteAt engine count m.store)
      (engine.run platform env (some stageId) false)
      ⟨fun report m => Steadfast platform engine plan m ∧
        Passed engine count scope engine.definitions m.store ∧
        executedStages report.actions =
          (engine.definitions.map StageDefinition.stageId).filter (· ∈ scope) ∧
        ∃ actions, report = engine.report platform m.store actions scope,
        fun _ _ => False, fun _ => False⟩ := by
  have hI : Preserved platform engine (some stageId) (Steadfast platform engine plan) _ :=
    preserved_steadfast hrunnable hplan _
  have hproductive := productive_steadfast hrunnable hplan hproceeds
  unfold RunEngine.run
  refine Triple.ofExceptKnown hscope ?_
  rw [if_neg Bool.false_ne_true]
  refine Triple.bind (reconcile_complete_triple hrunnable hplan hproceeds) (fun actions => ?_)
  refine Triple.assume (fun m hm => hm.1) (fun hnothing => ?_)
  refine Triple.weaken (P := fun m => Steadfast platform engine plan m ∧
      CompleteAt engine count m.store)
    (Q := executing (Steadfast platform engine plan) True (fun (report : RunExecutionReport) m =>
      Passed engine count scope engine.definitions m.store ∧
      executedStages report.actions =
        (engine.definitions.map StageDefinition.stageId).filter (· ∈ scope) ∧
      ∃ actions, report = engine.report platform m.store actions scope))
    ?_ (fun m hm => hm.2) (fun _ _ h => h) (fun _ _ h => absurd trivial h.1)
    (fun _ h => absurd trivial h.1)
  unfold RunEngine.runReconciled
  refine Triple.bind (R := fun forced m => Steadfast platform engine plan m ∧
    NothingExecuted forced ∧ Passed engine count scope [] m.store) ?_ (fun forced => ?_)
  · refine Triple.perStore (fun root => ?_)
    refine Triple.assume (F := Opened engine root ∧ CompleteAt engine count root) ?_ ?_
    · rintro m ⟨hm, rfl⟩
      exact ⟨hI.opened m hm.1, hm.2⟩
    rintro ⟨hopened, hcomplete⟩
    refine (forceInvalidate_triple hI (fun _ : True => hproductive) hscope root).weaken
      (fun m hm => ⟨hm.1.1, hm.2⟩) ?_ (fun _ _ h => h) (fun _ h => h)
    rintro forced m ⟨hIm, hforced, hend⟩
    refine ⟨hIm, hforced, ?_⟩
    generalize m.store = store at hend
    cases hend with
    | unforced hnone => cases hnone
    | @forced _ database hsome hinvalidated =>
      obtain rfl := Option.some.inj hsome
      unfold RunEngine.forcedScopeOf RunEngine.dependencyClosure at hscope
      dsimp only at hscope
      split at hscope
      · rw [← hopened.topology] at hscope
        obtain rfl := Except.ok.inj hscope
        exact .of_invalidated hcomplete hinvalidated
      · cases hscope
  refine Triple.assume (fun m hm => hm.2.1) (fun hforced => ?_)
  refine Triple.bind ((executeForced_triple hI hproductive engine.definitions [] rfl).strengthenPre
    (fun m hm => ⟨hm.1, hm.2.2⟩)) (fun executed => ?_)
  refine Triple.bind (export_triple hI (fun _ : True => hproductive)
    (fun m artifact h => ⟨h.1, h.2.same rfl⟩)) (fun _ => Triple.readBind (fun root => Triple.pure ?_))
  rintro m ⟨⟨hIm, ⟨hstages, hpassed⟩, _⟩, rfl⟩
  refine ⟨hIm, hpassed, ?_, _, rfl⟩
  change executedStages (actions ++ forced ++ executed) = _
  rw [executedStages_append, executedStages_append, executedStages_of_nothing hnothing,
    executedStages_of_nothing hforced, hstages]
  rfl

end Forced

/-! ## The small run, forced -/

theorem smallAfter_undisturbed {definitions : List (StageDefinition SmallBytes)}
    (life : Lifetime SmallBytes) {m : RunMachine SmallBytes}
    (h : Reaches (Setting.undisturbed smallPlatform definitions) smallStart m.log m.store)
    (hlife : life.definitions = definitions) :
    Reaches (Setting.undisturbed smallPlatform definitions) smallStart (smallAfter life m).log
      (smallAfter life m).store :=
  Reaches.next h hlife

end CartoSentry.Runstate
