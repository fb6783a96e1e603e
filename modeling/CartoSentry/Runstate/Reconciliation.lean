import CartoSentry.Runstate.Invariants

set_option autoImplicit false

/-!
# Run state: what reconciliation does

Triples for `reconcile`.  They are stated over any assertion that the steps of
the engine preserve, so one proof serves every invariant: a visit ends in one of
the five ways of `VisitEnd`, and the loop over the definitions carries whatever
a visit carries.  `Untroubled` lists what has to hold for nothing to be raised.
-/

namespace CartoSentry.Runstate

open CartoSentry.Foundation RunEngine

variable {Bytes : Type}

abbrev RunMachine (Bytes : Type) : Type := Machine (RunRoot Bytes) (Label Bytes)

/-- The errors of a transition that `record_complete` or `mark_state` refuses. -/
def RunError.isTransition : RunError → Bool
  | .cannotReconcile _ _ | .invalidTransition _ _ => true
  | _ => false

/-- The errors of an attempt that `begin_attempt` refuses. -/
def RunError.isBegin : RunError → Bool
  | .cannotBegin _ _ | .dependencyIncomplete => true
  | _ => false

/-- The errors by which the database refuses a change of state. -/
def RunError.isRefusal (e : RunError) : Bool := e.isTransition || e.isBegin

/-- `I` survives every effect of the engine, and `B` is what a visit to a blocked
stage turns it into. -/
structure Preserved (platform : Platform Bytes) (engine : RunEngine Bytes)
    (forceStage : Option StageId) (I B : RunMachine Bytes → Prop) : Prop where
  opened : ∀ m, I m → Opened engine m.store
  sound : ∀ m, I m → Sound m.store.database
  effect : ∀ m label root, I m →
    EngineStep platform engine forceStage m.log m.store label root → I (m.after label root)
  visit : ∀ m definition, I m → definition ∈ engine.definitions →
    ¬ Blocked platform engine m.store definition → I (m.noted (.visited definition))
  stuck : ∀ m definition, I m → definition ∈ engine.definitions →
    Blocked platform engine m.store definition → B (m.noted (.visited definition))
  stuckPointer : ∀ m stageId content, B m → B (m.after (.pointerWritten stageId)
    { m.store with completions := Function.update m.store.completions stageId content })

/-- More that the effects preserve can be added. -/
theorem Preserved.and {platform : Platform Bytes} {engine : RunEngine Bytes}
    {forceStage : Option StageId} {I B J K : RunMachine Bytes → Prop}
    (h : Preserved platform engine forceStage I B)
    (heffect : ∀ m label root, I m → J m →
      EngineStep platform engine forceStage m.log m.store label root → J (m.after label root))
    (hvisit : ∀ m definition, J m → ¬ Blocked platform engine m.store definition →
      J (m.noted (.visited definition)))
    (hstuck : ∀ m definition, J m → Blocked platform engine m.store definition →
      K (m.noted (.visited definition)))
    (hpointer : ∀ m stageId content, K m → K (m.after (.pointerWritten stageId)
      { m.store with completions := Function.update m.store.completions stageId content })) :
    Preserved platform engine forceStage (fun m => I m ∧ J m) (fun m => B m ∧ K m) where
  opened := fun m hm => h.opened m hm.1
  sound := fun m hm => h.sound m hm.1
  effect := fun m label root hm hstep =>
    ⟨h.effect m label root hm.1 hstep, heffect m label root hm.1 hm.2 hstep⟩
  visit := fun m definition hm hmem hunblocked =>
    ⟨h.visit m definition hm.1 hmem hunblocked, hvisit m definition hm.2 hunblocked⟩
  stuck := fun m definition hm hmem hblocked =>
    ⟨h.stuck m definition hm.1 hmem hblocked, hstuck m definition hm.2 hblocked⟩
  stuckPointer := fun m stageId content hm =>
    ⟨h.stuckPointer m stageId content hm.1, hpointer m stageId content hm.2⟩

/-- When nothing is raised during reconciliation. -/
structure Untroubled (platform : Platform Bytes) (engine : RunEngine Bytes)
    (I : RunMachine Bytes → Prop) : Prop where
  lives : ∀ m, I m → m.lifespan = none
  configured : ∀ definition ∈ engine.definitions, ∃ relevant,
    relevantConfiguration engine.inputs definition.stageId definition.relevantConfigurationKeys =
      .ok relevant
  unblocked : ∀ m, I m → ∀ definition ∈ engine.definitions,
    ¬ Blocked platform engine m.store definition
  recordable : ∀ m, I m → ∀ definition ∈ engine.definitions, ∀ key attempt,
    Adoptable platform engine m.store definition key attempt →
    ∃ rows, m.store.database.upsertAttempt attempt.manifest attempt.manifestSha256 = .ok rows

/-- The root on which a visit decides: the visited root, with the closure of a
stale stage invalidated. -/
inductive VisitStart (platform : Platform Bytes) (engine : RunEngine Bytes)
    (definition : StageDefinition Bytes) (root : RunRoot Bytes) : RunRoot Bytes → Prop
  | current (h : ¬ Stale platform engine root definition) :
      VisitStart platform engine definition root root
  | stale {next : RunDatabase} (h : Stale platform engine root definition)
      (hinvalidated : RunDatabase.Invalidated root.database
        (closure root.database.topology definition.stageId) false next) :
      VisitStart platform engine definition root { root with database := next }

/-- How a visit ends. -/
inductive VisitEnd (platform : Platform Bytes) (engine : RunEngine Bytes)
    (definition : StageDefinition Bytes) (root : RunRoot Bytes) : RunRoot Bytes → Prop
  | waiting (hupstream : upstreamIncomplete root.database definition = true)
      (hstate : ¬ IsComplete root definition.stageId) :
      VisitEnd platform engine definition root root
  | adopted {key : Sha256} {attempt : PublishedAttempt} {next : RunRoot Bytes}
      (hadoptable : Adoptable platform engine root definition key attempt)
      (hcompleted : RunDatabase.Completed root.database attempt.manifest attempt.directory
        next.database)
      (hartifacts : next.artifacts = root.artifacts) :
      VisitEnd platform engine definition root next
  | failedFinal {key : Sha256} {code : Option String} {next : RunRoot Bytes}
      (hkey : HasKey platform engine root definition key)
      (hselection : (∃ e, selection platform engine root definition key = .error e) ∨
        (IsComplete root definition.stageId ∧
          ∀ attempt, ¬ Adoptable platform engine root definition key attempt))
      (hmarked : RunDatabase.Marked root.database definition.stageId .failedFinal code
        next.database)
      (hartifacts : next.artifacts = root.artifacts) :
      VisitEnd platform engine definition root next
  | failedRetryable {key : Sha256} {code : Option String} {next : RunRoot Bytes}
      (hkey : HasKey platform engine root definition key)
      (hselection : ∃ published, selection platform engine root definition key = .ok published)
      (hmissing : ∀ attempt, ¬ Adoptable platform engine root definition key attempt)
      (hmarked : RunDatabase.Marked root.database definition.stageId .failedRetryable code
        next.database)
      (hartifacts : next.artifacts = root.artifacts) :
      VisitEnd platform engine definition root next
  | unpublished {key : Sha256} (hkey : HasKey platform engine root definition key)
      (hselection : ∃ published, selection platform engine root definition key = .ok published)
      (hmissing : ∀ attempt, ¬ Adoptable platform engine root definition key attempt)
      (hcomplete : ¬ IsComplete root definition.stageId)
      (hrunning : (root.database.stage definition.stageId).state ≠ .running) :
      VisitEnd platform engine definition root root

/-- No action of the list records an execution. -/
def NothingExecuted (actions : List StageActionRecord) : Prop :=
  ∀ item ∈ actions, item.action ≠ .executed

section Triples

variable {platform : Platform Bytes} {engine : RunEngine Bytes} {forceStage : Option StageId}
  {I B : RunMachine Bytes → Prop} {calm : Prop}

/-- Ending as reconciliation does: `I` throughout, unless a blocked stage stops it. -/
def reconciling {α : Type} (I B : RunMachine Bytes → Prop) (calm : Prop)
    (returned : α → RunMachine Bytes → Prop) :
    Post (RunRoot Bytes) (Label Bytes) RunError α where
  returned a m := I m ∧ returned a m
  raised e m := ¬ calm ∧ e.isBegin = false ∧ if e.isTransition then B m else I m
  died m := ¬ calm ∧ (I m ∨ B m)

theorem publishPointer_triple {attempt : PublishedAttempt} {P : RunMachine Bytes → Prop}
    (hP : ∀ m content, P m →
      P (m.after (.pointerWritten attempt.manifest.stageId) { m.store with
        completions := Function.update m.store.completions attempt.manifest.stageId content })) :
    Triple P (engine.publishPointer platform attempt)
      ⟨fun _ => P, fun _ _ => False, fun m => P m ∧ m.lifespan = some 0⟩ := by
  unfold RunEngine.publishPointer
  refine Triple.readBind (fun root => Triple.ite (fun _ => ?_) (fun _ => ?_))
  · exact Triple.pure (fun m hm => hm.1)
  · refine Triple.transact (fun m hm hlife => ⟨hm.1, hlife⟩) (fun m e _ h => ?_) (fun m c hm h => ?_)
    · exact absurd h (by simp)
    · obtain rfl := Except.ok.inj h
      exact hP m _ hm.1

/-- A dead machine is trouble. -/
theorem not_calm_of_dead (hlives : calm → ∀ m, I m → m.lifespan = none) {m : RunMachine Bytes}
    (hm : I m) (hlife : m.lifespan = some 0) : ¬ calm := by
  intro hc
  rw [hlives hc m hm] at hlife
  cases hlife

theorem Adoptable.verified {root : RunRoot Bytes} {definition : StageDefinition Bytes}
    {key : Sha256} {attempt : PublishedAttempt}
    (h : Adoptable platform engine root definition key attempt) :
    ∃ name files, Verified platform engine.inputs.workflowId definition key name files attempt := by
  obtain ⟨entries, hselected⟩ := selectPublished_eq_some h.selected
  obtain ⟨⟨name, entry⟩, _, hverify⟩ := hselected.mem
  obtain ⟨files, _, hverified⟩ := verifyCandidate_eq_ok hverify
  exact ⟨name, files, hverified⟩

theorem Adoptable.stageId {root : RunRoot Bytes} {definition : StageDefinition Bytes}
    {key : Sha256} {attempt : PublishedAttempt}
    (h : Adoptable platform engine root definition key attempt) :
    attempt.manifest.stageId = definition.stageId := by
  obtain ⟨_, _, hverified⟩ := h.verified
  exact hverified.stage

/-- Only the database and the published tree decide what is adopted. -/
theorem Adoptable.congr {root next : RunRoot Bytes} {definition : StageDefinition Bytes}
    {key : Sha256} {attempt : PublishedAttempt}
    (h : Adoptable platform engine root definition key attempt)
    (hdatabase : next.database = root.database) (hartifacts : next.artifacts = root.artifacts) :
    Adoptable platform engine next definition key attempt := by
  obtain ⟨hkey, hselected, hrequired⟩ := h
  unfold HasKey at hkey
  unfold selection at hselected
  exact ⟨by unfold HasKey; rwa [hdatabase], by unfold selection; rwa [hartifacts],
    by rwa [hdatabase]⟩

theorem recordComplete_eq_error {database : RunDatabase} {manifest : AttemptManifest}
    {sha : Sha256} {directory : PublishedDirectory} {e : RunError}
    (h : database.recordComplete manifest sha directory = .error e)
    (hmem : manifest.stageId ∈ database.stageIds)
    (hreconcile : RunDatabase.canReconcile (database.stage manifest.stageId).state = true) :
    e = .constraintViolated ∧ database.upsertAttempt manifest sha = .error e := by
  unfold RunDatabase.recordComplete at h
  rw [RunDatabase.stageRow_of_mem hmem] at h
  dsimp only at h
  rw [if_neg (by simpa using hreconcile)] at h
  split at h
  · rename_i found hfound
    obtain rfl := Except.error.inj h
    refine ⟨?_, hfound⟩
    unfold RunDatabase.upsertAttempt at hfound
    split at hfound
    · exact absurd hfound (by simp)
    · dsimp only at hfound
      split at hfound
      · exact absurd hfound (by simp)
      · exact (Except.error.inj hfound).symm
  · exact absurd h (by simp)

theorem markState_ne_error {database : RunDatabase} {stageId : StageId} {state : StageState}
    {code : Option String} {e : RunError} (hmem : stageId ∈ database.stageIds)
    (hallowed : RunDatabase.allowedTransition (database.stage stageId).state state = true) :
    database.markState stageId state code ≠ .error e := by
  intro h
  unfold RunDatabase.markState at h
  rw [RunDatabase.stageRow_of_mem hmem] at h
  dsimp only at h
  rw [if_neg (by simpa using hallowed)] at h
  exact absurd h (by simp)

theorem allowed_failedFinal {state : StageState} (h : state ≠ .skippedNotApplicable) :
    RunDatabase.allowedTransition state .failedFinal = true := by
  cases state <;> first | rfl | exact absurd rfl h

theorem canReconcile_of_ne {state : StageState} (hfinal : state ≠ .failedFinal)
    (hskipped : state ≠ .skippedNotApplicable) : RunDatabase.canReconcile state = true := by
  cases state <;> first | rfl | exact absurd rfl hfinal | exact absurd rfl hskipped

/-- Marking a stage of a known root with a state its row may take. -/
theorem markState_triple {root : RunRoot Bytes} {stageId : StageId} {state : StageState}
    {code : Option String} {P : RunMachine Bytes → Prop}
    {Q : Post (RunRoot Bytes) (Label Bytes) RunError Unit} (hstore : ∀ m, P m → m.store = root)
    (hstage : stageId ∈ root.database.stageIds)
    (hallowed : RunDatabase.allowedTransition (root.database.stage stageId).state state = true)
    (hdied : ∀ m, P m → m.lifespan = some 0 → Q.died m)
    (hreturned : ∀ m next, P m → root.database.markState stageId state code = .ok next →
      Q.returned () (m.after (.marked stageId state) { root with database := next })) :
    Triple P (Runstate.markState stageId state code) Q := by
  refine Triple.transact hdied (fun m e hm herror => ?_) (fun m c hm hok => ?_)
  · rw [hstore m hm] at herror
    split at herror
    · rename_i found hfound
      exact absurd hfound (markState_ne_error hstage hallowed)
    · exact absurd herror (by simp)
  · rw [hstore m hm] at hok
    split at hok
    · exact absurd hok (by simp)
    · rename_i next hnext
      obtain rfl := Except.ok.inj hok
      exact hreturned m next hm hnext

section Visit

variable {definition : StageDefinition Bytes} {root : RunRoot Bytes} {key : Sha256}

/-- A visit to a stage whose published attempts cannot be used fails it finally. -/
theorem markFailedFinal_triple (hI : Preserved platform engine forceStage I B)
    (hcalm : calm → Untroubled platform engine I) (hmem : definition ∈ engine.definitions)
    (hstage : definition.stageId ∈ root.database.stageIds) (hsound : Sound root.database)
    (hkey : HasKey platform engine root definition key)
    (hrow : IsComplete root definition.stageId →
      (root.database.stage definition.stageId).cacheKey = some key)
    (hselection : (∃ e, selection platform engine root definition key = .error e) ∨
      (IsComplete root definition.stageId ∧
        ∀ attempt, ¬ Adoptable platform engine root definition key attempt))
    (code : Option String) (actions : List StageActionRecord) (hactions : NothingExecuted actions) :
    Triple (fun m => (I m ∧ m.store = root) ∧ (IsComplete root definition.stageId →
        m.log.getLast? = some ⟨root, .visited definition⟩))
      (do Runstate.markState definition.stageId .failedFinal code; return actions)
      (reconciling I B calm (fun actions m => NothingExecuted actions ∧
        VisitEnd platform engine definition root m.store)) := by
  refine Triple.bind (R := fun _ m => I m ∧ VisitEnd platform engine definition root m.store)
    ?_ (fun _ => Triple.pure (fun m hm => ⟨hm.1, hactions, hm.2⟩))
  refine markState_triple (fun m hm => hm.1.2) hstage
    (allowed_failedFinal (hsound.applicable definition.stageId)) ?_ ?_
  · exact fun m hm hlife => ⟨not_calm_of_dead (fun hc => (hcalm hc).lives) hm.1.1 hlife, .inl hm.1.1⟩
  · rintro m next ⟨⟨hIm, rfl⟩, hlog⟩ hcommit
    refine ⟨hI.effect m _ _ hIm (.failedFinal hmem hkey hselection ?_ hcommit), ?_⟩
    · exact fun hcomplete => ⟨hrow hcomplete, hlog hcomplete⟩
    · exact .failedFinal hkey hselection (RunDatabase.markState_eq_ok hcommit) rfl

/-- Adopting a published attempt: the pointer is made current, the completion recorded. -/
theorem adopt_triple (hI : Preserved platform engine forceStage I B)
    (hcalm : calm → Untroubled platform engine I) (hmem : definition ∈ engine.definitions)
    (hstage : definition.stageId ∈ root.database.stageIds) (hsound : Sound root.database)
    {attempt : PublishedAttempt}
    (hadoptable : Adoptable platform engine root definition key attempt)
    (hrow : IsComplete root definition.stageId →
      (root.database.stage definition.stageId).cacheKey = some key)
    (hunblocked : ¬ Blocked platform engine root definition)
    (tail : Bool → EngineProc Bytes (List StageActionRecord))
    (htail : ∀ repaired, Triple (fun m => I m ∧ VisitEnd platform engine definition root m.store)
      (tail repaired) (reconciling I B calm (fun actions m => NothingExecuted actions ∧
        VisitEnd platform engine definition root m.store))) :
    Triple (fun m => I m ∧ m.store = root)
      (do
        let repaired ← engine.publishPointer platform attempt
        Runstate.recordComplete attempt.manifest attempt.manifestSha256 attempt.directory
        tail repaired)
      (reconciling I B calm (fun actions m => NothingExecuted actions ∧
        VisitEnd platform engine definition root m.store)) := by
  have hfinal : (root.database.stage definition.stageId).state ≠ .failedFinal :=
    fun hfailed => hunblocked ⟨hfailed, key, attempt, hadoptable⟩
  refine Triple.bind (R := fun _ m => I m ∧ m.store.database = root.database ∧
    m.store.artifacts = root.artifacts) ?_ (fun repaired => ?_)
  · refine (publishPointer_triple (P := fun m => I m ∧ m.store.database = root.database ∧
      m.store.artifacts = root.artifacts) ?_).weaken ?_ ?_ ?_ ?_
    · rintro m content ⟨hIm, hdatabase, hartifacts⟩
      exact ⟨hI.effect m _ _ hIm .pointerWritten, hdatabase, hartifacts⟩
    · rintro m ⟨hIm, rfl⟩
      exact ⟨hIm, rfl, rfl⟩
    · exact fun _ m hm => hm
    · exact fun _ m hm => hm.elim
    · exact fun m hm => ⟨not_calm_of_dead (fun hc => (hcalm hc).lives) hm.1.1 hm.2, .inl hm.1.1⟩
  refine Triple.bind (R := fun _ m => I m ∧ VisitEnd platform engine definition root m.store)
    ?_ (fun _ => htail repaired)
  refine Triple.transact ?_ ?_ ?_
  · exact fun m hm hlife => ⟨not_calm_of_dead (fun hc => (hcalm hc).lives) hm.1 hlife, .inl hm.1⟩
  · rintro m e ⟨hIm, hdatabase, hartifacts⟩ herror
    rw [hdatabase] at herror
    split at herror
    · rename_i found hfound
      obtain rfl := Except.error.inj herror
      have hid := hadoptable.stageId
      obtain ⟨rfl, hupsert⟩ := recordComplete_eq_error hfound (hid ▸ hstage)
        (canReconcile_of_ne (hid ▸ hfinal) (hsound.applicable _))
      refine ⟨fun hc => ?_, rfl, hIm⟩
      obtain ⟨rows, hrows⟩ := (hcalm hc).recordable m hIm definition hmem key attempt
        (hadoptable.congr hdatabase hartifacts)
      rw [hdatabase, hupsert] at hrows
      exact absurd hrows (by simp)
    · exact absurd herror (by simp)
  · rintro m c ⟨hIm, hdatabase, hartifacts⟩ hok
    split at hok
    · exact absurd hok (by simp)
    · rename_i next hnext
      obtain rfl := Except.ok.inj hok
      refine ⟨hI.effect m _ _ hIm (.adopted hmem (hadoptable.congr hdatabase hartifacts) ?_ hnext), ?_⟩
      · unfold IsComplete
        rw [hdatabase]
        exact hrow
      · rw [hdatabase] at hnext
        exact .adopted hadoptable (RunDatabase.recordComplete_eq_ok hnext) hartifacts

/-- A visit that reaches the published attempts ends as `VisitEnd` says. -/
theorem reconcilePublished_triple (hI : Preserved platform engine forceStage I B)
    (hcalm : calm → Untroubled platform engine I) (hmem : definition ∈ engine.definitions)
    (hstage : definition.stageId ∈ root.database.stageIds) (hsound : Sound root.database)
    (hkey : HasKey platform engine root definition key)
    (hrow : IsComplete root definition.stageId →
      (root.database.stage definition.stageId).cacheKey = some key)
    (hunblocked : ¬ Blocked platform engine root definition) :
    Triple (fun m => (I m ∧ m.store = root) ∧ (IsComplete root definition.stageId →
        m.log.getLast? = some ⟨root, .visited definition⟩))
      (engine.reconcilePublished platform definition key)
      (reconciling I B calm (fun actions m => NothingExecuted actions ∧
        VisitEnd platform engine definition root m.store)) := by
  unfold RunEngine.reconcilePublished
  refine Triple.readKnown (s := root) (fun m hm => hm.1.2) ?_
  refine Triple.ofExceptKnown (RunDatabase.stageRow_of_mem hstage) ?_
  cases hselection : selectPublished platform engine.inputs.workflowId definition key
      root.artifacts with
  | error e =>
    exact markFailedFinal_triple hI hcalm hmem hstage hsound hkey hrow (.inl ⟨e, hselection⟩) _ _
      (by simp [NothingExecuted])
  | ok published =>
    dsimp only
    cases hfilter : published.filter (fun attempt =>
        (root.database.stage definition.stageId).requiredAttemptNumber ≤
          attempt.manifest.attemptNumber) with
    | some attempt =>
      obtain ⟨rfl, hrequired⟩ := Option.filter_eq_some_iff.mp hfilter
      have hadoptable : Adoptable platform engine root definition key attempt :=
        ⟨hkey, hselection, by simpa using hrequired⟩
      refine (adopt_triple hI hcalm hmem hstage hsound hadoptable hrow hunblocked _
        (fun repaired => ?_)).strengthenPre (fun m hm => hm.1)
      refine Triple.ite (fun _ => ?_) (fun _ => Triple.ite (fun _ => ?_) (fun _ => ?_))
      · exact Triple.pure (fun m hm => ⟨hm.1, by simp [NothingExecuted], hm.2⟩)
      · exact Triple.pure (fun m hm => ⟨hm.1, by simp [NothingExecuted], hm.2⟩)
      · exact Triple.pure (fun m hm => ⟨hm.1, by simp [NothingExecuted], hm.2⟩)
    | none =>
      have hmissing : ∀ attempt, ¬ Adoptable platform engine root definition key attempt := by
        intro attempt hadoptable
        have hsome := hadoptable.selected
        unfold selection at hsome
        rw [hselection] at hsome
        obtain rfl := Except.ok.inj hsome
        rw [Option.filter_some] at hfilter
        simp [hadoptable.required] at hfilter
      dsimp only
      refine Triple.ite (fun hcomplete => ?_) (fun hcomplete => Triple.ite (fun hrunning => ?_)
        (fun hrunning => ?_))
      · exact markFailedFinal_triple hI hcalm hmem hstage hsound hkey hrow
          (.inr ⟨hcomplete, hmissing⟩) _ _ (by simp [NothingExecuted])
      · refine Triple.bind
          (R := fun _ m => I m ∧ VisitEnd platform engine definition root m.store)
          ?_ (fun _ => Triple.pure (fun m hm => ⟨hm.1, by simp [NothingExecuted], hm.2⟩))
        refine markState_triple (fun m hm => hm.1.2) hstage (by rw [hrunning]; rfl) ?_ ?_
        · exact fun m hm hlife => ⟨not_calm_of_dead (fun hc => (hcalm hc).lives) hm.1.1 hlife, .inl hm.1.1⟩
        · rintro m next ⟨⟨hIm, rfl⟩, _⟩ hcommit
          exact ⟨hI.effect m _ _ hIm (.failedRetryable hmem hrunning hcommit),
            .failedRetryable hkey ⟨published, hselection⟩ hmissing
              (RunDatabase.markState_eq_ok hcommit) rfl⟩
      · refine Triple.pure ?_
        rintro m ⟨⟨hIm, rfl⟩, _⟩
        exact ⟨hIm, by simp [NothingExecuted],
          .unpublished hkey ⟨published, hselection⟩ hmissing hcomplete hrunning⟩

/-- Invalidating stages that exist. -/
theorem invalidate_triple {scope : List StageId} {force : Bool} {P : RunMachine Bytes → Prop}
    {Q : Post (RunRoot Bytes) (Label Bytes) RunError Unit} (hstore : ∀ m, P m → m.store = root)
    (hscope : ∀ stageId ∈ scope, stageId ∈ root.database.stageIds)
    (hdied : ∀ m, P m → m.lifespan = some 0 → Q.died m)
    (hreturned : ∀ m next, P m → root.database.invalidate force scope = .ok next →
      Q.returned () (m.after (.invalidated scope force) { root with database := next })) :
    Triple P (Runstate.invalidate scope force) Q := by
  obtain ⟨next, hnext⟩ : ∃ next, root.database.invalidate force scope = .ok next :=
    RunDatabase.exists_invalidate hscope
  refine Triple.transact hdied (fun m e hm herror => ?_) (fun m c hm hok => ?_)
  · rw [hstore m hm, hnext] at herror
    exact absurd herror (by simp)
  · rw [hstore m hm, hnext] at hok
    obtain rfl := Except.ok.inj hok
    exact hreturned m next hm hnext

theorem upstreamHashes_eq_ok {database : RunDatabase} : ∀ {dependencies : List StageId},
    (∀ upstream ∈ dependencies, (database.stage upstream).state = .complete) →
    ∃ hashes, upstreamHashes database dependencies = .ok hashes := by
  intro dependencies
  induction dependencies with
  | nil => intro _; exact ⟨[], rfl⟩
  | cons first rest ih =>
    intro h
    obtain ⟨hashes, hhashes⟩ := ih (fun u hu => h u (List.mem_cons_of_mem _ hu))
    unfold upstreamHashes
    rw [if_neg (by simpa using h first List.mem_cons_self), hhashes]
    exact ⟨_, rfl⟩

theorem relevantConfiguration_eq_error {inputs : RunInputs} {stageId : StageId} {e : RunError} :
    ∀ {keys : List String}, relevantConfiguration inputs stageId keys = .error e →
      e.isRefusal = false := by
  intro keys
  induction keys with
  | nil => intro h; exact absurd h (by simp [relevantConfiguration])
  | cons first rest ih =>
    intro h
    unfold relevantConfiguration at h
    split at h
    · obtain rfl := Except.error.inj h; rfl
    · split at h
      · rename_i found hfound
        obtain rfl := Except.error.inj h
        exact ih hfound
      · exact absurd h (by simp)

/-- With complete upstream stages only a configuration hash can be missing. -/
theorem cacheKey_eq_error {database : RunDatabase} {inputs : RunInputs} {e : RunError}
    (hcomplete : ∀ upstream ∈ definition.dependencies, (database.stage upstream).state = .complete)
    (h : cacheKey platform database inputs definition = .error e) :
    e.isRefusal = false ∧ relevantConfiguration inputs definition.stageId
      definition.relevantConfigurationKeys = .error e := by
  unfold cacheKey at h
  split at h
  · rename_i found hfound
    obtain rfl := Except.error.inj h
    exact ⟨relevantConfiguration_eq_error hfound, hfound⟩
  · obtain ⟨hashes, hhashes⟩ := upstreamHashes_eq_ok hcomplete
    rw [hhashes] at h
    exact absurd h (by simp)

theorem RunError.isTransition_of_not_refusal {e : RunError} (h : e.isRefusal = false) :
    e.isTransition = false := by
  unfold RunError.isRefusal at h
  exact (Bool.or_eq_false_iff.mp h).1

theorem RunError.isBegin_of_not_refusal {e : RunError} (h : e.isRefusal = false) :
    e.isBegin = false := by
  unfold RunError.isRefusal at h
  exact (Bool.or_eq_false_iff.mp h).2

/-- The cache key of a stage whose upstream stages are complete. -/
theorem cacheKey_triple (hcalm : calm → Untroubled platform engine I) (hmem : definition ∈ engine.definitions)
    (hcomplete : ∀ upstream ∈ definition.dependencies,
      (root.database.stage upstream).state = .complete)
    {α : Type} {P : RunMachine Bytes → Prop} (hP : ∀ m, P m → I m)
    {R : α → RunMachine Bytes → Prop} {f : Sha256 → EngineProc Bytes α}
    (hf : ∀ key, HasKey platform engine root definition key →
      Triple P (f key) (reconciling I B calm R)) :
    Triple P (Proc.ofExcept (cacheKey platform root.database engine.inputs definition) >>= f)
      (reconciling I B calm R) := by
  cases hkey : cacheKey platform root.database engine.inputs definition with
  | ok key => exact Triple.ofExceptKnown rfl (hf key hkey)
  | error e =>
    obtain ⟨hrefusal, hmissing⟩ := cacheKey_eq_error hcomplete hkey
    refine Triple.bind (R := fun _ _ => False) (Triple.raise (fun m hm => ?_))
      (fun _ m hm => hm.elim)
    refine ⟨fun hc => ?_, e.isBegin_of_not_refusal hrefusal, ?_⟩
    · obtain ⟨relevant, hrelevant⟩ := (hcalm hc).configured definition hmem
      rw [hmissing] at hrelevant
      exact absurd hrelevant (by simp)
    · rw [e.isTransition_of_not_refusal hrefusal]
      exact hP m hm

theorem RunEngine.dependencyClosure_eq_ok (hopened : Opened engine root) {stageId : StageId}
    (hstage : stageId ∈ root.database.stageIds) :
    engine.dependencyClosure stageId = .ok (closure root.database.topology stageId) := by
  unfold RunEngine.dependencyClosure
  rw [← hopened.topology]
  exact if_pos hstage

/-- The invalidation of a stale stage. -/
theorem invalidateStale_triple (hI : Preserved platform engine forceStage I B)
    (hcalm : calm → Untroubled platform engine I) (hmem : definition ∈ engine.definitions)
    (hstale : Stale platform engine root definition) {α : Type}
    {R : α → RunMachine Bytes → Prop} {f : List StageId → EngineProc Bytes α}
    (hopened : Opened engine root)
    (hf : ∀ scope next, RunDatabase.Invalidated root.database
        (closure root.database.topology definition.stageId) false next →
      Triple (fun m => I m ∧ m.store = { root with database := next }) (f scope)
        (reconciling I B calm R)) :
    Triple (fun m => (I m ∧ m.store = root) ∧ m.log.getLast? = some ⟨root, .visited definition⟩)
      (do
        let scope ← Proc.ofExcept (engine.dependencyClosure definition.stageId)
        Runstate.invalidate scope false
        f scope)
      (reconciling I B calm R) := by
  refine Triple.ofExceptKnown
    (RunEngine.dependencyClosure_eq_ok hopened (hopened.mem_stageIds hmem)) ?_
  refine Triple.bind (R := fun _ m => ∃ next, RunDatabase.Invalidated root.database
      (closure root.database.topology definition.stageId) false next ∧
      I m ∧ m.store = { root with database := next }) ?_ (fun _ => ?_)
  · refine invalidate_triple (fun m hm => hm.1.2) (fun stageId => mem_nodes_of_mem_closure) ?_ ?_
    · exact fun m hm hlife => ⟨not_calm_of_dead (fun hc => (hcalm hc).lives) hm.1.1 hlife, .inl hm.1.1⟩
    · rintro m next ⟨⟨hIm, rfl⟩, hlog⟩ hcommit
      exact ⟨next, RunDatabase.invalidate_eq_ok hcommit,
        hI.effect m _ _ hIm (.stale hmem hlog hstale hcommit), rfl⟩
  · rintro m ⟨next, hinvalidated, hIm, hstore⟩
    exact hf _ next hinvalidated m ⟨hIm, hstore⟩

/-- What a stage depends on does not lie downstream of it. -/
theorem Opened.dependency_not_mem_closure (hopened : Opened engine root)
    (hmem : definition ∈ engine.definitions) {upstream : StageId}
    (hupstream : upstream ∈ definition.dependencies) :
    upstream ∉ closure root.database.topology definition.stageId := by
  intro hdown
  obtain ⟨front, back, hsplit⟩ := List.append_of_mem (hopened.mem_topology hmem)
  have hordered := hopened.ordered
  rw [hsplit] at hordered hdown
  exact hordered.downstream_not_mem_front (downstream_of_mem_closure hdown)
    (hordered.dependency_mem_front upstream hupstream)

/-- A visit changes neither the cache key of its stage nor what lies upstream. -/
theorem VisitStart.upstream (hopened : Opened engine root) (hmem : definition ∈ engine.definitions)
    {mid : RunRoot Bytes} (h : VisitStart platform engine definition root mid) :
    ∀ upstream ∈ definition.dependencies,
      mid.database.stage upstream = root.database.stage upstream ∧
      mid.database.artifact upstream = root.database.artifact upstream := by
  intro upstream hupstream
  cases h with
  | current => exact ⟨rfl, rfl⟩
  | stale _ hinvalidated =>
    have hnot := hopened.dependency_not_mem_closure hmem hupstream
    exact ⟨hinvalidated.stage_of_not_mem upstream hnot, hinvalidated.artifact_of_not_mem upstream hnot⟩

theorem VisitStart.hasKey (hopened : Opened engine root) (hmem : definition ∈ engine.definitions)
    {mid : RunRoot Bytes} (h : VisitStart platform engine definition root mid)
    (hkey : HasKey platform engine root definition key) :
    HasKey platform engine mid definition key := by
  have hupstream := h.upstream hopened hmem
  unfold HasKey at hkey ⊢
  rw [← hkey]
  exact cacheKey_congr (fun u hu => congrArg StageRow.state (hupstream u hu).1)
    (fun u hu => (hupstream u hu).2)

/-- One round of the loop of `reconcile`, at a stage that is not blocked. -/
theorem reconcileStage_triple (hI : Preserved platform engine forceStage I B)
    (hcalm : calm → Untroubled platform engine I) (hmem : definition ∈ engine.definitions)
    (hopened : Opened engine root) (hsound : Sound root.database)
    (hunblocked : ¬ Blocked platform engine root definition) :
    Triple (fun m => I m ∧ m.store = root) (engine.reconcileStage platform definition)
      (reconciling I B calm (fun result m => NothingExecuted result.1 ∧
        ∃ mid, VisitStart platform engine definition root mid ∧
          VisitEnd platform engine definition mid m.store)) := by
  have hstage := hopened.mem_stageIds hmem
  have hself := mem_closure_self hstage
  unfold RunEngine.reconcileStage
  refine Triple.bind (R := fun _ m => (I m ∧ m.store = root) ∧
    m.log.getLast? = some ⟨root, .visited definition⟩) (Triple.note ?_) (fun _ => ?_)
  · rintro m ⟨hIm, rfl⟩
    exact ⟨⟨hI.visit m definition hIm hmem hunblocked, rfl⟩, by simp⟩
  refine Triple.readKnown (s := root) (fun m hm => hm.1.2) ?_
  refine Triple.ofExceptKnown (RunDatabase.stageRow_of_mem hstage) ?_
  refine Triple.ite (fun hupstream => Triple.ite (fun hcomplete => ?_) (fun hcomplete => ?_))
    (fun hupstream => ?_)
  · have hstale : Stale platform engine root definition := ⟨hcomplete, .inl hupstream⟩
    refine invalidateStale_triple hI hcalm hmem hstale hopened (fun scope next hinvalidated => ?_)
    have hstart := VisitStart.stale hstale hinvalidated
    refine Triple.pure ?_
    rintro m ⟨hIm, hstore⟩
    refine ⟨hIm, by simp [NothingExecuted], _, hstart, ?_⟩
    rw [hstore]
    refine .waiting ?_ ?_
    · have hunchanged := hstart.upstream hopened hmem
      unfold upstreamIncomplete at hupstream ⊢
      obtain ⟨upstream, hdep, hstate⟩ := List.any_eq_true.mp hupstream
      refine List.any_eq_true.mpr ⟨upstream, hdep, ?_⟩
      rw [(hunchanged upstream hdep).1]
      exact hstate
    · unfold IsComplete
      rw [hinvalidated.stage_of_mem _ hself]
      simp [RunDatabase.invalidatedRow]
  · refine Triple.pure ?_
    rintro m ⟨⟨hIm, rfl⟩, _⟩
    have hcurrent : ¬ Stale platform engine m.store definition := fun hstale => hcomplete hstale.1
    exact ⟨hIm, by simp [NothingExecuted], _, .current hcurrent, .waiting hupstream hcomplete⟩
  · have hclear := complete_of_upstreamIncomplete_eq_false (by simpa using hupstream)
    refine cacheKey_triple hcalm hmem hclear (fun m hm => hm.1.1) (fun key hkey => ?_)
    refine Triple.ite (fun hchanged => ?_) (fun hchanged => ?_)
    · have hstale : Stale platform engine root definition :=
        ⟨hchanged.1, .inr ⟨key, hkey, hchanged.2⟩⟩
      refine invalidateStale_triple hI hcalm hmem hstale hopened (fun scope next hinvalidated => ?_)
      have hstart := VisitStart.stale hstale hinvalidated
      have hreset : (next.stage definition.stageId).state = .invalidated := by
        rw [hinvalidated.stage_of_mem _ hself]; rfl
      have hstageNext : definition.stageId ∈ next.stageIds := by
        unfold RunDatabase.stageIds
        rw [hinvalidated.topology]
        exact hstage
      have hincomplete : ¬ IsComplete ({ root with database := next } : RunRoot Bytes)
          definition.stageId := by
        unfold IsComplete; rw [hreset]; simp
      refine Triple.bind (R := fun actions m => I m ∧ NothingExecuted actions ∧
        VisitEnd platform engine definition { root with database := next } m.store) ?_
        (fun actions => Triple.pure (fun m hm => ⟨hm.1, ?_, _, hstart, hm.2.2⟩))
      · intro m hm
        have hsoundNext : Sound next := by
          have := hI.sound m hm.1
          rwa [hm.2] at this
        exact reconcilePublished_triple hI hcalm hmem hstageNext hsoundNext
          (hstart.hasKey hopened hmem hkey) (fun hc => absurd hc hincomplete)
          (fun hblocked => absurd (hreset.symm.trans hblocked.1) (by simp)) m
          ⟨hm, fun hc => absurd hc hincomplete⟩
      · intro item hitem
        rcases List.mem_cons.mp hitem with rfl | hitem
        · simp
        · exact hm.2.1 item hitem
    · have hcurrent : ¬ Stale platform engine root definition := by
        rintro ⟨hcomplete, hupstream' | ⟨other, hother, hne⟩⟩
        · exact hupstream hupstream'
        · obtain rfl : key = other := Except.ok.inj (hkey.symm.trans hother)
          exact hchanged ⟨hcomplete, hne⟩
      refine Triple.bind (R := fun actions m => I m ∧ NothingExecuted actions ∧
        VisitEnd platform engine definition root m.store) ?_
        (fun actions => Triple.pure (fun m hm => ⟨hm.1, hm.2.1, _, .current hcurrent, hm.2.2⟩))
      refine (reconcilePublished_triple hI hcalm hmem hstage hsound hkey
        (fun hcomplete => ?_) hunblocked).strengthenPre (fun m hm => ⟨hm.1, fun _ => hm.2⟩)
      exact by_contra (fun hne => hchanged ⟨hcomplete, hne⟩)

/-- A visit to a blocked stage is refused by `record_complete`. -/
theorem reconcileStage_blocked_triple (hI : Preserved platform engine forceStage I B)
    (hmem : definition ∈ engine.definitions) (hopened : Opened engine root)
    (hblocked : Blocked platform engine root definition) :
    Triple (fun m => I m ∧ m.store = root) (engine.reconcileStage platform definition)
      ⟨fun _ _ => False, fun e m => e.isTransition = true ∧ e.isBegin = false ∧ B m,
        fun m => I m ∨ B m⟩ := by
  obtain ⟨hfailed, key, attempt, hkey, hselected, hrequired⟩ := hblocked
  have hstage := hopened.mem_stageIds hmem
  have hclear := cacheKey_complete hkey
  have hincomplete : (root.database.stage definition.stageId).state ≠ .complete := by
    rw [hfailed]; simp
  unfold RunEngine.reconcileStage
  refine Triple.bind (R := fun _ m => B m ∧ m.store = root) (Triple.note ?_) (fun _ => ?_)
  · rintro m ⟨hIm, rfl⟩
    exact ⟨hI.stuck m definition hIm hmem ⟨hfailed, key, attempt, hkey, hselected, hrequired⟩, rfl⟩
  refine Triple.readKnown (s := root) (fun m hm => hm.2) ?_
  refine Triple.ofExceptKnown (RunDatabase.stageRow_of_mem hstage) ?_
  rw [if_neg (by simp [upstreamIncomplete_eq_false hclear])]
  refine Triple.ofExceptKnown hkey ?_
  rw [if_neg (fun h => hincomplete h.1)]
  refine Triple.bind (R := fun _ _ => False) ?_ (fun _ m hm => hm.elim)
  unfold RunEngine.reconcilePublished
  refine Triple.readKnown (s := root) (fun m hm => hm.2) ?_
  refine Triple.ofExceptKnown (RunDatabase.stageRow_of_mem hstage) ?_
  unfold selection at hselected
  rw [hselected]
  dsimp only
  rw [Option.filter_some, if_pos (by simpa using hrequired)]
  refine Triple.bind (R := fun _ m => B m ∧ m.store.database = root.database) ?_ (fun _ => ?_)
  · refine (publishPointer_triple (P := fun m => B m ∧ m.store.database = root.database)
      ?_).weaken ?_ ?_ ?_ ?_
    · rintro m content ⟨hBm, hdatabase⟩
      exact ⟨hI.stuckPointer m _ _ hBm, hdatabase⟩
    · rintro m ⟨hBm, rfl⟩
      exact ⟨hBm, rfl⟩
    · exact fun _ m hm => hm
    · exact fun _ m hm => hm.elim
    · exact fun m hm => .inr hm.1.1
  have hid : attempt.manifest.stageId = definition.stageId :=
    Adoptable.stageId ⟨hkey, hselected, hrequired⟩
  have hrefused : root.database.recordComplete attempt.manifest attempt.manifestSha256
      attempt.directory = .error (.cannotReconcile definition.stageId .failedFinal) := by
    unfold RunDatabase.recordComplete
    rw [hid, RunDatabase.stageRow_of_mem hstage]
    dsimp only
    rw [hfailed]
    rfl
  refine Triple.bind (R := fun _ _ => False) (Triple.transact ?_ ?_ ?_) (fun _ m hm => hm.elim)
  · exact fun m hm _ => .inr hm.1
  · rintro m e ⟨hBm, hdatabase⟩ herror
    rw [hdatabase, hrefused] at herror
    obtain rfl := Except.error.inj herror
    exact ⟨rfl, rfl, hBm⟩
  · rintro m c ⟨_, hdatabase⟩ hok
    rw [hdatabase, hrefused] at hok
    exact absurd hok (by simp)

end Visit

/-! ## The whole of reconciliation -/

/-- The loop of `reconcile` carries what every visit carries. -/
theorem reconcileStages_triple (hI : Preserved platform engine forceStage I B)
    (hcalm : calm → Untroubled platform engine I)
    {P : List (StageDefinition Bytes) → RunRoot Bytes → Prop}
    (hP : ∀ front definition rest root mid next, engine.definitions = front ++ definition :: rest →
      Opened engine root → Sound root.database → P front root →
      VisitStart platform engine definition root mid →
      VisitEnd platform engine definition mid next → P (front ++ [definition]) next) :
    ∀ (rest front : List (StageDefinition Bytes)), engine.definitions = front ++ rest →
      Triple (fun m => I m ∧ P front m.store) (engine.reconcileStages platform rest)
        (reconciling I B calm (fun result m => NothingExecuted result.1 ∧
          P engine.definitions m.store)) := by
  intro rest
  induction rest with
  | nil =>
    intro front hsplit
    rw [List.append_nil] at hsplit
    unfold RunEngine.reconcileStages
    exact Triple.pure (fun m hm => ⟨hm.1, by simp [NothingExecuted], hsplit ▸ hm.2⟩)
  | cons definition rest ih =>
    intro front hsplit
    have hmem : definition ∈ engine.definitions := by simp [hsplit]
    unfold RunEngine.reconcileStages
    refine Triple.bind (R := fun result m => I m ∧ NothingExecuted result.1 ∧
      P (front ++ [definition]) m.store) ?_ (fun first => ?_)
    · refine Triple.perStore (fun root => ?_)
      refine Triple.assume (F := Opened engine root ∧ Sound root.database ∧ P front root) ?_ ?_
      · rintro m ⟨⟨hIm, hPm⟩, rfl⟩
        exact ⟨hI.opened m hIm, hI.sound m hIm, hPm⟩
      rintro ⟨hopened, hsound, hProot⟩
      by_cases hblocked : Blocked platform engine root definition
      · refine Triple.assume (F := ¬ calm) ?_ (fun htrouble => ?_)
        · rintro m ⟨⟨hIm, _⟩, rfl⟩ hc
          exact (hcalm hc).unblocked m hIm definition hmem hblocked
        refine (reconcileStage_blocked_triple hI hmem hopened hblocked).weaken
          (fun m hm => ⟨hm.1.1, hm.2⟩) (fun _ _ h => h.elim) ?_ (fun _ h => ⟨htrouble, h⟩)
        rintro e m ⟨htransition, hbegin, hB⟩
        refine ⟨htrouble, hbegin, ?_⟩
        rw [htransition]
        exact hB
      · refine (reconcileStage_triple hI hcalm hmem hopened hsound hblocked).weaken
          (fun m hm => ⟨hm.1.1, hm.2⟩) ?_ (fun _ _ h => h) (fun _ h => h)
        rintro result m ⟨hIm, hnothing, mid, hstart, hend⟩
        exact ⟨hIm, hnothing, hP front definition rest root mid m.store hsplit hopened hsound
          hProot hstart hend⟩
    · refine Triple.bind (R := fun result m => I m ∧ NothingExecuted first.1 ∧
        NothingExecuted result.1 ∧ P engine.definitions m.store) ?_ (fun later => ?_)
      · refine Triple.assume (fun m hm => hm.2.1) (fun hfirst => ?_)
        exact (ih (front ++ [definition]) (by simp [hsplit])).weaken
          (fun m hm => ⟨hm.1, hm.2.2⟩) (fun _ m hm => ⟨hm.1, hfirst, hm.2.1, hm.2.2⟩)
          (fun _ _ h => h) (fun _ h => h)
      · refine Triple.pure (fun m hm => ⟨hm.1, fun item hitem => ?_, hm.2.2.2⟩)
        rcases List.mem_append.mp hitem with hitem | hitem
        · exact hm.2.1 item hitem
        · exact hm.2.2.1 item hitem

/-- `reconcile` establishes whatever its visits carry through the definitions. -/
theorem reconcile_triple (hI : Preserved platform engine forceStage I B)
    (hcalm : calm → Untroubled platform engine I)
    {P : List (StageDefinition Bytes) → RunRoot Bytes → Prop}
    (hP : ∀ front definition rest root mid next, engine.definitions = front ++ definition :: rest →
      Opened engine root → Sound root.database → P front root →
      VisitStart platform engine definition root mid →
      VisitEnd platform engine definition mid next → P (front ++ [definition]) next) :
    Triple (fun m => I m ∧ P [] m.store) (engine.reconcile platform)
      (reconciling I B calm (fun actions m => NothingExecuted actions ∧
        P engine.definitions m.store)) := by
  unfold RunEngine.reconcile
  refine Triple.bind (R := fun result m => I m ∧ NothingExecuted result.1 ∧
    P engine.definitions m.store) (reconcileStages_triple hI hcalm hP engine.definitions [] rfl)
    (fun result => Triple.pure (fun m hm => ⟨hm.1, fun item hitem => ?_, hm.2.2⟩))
  rcases List.mem_append.mp hitem with hitem | hitem
  · exact hm.2.1 item hitem
  · unfold invalidatedActions at hitem
    obtain ⟨stageId, _, rfl⟩ := List.mem_map.mp hitem
    simp

end Triples

end CartoSentry.Runstate
