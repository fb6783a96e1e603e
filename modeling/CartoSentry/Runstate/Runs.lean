import CartoSentry.Runstate.Execution

set_option autoImplicit false

/-!
# Run state: whole runs

`run` is reconciliation, forced invalidation and the loop over the definitions.
`VisitInvariant` and `ExecutionInvariant` are what a family of assertions has to
satisfy to be carried through the two loops; `run_triple` composes them.
-/

namespace CartoSentry.Runstate

open CartoSentry.Foundation RunEngine

variable {Bytes : Type}

/-- `P front` holds once reconciliation has visited `front`. -/
def VisitInvariant (platform : Platform Bytes) (engine : RunEngine Bytes)
    (P : List (StageDefinition Bytes) → RunRoot Bytes → Prop) : Prop :=
  ∀ front definition rest root mid next, engine.definitions = front ++ definition :: rest →
    Opened engine root → Sound root.database → P front root →
    VisitStart platform engine definition root mid →
    VisitEnd platform engine definition mid next → P (front ++ [definition]) next

/-- The root after the forced invalidation of a run. -/
inductive ForceEnd (forceStage : Option StageId) (root : RunRoot Bytes) : RunRoot Bytes → Prop
  | unforced (h : forceStage = none) : ForceEnd forceStage root root
  | forced {stageId : StageId} {next : RunDatabase} (h : forceStage = some stageId)
      (hinvalidated : RunDatabase.Invalidated root.database
        (closure root.database.topology stageId) true next) :
      ForceEnd forceStage root { root with database := next }

/-- `P front` holds once the loop of `run` has passed `front`, and `D` when it ends. -/
structure ExecutionInvariant (platform : Platform Bytes) (engine : RunEngine Bytes)
    (scope : List StageId) (P : List (StageDefinition Bytes) → RunRoot Bytes → Prop)
    (D : RunRoot Bytes → Prop) : Prop where
  skipped : ∀ front definition rest root, engine.definitions = front ++ definition :: rest →
    P front root → IsComplete root definition.stageId → definition.stageId ∉ scope →
    P (front ++ [definition]) root
  failedFinal : ∀ front definition rest root, engine.definitions = front ++ definition :: rest →
    P front root → (root.database.stage definition.stageId).state = .failedFinal → D root
  blocked : ∀ front definition rest root, engine.definitions = front ++ definition :: rest →
    P front root → ¬ (IsComplete root definition.stageId ∧ definition.stageId ∉ scope) →
    (root.database.stage definition.stageId).state ≠ .failedFinal →
    upstreamIncomplete root.database definition = true → P (front ++ [definition]) root
  begins : ∀ front definition rest root, engine.definitions = front ++ definition :: rest →
    Sound root.database → P front root →
    ¬ (IsComplete root definition.stageId ∧ definition.stageId ∉ scope) →
    (root.database.stage definition.stageId).state ≠ .failedFinal →
    upstreamIncomplete root.database definition = false →
    RunDatabase.canBegin (root.database.stage definition.stageId).state = true
  executed : ∀ front definition rest root key attemptId manifest payloads next,
    engine.definitions = front ++ definition :: rest → Opened engine root → P front root →
    upstreamIncomplete root.database definition = false →
    Executed platform engine definition root key attemptId manifest payloads next →
    P (front ++ [definition]) next
  done : ∀ root, P engine.definitions root → D root
  exported : ∀ root artifact, D root → D { root with runArtifact := artifact }

section Triples

variable {platform : Platform Bytes} {engine : RunEngine Bytes} {forceStage : Option StageId}
  {env : ProcessEnv} {I B : RunMachine Bytes → Prop} {calm : Prop} {scope : List StageId}

theorem executeStages_triple (hI : Preserved platform engine forceStage I B)
    (hcalm : calm → Productive platform engine env I)
    {P : List (StageDefinition Bytes) → RunRoot Bytes → Prop} {D : RunRoot Bytes → Prop}
    (hP : ExecutionInvariant platform engine scope P D) :
    ∀ (rest front : List (StageDefinition Bytes)), engine.definitions = front ++ rest →
      Triple (fun m => I m ∧ P front m.store) (engine.executeStages platform env scope rest)
        (executing I calm (fun _ m => D m.store)) := by
  intro rest
  induction rest with
  | nil =>
    intro front hsplit
    rw [List.append_nil] at hsplit
    unfold RunEngine.executeStages
    exact Triple.pure (fun m hm => ⟨hm.1, hP.done m.store (hsplit ▸ hm.2)⟩)
  | cons definition rest ih =>
    intro front hsplit
    have hmem : definition ∈ engine.definitions := by simp [hsplit]
    have hlater : engine.definitions = (front ++ [definition]) ++ rest := by simp [hsplit]
    -- every branch but the last goes on with the rest
    have hcontinue : ∀ record : List StageActionRecord → List StageActionRecord,
        Triple (fun m => I m ∧ P (front ++ [definition]) m.store)
          (do
            let later ← engine.executeStages platform env scope rest
            return record later)
          (executing I calm (fun _ m => D m.store)) :=
      fun record => Triple.bind (ih (front ++ [definition]) hlater)
        (fun _ => Triple.pure (fun m hm => hm))
    refine Triple.perStore (fun root => ?_)
    refine Triple.assume (F := Opened engine root ∧ Sound root.database ∧ P front root) ?_ ?_
    · rintro m ⟨⟨hIm, hPm⟩, rfl⟩
      exact ⟨hI.opened m hIm, hI.sound m hIm, hPm⟩
    rintro ⟨hopened, hsound, hProot⟩
    unfold RunEngine.executeStages
    refine Triple.readKnown (s := root) (fun m hm => hm.2) ?_
    refine Triple.ofExceptKnown (RunDatabase.stageRow_of_mem (hopened.mem_stageIds hmem)) ?_
    refine Triple.ite (fun hskip => ?_) (fun hskip => Triple.ite (fun hfinal => ?_)
      (fun hfinal => Triple.ite (fun hupstream => ?_) (fun hupstream => ?_)))
    · have hnext := hP.skipped front definition rest root hsplit hProot hskip.1 hskip.2
      exact (hcontinue _).strengthenPre (fun m hm => ⟨hm.1.1, hm.2 ▸ hnext⟩)
    · have hend := hP.failedFinal front definition rest root hsplit hProot hfinal
      refine Triple.pure ?_
      rintro m ⟨⟨hIm, _⟩, rfl⟩
      exact ⟨hIm, hend⟩
    · have hnext := hP.blocked front definition rest root hsplit hProot hskip hfinal hupstream
      exact (hcontinue _).strengthenPre (fun m hm => ⟨hm.1.1, hm.2 ▸ hnext⟩)
    · have hclear : upstreamIncomplete root.database definition = false := by simpa using hupstream
      have hbegins := hP.begins front definition rest root hsplit hsound hProot hskip hfinal hclear
      refine Triple.bind (R := fun _ m => I m ∧ P (front ++ [definition]) m.store) ?_
        (fun _ => hcontinue _)
      refine (executeStage_triple hI hcalm hmem hopened hbegins
        (complete_of_upstreamIncomplete_eq_false hclear)).weaken (fun m hm => ⟨hm.1.1, hm.2⟩) ?_
        (fun _ _ h => h) (fun _ h => h)
      rintro _ m ⟨hIm, key, attemptId, manifest, payloads, hexecuted⟩
      exact ⟨hIm, hP.executed front definition rest root key attemptId manifest payloads m.store
        hsplit hopened hProot hclear hexecuted⟩

theorem forceInvalidate_triple (hI : Preserved platform engine forceStage I B)
    (hcalm : calm → Productive platform engine env I)
    (hscope : engine.forcedScopeOf forceStage = .ok scope) (root : RunRoot Bytes) :
    Triple (fun m => I m ∧ m.store = root) (forceInvalidate forceStage scope)
      (executing I calm (fun actions m => NothingExecuted actions ∧
        ForceEnd forceStage root m.store)) := by
  unfold forceInvalidate
  cases hforce : forceStage with
  | none =>
    refine Triple.pure ?_
    rintro m ⟨hIm, rfl⟩
    exact ⟨hIm, by simp [NothingExecuted], .unforced rfl⟩
  | some stageId =>
    dsimp only
    refine Triple.assume (fun m hm => hm.2 ▸ hI.opened m hm.1) (fun hopened => ?_)
    rw [hforce] at hscope
    unfold RunEngine.forcedScopeOf RunEngine.dependencyClosure at hscope
    dsimp only at hscope
    split at hscope
    · rename_i hstage
      rw [← hopened.topology] at hscope hstage
      obtain rfl := Except.ok.inj hscope
      refine Triple.bind (R := fun _ m => I m ∧ ForceEnd (some stageId) root m.store) ?_
        (fun _ => Triple.pure (fun m hm => ⟨hm.1, ?_, hm.2⟩))
      · refine invalidate_triple (fun m hm => hm.2) (fun _ => mem_nodes_of_mem_closure) ?_ ?_
        · exact fun m hm hlife => ⟨not_calm_of_dead (fun hc => (hcalm hc).lives) hm.1 hlife, hm.1⟩
        · rintro m next ⟨hIm, rfl⟩ hcommit
          exact ⟨hI.effect m _ _ hIm (.forced hforce hstage hcommit),
            .forced rfl (RunDatabase.invalidate_eq_ok hcommit)⟩
      · intro item hitem
        obtain ⟨_, _, rfl⟩ := List.mem_map.mp hitem
        simp
    · exact absurd hscope (by simp)

/-- What `run` does once the forced invalidation is committed. -/
theorem runForced_triple (env : ProcessEnv) (hI : Preserved platform engine forceStage I B)
    (hcalm : calm → Productive platform engine env I)
    {Q : List (StageDefinition Bytes) → RunRoot Bytes → Prop} {D : RunRoot Bytes → Prop}
    (hQ : ExecutionInvariant platform engine scope Q D) (actions : List StageActionRecord) :
    Triple (fun m => I m ∧ Q [] m.store)
      (do
        let executed ← engine.executeStages platform env scope engine.definitions
        exportRunArtifact
        let root ← Proc.read
        return engine.report platform root (actions ++ executed) scope)
      (executing I calm (fun report m => D m.store ∧
        isPortableRun (runArtifactOf m.store.database) = true ∧ ∃ actions,
        report = engine.report platform m.store actions scope)) := by
  refine Triple.bind (executeStages_triple hI hcalm hQ engine.definitions [] rfl) (fun executed => ?_)
  refine Triple.bind (export_triple hI hcalm (fun m artifact h => hQ.exported m.store _ h))
    (fun _ => Triple.readBind (fun root => Triple.pure ?_))
  rintro m ⟨⟨hIm, hDm, hportable⟩, rfl⟩
  exact ⟨hIm, hDm, hportable, _, rfl⟩

/-- A run that is not a dry one, with a known stage to force or none. -/
theorem run_triple (hI : Preserved platform engine forceStage I B)
    (hcalm : calm → Productive platform engine env I)
    (hscope : engine.forcedScopeOf forceStage = .ok scope)
    {P Q : List (StageDefinition Bytes) → RunRoot Bytes → Prop} {D : RunRoot Bytes → Prop}
    (hP : VisitInvariant platform engine P) (hQ : ExecutionInvariant platform engine scope Q D)
    (hforce : ∀ root next, Opened engine root → Sound root.database →
      P engine.definitions root → ForceEnd forceStage root next → Q [] next) :
    Triple (fun m => I m ∧ P [] m.store) (engine.run platform env forceStage false)
      (reconciling I B calm (fun report m => D m.store ∧
        isPortableRun (runArtifactOf m.store.database) = true ∧ ∃ actions,
        report = engine.report platform m.store actions scope)) := by
  unfold RunEngine.run
  refine Triple.ofExceptKnown hscope ?_
  rw [if_neg Bool.false_ne_true]
  refine Triple.bind (reconcile_triple hI (fun hc => (hcalm hc).toUntroubled) hP)
    (fun actions => ?_)
  refine Triple.weaken (P := fun m => I m ∧ P engine.definitions m.store) (Q := executing I calm
    (fun report m => D m.store ∧ isPortableRun (runArtifactOf m.store.database) = true ∧
      ∃ actions, report = engine.report platform m.store actions scope))
    ?_ (fun m hm => ⟨hm.1, hm.2.2⟩) (fun _ _ h => h) ?_ (fun _ h => ⟨h.1, .inl h.2⟩)
  · unfold RunEngine.runReconciled
    refine Triple.bind (R := fun _ m => I m ∧ Q [] m.store) ?_
      (fun forced => runForced_triple env hI hcalm hQ (actions ++ forced))
    refine Triple.perStore (fun root => ?_)
    refine Triple.assume
      (F := Opened engine root ∧ Sound root.database ∧ P engine.definitions root) ?_ ?_
    · rintro m ⟨⟨hIm, hPm⟩, rfl⟩
      exact ⟨hI.opened m hIm, hI.sound m hIm, hPm⟩
    rintro ⟨hopened, hsound, hProot⟩
    refine (forceInvalidate_triple hI hcalm hscope root).weaken (fun m hm => ⟨hm.1.1, hm.2⟩) ?_
      (fun _ _ h => h) (fun _ h => h)
    exact fun _ m hm => ⟨hm.1, hforce root m.store hopened hsound hProot hm.2.2⟩
  · rintro e m ⟨htrouble, hrefusal, hIm⟩
    refine ⟨htrouble, e.isBegin_of_not_refusal hrefusal, ?_⟩
    rw [e.isTransition_of_not_refusal hrefusal]
    exact hIm

end Triples

end CartoSentry.Runstate
