import CartoSentry.Runstate.Refinement

set_option autoImplicit false

/-!
# Run state: transitions that reconciliation is refused

`record_complete` refuses a stage that has failed finally, so reconciliation
raises exactly when it visits such a stage and would adopt a published attempt
of it.  Every forced run reconciles first: what stops reconciliation keeps the
forced invalidation from being committed as well.
-/

namespace CartoSentry.Runstate

open CartoSentry.Foundation RunEngine

variable {Bytes : Type}

/-- One of the effects is a visit to a blocked stage. -/
def BlockedVisit (platform : Platform Bytes) (engine : RunEngine Bytes) (log : RunLog Bytes) :
    Prop :=
  ∃ effect ∈ log, ∃ definition, effect.label = .visited definition ∧
    Blocked platform engine effect.before definition

/-- One of the effects is a forced invalidation. -/
def ForcedIn (log : RunLog Bytes) : Prop :=
  ∃ effect ∈ log, ∃ scope, effect.label = .invalidated scope true

/-- The machine has logged, since `log`, effects that satisfy `P`. -/
def Since (log : RunLog Bytes) (P : RunLog Bytes → Prop) (m : RunMachine Bytes) : Prop :=
  ∃ later, m.log = log ++ later ∧ P later

section Since

variable {log : RunLog Bytes} {P Q : RunLog Bytes → Prop} {m next : RunMachine Bytes}
  {platform : Platform Bytes} {engine : RunEngine Bytes}

theorem Since.snoc {effect : Effect (RunRoot Bytes) (Label Bytes)} (h : Since log P m)
    (hlog : next.log = m.log ++ [effect]) (hP : ∀ later, P later → Q (later ++ [effect])) :
    Since log Q next := by
  obtain ⟨later, hlater, hm⟩ := h
  refine ⟨later ++ [effect], ?_, hP later hm⟩
  rw [hlog, hlater, List.append_assoc]

/-- Two accounts of what came since are one. -/
theorem Since.and (hP : Since log P m) (hQ : Since log Q m) :
    ∃ later, m.log = log ++ later ∧ P later ∧ Q later := by
  obtain ⟨later, hlater, hm⟩ := hP
  obtain ⟨other, hother, hQ⟩ := hQ
  have hsame : other = later := List.append_cancel_left (hother.symm.trans hlater)
  exact ⟨later, hlater, hm, hsame ▸ hQ⟩

theorem ForcedIn.snoc {later : RunLog Bytes} {effect : Effect (RunRoot Bytes) (Label Bytes)}
    (h : ForcedIn later) : ForcedIn (later ++ [effect]) := by
  obtain ⟨found, hmem, hforced⟩ := h
  exact ⟨found, List.mem_append_left _ hmem, hforced⟩

theorem not_forcedIn_snoc {later : RunLog Bytes} {root : RunRoot Bytes} {label : Label Bytes}
    (h : ¬ ForcedIn later) (hlabel : ∀ scope, label ≠ .invalidated scope true) :
    ¬ ForcedIn (later ++ [⟨root, label⟩]) := by
  rintro ⟨effect, hmem, scope, hforced⟩
  rcases List.mem_append.mp hmem with hmem | hmem
  · exact h ⟨effect, hmem, scope, hforced⟩
  · rw [List.mem_singleton.mp hmem] at hforced
    exact hlabel scope hforced

theorem BlockedVisit.snoc {later : RunLog Bytes} {effect : Effect (RunRoot Bytes) (Label Bytes)}
    (h : BlockedVisit platform engine later) : BlockedVisit platform engine (later ++ [effect]) := by
  obtain ⟨found, hmem, hblocked⟩ := h
  exact ⟨found, List.mem_append_left _ hmem, hblocked⟩

theorem not_blockedVisit_snoc {later : RunLog Bytes} {root : RunRoot Bytes} {label : Label Bytes}
    (h : ¬ BlockedVisit platform engine later)
    (hlabel : ∀ definition, label = .visited definition →
      ¬ Blocked platform engine root definition) :
    ¬ BlockedVisit platform engine (later ++ [⟨root, label⟩]) := by
  rintro ⟨effect, hmem, definition, hvisited, hblocked⟩
  rcases List.mem_append.mp hmem with hmem | hmem
  · exact h ⟨effect, hmem, definition, hvisited, hblocked⟩
  · rw [List.mem_singleton.mp hmem] at hvisited hblocked
    exact hlabel definition hvisited hblocked

end Since

/-! ## Reconciliation calls nobody, so it ends on a machine that never dies -/

section Enduring

variable (platform : Platform Bytes) (engine : RunEngine Bytes)

open Proc (Enduring)

theorem publishPointer_enduring (attempt : PublishedAttempt) :
    Enduring (engine.publishPointer platform attempt) := by
  unfold RunEngine.publishPointer
  refine Enduring.bind .read (fun root => ?_)
  exact .ite (.pure _) (.transact _)

theorem reconcilePublished_enduring (definition : StageDefinition Bytes) (key : Sha256) :
    Enduring (engine.reconcilePublished platform definition key) := by
  unfold RunEngine.reconcilePublished
  refine Enduring.bind .read (fun root => Enduring.bind (.ofExcept _) (fun row => ?_))
  cases selectPublished platform engine.inputs.workflowId definition key root.artifacts with
  | error e => exact Enduring.bind (.transact _) (fun _ => .pure _)
  | ok published =>
    dsimp only
    cases published.filter (fun attempt =>
        row.requiredAttemptNumber ≤ attempt.manifest.attemptNumber) with
    | some attempt =>
      refine Enduring.bind (publishPointer_enduring platform engine attempt) (fun repaired => ?_)
      refine Enduring.bind (.transact _) (fun _ => ?_)
      exact .ite (.pure _) (.ite (.pure _) (.pure _))
    | none =>
      refine .ite (Enduring.bind (.transact _) (fun _ => .pure _)) (.ite ?_ (.pure _))
      exact Enduring.bind (.transact _) (fun _ => .pure _)

theorem reconcileStage_enduring (definition : StageDefinition Bytes) :
    Enduring (engine.reconcileStage platform definition) := by
  unfold RunEngine.reconcileStage
  refine Enduring.bind (.note _) (fun _ => Enduring.bind .read (fun root => ?_))
  refine Enduring.bind (.ofExcept _) (fun row => ?_)
  have hpublished := reconcilePublished_enduring platform engine definition
  refine .ite (.ite ?_ (.pure _)) (Enduring.bind (.ofExcept _) (fun key => .ite ?_ ?_))
  · exact Enduring.bind (.ofExcept _) (fun _ => Enduring.bind (.transact _) (fun _ => .pure _))
  · refine Enduring.bind (.ofExcept _) (fun _ => Enduring.bind (.transact _) (fun _ => ?_))
    exact Enduring.bind (hpublished key) (fun _ => .pure _)
  · exact Enduring.bind (hpublished key) (fun _ => .pure _)

theorem reconcile_enduring : Enduring (engine.reconcile platform) := by
  have hstages : ∀ definitions : List (StageDefinition Bytes),
      Enduring (engine.reconcileStages platform definitions) := by
    intro definitions
    induction definitions with
    | nil => exact .pure _
    | cons definition rest ih =>
      refine Enduring.bind (reconcileStage_enduring platform engine definition) (fun _ => ?_)
      exact Enduring.bind ih (fun _ => .pure _)
  exact Enduring.bind (hstages engine.definitions) (fun _ => .pure _)

end Enduring

section Reconciled

variable {platform : Platform Bytes} {engine : RunEngine Bytes} {start root : RunRoot Bytes}
  {log : RunLog Bytes}

/-- An effect of an engine is neither a visit nor, unless it is asked for one, a
forced invalidation. -/
theorem EngineStep.label_ne {earlier : RunLog Bytes} {next : RunRoot Bytes} {label : Label Bytes}
    (h : EngineStep platform engine none earlier root label next) :
    (∀ definition, label ≠ .visited definition) ∧ ∀ scope, label ≠ .invalidated scope true := by
  cases h with
  | forced hforce => cases hforce
  | _ => exact ⟨fun _ => by simp, fun _ => by simp⟩

/-- Since `log` nothing was forced and no blocked stage was visited. -/
def Clear (platform : Platform Bytes) (engine : RunEngine Bytes) (log : RunLog Bytes) :
    RunMachine Bytes → Prop :=
  Since log (fun later => ¬ BlockedVisit platform engine later ∧ ¬ ForcedIn later)

/-- Since `log` nothing was forced, but a blocked stage was visited. -/
def Stuck (platform : Platform Bytes) (engine : RunEngine Bytes) (log : RunLog Bytes) :
    RunMachine Bytes → Prop :=
  Since log (fun later => BlockedVisit platform engine later ∧ ¬ ForcedIn later)

/-- The visits of a reconciliation are clear up to the one that gets stuck. -/
theorem preserved_clear (hstart : Sound start.database) (log : RunLog Bytes) :
    Preserved platform engine none
      (fun m => Running (Setting.unrestricted platform) start engine m ∧
        Clear platform engine log m)
      (fun m => Running (Setting.unrestricted platform) start engine m ∧
        Stuck platform engine log m) := by
  refine (preserved_unrestricted platform engine none hstart).and ?_ ?_ ?_ ?_
  · intro m label next _ hclear hstep
    obtain ⟨hvisited, hforced⟩ := hstep.label_ne
    exact hclear.snoc rfl (fun later h => ⟨not_blockedVisit_snoc h.1
      (fun definition heq => absurd heq (hvisited definition)), not_forcedIn_snoc h.2 hforced⟩)
  · intro m definition hclear hunblocked
    refine hclear.snoc rfl (fun later h => ⟨not_blockedVisit_snoc h.1 (fun other heq => ?_),
      not_forcedIn_snoc h.2 (fun _ heq => by cases heq)⟩)
    cases heq
    exact hunblocked
  · intro m definition hclear hblocked
    refine hclear.snoc rfl (fun later h =>
      ⟨⟨_, List.mem_append_right _ (List.mem_singleton.mpr rfl), definition, rfl, hblocked⟩,
        not_forcedIn_snoc h.2 (fun _ heq => by cases heq)⟩)
  · intro m stageId content hstuck
    exact hstuck.snoc rfl (fun later h =>
      ⟨h.1.snoc, not_forcedIn_snoc h.2 (fun _ heq => by cases heq)⟩)

/-- Where reconciliation ends, and whether a blocked stage was visited. -/
theorem reconcile_stuck (h : Reaches (Setting.unrestricted platform) start log root)
    (hopened : Opened engine root) :
    (reconciling (Clear platform engine log) (Stuck platform engine log) False
      (fun _ m => Running (Setting.unrestricted platform) start engine m ∧
        AllVisited platform engine engine.definitions m.store)).Holds
      (engine.reconcile platform ⟨root, none, log⟩) := by
  obtain ⟨hstart, hhistory⟩ := h.history
  have hclear : Clear platform engine log ⟨root, none, log⟩ :=
    ⟨[], (List.append_nil log).symm, by simp [BlockedVisit], by simp [ForcedIn]⟩
  refine ((reconcile_opened (preserved_clear hstart log)).weaken (fun _ hm => hm) ?_ ?_ ?_)
    _ ⟨⟨hhistory, hopened⟩, hclear⟩
  · exact fun _ m hm => ⟨hm.1.2, hm.1.1, hm.2.2⟩
  · rintro e m ⟨htrouble, hbegin, hm⟩
    refine ⟨htrouble, hbegin, ?_⟩
    cases htransition : e.isTransition with
    | true =>
      rw [htransition] at hm
      exact hm.2
    | false =>
      rw [htransition] at hm
      exact hm.2
  · rintro m ⟨htrouble, hm | hm⟩
    · exact ⟨htrouble, .inl hm.2⟩
    · exact ⟨htrouble, .inr hm.2⟩

/-- The first thing a forced run does once it has reconciled. -/
theorem forceInvalidate_forced (log : RunLog Bytes) (root : RunRoot Bytes) (stageId : StageId) :
    ∃ actions next, root.database.invalidate true (closure root.database.topology stageId) =
        .ok next ∧
      forceInvalidate (some stageId) (closure root.database.topology stageId) ⟨root, none, log⟩ =
        (.returned actions, ⟨{ root with database := next }, none,
          log ++ [⟨root, .invalidated (closure root.database.topology stageId) true⟩]⟩) := by
  obtain ⟨next, hnext⟩ : ∃ next, root.database.invalidate true
      (closure root.database.topology stageId) = .ok next :=
    RunDatabase.exists_invalidate (fun _ => mem_nodes_of_mem_closure)
  have hcommit : Runstate.invalidate (closure root.database.topology stageId) true
      ⟨root, none, log⟩ = (.returned (), ⟨{ root with database := next }, none,
        log ++ [⟨root, .invalidated (closure root.database.topology stageId) true⟩]⟩) := by
    unfold Runstate.invalidate Proc.transact
    rw [if_neg (by simp)]
    dsimp only
    rw [hnext]
    rfl
  refine ⟨(closure root.database.topology stageId).map (fun stageId => ⟨stageId, .forceInvalidated,
    "The selected force-stage dependency closure was invalidated."⟩), next, hnext, ?_⟩
  change Proc.bind _ _ _ = _
  unfold Proc.bind
  rw [hcommit]
  rfl

/-- The forced invalidation of a run stays in the log, whatever the run does after it. -/
theorem runReconciled_forced (hstart : Sound start.database) {stageId : StageId}
    (hhistory : History (RunStep (Setting.unrestricted platform)) start log root)
    (hopened : Opened engine root) (hstage : stageId ∈ root.database.stageIds)
    (hvisited : AllVisited platform engine engine.definitions root) (env : ProcessEnv)
    (actions : List StageActionRecord) :
    Since log ForcedIn (engine.runReconciled platform env (some stageId)
      (closure root.database.topology stageId) actions ⟨root, none, log⟩).2 := by
  obtain ⟨forced, next, hnext, hforced⟩ := forceInvalidate_forced log root stageId
  have hinvalidated := RunDatabase.invalidate_eq_ok hnext
  have hscope : engine.forcedScopeOf (some stageId) =
      .ok (closure root.database.topology stageId) :=
    RunEngine.dependencyClosure_eq_ok hopened hstage
  have hI := preserved_unrestricted platform engine (some stageId) hstart
  have hJ : Preserved platform engine (some stageId)
      (fun m => Running (Setting.unrestricted platform) start engine m ∧ Since log ForcedIn m)
      (fun m => Running (Setting.unrestricted platform) start engine m ∧ Since log ForcedIn m) :=
    hI.and (fun _ _ _ _ h _ => h.snoc rfl (fun _ h => h.snoc))
      (fun _ _ h _ => h.snoc rfl (fun _ h => h.snoc))
      (fun _ _ h _ => h.snoc rfl (fun _ h => h.snoc))
      (fun _ _ _ h => h.snoc rfl (fun _ h => h.snoc))
  have hpending : Pending engine (closure root.database.topology stageId) []
      ({ root with database := next } : RunRoot Bytes) :=
    pending_of_visited hopened (sound_of_history hstart hhistory) hscope hvisited
      (.forced rfl hinvalidated)
  have hbegan : Running (Setting.unrestricted platform) start engine
      ⟨{ root with database := next }, none,
        log ++ [⟨root, .invalidated (closure root.database.topology stageId) true⟩]⟩ :=
    hI.effect ⟨root, none, log⟩ _ _ ⟨hhistory, hopened⟩ (.forced rfl hstage hnext)
  have hended := runForced_triple env hJ False.elim (pending_invariant hopened)
    (actions ++ forced) _ ⟨⟨hbegan, _, rfl, _, List.mem_singleton.mpr rfl, _, rfl⟩, hpending⟩
  unfold RunEngine.runReconciled
  change Since log ForcedIn (Proc.bind _ _ _).2
  unfold Proc.bind
  rw [hforced]
  exact hended.machine (fun _ _ h => h.1.2) (fun _ _ h => h.2.2.2) (fun _ h => h.2.2)

/-- A run that is not a dry one begins with reconciliation. -/
theorem run_eq_reconcile (hopened : Opened engine root) {stageId : StageId}
    (hstage : stageId ∈ root.database.stageIds) (env : ProcessEnv) (m : RunMachine Bytes) :
    engine.run platform env (some stageId) false m =
      Proc.bind (engine.reconcile platform) (fun actions => engine.runReconciled platform env
        (some stageId) (closure root.database.topology stageId) actions) m := by
  have hscope : engine.forcedScopeOf (some stageId) =
      .ok (closure root.database.topology stageId) :=
    RunEngine.dependencyClosure_eq_ok hopened hstage
  unfold RunEngine.run
  rw [hscope]
  rfl

/-- The small run, with what had been published restored after it was missed. -/
def smallRestored : RunMachine SmallBytes :=
  smallDisturbed smallComplete.store.artifacts (smallAfter (smallLife (smallDefinitions "1") none)
    (smallDisturbed (fun _ _ => .missing) smallComplete))

theorem smallRestored_reaches : SmallReaches smallRestored :=
  smallDisturbed_reaches _ (smallAfter_reaches _ (smallDisturbed_reaches _ smallComplete_reaches))

end Reconciled

end CartoSentry.Runstate
