import CartoSentry.Runstate.Refinement

set_option autoImplicit false

/-!
# Run state: the complete closure after reconciliation

From every root that any history of processes and disturbances leaves behind,
reconciliation settles every complete stage, the rest of the run begins only
what can begin, and attempt numbers are never used twice.
-/

namespace CartoSentry.Runstate

open CartoSentry.Foundation RunEngine

variable {Bytes : Type}

section Reconciled

variable {platform : Platform Bytes} {start root : RunRoot Bytes} {log : RunLog Bytes}
  {engine : RunEngine Bytes}

/-- What reconciliation leaves behind from a root with a history. -/
theorem reconcile_allVisited (h : Reaches (Setting.unrestricted platform) start log root)
    (hopened : Opened engine root) {lifespan : Option Nat} {actions : List StageActionRecord}
    {m : RunMachine Bytes}
    (hreturned : engine.reconcile platform ⟨root, lifespan, log⟩ = (.returned actions, m)) :
    Opened engine m.store ∧ AllVisited platform engine engine.definitions m.store := by
  have hI := preserved_unrestricted platform engine none h.history.1
  have hended := reconcile_opened hI ⟨root, lifespan, log⟩ ⟨h.history.2, hopened⟩
  rw [hreturned] at hended
  exact ⟨hended.1.2, hended.2.2⟩

/-- Complete stages are settled once reconciliation returns; a run never begins an
attempt in a state that does not allow one; and the numbers of a stage's attempts
increase strictly over every history. -/
theorem complete_closure (h : Reaches (Setting.unrestricted platform) start log root)
    (hopened : Opened engine root) (env : ProcessEnv) (forceStage : Option StageId) (dryRun : Bool)
    (lifespan : Option Nat) :
    (∀ actions m, engine.reconcile platform ⟨root, lifespan, log⟩ = (.returned actions, m) →
      ∀ definition ∈ engine.definitions, IsComplete m.store definition.stageId →
        (∀ upstream ∈ definition.dependencies, IsComplete m.store upstream) ∧
        ∃ key attempt,
          cacheKey platform m.store.database engine.inputs definition = .ok key ∧
          (m.store.database.stage definition.stageId).cacheKey = some key ∧
          selectPublished platform engine.inputs.workflowId definition key m.store.artifacts =
            .ok (some attempt) ∧
          m.store.database.artifact definition.stageId =
            attempt.manifest.artifacts.map (RunDatabase.artifactRowOf attempt.directory)) ∧
    (∀ e m, engine.run platform env forceStage dryRun ⟨root, lifespan, log⟩ = (.raised e, m) →
      (∀ stageId state, e ≠ .cannotBegin stageId state) ∧ e ≠ .dependencyIncomplete) ∧
    ∀ stageId, (beganNumbers stageId log).Pairwise (· < ·) := by
  refine ⟨fun actions m hreturned definition hmem hcomplete => ?_, fun e m hraised => ?_,
    fun stageId => (beganNumbers_increase h.history.2 stageId).1⟩
  · obtain ⟨_, hvisited⟩ := reconcile_allVisited h hopened hreturned
    obtain ⟨key, attempt, hkey, hrow, hselected, _, hrows⟩ :=
      (hvisited definition hmem).settled hcomplete
    exact ⟨cacheKey_complete hkey, key, attempt, hkey, hrow, hselected, hrows⟩
  · have hI := preserved_unrestricted platform engine forceStage h.history.1
    have hended := run_opened hI env dryRun ⟨root, lifespan, log⟩ ⟨h.history.2, hopened⟩
    have hbegin : e.isBegin = false := by
      rw [hraised] at hended
      exact hended.2.1
    refine ⟨fun stageId state heq => ?_, fun heq => ?_⟩
    · rw [heq] at hbegin; cases hbegin
    · rw [heq] at hbegin; cases hbegin

/-- The complete closure on the small run, once both of its stages are complete. -/
theorem complete_closure_small :
    SmallReaches smallComplete ∧ beganNumbers "report" smallComplete.log = [1] ∧
    (∀ e m, (engineOn smallComplete.store (smallDefinitions "1")).run smallPlatform smallEnv
        (some "detect") false ⟨smallComplete.store, none, smallComplete.log⟩ = (.raised e, m) →
      (∀ stageId state, e ≠ .cannotBegin stageId state) ∧ e ≠ .dependencyIncomplete) := by
  have hopened := small_opened smallComplete.store (by decide +kernel)
  exact ⟨smallComplete_reaches, by decide +kernel,
    (complete_closure smallComplete_reaches hopened smallEnv (some "detect") false none).2.1⟩

end Reconciled

end CartoSentry.Runstate
