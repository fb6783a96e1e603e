import CartoSentry.Runstate.FollowsPlan

set_option autoImplicit false

/-!
# Run state: run roots that agree with a plan

`OnPlan` is a root that follows its plan and in which nothing was ever invalidated
or forced.  Every effect of an engine that forces nothing keeps a root on plan.
-/

namespace CartoSentry.Runstate

open CartoSentry.Foundation RunEngine

variable {Bytes : Type}

/-- The run root agrees with the plan. -/
structure OnPlan (platform : Platform Bytes) (engine : RunEngine Bytes)
    (plan : StageId → StagePlan) (root : RunRoot Bytes) : Prop where
  opened : Opened engine root
  named : Named root
  state : ∀ stageId, (root.database.stage stageId).state ≠ .failedFinal ∧
    (root.database.stage stageId).state ≠ .invalidated
  required : ∀ stageId, (root.database.stage stageId).requiredAttemptNumber = 0
  idle : ∀ stageId, ¬ IsComplete root stageId → root.database.artifact stageId = []
  running : ∀ stageId attemptId, (root.database.stage stageId).state = .running →
    (root.database.stage stageId).attemptId = some attemptId →
    ∃ row ∈ root.database.attempt, row.attemptId = attemptId
  complete : ∀ definition ∈ engine.definitions, IsComplete root definition.stageId →
    Fulfilled root definition (plan definition.stageId)
  cacheRoot : ∀ stageId cacheKey, root.artifacts stageId cacheKey ≠ .notDirectory
  published : ∀ definition ∈ engine.definitions,
    ∀ entry ∈ (root.artifacts definition.stageId (plan definition.stageId).key).entries,
      Faithful platform engine root.database definition (plan definition.stageId) entry

section Step

variable {platform : Platform Bytes} {engine : RunEngine Bytes} {plan : StageId → StagePlan}
  {root next : RunRoot Bytes}

theorem OnPlan.follows (h : OnPlan platform engine plan root) :
    FollowsPlan platform engine plan root where
  opened := h.opened
  named := h.named
  state := fun stageId => (h.state stageId).1
  idle := h.idle
  running := h.running
  complete := h.complete
  cacheRoot := h.cacheRoot
  published := h.published

theorem FollowsPlan.onPlan (h : FollowsPlan platform engine plan root)
    (hrows : ∀ stageId, (root.database.stage stageId).state ≠ .invalidated ∧
      (root.database.stage stageId).requiredAttemptNumber = 0) :
    OnPlan platform engine plan root where
  opened := h.opened
  named := h.named
  state := fun stageId => ⟨h.state stageId, (hrows stageId).1⟩
  required := fun stageId => (hrows stageId).2
  idle := h.idle
  running := h.running
  complete := h.complete
  cacheRoot := h.cacheRoot
  published := h.published

/-- Every effect of an engine that forces nothing keeps the root on plan. -/
theorem OnPlan.step (h : OnPlan platform engine plan root)
    (hplan : ∀ definition ∈ engine.definitions, Planned platform engine.inputs plan definition)
    (houtputs : ∀ definition ∈ engine.definitions,
      ValidOutputs platform engine.inputs definition)
    {log : RunLog Bytes} {label : Label Bytes}
    (hstep : EngineStep platform engine none log root label next) :
    OnPlan platform engine plan next := by
  refine (h.follows.step hplan houtputs (fun stageId _ => h.required stageId) hstep).onPlan ?_
  have hrow : ∀ {database : RunDatabase} {changed : StageId} {row : StageRow},
      database.stage = Function.update root.database.stage changed row →
      row.state ≠ .invalidated → row.requiredAttemptNumber = 0 → ∀ stageId,
        (database.stage stageId).state ≠ .invalidated ∧
          (database.stage stageId).requiredAttemptNumber = 0 := by
    intro database changed row hstage hstate hrequired stageId
    rw [hstage]
    by_cases hsame : stageId = changed
    · rw [hsame, Function.update_self]
      exact ⟨hstate, hrequired⟩
    · rw [Function.update_of_ne hsame]
      exact ⟨(h.state stageId).2, h.required stageId⟩
  cases hstep with
  | stale hmem _ hstale => exact absurd hstale (h.follows.not_stale hplan hmem)
  | forced hforce => cases hforce
  | @failedFinal definition _ _ _ _ _ _ _ hcommit =>
    obtain rfl := (RunDatabase.markState_eq_ok hcommit).next_eq
    exact hrow rfl (by simp) (h.required definition.stageId)
  | @failedRetryable definition _ _ _ _ hcommit =>
    obtain rfl := (RunDatabase.markState_eq_ok hcommit).next_eq
    exact hrow rfl (by simp) (h.required definition.stageId)
  | adopted _ _ _ hcommit =>
    exact hrow (RunDatabase.recordComplete_eq_ok hcommit).stage
      (by simp [RunDatabase.completedRow]) rfl
  | @began definition _ _ _ _ _ _ _ hcommit =>
    exact hrow (RunDatabase.beginAttempt_eq_ok hcommit).stage
      (by simp [RunDatabase.begunRow]) (h.required definition.stageId)
  | executed _ _ _ _ _ hcommit =>
    exact hrow (RunDatabase.recordComplete_eq_ok hcommit).stage
      (by simp [RunDatabase.completedRow]) rfl
  | attemptChanged | cacheRootMade | cacheRootCreated | published | pointerWritten | exported =>
    exact fun stageId => ⟨(h.state stageId).2, h.required stageId⟩

end Step

end CartoSentry.Runstate
