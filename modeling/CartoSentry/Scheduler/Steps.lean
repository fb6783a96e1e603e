import CartoSentry.Scheduler.CriticalSections

set_option autoImplicit false

/-!
# The steps of the scheduler

What a critical section can report, and what it does to the queues and the cursor: it leaves them
alone, puts one accepted unit at the end of its queue, gives the front of one queue to a worker, or
empties them all.
-/

namespace CartoSentry.Scheduler

open CartoSentry.Foundation

/-- The events that an action can report. -/
def Action.reports {config : SchedulerConfig} : Action config → Event → Bool
  | .submit .., .blocked | .submit .., .rejected _ | .submit .., .accepted _ => true
  | .resume .., .blocked | .resume .., .rejected _ | .resume .., .accepted _ => true
  | .close, .closed => true
  | .requestCancel, .cancelRequested => true
  | .metrics, .observed _ => true
  | .workerTurn _, .blocked | .workerTurn _, .workerReturned | .workerTurn _, .selected _ => true
  | .workerComplete .., .completed _ => true
  | .enterWait, .closed => true
  | .drain _, .blocked | .drain _, .drained => true
  | .finishWait _, .returned _ => true
  | _, _ => false

/-- An event of a critical section that leaves the queues alone. -/
def Event.keepsQueues : Event → Bool
  | .accepted _ | .cancelRequested | .selected _ => false
  | _ => true

/-- An event that moves a worker. -/
def Event.ofWorker : Event → Bool
  | .selected _ | .workerReturned | .completed _ => true
  | _ => false

namespace BoundedScheduler

variable {config : SchedulerConfig} {s s' : BoundedScheduler config} {event : Event}

/-- Nothing is cancelled, and what is closed stays closed. -/
structure KeepsFlags (s s' : BoundedScheduler config) : Prop where
  requested : s'.cancellationRequested = s.cancellationRequested
  stopRequested : s'.stopRequested = s.stopRequested
  closed : s.accepting = false → s'.accepting = false

/-- A step of a caller, which does not move the workers. -/
structure CallerStep (s s' : BoundedScheduler config) : Prop extends KeepsFlags s s' where
  workers : s'.workers = s.workers

/-! ## Submission -/

/-- How `submit` ends once it has taken the lock. -/
inductive Submitted (s : BoundedScheduler config) (unit : WorkUnit) :
    Event → BoundedScheduler config → Prop
  | blocked (s' : BoundedScheduler config) (hqueues : s'.queues = s.queues)
      (hcursor : s'.nextModality = s.nextModality) (hcaller : CallerStep s s') :
      Submitted s unit .blocked s'
  | rejected (error : WorkError) (s' : BoundedScheduler config) (hqueues : s'.queues = s.queues)
      (hcursor : s'.nextModality = s.nextModality) (hcaller : CallerStep s s') :
      Submitted s unit (.rejected error) s'
  | accepted (index : Fin modalityCount) (s' : BoundedScheduler config)
      (hindex : index.val = modalityIndex unit.modality) (haccepting : s.accepting = true)
      (hrequested : s.cancellationRequested = false)
      (hqueues : s'.queues = Function.update s.queues index
        (s.queues index ++ [⟨s.nextSubmissionOrder, unit⟩]))
      (hcursor : s'.nextModality = s.nextModality) (hcaller : CallerStep s s') :
      Submitted s unit (.accepted ⟨s.nextSubmissionOrder, unit⟩) s'

theorem submitted_of_admit {unit : WorkUnit} {backpressure : Nat}
    (h : s.admitUnit unit backpressure = .ok (s', event)) : Submitted s unit event s' := by
  unfold admitUnit at h
  dsimp only at h
  split_ifs at h with hrequested hclosed
  · cases h
    exact .rejected _ _ rfl rfl ⟨⟨rfl, rfl, id⟩, rfl⟩
  · cases h
    exact .rejected _ _ rfl rfl ⟨⟨rfl, rfl, id⟩, rfl⟩
  · unfold enqueue at h
    split_ifs at h with hmodality
    cases h
    have haccepting : s.accepting = true := by simpa using hclosed
    exact .accepted _ _ rfl haccepting (Bool.eq_false_iff.mpr hrequested) rfl rfl ⟨⟨rfl, rfl, id⟩, rfl⟩

theorem submitted_of_awaitRoom {unit : WorkUnit} {backpressure : Nat}
    {blocked : BoundedScheduler config}
    (h : s.awaitRoom unit backpressure blocked = .ok (s', event))
    (hqueues : blocked.queues = s.queues) (hcursor : blocked.nextModality = s.nextModality)
    (hcaller : CallerStep s blocked) : Submitted s unit event s' := by
  obtain ⟨proceed, -, h⟩ := bind_eq_ok_iff.mp h
  cases proceed with
  | true => exact submitted_of_admit h
  | false =>
    cases h
    exact .blocked _ hqueues hcursor hcaller

theorem submitted_of_submit {unit : WorkUnit} {backpressure : Nat}
    (h : s.submit unit backpressure = .ok (s', event)) : Submitted s unit event s' := by
  unfold submit at h
  split at h
  · cases h
    exact .rejected _ _ rfl rfl ⟨⟨rfl, rfl, id⟩, rfl⟩
  · obtain ⟨exceeds, -, h⟩ := bind_eq_ok_iff.mp h
    cases exceeds with
    | true =>
      cases h
      exact .rejected _ _ rfl rfl ⟨⟨rfl, rfl, id⟩, rfl⟩
    | false => exact submitted_of_awaitRoom h rfl rfl ⟨⟨rfl, rfl, id⟩, rfl⟩

/-- A caller that wakes goes on as if it had just come. -/
theorem submitted_of_resume {unit : WorkUnit} {position backpressure : Nat}
    (h : s.resume position unit backpressure = .ok (s', event)) : Submitted s unit event s' := by
  unfold resume at h
  have hcase := submitted_of_awaitRoom h rfl rfl ⟨⟨rfl, rfl, id⟩, rfl⟩
  cases hcase with
  | blocked s' hqueues hcursor hcaller => exact .blocked s' hqueues hcursor ⟨⟨hcaller.1.1, hcaller.1.2, hcaller.1.3⟩, hcaller.2⟩
  | rejected error s' hqueues hcursor hcaller =>
    exact .rejected error s' hqueues hcursor ⟨⟨hcaller.1.1, hcaller.1.2, hcaller.1.3⟩, hcaller.2⟩
  | accepted index s' hindex haccepting hrequested hqueues hcursor hcaller =>
    exact .accepted index s' hindex haccepting hrequested hqueues hcursor ⟨⟨hcaller.1.1, hcaller.1.2, hcaller.1.3⟩, hcaller.2⟩

/-! ## Every critical section -/

/-- What a step does to the queues. -/
inductive StepCase (s : BoundedScheduler config) : Event → BoundedScheduler config → Prop
  | kept (event : Event) (s' : BoundedScheduler config) (hevent : event.keepsQueues = true)
      (hqueues : s'.queues = s.queues) (hcursor : s'.nextModality = s.nextModality)
      (hflags : KeepsFlags s s') : StepCase s event s'
  | accepted (queued : QueuedUnit) (index : Fin modalityCount) (s' : BoundedScheduler config)
      (hindex : index.val = modalityIndex queued.unit.modality) (haccepting : s.accepting = true)
      (hrequested : s.cancellationRequested = false)
      (hqueues : s'.queues = Function.update s.queues index (s.queues index ++ [queued]))
      (hcursor : s'.nextModality = s.nextModality) (hflags : KeepsFlags s s') :
      StepCase s (.accepted queued) s'
  | cancelled (s' : BoundedScheduler config)
      (hcase : s' = s ∧ s.cancellationRequested = true ∨ Cancelled s')
      (hcursor : s'.nextModality = s.nextModality) (hworkers : s'.workers = s.workers) :
      StepCase s .cancelRequested s'
  | selected (worker : Fin config.threadCount) (index : Fin modalityCount) (queued : QueuedUnit)
      (rest : List QueuedUnit) (s' : BoundedScheduler config) (hproceed : s.workerMayProceed = true)
      (hcallers : SameCallers s s') (hselects : Selects s s' worker index queued rest) :
      StepCase s (.selected queued) s'

theorem Submitted.stepCase {unit : WorkUnit} (h : Submitted s unit event s') : StepCase s event s' := by
  cases h with
  | blocked s' hqueues hcursor hcaller => exact .kept _ _ rfl hqueues hcursor hcaller.toKeepsFlags
  | rejected error s' hqueues hcursor hcaller => exact .kept _ _ rfl hqueues hcursor hcaller.toKeepsFlags
  | accepted index s' hindex haccepting hrequested hqueues hcursor hcaller =>
    exact .accepted _ index s' hindex haccepting hrequested hqueues hcursor hcaller.toKeepsFlags

variable {accepted : List QueuedUnit}

theorem Accounted.stepCase_workerTurn (h : Accounted accepted s) {worker : Fin config.threadCount}
    (hworker : s.workers worker = .waiting) (hresult : s.workerTurn worker = .ok (s', event)) :
    StepCase s event s' := by
  unfold BoundedScheduler.workerTurn at hresult
  by_cases hproceed : (!s.workerMayProceed) = true
  · rw [if_pos hproceed] at hresult
    cases hresult
    exact .kept _ _ rfl rfl rfl ⟨rfl, rfl, id⟩
  rw [if_neg hproceed] at hresult
  by_cases hnothing : (!s.hasQueuedLocked) = true
  · rw [if_pos hnothing] at hresult
    split_ifs at hresult
    · cases hresult
      exact .kept _ _ rfl rfl rfl ⟨rfl, rfl, id⟩
    · cases hresult
      exact .kept _ _ rfl rfl rfl ⟨rfl, rfl, id⟩
  · have hqueued : s.hasQueuedLocked = true := by simpa using hnothing
    obtain ⟨taken, index, queued, rest, htaken, -, hcallers, hselects⟩ :=
      h.workerSelect hworker hqueued
    rw [if_neg hnothing, htaken] at hresult
    cases hresult
    exact .selected worker index queued rest _ (by simpa using hproceed) hcallers hselects

/-- Every step is one of these. -/
theorem Accounted.stepCase (h : Accounted accepted s) (hstep : Step s event s') :
    StepCase s event s' := by
  obtain ⟨action, haction⟩ := hstep
  cases action with
  | submit unit backpressure => exact (submitted_of_submit (Option.some.inj haction)).stepCase
  | resume position backpressure =>
    obtain ⟨unit, -, hresult⟩ := Option.map_eq_some_iff.mp haction
    exact (submitted_of_resume hresult).stepCase
  | close =>
    cases haction
    exact .kept _ _ rfl rfl rfl ⟨rfl, rfl, fun _ => rfl⟩
  | requestCancel =>
    obtain ⟨cancelled, hcancelled, -, hfresh, hagain, hcursor, hworkers⟩ := h.requestCancel
    have hresult := Option.some.inj haction
    rw [hcancelled, ok_bind] at hresult
    cases hresult
    refine .cancelled _ ?_ hcursor hworkers
    cases hrequested : s.cancellationRequested with
    | true => exact Or.inl ⟨hagain hrequested, rfl⟩
    | false => exact Or.inr (hfresh hrequested)
  | metrics =>
    cases haction
    exact .kept _ _ rfl rfl rfl ⟨rfl, rfl, id⟩
  | workerTurn worker =>
    unfold BoundedScheduler.perform at haction
    dsimp only at haction
    split_ifs at haction with hworker
    exact h.stepCase_workerTurn hworker (Option.some.inj haction)
  | workerComplete worker executed =>
    unfold BoundedScheduler.perform at haction
    dsimp only at haction
    split at haction
    next queued hworker =>
      obtain ⟨completed, hcompleted, -, hcallers, hqueues, hcursor, -⟩ := h.workerComplete hworker executed
      rw [hcompleted] at haction
      cases haction
      exact .kept _ _ rfl hqueues hcursor ⟨hcallers.cancellationRequested, hcallers.stopRequested,
        hcallers.accepting.trans⟩
    next => cases haction
  | enterWait =>
    cases haction
    exact .kept _ _ rfl rfl rfl ⟨rfl, rfl, fun _ => rfl⟩
  | drain position =>
    unfold BoundedScheduler.perform at haction
    dsimp only at haction
    split_ifs at haction with hwaiter
    have hresult := Except.ok.inj (Option.some.inj haction)
    unfold BoundedScheduler.drain at hresult
    split_ifs at hresult
    · cases hresult
      exact .kept _ _ rfl rfl rfl ⟨rfl, rfl, id⟩
    · cases hresult
      exact .kept _ _ rfl rfl rfl ⟨rfl, rfl, id⟩
  | finishWait position =>
    unfold BoundedScheduler.perform at haction
    dsimp only at haction
    split_ifs at haction with hwaiter
    cases haction
    exact .kept _ _ rfl rfl rfl ⟨rfl, rfl, id⟩

/-! ## The workers -/

/-- What a step does to the workers, and with which flags it leaves them. -/
inductive WorkerCase (s : BoundedScheduler config) : Event → BoundedScheduler config → Prop
  | same (event : Event) (s' : BoundedScheduler config) (hevent : event.ofWorker = false)
      (hworkers : s'.workers = s.workers) : WorkerCase s event s'
  | selected (worker : Fin config.threadCount) (queued : QueuedUnit) (s' : BoundedScheduler config)
      (hworker : s.workers worker = .waiting)
      (hworkers : s'.workers = Function.update s.workers worker (.running queued)) :
      WorkerCase s (.selected queued) s'
  | returned (worker : Fin config.threadCount) (s' : BoundedScheduler config)
      (hworker : s.workers worker = .waiting)
      (hover : s.accepting = false ∨ s.stopRequested = true) (hempty : s.hasQueuedLocked = false)
      (hworkers : s'.workers = Function.update s.workers worker .returned) :
      WorkerCase s .workerReturned s'
  | completed (worker : Fin config.threadCount) (queued : QueuedUnit) (outcome : WorkOutcome)
      (s' : BoundedScheduler config) (hworker : s.workers worker = .running queued)
      (hworkers : s'.workers = Function.update s.workers worker .waiting) :
      WorkerCase s (.completed outcome) s'

theorem Submitted.workerCase {unit : WorkUnit} (h : Submitted s unit event s') :
    WorkerCase s event s' := by
  cases h with
  | blocked s' hqueues hcursor hcaller => exact .same _ _ rfl hcaller.workers
  | rejected error s' hqueues hcursor hcaller => exact .same _ _ rfl hcaller.workers
  | accepted index s' hindex haccepting hrequested hqueues hcursor hcaller =>
    exact .same _ _ rfl hcaller.workers

theorem Accounted.workerCase_workerTurn (h : Accounted accepted s)
    {worker : Fin config.threadCount} (hworker : s.workers worker = .waiting)
    (hresult : s.workerTurn worker = .ok (s', event)) : WorkerCase s event s' := by
  unfold BoundedScheduler.workerTurn at hresult
  by_cases hproceed : (!s.workerMayProceed) = true
  · rw [if_pos hproceed] at hresult
    cases hresult
    exact .same _ _ rfl rfl
  rw [if_neg hproceed] at hresult
  by_cases hnothing : (!s.hasQueuedLocked) = true
  · rw [if_pos hnothing] at hresult
    split_ifs at hresult with hover
    · cases hresult
      refine .returned worker _ hworker ?_ (by simpa using hnothing) rfl
      simpa using hover
    · cases hresult
      exact .same _ _ rfl rfl
  · have hqueued : s.hasQueuedLocked = true := by simpa using hnothing
    obtain ⟨taken, index, queued, rest, htaken, -, -, hselects⟩ := h.workerSelect hworker hqueued
    rw [if_neg hnothing, htaken] at hresult
    cases hresult
    exact .selected worker queued _ hworker hselects.workers

theorem Accounted.workerCase (h : Accounted accepted s) (hstep : Step s event s') :
    WorkerCase s event s' := by
  obtain ⟨action, haction⟩ := hstep
  cases action with
  | submit unit backpressure => exact (submitted_of_submit (Option.some.inj haction)).workerCase
  | resume position backpressure =>
    obtain ⟨unit, -, hresult⟩ := Option.map_eq_some_iff.mp haction
    exact (submitted_of_resume hresult).workerCase
  | close =>
    cases haction
    exact .same _ _ rfl rfl
  | requestCancel =>
    obtain ⟨cancelled, hcancelled, -, -, -, -, hworkers⟩ := h.requestCancel
    have hresult := Option.some.inj haction
    rw [hcancelled, ok_bind] at hresult
    cases hresult
    exact .same _ _ rfl hworkers
  | metrics =>
    cases haction
    exact .same _ _ rfl rfl
  | workerTurn worker =>
    unfold BoundedScheduler.perform at haction
    dsimp only at haction
    split_ifs at haction with hworker
    exact h.workerCase_workerTurn hworker (Option.some.inj haction)
  | workerComplete worker executed =>
    unfold BoundedScheduler.perform at haction
    dsimp only at haction
    split at haction
    next queued hworker =>
      obtain ⟨completed, hcompleted, -, -, -, -, hworkers⟩ := h.workerComplete hworker executed
      rw [hcompleted] at haction
      cases haction
      exact .completed worker queued _ _ hworker hworkers
    next => cases haction
  | enterWait =>
    cases haction
    exact .same _ _ rfl rfl
  | drain position =>
    unfold BoundedScheduler.perform at haction
    dsimp only at haction
    split_ifs at haction with hwaiter
    have hresult := Except.ok.inj (Option.some.inj haction)
    unfold BoundedScheduler.drain at hresult
    split_ifs at hresult
    · cases hresult
      exact .same _ _ rfl rfl
    · cases hresult
      exact .same _ _ rfl rfl
  | finishWait position =>
    unfold BoundedScheduler.perform at haction
    dsimp only at haction
    split_ifs at haction with hwaiter
    cases haction
    exact .same _ _ rfl rfl

/-! ## What a step reports -/

theorem reports_of_perform {action : Action config}
    (h : s.perform action = some (.ok (s', event))) : action.reports event = true := by
  cases action with
  | submit unit backpressure =>
    cases submitted_of_submit (Option.some.inj h) with
    | blocked => rfl
    | rejected => rfl
    | accepted => rfl
  | resume position backpressure =>
    obtain ⟨unit, -, hresult⟩ := Option.map_eq_some_iff.mp h
    cases submitted_of_resume hresult with
    | blocked => rfl
    | rejected => rfl
    | accepted => rfl
  | close =>
    cases h
    rfl
  | requestCancel =>
    obtain ⟨cancelled, -, hresult⟩ := bind_eq_ok_iff.mp (Option.some.inj h)
    cases hresult
    rfl
  | metrics =>
    cases h
    rfl
  | workerTurn worker =>
    unfold BoundedScheduler.perform at h
    dsimp only at h
    split_ifs at h
    have hresult := Option.some.inj h
    unfold BoundedScheduler.workerTurn at hresult
    split_ifs at hresult
    · cases hresult
      rfl
    · cases hresult
      rfl
    · cases hresult
      rfl
    · obtain ⟨⟨taken, queued⟩, -, hresult⟩ := bind_eq_ok_iff.mp hresult
      obtain ⟨changed, -, hresult⟩ := bind_eq_ok_iff.mp hresult
      cases hresult
      rfl
  | workerComplete worker executed =>
    unfold BoundedScheduler.perform at h
    dsimp only at h
    split at h
    next queued hworker =>
      obtain ⟨⟨completed, outcome⟩, -, hresult⟩ := bind_eq_ok_iff.mp (Option.some.inj h)
      cases hresult
      rfl
    next => cases h
  | enterWait =>
    cases h
    rfl
  | drain position =>
    unfold BoundedScheduler.perform at h
    dsimp only at h
    split_ifs at h
    have hresult := Except.ok.inj (Option.some.inj h)
    unfold BoundedScheduler.drain at hresult
    split_ifs at hresult
    · cases hresult
      rfl
    · cases hresult
      rfl
  | finishWait position =>
    unfold BoundedScheduler.perform at h
    dsimp only at h
    split_ifs at h
    cases h
    rfl

/-- Only the last critical section of `wait` returns a result. -/
theorem finishWait_of_returned {result : SchedulerResult} (h : Step s (.returned result) s') :
    ∃ position, s.waiters[position]? = some .joining ∧ s.workersJoined = true ∧
      s.finishWait position = (s', .returned result) := by
  obtain ⟨action, haction⟩ := h
  have hreports := reports_of_perform haction
  cases action with
  | finishWait position =>
    unfold BoundedScheduler.perform at haction
    dsimp only at haction
    split_ifs at haction with hwaiter
    exact ⟨position, hwaiter.1, hwaiter.2, Except.ok.inj (Option.some.inj haction)⟩
  | _ => cases hreports

end BoundedScheduler

end CartoSentry.Scheduler
