import CartoSentry.Scheduler.SelectionOrder

set_option autoImplicit false

/-!
# The end of a run

A closed scheduler has only so many worker steps left, one of them can always be taken until all is
done, and then every caller of `wait` returns.
-/

namespace CartoSentry.Scheduler

open CartoSentry.Foundation

/-- Whether the thread of the worker still runs. -/
def Worker.left : Worker → Nat
  | .returned => 0
  | _ => 1

namespace BoundedScheduler

variable {config : SchedulerConfig} {s s' : BoundedScheduler config} {event : Event}
  {log : List (Effect (BoundedScheduler config) Event)}

def threadsLeft (s : BoundedScheduler config) : Nat :=
  ∑ worker, (s.workers worker).left

/-- The worker steps that a closed scheduler has left: a queued unit is selected and completed, an
active one completed, and every thread returns. -/
def remaining (s : BoundedScheduler config) : Nat :=
  2 * s.holdings.queued.card + s.holdings.active.card + s.threadsLeft

def progress (event : Event) : Nat :=
  if event.ofWorker then 1 else 0

/-! ## Every worker step is one of those left -/

theorem holdings_queued (h : s'.queues = s.queues) : s'.holdings.queued = s.holdings.queued := by
  unfold holdings
  rw [h]

theorem mem_queued {queued : QueuedUnit} :
    queued ∈ s.holdings.queued ↔ ∃ index, queued ∈ s.queues index := by
  change queued ∈ (∑ index, (s.queues index : Multiset QueuedUnit)) ↔ _
  simp only [Multiset.mem_sum, Finset.mem_univ, true_and, Multiset.mem_coe]

theorem mem_active {queued : QueuedUnit} :
    queued ∈ s.holdings.active ↔ ∃ worker, s.workers worker = .running queued := by
  change queued ∈ (∑ worker, (s.workers worker).held) ↔ _
  simp only [Multiset.mem_sum, Finset.mem_univ, true_and]
  refine exists_congr fun worker => ?_
  cases s.workers worker with
  | running other => simp [Worker.held, eq_comm]
  | _ => simp [Worker.held]

theorem queued_eq_zero_iff : s.holdings.queued = 0 ↔ ∀ index, s.queues index = [] := by
  simp only [Multiset.eq_zero_iff_forall_notMem, mem_queued, not_exists,
    List.eq_nil_iff_forall_not_mem]
  exact ⟨fun h index queued => h queued index, fun h queued index => h index queued⟩

theorem active_eq_zero_iff :
    s.holdings.active = 0 ↔ ∀ worker queued, s.workers worker ≠ .running queued := by
  simp only [Multiset.eq_zero_iff_forall_notMem, mem_active, not_exists]
  exact ⟨fun h worker queued => h queued worker, fun h queued worker => h worker queued⟩

theorem holdings_active (h : s'.workers = s.workers) : s'.holdings.active = s.holdings.active := by
  unfold holdings
  rw [h]

theorem threadsLeft_update {worker : Fin config.threadCount} {next : Worker}
    (hworkers : s'.workers = Function.update s.workers worker next) :
    s'.threadsLeft + (s.workers worker).left = s.threadsLeft + next.left := by
  unfold threadsLeft
  rw [hworkers]
  exact sum_update_add Worker.left s.workers worker next

theorem remaining_step (hclosed : s.accepting = false) (hcase : StepCase s event s')
    (hworker : WorkerCase s event s') : progress event + s'.remaining ≤ s.remaining := by
  unfold remaining
  cases hcase with
  | kept event s' hevent hqueues hcursor hflags =>
    rw [holdings_queued hqueues]
    cases hworker with
    | same _ _ hnot hworkers =>
      have hsame : s'.threadsLeft = s.threadsLeft := by
        unfold threadsLeft
        rw [hworkers]
      rw [holdings_active hworkers, hsame, progress, hnot]
      exact Nat.le_of_eq (Nat.zero_add _)
    | selected => cases hevent
    | returned worker _ hwaiting _ _ hworkers =>
      have hactive : s'.holdings.active = s.holdings.active := by
        change activeUnits s'.workers = activeUnits s.workers
        rw [hworkers, activeUnits_returned hwaiting]
      have hleft := threadsLeft_update hworkers
      rw [hwaiting] at hleft
      change s'.threadsLeft + 1 = s.threadsLeft + 0 at hleft
      rw [hactive]
      change 1 + _ ≤ _
      omega
    | completed worker queued outcome _ hrunning hworkers =>
      have hactive : s.holdings.active = queued ::ₘ s'.holdings.active := by
        change activeUnits s.workers = queued ::ₘ activeUnits s'.workers
        rw [hworkers]
        exact activeUnits_waiting hrunning
      have hleft := threadsLeft_update hworkers
      rw [hrunning] at hleft
      change s'.threadsLeft + 1 = s.threadsLeft + 1 at hleft
      rw [hactive, Multiset.card_cons]
      change 1 + _ ≤ _
      omega
  | accepted queued index s' hindex haccepting =>
    rw [hclosed] at haccepting
    cases haccepting
  | cancelled s' hcase hcursor hworkers =>
    have hsame : s'.threadsLeft = s.threadsLeft := by
      unfold threadsLeft
      rw [hworkers]
    have hfewer : s'.holdings.queued.card ≤ s.holdings.queued.card := by
      rcases hcase with ⟨rfl, -⟩ | hcancelled
      · exact Nat.le_refl _
      · rw [queued_eq_zero_iff.mpr hcancelled.empty]
        exact Nat.zero_le _
    rw [holdings_active hworkers, hsame]
    change 0 + _ ≤ _
    omega
  | selected worker index queued rest s' hproceed hcallers hselects =>
    cases hworker with
    | same _ _ hnot => cases hnot
    | selected other _ _ hwaiting hworkers =>
      have hqueued : s.holdings.queued = queued ::ₘ s'.holdings.queued := by
        change queuedUnits s.queues = queued ::ₘ queuedUnits s'.queues
        rw [hselects.queues]
        exact queuedUnits_cons hselects.front
      have hactive : s'.holdings.active = queued ::ₘ s.holdings.active := by
        change activeUnits s'.workers = queued ::ₘ activeUnits s.workers
        rw [hworkers]
        exact activeUnits_running hwaiting queued
      have hleft := threadsLeft_update hworkers
      rw [hwaiting] at hleft
      change s'.threadsLeft + 1 = s.threadsLeft + 1 at hleft
      rw [hqueued, hactive, Multiset.card_cons, Multiset.card_cons]
      change 1 + _ ≤ _
      omega

/-! ## A worker that has returned left nothing behind -/

/-- The threads that have returned will not be missed. -/
structure Idle (s : BoundedScheduler config) : Prop where
  stopped : s.stopRequested = true → s.cancellationRequested = true
  returned : ∀ worker, s.workers worker = .returned →
    s.accepting = false ∧ ∀ index, s.queues index = []

theorem idle_start {start : BoundedScheduler config} (h : construct config = .ok start) :
    Idle start := by
  unfold construct at h
  split_ifs at h
  cases h
  refine ⟨fun hnot => absurd hnot Bool.false_ne_true, fun worker hreturned => ?_⟩
  cases hreturned

theorem Idle.step {accepted : List QueuedUnit} (h : Idle s) (haccounted : Accounted accepted s)
    (hcase : StepCase s event s') (hworker : WorkerCase s event s') : Idle s' := by
  cases hcase with
  | kept event s' hevent hqueues hcursor hflags =>
    refine ⟨?_, ?_⟩
    · rw [hflags.stopRequested, hflags.requested]
      exact h.stopped
    · rw [hqueues]
      have hbefore : ∀ worker, s.workers worker = .returned →
          s'.accepting = false ∧ ∀ index, s.queues index = [] :=
        fun worker hreturned => ⟨hflags.closed (h.returned worker hreturned).1,
          (h.returned worker hreturned).2⟩
      cases hworker with
      | same _ _ hnot hworkers =>
        rw [hworkers]
        exact hbefore
      | selected => cases hevent
      | returned worker _ hwaiting hover hempty hworkers =>
        have hclosed : s.accepting = false := by
          rcases hover with hclosed | hstop
          · exact hclosed
          · exact haccounted.cancelled (h.stopped hstop)
        refine fun _ _ => ⟨hflags.closed hclosed, fun index => ?_⟩
        by_contra hwaits
        rw [hasQueuedLocked_iff.mpr ⟨index, hwaits⟩] at hempty
        cases hempty
      | completed worker queued outcome _ hrunning hworkers =>
        intro other hreturned
        rw [hworkers] at hreturned
        by_cases hother : other = worker
        · rw [hother, Function.update_self] at hreturned
          cases hreturned
        · rw [Function.update_of_ne hother] at hreturned
          exact hbefore other hreturned
  | accepted queued index s' hindex haccepting hrequested hqueues hcursor hflags =>
    refine ⟨?_, fun worker hreturned => ?_⟩
    · rw [hflags.stopRequested, hflags.requested]
      exact h.stopped
    · cases hworker with
      | same _ _ _ hworkers =>
        rw [hworkers] at hreturned
        rw [(h.returned worker hreturned).1] at haccepting
        cases haccepting
  | cancelled s' hcase hcursor hworkers =>
    rcases hcase with ⟨rfl, -⟩ | hcancelled
    · exact h
    · exact ⟨fun _ => hcancelled.requested, fun _ _ => ⟨hcancelled.closed, hcancelled.empty⟩⟩
  | selected worker index queued rest s' hproceed hcallers hselects =>
    refine ⟨?_, fun other hreturned => ?_⟩
    · rw [hcallers.stopRequested, hcallers.cancellationRequested]
      exact h.stopped
    · rw [hselects.workers] at hreturned
      by_cases hother : other = worker
      · rw [hother, Function.update_self] at hreturned
        cases hreturned
      · rw [Function.update_of_ne hother] at hreturned
        have hempty := (h.returned other hreturned).2 index
        rw [hselects.front] at hempty
        cases hempty

/-! ## Some worker step can be taken -/

theorem Run.idle (h : Run config log s) : Idle s := by
  obtain ⟨start, hconstruct, hhistory⟩ := h
  have hboth : ∃ accepted, Accounted accepted s ∧ Idle s := by
    refine hhistory.induct (J := fun _ s => ∃ accepted, Accounted accepted s ∧ Idle s)
      ⟨[], accounted_of_construct hconstruct, idle_start hconstruct⟩ ?_
    rintro log s event s' - ⟨accepted, haccounted, hidle⟩ hstep
    exact ⟨_, haccounted.step hstep,
      hidle.step haccounted (haccounted.stepCase hstep) (haccounted.workerCase hstep)⟩
  obtain ⟨accepted, -, hidle⟩ := hboth
  exact hidle

theorem Run.hasThread (h : Run config log s) : 0 < config.threadCount := by
  obtain ⟨start, hconstruct, -⟩ := h
  unfold construct at hconstruct
  split_ifs at hconstruct with hworkers
  unfold SchedulerConfig.threadCount
  split_ifs
  · exact Nat.zero_lt_one
  · exact Nat.pos_of_ne_zero hworkers

/-- All is done: nothing is queued or active and every thread has returned. -/
def Done (s : BoundedScheduler config) : Prop :=
  s.holdings.queued = 0 ∧ s.holdings.active = 0 ∧ ∀ worker, s.workers worker = .returned

/-- A worker of a closed scheduler takes a queued unit or returns. -/
theorem exists_turn {accepted : List QueuedUnit} (h : Accounted accepted s)
    (hclosed : s.accepting = false) {worker : Fin config.threadCount}
    (hworker : s.workers worker = .waiting) :
    ∃ event s', Step s event s' ∧ event.ofWorker = true ∧ s'.waiters = s.waiters := by
  have hproceed : s.workerMayProceed = true := by
    unfold workerMayProceed
    rw [hclosed]
    simp
  by_cases hqueued : s.hasQueuedLocked = true
  · obtain ⟨s', index, queued, rest, hselect, -, hcallers, -⟩ := h.workerSelect hworker hqueued
    refine ⟨.selected queued, s', ⟨.workerTurn worker, ?_⟩, rfl, hcallers.waiters⟩
    unfold perform
    dsimp only
    rw [if_pos hworker]
    unfold workerTurn
    rw [hproceed, hqueued]
    exact congrArg some hselect
  · have hreturned : s.perform (.workerTurn worker) = some (.ok
        ({ s with workers := Function.update s.workers worker .returned }, .workerReturned)) := by
      unfold perform
      dsimp only
      rw [if_pos hworker]
      unfold workerTurn
      rw [hproceed, Bool.eq_false_iff.mpr hqueued, hclosed]
      rfl
    exact ⟨_, _, ⟨_, hreturned⟩, rfl, rfl⟩

theorem Run.exists_worker_step (h : Run config log s) (hclosed : s.accepting = false)
    (hnot : ¬ Done s) :
    ∃ event s', Step s event s' ∧ event.ofWorker = true ∧ s'.waiters = s.waiters := by
  have haccounted := h.accounted
  by_cases hrunning : ∃ worker queued, s.workers worker = .running queued
  · obtain ⟨worker, queued, hworker⟩ := hrunning
    obtain ⟨s', hcompleted, -, hcallers, -⟩ := haccounted.workerComplete hworker (.value none)
    have hperform : s.perform (.workerComplete worker (.value none)) = some (.ok (s', .completed
        (outcomeOfExecuted queued (executionError queued (.value none)) s.stopRequested))) := by
      unfold perform
      dsimp only
      rw [hworker]
      exact congrArg some hcompleted
    exact ⟨_, s', ⟨_, hperform⟩, rfl, hcallers.waiters⟩
  have hactive : s.holdings.active = 0 :=
    active_eq_zero_iff.mpr fun worker queued hworker => hrunning ⟨worker, queued, hworker⟩
  by_cases hwaiting : ∃ worker, s.workers worker = .waiting
  · obtain ⟨worker, hworker⟩ := hwaiting
    exact exists_turn haccounted hclosed hworker
  have hreturned : ∀ worker, s.workers worker = .returned := by
    intro worker
    cases hworker : s.workers worker with
    | waiting => exact absurd ⟨worker, hworker⟩ hwaiting
    | running queued => exact absurd ⟨worker, queued, hworker⟩ hrunning
    | returned => rfl
  have hempty := (h.idle.returned ⟨0, h.hasThread⟩ (hreturned _)).2
  exact absurd ⟨queued_eq_zero_iff.mpr hempty, hactive, hreturned⟩ hnot

/-! ## The callers of `wait` -/

theorem Run.append {later : List (Effect (BoundedScheduler config) Event)} (h : Run config log s)
    (hlater : History (fun _ => Step) s later s') : Run config (log ++ later) s' := by
  obtain ⟨start, hconstruct, hhistory⟩ := h
  refine ⟨start, hconstruct, ?_⟩
  induction hlater with
  | nil => rwa [List.append_nil]
  | @snoc later middle s' event _ hstep ih =>
    rw [← List.append_assoc]
    exact ih.snoc hstep

/-- Where all is done a caller that drains goes on, and one that joins returns. -/
theorem Run.waiter_returns (h : Run config log s) (hdone : Done s) {position : Nat} {waiter : Waiter}
    (hwaiter : s.waiters[position]? = some waiter) :
    (waiter = .draining → Step s .drained
      { s with waiters := s.waiters.set position .joining }) ∧
    (waiter = .joining → ∃ result s', Step s (.returned result) s') := by
  constructor
  · rintro rfl
    refine ⟨.drain position, ?_⟩
    have hempty := h.accounted.empty_iff.mpr ⟨hdone.1, hdone.2.1⟩
    unfold perform
    dsimp only
    rw [if_pos hwaiter]
    unfold drain
    rw [if_pos hempty]
  · rintro rfl
    refine ⟨_, _, ⟨.finishWait position, if_pos ⟨hwaiter, ?_⟩⟩⟩
    unfold workersJoined
    have hall : ((List.finRange config.threadCount).all fun worker =>
        decide (s.workers worker = .returned)) = true :=
      List.all_eq_true.mpr fun worker _ => decide_eq_true (hdone.2.2 worker)
    rw [hall, Bool.or_true]

/-! ## To the end -/

theorem closed_step (hclosed : s.accepting = false) (hcase : StepCase s event s') :
    s'.accepting = false := by
  cases hcase with
  | kept _ _ _ _ _ hflags => exact hflags.closed hclosed
  | accepted _ _ _ _ _ _ _ _ hflags => exact hflags.closed hclosed
  | cancelled _ hcase =>
    rcases hcase with ⟨rfl, -⟩ | hcancelled
    · exact hclosed
    · exact hcancelled.closed
  | selected _ _ _ _ _ _ hcallers => exact hcallers.accepting.trans hclosed

/-- A closed scheduler stays closed, and every worker step is one of those it had left. -/
theorem Run.closed_history (h : Run config log s) (hclosed : s.accepting = false)
    {later : List (Effect (BoundedScheduler config) Event)}
    (hlater : History (fun _ => Step) s later s') : s'.accepting = false ∧
      (later.map fun effect => progress effect.label).sum + s'.remaining ≤ s.remaining := by
  induction hlater with
  | nil => exact ⟨hclosed, Nat.le_of_eq (Nat.zero_add _)⟩
  | @snoc later middle s' event hlater hstep ih =>
    obtain ⟨hmiddle, hbound⟩ := ih
    have haccounted := (h.append hlater).accounted
    have hcase := haccounted.stepCase hstep
    refine ⟨closed_step hmiddle hcase, ?_⟩
    have hnext := remaining_step hmiddle hcase (haccounted.workerCase hstep)
    rw [List.map_append, List.sum_append, List.map_singleton, List.sum_singleton]
    dsimp only
    omega

theorem progress_of_ofWorker (h : event.ofWorker = true) : progress event = 1 :=
  if_pos h

/-- Worker steps lead to the end. -/
theorem Run.exists_done (h : Run config log s) (hclosed : s.accepting = false) :
    ∃ later s', History (fun _ => Step) s later s' ∧ Done s' ∧ s'.waiters = s.waiters := by
  generalize hleft : s.remaining = left
  induction left using Nat.strong_induction_on generalizing s log with
  | _ left ih =>
    by_cases hdone : Done s
    · exact ⟨[], s, .nil, hdone, rfl⟩
    obtain ⟨event, next, hstep, hworker, hwaiters⟩ := h.exists_worker_step hclosed hdone
    have haccounted := h.accounted
    have hone : History (fun _ => Step) s [⟨s, event⟩] next := History.nil.snoc hstep
    have hfewer := remaining_step hclosed (haccounted.stepCase hstep) (haccounted.workerCase hstep)
    rw [progress_of_ofWorker hworker] at hfewer
    obtain ⟨later, s', hlater, hend, hsame⟩ := ih next.remaining (by omega) (h.append hone)
      (closed_step hclosed (haccounted.stepCase hstep)) rfl
    refine ⟨⟨s, event⟩ :: later, s', ?_, hend, hsame.trans hwaiters⟩
    clear ih hend hfewer hsame
    induction hlater with
    | nil => exact hone
    | snoc _ hlast ih => exact ih.snoc hlast

/-- **`wait` comes to an end.**  Behind a call of `wait` the worker steps of any schedule are
bounded, until all is done some worker can take one, and there is a schedule in which a call
returns. -/
theorem wait_comes_to_an_end (h : Run config log s) (hwaits : s.waiters ≠ []) :
    (∀ later s', History (fun _ => Step) s later s' →
      (later.map fun effect => progress effect.label).sum + s'.remaining ≤ s.remaining ∧
        (Done s' ∨ ∃ event s'', Step s' event s'' ∧ event.ofWorker = true)) ∧
    ∃ later s' result, History (fun _ => Step) s later s' ∧
      ∃ effect ∈ later, effect.label = .returned result := by
  have hclosed := h.accounted.waiting hwaits
  constructor
  · intro later s' hlater
    obtain ⟨hstill, hbound⟩ := h.closed_history hclosed hlater
    refine ⟨hbound, ?_⟩
    by_cases hdone : Done s'
    · exact Or.inl hdone
    · obtain ⟨event, next, hstep, hworker, -⟩ := (h.append hlater).exists_worker_step hstill hdone
      exact Or.inr ⟨event, next, hstep, hworker⟩
  · obtain ⟨later, s', hlater, hdone, hwaiters⟩ := h.exists_done hclosed
    have hrun := h.append hlater
    rw [← hwaiters] at hwaits
    obtain ⟨waiter, hwaiter⟩ : ∃ waiter, s'.waiters[0]? = some waiter := by
      cases hcallers : s'.waiters with
      | nil => exact absurd hcallers hwaits
      | cons first rest => exact ⟨first, rfl⟩
    obtain ⟨hdraining, hjoining⟩ := hrun.waiter_returns hdone hwaiter
    cases waiter with
    | joining =>
      obtain ⟨result, last, hstep⟩ := hjoining rfl
      exact ⟨_, last, result, hlater.snoc hstep, _, List.mem_append_right _ (List.mem_singleton_self _), rfl⟩
    | draining =>
      have hdrained := hlater.snoc (hdraining rfl)
      have hnext : ({ s' with waiters := s'.waiters.set 0 .joining } :
          BoundedScheduler config).waiters[0]? = some .joining := by
        obtain ⟨hlength, -⟩ := List.getElem?_eq_some_iff.mp hwaiter
        exact List.getElem?_set_self hlength
      have hdone' : Done { s' with waiters := s'.waiters.set 0 .joining } := hdone
      obtain ⟨result, last, hstep⟩ := ((h.append hdrained).waiter_returns hdone' hnext).2 rfl
      exact ⟨_, last, result, hdrained.snoc hstep, _,
        List.mem_append_right _ (List.mem_singleton_self _), rfl⟩

/-! ## A call of `wait` behind one unit -/

theorem wait_comes_to_an_end_batch : ∃ log s, Run batchConfig log s ∧ s.waiters ≠ [] ∧
    ∃ later s' result, History (fun _ => Step) s later s' ∧
      ∃ effect ∈ later, effect.label = .returned result := by
  have hends : (follow ({} : BoundedScheduler batchConfig)
      [.submit (sampleUnit "first" .lidar) 0, .enterWait]).map (fun run => run.2.waiters) =
        some [.draining] := by decide +kernel
  obtain ⟨⟨log, s⟩, hfollow, hwaiters⟩ := Option.map_eq_some_iff.mp hends
  have hrun : Run batchConfig log s := ⟨{}, rfl, history_of_follow .nil hfollow⟩
  have hwaits : s.waiters ≠ [] := by
    rw [show s.waiters = [.draining] from hwaiters]
    exact List.cons_ne_nil _ _
  exact ⟨log, s, hrun, hwaits, (wait_comes_to_an_end hrun hwaits).2⟩

end BoundedScheduler

end CartoSentry.Scheduler
