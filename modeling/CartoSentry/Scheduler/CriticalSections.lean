import CartoSentry.Scheduler.Ledger

set_option autoImplicit false

/-!
# The critical sections of the scheduler

The units that are queued or active and the outcomes recorded so far are all the units that were
accepted, and every number the scheduler keeps is the right one for them.  Each critical section
succeeds and keeps this.
-/

namespace CartoSentry.Scheduler

open CartoSentry.Foundation

/-! ## The invariant -/

namespace BoundedScheduler

variable {config : SchedulerConfig}

def holdings (s : BoundedScheduler config) : Holdings where
  queued := queuedUnits s.queues
  active := activeUnits s.workers
  outcomes := s.outcomes

/-- The scheduler holds the units accepted so far and nothing else, and its numbers are right for
them.  Inside of `cancel_queued_locked` only `metrics_.resident_bytes` lags behind. -/
structure Consistent (accepted : List QueuedUnit) (s : BoundedScheduler config) : Prop where
  balanced : Balanced s.holdings s.metrics.toWorkMetrics s.stageMetrics
  resident : s.residentBytes = s.holdings.bytes
  budget : s.residentBytes ≤ config.residentByteBudget
  tickets : s.holdings.tickets = (accepted.map QueuedUnit.ticket : Multiset Ticket)
  orders : accepted.map QueuedUnit.submissionOrder = List.range s.nextSubmissionOrder
  queuedModality : ∀ queued ∈ s.holdings.queued, modalityIndex queued.unit.modality < modalityCount
  activeModality : ∀ queued ∈ s.holdings.active, modalityIndex queued.unit.modality < modalityCount
  submitters : ∀ unit ∈ s.submitters, config.unitError unit = none
  cancelled : s.cancellationRequested = true → s.accepting = false
  waiting : s.waiters ≠ [] → s.accepting = false
  joined : s.joined = true → s.accepting = false
  drained : Waiter.joining ∈ s.waiters ∨ s.joined = true → s.holdings.queued = 0 ∧ s.holdings.active = 0

/-- The invariant between the critical sections. -/
structure Accounted (accepted : List QueuedUnit) (s : BoundedScheduler config) : Prop
    extends Consistent accepted s where
  shown : s.metrics.residentBytes = s.residentBytes

variable {s : BoundedScheduler config} {accepted : List QueuedUnit} {unit : WorkUnit}

theorem accounted_start : Accounted [] ({} : BoundedScheduler config) := by
  have hempty : ({} : BoundedScheduler config).holdings = ⟨0, 0, 0⟩ := by
    have hqueued : queuedUnits (fun _ => []) = 0 := Finset.sum_const_zero
    have hactive : activeUnits (fun _ : Fin config.threadCount => Worker.waiting) = 0 :=
      Finset.sum_const_zero
    unfold holdings
    rw [hqueued, hactive]
    rfl
  constructor
  · constructor
    case balanced =>
      rw [hempty]
      exact Balanced.start
    case resident =>
      rw [hempty]
      rfl
    case budget => exact Nat.zero_le _
    case tickets =>
      rw [hempty]
      rfl
    case orders => rfl
    case queuedModality =>
      rw [hempty]
      exact fun queued hqueued => absurd hqueued (Multiset.notMem_zero queued)
    case activeModality =>
      rw [hempty]
      exact fun queued hqueued => absurd hqueued (Multiset.notMem_zero queued)
    case submitters => exact fun unit hunit => absurd hunit List.not_mem_nil
    case cancelled => exact fun h => absurd h Bool.false_ne_true
    case waiting => exact fun h => absurd rfl h
    case joined => exact fun h => absurd h Bool.false_ne_true
    case drained =>
      rw [hempty]
      exact fun _ => ⟨rfl, rfl⟩
  · rfl

/-- What a critical section comes to when it succeeds and keeps the invariant; an accepted unit
joins the others. -/
def acceptedBy : Event → List QueuedUnit
  | .accepted queued => [queued]
  | _ => []

def Keeps (accepted : List QueuedUnit)
    (result : Except Fault (BoundedScheduler config × Event)) : Prop :=
  ∃ s' event, result = .ok (s', event) ∧ Accounted (accepted ++ acceptedBy event) s'

/-- An event that accepts nothing. -/
theorem Accounted.keeps {s' : BoundedScheduler config} (h : Accounted accepted s') {event : Event}
    (hevent : acceptedBy event = []) : Keeps accepted (.ok (s', event)) := by
  refine ⟨s', event, rfl, ?_⟩
  rw [hevent, List.append_nil]
  exact h

/-! ## Submission -/

/-- What `submit` checks before it takes the lock. -/
theorem unitError_eq_none (h : config.unitError unit = none) :
    unit.estimatedBytes ≤ config.residentByteBudget ∧ modalityIndex unit.modality < modalityCount := by
  unfold SchedulerConfig.unitError at h
  split_ifs at h with hidentity hbytes hmodality
  exact ⟨Nat.le_of_not_lt fun hlt => hbytes (Or.inr hlt), Nat.lt_of_not_le hmodality⟩

theorem hasRoom_eq (hunit : config.unitError unit = none) :
    s.hasRoom unit = .ok (decide (s.residentBytes + unit.estimatedBytes ≤ config.residentByteBudget)) := by
  have hfits := (unitError_eq_none hunit).1
  unfold hasRoom subtractSize
  rw [if_pos hfits, ok_bind]
  refine congrArg Except.ok (decide_eq_decide.mpr ?_)
  omega

theorem Accounted.enterWaited (h : Accounted accepted s) (stageId : String) (backpressure : Nat) :
    Accounted accepted (s.enterStage stageId (·.waited backpressure)) where
  balanced := h.balanced.enter (enters_waited stageId s.holdings backpressure)
  resident := h.resident
  budget := h.budget
  tickets := h.tickets
  orders := h.orders
  queuedModality := h.queuedModality
  activeModality := h.activeModality
  submitters := h.submitters
  cancelled := h.cancelled
  waiting := h.waiting
  joined := h.joined
  drained := h.drained
  shown := h.shown

theorem holdings_push (s : BoundedScheduler config) (index : Fin modalityCount)
    (queued : QueuedUnit) : (s.push index queued).holdings = s.holdings.queue queued := by
  change (⟨queuedUnits (Function.update s.queues index (s.queues index ++ [queued])),
    activeUnits s.workers, s.outcomes⟩ : Holdings) = _
  rw [queuedUnits_append]
  rfl

/-- A unit for which there is room is queued. -/
theorem Accounted.push (h : Accounted accepted s) (hunit : config.unitError unit = none)
    (hroom : s.residentBytes + unit.estimatedBytes ≤ config.residentByteBudget)
    (haccepting : s.accepting = true) (index : Fin modalityCount) :
    Accounted (accepted ++ [⟨s.nextSubmissionOrder, unit⟩])
      (s.push index ⟨s.nextSubmissionOrder, unit⟩) := by
  have hopen : s.accepting ≠ false := by
    rw [haccepting]
    exact Bool.noConfusion
  have hholdings := holdings_push s index ⟨s.nextSubmissionOrder, unit⟩
  constructor
  · constructor
    case balanced =>
      rw [hholdings]
      exact h.balanced.enter (enters_queued ⟨s.nextSubmissionOrder, unit⟩ s.holdings)
    case resident =>
      rw [hholdings, Holdings.bytes_queue, ← h.resident]
      exact Nat.add_comm _ _
    case budget => exact hroom
    case tickets =>
      rw [hholdings, Holdings.tickets_queue, h.tickets, List.map_append]
      exact Multiset.coe_eq_coe.mpr (List.perm_append_singleton _ _).symm
    case orders =>
      rw [List.map_append, h.orders]
      exact List.range_succ.symm
    case queuedModality =>
      rw [hholdings]
      intro queued hqueued
      rcases Holdings.mem_queue.mp hqueued with rfl | hqueued
      · exact (unitError_eq_none hunit).2
      · exact h.queuedModality queued hqueued
    case activeModality => exact h.activeModality
    case submitters => exact h.submitters
    case cancelled => exact fun hcancelled => absurd (h.cancelled hcancelled) hopen
    case waiting => exact fun hwaiting => absurd (h.waiting hwaiting) hopen
    case joined => exact fun hjoined => absurd (h.joined hjoined) hopen
    case drained =>
      rintro (hwaiter | hjoined)
      · exact absurd (h.waiting (List.ne_nil_of_mem hwaiter)) hopen
      · exact absurd (h.joined hjoined) hopen
  · rfl

theorem Accounted.enqueue (h : Accounted accepted s) (hunit : config.unitError unit = none)
    (hroom : s.residentBytes + unit.estimatedBytes ≤ config.residentByteBudget)
    (haccepting : s.accepting = true) : Keeps accepted (s.enqueue unit) := by
  unfold BoundedScheduler.enqueue
  rw [dif_pos (unitError_eq_none hunit).2]
  exact ⟨_, _, rfl, h.push hunit hroom haccepting _⟩

/-- A caller that goes on or blocks. -/
theorem Accounted.awaitRoom (h : Accounted accepted s) (hunit : config.unitError unit = none)
    {blocked : BoundedScheduler config} (hblocked : Accounted accepted blocked)
    (backpressure : Nat) : Keeps accepted (s.awaitRoom unit backpressure blocked) := by
  have hwaited := h.enterWaited unit.stageId backpressure
  unfold BoundedScheduler.awaitRoom mayProceed admitUnit
  by_cases hstopped : (s.cancellationRequested || !s.accepting) = true
  · rw [if_pos hstopped]
    change Keeps accepted (if s.cancellationRequested = true then _ else _)
    by_cases hcancelled : s.cancellationRequested = true
    · rw [if_pos hcancelled]
      exact hwaited.keeps rfl
    · have hclosed : (!s.accepting) = true := by
        rwa [Bool.eq_false_iff.mpr hcancelled, Bool.false_or] at hstopped
      rw [if_neg hcancelled, if_pos hclosed]
      exact hwaited.keeps rfl
  · obtain ⟨hcancelled, hclosed⟩ := Bool.or_eq_false_iff.mp (Bool.eq_false_iff.mpr hstopped)
    rw [if_neg hstopped, hasRoom_eq hunit, ok_bind, hcancelled, hclosed]
    by_cases hroom : s.residentBytes + unit.estimatedBytes ≤ config.residentByteBudget
    · have haccepting : s.accepting = true := by simpa using hclosed
      rw [decide_eq_true hroom]
      exact hwaited.enqueue hunit hroom haccepting
    · rw [decide_eq_false hroom]
      exact hblocked.keeps rfl

theorem Accounted.submit (h : Accounted accepted s) (unit : WorkUnit) (backpressure : Nat) :
    Keeps accepted (s.submit unit backpressure) := by
  unfold BoundedScheduler.submit
  cases hunit : config.unitError unit with
  | some error => exact h.keeps rfl
  | none =>
    have hblocked : Accounted accepted { s with submitters := s.submitters ++ [unit] } := by
      refine { h with submitters := ?_ }
      exact List.forall_mem_append.mpr ⟨h.submitters, List.forall_mem_singleton.mpr hunit⟩
    have hexceeds : ∃ exceeds, s.exceedsBatch unit = .ok exceeds := by
      unfold exceedsBatch
      split_ifs
      · rw [hasRoom_eq hunit]
        exact ⟨_, rfl⟩
      · exact ⟨_, rfl⟩
    obtain ⟨exceeds, hexceeds⟩ := hexceeds
    dsimp only
    rw [hexceeds, ok_bind]
    split_ifs
    · exact h.keeps rfl
    · exact h.awaitRoom hunit hblocked backpressure

theorem Accounted.resume (h : Accounted accepted s) {position : Nat}
    (hunit : s.submitters[position]? = some unit) (backpressure : Nat) :
    Keeps accepted (s.resume position unit backpressure) := by
  have hawake : Accounted accepted { s with submitters := s.submitters.eraseIdx position } := by
    refine { h with submitters := fun other hother => ?_ }
    exact h.submitters other (List.mem_of_mem_eraseIdx hother)
  exact hawake.awaitRoom (h.submitters unit (List.mem_of_getElem? hunit)) h backpressure
/-! ## Moves of a unit -/

/-- Nothing that a caller decides has changed. -/
structure SameCallers (s s' : BoundedScheduler config) : Prop where
  nextSubmissionOrder : s'.nextSubmissionOrder = s.nextSubmissionOrder
  accepting : s'.accepting = s.accepting
  cancellationRequested : s'.cancellationRequested = s.cancellationRequested
  joined : s'.joined = s.joined
  submitters : s'.submitters = s.submitters
  waiters : s'.waiters = s.waiters
  stopRequested : s'.stopRequested = s.stopRequested

theorem SameCallers.trans {s' s'' : BoundedScheduler config} (h : SameCallers s s')
    (h' : SameCallers s' s'') : SameCallers s s'' where
  nextSubmissionOrder := h'.nextSubmissionOrder.trans h.nextSubmissionOrder
  accepting := h'.accepting.trans h.accepting
  cancellationRequested := h'.cancellationRequested.trans h.cancellationRequested
  joined := h'.joined.trans h.joined
  submitters := h'.submitters.trans h.submitters
  waiters := h'.waiters.trans h.waiters
  stopRequested := h'.stopRequested.trans h.stopRequested

/-- Neither the callers nor the workers have moved. -/
structure SameThreads (s s' : BoundedScheduler config) : Prop extends SameCallers s s' where
  nextModality : s'.nextModality = s.nextModality
  workers : s'.workers = s.workers

theorem SameThreads.refl (s : BoundedScheduler config) : SameThreads s s :=
  ⟨⟨rfl, rfl, rfl, rfl, rfl, rfl, rfl⟩, rfl, rfl⟩

theorem SameThreads.trans {s' s'' : BoundedScheduler config} (h : SameThreads s s')
    (h' : SameThreads s' s'') : SameThreads s s'' where
  toSameCallers := h.toSameCallers.trans h'.toSameCallers
  nextModality := h'.nextModality.trans h.nextModality
  workers := h'.workers.trans h.workers

theorem Consistent.moved {s' : BoundedScheduler config} {before after : Holdings}
    (h : Consistent accepted s) (hbefore : s.holdings = before) (hafter : s'.holdings = after)
    (hmoved : Moved before after) (hcallers : SameCallers s s')
    (hbalanced : Balanced after s'.metrics.toWorkMetrics s'.stageMetrics)
    (hresident : s'.residentBytes = after.bytes) : Consistent accepted s' where
  balanced := hafter ▸ hbalanced
  resident := hafter ▸ hresident
  budget := by
    have hbudget := h.budget
    rw [h.resident, hbefore] at hbudget
    exact (hresident.trans_le hmoved.bytes).trans hbudget
  tickets := by
    rw [hafter, hmoved.tickets, ← hbefore]
    exact h.tickets
  orders := hcallers.nextSubmissionOrder ▸ h.orders
  queuedModality := by
    intro queued hqueued
    rw [hafter] at hqueued
    exact h.queuedModality queued (hbefore ▸ hmoved.queued queued hqueued)
  activeModality := by
    intro queued hactive
    rw [hafter] at hactive
    rcases hmoved.active queued hactive with hqueued | hactive
    · exact h.queuedModality queued (hbefore ▸ hqueued)
    · exact h.activeModality queued (hbefore ▸ hactive)
  submitters := hcallers.submitters ▸ h.submitters
  cancelled := by
    rw [hcallers.cancellationRequested, hcallers.accepting]
    exact h.cancelled
  waiting := by
    rw [hcallers.waiters, hcallers.accepting]
    exact h.waiting
  joined := by
    rw [hcallers.joined, hcallers.accepting]
    exact h.joined
  drained := by
    rw [hcallers.waiters, hcallers.joined, hafter]
    exact fun hdone => hmoved.drained (hbefore ▸ h.drained hdone)

/-- The metrics and the table take a change that fits a move. -/
theorem changeStage_eq {before after : Holdings} {stageId : String}
    {change : WorkMetrics → Except Fault WorkMetrics}
    (h : Balanced before s.metrics.toWorkMetrics s.stageMetrics)
    (hmoves : Moves stageId before after change) (hmem : stageId ∈ before.stageIds) :
    ∃ metrics table, s.changeStage stageId change =
        .ok { s with metrics := { s.metrics with toWorkMetrics := metrics }, stageMetrics := table } ∧
      Balanced after metrics table := by
  obtain ⟨metrics, table, hmetrics, htable, hbalanced⟩ := h.moved hmoves hmem
  unfold changeStage
  rw [hmetrics, ok_bind, htable, ok_bind]
  exact ⟨metrics, table, rfl, hbalanced⟩

/-! ## Cancellation -/

/-- What a queue without its front leaves of the holdings. -/
theorem holdings_of_front {index : Fin modalityCount} {queued : QueuedUnit} {rest : List QueuedUnit}
    (h : s.queues index = queued :: rest) : s.holdings =
      Holdings.queue ⟨queuedUnits (Function.update s.queues index rest), activeUnits s.workers,
        s.outcomes⟩ queued := by
  unfold holdings Holdings.queue
  rw [queuedUnits_cons h]

theorem coe_append_outcome (outcomes : List WorkOutcome) (outcome : WorkOutcome) :
    ((outcomes ++ [outcome] : List WorkOutcome) : Multiset WorkOutcome) = outcome ::ₘ outcomes :=
  Multiset.coe_eq_coe.mpr (List.perm_append_singleton _ _)

theorem Consistent.cancelFront (h : Consistent accepted s) {index : Fin modalityCount}
    {queued : QueuedUnit} {rest : List QueuedUnit} (hfront : s.queues index = queued :: rest) :
    ∃ s', s.cancelFront index queued rest = .ok s' ∧ Consistent accepted s' ∧ SameThreads s s' ∧
      s'.queues = Function.update s.queues index rest := by
  have hbefore := holdings_of_front hfront
  generalize hremaining : (⟨queuedUnits (Function.update s.queues index rest),
    activeUnits s.workers, s.outcomes⟩ : Holdings) = remaining at hbefore
  have hbalanced := h.balanced
  have hresident := h.resident
  rw [hbefore] at hbalanced hresident
  have hmoves : Moves queued.stageId (remaining.queue queued)
      (remaining.finish (outcomeOfDropped queued)) (·.dropped queued.bytes) :=
    moves_dropped rfl rfl
  obtain ⟨metrics, table, hchange, hafter⟩ := changeStage_eq hbalanced hmoves stageId_mem_queue
  have hsubtract : subtractSize s.residentBytes queued.bytes = .ok remaining.bytes := by
    rw [hresident, Holdings.bytes_queue, subtractSize_add]
  have hresult : s.cancelFront index queued rest = .ok { s with
      metrics := { s.metrics with toWorkMetrics := metrics }
      stageMetrics := table
      queues := Function.update s.queues index rest
      residentBytes := remaining.bytes
      outcomes := s.outcomes ++ [outcomeOfDropped queued] } := by
    unfold BoundedScheduler.cancelFront
    rw [show queued.unit.stageId = queued.stageId from rfl,
      show queued.unit.estimatedBytes = queued.bytes from rfl, hchange, ok_bind, hsubtract, ok_bind]
    rfl
  refine ⟨_, hresult, ?_, ⟨⟨rfl, rfl, rfl, rfl, rfl, rfl, rfl⟩, rfl, rfl⟩, rfl⟩
  have hholdings : (⟨queuedUnits (Function.update s.queues index rest), activeUnits s.workers,
      (s.outcomes ++ [outcomeOfDropped queued] : List WorkOutcome)⟩ : Holdings) =
      remaining.finish (outcomeOfDropped queued) := by
    rw [coe_append_outcome, ← hremaining]
    rfl
  exact h.moved hbefore hholdings (moved_dropped rfl) ⟨rfl, rfl, rfl, rfl, rfl, rfl, rfl⟩ hafter rfl

theorem Consistent.cancelQueue {index : Fin modalityCount} {units : List QueuedUnit}
    (h : Consistent accepted s) (hunits : s.queues index = units) :
    ∃ s', cancelQueue index units s = .ok s' ∧ Consistent accepted s' ∧ SameThreads s s' ∧
      s'.queues = Function.update s.queues index [] := by
  induction units generalizing s with
  | nil =>
    refine ⟨s, rfl, h, .refl s, ?_⟩
    rw [← hunits, Function.update_eq_self]
  | cons queued rest ih =>
    obtain ⟨dropped, hdropped, hconsistent, hcallers, hqueues⟩ := h.cancelFront hunits
    have hrest : dropped.queues index = rest := by rw [hqueues, Function.update_self]
    obtain ⟨s', hs', hconsistent', hcallers', hqueues'⟩ := ih hconsistent hrest
    refine ⟨s', ?_, hconsistent', hcallers.trans hcallers', ?_⟩
    · unfold BoundedScheduler.cancelQueue
      rw [hdropped, ok_bind]
      exact hs'
    · rw [hqueues', hqueues, Function.update_idem]

/-- The queues are emptied one after the other. -/
theorem Consistent.cancelQueues (h : Consistent accepted s) (indices : List (Fin modalityCount)) :
    ∃ s', indices.foldlM (fun (state : BoundedScheduler config) index =>
        BoundedScheduler.cancelQueue index (state.queues index) state) s = .ok s' ∧
      Consistent accepted s' ∧ SameThreads s s' ∧
      ∀ index, index ∈ indices ∨ s.queues index = [] → s'.queues index = [] := by
  induction indices generalizing s with
  | nil =>
    exact ⟨s, rfl, h, .refl s,
      fun index hindex => hindex.resolve_left List.not_mem_nil⟩
  | cons first rest ih =>
    obtain ⟨emptied, hemptied, hconsistent, hcallers, hqueues⟩ := h.cancelQueue rfl
    obtain ⟨s', hs', hconsistent', hcallers', hqueues'⟩ := ih hconsistent
    refine ⟨s', ?_, hconsistent', hcallers.trans hcallers', fun index hindex => hqueues' index ?_⟩
    · rw [List.foldlM_cons, hemptied, ok_bind]
      exact hs'
    rw [hqueues]
    by_cases hfirst : index = first
    · rw [hfirst, Function.update_self]
      exact Or.inr rfl
    · rw [Function.update_of_ne hfirst]
      exact hindex.imp_left fun hmem => (List.mem_cons.mp hmem).resolve_left hfirst

/-- What `request_cancel` leaves behind. -/
structure Cancelled (s : BoundedScheduler config) : Prop where
  closed : s.accepting = false
  requested : s.cancellationRequested = true
  empty : ∀ index, s.queues index = []

theorem Accounted.requestCancel (h : Accounted accepted s) :
    ∃ s', s.requestCancel = .ok s' ∧ Accounted accepted s' ∧
      (s.cancellationRequested = false → Cancelled s') ∧
      (s.cancellationRequested = true → s' = s) ∧
      s'.nextModality = s.nextModality ∧ s'.workers = s.workers := by
  unfold BoundedScheduler.requestCancel
  by_cases hrequested : s.cancellationRequested = true
  · rw [if_pos hrequested]
    refine ⟨s, rfl, h, fun hnot => ?_, fun _ => rfl, rfl, rfl⟩
    rw [hrequested] at hnot
    cases hnot
  · have hclosing : Consistent accepted { s with cancellationRequested := true, accepting := false } :=
      { h.toConsistent with
        cancelled := fun _ => rfl
        waiting := fun _ => rfl
        joined := fun _ => rfl }
    obtain ⟨emptied, hemptied, hconsistent, hthreads, hqueues⟩ :=
      hclosing.cancelQueues (List.finRange modalityCount)
    rw [if_neg hrequested]
    unfold cancelQueuedLocked
    rw [hemptied, ok_bind]
    refine ⟨_, rfl, ⟨?_, rfl⟩, fun _ => ⟨?_, ?_, ?_⟩, fun hyes => absurd hyes hrequested,
      hthreads.nextModality, hthreads.workers⟩
    · exact { hconsistent with }
    · exact hthreads.accepting
    · exact hthreads.cancellationRequested
    · exact fun index => hqueues index (Or.inl (List.mem_finRange index))

/-! ## Workers -/

theorem hasQueuedLocked_iff : s.hasQueuedLocked = true ↔ ∃ index, s.queues index ≠ [] := by
  unfold hasQueuedLocked
  rw [List.any_eq_true]
  constructor
  · rintro ⟨index, -, hindex⟩
    refine ⟨index, fun hempty => ?_⟩
    rw [hempty] at hindex
    cases hindex
  · rintro ⟨index, hindex⟩
    refine ⟨index, List.mem_finRange index, ?_⟩
    cases hqueue : s.queues index with
    | nil => exact absurd hqueue hindex
    | cons => rfl

/-- Where something is queued the turn comes to the front of a queue. -/
theorem exists_nextTurn (h : s.hasQueuedLocked = true) : ∃ index selected rest,
    Rotation.nextTurn (fun index => !(s.queues index).isEmpty) s.nextModality = some index ∧
      s.queues index = selected :: rest := by
  obtain ⟨waiting, hwaiting⟩ := hasQueuedLocked_iff.mp h
  cases hturn : Rotation.nextTurn (fun index => !(s.queues index).isEmpty) s.nextModality with
  | none =>
    have hempty := Rotation.nextTurn_eq_none_iff.mp hturn waiting
    rw [Bool.not_eq_false', List.isEmpty_iff] at hempty
    exact absurd hempty hwaiting
  | some index =>
    have hfront := (Rotation.nextTurn_eq_some hturn).1
    cases hqueue : s.queues index with
    | nil =>
      rw [hqueue] at hfront
      cases hfront
    | cons selected rest => exact ⟨index, selected, rest, rfl, hqueue⟩

/-- What taking the next unit does. -/
structure Selects (s s' : BoundedScheduler config) (worker : Fin config.threadCount)
    (index : Fin modalityCount) (queued : QueuedUnit) (rest : List QueuedUnit) : Prop where
  turn : Rotation.nextTurn (fun index => !(s.queues index).isEmpty) s.nextModality = some index
  front : s.queues index = queued :: rest
  queues : s'.queues = Function.update s.queues index rest
  nextModality : s'.nextModality = index + 1
  workers : s'.workers = Function.update s.workers worker (.running queued)

theorem Accounted.workerSelect (h : Accounted accepted s) {worker : Fin config.threadCount}
    (hworker : s.workers worker = .waiting) (hqueued : s.hasQueuedLocked = true) :
    ∃ s' index queued rest, s.workerSelect worker = .ok (s', .selected queued) ∧
      Accounted accepted s' ∧ SameCallers s s' ∧ Selects s s' worker index queued rest := by
  obtain ⟨index, queued, rest, hturn, hfront⟩ := exists_nextTurn hqueued
  have hbefore := holdings_of_front hfront
  generalize hremaining : (⟨queuedUnits (Function.update s.queues index rest),
    activeUnits s.workers, s.outcomes⟩ : Holdings) = remaining at hbefore
  have hbalanced := h.balanced
  rw [hbefore] at hbalanced
  have htaken : s.selectNextLocked = .ok ({ s with
      queues := Function.update s.queues index rest
      nextModality := index + 1 }, queued) := by
    unfold selectNextLocked
    rw [hturn]
    dsimp only
    rw [hfront]
  obtain ⟨metrics, table, hchange, hafter⟩ :=
    changeStage_eq (s := { s with
      queues := Function.update s.queues index rest
      nextModality := index + 1 }) hbalanced moves_selected stageId_mem_queue
  have hresult : s.workerSelect worker = .ok ({ s with
      metrics := { s.metrics with toWorkMetrics := metrics }
      stageMetrics := table
      queues := Function.update s.queues index rest
      nextModality := index + 1
      workers := Function.update s.workers worker (.running queued) }, .selected queued) := by
    unfold BoundedScheduler.workerSelect
    rw [htaken, ok_bind]
    dsimp only
    rw [show queued.unit.stageId = queued.stageId from rfl,
      show queued.unit.estimatedBytes = queued.bytes from rfl, hchange, ok_bind]
    rfl
  have hholdings : (⟨queuedUnits (Function.update s.queues index rest),
      activeUnits (Function.update s.workers worker (.running queued)), s.outcomes⟩ : Holdings) =
      remaining.activate queued := by
    rw [activeUnits_running hworker, ← hremaining]
    rfl
  have hresident : s.residentBytes = (remaining.activate queued).bytes := by
    rw [h.resident, hbefore, Holdings.bytes_queue, Holdings.bytes_activate]
  refine ⟨_, index, queued, rest, hresult, ⟨?_, h.shown⟩, ⟨rfl, rfl, rfl, rfl, rfl, rfl, rfl⟩,
    ⟨hturn, hfront, rfl, rfl, rfl⟩⟩
  exact h.moved hbefore hholdings moved_selected ⟨rfl, rfl, rfl, rfl, rfl, rfl, rfl⟩ hafter hresident

/-- The same units and numbers, with other flags and threads. -/
theorem Accounted.sameHoldings {s' : BoundedScheduler config} (h : Accounted accepted s)
    (hholdings : s'.holdings = s.holdings) (hmetrics : s'.metrics = s.metrics)
    (htable : s'.stageMetrics = s.stageMetrics) (hresident : s'.residentBytes = s.residentBytes)
    (hnext : s'.nextSubmissionOrder = s.nextSubmissionOrder)
    (hsubmitters : s'.submitters = s.submitters)
    (hclosed : s'.cancellationRequested = true ∨ s'.waiters ≠ [] ∨ s'.joined = true →
      s'.accepting = false)
    (hdrained : Waiter.joining ∈ s'.waiters ∨ s'.joined = true →
      s.holdings.queued = 0 ∧ s.holdings.active = 0) : Accounted accepted s' where
  balanced := by
    rw [hholdings, hmetrics, htable]
    exact h.balanced
  resident := by
    rw [hholdings, hresident]
    exact h.resident
  budget := hresident ▸ h.budget
  tickets := hholdings ▸ h.tickets
  orders := hnext ▸ h.orders
  queuedModality := hholdings ▸ h.queuedModality
  activeModality := hholdings ▸ h.activeModality
  submitters := hsubmitters ▸ h.submitters
  cancelled := fun hcancelled => hclosed (Or.inl hcancelled)
  waiting := fun hwaiting => hclosed (Or.inr (Or.inl hwaiting))
  joined := fun hjoined => hclosed (Or.inr (Or.inr hjoined))
  drained := hholdings ▸ hdrained
  shown := by
    rw [hmetrics, hresident]
    exact h.shown

theorem Accounted.closed (h : Accounted accepted s)
    (hflags : s.cancellationRequested = true ∨ s.waiters ≠ [] ∨ s.joined = true) :
    s.accepting = false := by
  rcases hflags with hcancelled | hwaiting | hjoined
  · exact h.cancelled hcancelled
  · exact h.waiting hwaiting
  · exact h.joined hjoined

theorem Accounted.workerReturned (h : Accounted accepted s) {worker : Fin config.threadCount}
    (hworker : s.workers worker = .waiting) :
    Accounted accepted { s with workers := Function.update s.workers worker .returned } := by
  have hholdings : ({ s with workers := Function.update s.workers worker .returned } :
      BoundedScheduler config).holdings = s.holdings := by
    unfold holdings
    rw [activeUnits_returned hworker]
  exact h.sameHoldings hholdings rfl rfl rfl rfl rfl h.closed h.drained

theorem Accounted.workerTurn (h : Accounted accepted s) {worker : Fin config.threadCount}
    (hworker : s.workers worker = .waiting) : Keeps accepted (s.workerTurn worker) := by
  unfold BoundedScheduler.workerTurn
  by_cases hproceed : (!s.workerMayProceed) = true
  · rw [if_pos hproceed]
    exact h.keeps rfl
  rw [if_neg hproceed]
  by_cases hnothing : (!s.hasQueuedLocked) = true
  · rw [if_pos hnothing]
    by_cases hover : (!s.accepting || s.stopRequested) = true
    · rw [if_pos hover]
      exact (h.workerReturned hworker).keeps rfl
    · rw [if_neg hover]
      exact h.keeps rfl
  · have hqueued : s.hasQueuedLocked = true := by simpa using hnothing
    rw [if_neg hnothing]
    obtain ⟨s', index, queued, rest, hresult, haccounted, -, -⟩ := h.workerSelect hworker hqueued
    rw [hresult]
    exact haccounted.keeps rfl

theorem ticket_outcomeOfExecuted (queued : QueuedUnit) (error : Option WorkError)
    (stopRequested : Bool) :
    (outcomeOfExecuted queued error stopRequested).ticket = queued.ticket := by
  unfold outcomeOfExecuted
  dsimp only
  split_ifs <;> rfl

/-- What a worker without its unit leaves of the holdings. -/
theorem holdings_of_running {worker : Fin config.threadCount} {queued : QueuedUnit}
    (h : s.workers worker = .running queued) : s.holdings =
      Holdings.activate ⟨queuedUnits s.queues,
        activeUnits (Function.update s.workers worker .waiting), s.outcomes⟩ queued := by
  unfold holdings Holdings.activate
  rw [activeUnits_waiting h]

theorem Accounted.workerComplete (h : Accounted accepted s) {worker : Fin config.threadCount}
    {queued : QueuedUnit} (hworker : s.workers worker = .running queued) (executed : Executed) :
    ∃ s', s.workerComplete worker queued executed = .ok (s', .completed
        (outcomeOfExecuted queued (executionError queued executed) s.stopRequested)) ∧
      Accounted accepted s' ∧ SameCallers s s' ∧ s'.queues = s.queues ∧
      s'.nextModality = s.nextModality ∧ s'.workers = Function.update s.workers worker .waiting := by
  have hbefore := holdings_of_running hworker
  generalize houtcome : outcomeOfExecuted queued (executionError queued executed) s.stopRequested =
    outcome
  have hticket : outcome.ticket = queued.ticket := by
    rw [← houtcome]
    exact ticket_outcomeOfExecuted _ _ _
  have hstage : outcome.stageId = queued.stageId := congrArg Ticket.stageId hticket
  have hmodality : modalityIndex queued.unit.modality < modalityCount := by
    apply h.activeModality
    rw [hbefore]
    exact Holdings.mem_activate.mpr (Or.inl rfl)
  generalize hremaining : (⟨queuedUnits s.queues,
    activeUnits (Function.update s.workers worker .waiting), s.outcomes⟩ : Holdings) = remaining
    at hbefore
  have hbalanced := h.balanced
  rw [hbefore] at hbalanced
  obtain ⟨metrics, table, hchange, hafter⟩ :=
    changeStage_eq hbalanced (moves_completed hstage) stageId_mem_activate
  have hsubtract : subtractSize s.residentBytes queued.bytes = .ok remaining.bytes := by
    rw [h.resident, hbefore, Holdings.bytes_activate, subtractSize_add]
  have hcounted : ∃ counts, countModality s.metrics.completedByModality queued.unit.modality
      outcome.state = .ok counts := by
    unfold countModality
    split_ifs with hcompleted
    · exact ⟨_, rfl⟩
    · exact ⟨_, rfl⟩
  obtain ⟨counts, hcounted⟩ := hcounted
  have hresult : s.workerComplete worker queued executed = .ok ({ s with
      metrics := { s.metrics with
        toWorkMetrics := metrics
        residentBytes := remaining.bytes
        completedByModality := counts }
      stageMetrics := table
      residentBytes := remaining.bytes
      outcomes := s.outcomes ++ [outcome]
      workers := Function.update s.workers worker .waiting }, .completed outcome) := by
    unfold BoundedScheduler.workerComplete completeLocked
    dsimp only
    rw [houtcome, show queued.unit.stageId = queued.stageId from rfl,
      show queued.unit.estimatedBytes = queued.bytes from rfl, hchange, ok_bind, hsubtract, ok_bind,
      hcounted]
    rfl
  have hholdings : (⟨queuedUnits s.queues, activeUnits (Function.update s.workers worker .waiting),
      (s.outcomes ++ [outcome] : List WorkOutcome)⟩ : Holdings) = remaining.finish outcome := by
    rw [coe_append_outcome, ← hremaining]
    rfl
  refine ⟨_, hresult, ⟨?_, rfl⟩, ⟨rfl, rfl, rfl, rfl, rfl, rfl, rfl⟩, rfl, rfl, rfl⟩
  exact h.moved hbefore hholdings (moved_completed hticket) ⟨rfl, rfl, rfl, rfl, rfl, rfl, rfl⟩ hafter rfl

/-! ## Waiting for the end -/

theorem Accounted.close (h : Accounted accepted s) : Accounted accepted s.close :=
  h.sameHoldings rfl rfl rfl rfl rfl rfl (fun _ => rfl) h.drained

theorem Accounted.enterWait (h : Accounted accepted s) : Accounted accepted s.enterWait := by
  refine h.sameHoldings rfl rfl rfl rfl rfl rfl (fun _ => rfl) ?_
  rintro (hjoining | hjoined)
  · rcases List.mem_append.mp hjoining with hwaiter | hnew
    · exact h.drained (Or.inl hwaiter)
    · cases List.mem_singleton.mp hnew
  · exact h.drained (Or.inr hjoined)

/-- The counters tell whether anything is queued or active. -/
theorem Accounted.empty_iff (h : Accounted accepted s) :
    s.metrics.queueDepth = 0 ∧ s.metrics.activeUnits = 0 ↔
      s.holdings.queued = 0 ∧ s.holdings.active = 0 := by
  have hcard : ∀ units : Multiset QueuedUnit,
      weigh (among (fun _ => true) QueuedUnit.stageId fun _ => 1) units = units.card := by
    intro units
    rw [← weigh_one]
    exact weigh_congr fun _ _ => rfl
  rw [h.balanced.total.queueDepth, h.balanced.total.activeUnits, hcard, hcard,
    Multiset.card_eq_zero, Multiset.card_eq_zero]

theorem Accounted.drain (h : Accounted accepted s) {position : Nat}
    (hwaiter : s.waiters[position]? = some .draining) : Keeps accepted (.ok (s.drain position)) := by
  unfold BoundedScheduler.drain
  have hsome : s.waiters ≠ [] := List.ne_nil_of_mem (List.mem_of_getElem? hwaiter)
  split_ifs with hempty
  · refine Accounted.keeps ?_ rfl
    refine h.sameHoldings rfl rfl rfl rfl rfl rfl (fun _ => h.waiting hsome) fun _ => ?_
    exact h.empty_iff.mp hempty
  · exact h.keeps rfl

theorem Accounted.finishWait (h : Accounted accepted s) {position : Nat}
    (hwaiter : s.waiters[position]? = some .joining) :
    Accounted accepted (s.finishWait position).1 := by
  have hjoining : Waiter.joining ∈ s.waiters := List.mem_of_getElem? hwaiter
  have hholdings : (s.finishWait position).1.holdings = s.holdings := by
    have hperm := Multiset.coe_eq_coe.mpr (List.mergeSort_perm s.outcomes
      fun left right => left.submissionOrder ≤ right.submissionOrder)
    exact congrArg (fun outcomes =>
      (⟨queuedUnits s.queues, activeUnits s.workers, outcomes⟩ : Holdings)) hperm
  exact h.sameHoldings hholdings rfl rfl rfl rfl rfl (fun _ => h.waiting (List.ne_nil_of_mem hjoining))
    fun _ => h.drained (Or.inl hjoining)

/-! ## Every critical section -/

/-- No critical section fails, and each keeps the invariant. -/
theorem Accounted.perform (h : Accounted accepted s) {action : Action config}
    {result : Except Fault (BoundedScheduler config × Event)}
    (hresult : s.perform action = some result) : Keeps accepted result := by
  cases action with
  | submit unit backpressure =>
    cases hresult
    exact h.submit unit backpressure
  | resume position backpressure =>
    obtain ⟨unit, hunit, rfl⟩ := Option.map_eq_some_iff.mp hresult
    exact h.resume hunit backpressure
  | close =>
    cases hresult
    exact h.close.keeps rfl
  | requestCancel =>
    cases hresult
    obtain ⟨s', hs', haccounted, -⟩ := h.requestCancel
    rw [hs', ok_bind]
    exact haccounted.keeps rfl
  | metrics =>
    cases hresult
    exact h.keeps rfl
  | workerTurn worker =>
    unfold BoundedScheduler.perform at hresult
    dsimp only at hresult
    split_ifs at hresult with hworker
    cases hresult
    exact h.workerTurn hworker
  | workerComplete worker executed =>
    unfold BoundedScheduler.perform at hresult
    dsimp only at hresult
    split at hresult
    next queued hworker =>
      cases hresult
      obtain ⟨s', hs', haccounted, -⟩ := h.workerComplete hworker executed
      rw [hs']
      exact haccounted.keeps rfl
    next => cases hresult
  | enterWait =>
    cases hresult
    exact h.enterWait.keeps rfl
  | drain position =>
    unfold BoundedScheduler.perform at hresult
    dsimp only at hresult
    split_ifs at hresult with hwaiter
    cases hresult
    exact h.drain hwaiter
  | finishWait position =>
    unfold BoundedScheduler.perform at hresult
    dsimp only at hresult
    split_ifs at hresult with hwaiter
    cases hresult
    exact (h.finishWait hwaiter.1).keeps rfl

end BoundedScheduler

end CartoSentry.Scheduler
