import CartoSentry.Scheduler.Steps

set_option autoImplicit false

/-!
# The accounting of the scheduler

In every run the numbers of the scheduler are right for the units that were accepted, and a caller
of `wait` gets the outcome of each of them.
-/

namespace CartoSentry.Scheduler

open CartoSentry.Foundation

/-! ## The stages add up -/

/-- The sum of one counter over the stages. -/
def StageTable.total (table : StageTable) (measure : WorkMetrics → Nat) : Nat :=
  (table.map fun stage => measure stage.toWorkMetrics).sum

/-- Every global counter is the sum of those of the stages. -/
structure Totals (metrics : WorkMetrics) (table : StageTable) : Prop where
  queueDepth : metrics.queueDepth = table.total WorkMetrics.queueDepth
  queuedBytes : metrics.queuedBytes = table.total WorkMetrics.queuedBytes
  activeUnits : metrics.activeUnits = table.total WorkMetrics.activeUnits
  activeBytes : metrics.activeBytes = table.total WorkMetrics.activeBytes
  completedUnits : metrics.completedUnits = table.total WorkMetrics.completedUnits
  failedUnits : metrics.failedUnits = table.total WorkMetrics.failedUnits
  cancelledUnits : metrics.cancelledUnits = table.total WorkMetrics.cancelledUnits
  backpressureTime : metrics.backpressureTime = table.total WorkMetrics.backpressureTime

section Totals

variable {holdings : Holdings} {metrics : WorkMetrics} {table : StageTable}

/-- The stages hold the shares of what the global counter holds. -/
theorem total_eq {A : Type} {key : A → String} {weight : A → Nat} {items : Multiset A}
    {measure : WorkMetrics → Nat} {value : Nat} (hsorted : table.Sorted)
    (hentered : ∀ item ∈ items, key item ∈ table.stageIds)
    (hvalue : value = weigh (among (fun _ => true) key weight) items)
    (hstages : ∀ stage ∈ table,
      measure stage.toWorkMetrics = weigh (among (· == stage.stageId) key weight) items) :
    value = table.total measure := by
  have hshares : table.total measure =
      (table.stageIds.map fun wanted => weigh (among (· == wanted) key weight) items).sum := by
    unfold StageTable.total StageTable.stageIds
    rw [List.map_map, List.map_congr_left hstages]
    rfl
  rw [hshares, sum_weigh_among hsorted.nodup hentered, hvalue]
  exact weigh_congr fun _ _ => rfl

theorem Balanced.totals (h : Balanced holdings metrics table) : Totals metrics table := by
  have hqueued : ∀ queued ∈ holdings.queued, queued.stageId ∈ table.stageIds := by
    intro queued hmem
    apply h.entered
    simp only [Holdings.stageIds, Multiset.mem_add]
    exact Or.inl (Or.inl (Multiset.mem_map_of_mem _ hmem))
  have hactive : ∀ queued ∈ holdings.active, queued.stageId ∈ table.stageIds := by
    intro queued hmem
    apply h.entered
    simp only [Holdings.stageIds, Multiset.mem_add]
    exact Or.inl (Or.inr (Multiset.mem_map_of_mem _ hmem))
  have houtcomes : ∀ outcome ∈ holdings.outcomes, outcome.stageId ∈ table.stageIds := by
    intro outcome hmem
    apply h.entered
    simp only [Holdings.stageIds, Multiset.mem_add]
    exact Or.inr (Multiset.mem_map_of_mem _ hmem)
  exact {
    queueDepth := total_eq h.sorted hqueued h.total.queueDepth
      fun stage hstage => (h.stages stage hstage).queueDepth
    queuedBytes := total_eq h.sorted hqueued h.total.queuedBytes
      fun stage hstage => (h.stages stage hstage).queuedBytes
    activeUnits := total_eq h.sorted hactive h.total.activeUnits
      fun stage hstage => (h.stages stage hstage).activeUnits
    activeBytes := total_eq h.sorted hactive h.total.activeBytes
      fun stage hstage => (h.stages stage hstage).activeBytes
    completedUnits := total_eq h.sorted houtcomes h.total.completedUnits
      fun stage hstage => (h.stages stage hstage).completedUnits
    failedUnits := total_eq h.sorted houtcomes h.total.failedUnits
      fun stage hstage => (h.stages stage hstage).failedUnits
    cancelledUnits := total_eq h.sorted houtcomes h.total.cancelledUnits
      fun stage hstage => (h.stages stage hstage).cancelledUnits
    backpressureTime := h.backpressureTime }

/-- Every outcome is counted in one state. -/
theorem WorkMetrics.Accounts.ended (h : metrics.Accounts (fun _ => true) holdings) :
    metrics.completedUnits + metrics.failedUnits + metrics.cancelledUnits =
      holdings.outcomes.card := by
  rw [h.completedUnits, h.failedUnits, h.cancelledUnits]
  generalize holdings.outcomes = outcomes
  induction outcomes using Multiset.induction_on with
  | empty => rfl
  | cons outcome outcomes ih =>
    have hone : endsIn .completed outcome + endsIn .failed outcome + endsIn .cancelled outcome = 1 := by
      unfold endsIn
      cases outcome.state <;> rfl
    have hall : ∀ state, among (fun _ => true) WorkOutcome.stageId (endsIn state) outcome =
        endsIn state outcome := fun state => among_of_counts rfl
    rw [weigh_cons, weigh_cons, weigh_cons, hall, hall, hall, Multiset.card_cons, ← ih, ← hone]
    omega

end Totals

namespace BoundedScheduler

variable {config : SchedulerConfig} {s : BoundedScheduler config} {accepted : List QueuedUnit}

/-! ## Every run -/

/-- The units that were accepted, in the order of their acceptance. -/
def acceptedIn (log : List (Effect (BoundedScheduler config) Event)) : List QueuedUnit :=
  log.flatMap fun effect => acceptedBy effect.label

theorem acceptedIn_snoc (log : List (Effect (BoundedScheduler config) Event))
    (s : BoundedScheduler config) (event : Event) :
    acceptedIn (log ++ [⟨s, event⟩]) = acceptedIn log ++ acceptedBy event := by
  unfold acceptedIn
  rw [List.flatMap_append, List.flatMap_singleton]

theorem accounted_of_construct {start : BoundedScheduler config}
    (h : construct config = .ok start) : Accounted [] start := by
  unfold construct at h
  split_ifs at h
  cases h
  exact accounted_start

variable {log : List (Effect (BoundedScheduler config) Event)}

theorem Accounted.step (h : Accounted accepted s) {event : Event} {s' : BoundedScheduler config}
    (hstep : Step s event s') : Accounted (accepted ++ acceptedBy event) s' := by
  obtain ⟨action, haction⟩ := hstep
  obtain ⟨other, happened, hresult, haccounted⟩ := h.perform haction
  cases hresult
  exact haccounted

theorem Run.accounted (h : Run config log s) : Accounted (acceptedIn log) s := by
  obtain ⟨start, hstart, hhistory⟩ := h
  refine hhistory.induct (J := fun log s => Accounted (acceptedIn log) s)
    (accounted_of_construct hstart) ?_
  intro log s event s' _ haccounted hstep
  rw [acceptedIn_snoc]
  exact haccounted.step hstep

/-! ## The result of a run -/

/-- The outcomes of the accepted units in the order of their acceptance, and nothing left. -/
structure Settles (accepted : List QueuedUnit) (result : SchedulerResult) : Prop where
  tickets : result.outcomes.map WorkOutcome.ticket = accepted.map QueuedUnit.ticket
  orders : result.outcomes.map WorkOutcome.submissionOrder = List.range accepted.length
  resident : result.metrics.residentBytes = 0
  ended : result.metrics.completedUnits + result.metrics.failedUnits +
    result.metrics.cancelledUnits = accepted.length

theorem Accounted.length_accepted (h : Accounted accepted s) : accepted.length =
    s.holdings.queued.card + s.holdings.active.card + s.outcomes.length := by
  have hcard := congrArg Multiset.card h.tickets
  simp only [Holdings.tickets, Multiset.card_add, Multiset.card_map, Multiset.coe_card,
    List.length_map] at hcard
  exact hcard.symm

/-- The tickets of the accepted units in the order of their numbers. -/
theorem Accounted.sorted_tickets (h : Accounted accepted s) : (accepted.map QueuedUnit.ticket).Pairwise
    fun earlier later => earlier.submissionOrder < later.submissionOrder := by
  have horders : (accepted.map QueuedUnit.submissionOrder).Pairwise (· < ·) := by
    rw [h.orders]
    exact List.pairwise_lt_range
  rw [List.pairwise_map] at horders ⊢
  exact horders

theorem Accounted.settles (h : Accounted accepted s) {position : Nat} {result : SchedulerResult}
    (hwaiter : s.waiters[position]? = some .joining)
    (hresult : (s.finishWait position).2 = .returned result) : Settles accepted result := by
  cases hresult
  obtain ⟨hqueued, hactive⟩ := h.drained (Or.inl (List.mem_of_getElem? hwaiter))
  have hsorted := h.sorted_tickets
  have houtcomes : (s.outcomes.mergeSort fun left right =>
      left.submissionOrder ≤ right.submissionOrder).map WorkOutcome.ticket =
        accepted.map QueuedUnit.ticket := by
    have hperm : ((s.outcomes.mergeSort fun left right =>
        left.submissionOrder ≤ right.submissionOrder).map WorkOutcome.ticket).Perm
          (accepted.map QueuedUnit.ticket) := by
      have htickets := h.tickets
      unfold Holdings.tickets at htickets
      rw [hqueued, hactive, Multiset.map_zero, zero_add, zero_add] at htickets
      exact ((List.mergeSort_perm _ _).map _).trans (Multiset.coe_eq_coe.mp htickets)
    have hordered : ((s.outcomes.mergeSort fun left right =>
        left.submissionOrder ≤ right.submissionOrder).map WorkOutcome.ticket).Pairwise
          fun earlier later => earlier.submissionOrder ≤ later.submissionOrder := by
      rw [List.pairwise_map]
      refine (List.pairwise_mergeSort ?_ ?_ s.outcomes).imp fun hle => of_decide_eq_true hle
      · intro a b c hab hbc
        exact decide_eq_true ((of_decide_eq_true hab).trans (of_decide_eq_true hbc))
      · intro a b
        rw [Bool.or_eq_true, decide_eq_true_iff, decide_eq_true_iff]
        exact Nat.le_total _ _
    have hdistinct : ((accepted.map QueuedUnit.ticket).map Ticket.submissionOrder).Nodup := by
      rw [List.nodup_iff_pairwise_ne, List.pairwise_map]
      exact hsorted.imp fun hlt => Nat.ne_of_lt hlt
    refine List.Perm.eq_of_pairwise (fun left right hleft hright hle hge => ?_) hordered
      (hsorted.imp fun hlt => Nat.le_of_lt hlt) hperm
    exact List.inj_on_of_nodup_map hdistinct (hperm.subset hleft) hright (le_antisymm hle hge)
  have hresident : s.residentBytes = 0 := by
    rw [h.resident, Holdings.bytes, hqueued, hactive]
    rfl
  have hlength := h.length_accepted
  rw [hqueued, hactive, Multiset.card_zero] at hlength
  refine ⟨houtcomes, ?_, hresident, ?_⟩
  · have horders := congrArg (List.map Ticket.submissionOrder) houtcomes
    rw [List.map_map, List.map_map] at horders
    have hrange := h.orders
    have hcount := congrArg List.length hrange
    rw [List.length_map, List.length_range] at hcount
    rw [hcount, ← hrange]
    exact horders
  · change s.metrics.completedUnits + s.metrics.failedUnits + s.metrics.cancelledUnits = _
    rw [h.balanced.total.ended, hlength]
    change s.outcomes.length = _
    omega

/-- A caller of `wait` gets the outcome of every unit that was accepted before. -/
theorem Run.settles (h : Run config log s) {earlier later : List (Effect (BoundedScheduler config) Event)}
    {before : BoundedScheduler config} {result : SchedulerResult}
    (hlog : log = earlier ++ ⟨before, .returned result⟩ :: later) :
    Settles (acceptedIn earlier) result := by
  obtain ⟨start, hstart, hhistory⟩ := h
  rw [hlog] at hhistory
  refine hhistory.since (J := fun _ _ => Settles (acceptedIn earlier) result) ?_ fun _ _ _ _ _ h _ => h
  intro s' hearlier hstep
  have haccounted : Accounted (acceptedIn earlier) before := Run.accounted ⟨start, hstart, hearlier⟩
  obtain ⟨position, hwaiter, -, hfinished⟩ := finishWait_of_returned hstep
  exact haccounted.settles hwaiter (congrArg Prod.snd hfinished)

/-- An admissible unit fits where nothing is queued or active. -/
theorem Accounted.mayProceed (h : Accounted accepted s) {unit : WorkUnit}
    (hunit : config.unitError unit = none)
    (hempty : s.holdings.queued = 0 ∧ s.holdings.active = 0) : s.mayProceed unit = .ok true := by
  have hresident : s.residentBytes = 0 := by
    rw [h.resident, Holdings.bytes, hempty.1, hempty.2]
    rfl
  unfold BoundedScheduler.mayProceed
  split_ifs
  · rfl
  · rw [hasRoom_eq hunit, hresident, Nat.zero_add, decide_eq_true (unitError_eq_none hunit).1]

/-- **The scheduler keeps its accounts.**  In every run: the resident bytes are those of the queued
and active units, within the budget; no critical section can fail; the stages add up to the global
counters; the units accepted are those queued, active or with an outcome; what is admissible fits
where nothing is left; and `wait` returns the outcomes of all accepted units in their order. -/
theorem scheduler_accounting (h : Run config log s) :
    (s.residentBytes = s.holdings.bytes ∧ s.residentBytes ≤ config.residentByteBudget ∧
      s.metrics.residentBytes = s.residentBytes) ∧
    (∀ action fault, s.perform action ≠ some (.error fault)) ∧
    Totals s.metrics.toWorkMetrics s.stageMetrics ∧
    (s.holdings.tickets = ((acceptedIn log).map QueuedUnit.ticket : Multiset Ticket) ∧
      (acceptedIn log).length =
        s.holdings.queued.card + s.holdings.active.card + s.outcomes.length) ∧
    (s.holdings.queued = 0 ∧ s.holdings.active = 0 → ∀ unit, config.unitError unit = none →
      s.mayProceed unit = .ok true) ∧
    ∀ earlier before result later, log = earlier ++ ⟨before, .returned result⟩ :: later →
      Settles (acceptedIn earlier) result := by
  have haccounted := h.accounted
  refine ⟨⟨haccounted.resident, haccounted.budget, haccounted.shown⟩, ?_,
    haccounted.balanced.totals, ⟨haccounted.tickets, haccounted.length_accepted⟩, ?_, ?_⟩
  · intro action fault hfault
    obtain ⟨s', event, hresult, -⟩ := haccounted.perform hfault
    cases hresult
  · exact fun hempty unit hunit => haccounted.mayProceed hunit hempty
  · exact fun earlier before result later hlog => h.settles hlog

/-! ## A batch of two units -/

/-- The critical sections of these actions, one after the other. -/
def follow (s : BoundedScheduler config) : List (Action config) →
    Option (List (Effect (BoundedScheduler config) Event) × BoundedScheduler config)
  | [] => some ([], s)
  | action :: rest =>
    match s.perform action with
    | some (.ok (s', event)) => (follow s' rest).map fun run => (⟨s, event⟩ :: run.1, run.2)
    | _ => none

theorem history_of_follow {start : BoundedScheduler config} {actions : List (Action config)}
    {steps : List (Effect (BoundedScheduler config) Event)} {s' : BoundedScheduler config}
    (h : History (fun _ => Step) start log s) (hfollow : follow s actions = some (steps, s')) :
    History (fun _ => Step) start (log ++ steps) s' := by
  induction actions generalizing s log steps with
  | nil =>
    cases hfollow
    rwa [List.append_nil]
  | cons action rest ih =>
    unfold follow at hfollow
    split at hfollow
    next next event hperform =>
      obtain ⟨run, hrun, hsteps⟩ := Option.map_eq_some_iff.mp hfollow
      cases hsteps
      have hnext : History (fun _ => Step) start (log ++ [⟨s, event⟩]) next :=
        .snoc h ⟨action, hperform⟩
      have hall := ih hnext hrun
      rwa [List.append_assoc] at hall
    next => cases hfollow

def sampleConfig : SchedulerConfig where
  workerCount := 1
  residentByteBudget := 10
  deterministic := false

def sampleUnit (unitId : String) (modality : Modality) : WorkUnit where
  unitId := unitId
  stageId := "stage"
  modality := modality
  estimatedBytes := 4
  execute := true

def sampleWorker : Fin sampleConfig.threadCount :=
  ⟨0, Nat.zero_lt_one⟩

/-- Two units are submitted, the second runs first, and a caller waits for both. -/
def sampleActions : List (Action sampleConfig) :=
  [.submit (sampleUnit "first" .lidar) 1, .submit (sampleUnit "second" .imu) 2, .enterWait,
    .workerTurn sampleWorker, .workerComplete sampleWorker .exception, .workerTurn sampleWorker,
    .workerComplete sampleWorker (.value none), .drain 0, .workerTurn sampleWorker]

theorem scheduler_accounting_batch : ∃ log s result,
    Run sampleConfig (log ++ [⟨s, .returned result⟩]) (s.finishWait 0).1 ∧
      result.outcomes.map WorkOutcome.submissionOrder = [0, 1] := by
  have hends : (follow ({} : BoundedScheduler sampleConfig) sampleActions).map (fun run =>
      (run.2.waiters[0]?, run.2.workersJoined, (acceptedIn run.1).length)) =
        some (some .joining, true, 2) := by decide +kernel
  obtain ⟨⟨log, s⟩, hfollow, hends⟩ := Option.map_eq_some_iff.mp hends
  have hwaiter : s.waiters[0]? = some .joining := congrArg Prod.fst hends
  have hjoined : s.workersJoined = true := congrArg (fun ends => ends.2.1) hends
  have haccepted : (acceptedIn log).length = 2 := congrArg (fun ends => ends.2.2) hends
  have hhistory : History (fun _ => Step) {} log s := history_of_follow .nil hfollow
  have hstep : Step s (s.finishWait 0).2 (s.finishWait 0).1 :=
    ⟨.finishWait 0, if_pos ⟨hwaiter, hjoined⟩⟩
  have hrun : Run sampleConfig (log ++ [⟨s, (s.finishWait 0).2⟩]) (s.finishWait 0).1 :=
    ⟨{}, rfl, hhistory.snoc hstep⟩
  have hsettles := (scheduler_accounting hrun).2.2.2.2.2 log s _ [] rfl
  have horders := hsettles.orders
  rw [haccepted] at horders
  exact ⟨log, s, _, hrun, horders⟩

end BoundedScheduler

end CartoSentry.Scheduler
