import CartoSentry.Foundation.Outcome
import CartoSentry.Foundation.Tally
import CartoSentry.Scheduler.BoundedScheduler

set_option autoImplicit false

/-!
# The ledger of the scheduler

What the metrics ought to say about the units that are queued and active and about the
outcomes recorded so far, for the scheduler as a whole and for each stage.  A unit moves
from its queue to a worker, from a worker to the outcomes, or from its queue to the
outcomes: each move changes the global metrics and those of the unit's own stage alike, and
it is checked once that the change fits the move and that no subtraction wraps.  A unit is known
by what its outcome will repeat of it.
-/

namespace CartoSentry.Scheduler

open CartoSentry.Foundation

def QueuedUnit.stageId (queued : QueuedUnit) : String :=
  queued.unit.stageId

def QueuedUnit.bytes (queued : QueuedUnit) : Nat :=
  queued.unit.estimatedBytes

/-- The units in the scheduler and what became of the others. -/
structure Holdings where
  queued : Multiset QueuedUnit
  active : Multiset QueuedUnit
  outcomes : Multiset WorkOutcome

namespace Holdings

def stageIds (holdings : Holdings) : Multiset String :=
  holdings.queued.map QueuedUnit.stageId + holdings.active.map QueuedUnit.stageId +
    holdings.outcomes.map WorkOutcome.stageId

def queue (holdings : Holdings) (queued : QueuedUnit) : Holdings :=
  { holdings with queued := queued ::ₘ holdings.queued }

def activate (holdings : Holdings) (queued : QueuedUnit) : Holdings :=
  { holdings with active := queued ::ₘ holdings.active }

def finish (holdings : Holdings) (outcome : WorkOutcome) : Holdings :=
  { holdings with outcomes := outcome ::ₘ holdings.outcomes }

end Holdings

def endsIn (state : WorkState) (outcome : WorkOutcome) : Nat :=
  if outcome.state = state then 1 else 0

/-- The metrics are right for the stages that count. -/
structure WorkMetrics.Accounts (counts : String → Bool) (holdings : Holdings)
    (metrics : WorkMetrics) : Prop where
  queueDepth : metrics.queueDepth =
    weigh (among counts QueuedUnit.stageId fun _ => 1) holdings.queued
  queuedBytes : metrics.queuedBytes =
    weigh (among counts QueuedUnit.stageId QueuedUnit.bytes) holdings.queued
  activeUnits : metrics.activeUnits =
    weigh (among counts QueuedUnit.stageId fun _ => 1) holdings.active
  activeBytes : metrics.activeBytes =
    weigh (among counts QueuedUnit.stageId QueuedUnit.bytes) holdings.active
  completedUnits : metrics.completedUnits =
    weigh (among counts WorkOutcome.stageId (endsIn .completed)) holdings.outcomes
  failedUnits : metrics.failedUnits =
    weigh (among counts WorkOutcome.stageId (endsIn .failed)) holdings.outcomes
  cancelledUnits : metrics.cancelledUnits =
    weigh (among counts WorkOutcome.stageId (endsIn .cancelled)) holdings.outcomes

namespace WorkMetrics.Accounts

variable {counts : String → Bool} {holdings : Holdings} {metrics : WorkMetrics}
  {queued : QueuedUnit} {outcome : WorkOutcome}

/-- A stage without units and outcomes has no numbers. -/
theorem empty (h : ∀ stageId ∈ holdings.stageIds, counts stageId = false) :
    WorkMetrics.Accounts counts holdings {} := by
  simp only [Holdings.stageIds, Multiset.mem_add, or_imp, forall_and, Multiset.mem_map,
    forall_exists_index, and_imp, forall_apply_eq_imp_iff₂] at h
  obtain ⟨⟨hqueued, hactive⟩, houtcomes⟩ := h
  have hnothing {A : Type} {key : A → String} {items : Multiset A} (weight : A → Nat)
      (hitems : ∀ item ∈ items, counts (key item) = false) :
      0 = weigh (among counts key weight) items :=
    (weigh_eq_zero fun item hitem => among_of_not (hitems item hitem)).symm
  exact {
    queueDepth := hnothing _ hqueued
    queuedBytes := hnothing _ hqueued
    activeUnits := hnothing _ hactive
    activeBytes := hnothing _ hactive
    completedUnits := hnothing _ houtcomes
    failedUnits := hnothing _ houtcomes
    cancelledUnits := hnothing _ houtcomes }

/-! ## Stages that do not count -/

theorem queue_iff (h : counts queued.stageId = false) :
    metrics.Accounts counts (holdings.queue queued) ↔ metrics.Accounts counts holdings := by
  constructor <;> rintro ⟨hdepth, hqueued, hactive, hbytes, hcompleted, hfailed, hcancelled⟩ <;>
    constructor <;>
    simp_all only [Holdings.queue, weigh_cons, among_of_not h, Nat.zero_add]

theorem activate_iff (h : counts queued.stageId = false) :
    metrics.Accounts counts (holdings.activate queued) ↔ metrics.Accounts counts holdings := by
  constructor <;> rintro ⟨hdepth, hqueued, hactive, hbytes, hcompleted, hfailed, hcancelled⟩ <;>
    constructor <;>
    simp_all only [Holdings.activate, weigh_cons, among_of_not h, Nat.zero_add]

theorem finish_iff (h : counts outcome.stageId = false) :
    metrics.Accounts counts (holdings.finish outcome) ↔ metrics.Accounts counts holdings := by
  constructor <;> rintro ⟨hdepth, hqueued, hactive, hbytes, hcompleted, hfailed, hcancelled⟩ <;>
    constructor <;>
    simp_all only [Holdings.finish, weigh_cons, among_of_not h, Nat.zero_add]

/-! ## Stages that count -/

theorem waited (h : metrics.Accounts counts holdings) (backpressure : Nat) :
    (metrics.waited backpressure).Accounts counts holdings :=
  ⟨h.queueDepth, h.queuedBytes, h.activeUnits, h.activeBytes, h.completedUnits, h.failedUnits,
    h.cancelledUnits⟩

theorem queue (h : metrics.Accounts counts holdings) (hcounts : counts queued.stageId = true) :
    (metrics.queued queued.bytes).Accounts counts (holdings.queue queued) where
  queueDepth := by
    rw [Holdings.queue, weigh_cons, among_of_counts hcounts, ← h.queueDepth, Nat.add_comm]
    rfl
  queuedBytes := by
    rw [Holdings.queue, weigh_cons, among_of_counts hcounts, ← h.queuedBytes, Nat.add_comm]
    rfl
  activeUnits := h.activeUnits
  activeBytes := h.activeBytes
  completedUnits := h.completedUnits
  failedUnits := h.failedUnits
  cancelledUnits := h.cancelledUnits

/-- One more outcome is counted by its state. -/
theorem finish (h : metrics.Accounts counts holdings) (hcounts : counts outcome.stageId = true) :
    (metrics.ended outcome.state).Accounts counts (holdings.finish outcome) := by
  cases hstate : outcome.state <;> constructor <;>
    simp only [WorkMetrics.ended, Holdings.finish, weigh_cons, among_of_counts hcounts, endsIn, hstate,
      h.queueDepth, h.queuedBytes, h.activeUnits, h.activeBytes, h.completedUnits, h.failedUnits,
      h.cancelledUnits, reduceCtorEq, if_true, if_false, Nat.zero_add, Nat.add_comm 1]

/-- A unit leaves its queue: the subtractions do not wrap. -/
theorem leaveQueue (h : metrics.Accounts counts (holdings.queue queued))
    (hcounts : counts queued.stageId = true) : ∃ queueDepth queuedBytes,
    subtractSize metrics.queueDepth 1 = .ok queueDepth ∧
      subtractSize metrics.queuedBytes queued.bytes = .ok queuedBytes ∧
      WorkMetrics.Accounts counts holdings { metrics with queueDepth, queuedBytes } := by
  have hdepth := h.queueDepth
  have hbytes := h.queuedBytes
  rw [Holdings.queue, weigh_cons, among_of_counts hcounts] at hdepth hbytes
  rw [hdepth, hbytes]
  exact ⟨_, _, subtractSize_add _ _, subtractSize_add _ _, rfl, rfl, h.activeUnits, h.activeBytes,
    h.completedUnits, h.failedUnits, h.cancelledUnits⟩

/-- A unit leaves its worker: the subtractions do not wrap. -/
theorem leaveWorker (h : metrics.Accounts counts (holdings.activate queued))
    (hcounts : counts queued.stageId = true) : ∃ activeUnits activeBytes,
    subtractSize metrics.activeUnits 1 = .ok activeUnits ∧
      subtractSize metrics.activeBytes queued.bytes = .ok activeBytes ∧
      WorkMetrics.Accounts counts holdings { metrics with activeUnits, activeBytes } := by
  have hunits := h.activeUnits
  have hbytes := h.activeBytes
  rw [Holdings.activate, weigh_cons, among_of_counts hcounts] at hunits hbytes
  rw [hunits, hbytes]
  exact ⟨_, _, subtractSize_add _ _, subtractSize_add _ _, h.queueDepth, h.queuedBytes, rfl, rfl,
    h.completedUnits, h.failedUnits, h.cancelledUnits⟩

end WorkMetrics.Accounts

/-! ## The moves of a unit -/

/-- A change of the metrics that takes the numbers of one holding to those of the other,
for the stage of the unit that moved and, unchanged, for the others. -/
structure Moves (stageId : String) (before after : Holdings)
    (change : WorkMetrics → Except Fault WorkMetrics) : Prop where
  own : ∀ (counts : String → Bool) (metrics : WorkMetrics), counts stageId = true →
    metrics.Accounts counts before → ∃ changed, change metrics = .ok changed ∧
      changed.Accounts counts after ∧ changed.backpressureTime = metrics.backpressureTime
  others : ∀ (counts : String → Bool) (metrics : WorkMetrics), counts stageId = false →
    metrics.Accounts counts before → metrics.Accounts counts after
  stageIds : after.stageIds = before.stageIds

section Moves

variable {holdings : Holdings} {queued : QueuedUnit} {outcome : WorkOutcome}

theorem moves_selected : Moves queued.stageId (holdings.queue queued) (holdings.activate queued)
    (·.selected queued.bytes) where
  own counts metrics hcounts h := by
    obtain ⟨queueDepth, queuedBytes, hdepth, hbytes, hleft⟩ := h.leaveQueue hcounts
    rw [WorkMetrics.selected, hdepth, ok_bind, hbytes, ok_bind]
    refine ⟨_, rfl, ⟨hleft.queueDepth, hleft.queuedBytes, ?_, ?_, hleft.completedUnits,
      hleft.failedUnits, hleft.cancelledUnits⟩, rfl⟩
    · rw [Holdings.activate, weigh_cons, among_of_counts hcounts, ← hleft.activeUnits]
      exact Nat.add_comm _ _
    · rw [Holdings.activate, weigh_cons, among_of_counts hcounts, ← hleft.activeBytes]
      exact Nat.add_comm _ _
  others counts metrics hcounts h :=
    (WorkMetrics.Accounts.activate_iff hcounts).mpr ((WorkMetrics.Accounts.queue_iff hcounts).mp h)
  stageIds := by
    simp only [Holdings.stageIds, Holdings.activate, Holdings.queue, Multiset.map_cons,
      Multiset.cons_add, Multiset.add_cons]

theorem moves_completed (hstage : outcome.stageId = queued.stageId) :
    Moves queued.stageId (holdings.activate queued) (holdings.finish outcome)
      (·.completed queued.bytes outcome.state) where
  own counts metrics hcounts h := by
    obtain ⟨activeUnits, activeBytes, hunits, hbytes, hleft⟩ := h.leaveWorker hcounts
    rw [WorkMetrics.completed, hunits, ok_bind, hbytes, ok_bind]
    refine ⟨_, rfl, hleft.finish (by rw [hstage, hcounts]), ?_⟩
    cases outcome.state <;> rfl
  others counts metrics hcounts h :=
    (WorkMetrics.Accounts.finish_iff (by rw [hstage, hcounts])).mpr
      ((WorkMetrics.Accounts.activate_iff hcounts).mp h)
  stageIds := by
    simp only [Holdings.stageIds, Holdings.activate, Holdings.finish, Multiset.map_cons,
      Multiset.cons_add, Multiset.add_cons, hstage]

theorem moves_dropped (hstage : outcome.stageId = queued.stageId) (hstate : outcome.state = .cancelled) :
    Moves queued.stageId (holdings.queue queued) (holdings.finish outcome)
      (·.dropped queued.bytes) where
  own counts metrics hcounts h := by
    obtain ⟨queueDepth, queuedBytes, hdepth, hbytes, hleft⟩ := h.leaveQueue hcounts
    rw [WorkMetrics.dropped, hdepth, ok_bind, hbytes, ok_bind]
    have hfinished : WorkMetrics.Accounts counts (holdings.finish outcome) _ :=
      hleft.finish (by rw [hstage, hcounts])
    rw [hstate] at hfinished
    exact ⟨_, rfl, hfinished, rfl⟩
  others counts metrics hcounts h :=
    (WorkMetrics.Accounts.finish_iff (by rw [hstage, hcounts])).mpr
      ((WorkMetrics.Accounts.queue_iff hcounts).mp h)
  stageIds := by
    simp only [Holdings.stageIds, Holdings.queue, Holdings.finish, Multiset.map_cons,
      Multiset.cons_add, Multiset.add_cons, hstage]

end Moves

/-- The same for a change that cannot fail and may come with a new stage. -/
structure Enters (stageId : String) (before after : Holdings)
    (change : WorkMetrics → WorkMetrics) (backpressure : Nat) : Prop where
  own : ∀ (counts : String → Bool) (metrics : WorkMetrics), counts stageId = true →
    metrics.Accounts counts before → (change metrics).Accounts counts after
  others : ∀ (counts : String → Bool) (metrics : WorkMetrics), counts stageId = false →
    metrics.Accounts counts before → metrics.Accounts counts after
  stageIds : ∀ other ∈ after.stageIds, other = stageId ∨ other ∈ before.stageIds
  time : ∀ metrics, (change metrics).backpressureTime = metrics.backpressureTime + backpressure

theorem enters_waited (stageId : String) (holdings : Holdings) (backpressure : Nat) :
    Enters stageId holdings holdings (·.waited backpressure) backpressure where
  own _ _ _ h := h.waited backpressure
  others _ _ _ h := h
  stageIds _ hother := Or.inr hother
  time _ := rfl

theorem enters_queued (queued : QueuedUnit) (holdings : Holdings) :
    Enters queued.stageId holdings (holdings.queue queued) (·.queued queued.bytes) 0 where
  own _ _ hcounts h := h.queue hcounts
  others _ _ hcounts h := (WorkMetrics.Accounts.queue_iff hcounts).mpr h
  stageIds other hother := by
    simpa only [Holdings.stageIds, Holdings.queue, Multiset.map_cons, Multiset.cons_add,
      Multiset.mem_cons] using hother
  time _ := rfl

/-! ## The table of the stages -/

namespace StageTable

variable {table : StageTable} {stageId : String} {before after : Holdings}

def stageIds (table : StageTable) : List String :=
  table.map StageMetrics.stageId

def Accounts (table : StageTable) (holdings : Holdings) : Prop :=
  ∀ stage ∈ table, stage.toWorkMetrics.Accounts (· == stage.stageId) holdings

def backpressureTime (table : StageTable) : Nat :=
  (table.map fun stage => stage.backpressureTime).sum

/-- A stage that has been entered takes the change, and the others stay right. -/
theorem Accounts.changeAt {change : WorkMetrics → Except Fault WorkMetrics}
    (hmoves : Moves stageId before after change) (h : table.Accounts before)
    (hentered : stageId ∈ table.stageIds) (hnodup : table.stageIds.Nodup) :
    ∃ changed, table.changeAt stageId change = .ok changed ∧ changed.Accounts after ∧
      changed.stageIds = table.stageIds ∧ changed.backpressureTime = table.backpressureTime := by
  induction table with
  | nil => cases hentered
  | cons stage rest ih =>
    obtain ⟨hstage, hrest⟩ := List.forall_mem_cons.mp h
    obtain ⟨hfresh, hnodup⟩ := List.nodup_cons.mp hnodup
    rw [StageTable.changeAt]
    split
    · next hkey =>
      obtain ⟨changed, hchange, haccounts, htime⟩ :=
        hmoves.own (· == stage.stageId) _ (beq_iff_eq.mpr hkey) hstage
      rw [hchange, ok_bind]
      refine ⟨_, rfl, List.forall_mem_cons.mpr ⟨haccounts, fun other hother => ?_⟩, rfl, ?_⟩
      · have hne : stageId ≠ other.stageId := by
          rw [hkey]
          exact (ne_of_mem_of_not_mem (List.mem_map_of_mem hother) hfresh).symm
        exact hmoves.others (· == other.stageId) _ (beq_false_of_ne hne) (hrest other hother)
      · simp only [backpressureTime, List.map_cons, List.sum_cons, htime]
    · next hkey =>
      have hmem : stageId ∈ stageIds rest := by
        cases hentered with
        | head => exact absurd rfl hkey
        | tail _ hmem => exact hmem
      obtain ⟨changed, hchange, haccounts, hids, htime⟩ := ih hrest hmem hnodup
      rw [hchange, ok_bind]
      refine ⟨_, rfl, List.forall_mem_cons.mpr ⟨?_, haccounts⟩, ?_, ?_⟩
      · exact hmoves.others (· == stage.stageId) _ (beq_false_of_ne hkey) hstage
      · exact congrArg (stage.stageId :: ·) hids
      · exact congrArg (stage.backpressureTime + ·) htime

/-- The keys of the map, in order. -/
def Sorted (table : StageTable) : Prop :=
  table.stageIds.Pairwise (· < ·)

theorem Sorted.nodup (h : table.Sorted) : table.stageIds.Nodup :=
  h.imp ne_of_lt

theorem mem_stageIds_enter (stageId other : String) (change : WorkMetrics → WorkMetrics)
    (table : StageTable) : other ∈ (table.enter stageId change).stageIds ↔
      other = stageId ∨ other ∈ table.stageIds := by
  induction table with
  | nil => simp [enter, stageIds]
  | cons stage rest ih =>
    rw [enter]
    split
    · next hkey =>
      rw [hkey]
      simp [stageIds]
    split
    · simp [stageIds]
    · have hbehind : other ∈ stageIds (stage :: rest) ↔ other = stage.stageId ∨ other ∈ stageIds rest :=
        List.mem_cons
      rw [hbehind, or_left_comm, ← ih]
      exact List.mem_cons

theorem Sorted.enter (h : table.Sorted) (stageId : String) (change : WorkMetrics → WorkMetrics) :
    (table.enter stageId change).Sorted := by
  induction table with
  | nil => exact List.pairwise_singleton _ _
  | cons stage rest ih =>
    obtain ⟨hfirst, hrest⟩ := List.pairwise_cons.mp h
    rw [StageTable.enter]
    split
    · exact h
    split
    · next hlt =>
      refine List.pairwise_cons.mpr ⟨fun other hother => ?_, h⟩
      cases hother with
      | head => exact hlt
      | tail _ hmem => exact hlt.trans (hfirst other hmem)
    · next hne hnot =>
      refine List.pairwise_cons.mpr ⟨fun other hother => ?_, ih hrest⟩
      rcases (mem_stageIds_enter ..).mp hother with rfl | hmem
      · exact lt_of_le_of_ne (not_lt.mp hnot) (Ne.symm hne)
      · exact hfirst other hmem

/-- A stage takes the change, entered first where it is new, and the others stay right. -/
theorem Accounts.enter {change : WorkMetrics → WorkMetrics} {backpressure : Nat}
    (henters : Enters stageId before after change backpressure) (h : table.Accounts before)
    (hsorted : table.Sorted)
    (hnew : stageId ∉ table.stageIds → WorkMetrics.Accounts (· == stageId) before {}) :
    (table.enter stageId change).Accounts after ∧
      (table.enter stageId change).backpressureTime = table.backpressureTime + backpressure := by
  have hfresh (hnot : stageId ∉ table.stageIds) :
      (change {}).Accounts (· == stageId) after ∧ (change {}).backpressureTime = backpressure := by
    refine ⟨henters.own (· == stageId) _ (beq_self_eq_true _) (hnew hnot), ?_⟩
    rw [henters.time]
    exact Nat.zero_add _
  induction table with
  | nil =>
    obtain ⟨haccounts, htime⟩ := hfresh List.not_mem_nil
    exact ⟨List.forall_mem_singleton.mpr haccounts, htime.trans (Nat.zero_add _).symm⟩
  | cons stage rest ih =>
    obtain ⟨hstage, hrest⟩ := List.forall_mem_cons.mp h
    obtain ⟨hfirst, hsortedRest⟩ := List.pairwise_cons.mp hsorted
    have hothers (hnot : stageId ∉ stageIds (stage :: rest)) :
        ∀ other ∈ stage :: rest, other.toWorkMetrics.Accounts (· == other.stageId) after := by
      intro other hother
      have hne : stageId ≠ other.stageId := (ne_of_mem_of_not_mem (List.mem_map_of_mem hother) hnot).symm
      exact henters.others (· == other.stageId) _ (beq_false_of_ne hne) (h other hother)
    rw [StageTable.enter]
    split
    · next hkey =>
      have hnot : stageId ∉ stageIds rest := fun hmem => lt_irrefl _ (hkey ▸ hfirst stageId hmem)
      refine ⟨List.forall_mem_cons.mpr ⟨?_, fun other hother => ?_⟩, ?_⟩
      · exact henters.own (· == stage.stageId) _ (beq_iff_eq.mpr hkey) hstage
      · have hne : stageId ≠ other.stageId :=
          (ne_of_mem_of_not_mem (List.mem_map_of_mem hother) hnot).symm
        exact henters.others (· == other.stageId) _ (beq_false_of_ne hne) (hrest other hother)
      · simp only [backpressureTime, List.map_cons, List.sum_cons, henters.time]
        omega
    split
    · next hkey hlt =>
      have hnot : stageId ∉ stageIds (stage :: rest) := by
        intro hmem
        cases hmem with
        | head => exact hkey rfl
        | tail _ hmem => exact lt_asymm hlt (hfirst stageId hmem)
      obtain ⟨haccounts, htime⟩ := hfresh hnot
      refine ⟨List.forall_mem_cons.mpr ⟨haccounts, hothers hnot⟩, ?_⟩
      rw [backpressureTime, List.map_cons, List.sum_cons, ← backpressureTime]
      show (change {}).backpressureTime + _ = _
      rw [htime, Nat.add_comm]
    · next hkey hnot =>
      have hrestNot (hmem : stageId ∉ stageIds rest) : stageId ∉ stageIds (stage :: rest) :=
        fun hcons => (List.mem_cons.mp hcons).elim hkey hmem
      obtain ⟨haccounts, htime⟩ := ih hrest hsortedRest (fun hmem => hnew (hrestNot hmem))
        (fun hmem => hfresh (hrestNot hmem))
      refine ⟨List.forall_mem_cons.mpr ⟨?_, haccounts⟩, ?_⟩
      · exact henters.others (· == stage.stageId) _ (beq_false_of_ne hkey) hstage
      · rw [backpressureTime, List.map_cons, List.sum_cons, ← backpressureTime, htime,
          backpressureTime, backpressureTime, List.map_cons, List.sum_cons, Nat.add_assoc]

end StageTable

/-! ## The whole ledger -/

/-- The global metrics and the stages are right for what the scheduler holds. -/
structure Balanced (holdings : Holdings) (metrics : WorkMetrics) (table : StageTable) : Prop where
  total : metrics.Accounts (fun _ => true) holdings
  stages : table.Accounts holdings
  sorted : table.Sorted
  entered : ∀ stageId ∈ holdings.stageIds, stageId ∈ table.stageIds
  backpressureTime : metrics.backpressureTime = table.backpressureTime

namespace Balanced

variable {before after : Holdings} {metrics : WorkMetrics} {table : StageTable} {stageId : String}

theorem start : Balanced ⟨0, 0, 0⟩ {} [] where
  total := .empty fun _ hmem => absurd hmem (Multiset.notMem_zero _)
  stages := fun _ hmem => absurd hmem List.not_mem_nil
  sorted := List.Pairwise.nil
  entered _ hmem := absurd hmem (Multiset.notMem_zero _)
  backpressureTime := rfl

theorem moved {change : WorkMetrics → Except Fault WorkMetrics} (h : Balanced before metrics table)
    (hmoves : Moves stageId before after change) (hmem : stageId ∈ before.stageIds) :
    ∃ changed changedTable, change metrics = .ok changed ∧
      table.changeAt stageId change = .ok changedTable ∧ Balanced after changed changedTable := by
  obtain ⟨changed, hchange, htotal, htime⟩ := hmoves.own _ _ rfl h.total
  obtain ⟨changedTable, htable, hstages, hids, htableTime⟩ :=
    h.stages.changeAt hmoves (h.entered stageId hmem) h.sorted.nodup
  refine ⟨changed, changedTable, hchange, htable, htotal, hstages, ?_, ?_, ?_⟩
  · rw [StageTable.Sorted, hids]
    exact h.sorted
  · rw [hmoves.stageIds, hids]
    exact h.entered
  · rw [htime, htableTime, h.backpressureTime]

theorem enter {change : WorkMetrics → WorkMetrics} {backpressure : Nat}
    (h : Balanced before metrics table)
    (henters : Enters stageId before after change backpressure) :
    Balanced after (change metrics) (table.enter stageId change) := by
  have hnew (hnot : stageId ∉ table.stageIds) : WorkMetrics.Accounts (· == stageId) before {} :=
    .empty fun other hother => beq_false_of_ne fun heq => hnot (heq ▸ h.entered other hother)
  obtain ⟨hstages, htime⟩ := h.stages.enter henters h.sorted hnew
  refine ⟨henters.own _ _ rfl h.total, hstages, h.sorted.enter _ _, fun other hother => ?_, ?_⟩
  · rw [StageTable.mem_stageIds_enter]
    exact (henters.stageIds other hother).imp_right (h.entered other)
  · rw [henters.time, htime, h.backpressureTime]

end Balanced

/-! ## What the scheduler holds -/

def Worker.held : Worker → Multiset QueuedUnit
  | .running queued => {queued}
  | _ => 0

def queuedUnits (queues : Fin modalityCount → List QueuedUnit) : Multiset QueuedUnit :=
  ∑ index, (queues index : Multiset QueuedUnit)

def activeUnits {count : Nat} (workers : Fin count → Worker) : Multiset QueuedUnit :=
  ∑ worker, (workers worker).held

section Units

variable {queues : Fin modalityCount → List QueuedUnit} {index : Fin modalityCount}
  {queued : QueuedUnit} {rest : List QueuedUnit}

theorem queuedUnits_cons (h : queues index = queued :: rest) :
    queuedUnits queues = queued ::ₘ queuedUnits (Function.update queues index rest) := by
  have hsum := sum_update_add (fun units : List QueuedUnit => (units : Multiset QueuedUnit))
    queues index rest
  rw [h, ← Multiset.cons_coe, Multiset.add_cons, ← Multiset.cons_add] at hsum
  exact (add_right_cancel hsum).symm

theorem queuedUnits_append (queues : Fin modalityCount → List QueuedUnit) (index : Fin modalityCount)
    (queued : QueuedUnit) :
    queuedUnits (Function.update queues index (queues index ++ [queued])) =
      queued ::ₘ queuedUnits queues := by
  have hsum := sum_update_add (fun units : List QueuedUnit => (units : Multiset QueuedUnit))
    queues index (queues index ++ [queued])
  have happend : ((queues index ++ [queued] : List QueuedUnit) : Multiset QueuedUnit) =
      queued ::ₘ (queues index : Multiset QueuedUnit) :=
    Multiset.coe_eq_coe.mpr List.perm_append_comm
  rw [happend, Multiset.add_cons, ← Multiset.cons_add] at hsum
  exact add_right_cancel hsum

variable {count : Nat} {workers : Fin count → Worker} {worker : Fin count}

theorem activeUnits_running (h : workers worker = .waiting) (queued : QueuedUnit) :
    activeUnits (Function.update workers worker (.running queued)) =
      queued ::ₘ activeUnits workers := by
  have hsum := sum_update_add Worker.held workers worker (.running queued)
  rw [h] at hsum
  change _ + (0 : Multiset QueuedUnit) = _ + {queued} at hsum
  rw [add_zero, add_comm, Multiset.singleton_add] at hsum
  exact hsum

theorem activeUnits_waiting (h : workers worker = .running queued) :
    activeUnits workers =
      queued ::ₘ activeUnits (Function.update workers worker .waiting) := by
  have hsum := sum_update_add Worker.held workers worker .waiting
  rw [h] at hsum
  change _ + {queued} = _ + (0 : Multiset QueuedUnit) at hsum
  rw [add_zero, add_comm, Multiset.singleton_add] at hsum
  exact hsum.symm

theorem activeUnits_returned (h : workers worker = .waiting) :
    activeUnits (Function.update workers worker .returned) = activeUnits workers := by
  have hsum := sum_update_add Worker.held workers worker .returned
  rw [h] at hsum
  exact add_right_cancel hsum

end Units

/-! ## The tickets of the units -/

/-- What an outcome repeats of the unit it is about. -/
structure Ticket where
  submissionOrder : Nat
  unitId : String
  stageId : String
  modality : Modality
  deriving DecidableEq, Repr

def QueuedUnit.ticket (queued : QueuedUnit) : Ticket :=
  ⟨queued.submissionOrder, queued.unit.unitId, queued.unit.stageId, queued.unit.modality⟩

def WorkOutcome.ticket (outcome : WorkOutcome) : Ticket :=
  ⟨outcome.submissionOrder, outcome.unitId, outcome.stageId, outcome.modality⟩

def Holdings.tickets (holdings : Holdings) : Multiset Ticket :=
  holdings.queued.map QueuedUnit.ticket + holdings.active.map QueuedUnit.ticket +
    holdings.outcomes.map WorkOutcome.ticket

namespace Holdings

variable {holdings : Holdings} {queued : QueuedUnit} {outcome : WorkOutcome}

@[simp] theorem tickets_queue :
    (holdings.queue queued).tickets = queued.ticket ::ₘ holdings.tickets := by
  simp only [tickets, queue, Multiset.map_cons, Multiset.cons_add]

@[simp] theorem tickets_activate :
    (holdings.activate queued).tickets = queued.ticket ::ₘ holdings.tickets := by
  simp only [tickets, activate, Multiset.map_cons, Multiset.cons_add, Multiset.add_cons]

@[simp] theorem tickets_finish :
    (holdings.finish outcome).tickets = outcome.ticket ::ₘ holdings.tickets := by
  simp only [tickets, finish, Multiset.map_cons, Multiset.add_cons]

theorem mem_queue {other : QueuedUnit} :
    other ∈ (holdings.queue queued).queued ↔ other = queued ∨ other ∈ holdings.queued :=
  Multiset.mem_cons

theorem mem_activate {other : QueuedUnit} :
    other ∈ (holdings.activate queued).active ↔ other = queued ∨ other ∈ holdings.active :=
  Multiset.mem_cons

/-- The bytes of the units that are queued or active. -/
def bytes (holdings : Holdings) : Nat :=
  weigh QueuedUnit.bytes holdings.queued + weigh QueuedUnit.bytes holdings.active

@[simp] theorem bytes_queue : (holdings.queue queued).bytes = queued.bytes + holdings.bytes := by
  simp only [bytes, queue, weigh_cons, Nat.add_assoc]

@[simp] theorem bytes_activate :
    (holdings.activate queued).bytes = queued.bytes + holdings.bytes := by
  simp only [bytes, activate, weigh_cons]
  exact Nat.add_left_comm _ _ _

@[simp] theorem bytes_finish : (holdings.finish outcome).bytes = holdings.bytes :=
  rfl

end Holdings

/-! ## Moves of a unit -/

/-- A move from one holding to another of the same units that frees no more than it held. -/
structure Moved (before after : Holdings) : Prop where
  tickets : after.tickets = before.tickets
  bytes : after.bytes ≤ before.bytes
  queued : ∀ queued ∈ after.queued, queued ∈ before.queued
  active : ∀ queued ∈ after.active, queued ∈ before.queued ∨ queued ∈ before.active
  drained : before.queued = 0 ∧ before.active = 0 → after.queued = 0 ∧ after.active = 0

section Moves

variable {holdings : Holdings} {queued : QueuedUnit} {outcome : WorkOutcome}

theorem moved_selected : Moved (holdings.queue queued) (holdings.activate queued) where
  tickets := by rw [Holdings.tickets_activate, Holdings.tickets_queue]
  bytes := by rw [Holdings.bytes_activate, Holdings.bytes_queue]
  queued := fun other hother => Holdings.mem_queue.mpr (Or.inr hother)
  active := by
    intro other hother
    rcases Holdings.mem_activate.mp hother with rfl | hactive
    · exact Or.inl (Holdings.mem_queue.mpr (Or.inl rfl))
    · exact Or.inr hactive
  drained := fun h => absurd h.1 (Multiset.cons_ne_zero)

theorem moved_completed (h : outcome.ticket = queued.ticket) :
    Moved (holdings.activate queued) (holdings.finish outcome) where
  tickets := by rw [Holdings.tickets_activate, Holdings.tickets_finish, h]
  bytes := by
    rw [Holdings.bytes_activate, Holdings.bytes_finish]
    exact Nat.le_add_left _ _
  queued := fun _ hother => hother
  active := fun _ hother => Or.inr (Holdings.mem_activate.mpr (Or.inr hother))
  drained := fun h => absurd h.2 (Multiset.cons_ne_zero)

theorem moved_dropped (h : outcome.ticket = queued.ticket) :
    Moved (holdings.queue queued) (holdings.finish outcome) where
  tickets := by rw [Holdings.tickets_queue, Holdings.tickets_finish, h]
  bytes := by
    rw [Holdings.bytes_queue, Holdings.bytes_finish]
    exact Nat.le_add_left _ _
  queued := fun other hother => Holdings.mem_queue.mpr (Or.inr hother)
  active := fun _ hother => Or.inr hother
  drained := fun h => absurd h.1 (Multiset.cons_ne_zero)

theorem stageId_mem_queue : queued.stageId ∈ (holdings.queue queued).stageIds := by
  simp only [Holdings.stageIds, Holdings.queue, Multiset.map_cons, Multiset.cons_add,
    Multiset.mem_cons, true_or]

theorem stageId_mem_activate : queued.stageId ∈ (holdings.activate queued).stageIds := by
  simp only [Holdings.stageIds, Holdings.activate, Multiset.map_cons, Multiset.cons_add,
    Multiset.add_cons, Multiset.mem_cons, true_or]

end Moves

end CartoSentry.Scheduler
