import CartoSentry.Scheduler.Accounting

set_option autoImplicit false

/-!
# The order of selection

Each queue is served in the order of submission, a queue that waits has its turn before any other
has two, a deterministic batch runs round by round, and after a cancellation nothing runs or is
accepted any more.
-/

namespace CartoSentry.Scheduler

open CartoSentry.Foundation

def QueuedUnit.isOf (index : Fin modalityCount) (queued : QueuedUnit) : Bool :=
  modalityIndex queued.unit.modality == index.val

/-- The units for this queue. -/
def unitsOf (index : Fin modalityCount) (units : List QueuedUnit) : List QueuedUnit :=
  units.filter (QueuedUnit.isOf index)

def selectedBy : Event → List QueuedUnit
  | .selected queued => [queued]
  | _ => []

namespace BoundedScheduler

variable {config : SchedulerConfig} {s s' : BoundedScheduler config} {event : Event}
  {log : List (Effect (BoundedScheduler config) Event)}

/-- The units that were given to a worker, in the order of their selection. -/
def selectedIn (log : List (Effect (BoundedScheduler config) Event)) : List QueuedUnit :=
  log.flatMap fun effect => selectedBy effect.label

theorem selectedIn_append (log later : List (Effect (BoundedScheduler config) Event)) :
    selectedIn (log ++ later) = selectedIn log ++ selectedIn later :=
  List.flatMap_append

theorem selectedIn_snoc (log : List (Effect (BoundedScheduler config) Event))
    (s : BoundedScheduler config) (event : Event) :
    selectedIn (log ++ [⟨s, event⟩]) = selectedIn log ++ selectedBy event := by
  rw [selectedIn_append]
  exact congrArg _ (List.flatMap_singleton _ _)

theorem acceptedBy_of_keepsQueues (h : event.keepsQueues = true) : acceptedBy event = [] := by
  cases event with
  | accepted => cases h
  | _ => rfl

theorem selectedBy_of_keepsQueues (h : event.keepsQueues = true) : selectedBy event = [] := by
  cases event with
  | selected => cases h
  | _ => rfl

@[simp] theorem acceptedBy_accepted (queued : QueuedUnit) :
    acceptedBy (.accepted queued) = [queued] := rfl

@[simp] theorem acceptedBy_selected (queued : QueuedUnit) : acceptedBy (.selected queued) = [] := rfl

@[simp] theorem acceptedBy_cancelRequested : acceptedBy .cancelRequested = [] := rfl

@[simp] theorem selectedBy_selected (queued : QueuedUnit) :
    selectedBy (.selected queued) = [queued] := rfl

@[simp] theorem selectedBy_accepted (queued : QueuedUnit) : selectedBy (.accepted queued) = [] := rfl

@[simp] theorem selectedBy_cancelRequested : selectedBy .cancelRequested = [] := rfl

/-! ## In the order of submission -/

/-- The units accepted for a queue are those taken from it, those that wait in it and, after a
cancellation, those dropped from it. -/
structure ServedInOrder (log : List (Effect (BoundedScheduler config) Event))
    (s : BoundedScheduler config) : Prop where
  split : ∀ index, ∃ dropped, unitsOf index (acceptedIn log) =
    unitsOf index (selectedIn log) ++ s.queues index ++ dropped ∧
      (s.cancellationRequested = false → dropped = [])
  emptied : s.cancellationRequested = true → s.accepting = false ∧ ∀ index, s.queues index = []

theorem ServedInOrder.own (h : ServedInOrder log s) {index : Fin modalityCount}
    {queued : QueuedUnit} (hqueued : queued ∈ s.queues index) :
    queued.isOf index = true := by
  obtain ⟨dropped, hsplit, -⟩ := h.split index
  have hmem : queued ∈ unitsOf index (acceptedIn log) := by
    rw [hsplit]
    exact List.mem_append_left _ (List.mem_append_right _ hqueued)
  exact (List.mem_filter.mp hmem).2

theorem isOf_iff {index : Fin modalityCount} {queued : QueuedUnit} :
    queued.isOf index = true ↔ modalityIndex queued.unit.modality = index.val :=
  beq_iff_eq

theorem not_isOf {index other : Fin modalityCount} {queued : QueuedUnit}
    (h : queued.isOf index = true) (hother : other ≠ index) : queued.isOf other = false := by
  apply Bool.eq_false_iff.mpr
  intro hsame
  exact hother (Fin.ext ((isOf_iff.mp hsame).symm.trans (isOf_iff.mp h)))

theorem unitsOf_snoc (index : Fin modalityCount) (units : List QueuedUnit) (queued : QueuedUnit) :
    unitsOf index (units ++ [queued]) =
      unitsOf index units ++ if queued.isOf index then [queued] else [] := by
  unfold unitsOf
  rw [List.filter_append, List.filter_singleton]
  cases queued.isOf index <;> rfl

theorem ServedInOrder.step (h : ServedInOrder log s) (hcase : StepCase s event s') :
    ServedInOrder (log ++ [⟨s, event⟩]) s' := by
  cases hcase with
  | kept event s' hevent hqueues hcursor hflags =>
    constructor
    · intro index
      rw [acceptedIn_snoc, selectedIn_snoc, acceptedBy_of_keepsQueues hevent,
        selectedBy_of_keepsQueues hevent, List.append_nil, List.append_nil, hqueues, hflags.requested]
      exact h.split index
    · rw [hflags.requested, hqueues]
      exact fun hrequested => ⟨hflags.closed (h.emptied hrequested).1, (h.emptied hrequested).2⟩
  | accepted queued index s' hindex haccepting hrequested hqueues hcursor hflags =>
    have hown : queued.isOf index = true := isOf_iff.mpr hindex.symm
    constructor
    · intro other
      obtain ⟨dropped, hsplit, hdropped⟩ := h.split other
      refine ⟨[], ?_, fun _ => rfl⟩
      rw [hdropped hrequested, List.append_nil] at hsplit
      rw [acceptedIn_snoc, selectedIn_snoc, acceptedBy_accepted, selectedBy_accepted, List.append_nil,
        unitsOf_snoc, hsplit, hqueues, List.append_nil, List.append_assoc]
      by_cases hother : other = index
      · rw [hother, if_pos hown, Function.update_self]
      · rw [if_neg (Bool.eq_false_iff.mp (not_isOf hown hother)), List.append_nil,
          Function.update_of_ne hother]
    · rw [hflags.requested, hrequested]
      exact fun hnot => absurd hnot Bool.false_ne_true
  | cancelled s' hcase hcursor hworkers =>
    rcases hcase with ⟨rfl, hrequested⟩ | hcancelled
    · constructor
      · intro index
        rw [acceptedIn_snoc, selectedIn_snoc, acceptedBy_cancelRequested,
          selectedBy_cancelRequested, List.append_nil, List.append_nil]
        exact h.split index
      · exact h.emptied
    · constructor
      · intro index
        obtain ⟨dropped, hsplit, -⟩ := h.split index
        refine ⟨s.queues index ++ dropped, ?_, fun hnot => ?_⟩
        · rw [acceptedIn_snoc, selectedIn_snoc, acceptedBy_cancelRequested,
            selectedBy_cancelRequested, List.append_nil, List.append_nil, hsplit,
            hcancelled.empty index, List.append_nil, List.append_assoc]
        · rw [hcancelled.requested] at hnot
          cases hnot
      · exact fun _ => ⟨hcancelled.closed, hcancelled.empty⟩
  | selected worker index queued rest s' hproceed hcallers hselects =>
    have hown : queued.isOf index = true := by
      apply h.own
      rw [hselects.front]
      exact List.mem_cons_self
    constructor
    · intro other
      obtain ⟨dropped, hsplit, hdropped⟩ := h.split other
      rw [hcallers.cancellationRequested]
      refine ⟨dropped, ?_, hdropped⟩
      rw [acceptedIn_snoc, selectedIn_snoc, acceptedBy_selected, selectedBy_selected,
        List.append_nil, unitsOf_snoc, hsplit, hselects.queues]
      by_cases hother : other = index
      · rw [hother, if_pos hown, Function.update_self, hselects.front, List.append_assoc,
          List.append_assoc, List.append_assoc]
        rfl
      · rw [if_neg (Bool.eq_false_iff.mp (not_isOf hown hother)), List.append_nil,
          Function.update_of_ne hother]
    · rw [hcallers.cancellationRequested, hcallers.accepting]
      intro hrequested
      have hempty := (h.emptied hrequested).2 index
      rw [hselects.front] at hempty
      cases hempty

theorem servedInOrder_start {start : BoundedScheduler config} (h : construct config = .ok start) :
    ServedInOrder [] start := by
  unfold construct at h
  split_ifs at h
  cases h
  exact ⟨fun index => ⟨[], rfl, fun _ => rfl⟩, fun hnot => absurd hnot Bool.false_ne_true⟩

/-- What is proved of every step holds of every run. -/
theorem Run.induct {J : List (Effect (BoundedScheduler config) Event) → BoundedScheduler config → Prop}
    (hstart : ∀ start, construct config = .ok start → J [] start)
    (hstep : ∀ log s event s', Run config log s → J log s → StepCase s event s' →
      J (log ++ [⟨s, event⟩]) s') (h : Run config log s) : J log s := by
  obtain ⟨start, hconstruct, hhistory⟩ := h
  refine hhistory.induct (J := J) (hstart start hconstruct) ?_
  intro log s event s' hlog hJ hperformed
  have hrun : Run config log s := ⟨start, hconstruct, hlog⟩
  exact hstep log s event s' hrun hJ (hrun.accounted.stepCase hperformed)

theorem Run.servedInOrder (h : Run config log s) : ServedInOrder log s :=
  h.induct (fun _ hconstruct => servedInOrder_start hconstruct)
    fun _ _ _ _ _ hserved hcase => hserved.step hcase

/-- After a cancellation a step neither accepts nor selects. -/
theorem Cancelled.step (h : Cancelled s) (hcase : StepCase s event s') :
    Cancelled s' ∧ acceptedBy event = [] ∧ selectedBy event = [] := by
  cases hcase with
  | kept event s' hevent hqueues hcursor hflags =>
    refine ⟨⟨hflags.closed h.closed, hflags.requested.trans h.requested, ?_⟩,
      acceptedBy_of_keepsQueues hevent, selectedBy_of_keepsQueues hevent⟩
    rw [hqueues]
    exact h.empty
  | accepted queued index s' hindex haccepting hrequested hqueues hcursor hflags =>
    rw [h.closed] at haccepting
    cases haccepting
  | cancelled s' hcase hcursor hworkers =>
    rcases hcase with ⟨rfl, -⟩ | hcancelled
    · exact ⟨h, rfl, rfl⟩
    · exact ⟨hcancelled, rfl, rfl⟩
  | selected worker index queued rest s' hproceed hcallers hselects =>
    have hempty := h.empty index
    rw [hselects.front] at hempty
    cases hempty

theorem Run.after_cancel {earlier later : List (Effect (BoundedScheduler config) Event)}
    {before : BoundedScheduler config} (h : Run config log s)
    (hlog : log = earlier ++ ⟨before, .cancelRequested⟩ :: later) :
    Cancelled s ∧ acceptedIn later = [] ∧ selectedIn later = [] := by
  obtain ⟨start, hconstruct, hhistory⟩ := h
  rw [hlog] at hhistory
  refine hhistory.since (J := fun later s =>
    Cancelled s ∧ acceptedIn later = [] ∧ selectedIn later = []) ?_ ?_
  · intro s' hearlier hstep
    have hrun : Run config earlier before := ⟨start, hconstruct, hearlier⟩
    cases hrun.accounted.stepCase hstep with
    | kept _ _ hevent => cases hevent
    | cancelled _ hcase =>
      rcases hcase with ⟨rfl, hrequested⟩ | hcancelled
      · obtain ⟨hclosed, hempty⟩ := hrun.servedInOrder.emptied hrequested
        exact ⟨⟨hclosed, hrequested, hempty⟩, rfl, rfl⟩
      · exact ⟨hcancelled, rfl, rfl⟩
  · intro later s event s' hlater hcancelled hstep
    have hrun : Run config (earlier ++ ⟨before, .cancelRequested⟩ :: later) s :=
      ⟨start, hconstruct, hlater⟩
    obtain ⟨hafter, haccepts, hselects⟩ := hcancelled.1.step (hrun.accounted.stepCase hstep)
    rw [acceptedIn_snoc, selectedIn_snoc, haccepts, hselects, List.append_nil, List.append_nil]
    exact ⟨hafter, hcancelled.2⟩

theorem unitsOf_sublist (index : Fin modalityCount) (units : List QueuedUnit) :
    (unitsOf index units).Sublist units :=
  List.filter_sublist

/-- **Every queue is first in, first out.**  What was selected of a modality is the beginning of
what was accepted of it, so the numbers ascend; without a cancellation what remains is the queue;
and once a cancellation is over nothing is accepted or selected any more. -/
theorem selection_in_submission_order (h : Run config log s) :
    (∀ index, unitsOf index (selectedIn log) <+: unitsOf index (acceptedIn log) ∧
      (unitsOf index (selectedIn log)).Pairwise (fun earlier later =>
        earlier.submissionOrder < later.submissionOrder) ∧
      (s.cancellationRequested = false →
        unitsOf index (selectedIn log) ++ s.queues index = unitsOf index (acceptedIn log))) ∧
    ∀ earlier before later, log = earlier ++ ⟨before, .cancelRequested⟩ :: later →
      acceptedIn later = [] ∧ selectedIn later = [] := by
  have hserved := h.servedInOrder
  constructor
  · intro index
    obtain ⟨dropped, hsplit, hdropped⟩ := hserved.split index
    have hselected : unitsOf index (selectedIn log) <+: unitsOf index (acceptedIn log) := by
      rw [hsplit, List.append_assoc]
      exact List.prefix_append _ _
    refine ⟨hselected, ?_, fun hopen => ?_⟩
    · have hnumbers : (acceptedIn log).Pairwise fun earlier later =>
          earlier.submissionOrder < later.submissionOrder := by
        rw [← List.pairwise_map (f := QueuedUnit.submissionOrder), h.accounted.orders]
        exact List.pairwise_lt_range
      exact hnumbers.sublist (hselected.sublist.trans (unitsOf_sublist index _))
    · rw [hsplit, hdropped hopen, List.append_nil]
  · intro earlier before later hlog
    exact (h.after_cancel hlog).2

/-! ## No modality starves -/

/-- While one queue waits without its turn, the cursor only takes queues nearer than it and leaves
them behind it. -/
structure Passed (waiting : Fin modalityCount) (window : List QueuedUnit)
    (cursor : Fin modalityCount) : Prop where
  length : window.length + Rotation.turnsTo cursor waiting < modalityCount
  behind : ∀ queued ∈ window, ∃ index, queued.isOf index = true ∧
    Rotation.turnsTo cursor waiting < Rotation.turnsTo cursor index
  distinct : (window.map fun queued => modalityIndex queued.unit.modality).Nodup

theorem Passed.start (waiting cursor : Fin modalityCount) : Passed waiting [] cursor where
  length := by
    rw [List.length_nil, Nat.zero_add]
    exact Rotation.turnsTo_lt cursor waiting
  behind := fun _ hqueued => absurd hqueued List.not_mem_nil
  distinct := List.nodup_nil

theorem Passed.turn {waiting cursor index : Fin modalityCount} {window : List QueuedUnit}
    {queued : QueuedUnit} (h : Passed waiting window cursor) (hown : queued.isOf index = true)
    (hnearer : Rotation.turnsTo cursor index < Rotation.turnsTo cursor waiting) :
    Passed waiting (window ++ [queued]) (index + 1) := by
  have hwaiting := Rotation.turnsTo_after hnearer
  have hother : waiting ≠ index := by
    rintro rfl
    exact Nat.lt_irrefl _ hnearer
  constructor
  · have hlength := h.length
    rw [List.length_append, List.length_singleton, hwaiting]
    omega
  · intro earlier hearlier
    rcases List.mem_append.mp hearlier with hmem | hlast
    · obtain ⟨place, hplace, hbehind⟩ := h.behind earlier hmem
      refine ⟨place, hplace, ?_⟩
      rw [hwaiting, Rotation.turnsTo_after (hnearer.trans hbehind)]
      omega
    · rw [List.mem_singleton.mp hlast]
      exact ⟨index, hown, Rotation.turnsTo_behind hother⟩
  · rw [List.map_append, List.map_singleton, List.nodup_append]
    refine ⟨h.distinct, List.nodup_singleton _, ?_⟩
    intro modality hmodality other hlast hsame
    obtain ⟨earlier, hearlier, rfl⟩ := List.mem_map.mp hmodality
    obtain ⟨place, hplace, hbehind⟩ := h.behind earlier hearlier
    rw [List.mem_singleton.mp hlast, isOf_iff.mp hplace, isOf_iff.mp hown] at hsame
    rw [Fin.ext hsame] at hbehind
    exact absurd hbehind (Nat.not_lt_of_lt hnearer)

theorem Passed.step {waiting : Fin modalityCount} {window : List QueuedUnit}
    (h : Passed waiting window s.nextModality) (hserved : ServedInOrder log s)
    (hwaits : s.queues waiting ≠ []) (hcase : StepCase s event s')
    (hpassed : unitsOf waiting (selectedBy event) = []) :
    Passed waiting (window ++ selectedBy event) s'.nextModality := by
  cases hcase with
  | kept event s' hevent hqueues hcursor hflags =>
    rw [selectedBy_of_keepsQueues hevent, List.append_nil, hcursor]
    exact h
  | accepted queued index s' hindex haccepting hrequested hqueues hcursor hflags =>
    rw [selectedBy_accepted, List.append_nil, hcursor]
    exact h
  | cancelled s' hcase hcursor hworkers =>
    rw [selectedBy_cancelRequested, List.append_nil, hcursor]
    exact h
  | selected worker index queued rest s' hproceed hcallers hselects =>
    have hown : queued.isOf index = true := by
      apply hserved.own
      rw [hselects.front]
      exact List.mem_cons_self
    have hother : index ≠ waiting := by
      rintro rfl
      rw [selectedBy_selected, unitsOf, List.filter_singleton, hown] at hpassed
      cases hpassed
    have hturn : Rotation.turnsTo s.nextModality index ≤ Rotation.turnsTo s.nextModality waiting := by
      apply (Rotation.nextTurn_eq_some hselects.turn).2
      rw [Bool.not_eq_true', List.isEmpty_eq_false_iff]
      exact hwaits
    have hnearer := lt_of_le_of_ne hturn fun hsame => hother (Rotation.eq_of_turnsTo_eq hsame)
    rw [hselects.nextModality]
    exact h.turn hown hnearer

/-- **No modality starves.**  While a queue is never empty and nothing is selected from it, the
selections are of other modalities, each at most once: before any modality has a second turn the
waiting one has had its own. -/
theorem waiting_modality_has_its_turn {earlier window : List (Effect (BoundedScheduler config) Event)}
    (h : Run config (earlier ++ window) s) (waiting : Fin modalityCount)
    (hwaits : ∀ effect ∈ window, effect.before.queues waiting ≠ [])
    (hpassed : unitsOf waiting (selectedIn window) = []) :
    (selectedIn window).length < modalityCount ∧
      ((selectedIn window).map fun queued => modalityIndex queued.unit.modality).Nodup := by
  have hinvariant : ∀ log s, Run config log s → ∀ earlier window, log = earlier ++ window →
      (∀ effect ∈ window, effect.before.queues waiting ≠ []) →
      unitsOf waiting (selectedIn window) = [] →
      Passed waiting (selectedIn window) s.nextModality := by
    intro log s hrun
    refine hrun.induct (J := fun log s => ∀ earlier window, log = earlier ++ window →
      (∀ effect ∈ window, effect.before.queues waiting ≠ []) →
      unitsOf waiting (selectedIn window) = [] →
      Passed waiting (selectedIn window) s.nextModality) ?_ ?_
    · intro start _ earlier window hlog _ _
      obtain ⟨-, rfl⟩ := List.append_eq_nil_iff.mp hlog.symm
      exact Passed.start _ _
    · intro log s event s' hrun ih hcase earlier window hlog hwaits hpassed
      rcases List.eq_nil_or_concat window with rfl | ⟨init, last, rfl⟩
      · exact Passed.start _ _
      · rw [List.concat_eq_append, ← List.append_assoc] at hlog
        obtain ⟨rfl, hlast⟩ := List.append_inj' hlog rfl
        cases hlast
        rw [List.concat_eq_append] at hwaits hpassed ⊢
        rw [selectedIn_snoc] at hpassed ⊢
        unfold unitsOf at hpassed
        rw [List.filter_append] at hpassed
        obtain ⟨hinit, hlast⟩ := List.append_eq_nil_iff.mp hpassed
        have hbefore := ih earlier init rfl
          (fun effect heffect => hwaits effect (List.mem_append_left _ heffect)) hinit
        have hwaiting := hwaits _ (List.mem_append_right _ (List.mem_singleton_self _))
        exact hbefore.step hrun.servedInOrder hwaiting hcase hlast
  have hend := hinvariant _ s h earlier window rfl hwaits hpassed
  exact ⟨Nat.lt_of_le_of_lt (Nat.le_add_right _ _) hend.length, hend.distinct⟩

/-! ## A deterministic batch -/

/-- In deterministic mode the workers begin when the scheduler is closed, and serve the accepted
units round by round. -/
structure BatchServed (log : List (Effect (BoundedScheduler config) Event))
    (s : BoundedScheduler config) : Prop where
  stopped : s.stopRequested = true → s.cancellationRequested = true
  unserved : s.cancellationRequested = false → s.accepting = true →
    selectedIn log = [] ∧ s.nextModality = 0
  served : s.cancellationRequested = false → ∃ visits, Rotation.Served
    (fun index => unitsOf index (acceptedIn log)) visits s.nextModality s.queues (selectedIn log)

theorem batchServed_start {start : BoundedScheduler config} (h : construct config = .ok start) :
    BatchServed [] start := by
  unfold construct at h
  split_ifs at h
  cases h
  exact ⟨fun hnot => absurd hnot Bool.false_ne_true, fun _ _ => ⟨rfl, rfl⟩,
    fun _ => ⟨0, Rotation.Served.start _⟩⟩

theorem BatchServed.step (h : BatchServed log s) (hdeterministic : config.deterministic = true)
    (hserved : ServedInOrder (log ++ [⟨s, event⟩]) s') (hcase : StepCase s event s') :
    BatchServed (log ++ [⟨s, event⟩]) s' := by
  cases hcase with
  | kept event s' hevent hqueues hcursor hflags =>
    have haccepted : acceptedIn (log ++ [⟨s, event⟩]) = acceptedIn log := by
      rw [acceptedIn_snoc, acceptedBy_of_keepsQueues hevent, List.append_nil]
    have hselected : selectedIn (log ++ [⟨s, event⟩]) = selectedIn log := by
      rw [selectedIn_snoc, selectedBy_of_keepsQueues hevent, List.append_nil]
    constructor
    · rw [hflags.stopRequested, hflags.requested]
      exact h.stopped
    · rw [hflags.requested, hselected, hcursor]
      intro hopen haccepting
      apply h.unserved hopen
      by_contra hclosed
      rw [hflags.closed (Bool.eq_false_iff.mpr hclosed)] at haccepting
      cases haccepting
    · rw [hflags.requested, haccepted, hselected, hcursor, hqueues]
      exact h.served
  | accepted queued index s' hindex haccepting hrequested hqueues hcursor hflags =>
    obtain ⟨hnothing, hfirst⟩ := h.unserved hrequested haccepting
    have hselected : selectedIn (log ++ [⟨s, .accepted queued⟩]) = [] := by
      rw [selectedIn_snoc, hnothing]
      rfl
    constructor
    · rw [hflags.stopRequested, hflags.requested]
      exact h.stopped
    · exact fun _ _ => ⟨hselected, hcursor.trans hfirst⟩
    · intro hopen
      have hwaiting : s'.queues =
          fun index => unitsOf index (acceptedIn (log ++ [⟨s, .accepted queued⟩])) := by
        funext other
        obtain ⟨dropped, hsplit, hdropped⟩ := hserved.split other
        rw [hsplit, hselected, hdropped hopen, List.append_nil]
        rfl
      rw [hselected, hcursor, hfirst, hwaiting]
      exact ⟨0, Rotation.Served.start _⟩
  | cancelled s' hcase hcursor hworkers =>
    have hrequested : s'.cancellationRequested = true := by
      rcases hcase with ⟨rfl, hrequested⟩ | hcancelled
      · exact hrequested
      · exact hcancelled.requested
    have hnot {P : Prop} (hopen : s'.cancellationRequested = false) : P := by
      rw [hrequested] at hopen
      cases hopen
    exact ⟨fun _ => hrequested, fun hopen => hnot hopen, fun hopen => hnot hopen⟩
  | selected worker index queued rest s' hproceed hcallers hselects =>
    have haccepted : acceptedIn (log ++ [⟨s, .selected queued⟩]) = acceptedIn log := by
      rw [acceptedIn_snoc, acceptedBy_selected, List.append_nil]
    constructor
    · rw [hcallers.stopRequested, hcallers.cancellationRequested]
      exact h.stopped
    · intro hopen haccepting
      rw [hcallers.cancellationRequested] at hopen
      rw [hcallers.accepting] at haccepting
      -- a worker of an open batch would have been stopped
      unfold workerMayProceed at hproceed
      rw [haccepting, hdeterministic] at hproceed
      have hstop : s.stopRequested = true := by simpa using hproceed
      rw [h.stopped hstop] at hopen
      cases hopen
    · rw [hcallers.cancellationRequested, haccepted, selectedIn_snoc, hselects.queues,
        hselects.nextModality]
      intro hopen
      obtain ⟨visits, hvisits⟩ := h.served hopen
      exact ⟨_, hvisits.step hselects.turn hselects.front⟩

theorem Run.batchServed (h : Run config log s) (hdeterministic : config.deterministic = true) :
    BatchServed log s :=
  h.induct (J := BatchServed) (fun _ hconstruct => batchServed_start hconstruct)
    fun _ _ _ _ hrun hbatch hcase =>
      hbatch.step hdeterministic (hrun.servedInOrder.step hcase) hcase

/-- **A deterministic batch runs round by round.**  Once its queues are empty without a cancellation,
the units ran in the order of the rounds over the modalities, whatever the interleaving was. -/
theorem deterministic_batch_in_rounds (h : Run config log s)
    (hdeterministic : config.deterministic = true) (hopen : s.cancellationRequested = false)
    (hempty : ∀ index, s.queues index = []) :
    selectedIn log = Rotation.roundRobin fun index => unitsOf index (acceptedIn log) := by
  obtain ⟨visits, hvisits⟩ := (h.batchServed hdeterministic).served hopen
  exact hvisits.finished hempty

/-! ## Three units of two modalities -/

def batchConfig : SchedulerConfig where
  workerCount := 3
  residentByteBudget := 20
  deterministic := true

def batchWorker : Fin batchConfig.threadCount :=
  ⟨0, Nat.zero_lt_one⟩

/-- Two units of one modality and one of another are submitted and run. -/
def batchActions : List (Action batchConfig) :=
  [.submit (sampleUnit "first" .lidar) 0, .submit (sampleUnit "second" .lidar) 0,
    .submit (sampleUnit "third" .imu) 0, .close, .workerTurn batchWorker,
    .workerComplete batchWorker .exception, .workerTurn batchWorker,
    .workerComplete batchWorker (.value none), .workerTurn batchWorker]

theorem batch_runs : ∃ log s, Run batchConfig log s ∧ s.cancellationRequested = false ∧
    s.hasQueuedLocked = false ∧
    (selectedIn log).map (fun queued => queued.unit.unitId) = ["third", "first", "second"] := by
  have hends : (follow ({} : BoundedScheduler batchConfig) batchActions).map (fun run =>
      (run.2.cancellationRequested, run.2.hasQueuedLocked,
        (selectedIn run.1).map fun queued => queued.unit.unitId)) =
      some (false, false, ["third", "first", "second"]) := by decide +kernel
  obtain ⟨⟨log, s⟩, hfollow, hends⟩ := Option.map_eq_some_iff.mp hends
  exact ⟨log, s, ⟨{}, rfl, history_of_follow .nil hfollow⟩, congrArg Prod.fst hends,
    congrArg (fun ends => ends.2.1) hends, congrArg (fun ends => ends.2.2) hends⟩

theorem selection_in_submission_order_batch : ∃ log s, Run batchConfig log s ∧
    selectedIn log ≠ [] ∧
    ∀ index, unitsOf index (selectedIn log) ++ s.queues index = unitsOf index (acceptedIn log) := by
  obtain ⟨log, s, hrun, hopen, -, hselected⟩ := batch_runs
  refine ⟨log, s, hrun, fun hnone => ?_, fun index => ?_⟩
  · rw [hnone] at hselected
    cases hselected
  · exact ((selection_in_submission_order hrun).1 index).2.2 hopen

theorem deterministic_batch_in_rounds_batch : ∃ log s, Run batchConfig log s ∧
    (selectedIn log).map (fun queued => queued.unit.unitId) = ["third", "first", "second"] ∧
    selectedIn log = Rotation.roundRobin fun index => unitsOf index (acceptedIn log) := by
  obtain ⟨log, s, hrun, hopen, hdone, hselected⟩ := batch_runs
  have hempty : ∀ index, s.queues index = [] := by
    intro index
    by_contra hwaiting
    rw [hasQueuedLocked_iff.mpr ⟨index, hwaiting⟩] at hdone
    cases hdone
  exact ⟨log, s, hrun, hselected, deterministic_batch_in_rounds hrun rfl hopen hempty⟩

/-- One unit of another modality is selected while two units wait. -/
theorem waiting_modality_has_its_turn_batch : ∃ earlier window s, Run batchConfig (earlier ++ window) s ∧
    (selectedIn window).length = 1 ∧ (selectedIn window).length < modalityCount := by
  have hends : (follow ({} : BoundedScheduler batchConfig) (batchActions.take 4)).bind (fun run =>
      (follow run.2 [.workerTurn batchWorker]).map fun served =>
        (served.1.all fun effect => !(effect.before.queues 3).isEmpty,
          (unitsOf 3 (selectedIn served.1)).isEmpty, (selectedIn served.1).length)) =
      some (true, true, 1) := by decide +kernel
  obtain ⟨⟨earlier, s⟩, hearlier, hends⟩ := Option.bind_eq_some_iff.mp hends
  obtain ⟨⟨window, s'⟩, hwindow, hends⟩ := Option.map_eq_some_iff.mp hends
  have hrun : Run batchConfig (earlier ++ window) s' :=
    ⟨{}, rfl, history_of_follow (history_of_follow .nil hearlier) hwindow⟩
  have hwaits : ∀ effect ∈ window, effect.before.queues 3 ≠ [] := by
    have hall := List.all_eq_true.mp (congrArg Prod.fst hends)
    intro effect heffect hempty
    have hwaiting := hall effect heffect
    rw [hempty] at hwaiting
    cases hwaiting
  have hpassed : unitsOf 3 (selectedIn window) = [] :=
    List.isEmpty_iff.mp (congrArg (fun ends => ends.2.1) hends)
  exact ⟨earlier, window, s', hrun, congrArg (fun ends => ends.2.2) hends,
    (waiting_modality_has_its_turn hrun 3 hwaits hpassed).1⟩

end BoundedScheduler

end CartoSentry.Scheduler
