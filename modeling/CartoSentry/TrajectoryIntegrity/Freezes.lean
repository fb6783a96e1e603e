import CartoSentry.Foundation.Stretches
import CartoSentry.TrajectoryIntegrity.PositionSteps
import CartoSentry.TrajectoryIntegrity.RawFailures

set_option autoImplicit false

/-!
# Trajectory integrity: freezes

The frozen steps of the motion are joined over single steps that are not frozen.  So a
kept freeze is a run of frozen steps exactly as long as no such bridge lasts.
-/

namespace CartoSentry.TrajectoryIntegrity

open Artifacts (sortedBy sortedBy_perm sortedBy_of_pairwise)
open Contracts (Raised raiseIf raiseIf_eq_ok_iff)
open Foundation (Double bind_eq_ok_iff bind_unit_eq_ok_iff ok_bind Stretch InOrder nextTo Reached
  stretch_of_mem_splitBy exists_stretch_of_mem reached_of_isChain splitBy_congr)
open Trajectory (Vector3 FloatLibrary NumericLibrary ReferenceSample TrajectoryGateParameters
  ContinuousReferenceTrajectory timeAt timeAt_strict timeAt_mono)

/-! ## Frozen steps -/

section Frozen

variable (library : FloatLibrary) (profile : TrajectoryIntegrityProfile)
  (source : List ReferenceSample)

/-- The step from this sample to the next is judged, and frozen. -/
def frozenStep (index : Nat) : Bool :=
  (motionAt library profile source index).any fun motion => motion.frozen library profile

def FrozenRun (first last : Nat) : Prop :=
  first ≤ last ∧ ∀ index, first ≤ index → index ≤ last →
    frozenStep library profile source index = true

structure MaximalFrozenRun (first last : Nat) : Prop where
  run : FrozenRun library profile source first last
  before : ∀ index, index + 1 = first → frozenStep library profile source index = false
  after : frozenStep library profile source (last + 1) = false

/-- Frozen steps with others between them, but never two of those in a row. -/
structure Bridged (first last : Nat) : Prop where
  frozenFirst : frozenStep library profile source first = true
  frozenLast : frozenStep library profile source last = true
  moving : ∃ index, first < index ∧ index < last ∧
    frozenStep library profile source index = false
  alternating : ∀ index, first ≤ index → index < last →
    frozenStep library profile source index = true ∨
      frozenStep library profile source (index + 1) = true

/-- The sample behind the last one of a run, as far as there is one. -/
def freezeEnd (last : Nat) : Nat :=
  min (source.length - 1) (last + 2)

def freezeDurationNs (first last : Nat) : Int :=
  timeAt (source.map ReferenceSample.timeNs) (freezeEnd source last) -
    timeAt (source.map ReferenceSample.timeNs) first

/-- The freeze has the interval that belongs to a run of steps. -/
structure Covers (freeze : RawFailure) (first last : Nat) : Prop where
  rule : freeze.rule = .positionFreeze
  start : freeze.startTimeNs = timeAt (source.map ReferenceSample.timeNs) first
  finish : freeze.endTimeNs = timeAt (source.map ReferenceSample.timeNs) (freezeEnd source last)
  startIndex : freeze.startIndex = first
  endIndex : freeze.endIndexExclusive = freezeEnd source last

/-- Kept freezes are runs of frozen steps, and the maximal runs among the kept ones are
those that last. -/
structure Persistent (minimumDurationNs : Int) (kept : List RawFailure) : Prop where
  covered : ∀ freeze ∈ kept, freeze.rule = .positionFreeze → ∃ first last,
    FrozenRun library profile source first last ∧ Covers source freeze first last
  retained : ∀ first last, MaximalFrozenRun library profile source first last →
    ((∃ freeze ∈ kept, Covers source freeze first last) ↔
      minimumDurationNs ≤ freezeDurationNs source first last)

end Frozen

/-! ## The failures of frozen steps -/

section Failures

variable {library : FloatLibrary} {profile : TrajectoryIntegrityProfile}
  {source : List ReferenceSample}

theorem freezeAt_eq_some {index : Nat} {failure : RawFailure}
    (h : freezeAt library profile source index = some failure) :
    frozenStep library profile source index = true ∧ index + 1 < source.length ∧
      Covers source failure index index := by
  unfold freezeAt at h
  obtain ⟨motion, hmotion, hfailure⟩ := Option.bind_eq_some_iff.mp h
  have hlength := motionAt_lt hmotion
  unfold freezeFailure at hfailure
  split_ifs at hfailure with hfrozen
  cases hfailure
  refine ⟨?_, hlength, rfl, rfl, ?_, rfl, ?_⟩
  · rw [frozenStep, hmotion]
    exact hfrozen
  · have hbehind : index < min ((source.map ReferenceSample.timeNs).length - 1) (index + 2) := by
      rw [List.length_map]
      omega
    rw [freezeStep, freezeEnd]
    dsimp only
    rw [if_pos hbehind, List.length_map]
  · rw [freezeStep, freezeEnd]
    dsimp only
    rw [List.length_map]

theorem freezeAt_isSome {index : Nat} (h : frozenStep library profile source index = true) :
    ∃ failure, freezeAt library profile source index = some failure := by
  unfold frozenStep at h
  cases hmotion : motionAt library profile source index with
  | none =>
    rw [hmotion] at h
    cases h
  | some motion =>
    rw [hmotion] at h
    refine ⟨freezeStep library profile (source.map ReferenceSample.timeNs) index motion, ?_⟩
    rw [freezeAt, hmotion]
    exact if_pos h

end Failures

/-! ## The raw failures -/

section Raw

variable {library : NumericLibrary} {profile : TrajectoryIntegrityProfile}

/-- Of one list as of the other, only the freezes count. -/
theorem filter_freeze_append {raw failures : List RawFailure}
    (h : ∀ failure ∈ failures, failure.rule ≠ .positionFreeze) :
    (raw ++ failures).filter (fun item => item.rule = .positionFreeze) =
      raw.filter (fun item => item.rule = .positionFreeze) := by
  have hnone : failures.filter (fun item => item.rule = .positionFreeze) = [] :=
    List.filter_eq_nil_iff.mpr fun failure hfailure => by simpa using h failure hfailure
  rw [List.filter_append, hnone, List.append_nil]

/-- The freezes among the raw failures of a valid source are its frozen steps. -/
theorem filter_rawFailures {parameters : TrajectoryGateParameters} {first : ReferenceSample}
    {source : List ReferenceSample} {positions : Option (List Vector3)} {raw : List RawFailure}
    (hvalid : structurallyValid first source = true) (hvelocity : velocityAvailable source = true)
    (h : rawFailures library profile parameters first source positions = .ok raw) :
    raw.filter (fun item => item.rule = .positionFreeze) =
      (List.range (source.length - 1)).filterMap
        (freezeAt library.toFloatLibrary profile source) := by
  obtain ⟨structural, derived, rfl, hothers⟩ := rawFailures_parts h
  have hnone : ∀ failure ∈ structural ++ derived, failure.rule ≠ .positionFreeze := by
    intro failure hfailure heq
    have haside := (hothers failure hfailure).1
    rw [heq] at haside
    cases haside
  obtain ⟨hstructural, hderived⟩ := List.forall_mem_append.mp hnone
  rw [List.filter_append, filter_freeze_append hderived, judgedMotion, hvalid, hvelocity,
    List.filter_eq_nil_iff.mpr fun failure hfailure => by
      simpa using hstructural failure hfailure]
  exact filter_motion_freezes _

/-- Pairing position steps leaves the freezes. -/
theorem filter_pairPositionSteps {library : FloatLibrary} {jumpThresholdM : Double}
    {maximumPairDurationNs : Int} (raw : List RawFailure) :
    (pairPositionSteps library jumpThresholdM maximumPairDurationNs raw).filter
        (fun item => item.rule = .positionFreeze) =
      raw.filter (fun item => item.rule = .positionFreeze) := by
  have hjumps : ∀ failure ∈ pairJumps library jumpThresholdM maximumPairDurationNs
      (raw.filter fun item => item.rule = .positionJump), failure.rule ≠ .positionFreeze := by
    obtain ⟨steps, hsteps⟩ : ∃ steps, Scanned library jumpThresholdM maximumPairDurationNs _ _ steps :=
      pairJumps_scanned (raw.filter fun item => item.rule = .positionJump)
    rw [hsteps.outcomes]
    intro failure hfailure
    obtain ⟨step, hstep, rfl⟩ := List.mem_map.mp hfailure
    rw [hsteps.outcome_rule (fun item hitem => of_decide_eq_true (List.mem_filter.mp hitem).2) hstep]
    exact fun heq => by cases heq
  rw [pairPositionSteps, filter_freeze_append hjumps, List.filter_filter]
  congr 1
  funext item
  by_cases hfreeze : item.rule = .positionFreeze
  · simp [hfreeze]
  · simp [hfreeze]

end Raw

/-! ## Groups of frozen steps -/

section Groups

variable {library : FloatLibrary} {profile : TrajectoryIntegrityProfile}
  {source : List ReferenceSample}

theorem pairwise_of_forwardSteps {times : List Int} (h : forwardSteps times = true) :
    times.Pairwise (· < ·) := by
  rw [← List.isChain_iff_pairwise]
  induction times with
  | nil => exact List.isChain_nil
  | cons first rest ih =>
    cases rest with
    | nil => exact List.isChain_singleton first
    | cons second rest =>
      rw [forwardSteps, List.tail_cons, List.zip_cons_cons, List.all_cons, Bool.and_eq_true,
        decide_eq_true_eq] at h
      exact List.isChain_cons_cons.mpr ⟨h.1, ih h.2⟩

variable (library profile source) in
/-- The failures of the frozen steps. -/
def freezeSteps : List RawFailure :=
  (List.range (source.length - 1)).filterMap (freezeAt library profile source)

theorem mem_freezeSteps {failure : RawFailure} (h : failure ∈ freezeSteps library profile source) :
    frozenStep library profile source failure.startIndex = true ∧
      failure.startIndex + 1 < source.length ∧
        Covers source failure failure.startIndex failure.startIndex := by
  obtain ⟨index, -, hfailure⟩ := List.mem_filterMap.mp h
  have hspec := freezeAt_eq_some hfailure
  rw [← hspec.2.2.startIndex] at hspec
  exact hspec

theorem exists_mem_freezeSteps {index : Nat} (h : frozenStep library profile source index = true) :
    ∃ failure ∈ freezeSteps library profile source, failure.startIndex = index := by
  obtain ⟨failure, hfailure⟩ := freezeAt_isSome h
  obtain ⟨-, hlength, hcovers⟩ := freezeAt_eq_some hfailure
  refine ⟨failure, List.mem_filterMap.mpr ⟨index, ?_, hfailure⟩, hcovers.startIndex⟩
  rw [List.mem_range]
  omega

theorem freezeSteps_pairwise : (freezeSteps library profile source).Pairwise
    fun left right => left.startIndex < right.startIndex := by
  refine List.pairwise_filterMap.mpr (List.pairwise_lt_range.imp fun {left right} hlt => ?_)
  intro failure hfailure other hother
  rw [(freezeAt_eq_some hfailure).2.2.startIndex, (freezeAt_eq_some hother).2.2.startIndex]
  exact hlt

/-- The number of a step. -/
def stepNumber (step : RawFailure) : Int :=
  step.startIndex

variable (library profile source) in
/-- A group of frozen steps with its first and last one. -/
structure FreezeGroup (group : List RawFailure) (first last : RawFailure) : Prop where
  head : group.head? = some first
  final : group.getLast? = some last
  subset : group ⊆ freezeSteps library profile source
  bounds : ∀ item ∈ group, first.startIndex ≤ item.startIndex ∧ item.startIndex ≤ last.startIndex
  reached : ∀ index, first.startIndex ≤ index → index < last.startIndex →
    frozenStep library profile source index = true ∨
      frozenStep library profile source (index + 1) = true
  joins : ∀ a ∈ group, ∀ b ∈ freezeSteps library profile source, a.startIndex ≤ b.startIndex →
    (∀ index, a.startIndex ≤ index → index < b.startIndex →
      frozenStep library profile source index = true ∨
        frozenStep library profile source (index + 1) = true) → b ∈ group

theorem freezeGroup_of_mem {group : List RawFailure}
    (h : group ∈ (freezeSteps library profile source).splitBy continues) :
    ∃ first last, FreezeGroup library profile source group first last := by
  have hlinks : ∀ a ∈ freezeSteps library profile source, ∀ b ∈ freezeSteps library profile source,
      continues a b = nextTo (fun _ => 0) stepNumber 2 a b := by
    intro a ha b hb
    have hlength := (mem_freezeSteps hb).2.1
    have hend := (mem_freezeSteps ha).2.2.endIndex
    rw [continues, nextTo, hend, freezeEnd]
    apply decide_eq_decide.mpr
    dsimp only [stepNumber]
    omega
  rw [splitBy_congr hlinks] at h
  obtain ⟨front, back, hstretch⟩ := stretch_of_mem_splitBy h
  have hordered : (freezeSteps library profile source).Pairwise
      (InOrder (fun _ => 0) stepNumber) :=
    freezeSteps_pairwise.imp fun {left right} hlt => Or.inr ⟨rfl, Int.ofNat_le.mpr hlt.le⟩
  have hsubset : group ⊆ freezeSteps library profile source := by
    intro item hitem
    rw [hstretch.split]
    exact List.mem_append_right _ (List.mem_append_left _ hitem)
  have hgroupOrdered : group.Pairwise (InOrder (fun _ => 0) stepNumber) := by
    rw [hstretch.split] at hordered
    exact (List.pairwise_append.mp (List.pairwise_append.mp hordered).2.1).1
  obtain ⟨first, hfirst, hfirstLe⟩ := Foundation.exists_first hstretch.nonempty hgroupOrdered
  obtain ⟨last, hlast, hleLast⟩ := Foundation.exists_last hstretch.nonempty hgroupOrdered
  have hreached := (reached_of_isChain Nat.two_pos hstretch.chain hfirst hlast).2
  refine ⟨first, last, hfirst, hlast, hsubset, ?_, ?_, ?_⟩
  · intro item hitem
    have hbegins := hfirstLe item hitem
    have hends := hleLast item hitem
    dsimp only [InOrder, stepNumber] at hbegins hends
    omega
  · intro index hbegins hends
    dsimp only [stepNumber] at hreached
    obtain ⟨item, hitem, -, hle, hlt⟩ := hreached (index + 1 : Nat) (by omega) (by omega)
    dsimp only [stepNumber] at hle hlt
    have hfrozen := (mem_freezeSteps (hsubset hitem)).1
    rcases (by omega : item.startIndex = index ∨ item.startIndex = index + 1) with heq | heq
    · rw [heq] at hfrozen
      exact Or.inl hfrozen
    · rw [heq] at hfrozen
      exact Or.inr hfrozen
  · intro a ha b hb hle halternating
    refine hstretch.mem_of_reached hordered ha hb rfl (Int.ofNat_le.mpr hle)
      fun number hbegins hends => ?_
    obtain ⟨place, rfl⟩ := Int.eq_ofNat_of_zero_le ((Int.natCast_nonneg _).trans hbegins)
    dsimp only [stepNumber] at hbegins hends
    have hreach : ∀ index, frozenStep library profile source index = true → index ≤ place →
        place < index + 2 → Reached (fun _ => 0) stepNumber 2
          (freezeSteps library profile source) 0 place := by
      intro index hfrozen hindex hnumber
      obtain ⟨item, hitem, rfl⟩ := exists_mem_freezeSteps hfrozen
      exact ⟨item, hitem, rfl, Int.ofNat_le.mpr hindex, Int.ofNat_lt.mpr hnumber⟩
    rcases (Int.ofNat_le.mp hbegins).eq_or_lt with heq | hlt
    · rw [← heq]
      exact ⟨a, hsubset ha, rfl, le_rfl, by dsimp only [stepNumber]; omega⟩
    · obtain ⟨previous, rfl⟩ : ∃ previous, place = previous + 1 := ⟨place - 1, by omega⟩
      rcases halternating previous (by omega) (by omega) with hfrozen | hfrozen
      · exact hreach previous hfrozen (by omega) (by omega)
      · exact hreach (previous + 1) hfrozen le_rfl (by omega)

/-- Every frozen step is in a group. -/
theorem exists_freezeGroup {index : Nat} (h : frozenStep library profile source index = true) :
    ∃ group ∈ (freezeSteps library profile source).splitBy continues, ∃ item ∈ group,
      item.startIndex = index := by
  obtain ⟨item, hitem, hindex⟩ := exists_mem_freezeSteps h
  obtain ⟨group, hgroup, hmem⟩ := exists_stretch_of_mem hitem
  exact ⟨group, hgroup, item, hmem, hindex⟩

end Groups

/-! ## Kept freezes -/

section Kept

variable {library : FloatLibrary} {profile : TrajectoryIntegrityProfile}
  {source : List ReferenceSample}

/-- A group is kept when it lasts, as one freeze from its first to its last step. -/
theorem keptFreeze_eq_some_iff {minimumDurationNs : Int} {group : List RawFailure}
    {first last freeze : RawFailure} (hgroup : FreezeGroup library profile source group first last) :
    keptFreeze profile minimumDurationNs group = some freeze ↔
      minimumDurationNs ≤ freezeDurationNs source first.startIndex last.startIndex ∧
        freezeOf profile group first last = freeze := by
  have hfirst := (mem_freezeSteps (hgroup.subset (List.mem_of_mem_head? hgroup.head))).2.2
  have hlast := (mem_freezeSteps (hgroup.subset (List.mem_of_mem_getLast? hgroup.final))).2.2
  unfold keptFreeze
  rw [hgroup.head, hgroup.final]
  dsimp only
  rw [hlast.finish, hfirst.start, freezeDurationNs]
  split_ifs with hshort
  · refine iff_of_false (fun h => by cases h) fun h => ?_
    exact absurd h.1 (not_le.mpr hshort)
  · rw [Option.some_inj]
    exact (and_iff_right (not_lt.mp hshort)).symm

theorem freezeOf_covers {group : List RawFailure} {first last : RawFailure}
    (hgroup : FreezeGroup library profile source group first last) :
    Covers source (freezeOf profile group first last) first.startIndex last.startIndex := by
  have hfirst := (mem_freezeSteps (hgroup.subset (List.mem_of_mem_head? hgroup.head))).2.2
  have hlast := (mem_freezeSteps (hgroup.subset (List.mem_of_mem_getLast? hgroup.final))).2.2
  exact ⟨rfl, hfirst.start, hlast.finish, rfl, hlast.endIndex⟩

/-- The freezes of the consolidated failures are the groups that last. -/
theorem mem_consolidateFreezes_iff {minimumDurationNs : Int} {failures kept : List RawFailure}
    (hvalid : (source.map ReferenceSample.timeNs).Pairwise (· < ·))
    (hfailures : failures.filter (fun item => item.rule = .positionFreeze) =
      freezeSteps library profile source)
    (hminimum : truncated (profile.thresholds .freezeMinimumDurationNs).value =
      .ok minimumDurationNs)
    (hkept : consolidateFreezes profile failures = .ok kept) {freeze : RawFailure} :
    (freeze ∈ kept ∧ freeze.rule = .positionFreeze) ↔
      ∃ group ∈ (freezeSteps library profile source).splitBy continues,
        keptFreeze profile minimumDurationNs group = some freeze := by
  have hsorted : sortedBy (fun item : RawFailure =>
      (toLex (item.startTimeNs, item.startIndex) : Int ×ₗ Nat)) (freezeSteps library profile source) =
        freezeSteps library profile source := by
    refine sortedBy_of_pairwise (freezeSteps_pairwise.imp_of_mem
      fun {left right} hleft hright hlt => ?_)
    obtain ⟨-, hrightLength, hrightCovers⟩ := mem_freezeSteps hright
    have hlength : right.startIndex < (source.map ReferenceSample.timeNs).length := by
      rw [List.length_map]
      omega
    refine (Prod.Lex.toLex_lt_toLex.mpr (Or.inl ?_)).le
    rw [(mem_freezeSteps hleft).2.2.start, hrightCovers.start]
    exact timeAt_strict hvalid hlt hlength
  unfold consolidateFreezes at hkept
  rw [hminimum, ok_bind, hfailures] at hkept
  dsimp only at hkept
  rw [hsorted] at hkept
  cases hkept
  rw [List.mem_append, List.mem_filterMap]
  constructor
  · rintro ⟨hretained | hgroup, hrule⟩
    · exact absurd hrule (of_decide_eq_true (List.mem_filter.mp hretained).2)
    · exact hgroup
  · rintro ⟨group, hgroup, hfreeze⟩
    refine ⟨Or.inr ⟨group, hgroup, hfreeze⟩, ?_⟩
    obtain ⟨first, last, hfirstLast⟩ := freezeGroup_of_mem hgroup
    rw [← ((keptFreeze_eq_some_iff hfirstLast).mp hfreeze).2]
    rfl

theorem freezeDurationNs_le (hvalid : (source.map ReferenceSample.timeNs).Pairwise (· < ·))
    {first last first' last' : Nat} (hfirst : first' ≤ first) (hforward : first ≤ last)
    (hlast : last ≤ last') (hlength : last' + 1 < source.length) :
    freezeDurationNs source first last ≤ freezeDurationNs source first' last' := by
  have hstart : timeAt (source.map ReferenceSample.timeNs) first' ≤
      timeAt (source.map ReferenceSample.timeNs) first :=
    timeAt_mono hvalid hfirst (by rw [List.length_map]; omega)
  have hend : timeAt (source.map ReferenceSample.timeNs) (freezeEnd source last) ≤
      timeAt (source.map ReferenceSample.timeNs) (freezeEnd source last') :=
    timeAt_mono hvalid (by unfold freezeEnd; omega) (by rw [List.length_map, freezeEnd]; omega)
  unfold freezeDurationNs
  omega

/-- A group that lasts has no step between its ends that is not frozen, where no bridge
lasts. -/
theorem FreezeGroup.run {minimumDurationNs : Int} {group : List RawFailure} {first last : RawFailure}
    (hgroup : FreezeGroup library profile source group first last)
    (hlasts : minimumDurationNs ≤ freezeDurationNs source first.startIndex last.startIndex)
    (hbridges : ∀ first last, Bridged library profile source first last →
      freezeDurationNs source first last < minimumDurationNs) :
    FrozenRun library profile source first.startIndex last.startIndex := by
  have hfirstMem := List.mem_of_mem_head? hgroup.head
  have hfirst := (mem_freezeSteps (hgroup.subset hfirstMem)).1
  have hlast := (mem_freezeSteps (hgroup.subset (List.mem_of_mem_getLast? hgroup.final))).1
  refine ⟨(hgroup.bounds first hfirstMem).2, fun index hbegins hends => ?_⟩
  by_contra hmoving
  rw [Bool.not_eq_true] at hmoving
  have hne : ∀ frozen, frozenStep library profile source frozen = true → index ≠ frozen := by
    rintro frozen hfrozen rfl
    rw [hfrozen] at hmoving
    cases hmoving
  have hbridged : Bridged library profile source first.startIndex last.startIndex :=
    ⟨hfirst, hlast, ⟨index, lt_of_le_of_ne hbegins (hne _ hfirst).symm,
      lt_of_le_of_ne hends (hne _ hlast), hmoving⟩, hgroup.reached⟩
  exact absurd hlasts (not_le.mpr (hbridges _ _ hbridged))

/-- What is kept are the lasting runs exactly when no bridge between frozen steps lasts. -/
theorem persistent_iff {minimumDurationNs : Int} {failures kept : List RawFailure}
    (hvalid : (source.map ReferenceSample.timeNs).Pairwise (· < ·))
    (hfailures : failures.filter (fun item => item.rule = .positionFreeze) =
      freezeSteps library profile source)
    (hminimum : truncated (profile.thresholds .freezeMinimumDurationNs).value =
      .ok minimumDurationNs)
    (hkept : consolidateFreezes profile failures = .ok kept) :
    Persistent library profile source minimumDurationNs kept ↔
      ∀ first last, Bridged library profile source first last →
        freezeDurationNs source first last < minimumDurationNs := by
  have hmem : ∀ {freeze : RawFailure}, (freeze ∈ kept ∧ freeze.rule = .positionFreeze) ↔
      ∃ group ∈ (freezeSteps library profile source).splitBy continues,
        keptFreeze profile minimumDurationNs group = some freeze :=
    mem_consolidateFreezes_iff hvalid hfailures hminimum hkept
  constructor
  · intro h first last hbridged
    by_contra hlong
    rw [not_lt] at hlong
    obtain ⟨moving, hfirstMoving, hmovingLast, hmoving⟩ := hbridged.moving
    obtain ⟨group, hgroupMem, item, hitem, rfl⟩ := exists_freezeGroup hbridged.frozenFirst
    obtain ⟨other, hother, rfl⟩ := exists_mem_freezeSteps hbridged.frozenLast
    obtain ⟨start, finish, hgroup⟩ := freezeGroup_of_mem hgroupMem
    have hotherMem := hgroup.joins item hitem other hother (by omega) hbridged.alternating
    have hstart := (hgroup.bounds item hitem).1
    have hfinish := (hgroup.bounds other hotherMem).2
    have hlength :=
      (mem_freezeSteps (hgroup.subset (List.mem_of_mem_getLast? hgroup.final))).2.1
    have hlasts := hlong.trans (freezeDurationNs_le hvalid hstart (by omega) hfinish hlength)
    obtain ⟨hfreeze, hrule⟩ :=
      hmem.mpr ⟨group, hgroupMem, (keptFreeze_eq_some_iff hgroup).mpr ⟨hlasts, rfl⟩⟩
    obtain ⟨runFirst, runLast, hrun, hcovers⟩ := h.covered _ hfreeze hrule
    have hown := freezeOf_covers hgroup
    have hbegins := hcovers.startIndex.symm.trans hown.startIndex
    have hends := hcovers.endIndex.symm.trans hown.endIndex
    -- the interval of the run reaches behind the step that is not frozen
    unfold freezeEnd at hends
    rw [hrun.2 moving (by omega) (by omega)] at hmoving
    cases hmoving
  · intro h
    refine ⟨fun freeze hfreeze hrule => ?_, fun first last hmaximal => ⟨?_, fun hlasts => ?_⟩⟩
    · obtain ⟨group, hgroupMem, hkeptGroup⟩ := hmem.mp ⟨hfreeze, hrule⟩
      obtain ⟨start, finish, hgroup⟩ := freezeGroup_of_mem hgroupMem
      obtain ⟨hlasts, rfl⟩ := (keptFreeze_eq_some_iff hgroup).mp hkeptGroup
      exact ⟨_, _, hgroup.run hlasts h, freezeOf_covers hgroup⟩
    · rintro ⟨freeze, hfreeze, hcovers⟩
      obtain ⟨group, hgroupMem, hkeptGroup⟩ := hmem.mp ⟨hfreeze, hcovers.rule⟩
      obtain ⟨start, finish, hgroup⟩ := freezeGroup_of_mem hgroupMem
      obtain ⟨hlasts, rfl⟩ := (keptFreeze_eq_some_iff hgroup).mp hkeptGroup
      have hown := freezeOf_covers hgroup
      rw [freezeDurationNs, ← hcovers.startIndex, ← hcovers.endIndex, hown.startIndex,
        hown.endIndex]
      exact hlasts
    · obtain ⟨hforward, hfrozen⟩ := hmaximal.run
      obtain ⟨group, hgroupMem, item, hitem, hitemFirst⟩ :=
        exists_freezeGroup (hfrozen first le_rfl hforward)
      obtain ⟨other, hother, hotherLast⟩ := exists_mem_freezeSteps (hfrozen last hforward le_rfl)
      obtain ⟨start, finish, hgroup⟩ := freezeGroup_of_mem hgroupMem
      have hotherMem := hgroup.joins item hitem other hother (by omega)
        fun index hbegins hends => Or.inl (hfrozen index (by omega) (by omega))
      have hstart := (hgroup.bounds item hitem).1
      have hfinish := (hgroup.bounds other hotherMem).2
      rw [hitemFirst] at hstart
      rw [hotherLast] at hfinish
      have hlength :=
        (mem_freezeSteps (hgroup.subset (List.mem_of_mem_getLast? hgroup.final))).2.1
      have hgroupLasts := hlasts.trans (freezeDurationNs_le hvalid hstart hforward hfinish hlength)
      have hrun := (hgroup.run hgroupLasts h).2
      -- the group has the ends of the run, which nothing frozen continues
      have hstartFirst : start.startIndex = first := by
        by_contra hne
        have hbefore := hmaximal.before (first - 1) (by omega)
        rw [hrun (first - 1) (by omega) (by omega)] at hbefore
        cases hbefore
      have hfinishLast : finish.startIndex = last := by
        by_contra hne
        have hafter := hmaximal.after
        rw [hrun (last + 1) (by omega) (by omega)] at hafter
        cases hafter
      obtain ⟨hfreeze, -⟩ :=
        hmem.mpr ⟨group, hgroupMem, (keptFreeze_eq_some_iff hgroup).mpr ⟨hgroupLasts, rfl⟩⟩
      refine ⟨_, hfreeze, ?_⟩
      have hcovers := freezeOf_covers hgroup
      rw [hstartFirst, hfinishLast] at hcovers
      exact hcovers

end Kept

/-! ## Retained freezes -/

/-- **A retained freeze is persistent where no bridge lasts.**  The freezes of a valid source
are runs of frozen steps, and every maximal run that lasts is one of them, exactly when no
two frozen steps with a step between them that is not frozen, and never two of those in a
row, span the least duration. -/
theorem retained_freezes_persistent_iff (library : NumericLibrary)
    (profile : TrajectoryIntegrityProfile) (parameters : TrajectoryGateParameters)
    (first : ReferenceSample) (source : List ReferenceSample) (positions : Option (List Vector3))
    (raw kept : List RawFailure) (minimumDurationNs : Int)
    (hvalid : structurallyValid first source = true) (hvelocity : velocityAvailable source = true)
    (hraw : rawFailures library profile parameters first source positions = .ok raw)
    (hminimum : truncated (profile.thresholds .freezeMinimumDurationNs).value =
      .ok minimumDurationNs)
    (hkept : consolidateFailures library profile raw = .ok kept) :
    Persistent library.toFloatLibrary profile source minimumDurationNs kept ↔
      ∀ first last, Bridged library.toFloatLibrary profile source first last →
        freezeDurationNs source first last < minimumDurationNs := by
  have hforward := (Bool.and_eq_true _ _).mp hvalid
  exact persistent_iff (pairwise_of_forwardSteps hforward.1)
    ((filter_pairPositionSteps raw).trans (filter_rawFailures hvalid hvelocity hraw)) hminimum hkept

/-! ## A stuttering output -/

/-- The square roots of a few squares. -/
def smallRoot (value : Double) : Double :=
  if value = .finite 4 then .finite 2 else if value = .finite 100 then .finite 10 else value

/-- Numerical functions as they are on a straight track along the first axis. -/
def sampleNumerics : NumericLibrary where
  sum := exactFloats.sum
  sqrt := smallRoot
  atan2 := fun _ _ => .finite 0
  unwrap := id
  median := fun values => values.headD (.finite 0)
  norm := fun values => values.headD (.finite 0)
  fit := fun _ _ values => .ok
    (if (values.headD []).length = 3 then
      [[.finite 0, .finite 0, .finite 0], [.finite 10, .finite 0, .finite 0],
        [.finite 0, .finite 0, .finite 0], [.finite 0, .finite 0, .finite 0]]
    else [[.finite 0], [.finite 0], [.finite 0], [.finite 0]])
  interpolate := fun left _ _ => .ok left

def sampleParameters : TrajectoryGateParameters where
  maximumSupportGapNs := 100000000
  derivativeHalfWindowSamples := 5
  leastSquaresRcond := .rounded false (1 / 1000000000000)
  huberDelta := .rounded false (1345 / 1000)
  robustMaximumIterations := 10
  robustConvergenceTolerance := .rounded false (1 / 1000000000)
  stationarySpeedThresholdMps := .rounded false (1 / 10)
  stationaryMinimumDurationNs := 500000000
  supportGapPositive := by omega
  halfWindow := by omega

def sampleTime (valueNs : Int) : Trajectory.SampleTime where
  valueNs := ⟨max (-2 ^ 63) (min valueNs (2 ^ 63 - 1)), by unfold Contracts.Representable; omega⟩
  epoch := .unixUtc
  clockId := "boreas-utc"
  reference := .sample

/-- A sample on the first axis, moving at ten meters a second. -/
def sampleAt (valueNs : Int) (x : ℚ) : ReferenceSample where
  time := sampleTime valueNs
  worldFromRig := {
    targetFrame := Trajectory.localWorldFrame
    sourceFrame := ⟨"rig", by decide⟩
    translationM := ⟨.finite x, .finite 0, .finite 0⟩
    rotation := ⟨.finite 1, .finite 0, .finite 0, .finite 0⟩
    finite := rfl }
  sourceVelocityWorldMps := some ⟨.finite 10, .finite 0, .finite 0⟩
  geographic := false

/-- An output that repeats every other position. -/
def stutter : List ReferenceSample :=
  [sampleAt 0 0, sampleAt 100000000 0, sampleAt 200000000 2, sampleAt 300000000 2,
    sampleAt 400000000 4, sampleAt 500000000 4, sampleAt 600000000 6]

theorem stutter_valid :
    structurallyValid (sampleAt 0 0) stutter = true ∧ velocityAvailable stutter = true := by
  decide +kernel

theorem stutter_consolidated : ∃ raw kept,
    rawFailures sampleNumerics profileV1 sampleParameters (sampleAt 0 0) stutter none = .ok raw ∧
      consolidateFailures sampleNumerics profileV1 raw = .ok kept := by
  have hsome : ((rawFailures sampleNumerics profileV1 sampleParameters (sampleAt 0 0) stutter
      none).bind (consolidateFailures sampleNumerics profileV1)).toOption.isSome = true := by
    decide +kernel
  obtain ⟨kept, hkept⟩ := Option.isSome_iff_exists.mp hsome
  obtain ⟨raw, hraw, hconsolidated⟩ := bind_eq_ok_iff.mp (Foundation.eq_ok_of_toOption hkept)
  exact ⟨raw, kept, hraw, hconsolidated⟩

/-- Two steps of the stuttering output that move lie within a freeze. -/
theorem stutter_bridged : Bridged sampleNumerics.toFloatLibrary profileV1 stutter 0 4 ∧
    freezeDurationNs stutter 0 4 = 600000000 := by
  have hfrozen : (List.range 5).map (frozenStep sampleNumerics.toFloatLibrary profileV1 stutter) =
      [true, false, true, false, true] := by
    decide +kernel
  simp only [List.range_succ, List.range_zero, List.nil_append, List.cons_append, List.map_cons,
    List.map_nil, List.cons.injEq] at hfrozen
  obtain ⟨hzero, hone, htwo, hthree, hfour, -⟩ := hfrozen
  refine ⟨⟨hzero, hfour, ⟨1, by omega, by omega, hone⟩, fun index _ hlt => ?_⟩, by decide +kernel⟩
  rcases (by omega : index = 0 ∨ index = 1 ∨ index = 2 ∨ index = 3) with rfl | rfl | rfl | rfl
  · exact Or.inl hzero
  · exact Or.inr htwo
  · exact Or.inl htwo
  · exact Or.inr hfour

theorem truncated_minimum :
    truncated (profileV1.thresholds .freezeMinimumDurationNs).value = .ok 500000000 := by
  decide +kernel

theorem retained_freezes_persistent_iff_stutter : ∃ kept,
    Persistent sampleNumerics.toFloatLibrary profileV1 stutter 500000000 kept ↔
      ∀ first last, Bridged sampleNumerics.toFloatLibrary profileV1 stutter first last →
        freezeDurationNs stutter first last < 500000000 := by
  obtain ⟨raw, kept, hraw, hkept⟩ := stutter_consolidated
  exact ⟨kept, retained_freezes_persistent_iff sampleNumerics profileV1 sampleParameters
    (sampleAt 0 0) stutter none raw kept 500000000 stutter_valid.1 stutter_valid.2 hraw
    truncated_minimum hkept⟩

/-- The freeze kept for a stuttering output covers steps that move. -/
theorem stutter_kept : ¬ ∀ (source : List ReferenceSample) (first : ReferenceSample)
    (raw kept : List RawFailure), structurallyValid first source = true →
      velocityAvailable source = true →
      rawFailures sampleNumerics profileV1 sampleParameters first source none = .ok raw →
      consolidateFailures sampleNumerics profileV1 raw = .ok kept →
        Persistent sampleNumerics.toFloatLibrary profileV1 source 500000000 kept := by
  intro h
  obtain ⟨raw, kept, hraw, hkept⟩ := stutter_consolidated
  obtain ⟨hvalid, hvelocity⟩ := stutter_valid
  have hpersistent := h stutter (sampleAt 0 0) raw kept hvalid hvelocity hraw hkept
  have hforward := (Bool.and_eq_true _ _).mp hvalid
  have hshort := (persistent_iff (pairwise_of_forwardSteps hforward.1)
    ((filter_pairPositionSteps raw).trans (filter_rawFailures hvalid hvelocity hraw))
    truncated_minimum hkept).mp hpersistent 0 4 stutter_bridged.1
  rw [stutter_bridged.2] at hshort
  omega

end CartoSentry.TrajectoryIntegrity
