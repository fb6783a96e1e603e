import CartoSentry.Foundation.Stretches
import CartoSentry.LidarIntegrity.Events
import Mathlib.Order.Interval.Finset.Basic
import Mathlib.Data.Int.Interval

set_option autoImplicit false

/-!
# Lidar integrity: runs of failures

The groups of the sweep are the maximal runs of consecutive frames at which a rule fails,
and every run that is reported has one event.
-/

namespace CartoSentry.LidarIntegrity

open Artifacts (Platform Sha256 sortedBy sortedBy_perm sortedBy_pairwise jsonText DigestsApart)
open Contracts (Raised raiseIf raiseIf_bind)
open Foundation (Double JsonValue ok_bind Stretch InOrder nextTo Reached stretch_of_mem_splitBy
  exists_stretch_of_mem reached_of_isChain splitBy_congr)
open TrajectoryIntegrity (Severity minimumOf_spec maximumOf_spec)

/-! ## Runs -/

section Runs

variable (raw : List RawFailure) (rule : LidarRule) (first last : Int)

/-- The rule failed at this frame. -/
def Fails (frame : Int) : Prop :=
  ∃ failure ∈ raw, failure.rule = rule ∧ failure.frameIndex = frame

/-- A stretch of frames at which the rule failed, and no longer one. -/
structure MaximalRun : Prop where
  nonempty : first ≤ last
  fails : ∀ frame, first ≤ frame → frame ≤ last → Fails raw rule frame
  before : ¬ Fails raw rule (first - 1)
  after : ¬ Fails raw rule (last + 1)

/-- The failures of the rule from a frame to another. -/
def runOf : List RawFailure :=
  raw.filter fun failure =>
    failure.rule = rule ∧ first ≤ failure.frameIndex ∧ failure.frameIndex ≤ last

variable {raw rule first last}

theorem mem_runOf {failure : RawFailure} : failure ∈ runOf raw rule first last ↔
    failure ∈ raw ∧ failure.rule = rule ∧ first ≤ failure.frameIndex ∧
      failure.frameIndex ≤ last := by
  rw [runOf, List.mem_filter, decide_eq_true_eq]

/-- Maximal runs of one rule that share a frame are the same. -/
theorem MaximalRun.eq_of_overlap {first' last' : Int} (h : MaximalRun raw rule first last)
    (h' : MaximalRun raw rule first' last') (hbegins : first' ≤ last) (hends : first ≤ last') :
    first = first' ∧ last = last' := by
  have hnot : ∀ {a b c d : Int}, MaximalRun raw rule a b → MaximalRun raw rule c d → c ≤ b →
      a ≤ d → ¬ c < a ∧ ¬ b < d := by
    intro a b c d hab hcd hcb had
    refine ⟨fun hlt => ?_, fun hlt => ?_⟩
    · exact hab.before (hcd.fails (a - 1) (by omega) (by omega))
    · exact hab.after (hcd.fails (b + 1) (by omega) (by omega))
  obtain ⟨hfirst, hlast⟩ := hnot h h' hbegins hends
  obtain ⟨hfirst', hlast'⟩ := hnot h' h hends hbegins
  omega

/-- The failures of a run are at each of its frames. -/
theorem MaximalRun.toFinset_frames (h : MaximalRun raw rule first last) :
    ((runOf raw rule first last).map RawFailure.frameIndex).toFinset = Finset.Icc first last := by
  ext frame
  rw [List.mem_toFinset, List.mem_map, Finset.mem_Icc]
  constructor
  · rintro ⟨failure, hfailure, rfl⟩
    exact (mem_runOf.mp hfailure).2.2
  · rintro ⟨hbegins, hends⟩
    obtain ⟨failure, hfailure, hrule, rfl⟩ := h.fails frame hbegins hends
    exact ⟨failure, mem_runOf.mpr ⟨hfailure, hrule, hbegins, hends⟩, rfl⟩

end Runs

/-! ## Groups -/

section Groups

variable {profile : LidarIntegrityProfile} {raw : List RawFailure} {group : List RawFailure}

variable (profile) in
/-- The place of a failure's rule. -/
def rankOf (failure : RawFailure) : Nat :=
  priority profile failure.rule

variable (profile) in
theorem priority_inj {left right : LidarRule} :
    priority profile left = priority profile right ↔ left = right := by
  unfold priority
  rw [profile.priorityFrozen]
  exact List.idxOf_inj (LidarRule.mem_all left)

variable (profile raw) in
theorem orderedFailures_perm : (orderedFailures profile raw).Perm raw :=
  sortedBy_perm _ raw

theorem orderedFailures_pairwise :
    (orderedFailures profile raw).Pairwise (InOrder (rankOf profile) RawFailure.frameIndex) := by
  refine (sortedBy_pairwise (fun item : RawFailure =>
    (toLex (priority profile item.rule, item.frameIndex) : Nat ×ₗ Int)) raw).imp ?_
  exact fun {left right} hle => Prod.Lex.le_iff.mp hle

variable (profile) in
theorem continues_eq (last next : RawFailure) :
    continues last next = nextTo (rankOf profile) RawFailure.frameIndex 1 last next := by
  rw [continues, nextTo, rankOf, rankOf]
  simp only [priority_inj]
  rfl

/-- A frame that a failure of the rule reaches is one at which it failed. -/
theorem reached_iff {rule : LidarRule} {frame : Int} :
    Reached (rankOf profile) RawFailure.frameIndex 1 (orderedFailures profile raw)
      (priority profile rule) frame ↔ Fails raw rule frame := by
  unfold Reached Fails
  simp only [(orderedFailures_perm profile raw).mem_iff, rankOf, priority_inj]
  refine exists_congr fun failure => and_congr_right fun _ => and_congr_right fun _ => ?_
  omega

variable (profile raw) in
/-- A group of the sweep from its first to its last failure. -/
structure Swept (front group back : List RawFailure) (first last : RawFailure) : Prop where
  split : orderedFailures profile raw = front ++ (group ++ back)
  first_mem : first ∈ group
  last_mem : last ∈ group
  within : ∀ failure ∈ group, failure.rule = first.rule ∧
    first.frameIndex ≤ failure.frameIndex ∧ failure.frameIndex ≤ last.frameIndex
  fails : ∀ frame, first.frameIndex ≤ frame → frame ≤ last.frameIndex → Fails raw first.rule frame
  before : ∀ failure ∈ front, failure.rule = first.rule → ∃ frame,
    failure.frameIndex ≤ frame ∧ frame < first.frameIndex ∧ ¬ Fails raw first.rule frame
  after : ∀ failure ∈ back, failure.rule = first.rule → ∃ frame,
    last.frameIndex ≤ frame ∧ frame < failure.frameIndex ∧ ¬ Fails raw first.rule frame

theorem exists_swept (h : group ∈ groupFailures profile raw) :
    ∃ front back first last, Swept profile raw front group back first last := by
  rw [groupFailures, splitBy_congr fun a _ b _ => continues_eq profile a b] at h
  obtain ⟨front, back, hstretch⟩ := stretch_of_mem_splitBy h
  have hordered : (orderedFailures profile raw).Pairwise _ := orderedFailures_pairwise
  have hgroupOrdered : group.Pairwise (InOrder (rankOf profile) RawFailure.frameIndex) := by
    rw [hstretch.split] at hordered
    exact (List.pairwise_append.mp (List.pairwise_append.mp hordered).2.1).1
  obtain ⟨first, hfirst, hfirstLe⟩ := Foundation.exists_first hstretch.nonempty hgroupOrdered
  obtain ⟨last, hlast, hleLast⟩ := Foundation.exists_last hstretch.nonempty hgroupOrdered
  obtain ⟨hsame, hreached⟩ := reached_of_isChain Nat.one_pos hstretch.chain hfirst hlast
  have hfirstMem := List.mem_of_mem_head? hfirst
  have hlastMem := List.mem_of_mem_getLast? hlast
  have hrank : ∀ failure : RawFailure, rankOf profile failure = rankOf profile first ↔
      failure.rule = first.rule := fun failure => priority_inj profile
  refine ⟨front, back, first, last, hstretch.split, hfirstMem, hlastMem, ?_, ?_, ?_, ?_⟩
  · intro failure hfailure
    have hbegins := hfirstLe failure hfailure
    have hends := hleLast failure hfailure
    have hkind := hsame failure hfailure
    have hkindLast := hsame last hlastMem
    unfold InOrder at hbegins hends
    exact ⟨(hrank failure).mp hkind, by omega⟩
  · intro frame hbegins hends
    obtain ⟨failure, hfailure, hkind, hle, hlt⟩ := hreached frame hbegins hends
    refine reached_iff.mp ⟨failure, ?_, hkind, hle, hlt⟩
    rw [hstretch.split]
    exact List.mem_append_right _ (List.mem_append_left _ hfailure)
  · intro failure hfailure hrule
    obtain ⟨frame, hbegins, hends, hnot⟩ :=
      hstretch.front_apart hordered hfailure hfirstMem ((hrank failure).mpr hrule)
    exact ⟨frame, hbegins, hends, mt reached_iff.mpr hnot⟩
  · intro failure hfailure hrule
    obtain ⟨frame, hbegins, hends, hnot⟩ := hstretch.back_apart hordered hlastMem hfailure
      ((hsame last hlastMem).trans ((hrank failure).mpr hrule).symm)
    rw [hsame last hlastMem] at hnot
    exact ⟨frame, hbegins, hends, mt reached_iff.mpr hnot⟩

section Swept

variable {front back : List RawFailure} {first last : RawFailure}
  (h : Swept profile raw front group back first last)

include h

theorem Swept.le : first.frameIndex ≤ last.frameIndex :=
  (h.within first h.first_mem).2.2

/-- Where a failure of the rule stands, by its frame. -/
theorem Swept.cases {failure : RawFailure} (hmem : failure ∈ raw)
    (hrule : failure.rule = first.rule) :
    (∃ frame, failure.frameIndex ≤ frame ∧ frame < first.frameIndex ∧
        ¬ Fails raw first.rule frame) ∨
      (first.frameIndex ≤ failure.frameIndex ∧ failure.frameIndex ≤ last.frameIndex) ∨
      (∃ frame, last.frameIndex ≤ frame ∧ frame < failure.frameIndex ∧
        ¬ Fails raw first.rule frame) := by
  have hplaced := (orderedFailures_perm profile raw).symm.subset hmem
  rw [h.split, List.mem_append, List.mem_append] at hplaced
  rcases hplaced with hfront | hgroup | hback
  · exact Or.inl (h.before failure hfront hrule)
  · exact Or.inr (Or.inl (h.within failure hgroup).2)
  · exact Or.inr (Or.inr (h.after failure hback hrule))

theorem Swept.maximalRun : MaximalRun raw first.rule first.frameIndex last.frameIndex := by
  have hle := h.le
  refine ⟨hle, h.fails, ?_, ?_⟩
  · rintro ⟨failure, hfailure, hrule, hframe⟩
    rcases h.cases hfailure hrule with ⟨frame, hbegins, hends, hnot⟩ | hinside |
      ⟨frame, hbegins, hends, -⟩
    · exact hnot ⟨failure, hfailure, hrule, by omega⟩
    · omega
    · omega
  · rintro ⟨failure, hfailure, hrule, hframe⟩
    rcases h.cases hfailure hrule with ⟨frame, hbegins, hends, -⟩ | hinside |
      ⟨frame, hbegins, hends, hnot⟩
    · omega
    · omega
    · exact hnot (h.fails frame (by omega) (by omega))

/-- In the order of the sweep the run is the group. -/
theorem Swept.perm : group.Perm (runOf raw first.rule first.frameIndex last.frameIndex) := by
  have hown : (orderedFailures profile raw).filter (fun failure => failure.rule = first.rule ∧
      first.frameIndex ≤ failure.frameIndex ∧ failure.frameIndex ≤ last.frameIndex) = group := by
    rw [h.split, List.filter_append, List.filter_append, List.filter_eq_nil_iff.mpr,
      List.filter_eq_self.mpr, List.filter_eq_nil_iff.mpr, List.nil_append, List.append_nil]
    · intro failure hfailure hwithin
      obtain ⟨hrule, -, hends⟩ := of_decide_eq_true hwithin
      obtain ⟨frame, hfrom, hto, -⟩ := h.after failure hfailure hrule
      omega
    · exact fun failure hfailure => decide_eq_true (h.within failure hfailure)
    · intro failure hfailure hwithin
      obtain ⟨hrule, hbegins, -⟩ := of_decide_eq_true hwithin
      obtain ⟨frame, hfrom, hto, -⟩ := h.before failure hfailure hrule
      omega
  have hfiltered := (orderedFailures_perm profile raw).filter fun failure =>
    failure.rule = first.rule ∧ first.frameIndex ≤ failure.frameIndex ∧
      failure.frameIndex ≤ last.frameIndex
  rw [hown] at hfiltered
  exact hfiltered

end Swept

/-- A group of the sweep is a maximal run. -/
theorem run_of_group (h : group ∈ groupFailures profile raw) : ∃ rule first last,
    MaximalRun raw rule first last ∧ group.Perm (runOf raw rule first last) := by
  obtain ⟨front, back, first, last, hswept⟩ := exists_swept h
  exact ⟨first.rule, first.frameIndex, last.frameIndex, hswept.maximalRun, hswept.perm⟩

/-- A maximal run is a group of the sweep. -/
theorem group_of_run (profile : LidarIntegrityProfile) {rule : LidarRule} {first last : Int}
    (h : MaximalRun raw rule first last) :
    ∃ group ∈ groupFailures profile raw, group.Perm (runOf raw rule first last) := by
  obtain ⟨failure, hfailure, hrule, hframe⟩ := h.fails first le_rfl h.nonempty
  obtain ⟨group, hgroup, hmem⟩ : ∃ group ∈ groupFailures profile raw, failure ∈ group :=
    exists_stretch_of_mem ((orderedFailures_perm profile raw).symm.subset hfailure)
  obtain ⟨own, begins, ends, hrun, hperm⟩ := run_of_group hgroup
  obtain ⟨-, hown, hbegins, hends⟩ := mem_runOf.mp (hperm.subset hmem)
  obtain rfl : own = rule := hown.symm.trans hrule
  have hnonempty := h.nonempty
  obtain ⟨rfl, rfl⟩ := h.eq_of_overlap hrun (by omega) (by omega)
  exact ⟨group, hgroup, hperm⟩

end Groups

end CartoSentry.LidarIntegrity
