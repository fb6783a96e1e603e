import CartoSentry.Trajectory.Windows
import CartoSentry.TrajectoryIntegrity.Detection
import CartoSentry.TrajectoryIntegrity.Events

set_option autoImplicit false

/-!
# Trajectory integrity: raw failures

What the two passes append: proper failures of the structure and of the derivatives around
those of the motion, as long as the budget allows for them.
-/

namespace CartoSentry.TrajectoryIntegrity

open Contracts (Raised OnlyRaises)
open Foundation (Double bind_eq_ok_iff bind_unit_eq_ok_iff)
open Trajectory (Vector3 FloatLibrary NumericLibrary ReferenceSample TrajectoryGateParameters
  TrajectoryDerivatives ContinuousReferenceTrajectory timeAt timeAt_strict)

/-! ## Proper failures -/

section Proper

variable {library : FloatLibrary} {profile : TrajectoryIntegrityProfile} {times : List Int}
  {strideNs : Int}

theorem lt_intervalEnd (times : List Int) (index : Nat) (strideNs : Int) :
    timeAt times index < intervalEnd times index strideNs := by
  unfold intervalEnd
  split_ifs with h
  · exact h.2
  · omega

theorem safeStructuralInterval_lt (left right : Int) :
    (safeStructuralInterval left right).1 < (safeStructuralInterval left right).2 := by
  unfold safeStructuralInterval
  dsimp only
  omega

/-- The rules whose failures are consolidated before the others. -/
def TrajectoryRule.consolidated : TrajectoryRule → Bool
  | .positionJump | .positionFreeze => true
  | _ => false

theorem structuralFailure_proper {rule : TrajectoryRule} {key : ThresholdKey} {value : Double}
    {severity : Severity} {interval : Int × Int} {index : Nat} (h : interval.1 < interval.2) :
    Proper (structuralFailure profile rule key value severity interval index) :=
  ⟨h, Nat.lt_succ_self index, List.cons_ne_nil _ _⟩

theorem stepFailures_proper {failure : RawFailure} (h : failure ∈ stepFailures profile times) :
    failure.rule.consolidated = false ∧ Proper failure := by
  obtain ⟨⟨⟨left, right⟩, index⟩, -, hstep⟩ := List.mem_filterMap.mp h
  unfold stepFailure at hstep
  dsimp only at hstep
  split_ifs at hstep with hequal hbackward hgap
  · cases hstep
    exact ⟨rfl, structuralFailure_proper (safeStructuralInterval_lt left right)⟩
  · cases hstep
    exact ⟨rfl, structuralFailure_proper (safeStructuralInterval_lt left right)⟩
  · cases hstep
    refine ⟨rfl, structuralFailure_proper ?_⟩
    dsimp only
    omega

theorem coordinateFailure_proper (count index : Nat) :
    (coordinateFailure profile times strideNs count index).rule.consolidated = false ∧
      Proper (coordinateFailure profile times strideNs count index) := by
  refine ⟨rfl, structuralFailure_proper ?_⟩
  split_ifs with hbackward
  · exact safeStructuralInterval_lt _ _
  · exact not_le.mp hbackward

theorem referenceFailures_proper {source : List ReferenceSample} {positions : Option (List Vector3)}
    {failure : RawFailure} (h : failure ∈ referenceFailures library profile source strideNs positions) :
    failure.rule.consolidated = false ∧ Proper failure := by
  cases positions with
  | none => cases h
  | some positions =>
    obtain ⟨entry, -, hresidual⟩ := List.mem_filterMap.mp h
    unfold referenceFailure at hresidual
    dsimp only at hresidual
    split_ifs at hresidual
    cases hresidual
    exact ⟨rfl, lt_intervalEnd _ _ _, Nat.lt_succ_self _, List.cons_ne_nil _ _⟩

theorem derivativeFailures_proper {index : Nat} {derivatives : TrajectoryDerivatives}
    {failure : RawFailure}
    (h : failure ∈ derivativeFailures library profile times strideNs index derivatives) :
    failure.rule.consolidated = false ∧ Proper failure := by
  obtain ⟨rule, hrule, hjudged⟩ := List.mem_filterMap.mp h
  split_ifs at hjudged
  cases hjudged
  refine ⟨?_, lt_intervalEnd _ _ _, Nat.lt_succ_self _, List.cons_ne_nil _ _⟩
  simp only [derivativeRules, List.mem_cons, List.not_mem_nil, or_false] at hrule
  rcases hrule with rfl | rfl | rfl | rfl <;> rfl

/-- A motion is between two samples. -/
theorem motionAt_lt {source : List ReferenceSample} {index : Nat} {motion : Motion}
    (h : motionAt library profile source index = some motion) : index + 1 < source.length := by
  unfold motionAt at h
  split at h
  · rename_i left right hleft hright
    exact (List.getElem?_eq_some_iff.mp hright).1
  · cases h

theorem motionFailures_proper {source : List ReferenceSample}
    (hordered : (source.map ReferenceSample.timeNs).Pairwise (· < ·)) {failure : RawFailure}
    (h : failure ∈ motionFailures library profile source strideNs) : Proper failure := by
  obtain ⟨index, -, hindex⟩ := List.mem_flatMap.mp h
  split at hindex
  · cases hindex
  · rename_i motion hmotion
    have hlength : index + 1 < (source.map ReferenceSample.timeNs).length := by
      rw [List.length_map]
      exact motionAt_lt hmotion
    rw [List.mem_append, List.mem_append, Option.mem_toList, Option.mem_toList,
      Option.mem_toList] at hindex
    rcases hindex with (hjump | hvelocity) | hfreeze
    · unfold jumpFailure at hjump
      split_ifs at hjump
      cases hjump
      exact ⟨timeAt_strict hordered (Nat.lt_succ_self index) hlength, Nat.lt_succ_self index,
        List.cons_ne_nil _ _⟩
    · unfold velocityFailure at hvelocity
      dsimp only at hvelocity
      split_ifs at hvelocity
      cases hvelocity
      refine ⟨lt_intervalEnd _ _ _, ?_, List.cons_ne_nil _ _⟩
      dsimp only
      omega
    · unfold freezeFailure at hfreeze
      split_ifs at hfreeze
      cases hfreeze
      have hbehind : index < min ((source.map ReferenceSample.timeNs).length - 1) (index + 2) := by
        omega
      refine ⟨?_, hbehind, List.cons_ne_nil _ _⟩
      unfold freezeStep
      dsimp only
      rw [if_pos hbehind]
      exact timeAt_strict hordered hbehind (by omega)

end Proper

/-! ## Failures of one rule -/

section OneRule

variable {library : FloatLibrary} {profile : TrajectoryIntegrityProfile}
  {source : List ReferenceSample}

/-- Of a failure with one rule, all or nothing has another. -/
theorem filter_toList_rule {failure : Option RawFailure} {own : TrajectoryRule}
    (h : ∀ item ∈ failure, item.rule = own) (rule : TrajectoryRule) :
    failure.toList.filter (fun item => item.rule = rule) =
      if own = rule then failure.toList else [] := by
  cases failure with
  | none => split_ifs <;> rfl
  | some item =>
    rw [← h item rfl, Option.toList_some, List.filter_singleton]
    split_ifs with hrule <;> simp [hrule]

/-- The failures of the motion with one rule, where `own` picks them at each index. -/
theorem filter_motionFailures {rule : TrajectoryRule} {strideNs : Int}
    {own : Nat → Motion → Option RawFailure}
    (h : ∀ index motion,
      ((jumpFailure library profile (source.map ReferenceSample.timeNs) index motion).toList ++
        (velocityFailure library profile (source.map ReferenceSample.timeNs) strideNs index
          motion).toList ++
        (freezeFailure library profile (source.map ReferenceSample.timeNs) index
          motion).toList).filter (fun item => item.rule = rule) = (own index motion).toList) :
    (motionFailures library profile source strideNs).filter (fun item => item.rule = rule) =
      (List.range (source.length - 1)).filterMap fun index =>
        (motionAt library profile source index).bind (own index) := by
  rw [motionFailures, List.filter_flatMap, List.filterMap_eq_flatMap_toList]
  congr 1
  funext index
  cases motionAt library profile source index with
  | none => rfl
  | some motion => exact h index motion

theorem filter_motion_rule (rule : TrajectoryRule) (strideNs : Int) (index : Nat)
    (motion : Motion) :
    ((jumpFailure library profile (source.map ReferenceSample.timeNs) index motion).toList ++
      (velocityFailure library profile (source.map ReferenceSample.timeNs) strideNs index
        motion).toList ++
      (freezeFailure library profile (source.map ReferenceSample.timeNs) index
        motion).toList).filter (fun item => item.rule = rule) =
    (if .positionJump = rule then (jumpFailure library profile
      (source.map ReferenceSample.timeNs) index motion).toList else []) ++
    (if .velocityResidual = rule then (velocityFailure library profile
      (source.map ReferenceSample.timeNs) strideNs index motion).toList else []) ++
    (if .positionFreeze = rule then (freezeFailure library profile
      (source.map ReferenceSample.timeNs) index motion).toList else []) := by
  have hjump : ∀ item ∈ jumpFailure library profile (source.map ReferenceSample.timeNs) index
      motion, item.rule = .positionJump := by
    simp only [jumpFailure, Option.mem_def, Option.ite_none_right_eq_some, Option.some_inj]
    rintro item ⟨-, rfl⟩
    rfl
  have hvelocity : ∀ item ∈ velocityFailure library profile (source.map ReferenceSample.timeNs)
      strideNs index motion, item.rule = .velocityResidual := by
    simp only [velocityFailure, Option.mem_def, Option.ite_none_right_eq_some, Option.some_inj]
    rintro item ⟨-, rfl⟩
    rfl
  have hfreeze : ∀ item ∈ freezeFailure library profile (source.map ReferenceSample.timeNs) index
      motion, item.rule = .positionFreeze := by
    simp only [freezeFailure, Option.mem_def, Option.ite_none_right_eq_some, Option.some_inj]
    rintro item ⟨-, rfl⟩
    rfl
  rw [List.filter_append, List.filter_append, filter_toList_rule hjump,
    filter_toList_rule hvelocity, filter_toList_rule hfreeze]

variable (library profile source) in
/-- The failure of a jump. -/
def jumpAt (index : Nat) : Option RawFailure :=
  (motionAt library profile source index).bind
    (jumpFailure library profile (source.map ReferenceSample.timeNs) index)

variable (library profile source) in
/-- The failure of a frozen step. -/
def freezeAt (index : Nat) : Option RawFailure :=
  (motionAt library profile source index).bind
    (freezeFailure library profile (source.map ReferenceSample.timeNs) index)

theorem filter_motion_jumps (strideNs : Int) :
    (motionFailures library profile source strideNs).filter
        (fun item => item.rule = .positionJump) =
      (List.range (source.length - 1)).filterMap (jumpAt library profile source) := by
  refine filter_motionFailures fun index motion => ?_
  rw [filter_motion_rule]
  simp

theorem filter_motion_freezes (strideNs : Int) :
    (motionFailures library profile source strideNs).filter
        (fun item => item.rule = .positionFreeze) =
      (List.range (source.length - 1)).filterMap (freezeAt library profile source) := by
  refine filter_motionFailures fun index motion => ?_
  rw [filter_motion_rule]
  simp

end OneRule

/-! ## Appending -/

/-- `append` refuses what exceeds the budget. -/
def rawBudgetExceeded : Raised :=
  .valueError "trajectory raw failure count exceeds the frozen budget"

section Appending

variable {library : NumericLibrary} {profile : TrajectoryIntegrityProfile}

theorem appendAll_eq_ok {raw failures result : List RawFailure}
    (h : appendAll profile raw failures = .ok result) : result = raw ++ failures := by
  induction failures generalizing raw with
  | nil =>
    cases h
    exact (List.append_nil _).symm
  | cons failure failures ih =>
    rw [appendAll, List.foldlM_cons] at h
    obtain ⟨next, hnext, h⟩ := bind_eq_ok_iff.mp h
    obtain ⟨-, hnext⟩ := bind_unit_eq_ok_iff.mp hnext
    cases hnext
    rw [ih h, List.append_assoc]
    rfl

/-- Only the budget stops an `append`. -/
theorem appendAll_onlyRaises (raw failures : List RawFailure) :
    OnlyRaises rawBudgetExceeded (appendAll profile raw failures) :=
  .foldlM fun _ _ _ => OnlyRaises.raiseIf.bind fun _ _ => .ok _

/-- What the derivatives at the samples add. -/
theorem foldlM_judgeDerivatives {trajectory : ContinuousReferenceTrajectory} {times : List Int}
    {strideNs : Int} {entries : List (Int × Nat)} {raw result : List RawFailure}
    (h : entries.foldlM (judgeDerivatives library profile trajectory times strideNs) raw =
      .ok result) : ∃ derived, result = raw ++ derived ∧
        ∀ failure ∈ derived, failure.rule.consolidated = false ∧ Proper failure := by
  induction entries generalizing raw with
  | nil =>
    cases h
    exact ⟨[], (List.append_nil _).symm, fun _ hmem => absurd hmem List.not_mem_nil⟩
  | cons entry entries ih =>
    rw [List.foldlM_cons] at h
    obtain ⟨next, hnext, h⟩ := bind_eq_ok_iff.mp h
    obtain ⟨evaluation, -, hnext⟩ := bind_eq_ok_iff.mp hnext
    obtain ⟨derived, rfl, hderived⟩ := ih h
    split at hnext
    · cases hnext
      exact ⟨derived, rfl, hderived⟩
    · rw [appendAll_eq_ok hnext, List.append_assoc]
      exact ⟨_, rfl, List.forall_mem_append.mpr
        ⟨fun failure hmem => derivativeFailures_proper hmem, hderived⟩⟩

theorem judgeDerivatives_onlyRaises {trajectory : ContinuousReferenceTrajectory}
    {times : List Int} {strideNs : Int} {entry : Int × Nat} {raw : List RawFailure}
    (h : ∃ evaluation, trajectory.evaluate library entry.1 = .ok evaluation) :
    OnlyRaises rawBudgetExceeded
      (judgeDerivatives library profile trajectory times strideNs raw entry) := by
  refine (OnlyRaises.of_exists h).bind fun evaluation _ => ?_
  split
  · exact .ok raw
  · exact appendAll_onlyRaises raw _

variable (library profile) in
/-- The failures of the motion, where it is judged. -/
def judgedMotion (first : ReferenceSample) (source : List ReferenceSample) : List RawFailure :=
  if structurallyValid first source && velocityAvailable source then
    motionFailures library.toFloatLibrary profile source
      (strideOf (source.map ReferenceSample.timeNs))
  else []

/-- The raw failures are those of the motion, with others around them. -/
theorem rawFailures_parts {parameters : TrajectoryGateParameters} {first : ReferenceSample}
    {source : List ReferenceSample} {positions : Option (List Vector3)} {raw : List RawFailure}
    (h : rawFailures library profile parameters first source positions = .ok raw) :
    ∃ structural derived, raw = structural ++ (judgedMotion library profile first source ++ derived) ∧
      ∀ failure ∈ structural ++ derived, failure.rule.consolidated = false ∧ Proper failure := by
  unfold rawFailures at h
  obtain ⟨stepped, hstepped, h⟩ := bind_eq_ok_iff.mp h
  obtain ⟨matched, hmatched, h⟩ := bind_eq_ok_iff.mp h
  have hmatched := appendAll_eq_ok hmatched
  rw [appendAll_eq_ok hstepped, List.nil_append] at hmatched
  have hstructural : ∀ failure ∈ matched, failure.rule.consolidated = false ∧ Proper failure := by
    rw [hmatched]
    refine List.forall_mem_append.mpr ⟨fun failure hmem => stepFailures_proper hmem, ?_⟩
    exact List.forall_mem_map.mpr fun index _ => coordinateFailure_proper _ index
  unfold judgedMotion
  split_ifs at h with hvalid
  · obtain ⟨moved, hmoved, h⟩ := bind_eq_ok_iff.mp h
    obtain ⟨referenced, hreferenced, h⟩ := bind_eq_ok_iff.mp h
    obtain ⟨trajectory, -, h⟩ := bind_eq_ok_iff.mp h
    obtain ⟨derived, rfl, hderived⟩ := foldlM_judgeDerivatives h
    rw [appendAll_eq_ok hreferenced, appendAll_eq_ok hmoved, hvalid, Bool.true_and,
      List.append_assoc, List.append_assoc]
    refine ⟨_, _, rfl, List.forall_mem_append.mpr ⟨hstructural, List.forall_mem_append.mpr
      ⟨fun failure hmem => referenceFailures_proper hmem, hderived⟩⟩⟩
  · cases h
    rw [Bool.not_eq_true] at hvalid
    rw [hvalid, Bool.false_and]
    refine ⟨raw, [], ?_, ?_⟩
    · simp
    · rw [List.append_nil]
      exact hstructural

end Appending

end CartoSentry.TrajectoryIntegrity
