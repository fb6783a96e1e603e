import CartoSentry.Trajectory.Evaluation
import CartoSentry.TrajectoryIntegrity.Freezes

set_option autoImplicit false

/-!
# Trajectory integrity: structural evidence

When the detector returns a report: the structure of a source never stops it, but a source
whose structure is valid is handed to the constructor of the continuous trajectory.
-/

namespace CartoSentry.TrajectoryIntegrity

open Artifacts (Platform Sha256 isSha256)
open Contracts (Raised OnlyRaises raiseIf raiseIf_eq_ok_iff raiseIf_bind)
open Foundation (Double bind_eq_ok_iff bind_unit_eq_ok_iff ok_bind exists_mapM_eq_ok)
open Trajectory (Vector3 FloatLibrary NumericLibrary ReferenceSample TrajectoryGateParameters FitsEverywhere
  ContinuousReferenceTrajectory derivativePolynomialDegree fitAt timeAt timeAt_strict)
open Trajectory.ContinuousReferenceTrajectory (construct Built DerivesEverywhere displacements derivativesOf
  exists_construct of_construct_eq_ok exists_evaluate)

/-! ## The passes -/

section Passes

variable {library : NumericLibrary} {profile : TrajectoryIntegrityProfile}
  {parameters : TrajectoryGateParameters} {first : ReferenceSample} {rest : List ReferenceSample}
  {positions : Option (List Vector3)}

/-- Enough samples for a cubic, all of them finitely far from the first. -/
structure Constructible (first : ReferenceSample) (samples : List ReferenceSample) : Prop where
  enough : derivativePolynomialDegree + 1 ≤ samples.length
  finite : ∀ sample ∈ samples,
    (sample.worldFromRig.translationM.sub first.worldFromRig.translationM).isFinite = true

variable (library parameters first rest) in
/-- The fit succeeds on every window with enough samples, with finite derivatives. -/
structure FitSucceeds : Prop where
  speeds : FitsEverywhere library parameters ((first :: rest).map ReferenceSample.timeNs)
    (displacements first.worldFromRig.translationM (first :: rest))
  derivatives : ∀ trajectory, construct library parameters (first :: rest) = .ok trajectory →
    DerivesEverywhere library trajectory

/-- A valid structure is what the constructor asks for. -/
theorem same_of_structurallyValid {samples : List ReferenceSample}
    (h : structurallyValid first samples = true) :
    (samples.map ReferenceSample.timeNs).Pairwise (· < ·) ∧ ∀ sample ∈ samples,
      sample.timeDomain = first.timeDomain ∧ sample.frames = first.frames := by
  rw [structurallyValid, Bool.and_eq_true, List.isEmpty_iff, coordinateMismatches,
    List.map_eq_nil_iff, List.filter_eq_nil_iff] at h
  refine ⟨pairwise_of_forwardSteps h.1, fun sample hsample => ?_⟩
  obtain ⟨index, hindex⟩ := List.getElem?_of_mem hsample
  have hmatch := h.2 (sample, index) (List.mem_zipIdx_iff_getElem?.mpr hindex)
  rw [decide_eq_true_eq, not_or, not_or, not_not, not_not] at hmatch
  exact ⟨hmatch.1, hmatch.2.1⟩

theorem contentFailures_onlyRaises {strideNs : Int} {available : Bool} {raw : List RawFailure}
    (hfit : FitSucceeds library parameters first rest)
    (hvalid : structurallyValid first (first :: rest) = true)
    (hconstructible : Constructible first (first :: rest)) :
    OnlyRaises rawBudgetExceeded (contentFailures library profile parameters (first :: rest)
      strideNs available positions raw) := by
  obtain ⟨hordered, hsame⟩ := same_of_structurallyValid hvalid
  obtain ⟨trajectory, htrajectory, hbuilt⟩ :=
    exists_construct hconstructible.enough hsame hordered hconstructible.finite hfit.speeds
  have hderives := hfit.derivatives trajectory htrajectory
  refine (appendAll_onlyRaises raw _).bind fun moved _ => ?_
  refine (appendAll_onlyRaises moved _).bind fun referenced _ => ?_
  rw [htrajectory, ok_bind]
  refine .foldlM fun entry hentry state => judgeDerivatives_onlyRaises ?_
  have hquery : entry.1 ∈ trajectory.times := by
    rw [hbuilt.ordered]
    exact List.fst_mem_of_mem_zipIdx hentry
  refine exists_evaluate hbuilt ?_ hderives hquery
  rw [hbuilt.ordered]
  exact hordered

/-- Only the budget stops the passes over a source that is invalid or constructible. -/
theorem rawFailures_onlyRaises (hfit : FitSucceeds library parameters first rest)
    (h : structurallyValid first (first :: rest) = true → Constructible first (first :: rest)) :
    OnlyRaises rawBudgetExceeded
      (rawFailures library profile parameters first (first :: rest) positions) := by
  refine (appendAll_onlyRaises [] _).bind fun stepped _ => ?_
  refine (appendAll_onlyRaises stepped _).bind fun matched _ => ?_
  split_ifs with hvalid
  · exact contentFailures_onlyRaises hfit hvalid (h hvalid)
  · exact .ok matched

/-- A valid source comes out of the passes only when it is constructible. -/
theorem constructible_of_rawFailures {raw : List RawFailure}
    (h : rawFailures library profile parameters first (first :: rest) positions = .ok raw)
    (hvalid : structurallyValid first (first :: rest) = true) :
    Constructible first (first :: rest) := by
  unfold rawFailures at h
  obtain ⟨stepped, -, h⟩ := bind_eq_ok_iff.mp h
  obtain ⟨matched, -, h⟩ := bind_eq_ok_iff.mp h
  rw [if_pos hvalid] at h
  obtain ⟨moved, -, h⟩ := bind_eq_ok_iff.mp h
  obtain ⟨referenced, -, h⟩ := bind_eq_ok_iff.mp h
  obtain ⟨trajectory, htrajectory, -⟩ := bind_eq_ok_iff.mp h
  obtain ⟨henough, hfinite⟩ := of_construct_eq_ok htrajectory
  exact ⟨henough, hfinite⟩

end Passes

/-! ## The consolidated failures -/

section Paired

variable {library : FloatLibrary} {profile : TrajectoryIntegrityProfile}
  {source : List ReferenceSample}

theorem jumpAt_eq_some {index : Nat} {failure : RawFailure}
    (h : jumpAt library profile source index = some failure) :
    index + 1 < source.length ∧
      failure.endTimeNs = timeAt (source.map ReferenceSample.timeNs) (index + 1) ∧
        failure.endIndexExclusive = index + 1 := by
  unfold jumpAt at h
  obtain ⟨motion, hmotion, hfailure⟩ := Option.bind_eq_some_iff.mp h
  unfold jumpFailure at hfailure
  split_ifs at hfailure
  cases hfailure
  exact ⟨motionAt_lt hmotion, rfl, rfl⟩

/-- The jumps end one after the other. -/
theorem jumps_ascending (hordered : (source.map ReferenceSample.timeNs).Pairwise (· < ·)) :
    ((List.range (source.length - 1)).filterMap (jumpAt library profile source)).Pairwise
      fun left right =>
        left.endTimeNs < right.endTimeNs ∧ left.endIndexExclusive < right.endIndexExclusive := by
  refine List.pairwise_filterMap.mpr (List.pairwise_lt_range.imp fun {left right} hlt => ?_)
  intro failure hfailure other hother
  obtain ⟨-, hend, hindex⟩ := jumpAt_eq_some hfailure
  obtain ⟨hlength, hotherEnd, hotherIndex⟩ := jumpAt_eq_some hother
  rw [hend, hindex, hotherEnd, hotherIndex]
  refine ⟨timeAt_strict hordered (Nat.succ_lt_succ hlt) ?_, Nat.succ_lt_succ hlt⟩
  rw [List.length_map]
  exact hlength

/-- Pairing keeps failures proper where the jumps end one after the other. -/
theorem pairPositionSteps_proper {jumpThresholdM : Double} {maximumPairDurationNs : Int}
    {failures : List RawFailure} (hproper : ∀ failure ∈ failures, Proper failure)
    (hascending : (failures.filter fun item => item.rule = .positionJump).Pairwise
      fun left right =>
        left.endTimeNs < right.endTimeNs ∧ left.endIndexExclusive < right.endIndexExclusive) :
    ∀ failure ∈ pairPositionSteps library jumpThresholdM maximumPairDurationNs failures,
      Proper failure := by
  obtain ⟨steps, hsteps⟩ : ∃ steps, Scanned library jumpThresholdM maximumPairDurationNs _ _ steps :=
    pairJumps_scanned (failures.filter fun item => item.rule = .positionJump)
  have hconsumed : ∀ step ∈ steps, ∀ jump ∈ step.consumed, Proper jump := by
    intro step hstep jump hjump
    have hmem : jump ∈ failures.filter fun item => item.rule = .positionJump := by
      rw [hsteps.consumed]
      exact List.mem_flatMap.mpr ⟨step, hstep, hjump⟩
    exact hproper jump (List.mem_filter.mp hmem).1
  rw [pairPositionSteps, hsteps.outcomes]
  refine List.forall_mem_append.mpr ⟨fun failure hfailure => ?_, ?_⟩
  · exact hproper failure (List.mem_filter.mp hfailure).1
  · refine List.forall_mem_map.mpr fun step hstep => ?_
    cases step with
    | kept jump => exact hconsumed _ hstep jump (List.mem_singleton.mpr rfl)
    | merged left right =>
      obtain ⟨htimes, hindices⟩ := hsteps.merged_related hascending hstep
      have hmeasured := (hconsumed _ hstep left List.mem_cons_self).measured
      exact ⟨htimes, hindices, List.append_ne_nil_of_left_ne_nil hmeasured _⟩

/-- A kept freeze is proper. -/
theorem keptFreeze_proper (hordered : (source.map ReferenceSample.timeNs).Pairwise (· < ·))
    {minimumDurationNs : Int} {group : List RawFailure} {freeze : RawFailure}
    (hgroup : group ∈ (freezeSteps library profile source).splitBy continues)
    (h : keptFreeze profile minimumDurationNs group = some freeze) : Proper freeze := by
  obtain ⟨first, last, hfreezes⟩ := freezeGroup_of_mem hgroup
  obtain ⟨-, rfl⟩ := (keptFreeze_eq_some_iff hfreezes).mp h
  have hcovers := freezeOf_covers hfreezes
  have hle := (hfreezes.bounds last (List.mem_of_mem_getLast? hfreezes.final)).1
  have hlength := (mem_freezeSteps (hfreezes.subset (List.mem_of_mem_getLast? hfreezes.final))).2.1
  have hbehind : first.startIndex < freezeEnd source last.startIndex := by
    rw [freezeEnd]
    omega
  refine ⟨?_, ?_, List.append_ne_nil_of_right_ne_nil _ (List.cons_ne_nil _ _)⟩
  · rw [hcovers.start, hcovers.finish]
    refine timeAt_strict hordered hbehind ?_
    rw [List.length_map, freezeEnd]
    omega
  · rw [hcovers.startIndex, hcovers.endIndex]
    exact hbehind

/-- What is kept has another rule and was there before, or it is a freeze. -/
theorem mem_of_mem_consolidateFreezes {failures kept : List RawFailure}
    (h : consolidateFreezes profile failures = .ok kept) {failure : RawFailure}
    (hmem : failure ∈ kept) (hrule : failure.rule ≠ .positionFreeze) : failure ∈ failures := by
  unfold consolidateFreezes at h
  obtain ⟨minimumDurationNs, -, h⟩ := bind_eq_ok_iff.mp h
  cases h
  rcases List.mem_append.mp hmem with hretained | hfreeze
  · exact (List.mem_filter.mp hretained).1
  · obtain ⟨group, -, hkept⟩ := List.mem_filterMap.mp hfreeze
    unfold keptFreeze at hkept
    split at hkept
    · split_ifs at hkept
      cases hkept
      exact absurd rfl hrule
    · cases hkept

end Paired

section Consolidated

variable {library : NumericLibrary} {profile : TrajectoryIntegrityProfile}
  {parameters : TrajectoryGateParameters} {first : ReferenceSample} {source : List ReferenceSample}
  {positions : Option (List Vector3)} {raw : List RawFailure}

/-- The failures with a rule of the motion are those of its steps, all proper. -/
theorem judged_of_rawFailures
    (h : rawFailures library profile parameters first source positions = .ok raw) :
    ∃ judged : List ReferenceSample, (judged.map ReferenceSample.timeNs).Pairwise (· < ·) ∧
      (∀ failure ∈ raw, Proper failure) ∧
      (raw.filter fun item => item.rule = .positionJump) =
        (List.range (judged.length - 1)).filterMap (jumpAt library.toFloatLibrary profile judged) ∧
      (raw.filter fun item => item.rule = .positionFreeze) =
        freezeSteps library.toFloatLibrary profile judged := by
  obtain ⟨structural, derived, rfl, hothers⟩ := rawFailures_parts h
  obtain ⟨hstructural, hderived⟩ := List.forall_mem_append.mp hothers
  have hfilter : ∀ rule : TrajectoryRule, rule.consolidated = true →
      (structural ++ (judgedMotion library profile first source ++ derived)).filter
          (fun item => item.rule = rule) =
        (judgedMotion library profile first source).filter (fun item => item.rule = rule) := by
    intro rule hrule
    have hnone : ∀ others : List RawFailure,
        (∀ failure ∈ others, failure.rule.consolidated = false ∧ Proper failure) →
          others.filter (fun item => item.rule = rule) = [] := by
      intro others hothers
      refine List.filter_eq_nil_iff.mpr fun failure hfailure heq => ?_
      rw [← of_decide_eq_true heq, (hothers failure hfailure).1] at hrule
      cases hrule
    rw [List.filter_append, List.filter_append, hnone structural hstructural,
      hnone derived hderived, List.nil_append, List.append_nil]
  rw [hfilter _ rfl, hfilter _ rfl]
  have hproper : (∀ failure ∈ judgedMotion library profile first source, Proper failure) →
      ∀ failure ∈ structural ++ (judgedMotion library profile first source ++ derived),
        Proper failure := by
    intro hmotion
    refine List.forall_mem_append.mpr ⟨fun failure hmem => (hstructural failure hmem).2, ?_⟩
    exact List.forall_mem_append.mpr ⟨hmotion, fun failure hmem => (hderived failure hmem).2⟩
  cases hjudged : structurallyValid first source && velocityAvailable source with
  | true =>
    have hordered := (same_of_structurallyValid ((Bool.and_eq_true _ _).mp hjudged).1).1
    have hmotion : judgedMotion library profile first source =
        motionFailures library.toFloatLibrary profile source
          (strideOf (source.map ReferenceSample.timeNs)) := if_pos hjudged
    refine ⟨source, hordered, hproper fun failure hmem => ?_, ?_, ?_⟩
    · rw [hmotion] at hmem
      exact motionFailures_proper hordered hmem
    · rw [hmotion, filter_motion_jumps]
    · rw [hmotion, filter_motion_freezes]
      rfl
  | false =>
    have hmotion : judgedMotion library profile first source = [] :=
      if_neg (by rw [hjudged]; exact Bool.false_ne_true)
    refine ⟨[], List.Pairwise.nil, hproper fun failure hmem => ?_, ?_, ?_⟩
    · rw [hmotion] at hmem
      cases hmem
    · rw [hmotion]
      rfl
    · rw [hmotion]
      rfl

theorem consolidateFailures_proper {kept : List RawFailure}
    (hraw : rawFailures library profile parameters first source positions = .ok raw)
    (h : consolidateFailures library profile raw = .ok kept) :
    ∀ failure ∈ kept, Proper failure := by
  obtain ⟨judged, hordered, hproper, hjumps, hfreezes⟩ := judged_of_rawFailures hraw
  have hpaired : ∀ failure ∈ pairPositionSteps library.toFloatLibrary
      (profile.thresholds .positionJumpResidualM).value
      profile.eventConsolidation.pairedStepMaximumDurationNs raw, Proper failure := by
    refine pairPositionSteps_proper hproper ?_
    rw [hjumps]
    exact jumps_ascending hordered
  intro failure hmem
  by_cases hrule : failure.rule = .positionFreeze
  · unfold consolidateFailures at h
    obtain ⟨minimumDurationNs, hminimum, -⟩ := bind_eq_ok_iff.mp h
    obtain ⟨group, hgroup, hkept⟩ := (mem_consolidateFreezes_iff hordered
      ((filter_pairPositionSteps raw).trans hfreezes) hminimum h).mp ⟨hmem, hrule⟩
    exact keptFreeze_proper hordered hgroup hkept
  · exact hpaired failure (mem_of_mem_consolidateFreezes h hmem hrule)

end Consolidated

/-! ## The report -/

section Report

variable {platform : Platform} {library : NumericLibrary} {profile : TrajectoryIntegrityProfile}
  {parameters : TrajectoryGateParameters} {first : ReferenceSample} {rest : List ReferenceSample}

variable (library profile parameters first rest) in
/-- None of the three budgets is exceeded. -/
structure WithinBudgets : Prop where
  samples : (first :: rest).length ≤ profile.budgets.maximumSamples
  rawFailures : rawFailures library profile parameters first (first :: rest) none ≠
    .error rawBudgetExceeded
  events : ∀ raw kept,
    TrajectoryIntegrity.rawFailures library profile parameters first (first :: rest) none = .ok raw →
      consolidateFailures library profile raw = .ok kept →
        (eventGroups profile kept (strideOf ((first :: rest).map ReferenceSample.timeNs))).length ≤
          profile.budgets.maximumEvents

/-- The minimum duration of a freeze becomes a whole number where it is finite. -/
theorem exists_truncated_iff {value : Double} (hnonnegative : (Double.finite 0).le value = true) :
    (∃ whole, truncated value = .ok whole) ↔ value.isFinite = true := by
  cases value with
  | finite value => exact iff_of_true ⟨_, rfl⟩ rfl
  | negativeZero => exact iff_of_true ⟨_, rfl⟩ rfl
  | infinity negative =>
    refine iff_of_false ?_ Bool.false_ne_true
    rintro ⟨whole, hwhole⟩
    cases hwhole
  | nan => cases hnonnegative

/-- Every rule has its support. -/
theorem exists_supportOf (structuralValid velocityAvailable : Bool)
    (positions : Option (List Vector3)) (kind : ReferenceEvidenceKind) :
    ∃ support, TrajectoryRule.all.mapM
      (supportOf (supportRecords structuralValid velocityAvailable positions kind)) = .ok support := by
  refine exists_mapM_eq_ok fun rule _ => ?_
  cases rule <;> exact ⟨_, rfl⟩

/-- A report is what comes out of the passes and of the consolidation. -/
theorem exists_report_iff {sourceSha256 : String} {partition : SyntheticPartition}
    {profileFileSha256 : Sha256} (hbudgets : WithinBudgets library profile parameters first rest)
    (hdigest : isSha256 sourceSha256.toList = true) :
    (∃ report, detectTrajectoryIntegrity platform library profile (first :: rest) sourceSha256
        partition profileFileSha256 parameters none = .ok report) ↔
      ∃ raw kept, rawFailures library profile parameters first (first :: rest) none = .ok raw ∧
        consolidateFailures library profile raw = .ok kept := by
  have hsource : sourceDigest sourceSha256 = .ok ⟨sourceSha256, hdigest⟩ := dif_pos hdigest
  have hreference : referencePositions (first :: rest) ⟨sourceSha256, hdigest⟩ none =
      .ok (none, .none) := rfl
  unfold detectTrajectoryIntegrity
  dsimp only
  rw [raiseIf_bind (not_lt.mpr hbudgets.samples), hsource, ok_bind, hreference, ok_bind]
  constructor
  · rintro ⟨report, hreport⟩
    obtain ⟨raw, hraw, hreport⟩ := bind_eq_ok_iff.mp hreport
    obtain ⟨kept, hkept, -⟩ := bind_eq_ok_iff.mp hreport
    exact ⟨raw, kept, hraw, hkept⟩
  · rintro ⟨raw, kept, hraw, hkept⟩
    have hproper := consolidateFailures_proper hraw hkept
    obtain ⟨support, hsupport⟩ := exists_supportOf (structurallyValid first (first :: rest))
      (velocityAvailable (first :: rest)) none .none
    rcases consolidateEvents_cases platform profile ⟨sourceSha256, hdigest⟩
      (strideOf ((first :: rest).map ReferenceSample.timeNs)) hproper with
      ⟨hexceeded, -⟩ | ⟨-, events, hevents, -⟩
    · exact absurd (hbudgets.events raw kept hraw hkept) (not_le.mpr hexceeded)
    · refine ⟨_, bind_eq_ok_iff.mpr ⟨raw, hraw, bind_eq_ok_iff.mpr ⟨kept, hkept,
        bind_eq_ok_iff.mpr ⟨events, hevents, bind_eq_ok_iff.mpr ⟨support, hsupport, rfl⟩⟩⟩⟩⟩

/-- **What hides structural evidence.**  Within the budgets the detector returns a report
unless the least duration of a freeze is infinite, or the structure of the source is valid
and the continuous trajectory cannot be constructed from it. -/
theorem detect_returns_iff (platform : Platform) (library : NumericLibrary)
    (profile : TrajectoryIntegrityProfile) (parameters : TrajectoryGateParameters)
    (first : ReferenceSample) (rest : List ReferenceSample) (sourceSha256 : String)
    (partition : SyntheticPartition) (profileFileSha256 : Sha256)
    (hdigest : isSha256 sourceSha256.toList = true)
    (hbudgets : WithinBudgets library profile parameters first rest)
    (hfit : FitSucceeds library parameters first rest) :
    (∃ report, detectTrajectoryIntegrity platform library profile (first :: rest) sourceSha256
        partition profileFileSha256 parameters none = .ok report) ↔
      (profile.thresholds .freezeMinimumDurationNs).value.isFinite = true ∧
        (structurallyValid first (first :: rest) = true → Constructible first (first :: rest)) := by
  rw [exists_report_iff hbudgets hdigest,
    ← exists_truncated_iff (profile.thresholds .freezeMinimumDurationNs).nonnegative]
  constructor
  · rintro ⟨raw, kept, hraw, hkept⟩
    unfold consolidateFailures at hkept
    obtain ⟨whole, hwhole, -⟩ := bind_eq_ok_iff.mp hkept
    exact ⟨⟨whole, hwhole⟩, constructible_of_rawFailures hraw⟩
  · rintro ⟨⟨whole, hwhole⟩, hconstructible⟩
    rcases rawFailures_onlyRaises hfit hconstructible with ⟨raw, hraw⟩ | hexceeded
    · have hkept : ∃ kept, consolidateFailures library profile raw = .ok kept :=
        ⟨_, bind_eq_ok_iff.mpr ⟨whole, hwhole, rfl⟩⟩
      obtain ⟨kept, hkept⟩ := hkept
      exact ⟨raw, kept, hraw, hkept⟩
    · exact absurd hexceeded hbudgets.rawFailures

end Report

/-! ## A steady source and a sparse one -/

/-- Four samples, ten meters a second. -/
def steadyRest : List ReferenceSample :=
  [sampleAt 100000000 1, sampleAt 200000000 2, sampleAt 300000000 3]

theorem sampleNumerics_fits (times : List Int) (positions : List (List Double)) :
    FitsEverywhere sampleNumerics sampleParameters times positions := by
  intro queryTimeNs _ start finish _ _
  exact ⟨_, rfl⟩

theorem steady_derives (trajectory : ContinuousReferenceTrajectory)
    (h : construct sampleNumerics sampleParameters (sampleAt 0 0 :: steadyRest) = .ok trajectory) :
    DerivesEverywhere sampleNumerics trajectory := by
  have hfitted : ∀ trajectory ∈ (construct sampleNumerics sampleParameters
      (sampleAt 0 0 :: steadyRest)).toOption, trajectory.times.length = 4 ∧
        ∀ queryTimeNs ∈ trajectory.times, ∀ stationary,
          ((fitAt sampleNumerics trajectory.parameters trajectory.times queryTimeNs 0 4
            trajectory.positions).toOption.bind fun positions =>
          (fitAt sampleNumerics trajectory.parameters trajectory.times queryTimeNs 0 4
            (trajectory.headings.map fun heading => [heading])).toOption.map fun headings =>
              (derivativesOf sampleNumerics trajectory positions headings stationary).isFinite) =
            some true := by
    decide +kernel
  rw [h] at hfitted
  obtain ⟨hlength, hderived⟩ := hfitted trajectory rfl
  intro queryTimeNs hquery start finish hcount hfinish
  have hdegree : derivativePolynomialDegree = 3 := rfl
  obtain ⟨rfl, rfl⟩ : start = 0 ∧ finish = 4 := by omega
  obtain ⟨positions, hpositions⟩ : ∃ positions, fitAt sampleNumerics trajectory.parameters
      trajectory.times queryTimeNs 0 4 trajectory.positions = .ok positions := ⟨_, rfl⟩
  obtain ⟨headings, hheadings⟩ : ∃ headings, fitAt sampleNumerics trajectory.parameters
      trajectory.times queryTimeNs 0 4 (trajectory.headings.map fun heading => [heading]) =
        .ok headings := ⟨_, rfl⟩
  refine ⟨positions, headings, hpositions, hheadings, fun stationary => ?_⟩
  have hfinite := hderived queryTimeNs hquery stationary
  rw [hpositions, hheadings] at hfinite
  exact Option.some.inj hfinite

theorem steady_withinBudgets :
    WithinBudgets sampleNumerics profileV1 sampleParameters (sampleAt 0 0) steadyRest := by
  have hraw : rawFailures sampleNumerics profileV1 sampleParameters (sampleAt 0 0)
      (sampleAt 0 0 :: steadyRest) none = .ok [] :=
    Foundation.eq_ok_of_toOption (by decide +kernel)
  have hkept : consolidateFailures sampleNumerics profileV1 [] = .ok [] :=
    Foundation.eq_ok_of_toOption (by decide +kernel)
  refine ⟨by decide, ?_, fun raw kept hsame hconsolidated => ?_⟩
  · rw [hraw]
    exact fun h => by cases h
  · obtain rfl := Except.ok.inj (hraw.symm.trans hsame)
    obtain rfl := Except.ok.inj (hkept.symm.trans hconsolidated)
    exact Nat.zero_le _

theorem detect_returns_iff_steady : ∃ report,
    detectTrajectoryIntegrity Ingestion.samplePlatform sampleNumerics profileV1
      (sampleAt 0 0 :: steadyRest) profileV1.immutableSha256.text .development
      profileV1.immutableSha256 sampleParameters none = .ok report := by
  refine (detect_returns_iff Ingestion.samplePlatform sampleNumerics profileV1 sampleParameters
    (sampleAt 0 0) steadyRest profileV1.immutableSha256.text .development
    profileV1.immutableSha256 (by decide) steady_withinBudgets
    ⟨sampleNumerics_fits _ _, steady_derives⟩).mpr ⟨rfl, fun _ => ⟨by decide, ?_⟩⟩
  decide +kernel

/-- Two samples with a second between them are an oversized gap, and the constructor that
asks for four samples hides it. -/
theorem sparse_gap_hidden :
    (stepFailures profileV1 [0, 1000000000]).map RawFailure.rule = [.timestampGap] ∧
    ¬ ∀ (first : ReferenceSample) (rest : List ReferenceSample),
      WithinBudgets sampleNumerics profileV1 sampleParameters first rest →
      FitSucceeds sampleNumerics sampleParameters first rest → ∃ report,
        detectTrajectoryIntegrity Ingestion.samplePlatform sampleNumerics profileV1 (first :: rest)
          profileV1.immutableSha256.text .development profileV1.immutableSha256 sampleParameters
          none = .ok report := by
  have hvalid : structurallyValid (sampleAt 0 0) [sampleAt 0 0, sampleAt 1000000000 10] = true := by
    decide +kernel
  have hfew : ¬ Constructible (sampleAt 0 0) [sampleAt 0 0, sampleAt 1000000000 10] :=
    fun h => absurd h.enough (by decide)
  have hraised : rawFailures sampleNumerics profileV1 sampleParameters (sampleAt 0 0)
      [sampleAt 0 0, sampleAt 1000000000 10] none ≠ .error rawBudgetExceeded := by
    decide +kernel
  have hnone : ∀ raw, rawFailures sampleNumerics profileV1 sampleParameters (sampleAt 0 0)
      [sampleAt 0 0, sampleAt 1000000000 10] none ≠ .ok raw :=
    fun raw hraw => hfew (constructible_of_rawFailures hraw hvalid)
  have hbudgets : WithinBudgets sampleNumerics profileV1 sampleParameters (sampleAt 0 0)
      [sampleAt 1000000000 10] :=
    ⟨by decide, hraised, fun raw kept hraw _ => absurd hraw (hnone raw)⟩
  refine ⟨by decide +kernel, fun h => ?_⟩
  obtain ⟨raw, kept, hraw, -⟩ := (exists_report_iff hbudgets (by decide)).mp
    (h (sampleAt 0 0) [sampleAt 1000000000 10] hbudgets ⟨sampleNumerics_fits _ _,
      fun trajectory htrajectory => absurd (of_construct_eq_ok htrajectory).1 (by decide)⟩)
  exact hnone raw hraw

end CartoSentry.TrajectoryIntegrity
