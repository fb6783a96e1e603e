import CartoSentry.Trajectory.Windows

set_option autoImplicit false

/-!
# Trajectory: construction and evaluation

Where the fits succeed on every window with enough samples, a source is constructed as soon
as it has a cubic's worth of samples and finite displacements, and it is evaluated at each
of its times.
-/

namespace CartoSentry.Trajectory

open Contracts (Raised raiseIf raiseIf_eq_ok_iff raiseIf_bind)
open Foundation (Double bind_eq_ok_iff bind_unit_eq_ok_iff ok_bind exists_mapM_eq_ok
  map_eq_of_mapM_eq_ok mem_of_mapM_eq_ok)

/-! ## Checks of the samples -/

section Checks

variable {first : ReferenceSample}

theorem checkSamples_eq_ok {samples : List ReferenceSample} {previous : Option Int}
    (hsame : ∀ sample ∈ samples,
      sample.timeDomain = first.timeDomain ∧ sample.frames = first.frames)
    (hordered : (samples.map ReferenceSample.timeNs).Pairwise (· < ·))
    (hprevious : ∀ time ∈ previous, ∀ sample ∈ samples, time < sample.timeNs) :
    checkSamples first previous samples = .ok () := by
  induction samples generalizing previous with
  | nil => rfl
  | cons sample rest ih =>
    obtain ⟨⟨hdomain, hframes⟩, hrest⟩ := List.forall_mem_cons.mp hsame
    rw [List.map_cons, List.pairwise_cons, List.forall_mem_map] at hordered
    have hincreasing : ¬ ∃ time ∈ previous, sample.timeNs ≤ time := by
      rintro ⟨time, htime, hle⟩
      exact absurd (hprevious time htime sample List.mem_cons_self) (not_lt.mpr hle)
    rw [checkSamples, checkSample, raiseIf_bind (not_not.mpr hdomain),
      raiseIf_bind (not_not.mpr hframes), raiseIf_bind hincreasing]
    refine ih hrest hordered.2 fun time htime => ?_
    obtain rfl : sample.timeNs = time := Option.some.inj htime
    exact hordered.1

/-- The local samples, where every displacement from the first is finite. -/
theorem mapM_localSample_eq_ok_iff {origin : Vector3} {samples : List ReferenceSample} :
    (∃ locals, samples.mapM (localSample origin) = .ok locals) ↔
      ∀ sample ∈ samples, (sample.worldFromRig.translationM.sub origin).isFinite = true := by
  constructor
  · rintro ⟨locals, hlocals⟩ sample hsample
    obtain ⟨_, -, hlocal⟩ := mem_of_mapM_eq_ok hlocals hsample
    unfold localSample at hlocal
    split_ifs at hlocal with hfinite
    exact hfinite
  · intro h
    refine exists_mapM_eq_ok fun sample hsample => ?_
    exact ⟨_, dif_pos (h sample hsample)⟩

theorem localSample_fields {origin : Vector3} {sample own : ReferenceSample}
    (h : localSample origin sample = .ok own) : own.timeNs = sample.timeNs ∧
      own.sourceVelocityWorldMps = sample.sourceVelocityWorldMps ∧
        own.worldFromRig.translationM = sample.worldFromRig.translationM.sub origin := by
  unfold localSample at h
  split_ifs at h
  cases h
  exact ⟨rfl, rfl, rfl⟩

end Checks

/-! ## Fits -/

section Fits

variable {library : NumericLibrary} {parameters : TrajectoryGateParameters} {times : List Int}
  {velocities : List (Option Vector3)} {positions : List (List Double)}

variable (library parameters times positions) in
/-- The fit succeeds on every range with enough samples. -/
def FitsEverywhere : Prop :=
  ∀ queryTimeNs ∈ times, ∀ start finish, start + (derivativePolynomialDegree + 1) ≤ finish →
    finish ≤ times.length →
      ∃ coefficients, fitAt library parameters times queryTimeNs start finish positions =
        .ok coefficients

variable (parameters) in
/-- A window in a segment with enough samples has enough of them. -/
theorem window_suffices {segment : Segment} (hbounds : segment.start ≤ segment.finish)
    (hfinish : segment.finish < times.length)
    (hcount : derivativePolynomialDegree + 1 ≤ segment.sampleCount) (queryTimeNs : Int) :
    (window parameters times segment queryTimeNs).1 + (derivativePolynomialDegree + 1) ≤
        (window parameters times segment queryTimeNs).2 ∧
      (window parameters times segment queryTimeNs).2 ≤ times.length := by
  obtain ⟨-, hwidth, hend⟩ := window_bounds parameters times hbounds queryTimeNs
  have hhalf := parameters.halfWindow
  have hdegree : derivativePolynomialDegree = 3 := rfl
  omega

theorem exists_speedAt (hfits : FitsEverywhere library parameters times positions)
    {segment : Segment} (hbounds : segment.start ≤ segment.finish)
    (hfinish : segment.finish < times.length) {index : Nat} (hindex : index < times.length) :
    ∃ speed, speedAt library parameters times velocities positions segment index = .ok speed := by
  unfold speedAt
  split
  · exact ⟨_, rfl⟩
  · split_ifs with hshort
    · exact ⟨_, rfl⟩
    · have hmem : timeAt times index ∈ times := by
        rw [timeAt, List.getD_eq_getElem _ _ hindex]
        exact List.getElem_mem hindex
      obtain ⟨hstart, hend⟩ := window_suffices parameters hbounds hfinish
        (not_lt.mp hshort) (timeAt times index)
      obtain ⟨coefficients, hcoefficients⟩ := hfits _ hmem _ _ hstart hend
      dsimp only
      rw [hcoefficients]
      exact ⟨_, rfl⟩

variable (velocities) in
theorem exists_classifyStationary (hfits : FitsEverywhere library parameters times positions)
    (hnonempty : times ≠ []) : ∃ stationary, classifyStationary library parameters times velocities
      positions (makeSegments parameters times) = .ok stationary := by
  have hsegments : ∀ segment ∈ makeSegments parameters times,
      ∃ flags, classifySegment library parameters times velocities positions segment =
        .ok flags := by
    intro segment hsegment
    obtain ⟨hbounds, hfinish⟩ := makeSegments_bounds hnonempty hsegment
    have hspeeds : ∀ index ∈ List.range' segment.start segment.sampleCount, ∃ speed,
        speedAt library parameters times velocities positions segment index = .ok speed := by
      intro index hindex
      have hrange := List.mem_range'_1.mp hindex
      unfold Segment.sampleCount at hrange
      exact exists_speedAt hfits hbounds hfinish (by omega)
    obtain ⟨speeds, hspeeds⟩ := exists_mapM_eq_ok hspeeds
    unfold classifySegment
    dsimp only
    rw [hspeeds]
    exact ⟨_, rfl⟩
  obtain ⟨flags, hflags⟩ := exists_mapM_eq_ok hsegments
  unfold classifyStationary
  rw [hflags]
  exact ⟨_, rfl⟩

end Fits

/-! ## The constructor -/

namespace ContinuousReferenceTrajectory

variable {library : NumericLibrary} {parameters : TrajectoryGateParameters}

/-- What a trajectory is constructed with: the displacements, the segments of its times. -/
structure Built (parameters : TrajectoryGateParameters) (source : List ReferenceSample)
    (trajectory : ContinuousReferenceTrajectory) : Prop where
  under : trajectory.parameters = parameters
  ordered : trajectory.times = source.map ReferenceSample.timeNs
  parts : trajectory.segments = makeSegments parameters trajectory.times

/-- The displacements of the samples from the first. -/
def displacements (origin : Vector3) (source : List ReferenceSample) : List (List Double) :=
  source.map fun sample => (sample.worldFromRig.translationM.sub origin).toList

theorem times_of_mapM_localSample {origin : Vector3} {source locals : List ReferenceSample}
    (h : source.mapM (localSample origin) = .ok locals) :
    locals.map ReferenceSample.timeNs = source.map ReferenceSample.timeNs ∧
      locals.map (fun sample => sample.worldFromRig.translationM.toList) =
        displacements origin source := by
  refine ⟨map_eq_of_mapM_eq_ok h fun sample own hlocal => (localSample_fields hlocal).1,
    map_eq_of_mapM_eq_ok h fun sample own hlocal => ?_⟩
  rw [(localSample_fields hlocal).2.2]

theorem exists_construct {first : ReferenceSample} {rest : List ReferenceSample}
    (hcount : derivativePolynomialDegree + 1 ≤ (first :: rest).length)
    (hsame : ∀ sample ∈ first :: rest,
      sample.timeDomain = first.timeDomain ∧ sample.frames = first.frames)
    (hordered : ((first :: rest).map ReferenceSample.timeNs).Pairwise (· < ·))
    (hfinite : ∀ sample ∈ first :: rest,
      (sample.worldFromRig.translationM.sub first.worldFromRig.translationM).isFinite = true)
    (hfits : FitsEverywhere library parameters ((first :: rest).map ReferenceSample.timeNs)
      (displacements first.worldFromRig.translationM (first :: rest))) :
    ∃ trajectory, construct library parameters (first :: rest) = .ok trajectory ∧
      Built parameters (first :: rest) trajectory := by
  obtain ⟨locals, hlocals⟩ := mapM_localSample_eq_ok_iff.mpr hfinite
  obtain ⟨htimes, hpositions⟩ := times_of_mapM_localSample hlocals
  obtain ⟨stationary, hstationary⟩ := exists_classifyStationary
    (locals.map ReferenceSample.sourceVelocityWorldMps) hfits (by simp)
  unfold construct
  dsimp only
  rw [raiseIf_bind (not_lt.mpr hcount),
    checkSamples_eq_ok hsame hordered (fun time hnone => absurd hnone (Option.not_mem_none time)), ok_bind,
    hlocals, ok_bind, htimes, hpositions, hstationary]
  exact ⟨_, rfl, rfl, htimes, congrArg (makeSegments parameters) htimes.symm⟩

/-- Nothing is constructed from a few samples, nor from one that is infinitely far away. -/
theorem of_construct_eq_ok {first : ReferenceSample} {rest : List ReferenceSample}
    {trajectory : ContinuousReferenceTrajectory}
    (h : construct library parameters (first :: rest) = .ok trajectory) :
    derivativePolynomialDegree + 1 ≤ (first :: rest).length ∧ ∀ sample ∈ first :: rest,
      (sample.worldFromRig.translationM.sub first.worldFromRig.translationM).isFinite = true := by
  unfold construct at h
  obtain ⟨hcount, h⟩ := bind_unit_eq_ok_iff.mp h
  obtain ⟨-, h⟩ := bind_unit_eq_ok_iff.mp h
  obtain ⟨locals, hlocals, -⟩ := bind_eq_ok_iff.mp h
  exact ⟨not_lt.mp (raiseIf_eq_ok_iff.mp hcount), mapM_localSample_eq_ok_iff.mp ⟨locals, hlocals⟩⟩

/-! ## Evaluation -/

variable (library) in
/-- Both fits succeed on every range with enough samples, with finite derivatives. -/
def DerivesEverywhere (trajectory : ContinuousReferenceTrajectory) : Prop :=
  ∀ queryTimeNs ∈ trajectory.times, ∀ start finish,
    start + (derivativePolynomialDegree + 1) ≤ finish → finish ≤ trajectory.times.length →
      ∃ positionCoefficients headingCoefficients,
        fitAt library trajectory.parameters trajectory.times queryTimeNs start finish
          trajectory.positions = .ok positionCoefficients ∧
        fitAt library trajectory.parameters trajectory.times queryTimeNs start finish
          (trajectory.headings.map fun heading => [heading]) = .ok headingCoefficients ∧
        ∀ stationary, (derivativesOf library trajectory positionCoefficients headingCoefficients
          stationary).isFinite = true

variable (library) in
/-- A time of the source in a segment is found there. -/
theorem exists_poseAt {trajectory : ContinuousReferenceTrajectory}
    (hordered : trajectory.times.Pairwise (· < ·)) {segment : Segment}
    (hbounds : segment.start ≤ segment.finish) (hfinish : segment.finish < trajectory.times.length) {queryTimeNs : Int}
    (hafter : timeAt trajectory.times segment.start ≤ queryTimeNs)
    (hbefore : queryTimeNs ≤ timeAt trajectory.times segment.finish)
    (hquery : queryTimeNs ∈ trajectory.times) :
    ∃ pose, poseAt library trajectory segment queryTimeNs = .ok pose := by
  obtain ⟨index, hindex, rfl⟩ := List.getElem_of_mem hquery
  have hown : timeAt trajectory.times index = trajectory.times[index] :=
    List.getD_eq_getElem _ _ hindex
  rw [← hown] at hafter hbefore ⊢
  have hstartLe : segment.start ≤ index := by
    by_contra hlt
    exact absurd (timeAt_strict hordered (not_le.mp hlt) (hbounds.trans_lt hfinish))
      (not_lt.mpr hafter)
  have hleFinish : index ≤ segment.finish := by
    by_contra hlt
    exact absurd (timeAt_strict hordered (not_le.mp hlt) hindex) (not_lt.mpr hbefore)
  have hplace := bisectLeft_eq hordered hstartLe (Nat.lt_succ_of_le hleFinish) hindex
  unfold poseAt
  dsimp only
  rw [hplace, if_pos ⟨hleFinish, rfl⟩]
  exact ⟨_, rfl⟩

/-- A time of the source is evaluated to the pose of its sample. -/
theorem exists_evaluate {source : List ReferenceSample} {trajectory : ContinuousReferenceTrajectory}
    (hbuilt : Built parameters source trajectory)
    (hordered : trajectory.times.Pairwise (· < ·)) (hderives : DerivesEverywhere library trajectory)
    {queryTimeNs : Int} (hquery : queryTimeNs ∈ trajectory.times) :
    ∃ evaluation, evaluate library trajectory queryTimeNs = .ok evaluation := by
  unfold evaluate
  dsimp only
  split
  · exact ⟨_, rfl⟩
  · rename_i segment support hsegment
    obtain ⟨hmem, hcount, hafter, hbefore⟩ := segmentFor_eq_some hsegment
    rw [hbuilt.parts] at hmem
    obtain ⟨hbounds, hfinish⟩ := makeSegments_bounds (List.ne_nil_of_mem hquery) hmem
    obtain ⟨pose, hpose⟩ := exists_poseAt library hordered hbounds hfinish hafter hbefore
      hquery
    obtain ⟨hstart, hend⟩ := window_suffices trajectory.parameters hbounds hfinish hcount queryTimeNs
    obtain ⟨positions, headings, hpositions, hheadings, hfinite⟩ :=
      hderives queryTimeNs hquery _ _ hstart hend
    rw [hpose, ok_bind, hpositions, ok_bind, hheadings, ok_bind, raiseIf_bind]
    · exact ⟨_, rfl⟩
    · rw [hfinite]
      exact Bool.noConfusion

end ContinuousReferenceTrajectory

end CartoSentry.Trajectory
