import CartoSentry.Trajectory.Continuous

set_option autoImplicit false

/-!
# Trajectory: windows

Segments lie within the samples, and a window lies within its segment: with enough samples
in the segment there are enough in the window.
-/

namespace CartoSentry.Trajectory

section Windows

variable {parameters : TrajectoryGateParameters} {times : List Int}

/-! ## Times -/

theorem timeAt_strict (h : times.Pairwise (· < ·)) {i j : Nat} (hij : i < j)
    (hj : j < times.length) : timeAt times i < timeAt times j := by
  have hi : i < times.length := hij.trans hj
  rw [timeAt, timeAt, List.getD_eq_getElem _ _ hi, List.getD_eq_getElem _ _ hj]
  exact List.pairwise_iff_getElem.mp h i j hi hj hij

theorem timeAt_mono (h : times.Pairwise (· < ·)) {i j : Nat} (hij : i ≤ j)
    (hj : j < times.length) : timeAt times i ≤ timeAt times j := by
  rcases hij.eq_or_lt with rfl | hlt
  · exact le_rfl
  · exact (timeAt_strict h hlt hj).le

/-! ## Segments -/

variable (parameters times) in
theorem segmentStarts_pairwise : (segmentStarts parameters times).Pairwise (· < ·) := by
  refine List.pairwise_cons.mpr ⟨fun index hindex => ?_, ?_⟩
  · have hrange := List.mem_range'_1.mp (List.mem_filter.mp hindex).1
    omega
  · exact (List.pairwise_lt_range' 1).filter _

theorem lt_of_mem_segmentStarts (h : times ≠ []) {start : Nat}
    (hstart : start ∈ segmentStarts parameters times) : start < times.length := by
  have hlength := List.length_pos_iff.mpr h
  rcases List.mem_cons.mp hstart with rfl | hmem
  · exact hlength
  · have hrange := List.mem_range'_1.mp (List.mem_filter.mp hmem).1
    omega

/-- The segment for a time has enough samples, the time among them. -/
theorem segmentFor_eq_some {segments : List Segment} {queryTimeNs : Int} {segment : Segment}
    {support : TrajectorySupport} (h : segmentFor times segments queryTimeNs = (some segment, support)) :
    segment ∈ segments ∧ derivativePolynomialDegree + 1 ≤ segment.sampleCount ∧
      timeAt times segment.start ≤ queryTimeNs ∧ queryTimeNs ≤ timeAt times segment.finish := by
  unfold segmentFor at h
  split_ifs at h
  · cases h
  · split at h
    · cases h
    · rename_i found hfound
      split_ifs at h with hshort
      · cases h
      · cases h
        have hinside : timeAt times segment.start ≤ queryTimeNs ∧
            queryTimeNs ≤ timeAt times segment.finish := by
          simpa using List.find?_some hfound
        exact ⟨List.mem_of_find?_eq_some hfound, not_lt.mp hshort, hinside⟩

/-- A segment is a range of samples. -/
theorem makeSegments_bounds (h : times ≠ []) {segment : Segment}
    (hsegment : segment ∈ makeSegments parameters times) :
    segment.start ≤ segment.finish ∧ segment.finish < times.length := by
  unfold makeSegments at hsegment
  obtain ⟨⟨start, place⟩, hentry, rfl⟩ := List.mem_map.mp hsegment
  obtain ⟨hplace, hstart⟩ := List.getElem?_eq_some_iff.mp (List.mem_zipIdx_iff_getElem?.mp hentry)
  dsimp only at hplace hstart ⊢
  have hbound : start < times.length := by
    rw [← hstart]
    exact lt_of_mem_segmentStarts h (List.getElem_mem hplace)
  split_ifs with hnext
  · have hlt := List.pairwise_iff_getElem.mp (segmentStarts_pairwise parameters times) place (place + 1) hplace hnext (Nat.lt_succ_self place)
    have hnextBound := lt_of_mem_segmentStarts h (List.getElem_mem hnext)
    rw [List.getD_eq_getElem _ _ hnext]
    omega
  · omega

/-! ## Windows -/

variable (parameters times) in
/-- A window lies within its segment, and is as long as the half windows and the segment
allow for. -/
theorem window_bounds {segment : Segment} (h : segment.start ≤ segment.finish) (queryTimeNs : Int) :
    segment.start ≤ (window parameters times segment queryTimeNs).1 ∧
      (window parameters times segment queryTimeNs).1 +
          min (2 * parameters.derivativeHalfWindowSamples + 1) segment.sampleCount =
        (window parameters times segment queryTimeNs).2 ∧
      (window parameters times segment queryTimeNs).2 ≤ segment.finish + 1 := by
  unfold window Segment.sampleCount
  dsimp only
  omega

/-- The place of a query is that of the first sample of the range that is not before it. -/
theorem bisectLeft_eq_of {queryTimeNs : Int} {lo hi index : Nat} (hlo : lo ≤ index)
    (hhi : index < hi) (hlength : index < times.length)
    (hbefore : ∀ place, lo ≤ place → place < index → timeAt times place < queryTimeNs)
    (hreached : queryTimeNs ≤ timeAt times index) :
    bisectLeft times queryTimeNs lo hi = index := by
  have hfront : times.take hi = times.take index ++ (times.take hi).drop index := by
    have hsplit := List.take_append_drop index (times.take hi)
    rw [List.take_take, Nat.min_eq_left hhi.le] at hsplit
    exact hsplit.symm
  have hinside : index < (times.take hi).length := by
    rw [List.length_take]
    omega
  have hsame : (times.take hi)[index] = timeAt times index := by
    rw [List.getElem_take, timeAt, List.getD_eq_getElem _ _ hlength]
  have hlower : ∀ time ∈ (times.take index).drop lo, decide (time < queryTimeNs) = true := by
    intro time htime
    obtain ⟨place, hplace, rfl⟩ := List.mem_drop_iff_getElem.mp htime
    rw [List.length_take] at hplace
    have hlt := hbefore (lo + place) (by omega) (by omega)
    rw [timeAt, List.getD_eq_getElem _ _ (by omega)] at hlt
    rw [List.getElem_take]
    exact decide_eq_true hlt
  unfold bisectLeft
  rw [hfront, List.drop_append_of_le_length (by rw [List.length_take]; omega),
    List.drop_eq_getElem_cons hinside, hsame, List.takeWhile_append_of_pos hlower,
    List.takeWhile_cons_of_neg (by rw [decide_eq_true_eq]; exact not_lt.mpr hreached),
    List.append_nil, List.length_drop, List.length_take]
  omega

/-- The place of a time among those of a range. -/
theorem bisectLeft_eq (h : times.Pairwise (· < ·)) {lo hi index : Nat} (hlo : lo ≤ index)
    (hhi : index < hi) (hlength : index < times.length) :
    bisectLeft times (timeAt times index) lo hi = index :=
  bisectLeft_eq_of hlo hhi hlength (fun _ _ hlt => timeAt_strict h hlt hlength) le_rfl

end Windows

end CartoSentry.Trajectory
