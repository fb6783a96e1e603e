import CartoSentry.LidarIntegrity.FrameReports

set_option autoImplicit false

/-!
# Lidar integrity: counts over the frames

What the analyzer holds after a sequence of frames against the records of the frames.  The
counters agree with the records, except for the point times: a record that is out of the
interval and out of order is counted twice.
-/

namespace CartoSentry.LidarIntegrity

open Foundation (Double bind_eq_ok_iff)

section Frames

variable (library : MathLibrary) (model : LidarSensorModel)

/-- The reports agree with the records, and the counters add up. -/
structure Conserved (frames : List LidarFrameInput) (analyzer : LidarIntegrityAnalyzer) :
    Prop where
  reported : ∀ frame ∈ frames, ∀ rule ∈ recordRules,
    reportedCounts rule frame.frameIndex analyzer.rawFailures =
      reportOf (violations library model rule frame)
  bounded : ∀ frame ∈ frames, ∀ rule ∈ recordRules,
    violations library model rule frame ≤ frame.points.length
  azimuths : analyzer.perAzimuthCounts.sum = analyzer.finitePointCount
  rings : analyzer.perRingCounts.sum + (frames.map (violations library model .invalidRing)).sum =
    analyzer.finitePointCount
  finitePoints : analyzer.finitePointCount + (frames.map nonfinite).sum = analyzer.pointCount
  points : analyzer.pointCount = (frames.map fun frame => frame.points.length).sum
  ranges : analyzer.rangeHistogram.counts.sum = analyzer.rangeHistogram.finiteCount ∧
    analyzer.rangeHistogram.finiteCount = (frames.map fun frame =>
      (records none frame.points).countP fun record => (record.2.range library).isFinite).sum
  intensities : analyzer.intensityHistogram.counts.sum = analyzer.intensityHistogram.finiteCount ∧
    analyzer.intensityHistogram.finiteCount = analyzer.finitePointCount
  invalidRecords : analyzer.invalidRecordCount = (frames.map fun frame =>
    nonfinite frame + (records none frame.points).countP (violatesAny library model)).sum

end Frames

section Runs

variable {library : MathLibrary} {profile : LidarIntegrityProfile} {model : LidarSensorModel}

/-- What a sequence of frames adds to the analyzer. -/
theorem foldlM_processFrame {analyzer after : LidarIntegrityAnalyzer}
    {frames : List LidarFrameInput}
    (h : frames.foldlM (processFrame library profile model) analyzer = .ok after) :
    (∀ frame ∈ frames, ∀ index ∈ analyzer.previousFrameIndex, index < frame.frameIndex) ∧
      after.pointCount =
        analyzer.pointCount + (frames.map fun frame => frame.points.length).sum ∧
      (∃ failures, after.rawFailures = analyzer.rawFailures ++ failures ∧
        (∀ failure ∈ failures, ∃ frame ∈ frames, failure.frameIndex = frame.frameIndex) ∧
        ∀ frame ∈ frames, ∀ rule ∈ recordRules,
          reportedCounts rule frame.frameIndex failures =
            reportOf (counted library model rule frame)) ∧
      RecordTotals library model analyzer after (frames.flatMap LidarFrameInput.points)
        (frames.flatMap fun frame => records none frame.points) := by
  induction frames generalizing analyzer with
  | nil =>
    obtain rfl := Except.ok.inj h
    refine ⟨fun _ hmem => absurd hmem List.not_mem_nil, rfl, ⟨[], (List.append_nil _).symm,
      fun _ hmem => absurd hmem List.not_mem_nil, fun _ hmem => absurd hmem List.not_mem_nil⟩, ?_⟩
    constructor <;> rfl
  | cons frame frames ih =>
    rw [List.foldlM_cons] at h
    obtain ⟨next, hnext, h⟩ := bind_eq_ok_iff.mp h
    obtain ⟨hindex, hlast, hpoints, ⟨own, hown, hownIndices, hownCounts⟩, htotals⟩ :=
      processFrame_spec hnext
    obtain ⟨hlater, hrest, ⟨others, hothers, hindices, hcounts⟩, hrestTotals⟩ := ih h
    rw [hlast] at hlater
    have hbefore : ∀ other ∈ frames, frame.frameIndex < other.frameIndex :=
      fun other hmem => hlater other hmem frame.frameIndex rfl
    refine ⟨?_, ?_, ⟨own ++ others, ?_, ?_, ?_⟩, htotals.trans hrestTotals⟩
    · intro other hmem index hsome
      obtain rfl | hmem := List.mem_cons.mp hmem
      · exact hindex index hsome
      · exact (hindex index hsome).trans (hbefore other hmem)
    · rw [hrest, hpoints, List.map_cons, List.sum_cons, Nat.add_assoc]
    · rw [hothers, hown, List.append_assoc]
    · intro failure hmem
      obtain hmem | hmem := List.mem_append.mp hmem
      · exact ⟨frame, List.mem_cons_self, hownIndices failure hmem⟩
      · obtain ⟨other, hother, hsame⟩ := hindices failure hmem
        exact ⟨other, List.mem_cons_of_mem _ hother, hsame⟩
    · intro other hmem rule hrule
      rw [reportedCounts_append]
      obtain rfl | hmem := List.mem_cons.mp hmem
      · rw [hownCounts rule hrule, reportedCounts_eq_nil, List.append_nil]
        intro failure hfailure _ hsame
        obtain ⟨later, hmem, hindexed⟩ := hindices failure hfailure
        have hlt := hbefore later hmem
        omega
      · rw [hcounts other hmem rule hrule, reportedCounts_eq_nil, List.nil_append]
        intro failure hfailure _ hsame
        have hlt := hbefore other hmem
        have hframe := hownIndices failure hfailure
        omega

/-- Records that are counted twice count once as violations. -/
theorem doubled_le_violations (library : MathLibrary) (model : LidarSensorModel)
    (frame : LidarFrameInput) : doubled model frame ≤ violations library model .pointTime frame := by
  apply List.countP_mono_left
  intro record _ hdoubled
  rw [isDoubled, Bool.and_eq_true] at hdoubled
  rw [violates, hdoubled.1, Bool.true_or]

theorem violations_le_length (library : MathLibrary) (model : LidarSensorModel)
    (rule : LidarRule) (frame : LidarFrameInput) :
    violations library model rule frame ≤ frame.points.length := by
  have hlength := length_records none frame.points
  have hcount : violations library model rule frame ≤ (records none frame.points).length :=
    List.countP_le_length
  omega

/-- The doubled records do not show in the report: there are none, or the reported number has
too many of them to tell. -/
def CountedOnce (library : MathLibrary) (model : LidarSensorModel) (frame : LidarFrameInput) :
    Prop :=
  doubled model frame = 0 ∨
    2 ^ 53 ≤ violations library model .pointTime frame + doubled model frame ∧
      Double.rounded false (violations library model .pointTime frame + doubled model frame : Nat) =
        Double.rounded false (violations library model .pointTime frame : Nat)

theorem reportOf_add_iff {count more : Nat} (hle : more ≤ count) :
    reportOf (count + more) = reportOf count ↔ more = 0 ∨ 2 ^ 53 ≤ count + more ∧
      Double.rounded false (count + more : Nat) = Double.rounded false (count : Nat) := by
  by_cases hmore : more = 0
  · rw [hmore, Nat.add_zero]
    exact ⟨fun _ => .inl rfl, fun _ => rfl⟩
  · have hcount : count ≠ 0 := by omega
    have hboth : count + more ≠ 0 := by omega
    rw [reportOf, reportOf, if_neg hcount, if_neg hboth]
    constructor
    · intro h
      have hrounded := Option.some.inj (List.cons.inj h).1
      refine .inr ⟨not_lt.mp fun hsmall => ?_, hrounded⟩
      rw [Double.rounded_natCast hsmall, Double.rounded_natCast (by omega)] at hrounded
      have hsame := Nat.cast_inj.mp (Double.finite.inj hrounded)
      omega
    · rintro (h | ⟨-, h⟩)
      · exact absurd h hmore
      · rw [h]

theorem reportOf_counted_iff (library : MathLibrary) (model : LidarSensorModel)
    (frame : LidarFrameInput) :
    (∀ rule ∈ recordRules, reportOf (counted library model rule frame) =
      reportOf (violations library model rule frame)) ↔ CountedOnce library model frame := by
  unfold CountedOnce
  rw [← reportOf_add_iff (doubled_le_violations library model frame)]
  constructor
  · intro h
    have hpointTime := h .pointTime (by decide)
    rwa [counted, if_pos rfl] at hpointTime
  · intro h rule hrule
    unfold counted
    split_ifs with hpointTime
    · rw [hpointTime]
      exact h
    · rfl

/-- The analyzer after its frames, by the records of the frames. -/
structure FrameTotals (library : MathLibrary) (model : LidarSensorModel)
    (frames : List LidarFrameInput) (analyzer : LidarIntegrityAnalyzer) : Prop where
  pointCount : analyzer.pointCount = (frames.map fun frame => frame.points.length).sum
  finitePoints : analyzer.finitePointCount =
    (frames.map fun frame => (records none frame.points).length).sum
  rings : analyzer.perRingCounts.sum + (frames.map (violations library model .invalidRing)).sum =
    analyzer.finitePointCount
  azimuths : analyzer.perAzimuthCounts.sum = analyzer.finitePointCount
  ranges : analyzer.rangeHistogram.finiteCount = (frames.map fun frame =>
    (records none frame.points).countP fun record => (record.2.range library).isFinite).sum
  rangeCounts : analyzer.rangeHistogram.counts.sum = analyzer.rangeHistogram.finiteCount
  intensities : analyzer.intensityHistogram.finiteCount = analyzer.finitePointCount
  intensityCounts : analyzer.intensityHistogram.counts.sum =
    analyzer.intensityHistogram.finiteCount
  invalidRecords : analyzer.invalidRecordCount = (frames.map nonfinite).sum +
    (frames.map fun frame => (records none frame.points).countP (violatesAny library model)).sum

/-- The first analyzer has counted nothing. -/
theorem RecordTotals.frameTotals {frames : List LidarFrameInput}
    {analyzer : LidarIntegrityAnalyzer}
    (h : RecordTotals library model (.construct profile model) analyzer
      (frames.flatMap LidarFrameInput.points)
      (frames.flatMap fun frame => records none frame.points))
    (hpoints : analyzer.pointCount = (LidarIntegrityAnalyzer.construct profile model).pointCount +
      (frames.map fun frame => frame.points.length).sum) :
    FrameTotals library model frames analyzer := by
  have hrings : (LidarIntegrityAnalyzer.construct profile model).perRingCounts.sum = 0 :=
    List.sum_replicate_nat.trans (Nat.mul_zero _)
  have hazimuths : (LidarIntegrityAnalyzer.construct profile model).perAzimuthCounts.sum = 0 :=
    List.sum_replicate_nat.trans (Nat.mul_zero _)
  have hbins : (List.replicate profile.thresholds.histogramBins 0).sum = 0 :=
    List.sum_replicate_nat.trans (Nat.mul_zero _)
  have hfinite := h.finitePoints.trans (Nat.zero_add _)
  have hranges := h.ranges.trans (Nat.zero_add _)
  have hrangeCounts := h.rangeCounts.trans (congrArg (· + _) hbins)
  have hintensities := h.intensities.trans (Nat.zero_add _)
  have hintensityCounts := h.intensityCounts.trans (congrArg (· + _) hbins)
  have hringTotal := h.rings
  have hazimuthTotal := h.azimuths
  rw [hrings] at hringTotal
  rw [hazimuths] at hazimuthTotal
  refine ⟨hpoints.trans (Nat.zero_add _), ?_, ?_, ?_, ?_, ?_, ?_, ?_, ?_⟩
  · rw [hfinite, List.length_flatMap]
  · rw [hfinite, ← Nat.zero_add (List.length _), ← hringTotal, List.countP_flatMap]
    rfl
  · rw [hfinite, hazimuthTotal, Nat.zero_add]
  · rw [hranges, List.countP_flatMap]
    rfl
  · rw [hranges, hrangeCounts]
    exact Nat.zero_add _
  · rw [hintensities, hfinite]
  · rw [hintensities, hintensityCounts]
    exact Nat.zero_add _
  · rw [h.invalidRecords, List.countP_flatMap, List.countP_flatMap]
    exact congrArg (· + _) (Nat.zero_add _)

/-- Every record of a frame is finite or not. -/
theorem sum_finite_add_nonfinite (frames : List LidarFrameInput) :
    (frames.map fun frame => (records none frame.points).length).sum +
      (frames.map nonfinite).sum = (frames.map fun frame => frame.points.length).sum := by
  rw [← List.sum_map_add]
  exact congrArg List.sum (List.map_congr_left fun frame _ => length_records none frame.points)

variable (library profile model) in
/-- The counts are conserved exactly where no frame has a record that is out of the interval
and out of order. -/
theorem conserved_iff {frames : List LidarFrameInput} {analyzer : LidarIntegrityAnalyzer}
    (h : processFrames library profile model frames = .ok analyzer) :
    Conserved library model frames analyzer ↔
      ∀ frame ∈ frames, CountedOnce library model frame := by
  obtain ⟨-, hpoints, ⟨failures, happended, -, hcounts⟩, htotals⟩ := foldlM_processFrame h
  have hframes := htotals.frameTotals hpoints
  have hreports : ∀ frame ∈ frames, ∀ rule ∈ recordRules,
      reportedCounts rule frame.frameIndex analyzer.rawFailures =
        reportOf (counted library model rule frame) := by
    rw [happended]
    exact hcounts
  constructor
  · intro hconserved frame hmem
    rw [← reportOf_counted_iff]
    intro rule hrule
    rw [← hreports frame hmem rule hrule, hconserved.reported frame hmem rule hrule]
  · intro honce
    refine ⟨?_, fun frame _ rule _ => violations_le_length library model rule frame,
      hframes.azimuths, hframes.rings, ?_, hframes.pointCount, ⟨hframes.rangeCounts,
        hframes.ranges⟩, ⟨hframes.intensityCounts, hframes.intensities⟩, ?_⟩
    · intro frame hmem rule hrule
      rw [hreports frame hmem rule hrule]
      exact (reportOf_counted_iff library model frame).mpr (honce frame hmem) rule hrule
    · rw [hframes.finitePoints, hframes.pointCount, sum_finite_add_nonfinite]
    · rw [hframes.invalidRecords, ← List.sum_map_add]

/-- Square root and direction of the records below, whose ranges are one or three. -/
def sampleLibrary : MathLibrary where
  sqrt value := if value = .finite 9 then .finite 3 else value
  atan2 _ _ := .finite 0

def recordAt (relativeTimeNs : ℚ) : LidarPointInput :=
  ⟨.finite 3, .finite 0, .finite 0, .finite 0, 0, .finite relativeTimeNs, 0⟩

def frameOf (points : List LidarPointInput) : LidarFrameInput :=
  ⟨0, 0, 0, 500000000, points⟩

theorem conserved_iff_one_record : ∃ analyzer,
    processFrames sampleLibrary profileV1 syntheticSpinningV1 [frameOf [recordAt 0]] =
        .ok analyzer ∧
      Conserved sampleLibrary syntheticSpinningV1 [frameOf [recordAt 0]] analyzer := by
  have haccepted : ((processFrames sampleLibrary profileV1 syntheticSpinningV1
      [frameOf [recordAt 0]]).toOption).isSome = true := by
    decide +kernel
  obtain ⟨analyzer, hanalyzer⟩ := Option.isSome_iff_exists.mp haccepted
  have hprocessed := Foundation.eq_ok_of_toOption hanalyzer
  refine ⟨analyzer, hprocessed,
    (conserved_iff sampleLibrary profileV1 syntheticSpinningV1 hprocessed).mpr ?_⟩
  intro frame hmem
  rw [List.mem_singleton.mp hmem]
  exact .inl (by decide +kernel)

/-- Two records out of the interval, the second one out of order as well, are reported as three
invalid records of two. -/
theorem point_time_counted_twice :
    (∃ analyzer, processFrames sampleLibrary profileV1 syntheticSpinningV1
        [frameOf [recordAt (-300000000), recordAt (-400000000)]] = .ok analyzer ∧
      reportedCounts .pointTime 0 analyzer.rawFailures = [some (.finite 3)] ∧
      analyzer.pointCount = 2) ∧
    ¬ ∀ (library : MathLibrary) (profile : LidarIntegrityProfile) (model : LidarSensorModel)
      (frames : List LidarFrameInput) (analyzer : LidarIntegrityAnalyzer),
      processFrames library profile model frames = .ok analyzer →
        Conserved library model frames analyzer := by
  have haccepted : ((processFrames sampleLibrary profileV1 syntheticSpinningV1
      [frameOf [recordAt (-300000000), recordAt (-400000000)]]).toOption.map fun analyzer =>
        (reportedCounts .pointTime 0 analyzer.rawFailures, analyzer.pointCount)) =
          some ([some (.finite 3)], 2) := by
    decide +kernel
  obtain ⟨analyzer, hanalyzer, hreported⟩ := Option.map_eq_some_iff.mp haccepted
  obtain ⟨hcounts, hpoints⟩ := Prod.mk.inj hreported
  have hprocessed := Foundation.eq_ok_of_toOption hanalyzer
  refine ⟨⟨analyzer, hprocessed, hcounts, hpoints⟩, fun h => ?_⟩
  have hexact := (h _ _ _ _ _ hprocessed).reported _ (List.mem_singleton.mpr rfl) .pointTime
    (by decide)
  have htwo : reportOf (violations sampleLibrary syntheticSpinningV1 .pointTime
      (frameOf [recordAt (-300000000), recordAt (-400000000)])) = [some (.finite 2)] := by
    decide +kernel
  rw [htwo] at hexact
  exact absurd (hcounts.symm.trans hexact) (by decide +kernel)

end Runs

end CartoSentry.LidarIntegrity
