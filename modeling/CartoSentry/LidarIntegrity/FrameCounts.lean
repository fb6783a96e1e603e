import CartoSentry.LidarIntegrity.Analyzer

set_option autoImplicit false

/-!
# Lidar integrity: counts of the records

What the pass over the records of a frame adds to the counters, record by record.
-/

namespace CartoSentry.LidarIntegrity

open Contracts (Raised)
open Foundation (Double bind_eq_ok_iff bind_unit_eq_ok_iff)

/-! ## Records -/

/-- The finite records, each with the time of the finite record before it. -/
def records : Option Double → List LidarPointInput → List (Option Double × LidarPointInput)
  | _, [] => []
  | previous, point :: rest =>
    if point.isFinite then (previous, point) :: records (some point.relativeTimeNs) rest
    else records previous rest

section Records

variable (library : MathLibrary) (model : LidarSensorModel)

/-- A finite record violates a rule about records. -/
def violates (rule : LidarRule) (record : Option Double × LidarPointInput) : Bool :=
  match rule with
  | .range => record.2.outOfRange library model
  | .intensity => record.2.outOfIntensity model
  | .invalidRing => decide (record.2.ringId ∉ model.ringIds)
  | .pointTime => record.2.outOfTime model || record.2.outOfOrder record.1
  | _ => false

/-- The rules under which finite records are counted. -/
def recordRules : List LidarRule :=
  [.invalidRing, .range, .intensity, .pointTime]

/-- A record that is out of the interval and out of order. -/
def isDoubled (record : Option Double × LidarPointInput) : Bool :=
  record.2.outOfTime model && record.2.outOfOrder record.1

def violatesAny (record : Option Double × LidarPointInput) : Bool :=
  recordRules.any fun rule => violates library model rule record

end Records

/-! ## Counters -/

theorem sum_modify_succ {counts : List Nat} {place : Nat} (h : place < counts.length) :
    (counts.modify place (· + 1)).sum = counts.sum + 1 := by
  induction counts generalizing place with
  | nil => exact absurd h (Nat.not_lt_zero place)
  | cons count counts ih =>
    cases place with
    | zero =>
      rw [List.modify_zero_cons, List.sum_cons, List.sum_cons]
      omega
    | succ place =>
      rw [List.modify_succ_cons, List.sum_cons, List.sum_cons, ih (Nat.lt_of_succ_lt_succ h)]
      omega

theorem sum_of_increment {counts result : List Nat} {index : Int}
    (h : increment counts index = .ok result) : result.sum = counts.sum + 1 := by
  unfold increment at h
  dsimp only at h
  generalize (if index < 0 then index + counts.length else index) = place at h
  split_ifs at h with hplace
  cases h
  exact sum_modify_succ (by omega)

theorem sum_of_countRing {position : Option Nat} {counts result : List Nat}
    (h : countRing position counts = .ok result) :
    result.sum + (if position.isNone then 1 else 0) = counts.sum + 1 := by
  cases position with
  | none =>
    cases h
    rfl
  | some place =>
    rw [sum_of_increment h]
    rfl

/-- A histogram counts the finite values. -/
theorem FixedHistogram.counts_of_add {histogram next : FixedHistogram Double} {value : Double}
    (h : histogram.add value = .ok next) :
    next.finiteCount = histogram.finiteCount + (if value.isFinite then 1 else 0) ∧
      next.counts.sum = histogram.counts.sum + (if value.isFinite then 1 else 0) := by
  unfold FixedHistogram.add at h
  cases hfinite : value.isFinite with
  | true =>
    have hcounted : Arithmetic.isFinite value = true := hfinite
    rw [if_pos hcounted] at h
    obtain ⟨index, -, h⟩ := bind_eq_ok_iff.mp h
    obtain ⟨counts, hcounts, h⟩ := bind_eq_ok_iff.mp h
    cases h
    exact ⟨rfl, sum_of_increment hcounts⟩
  | false =>
    have hskipped : ¬ Arithmetic.isFinite value = true := by
      change ¬ value.isFinite = true
      rw [hfinite]
      exact Bool.false_ne_true
    rw [if_neg hskipped] at h
    cases h
    exact ⟨rfl, rfl⟩

/-- Every record is finite or not. -/
theorem length_records (previous : Option Double) (points : List LidarPointInput) :
    (records previous points).length + (points.countP fun point => !point.isFinite) =
      points.length := by
  induction points generalizing previous with
  | nil => rfl
  | cons point points ih =>
    rw [records, List.countP_cons, List.length_cons]
    split_ifs with hfinite hnonfinite hnonfinite
    · rw [hfinite] at hnonfinite
      cases hnonfinite
    · have hrest := ih (some point.relativeTimeNs)
      rw [List.length_cons]
      omega
    · rw [← Nat.add_assoc, ih]
    · exact absurd (Bool.not_eq_true' _ ▸ Bool.eq_false_iff.mpr hfinite) hnonfinite

section Totals

variable {library : MathLibrary} {model : LidarSensorModel}

variable (library model) in
/-- What records add to the counters of their frame. -/
structure CounterTotals (before after : FrameCounters) (points : List LidarPointInput)
    (finite : List (Option Double × LidarPointInput)) : Prop where
  total : after.points = before.points + points.length
  nonfinite : after.nonfinite = before.nonfinite + points.countP fun point => !point.isFinite
  invalidRing : after.invalidRing =
    before.invalidRing + finite.countP (violates library model .invalidRing)
  invalidRange : after.invalidRange =
    before.invalidRange + finite.countP (violates library model .range)
  invalidIntensity : after.invalidIntensity =
    before.invalidIntensity + finite.countP (violates library model .intensity)
  invalidPointTime : after.invalidPointTime = before.invalidPointTime +
    finite.countP (violates library model .pointTime) + finite.countP (isDoubled model)

theorem CounterTotals.trans {before middle after : FrameCounters}
    {points more : List LidarPointInput} {finite others : List (Option Double × LidarPointInput)}
    (h : CounterTotals library model before middle points finite)
    (h' : CounterTotals library model middle after more others) :
    CounterTotals library model before after (points ++ more) (finite ++ others) where
  total := by rw [h'.total, h.total, List.length_append, Nat.add_assoc]
  nonfinite := by rw [h'.nonfinite, h.nonfinite, List.countP_append, Nat.add_assoc]
  invalidRing := by rw [h'.invalidRing, h.invalidRing, List.countP_append, Nat.add_assoc]
  invalidRange := by rw [h'.invalidRange, h.invalidRange, List.countP_append, Nat.add_assoc]
  invalidIntensity := by
    rw [h'.invalidIntensity, h.invalidIntensity, List.countP_append, Nat.add_assoc]
  invalidPointTime := by
    rw [h'.invalidPointTime, h.invalidPointTime, List.countP_append, List.countP_append]
    omega

variable (library model) in
/-- What records add to the counters of the analyzer. -/
structure RecordTotals (before after : LidarIntegrityAnalyzer) (points : List LidarPointInput)
    (finite : List (Option Double × LidarPointInput)) : Prop where
  finitePoints : after.finitePointCount = before.finitePointCount + finite.length
  rings : after.perRingCounts.sum + finite.countP (violates library model .invalidRing) =
    before.perRingCounts.sum + finite.length
  azimuths : after.perAzimuthCounts.sum = before.perAzimuthCounts.sum + finite.length
  ranges : after.rangeHistogram.finiteCount = before.rangeHistogram.finiteCount +
    finite.countP fun record => (record.2.range library).isFinite
  rangeCounts : after.rangeHistogram.counts.sum = before.rangeHistogram.counts.sum +
    finite.countP fun record => (record.2.range library).isFinite
  intensities : after.intensityHistogram.finiteCount =
    before.intensityHistogram.finiteCount + finite.length
  intensityCounts : after.intensityHistogram.counts.sum =
    before.intensityHistogram.counts.sum + finite.length
  invalidRecords : after.invalidRecordCount = before.invalidRecordCount +
    (points.countP fun point => !point.isFinite) + finite.countP (violatesAny library model)

/-- What the pass over the records leaves alone. -/
structure SameFrames (before after : LidarIntegrityAnalyzer) : Prop where
  pointCount : after.pointCount = before.pointCount
  rawFailures : after.rawFailures = before.rawFailures
  frameIndex : after.previousFrameIndex = before.previousFrameIndex

theorem SameFrames.trans {before middle after : LidarIntegrityAnalyzer}
    (h : SameFrames before middle) (h' : SameFrames middle after) : SameFrames before after where
  pointCount := h'.pointCount.trans h.pointCount
  rawFailures := h'.rawFailures.trans h.rawFailures
  frameIndex := h'.frameIndex.trans h.frameIndex

theorem RecordTotals.trans {before middle after : LidarIntegrityAnalyzer}
    {points more : List LidarPointInput} {finite others : List (Option Double × LidarPointInput)}
    (h : RecordTotals library model before middle points finite)
    (h' : RecordTotals library model middle after more others) :
    RecordTotals library model before after (points ++ more) (finite ++ others) where
  finitePoints := by rw [h'.finitePoints, h.finitePoints, List.length_append, Nat.add_assoc]
  rings := by
    have hbefore := h.rings
    have hafter := h'.rings
    rw [List.countP_append, List.length_append]
    omega
  azimuths := by rw [h'.azimuths, h.azimuths, List.length_append, Nat.add_assoc]
  ranges := by rw [h'.ranges, h.ranges, List.countP_append, Nat.add_assoc]
  rangeCounts := by rw [h'.rangeCounts, h.rangeCounts, List.countP_append, Nat.add_assoc]
  intensities := by rw [h'.intensities, h.intensities, List.length_append, Nat.add_assoc]
  intensityCounts := by
    rw [h'.intensityCounts, h.intensityCounts, List.length_append, Nat.add_assoc]
  invalidRecords := by
    rw [h'.invalidRecords, h.invalidRecords, List.countP_append, List.countP_append]
    omega

theorem RecordTotals.after_nil {before middle after : LidarIntegrityAnalyzer}
    {points : List LidarPointInput} {finite : List (Option Double × LidarPointInput)}
    (h : RecordTotals library model before middle [] [])
    (h' : RecordTotals library model middle after points finite) :
    RecordTotals library model before after points finite :=
  h.trans h'

theorem RecordTotals.before_nil {before middle after : LidarIntegrityAnalyzer}
    {points : List LidarPointInput} {finite : List (Option Double × LidarPointInput)}
    (h : RecordTotals library model before middle points finite)
    (h' : RecordTotals library model middle after [] []) :
    RecordTotals library model before after points finite := by
  have hboth := h.trans h'
  rwa [List.append_nil, List.append_nil] at hboth

end Totals

/-! ## The pass -/

section Pass

variable {library : MathLibrary} {profile : LidarIntegrityProfile} {model : LidarSensorModel}

theorem isNone_ringPosition (point : LidarPointInput) :
    (point.ringPosition model).isNone = decide (point.ringId ∉ model.ringIds) := by
  rw [LidarPointInput.ringPosition, Bool.eq_iff_iff, Option.isNone_iff_eq_none,
    List.idxOf?_eq_none_iff, decide_eq_true_eq]

variable (library model) in
/-- A record is invalid when it violates a rule. -/
theorem invalidRules_eq_nil_iff (previous : Option Double) (point : LidarPointInput) :
    point.invalidRules library model previous = [] ↔
      ¬ violatesAny library model (previous, point) = true := by
  unfold LidarPointInput.invalidRules violatesAny recordRules
  simp only [List.any_cons, List.any_nil, violates, ← isNone_ringPosition]
  cases point.outOfRange library model <;> cases point.outOfIntensity model <;>
    cases (point.ringPosition model).isNone <;>
      cases point.outOfTime model || point.outOfOrder previous <;> simp

/-- Two conditions that are counted apart count a record twice where both hold. -/
theorem count_or_add_and (left right : Bool) (count : Nat) :
    count + (if left then 1 else 0) + (if right then 1 else 0) =
      count + (if (left || right) = true then 1 else 0) +
        (if (left && right) = true then 1 else 0) := by
  cases left <;> cases right <;> rfl

/-- What a finite record adds to the counters of the frame. -/
theorem counterTotals_of_finite {counters next : FrameCounters} {point : LidarPointInput}
    (hfinite : point.isFinite = true)
    (h : countRecord library profile model (countPoint counters) point = .ok next) :
    CounterTotals library model counters next [point] [(counters.previousPointTime, point)] ∧
      next.previousPointTime = some point.relativeTimeNs := by
  unfold countRecord at h
  obtain ⟨ringCounts, -, h⟩ := bind_eq_ok_iff.mp h
  obtain ⟨index, -, h⟩ := bind_eq_ok_iff.mp h
  obtain ⟨azimuthCounts, -, h⟩ := bind_eq_ok_iff.mp h
  cases h
  refine ⟨⟨rfl, ?_, ?_, ?_, ?_, ?_⟩, rfl⟩
  · rw [List.countP_singleton, hfinite]
    rfl
  · rw [List.countP_singleton, violates, ← isNone_ringPosition]
    rfl
  · rw [List.countP_singleton]
    rfl
  · rw [List.countP_singleton]
    rfl
  · rw [List.countP_singleton, List.countP_singleton, violates, isDoubled]
    exact count_or_add_and _ _ _

/-- What a finite record adds to the counters of the analyzer. -/
theorem recordTotals_of_finite {analyzer next : LidarIntegrityAnalyzer} {previous : Option Double}
    {point : LidarPointInput} (hfinite : point.isFinite = true)
    (h : countFinite library model analyzer previous point = .ok next) :
    RecordTotals library model analyzer next [point] [(previous, point)] ∧
      SameFrames analyzer next := by
  unfold countFinite at h
  obtain ⟨rangeHistogram, hrange, h⟩ := bind_eq_ok_iff.mp h
  obtain ⟨intensityHistogram, hintensity, h⟩ := bind_eq_ok_iff.mp h
  obtain ⟨perRingCounts, hrings, h⟩ := bind_eq_ok_iff.mp h
  obtain ⟨index, -, h⟩ := bind_eq_ok_iff.mp h
  obtain ⟨perAzimuthCounts, hazimuths, h⟩ := bind_eq_ok_iff.mp h
  cases h
  obtain ⟨hrangeFinite, hrangeSum⟩ := FixedHistogram.counts_of_add hrange
  obtain ⟨hintensityFinite, hintensitySum⟩ := FixedHistogram.counts_of_add hintensity
  have hnumber : point.intensity.isFinite = true := by
    unfold LidarPointInput.isFinite at hfinite
    simp only [Bool.and_eq_true] at hfinite
    exact hfinite.1.2
  rw [if_pos hnumber] at hintensityFinite hintensitySum
  refine ⟨⟨rfl, ?_, sum_of_increment hazimuths, ?_, ?_, hintensityFinite, hintensitySum, ?_⟩,
    ⟨rfl, rfl, rfl⟩⟩
  · rw [List.countP_singleton, violates, ← isNone_ringPosition]
    exact sum_of_countRing hrings
  · rw [List.countP_singleton]
    exact hrangeFinite
  · rw [List.countP_singleton]
    exact hrangeSum
  · rw [List.countP_singleton, List.countP_singleton, hfinite]
    dsimp only
    by_cases hvalid : point.invalidRules library model previous = []
    · rw [if_pos hvalid, if_neg ((invalidRules_eq_nil_iff library model previous point).mp hvalid)]
      rfl
    · rw [if_neg hvalid, if_pos (not_not.mp fun hnone =>
        hvalid ((invalidRules_eq_nil_iff library model previous point).mpr hnone))]
      rfl

/-- One turn of the pass. -/
theorem totals_of_processPoint {state next : Pass} {point : LidarPointInput}
    (h : processPoint library profile model state point = .ok next) :
    CounterTotals library model state.counters next.counters [point]
        (records state.counters.previousPointTime [point]) ∧
      RecordTotals library model state.analyzer next.analyzer [point]
        (records state.counters.previousPointTime [point]) ∧
      SameFrames state.analyzer next.analyzer ∧ ∀ rest, records state.counters.previousPointTime (point :: rest) =
        records state.counters.previousPointTime [point] ++
          records next.counters.previousPointTime rest := by
  unfold processPoint at h
  obtain ⟨-, h⟩ := bind_unit_eq_ok_iff.mp h
  split_ifs at h with hfinite
  · obtain ⟨analyzer, hanalyzer, h⟩ := bind_eq_ok_iff.mp h
    obtain ⟨counters, hcounters, h⟩ := bind_eq_ok_iff.mp h
    cases h
    obtain ⟨hcounted, hlast⟩ := counterTotals_of_finite hfinite hcounters
    simp only [records, if_pos hfinite, hlast]
    obtain ⟨htotals, hsame⟩ := recordTotals_of_finite hfinite hanalyzer
    exact ⟨hcounted, htotals, hsame, fun rest => rfl⟩
  · cases h
    simp only [records, if_neg hfinite]
    refine ⟨?_, ?_, ⟨rfl, rfl, rfl⟩, fun rest => rfl⟩
    · constructor <;> simp [countNonfinite, countPoint, hfinite]
    · constructor <;> simp [hfinite]

/-- The pass over the records of a frame. -/
theorem totals_of_foldlM {state after : Pass} {points : List LidarPointInput}
    (h : points.foldlM (processPoint library profile model) state = .ok after) :
    CounterTotals library model state.counters after.counters points
        (records state.counters.previousPointTime points) ∧
      RecordTotals library model state.analyzer after.analyzer points
        (records state.counters.previousPointTime points) ∧
      SameFrames state.analyzer after.analyzer := by
  induction points generalizing state with
  | nil =>
    cases h
    exact ⟨by constructor <;> rfl, by constructor <;> rfl, by constructor <;> rfl⟩
  | cons point points ih =>
    rw [List.foldlM_cons] at h
    obtain ⟨next, hnext, h⟩ := bind_eq_ok_iff.mp h
    obtain ⟨hcounters, hanalyzer, hsame, hrecords⟩ := totals_of_processPoint hnext
    obtain ⟨hcountersRest, hanalyzerRest, hsameRest⟩ := ih h
    rw [hrecords, ← List.singleton_append]
    exact ⟨hcounters.trans hcountersRest, hanalyzer.trans hanalyzerRest, hsame.trans hsameRest⟩

end Pass

end CartoSentry.LidarIntegrity
