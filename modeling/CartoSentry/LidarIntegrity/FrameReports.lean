import CartoSentry.LidarIntegrity.FrameCounts

set_option autoImplicit false

/-!
# Lidar integrity: what a frame reports

The counters of a frame as they reach its raw failures, and what a whole frame adds to the
analyzer.
-/

namespace CartoSentry.LidarIntegrity

open Contracts (Raised raiseIf raiseIf_eq_ok_iff)
open Foundation (Double bind_eq_ok_iff bind_unit_eq_ok_iff)
open TrajectoryIntegrity (Severity)

/-! ## Counts of a frame -/

section Counts

variable (library : MathLibrary) (model : LidarSensorModel)

/-- The finite records of a frame that violate a rule. -/
def violations (rule : LidarRule) (frame : LidarFrameInput) : Nat :=
  (records none frame.points).countP (violates library model rule)

/-- The finite records of a frame that are out of the interval and out of order. -/
def doubled (frame : LidarFrameInput) : Nat :=
  (records none frame.points).countP (isDoubled model)

/-- The records of a frame that are not finite. -/
def nonfinite (frame : LidarFrameInput) : Nat :=
  frame.points.countP fun point => !point.isFinite

/-- What the counter of a rule comes to. -/
def counted (rule : LidarRule) (frame : LidarFrameInput) : Nat :=
  violations library model rule frame + if rule = .pointTime then doubled model frame else 0

/-- The report of a count: there is none of zero. -/
def reportOf (count : Nat) : List (Option Double) :=
  if count = 0 then [] else [some (.rounded false count)]

/-- The values of `invalid_count` that failures report for a rule in a frame. -/
def reportedCounts (rule : LidarRule) (frameIndex : Int) (failures : List RawFailure) :
    List (Option Double) :=
  (failures.filter fun failure => failure.rule = rule ∧ failure.frameIndex = frameIndex).map
    fun failure => failure.measured "invalid_count"

theorem reportedCounts_append (rule : LidarRule) (frameIndex : Int)
    (failures more : List RawFailure) :
    reportedCounts rule frameIndex (failures ++ more) =
      reportedCounts rule frameIndex failures ++ reportedCounts rule frameIndex more := by
  rw [reportedCounts, List.filter_append, List.map_append]
  rfl

theorem reportedCounts_eq_nil {rule : LidarRule} {frameIndex : Int} {failures : List RawFailure}
    (h : ∀ failure ∈ failures, failure.rule = rule → failure.frameIndex ≠ frameIndex) :
    reportedCounts rule frameIndex failures = [] := by
  rw [reportedCounts, List.filter_eq_nil_iff.mpr, List.map_nil]
  intro failure hmem
  rw [decide_eq_true_eq]
  rintro ⟨hrule, hindex⟩
  exact h failure hmem hrule hindex

end Counts

/-! ## The failures of a frame -/

/-- Failures of a frame that are not about records. -/
def ApartFromRecords (frame : LidarFrameInput) (failures : List RawFailure) : Prop :=
  ∀ failure ∈ failures, failure.rule ∉ recordRules ∧ failure.frameIndex = frame.frameIndex

theorem ApartFromRecords.append {frame : LidarFrameInput} {failures more : List RawFailure}
    (h : ApartFromRecords frame failures) (h' : ApartFromRecords frame more) :
    ApartFromRecords frame (failures ++ more) := by
  intro failure hmem
  obtain hmem | hmem := List.mem_append.mp hmem
  · exact h failure hmem
  · exact h' failure hmem

theorem ApartFromRecords.nil (frame : LidarFrameInput) : ApartFromRecords frame [] :=
  fun _ hmem => absurd hmem List.not_mem_nil

theorem ApartFromRecords.singleton {frame : LidarFrameInput} {failure : RawFailure}
    (hrule : failure.rule ∉ recordRules) (hindex : failure.frameIndex = frame.frameIndex) :
    ApartFromRecords frame [failure] := by
  intro other hmem
  rw [List.mem_singleton.mp hmem]
  exact ⟨hrule, hindex⟩

theorem ApartFromRecords.captured {frame : LidarFrameInput} {rule : LidarRule}
    (hrule : rule ∉ recordRules) (measurements : List (String × Double)) (severity : Severity)
    (offsets : List Int) :
    ApartFromRecords frame [captureFailure frame rule measurements severity offsets] :=
  .singleton hrule rfl

theorem ApartFromRecords.reportedCounts {frame : LidarFrameInput} {failures : List RawFailure}
    (h : ApartFromRecords frame failures) {rule : LidarRule} (hrule : rule ∈ recordRules)
    (frameIndex : Int) : reportedCounts rule frameIndex failures = [] := by
  apply reportedCounts_eq_nil
  intro failure hmem hsame
  exact absurd (hsame ▸ hrule) (h failure hmem).1

section Failures

variable {library : MathLibrary} {profile : LidarIntegrityProfile} {model : LidarSensorModel}
  {frame : LidarFrameInput} {common : List (String × Double)} {failures : List RawFailure}

theorem toFloat_natCast {count : Nat} {value : Double} (h : toFloat count = .ok value) :
    value = .rounded false count := by
  unfold toFloat at h
  split_ifs at h
  rw [← Except.ok.inj h, Int.cast_natCast]

theorem cadenceFailures_apart {previous : Option Int}
    (h : cadenceFailures model frame previous = .ok failures) :
    ApartFromRecords frame failures := by
  cases previous with
  | none =>
    cases h
    exact .nil frame
  | some previousTimeNs =>
    unfold cadenceFailures at h
    dsimp only at h
    split_ifs at h
    · obtain ⟨cadenceValue, -, h⟩ := bind_eq_ok_iff.mp h
      obtain ⟨errorValue, -, h⟩ := bind_eq_ok_iff.mp h
      cases h
      exact .singleton (show LidarRule.frameCadence ∉ recordRules by decide) rfl
    · cases h
      exact .nil frame

theorem durationFailures_apart (h : durationFailures model frame = .ok failures) :
    ApartFromRecords frame failures := by
  unfold durationFailures at h
  dsimp only at h
  split_ifs at h
  · obtain ⟨value, -, h⟩ := bind_eq_ok_iff.mp h
    cases h
    exact .captured (by decide) _ _ _
  · cases h
    exact .nil frame

theorem spanFailures_apart (model : LidarSensorModel) (frame : LidarFrameInput)
    (counters : FrameCounters) : ApartFromRecords frame (spanFailures model frame counters) := by
  unfold spanFailures
  split
  · exact .nil frame
  · split_ifs
    · exact .captured (by decide) _ _ _
    · exact .nil frame

theorem countFailures_eq {rule : LidarRule} {key : String} {count : Nat}
    {severity : Severity} {offsets : List Int}
    (h : countFailures frame common rule key count severity offsets = .ok failures) :
    failures = if count = 0 then [] else [captureFailure frame rule
      (common ++ [(key, .rounded false count)]) severity offsets] := by
  unfold countFailures at h
  split_ifs at h with hcount
  · rw [if_pos hcount]
    exact (Except.ok.inj h).symm
  · obtain ⟨value, hvalue, h⟩ := bind_eq_ok_iff.mp h
    rw [if_neg hcount, ← toFloat_natCast hvalue]
    exact (Except.ok.inj h).symm

theorem countFailures_apart {rule : LidarRule} {key : String} {count : Nat}
    {severity : Severity} {offsets : List Int} (hrule : rule ∉ recordRules)
    (h : countFailures frame common rule key count severity offsets = .ok failures) :
    ApartFromRecords frame failures := by
  rw [countFailures_eq h]
  split_ifs
  · exact .nil frame
  · exact .singleton hrule rfl

theorem sectorFailures_apart {blankBins : Nat}
    (h : sectorFailures model frame common blankBins = .ok failures) :
    ApartFromRecords frame failures := by
  unfold sectorFailures at h
  split_ifs at h
  · obtain ⟨value, -, h⟩ := bind_eq_ok_iff.mp h
    cases h
    exact .captured (by decide) _ _ _
  · cases h
    exact .nil frame

theorem densityFailures_apart {points : Nat} {ratio : Double}
    (h : densityFailures profile model frame common points ratio = .ok failures) :
    ApartFromRecords frame failures := by
  unfold densityFailures at h
  split_ifs at h
  · obtain ⟨value, -, h⟩ := bind_eq_ok_iff.mp h
    cases h
    exact .captured (by decide) _ _ _
  · cases h
    exact .nil frame

theorem measured_append {key : String} {value : Double}
    (hcommon : ∀ entry ∈ common, entry.1 ≠ key) (rule : LidarRule) (severity : Severity)
    (offsets : List Int) :
    (captureFailure frame rule (common ++ [(key, value)]) severity offsets).measured key =
      some value := by
  have hfirst : common.find? (fun entry => entry.1 = key) = none :=
    List.find?_eq_none.mpr fun entry hmem => by
      rw [decide_eq_true_eq]
      exact hcommon entry hmem
  rw [RawFailure.measured, captureFailure, List.find?_append, hfirst, Option.none_or,
    List.find?_singleton, if_pos (decide_eq_true rfl)]
  rfl

/-- A count of records is reported under its own rule. -/
theorem reportedCounts_countFailures {rule : LidarRule} {count : Nat} {severity : Severity}
    {offsets : List Int} (hcommon : ∀ entry ∈ common, entry.1 ≠ "invalid_count")
    (h : countFailures frame common rule "invalid_count" count severity offsets = .ok failures) :
    reportedCounts rule frame.frameIndex failures = reportOf count := by
  rw [countFailures_eq h, reportOf]
  split_ifs with hcount
  · rfl
  · rw [reportedCounts, List.filter_singleton, captureFailure, decide_eq_true ⟨rfl, rfl⟩, cond_true,
      List.map_singleton]
    exact congrArg (fun value => [value]) (measured_append hcommon rule severity offsets)

/-- The failures of a count have its rule and the index of the frame. -/
theorem of_mem_countFailures {rule : LidarRule} {key : String} {count : Nat} {severity : Severity}
    {offsets : List Int} {failure : RawFailure}
    (h : countFailures frame common rule key count severity offsets = .ok failures)
    (hmem : failure ∈ failures) :
    failure.rule = rule ∧ failure.frameIndex = frame.frameIndex := by
  rw [countFailures_eq h] at hmem
  split_ifs at hmem
  · cases hmem
  · rw [List.mem_singleton.mp hmem]
    exact ⟨rfl, rfl⟩

/-- Counts under different rules are reported each under its own. -/
theorem reportedCounts_mapM {entries : List (LidarRule × Nat)} {offsets : LidarRule → List Int}
    {invalid : List (List RawFailure)}
    (h : (entries.mapM fun entry => countFailures frame common entry.1 "invalid_count" entry.2
      .critical (offsets entry.1)) = .ok invalid)
    (hcommon : ∀ entry ∈ common, entry.1 ≠ "invalid_count")
    (hnodup : (entries.map Prod.fst).Nodup) :
    (∀ failure ∈ invalid.flatten, failure.rule ∈ entries.map Prod.fst ∧
        failure.frameIndex = frame.frameIndex) ∧
      ∀ entry ∈ entries,
        reportedCounts entry.1 frame.frameIndex invalid.flatten = reportOf entry.2 := by
  induction entries generalizing invalid with
  | nil =>
    cases h
    exact ⟨fun _ hmem => absurd hmem List.not_mem_nil, fun _ hmem => absurd hmem List.not_mem_nil⟩
  | cons first entries ih =>
    rw [List.mapM_cons] at h
    obtain ⟨own, hown, h⟩ := bind_eq_ok_iff.mp h
    obtain ⟨others, hothers, h⟩ := bind_eq_ok_iff.mp h
    obtain rfl := Except.ok.inj h
    rw [List.map_cons, List.nodup_cons] at hnodup
    obtain ⟨hmember, hcounts⟩ := ih hothers hnodup.2
    rw [List.flatten_cons]
    constructor
    · intro failure hmem
      obtain hmem | hmem := List.mem_append.mp hmem
      · obtain ⟨hrule, hindex⟩ := of_mem_countFailures hown hmem
        exact ⟨hrule ▸ List.mem_cons_self, hindex⟩
      · obtain ⟨hrule, hindex⟩ := hmember failure hmem
        exact ⟨List.mem_cons_of_mem _ hrule, hindex⟩
    · intro entry hmem
      rw [reportedCounts_append]
      obtain rfl | hmem := List.mem_cons.mp hmem
      · rw [reportedCounts_countFailures hcommon hown, reportedCounts_eq_nil, List.append_nil]
        intro failure hfailure hsame
        exact absurd (hsame ▸ (hmember failure hfailure).1) hnodup.1
      · rw [hcounts entry hmem, reportedCounts_eq_nil, List.nil_append]
        intro failure hfailure hsame
        have hrule := (of_mem_countFailures hown hfailure).1.symm.trans hsame
        exact absurd (hrule ▸ List.mem_map_of_mem hmem) hnodup.1

/-- The counters of a frame under the rules about records. -/
def FrameCounters.invalid (counters : FrameCounters) : LidarRule → Nat
  | .invalidRing => counters.invalidRing
  | .range => counters.invalidRange
  | .intensity => counters.invalidIntensity
  | .pointTime => counters.invalidPointTime
  | _ => 0

/-- The failures of the records report the counters of the frame. -/
theorem recordFailures_spec {counters : FrameCounters} {pointValue indexValue : Double}
    (h : recordFailures frame [("frame_point_count", pointValue), ("frame_index", indexValue)]
      counters = .ok failures) :
    (∀ failure ∈ failures, failure.frameIndex = frame.frameIndex) ∧
      ∀ rule ∈ recordRules,
        reportedCounts rule frame.frameIndex failures = reportOf (counters.invalid rule) := by
  unfold recordFailures at h
  obtain ⟨nonfinite, hnonfinite, h⟩ := bind_eq_ok_iff.mp h
  obtain ⟨invalid, hinvalid, h⟩ := bind_eq_ok_iff.mp h
  obtain rfl := Except.ok.inj h
  have hapart := countFailures_apart (by decide) hnonfinite
  have hnodup : recordRules.Nodup := by decide
  obtain ⟨hmember, hcounts⟩ := reportedCounts_mapM hinvalid (by simp) hnodup
  constructor
  · intro failure hmem
    obtain hmem | hmem := List.mem_append.mp hmem
    · exact (hapart failure hmem).2
    · exact (hmember failure hmem).2
  · intro rule hrule
    rw [reportedCounts_append, hapart.reportedCounts hrule, List.nil_append]
    refine hcounts (rule, counters.invalid rule) ?_
    simp only [recordRules, List.mem_cons, List.not_mem_nil, or_false] at hrule
    obtain rfl | rfl | rfl | rfl := hrule <;> simp [FrameCounters.invalid]

end Failures

/-! ## The frame -/

section Frame

variable {library : MathLibrary} {profile : LidarIntegrityProfile} {model : LidarSensorModel}
  {frame : LidarFrameInput}

/-- A step that reports failures and counts no record. -/
structure Appended (before after : LidarIntegrityAnalyzer) (failures : List RawFailure) : Prop where
  rawFailures : after.rawFailures = before.rawFailures ++ failures
  pointCount : after.pointCount = before.pointCount
  frameIndex : after.previousFrameIndex = before.previousFrameIndex
  totals : ∀ (library : MathLibrary) (model : LidarSensorModel),
    RecordTotals library model before after [] []

theorem Appended.trans {before middle after : LidarIntegrityAnalyzer}
    {failures more : List RawFailure} (h : Appended before middle failures)
    (h' : Appended middle after more) : Appended before after (failures ++ more) where
  rawFailures := by rw [h'.rawFailures, h.rawFailures, List.append_assoc]
  pointCount := h'.pointCount.trans h.pointCount
  frameIndex := h'.frameIndex.trans h.frameIndex
  totals library model := (h.totals library model).trans (h'.totals library model)

theorem appendAll_appended {analyzer next : LidarIntegrityAnalyzer} {failures : List RawFailure}
    (h : appendAll profile analyzer failures = .ok next) : Appended analyzer next failures := by
  induction failures generalizing analyzer with
  | nil =>
    obtain rfl := Except.ok.inj h
    exact ⟨(List.append_nil _).symm, rfl, rfl, fun library model => by constructor <;> rfl⟩
  | cons failure failures ih =>
    rw [appendAll, List.foldlM_cons] at h
    obtain ⟨middle, hmiddle, h⟩ := bind_eq_ok_iff.mp h
    obtain ⟨-, hmiddle⟩ := bind_unit_eq_ok_iff.mp hmiddle
    obtain rfl := Except.ok.inj hmiddle
    have hfirst : Appended analyzer
        { analyzer with rawFailures := analyzer.rawFailures ++ [failure] } [failure] :=
      ⟨rfl, rfl, rfl, fun library model => by constructor <;> rfl⟩
    exact hfirst.trans (ih h)

/-- The frame before its records are read. -/
theorem openFrame_spec (library : MathLibrary) {analyzer next : LidarIntegrityAnalyzer}
    (h : openFrame profile model analyzer frame = .ok next) :
    (∀ index ∈ analyzer.previousFrameIndex, index < frame.frameIndex) ∧
      next.previousFrameIndex = some frame.frameIndex ∧ next.pointCount = analyzer.pointCount ∧
      (∃ failures, next.rawFailures = analyzer.rawFailures ++ failures ∧
        ApartFromRecords frame failures) ∧
      RecordTotals library model analyzer next [] [] := by
  unfold openFrame at h
  obtain ⟨-, h⟩ := bind_unit_eq_ok_iff.mp h
  obtain ⟨-, h⟩ := bind_unit_eq_ok_iff.mp h
  obtain ⟨hindex, h⟩ := bind_unit_eq_ok_iff.mp h
  obtain ⟨cadence, hcadence, h⟩ := bind_eq_ok_iff.mp h
  obtain ⟨middle, hmiddle, h⟩ := bind_eq_ok_iff.mp h
  obtain ⟨duration, hduration, h⟩ := bind_eq_ok_iff.mp h
  rw [raiseIf_eq_ok_iff] at hindex
  have hfirst := appendAll_appended hmiddle
  have hsecond := appendAll_appended h
  refine ⟨fun index hmem => lt_of_not_ge fun hle => hindex ⟨index, hmem, hle⟩,
    hsecond.frameIndex, hsecond.pointCount.trans hfirst.pointCount, ⟨cadence ++ duration, ?_,
      (cadenceFailures_apart hcadence).append (durationFailures_apart hduration)⟩, ?_⟩
  · rw [hsecond.rawFailures, hfirst.rawFailures, List.append_assoc]
  · refine .after_nil ?_ ((hfirst.totals library model).after_nil
      (.after_nil ?_ (hsecond.totals library model))) <;> constructor <;> rfl

/-- The frame after its records are read. -/
theorem closeFrame_spec (library : MathLibrary) {analyzer next : LidarIntegrityAnalyzer}
    {counters : FrameCounters}
    (h : closeFrame profile model analyzer frame counters = .ok next) :
    next.previousFrameIndex = analyzer.previousFrameIndex ∧
      next.pointCount = analyzer.pointCount + counters.points ∧
      (∃ failures, next.rawFailures = analyzer.rawFailures ++ failures ∧
        (∀ failure ∈ failures, failure.frameIndex = frame.frameIndex) ∧
        ∀ rule ∈ recordRules,
          reportedCounts rule frame.frameIndex failures = reportOf (counters.invalid rule)) ∧
      RecordTotals library model analyzer next [] [] := by
  unfold closeFrame at h
  obtain ⟨pointValue, -, h⟩ := bind_eq_ok_iff.mp h
  obtain ⟨indexValue, -, h⟩ := bind_eq_ok_iff.mp h
  obtain ⟨own, hown, h⟩ := bind_eq_ok_iff.mp h
  obtain ⟨first, hfirst, h⟩ := bind_eq_ok_iff.mp h
  obtain ⟨second, hsecond, h⟩ := bind_eq_ok_iff.mp h
  obtain ⟨rings, hrings, h⟩ := bind_eq_ok_iff.mp h
  obtain ⟨third, hthird, h⟩ := bind_eq_ok_iff.mp h
  obtain ⟨sectors, hsectors, h⟩ := bind_eq_ok_iff.mp h
  obtain ⟨fourth, hfourth, h⟩ := bind_eq_ok_iff.mp h
  obtain ⟨density, hdensity, h⟩ := bind_eq_ok_iff.mp h
  obtain ⟨fifth, hfifth, h⟩ := bind_eq_ok_iff.mp h
  have hrecords := appendAll_appended hfirst
  have hspans := appendAll_appended hsecond
  have hmissing := appendAll_appended hthird
  have hblank := appendAll_appended hfourth
  have hsparse := appendAll_appended hfifth
  obtain rfl := Except.ok.inj h
  obtain ⟨hindices, hcounts⟩ := recordFailures_spec hown
  have hapart : ApartFromRecords frame
      (spanFailures model frame counters ++ rings ++ sectors ++ density) :=
    (((spanFailures_apart model frame counters).append
      (countFailures_apart (by decide) hrings)).append (sectorFailures_apart hsectors)).append
        (densityFailures_apart hdensity)
  refine ⟨?_, ?_,
    ⟨own ++ (spanFailures model frame counters ++ rings ++ sectors ++ density), ?_, ?_, ?_⟩, ?_⟩
  · exact hsparse.frameIndex.trans (hblank.frameIndex.trans
      (hmissing.frameIndex.trans (hspans.frameIndex.trans hrecords.frameIndex)))
  · exact hsparse.pointCount.trans (hblank.pointCount.trans
      (hmissing.pointCount.trans (hspans.pointCount.trans hrecords.pointCount)))
  · dsimp only
    rw [hsparse.rawFailures, hblank.rawFailures, hmissing.rawFailures, hspans.rawFailures,
      hrecords.rawFailures]
    simp only [List.append_assoc]
  · intro failure hmem
    obtain hmem | hmem := List.mem_append.mp hmem
    · exact hindices failure hmem
    · exact (hapart failure hmem).2
  · intro rule hrule
    rw [reportedCounts_append, hapart.reportedCounts hrule, List.append_nil, hcounts rule hrule]
  · refine .after_nil ?_ ((hrecords.totals library model).after_nil (.after_nil ?_
      ((hspans.totals library model).after_nil ((hmissing.totals library model).after_nil
        (.after_nil ?_ ((hblank.totals library model).after_nil
          ((hsparse.totals library model).after_nil ?_))))))) <;> constructor <;> rfl

/-- The counters of the frame after the pass over its records. -/
theorem invalid_of_totals {counters : FrameCounters}
    (h : CounterTotals library model (FrameCounters.construct model) counters frame.points
      (records none frame.points)) {rule : LidarRule} (hrule : rule ∈ recordRules) :
    counters.invalid rule = counted library model rule frame := by
  simp only [recordRules, List.mem_cons, List.not_mem_nil, or_false] at hrule
  unfold counted violations
  obtain rfl | rfl | rfl | rfl := hrule
  · exact h.invalidRing.trans (Nat.zero_add _)
  · exact h.invalidRange.trans (Nat.zero_add _)
  · exact h.invalidIntensity.trans (Nat.zero_add _)
  · rw [FrameCounters.invalid, h.invalidPointTime, if_pos rfl]
    exact congrArg (· + _) (Nat.zero_add _)

/-- What a frame adds to the analyzer. -/
theorem processFrame_spec {analyzer next : LidarIntegrityAnalyzer}
    (h : processFrame library profile model analyzer frame = .ok next) :
    (∀ index ∈ analyzer.previousFrameIndex, index < frame.frameIndex) ∧
      next.previousFrameIndex = some frame.frameIndex ∧
      next.pointCount = analyzer.pointCount + frame.points.length ∧
      (∃ failures, next.rawFailures = analyzer.rawFailures ++ failures ∧
        (∀ failure ∈ failures, failure.frameIndex = frame.frameIndex) ∧
        ∀ rule ∈ recordRules, reportedCounts rule frame.frameIndex failures =
          reportOf (counted library model rule frame)) ∧
      RecordTotals library model analyzer next frame.points (records none frame.points) := by
  unfold processFrame at h
  obtain ⟨opened, hopened, h⟩ := bind_eq_ok_iff.mp h
  obtain ⟨state, hstate, h⟩ := bind_eq_ok_iff.mp h
  obtain ⟨hindex, hlast, hpoints, ⟨apart, happended, hapart⟩, hopen⟩ :=
    openFrame_spec library hopened
  obtain ⟨hcounters, hrecords, hsame⟩ := totals_of_foldlM hstate
  obtain ⟨hkept, htotal, ⟨own, hown, hindices, hcounts⟩, hclose⟩ :=
    closeFrame_spec library h
  refine ⟨hindex, ?_, ?_, ⟨apart ++ own, ?_, ?_, ?_⟩, ?_⟩
  · rw [hkept, hsame.frameIndex, hlast]
  · rw [htotal, hsame.pointCount, hpoints, hcounters.total]
    exact congrArg _ (Nat.zero_add _)
  · rw [hown, hsame.rawFailures, happended, List.append_assoc]
  · intro failure hmem
    obtain hmem | hmem := List.mem_append.mp hmem
    · exact (hapart failure hmem).2
    · exact hindices failure hmem
  · intro rule hrule
    rw [reportedCounts_append, hapart.reportedCounts hrule, List.nil_append, hcounts rule hrule,
      invalid_of_totals hcounters hrule]
  · exact hopen.after_nil (hrecords.before_nil hclose)

end Frame

end CartoSentry.LidarIntegrity
