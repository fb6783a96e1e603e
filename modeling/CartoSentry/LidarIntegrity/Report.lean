import CartoSentry.LidarIntegrity.CountConservation
import CartoSentry.LidarIntegrity.Events

set_option autoImplicit false

/-!
# Lidar integrity: the report

`finalize`: the statistics are the counters of the analyzer, so that the counts that its
frames conserve are the counts of the report.
-/

namespace CartoSentry.LidarIntegrity

open Artifacts (Platform Sha256)
open Contracts (Raised raiseIf)
open Foundation (Double bind_eq_ok_iff bind_unit_eq_ok_iff)
open Trajectory (trueDivision)

structure LidarStatistics where
  frameCount : Nat
  pointCount : Nat
  finitePointCount : Nat
  finiteReturnRatio : Double
  invalidRecordCount : Nat
  rangeQuantilesM : LidarQuantiles Double
  intensityQuantiles : LidarQuantiles Double
  perRingCounts : List (Int × Nat)
  perAzimuthBinCounts : List Nat
  maximumBlankSectorDegrees : Double
  minimumScanDurationNs : Option Int
  maximumScanDurationNs : Option Int
  minimumObservedPointSpanNs : Option Double
  maximumObservedPointSpanNs : Option Double
  minimumFrameCadenceNs : Option Int
  maximumFrameCadenceNs : Option Int
  retainedStateUpperBoundBytes : Nat

structure LidarIntegrityReport where
  sourceSha256 : Sha256
  profileImmutableSha256 : Sha256
  statistics : LidarStatistics
  events : List LidarEvent

/-- The bounds of the fields. -/
def LidarStatistics.validate (statistics : LidarStatistics) : Except Raised LidarStatistics := do
  raiseIf (¬ ((Double.finite 0).le statistics.finiteReturnRatio = true ∧
    statistics.finiteReturnRatio.le (.finite 1) = true)) "Input should be between 0 and 1"
  raiseIf (¬ ((Double.finite 0).le statistics.maximumBlankSectorDegrees = true ∧
    statistics.maximumBlankSectorDegrees.le (.finite 360) = true))
    "Input should be between 0 and 360"
  raiseIf (statistics.retainedStateUpperBoundBytes = 0) "Input should be greater than 0"
  return statistics

section Report

variable (platform : Platform) (library : MathLibrary) (profile : LidarIntegrityProfile)
  (model : LidarSensorModel) (sourceSha256 : Sha256)

/-- `LidarStatistics` of the analyzer. -/
def statisticsOf (analyzer : LidarIntegrityAnalyzer) : Except Raised LidarStatistics := do
  let rangeQuantiles ← analyzer.rangeHistogram.quantiles profile.thresholds.quantiles
  let intensityQuantiles ← analyzer.intensityHistogram.quantiles profile.thresholds.quantiles
  raiseIf (model.ringIds.length ≠ analyzer.perRingCounts.length)
    "zip() argument 2 differs in length"
  let blankBins ← toFloat analyzer.maximumBlankBins
  LidarStatistics.validate {
    frameCount := analyzer.frameCount
    pointCount := analyzer.pointCount
    finitePointCount := analyzer.finitePointCount
    finiteReturnRatio :=
      if analyzer.pointCount = 0 then .finite 0
      else trueDivision analyzer.finitePointCount analyzer.pointCount
    invalidRecordCount := analyzer.invalidRecordCount
    rangeQuantilesM := rangeQuantiles
    intensityQuantiles := intensityQuantiles
    perRingCounts := model.ringIds.zip analyzer.perRingCounts
    perAzimuthBinCounts := analyzer.perAzimuthCounts
    maximumBlankSectorDegrees :=
      (blankBins.mul (.finite 360)).div (.rounded false model.azimuthBins)
    minimumScanDurationNs := analyzer.minimumScanDurationNs
    maximumScanDurationNs := analyzer.maximumScanDurationNs
    minimumObservedPointSpanNs := analyzer.minimumObservedPointSpanNs
    maximumObservedPointSpanNs := analyzer.maximumObservedPointSpanNs
    minimumFrameCadenceNs := analyzer.minimumFrameCadenceNs
    maximumFrameCadenceNs := analyzer.maximumFrameCadenceNs
    retainedStateUpperBoundBytes := profile.thresholds.histogramBins * 2 * 8 +
      analyzer.perRingCounts.length * 8 + analyzer.perAzimuthCounts.length * 8 +
      profile.budgets.maximumRawFailures * 256 }

/-- `finalize` -/
def finalize (analyzer : LidarIntegrityAnalyzer) : Except Raised LidarIntegrityReport := do
  raiseIf (analyzer.frameCount = 0) "lidar integrity requires at least one frame"
  let statistics ← statisticsOf profile model analyzer
  let events ← events platform profile sourceSha256 analyzer.rawFailures
  return {
    sourceSha256 := sourceSha256
    profileImmutableSha256 := profile.immutableSha256
    statistics := statistics
    events := events }

def analyzeLidarIntegrity (frames : List LidarFrameInput) :
    Except Raised LidarIntegrityReport := do
  let analyzer ← processFrames library profile model frames
  finalize platform profile model sourceSha256 analyzer

variable {platform library profile model sourceSha256}

theorem LidarStatistics.eq_of_validate {statistics validated : LidarStatistics}
    (h : statistics.validate = .ok validated) : validated = statistics := by
  unfold LidarStatistics.validate at h
  obtain ⟨-, h⟩ := bind_unit_eq_ok_iff.mp h
  obtain ⟨-, h⟩ := bind_unit_eq_ok_iff.mp h
  obtain ⟨-, h⟩ := bind_unit_eq_ok_iff.mp h
  exact (Except.ok.inj h).symm

/-- The counters of a report are those of its analyzer. -/
structure Copies (statistics : LidarStatistics) (analyzer : LidarIntegrityAnalyzer) : Prop where
  frameCount : statistics.frameCount = analyzer.frameCount
  pointCount : statistics.pointCount = analyzer.pointCount
  finitePointCount : statistics.finitePointCount = analyzer.finitePointCount
  invalidRecordCount : statistics.invalidRecordCount = analyzer.invalidRecordCount
  rings : statistics.perRingCounts.map Prod.snd = analyzer.perRingCounts
  azimuths : statistics.perAzimuthBinCounts = analyzer.perAzimuthCounts

theorem copies_of_statisticsOf {analyzer : LidarIntegrityAnalyzer} {statistics : LidarStatistics}
    (h : statisticsOf profile model analyzer = .ok statistics) : Copies statistics analyzer := by
  unfold statisticsOf at h
  obtain ⟨rangeQuantiles, -, h⟩ := bind_eq_ok_iff.mp h
  obtain ⟨intensityQuantiles, -, h⟩ := bind_eq_ok_iff.mp h
  obtain ⟨hrings, h⟩ := bind_unit_eq_ok_iff.mp h
  obtain ⟨blankBins, -, h⟩ := bind_eq_ok_iff.mp h
  have hlength : analyzer.perRingCounts.length ≤ model.ringIds.length :=
    (not_not.mp (Contracts.raiseIf_eq_ok_iff.mp hrings)).ge
  rw [LidarStatistics.eq_of_validate h]
  exact ⟨rfl, rfl, rfl, rfl, List.map_snd_zip hlength, rfl⟩

/-- The statistics of a report conserve the counts of the frames. -/
theorem statistics_conserved {frames : List LidarFrameInput} {report : LidarIntegrityReport}
    (h : analyzeLidarIntegrity platform library profile model sourceSha256 frames = .ok report) :
    report.statistics.pointCount = (frames.map fun frame => frame.points.length).sum ∧
      report.statistics.finitePointCount + (frames.map nonfinite).sum =
        report.statistics.pointCount ∧
      report.statistics.perAzimuthBinCounts.sum = report.statistics.finitePointCount ∧
      (report.statistics.perRingCounts.map Prod.snd).sum +
        (frames.map (violations library model .invalidRing)).sum =
          report.statistics.finitePointCount ∧
      report.statistics.invalidRecordCount = (frames.map nonfinite).sum +
        (frames.map fun frame =>
          (records none frame.points).countP (violatesAny library model)).sum := by
  obtain ⟨analyzer, hanalyzer, h⟩ := bind_eq_ok_iff.mp h
  obtain ⟨-, h⟩ := bind_unit_eq_ok_iff.mp h
  obtain ⟨statistics, hstatistics, h⟩ := bind_eq_ok_iff.mp h
  obtain ⟨found, -, h⟩ := bind_eq_ok_iff.mp h
  obtain rfl := Except.ok.inj h
  have hcopies := copies_of_statisticsOf hstatistics
  obtain ⟨-, hpoints, -, htotals⟩ := foldlM_processFrame hanalyzer
  have hframes := htotals.frameTotals hpoints
  dsimp only
  rw [hcopies.pointCount, hcopies.finitePointCount, hcopies.azimuths, hcopies.rings,
    hcopies.invalidRecordCount]
  refine ⟨hframes.pointCount, ?_, hframes.azimuths, hframes.rings, hframes.invalidRecords⟩
  rw [hframes.finitePoints, hframes.pointCount, sum_finite_add_nonfinite]

end Report

end CartoSentry.LidarIntegrity
