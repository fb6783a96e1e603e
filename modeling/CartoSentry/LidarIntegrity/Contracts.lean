import CartoSentry.Artifacts.Identifiers
import CartoSentry.Contracts.Raised
import CartoSentry.TrajectoryIntegrity.Contracts

set_option autoImplicit false

/-!
# Lidar integrity: contracts

The rules, the frozen profile with its validators, the frames and what is found about them.
-/

namespace CartoSentry.LidarIntegrity

open Artifacts (Sha256)
open Contracts (Raised raiseIf)
open Foundation (Double)
open TrajectoryIntegrity (Severity)

/-! ## Rules -/

inductive LidarRule where
  | frameCount
  | frameCadence
  | nonfinite
  | invalidRing
  | range
  | intensity
  | pointTime
  | scanDuration
  | ringLoss
  | sectorLoss
  | density
  deriving DecidableEq, Repr

namespace LidarRule

def value : LidarRule → String
  | frameCount => "frame_count"
  | frameCadence => "frame_cadence"
  | nonfinite => "nonfinite"
  | invalidRing => "invalid_ring"
  | range => "range"
  | intensity => "intensity"
  | pointTime => "point_time"
  | scanDuration => "scan_duration"
  | ringLoss => "ring_loss"
  | sectorLoss => "sector_loss"
  | density => "density"

/-- `tuple(LidarRule)` -/
def all : List LidarRule :=
  [frameCount, frameCadence, nonfinite, invalidRing, range, intensity, pointTime, scanDuration,
    ringLoss, sectorLoss, density]

theorem mem_all (rule : LidarRule) : rule ∈ all := by
  cases rule <;> simp [all]

/-- `coverage_rules` -/
def isCoverage : LidarRule → Bool
  | ringLoss | sectorLoss | density => true
  | _ => false

/-- `compatible` -/
def compatible : LidarRule → List String
  | frameCadence => ["scan loss", "timestamp discontinuity"]
  | nonfinite => ["payload corruption", "decode failure"]
  | invalidRing => ["sensor-model mismatch", "payload corruption"]
  | range => ["range scale", "unit mismatch", "invalid return"]
  | intensity => ["intensity encoding mismatch", "invalid return"]
  | pointTime => ["point-time corruption", "ordering error"]
  | scanDuration => ["point-time clamp", "scan truncation"]
  | ringLoss => ["ring loss", "sensor-model mismatch"]
  | sectorLoss => ["sector loss", "scene occlusion"]
  | density => ["density reduction", "sparse scene"]
  | frameCount => ["scan loss"]

end LidarRule

/-! ## The profile -/

structure LidarSensorModel where
  ringIds : List Int
  minimumPointsPerRing : Nat
  azimuthBins : Nat
  maximumBlankAzimuthBins : Nat
  minimumPointsPerFrame : Nat
  minimumRangeM : Double
  maximumRangeM : Double
  minimumIntensity : Double
  maximumIntensity : Double
  minimumRelativePointTimeNs : Int
  maximumRelativePointTimeNs : Int
  minimumObservedPointSpanNs : Nat
  expectedScanDurationNs : Nat
  scanDurationToleranceNs : Nat
  expectedFrameCadenceNs : Nat
  frameCadenceToleranceNs : Nat
  ringBounds : ∀ ring ∈ ringIds, 0 ≤ ring ∧ ring ≤ 4095
  ringPointsPositive : 0 < minimumPointsPerRing
  azimuthBounds : 4 ≤ azimuthBins ∧ azimuthBins ≤ 4096
  framePointsPositive : 0 < minimumPointsPerFrame
  rangePositive : (Double.finite 0).lt minimumRangeM = true
  intensityNonnegative : (Double.finite 0).le minimumIntensity = true
  spanPositive : 0 < minimumObservedPointSpanNs
  scanDurationPositive : 0 < expectedScanDurationNs
  cadencePositive : 0 < expectedFrameCadenceNs
  ringsOrdered : ringIds ≠ [] ∧ ringIds.Pairwise (· < ·)
  blankBins : maximumBlankAzimuthBins < azimuthBins
  rangeInterval : minimumRangeM.lt maximumRangeM = true
  intensityInterval : minimumIntensity.le maximumIntensity = true
  pointTimeInterval : minimumRelativePointTimeNs < maximumRelativePointTimeNs

structure LidarThresholds where
  minimumConsecutiveCoverageFrames : Nat
  minimumDensityRatioToRunningMaximum : Double
  histogramBins : Nat
  quantiles : List Double
  coverageFramesPositive : 0 < minimumConsecutiveCoverageFrames
  histogramBounds : 32 ≤ histogramBins ∧ histogramBins ≤ 8192

structure LidarBudgets where
  maximumFrames : Nat
  maximumPointsPerFrame : Nat
  maximumEvents : Nat
  maximumRawFailures : Nat
  maximumRepresentativeInvalidOffsets : Nat
  framesPositive : 0 < maximumFrames
  pointsPositive : 0 < maximumPointsPerFrame
  eventsPositive : 0 < maximumEvents
  rawFailuresPositive : 0 < maximumRawFailures
  offsetsPositive : 0 < maximumRepresentativeInvalidOffsets

structure LidarIntegrityProfile where
  immutableSha256 : Sha256
  thresholds : LidarThresholds
  budgets : LidarBudgets
  rulePriority : List LidarRule
  priorityFrozen : rulePriority = LidarRule.all

/-- `synthetic-spinning-v1` of `profiles/lidar_integrity_v1.yaml`. -/
def syntheticSpinningV1 : LidarSensorModel where
  ringIds := [0, 1, 2, 3]
  minimumPointsPerRing := 1
  azimuthBins := 16
  maximumBlankAzimuthBins := 1
  minimumPointsPerFrame := 14
  minimumRangeM := .finite (3602879701896397 / 36028797018963968)
  maximumRangeM := .finite 75
  minimumIntensity := .finite 0
  maximumIntensity := .finite 1
  minimumRelativePointTimeNs := -250000000
  maximumRelativePointTimeNs := 249999999
  minimumObservedPointSpanNs := 400000000
  expectedScanDurationNs := 500000000
  scanDurationToleranceNs := 1
  expectedFrameCadenceNs := 500000000
  frameCadenceToleranceNs := 1
  ringBounds := by decide
  ringPointsPositive := by decide
  azimuthBounds := by decide
  framePointsPositive := by decide
  rangePositive := by decide +kernel
  intensityNonnegative := by decide +kernel
  spanPositive := by decide
  scanDurationPositive := by decide
  cadencePositive := by decide
  ringsOrdered := by decide
  blankBins := by decide
  rangeInterval := by decide +kernel
  intensityInterval := by decide +kernel
  pointTimeInterval := by decide

theorem frameBudget_pos : 0 < 1000000 := by
  omega

theorem eventBudget_pos : 0 < 4096 := by
  omega

def profileV1 : LidarIntegrityProfile where
  immutableSha256 :=
    ⟨"ab7b89360fdc136752f7c89c301dd4de42f28181cc020e60d2e759afe1ae5aad", by decide⟩
  thresholds := {
    minimumConsecutiveCoverageFrames := 2
    minimumDensityRatioToRunningMaximum := .finite (3152519739159347 / 4503599627370496)
    histogramBins := 512
    quantiles := [.finite (3602879701896397 / 72057594037927936), .finite (1 / 2), .finite (4278419646001971 / 4503599627370496)]
    coverageFramesPositive := Nat.two_pos
    histogramBounds := by omega }
  budgets := ⟨1000000, 1000000, 4096, 65536, 16, frameBudget_pos, frameBudget_pos, eventBudget_pos,
    by omega, by omega⟩
  rulePriority := LidarRule.all
  priorityFrozen := rfl

/-! ## Frames -/

structure LidarPointInput where
  x : Double
  y : Double
  z : Double
  intensity : Double
  ringId : Int
  relativeTimeNs : Double
  sourceOffset : Int
  deriving DecidableEq, Repr

structure LidarFrameInput where
  frameIndex : Int
  referenceTimeNs : Int
  captureStartNs : Int
  captureEndNs : Int
  points : List LidarPointInput
  deriving DecidableEq, Repr

/-! ## Failures and events -/

/-- `_RawFailure` -/
structure RawFailure where
  rule : LidarRule
  frameIndex : Int
  startTimeNs : Int
  endTimeNs : Int
  measurements : List (String × Double)
  severity : Severity
  sourceOffsets : List Int := []
  deriving DecidableEq, Repr

/-- `item.measurements[key]`, where the key is there. -/
def RawFailure.measured (failure : RawFailure) (key : String) : Option Double :=
  (failure.measurements.find? fun entry => entry.1 = key).map Prod.snd

structure LidarEvent where
  eventId : String
  rule : LidarRule
  severity : Severity
  startFrameIndex : Int
  endFrameIndexExclusive : Int
  startTimeNs : Int
  endTimeNs : Int
  measurements : List (String × Double)
  representativeSourceOffsets : List Int
  compatibleCauses : List String
  deriving DecidableEq, Repr

/-- The bounds of the fields. -/
def LidarEvent.validate (event : LidarEvent) : Except Raised LidarEvent := do
  raiseIf (event.startFrameIndex < 0) "Input should be greater than or equal to 0"
  raiseIf (event.endFrameIndexExclusive ≤ 0) "Input should be greater than 0"
  raiseIf (∃ offset ∈ event.representativeSourceOffsets, offset < 0)
    "Input should be greater than or equal to 0"
  return event

end CartoSentry.LidarIntegrity
