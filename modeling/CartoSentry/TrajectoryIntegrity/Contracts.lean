import CartoSentry.Trajectory.Contracts
import Mathlib.Data.NNRat.Defs

set_option autoImplicit false

/-!
# Trajectory integrity: contracts

The records of `trajectory_integrity.py`: rules and thresholds, raw failures, and events
with their validator.
-/

namespace CartoSentry.TrajectoryIntegrity

open Artifacts (Sha256)
open Contracts (Raised raiseIf)
open Foundation (Double)
open Trajectory (Vector3 FloatLibrary)

/-! ## Rules and severities -/

inductive TrajectoryRule where
  | timestampRegression
  | duplicateTimestamp
  | timestampGap
  | coordinateContinuity
  | positionFreeze
  | positionJump
  | referencePositionResidual
  | velocityResidual
  | maximumSpeed
  | maximumAcceleration
  | maximumJerk
  | maximumYawRate
  deriving DecidableEq, Repr

namespace TrajectoryRule

def value : TrajectoryRule → String
  | timestampRegression => "timestamp_regression"
  | duplicateTimestamp => "duplicate_timestamp"
  | timestampGap => "timestamp_gap"
  | coordinateContinuity => "coordinate_continuity"
  | positionFreeze => "position_freeze"
  | positionJump => "position_jump"
  | referencePositionResidual => "reference_position_residual"
  | velocityResidual => "velocity_residual"
  | maximumSpeed => "maximum_speed"
  | maximumAcceleration => "maximum_acceleration"
  | maximumJerk => "maximum_jerk"
  | maximumYawRate => "maximum_yaw_rate"

/-- `list(TrajectoryRule)` -/
def all : List TrajectoryRule :=
  [timestampRegression, duplicateTimestamp, timestampGap, coordinateContinuity, positionFreeze,
    positionJump, referencePositionResidual, velocityResidual, maximumSpeed, maximumAcceleration,
    maximumJerk, maximumYawRate]

theorem mem_all (rule : TrajectoryRule) : rule ∈ all := by
  cases rule <;> simp [all]

end TrajectoryRule

def structuralLocalizationRules : List TrajectoryRule :=
  [.timestampRegression, .duplicateTimestamp, .timestampGap, .coordinateContinuity]

inductive Severity where
  | info
  | warning
  | critical
  | blockingAnalysis
  deriving DecidableEq, Repr

/-- `severity_order` -/
def Severity.order : Severity → Nat
  | info => 0
  | warning => 1
  | critical => 2
  | blockingAnalysis => 3

theorem Severity.order_injective : Function.Injective Severity.order := by
  intro left right h
  cases left <;> cases right <;> first | rfl | cases h

inductive Observability where
  | observable
  | weak
  | notObservable
  | notApplicable
  deriving DecidableEq, Repr

/-! ## The profile -/

inductive TrajectoryMeasurementUnit where
  | count
  | nanosecond
  | meter
  | meterPerSecond
  | meterPerSecondSquared
  | meterPerSecondCubed
  | radianPerSecond
  deriving DecidableEq, Repr

inductive ThresholdOperator where
  | maxLe
  | absMaxLe
  | minGe
  deriving DecidableEq, Repr

structure ThresholdDefinition where
  operator : ThresholdOperator
  value : Double
  unit : TrajectoryMeasurementUnit
  nonnegative : (Double.finite 0).le value = true

theorem zero_le_finite (value : ℚ≥0) : (Double.finite 0).le (.finite value) = true :=
  decide_eq_true (Prod.Lex.toLex_le_toLex.mpr (Or.inr ⟨rfl, value.coe_nonneg⟩))

/-- A threshold at a value that is not negative. -/
def ThresholdDefinition.at (operator : ThresholdOperator) (value : ℚ≥0)
    (unit : TrajectoryMeasurementUnit) : ThresholdDefinition where
  operator := operator
  value := .finite value
  unit := unit
  nonnegative := zero_le_finite value

/-- The keys of `thresholds`: the validator of the profile accepts these and no others. -/
inductive ThresholdKey where
  | duplicateCount
  | regressionCount
  | maximumGapNs
  | coordinateContinuityMismatchCount
  | positionJumpResidualM
  | referencePositionResidualM
  | velocityResidualMps
  | maximumSpeedMps
  | maximumAccelerationMps2
  | maximumJerkMps3
  | maximumYawRateRadps
  | freezeObservedSpeedMps
  | freezeSourceSpeedMps
  | freezeMinimumDurationNs
  deriving DecidableEq, Repr

def ThresholdKey.value : ThresholdKey → String
  | duplicateCount => "timestamp.duplicate_count"
  | regressionCount => "timestamp.regression_count"
  | maximumGapNs => "timestamp.maximum_gap_ns"
  | coordinateContinuityMismatchCount => "trajectory.coordinate_continuity_mismatch_count"
  | positionJumpResidualM => "trajectory.position_jump_residual_m"
  | referencePositionResidualM => "trajectory.reference_position_residual_m"
  | velocityResidualMps => "trajectory.velocity_residual_mps"
  | maximumSpeedMps => "trajectory.maximum_speed_mps"
  | maximumAccelerationMps2 => "trajectory.maximum_acceleration_mps2"
  | maximumJerkMps3 => "trajectory.maximum_jerk_mps3"
  | maximumYawRateRadps => "trajectory.maximum_yaw_rate_radps"
  | freezeObservedSpeedMps => "trajectory.freeze_observed_speed_mps"
  | freezeSourceSpeedMps => "trajectory.freeze_source_speed_mps"
  | freezeMinimumDurationNs => "trajectory.freeze_minimum_duration_ns"

structure EventConsolidationProfile where
  temporalAdjacencyNs : Nat
  pairedStepMaximumDurationNs : Nat
  clearWindowsRequired : Nat
  primaryRulePriority : List TrajectoryRule
  pairedStepPositive : 0 < pairedStepMaximumDurationNs
  clearWindowsPositive : 0 < clearWindowsRequired
  priorityFrozen : primaryRulePriority = TrajectoryRule.all

structure DetectorBudgets where
  maximumSamples : Nat
  maximumRawFailures : Nat
  maximumEvents : Nat
  samplesPositive : 0 < maximumSamples
  rawFailuresPositive : 0 < maximumRawFailures
  eventsPositive : 0 < maximumEvents

structure NumericalComparisonProfile where
  relativeTolerance : Double
  absoluteTolerance : Double
  relativeNonnegative : (Double.finite 0).le relativeTolerance = true
  absoluteNonnegative : (Double.finite 0).le absoluteTolerance = true

/-- Tolerances of one value. -/
def NumericalComparisonProfile.both (tolerance : ℚ≥0) : NumericalComparisonProfile where
  relativeTolerance := .finite tolerance
  absoluteTolerance := .finite tolerance
  relativeNonnegative := zero_le_finite tolerance
  absoluteNonnegative := zero_le_finite tolerance

structure TrajectoryIntegrityProfile where
  immutableSha256 : Sha256
  thresholds : ThresholdKey → ThresholdDefinition
  numericalComparison : NumericalComparisonProfile
  eventConsolidation : EventConsolidationProfile
  budgets : DetectorBudgets

/-- The thresholds of `profiles/trajectory_integrity_v1.yaml`, a tenth as the float nearest
to it. -/
def thresholdsV1 : ThresholdKey → ThresholdDefinition
  | .duplicateCount => .at .maxLe 0 .count
  | .regressionCount => .at .maxLe 0 .count
  | .maximumGapNs => .at .maxLe 100000000 .nanosecond
  | .coordinateContinuityMismatchCount => .at .maxLe 0 .count
  | .positionJumpResidualM => .at .maxLe 1 .meter
  | .referencePositionResidualM => .at .maxLe (3 / 2) .meter
  | .velocityResidualMps => .at .maxLe (3 / 4) .meterPerSecond
  | .maximumSpeedMps => .at .maxLe 70 .meterPerSecond
  | .maximumAccelerationMps2 => .at .maxLe 15 .meterPerSecondSquared
  | .maximumJerkMps3 => .at .maxLe 100 .meterPerSecondCubed
  | .maximumYawRateRadps => .at .absMaxLe (3 / 2) .radianPerSecond
  | .freezeObservedSpeedMps =>
    .at .maxLe (3602879701896397 / 36028797018963968) .meterPerSecond
  | .freezeSourceSpeedMps => .at .minGe 1 .meterPerSecond
  | .freezeMinimumDurationNs => .at .minGe 500000000 .nanosecond

def profileV1 : TrajectoryIntegrityProfile where
  immutableSha256 :=
    ⟨"cc00a382071fe3cb88411ff2d0d3b23223198ecd7a24bd559abb9e70a838708e", by decide⟩
  thresholds := thresholdsV1
  numericalComparison := .both (4951760157141521 / 4951760157141521099596496896)
  eventConsolidation := ⟨500000000, 3000000000, 2, TrajectoryRule.all, by omega, by omega, rfl⟩
  budgets := ⟨1000000, 100000, 4096, by omega, by omega, by omega⟩

/-! ## Failures -/

structure RuleMeasurement where
  rule : TrajectoryRule
  value : Double
  unit : TrajectoryMeasurementUnit
  thresholdKey : String
  thresholdValue : Double
  thresholdOperator : ThresholdOperator
  deriving DecidableEq, Repr

structure CompatibleCause where
  label : String
  deriving DecidableEq, Repr

/-- `_RawFailure` -/
structure RawFailure where
  rule : TrajectoryRule
  startTimeNs : Int
  endTimeNs : Int
  startIndex : Nat
  endIndexExclusive : Nat
  measurements : List RuleMeasurement
  severity : Severity
  vector : Option Vector3 := none
  compatibleCauses : List CompatibleCause := []
  deriving DecidableEq, Repr

/-- `_measurement` -/
def measurement (profile : TrajectoryIntegrityProfile) (rule : TrajectoryRule) (key : ThresholdKey)
    (value : Double) : RuleMeasurement where
  rule := rule
  value := value
  unit := (profile.thresholds key).unit
  thresholdKey := key.value
  thresholdValue := (profile.thresholds key).value
  thresholdOperator := (profile.thresholds key).operator

/-! ## Events -/

structure TrajectoryIntegrityEvent where
  eventId : String
  startTimeNs : Int
  endTimeNs : Int
  startSampleIndex : Nat
  endSampleIndexExclusive : Nat
  primaryRule : TrajectoryRule
  triggeredRules : List TrajectoryRule
  severity : Severity
  observability : Observability
  measurements : List RuleMeasurement
  compatibleCauses : List CompatibleCause
  deriving DecidableEq, Repr

namespace TrajectoryIntegrityEvent

variable (event : TrajectoryIntegrityEvent)

/-- The bounds of the fields and `validate_interval`.  A field bound is checked first. -/
def validateInterval : Except Raised TrajectoryIntegrityEvent := do
  raiseIf (event.endSampleIndexExclusive = 0) "Input should be greater than 0"
  raiseIf (event.endTimeNs ≤ event.startTimeNs)
    "trajectory event interval must be nonempty and half open"
  raiseIf (event.endSampleIndexExclusive ≤ event.startSampleIndex)
    "trajectory event sample interval must be nonempty"
  raiseIf (event.triggeredRules = [] ∨ event.primaryRule ∉ event.triggeredRules)
    "trajectory event primary rule must be triggered"
  raiseIf (event.measurements = []) "trajectory event needs auditable measurements"
  return event

end TrajectoryIntegrityEvent

/-! ## Vectors -/

/-- `_norm` -/
def norm (library : FloatLibrary) (vector : Vector3) : Double :=
  vector.magnitude library

/-- `_subtract` -/
def subtract (left right : Vector3) : Vector3 :=
  left.sub right

end CartoSentry.TrajectoryIntegrity
