import CartoSentry.Contracts.Raised
import CartoSentry.TrajectoryIntegrity.Contracts
import Mathlib.Data.Finset.Sort
import Mathlib.Data.Prod.Lex

set_option autoImplicit false

/-!
# Motion alignment: contracts

The records of `motion_alignment.py` over any kind of numbers.  The operations on numbers are a
parameter, so that one model can be read with floats and with exact numbers.
-/

namespace CartoSentry.MotionAlignment

open Contracts (Raised)
open TrajectoryIntegrity (Observability)

/-! ## Numbers -/

/-- The operations on numbers, as Python has them.  `sum` is the function of that name over
floats, and `ratio` the quotient of two whole numbers. -/
structure Arithmetic (K : Type) where
  ofNat : Nat → K
  ofInt : Int → Except Raised K
  isFinite : K → Bool
  add : K → K → K
  sub : K → K → K
  mul : K → K → K
  div : K → K → K
  square : K → Except Raised K
  abs : K → K
  sqrt : K → K
  acos : K → K
  hypot : K → K → K
  floor : K → Except Raised Int
  lt : K → K → Bool
  le : K → K → Bool
  ratio : Nat → Nat → K
  sum : List K → K

namespace Arithmetic

variable {K : Type} (arithmetic : Arithmetic K)

/-- `max(left, right)` -/
def max (left right : K) : K :=
  if arithmetic.lt left right then right else left

/-- `min(left, right)` -/
def min (left right : K) : K :=
  if arithmetic.lt right left then right else left

/-- `1.0` -/
def one : K :=
  arithmetic.ofNat 1

/-- `0.0` -/
def zero : K :=
  arithmetic.ofNat 0

end Arithmetic

/-! ## Poses -/

structure Vector (K : Type) where
  x : K
  y : K
  z : K
  deriving DecidableEq

namespace Vector

variable {K : Type}

def toList (vector : Vector K) : List K :=
  [vector.x, vector.y, vector.z]

/-- `sum((a - b) ** 2 for a, b in zip(left, right))` -/
def squaredDistance (arithmetic : Arithmetic K) (left right : Vector K) : Except Raised K := do
  let x ← arithmetic.square (arithmetic.sub left.x right.x)
  let y ← arithmetic.square (arithmetic.sub left.y right.y)
  let z ← arithmetic.square (arithmetic.sub left.z right.z)
  return arithmetic.sum [x, y, z]

end Vector

structure Quaternion (K : Type) where
  w : K
  x : K
  y : K
  z : K
  deriving DecidableEq

structure RigidTransform (K : Type) where
  targetFrame : String
  sourceFrame : String
  translationM : Vector K
  rotation : Quaternion K
  deriving DecidableEq

/-- The compiled geometry under `RigidTransform.compose` and `RigidTransform.apply`. -/
structure Geometry (K : Type) where
  compose : RigidTransform K → RigidTransform K → Except Raised (RigidTransform K)
  apply : RigidTransform K → Vector K → Except Raised (Vector K)

inductive TrajectorySupport where
  | supported
  | outsideSourceSupport
  | unsupportedGap
  | insufficientDerivativeSupport
  deriving DecidableEq, Repr

/-- What the analyzer reads of an evaluation. -/
structure TrajectoryEvaluation (K : Type) where
  support : TrajectorySupport
  pose : Option (RigidTransform K)

/-- The pose of a supported evaluation. -/
def TrajectoryEvaluation.supportedPose {K : Type} (evaluation : TrajectoryEvaluation K) :
    Option (RigidTransform K) :=
  if evaluation.support = .supported then evaluation.pose else none

/-- A trajectory: a function of the query time. -/
abbrev TrajectoryEvaluator (K : Type) : Type :=
  Int → Except Raised (TrajectoryEvaluation K)

/-! ## Inputs -/

inductive PointMotionClass where
  | static
  | dynamic
  | unknown
  deriving DecidableEq, Repr

structure AlignmentPointInput (K : Type) where
  positionLidarM : Vector K
  relativeTimeNs : Int
  sourceOffset : Int
  motionClass : PointMotionClass
  expectedWorldM : Option (Vector K)

structure AlignmentFrameInput (K : Type) where
  frameIndex : Int
  sourceKey : String
  referenceTimeNs : Int
  points : List (AlignmentPointInput K)

/-! ## The profile -/

/-- Declared dynamic points are always excluded: `exclude_declared_dynamic_points` is a
`Literal[True]`. -/
structure AlignmentMasks (K : Type) where
  nearEgoHorizontalRadiusM : K
  nearEgoMaximumAbsoluteHeightM : K

structure AlignmentObservability (K : Type) where
  minimumValidPointsPerFrame : Nat
  minimumOccupiedVoxelsPerFrame : Nat
  minimumSharedVoxelsPerPair : Nat
  minimumTranslationM : K
  minimumRotationRad : K

structure AlignmentThresholds (K : Type) where
  minimumOccupancyJaccard : K
  maximumSharedSurfaceThicknessM : K

structure AlignmentBudgets where
  maximumFrames : Nat
  maximumPointsPerFrame : Nat
  maximumVoxelsPerFrame : Nat
  maximumPairs : Nat
  maximumRepresentativeOffsets : Nat

structure LidarAlignmentProfile (K : Type) where
  immutableSha256 : String
  voxelSizeM : K
  masks : AlignmentMasks K
  observability : AlignmentObservability K
  alignment : AlignmentThresholds K
  budgets : AlignmentBudgets

/-! ## Evidence -/

inductive AlignmentSupport where
  | supported
  | unknownTrajectory
  | unknownObservability
  deriving DecidableEq, Repr

inductive AlignmentState where
  | pass
  | fail
  | unknown
  deriving DecidableEq, Repr

structure FrameAlignmentEvidence (K : Type) where
  frameIndex : Int
  sourceKey : String
  referenceTimeNs : Int
  support : AlignmentSupport
  trajectorySupportFailures : Nat
  inputPointCount : Nat
  retainedStaticOrUnknownPointCount : Nat
  excludedDynamicPointCount : Nat
  excludedNearEgoPointCount : Nat
  occupiedVoxelCount : Nat
  distinctMeasurementTimeCount : Nat
  perPointPoseEvaluationCount : Nat
  analyticTruthPointCount : Nat
  analyticTruthCoverageFraction : K
  analyticTruthRmseM : Option K
  representativeUnsupportedOffsets : List Int
  deriving DecidableEq

structure PairAlignmentEvidence (K : Type) where
  leftFrameIndex : Int
  rightFrameIndex : Int
  startTimeNs : Int
  endTimeNs : Int
  support : AlignmentSupport
  observability : Observability
  state : AlignmentState
  translationExcitationM : K
  rotationExcitationRad : K
  leftOccupiedVoxels : Nat
  rightOccupiedVoxels : Nat
  sharedVoxels : Nat
  occupancyJaccard : Option K
  sharedSurfaceThicknessM : Option K
  compatibleCauses : List String
  deriving DecidableEq

structure AlignmentStatistics where
  frameCount : Nat
  pairCount : Nat
  maximumInputPointsPerFrame : Nat
  maximumOccupiedVoxelsPerFrame : Nat
  deriving DecidableEq, Repr

structure LidarAlignmentReport (K : Type) where
  profileImmutableSha256 : String
  profileFileSha256 : String
  sourceSha256 : String
  state : AlignmentState
  statistics : AlignmentStatistics
  frames : List (FrameAlignmentEvidence K)
  pairs : List (PairAlignmentEvidence K)
  deriving DecidableEq

/-! ## Voxels -/

/-- A cell, in the order of Python's tuples. -/
abbrev Cell : Type := Int ×ₗ Int ×ₗ Int

structure VoxelAccumulator (K : Type) where
  count : Nat
  sumX : K
  sumY : K
  sumZ : K
  sumX2 : K
  sumY2 : K
  sumZ2 : K
  deriving DecidableEq

namespace VoxelAccumulator

variable {K : Type} (arithmetic : Arithmetic K)

def empty : VoxelAccumulator K :=
  ⟨0, arithmetic.zero, arithmetic.zero, arithmetic.zero, arithmetic.zero, arithmetic.zero,
    arithmetic.zero⟩

def add (voxel : VoxelAccumulator K) (point : Vector K) : VoxelAccumulator K where
  count := voxel.count + 1
  sumX := arithmetic.add voxel.sumX point.x
  sumY := arithmetic.add voxel.sumY point.y
  sumZ := arithmetic.add voxel.sumZ point.z
  sumX2 := arithmetic.add voxel.sumX2 (arithmetic.mul point.x point.x)
  sumY2 := arithmetic.add voxel.sumY2 (arithmetic.mul point.y point.y)
  sumZ2 := arithmetic.add voxel.sumZ2 (arithmetic.mul point.z point.z)

def combine (left right : VoxelAccumulator K) : VoxelAccumulator K where
  count := left.count + right.count
  sumX := arithmetic.add left.sumX right.sumX
  sumY := arithmetic.add left.sumY right.sumY
  sumZ := arithmetic.add left.sumZ right.sumZ
  sumX2 := arithmetic.add left.sumX2 right.sumX2
  sumY2 := arithmetic.add left.sumY2 right.sumY2
  sumZ2 := arithmetic.add left.sumZ2 right.sumZ2

/-- The variance along one axis, not below zero. -/
def axisVariance (inverse sum sum2 : K) : Except Raised K := do
  let squaredMean ← arithmetic.square (arithmetic.mul sum inverse)
  return arithmetic.max arithmetic.zero
    (arithmetic.sub (arithmetic.mul sum2 inverse) squaredMean)

def thickness (voxel : VoxelAccumulator K) : Except Raised K :=
  if voxel.count ≤ 1 then .ok arithmetic.zero
  else do
    let inverse := arithmetic.div arithmetic.one (arithmetic.ofNat voxel.count)
    let varianceX ← axisVariance arithmetic inverse voxel.sumX voxel.sumX2
    let varianceY ← axisVariance arithmetic inverse voxel.sumY voxel.sumY2
    let varianceZ ← axisVariance arithmetic inverse voxel.sumZ voxel.sumZ2
    return arithmetic.sqrt (arithmetic.add (arithmetic.add varianceX varianceY) varianceZ)

end VoxelAccumulator

/-- A dictionary from cells to accumulators.  Its insertion order is never read. -/
@[ext]
structure VoxelMap (K : Type) where
  cells : Finset Cell
  accumulator : Cell → VoxelAccumulator K

namespace VoxelMap

variable {K : Type} (arithmetic : Arithmetic K)

def empty : VoxelMap K :=
  ⟨∅, fun _ => .empty arithmetic⟩

/-- `voxels[cell].add(point)`, the accumulator being made where the cell is new. -/
def addPoint (voxels : VoxelMap K) (cell : Cell) (point : Vector K) : VoxelMap K where
  cells := insert cell voxels.cells
  accumulator := Function.update voxels.accumulator cell
    ((voxels.accumulator cell).add arithmetic point)

end VoxelMap

end CartoSentry.MotionAlignment
