import CartoSentry.Artifacts.SequenceManifest
import CartoSentry.Contracts.MachineInteger
import CartoSentry.Contracts.Raised
import CartoSentry.Foundation.DoubleArithmetic

set_option autoImplicit false

/-!
# Trajectory: contracts

The samples of `trajectory.py`, the parameters of the continuous trajectory and what it
evaluates to.  Numerical library functions are parameters.
-/

namespace CartoSentry.Trajectory

open Artifacts (FrameId TimeEpoch TimeReference)
open Contracts (Raised raiseIf Int64Value)
open Foundation (Double)

/-! ## Samples -/

structure Vector3 where
  x : Double
  y : Double
  z : Double
  deriving DecidableEq, Repr

namespace Vector3

def toList (vector : Vector3) : List Double :=
  [vector.x, vector.y, vector.z]

def isFinite (vector : Vector3) : Bool :=
  vector.x.isFinite && vector.y.isFinite && vector.z.isFinite

/-- The difference, component by component. -/
def sub (left right : Vector3) : Vector3 :=
  ⟨left.x.sub right.x, left.y.sub right.y, left.z.sub right.z⟩

end Vector3

structure UnitQuaternion where
  w : Double
  x : Double
  y : Double
  z : Double
  deriving DecidableEq, Repr

/-- A transform is made of finite numbers: `allow_inf_nan=False`. -/
structure RigidTransform where
  targetFrame : FrameId
  sourceFrame : FrameId
  translationM : Vector3
  rotation : UnitQuaternion
  finite : translationM.isFinite = true
  deriving DecidableEq

/-- What the trajectory reads of a `TimePoint`. -/
structure SampleTime where
  valueNs : Int64Value
  epoch : TimeEpoch
  clockId : String
  reference : TimeReference
  deriving DecidableEq

/-- A pose of the source.  Of a geographic observation only the presence is read. -/
structure ReferenceSample where
  time : SampleTime
  worldFromRig : RigidTransform
  sourceVelocityWorldMps : Option Vector3
  geographic : Bool
  deriving DecidableEq

namespace ReferenceSample

variable (sample : ReferenceSample)

def timeNs : Int :=
  sample.time.valueNs.value

/-- `(epoch, clock_id, reference)` -/
def timeDomain : TimeEpoch × String × TimeReference :=
  (sample.time.epoch, sample.time.clockId, sample.time.reference)

/-- `(target_frame, source_frame)` -/
def frames : FrameId × FrameId :=
  (sample.worldFromRig.targetFrame, sample.worldFromRig.sourceFrame)

end ReferenceSample

/-! ## Parameters -/

/-- The polynomials are cubic: `derivative_polynomial_degree` is a `Literal[3]`. -/
def derivativePolynomialDegree : Nat := 3

structure TrajectoryGateParameters where
  maximumSupportGapNs : Nat
  derivativeHalfWindowSamples : Nat
  leastSquaresRcond : Double
  huberDelta : Double
  robustMaximumIterations : Nat
  robustConvergenceTolerance : Double
  stationarySpeedThresholdMps : Double
  stationaryMinimumDurationNs : Nat
  supportGapPositive : 0 < maximumSupportGapNs
  halfWindow : 2 ≤ derivativeHalfWindowSamples

/-! ## Evaluations -/

inductive TrajectorySupport where
  | supported
  | outsideSourceSupport
  | unsupportedGap
  | insufficientDerivativeSupport
  deriving DecidableEq, Repr

structure TrajectoryDerivatives where
  velocityWorldMps : Vector3
  accelerationWorldMps2 : Vector3
  jerkWorldMps3 : Vector3
  headingRad : Double
  yawRateRadps : Double
  curvaturePerM : Double
  stationary : Bool
  deriving DecidableEq, Repr

/-- The numbers of a `ContractModel` are finite. -/
def TrajectoryDerivatives.isFinite (derivatives : TrajectoryDerivatives) : Bool :=
  derivatives.velocityWorldMps.isFinite && derivatives.accelerationWorldMps2.isFinite &&
    derivatives.jerkWorldMps3.isFinite && derivatives.headingRad.isFinite &&
    derivatives.yawRateRadps.isFinite && derivatives.curvaturePerM.isFinite

structure TrajectoryEvaluation where
  queryTimeNs : Int
  support : TrajectorySupport
  pose : Option RigidTransform
  derivatives : Option TrajectoryDerivatives
  deriving DecidableEq

/-! ## The numerical libraries -/

/-- What is taken of Python's floating point: `sum` over floats, which carries a
compensation of its own, and `math.sqrt`, which here only ever sees sums of squares. -/
structure FloatLibrary where
  sum : List Double → Double
  sqrt : Double → Double

/-- The length of a vector. -/
def Vector3.magnitude (library : FloatLibrary) (vector : Vector3) : Double :=
  library.sqrt (library.sum (vector.toList.map fun value => value.mul value))

/-- The coefficients of a fit: a row for each power of the time. -/
abbrev Coefficients : Type := List (List Double)

/-- What the continuous trajectory takes of `math` and of numpy, with the robust least
squares of `_fit`: the coefficients of cubic polynomials through rows of values at times
relative to the query. -/
structure NumericLibrary extends FloatLibrary where
  atan2 : Double → Double → Double
  unwrap : List Double → List Double
  median : List Double → Double
  norm : List Double → Double
  fit : TrajectoryGateParameters → List Double → List (List Double) → Except Raised Coefficients
  interpolate : RigidTransform → RigidTransform → Double → Except Raised RigidTransform

/-- `float(value)` of a number of nanoseconds. -/
def floatOf (value : Int) : Double :=
  .rounded false value

/-- `left / right` of whole numbers: the float nearest to the quotient. -/
def trueDivision (left right : Int) : Double :=
  .rounded false ((left : ℚ) / right)

def Coefficients.row (coefficients : Coefficients) (degree : Nat) : List Double :=
  coefficients.getD degree []

/-- The three columns of a row. -/
def vectorOf (row : List Double) : Vector3 :=
  ⟨row.getD 0 .nan, row.getD 1 .nan, row.getD 2 .nan⟩

end CartoSentry.Trajectory
