import Mathlib.Algebra.Order.Floor.Ring
import Mathlib.Data.Rat.Floor
import CartoSentry.Matching.Contracts

set_option autoImplicit false

/-!
# Road bins: native contracts

The values `aggregate_directed_road_bins` reads and returns, and the checks it makes
on its input.  Numbers are exact rationals, so the checks for finite numbers hold of
every value and are left out.
-/

namespace CartoSentry.RoadBins

open Matching (InvalidArgument throwIf int64Min int64Max)

/-! ## Input -/

structure Arc where
  arcId : String
  length : ℚ
  deriving DecidableEq, Repr

inductive Modality where
  | camera
  | gnss
  | imu
  | lidar
  | radar
  | trajectory
  deriving DecidableEq, Repr

structure MatchedPoint where
  timeNs : Int
  arcIndex : Option Nat
  alongArcOffset : Option ℚ
  confident : Bool
  stationary : Bool
  speed : ℚ
  headingRad : Option ℚ
  deriving DecidableEq, Repr

structure MatchedPath where
  roadMatchId : String
  sequenceId : String
  sourceGroupId : String
  points : List MatchedPoint
  deriving DecidableEq, Repr

structure ModalityEvidence where
  evidenceId : String
  sequenceId : String
  modality : Modality
  startTimeNs : Int
  endTimeNs : Int
  usable : Bool
  pointCount : ℚ
  overlapSupport : Option ℚ
  timestampSupported : Bool
  deriving DecidableEq, Repr

structure FindingInterval where
  findingId : String
  sequenceId : String
  startTimeNs : Int
  endTimeNs : Int
  critical : Bool
  deriving DecidableEq, Repr

structure Parameters where
  binLength : ℚ
  independentTraversalMinimumGapNs : Int
  maximumPaths : Nat
  maximumPointsPerPath : Nat
  maximumTotalPoints : Nat
  maximumGeneratedBins : Nat
  maximumModalityEvidenceIntervals : Nat
  maximumFindings : Nat
  distanceRoundingDecimalPlaces : Int
  deriving DecidableEq, Repr

/-! ## Output -/

structure ModalityAggregate where
  modality : Modality
  validDurationNs : Int
  pointSupport : ℚ
  meanOverlapSupport : Option ℚ
  timestampSupportedDurationNs : Int
  evidenceIds : List String
  deriving DecidableEq, Repr

structure TraversalCoverage where
  arcIndex : Nat
  longitudinalBinIndex : Nat
  sequenceId : String
  sourceGroupId : String
  traversalOrdinal : Nat
  firstTimeNs : Int
  lastTimeNs : Int
  entryOffset : ℚ
  exitOffset : ℚ
  usableDurationNs : Int
  usableDistance : ℚ
  speedSampleCount : Nat
  minimumSpeed : ℚ
  meanSpeed : ℚ
  maximumSpeed : ℚ
  yawExcitation : ℚ
  roadMatchIds : List String
  modalities : List ModalityAggregate
  findingIds : List String
  criticalFindingIds : List String
  deriving DecidableEq, Repr

structure BinCoverage where
  arcIndex : Nat
  longitudinalBinIndex : Nat
  startOffset : ℚ
  endOffset : ℚ
  usableDurationNs : Int
  usableDistance : ℚ
  independentTraversalCount : Nat
  speedSampleCount : Nat
  minimumSpeed : Option ℚ
  meanSpeed : Option ℚ
  maximumSpeed : Option ℚ
  yawExcitation : ℚ
  traversals : List TraversalCoverage
  modalities : List ModalityAggregate
  findingIds : List String
  criticalFindingIds : List String
  deriving DecidableEq, Repr

structure FindingLocalization where
  findingId : String
  binResultIndices : List Nat
  deriving DecidableEq, Repr

structure AggregationResult where
  bins : List BinCoverage
  findingLocalizations : List FindingLocalization
  deriving DecidableEq, Repr

/-! ## Checked arithmetic -/

/-- The integer lies outside of 64 bits. -/
def overflows (value : Int) : Prop :=
  value < int64Min ∨ int64Max < value

instance (value : Int) : Decidable (overflows value) :=
  inferInstanceAs (Decidable (_ ∨ _))

/-- An integer checked to lie within 64 bits. -/
def checkedInt64 (message : String) (value : Int) : Except InvalidArgument Int :=
  if overflows value then .error ⟨message⟩ else .ok value

/-- `checked_difference`. -/
def checkedDifference (endNs startNs : Int) : Except InvalidArgument Int :=
  checkedInt64 "road-bin time difference overflows int64" (endNs - startNs)

/-- `checked_add`. -/
def checkedAdd (left right : Int) : Except InvalidArgument Int :=
  checkedInt64 "road-bin duration sum overflows int64" (left + right)

/-- The greatest `std::size_t`. -/
def sizeMax : Nat := 2 ^ 64 - 1

/-- `checked_size_add`. -/
def checkedSizeAdd (left right : Nat) : Except InvalidArgument Nat :=
  if sizeMax - left < right then .error ⟨"road-bin input count overflows size_t"⟩
  else .ok (left + right)

/-- `bin_count_for_arc`. -/
def binCountForArc (arc : Arc) (parameters : Parameters) : Except InvalidArgument Nat :=
  let ratio := arc.length / parameters.binLength
  if ratio ≤ 0 ∨ parameters.maximumGeneratedBins < ratio then
    .error ⟨"road-bin generated-bin budget is exceeded"⟩
  else .ok ⌈ratio⌉.toNat

/-- `std::round`: the nearest integer, away from zero at halves. -/
def roundAway (value : ℚ) : Int :=
  if 0 ≤ value then ⌊value + 1 / 2⌋ else ⌈value - 1 / 2⌉

/-- `rounded`. -/
def rounded (value : ℚ) (decimalPlaces : Int) : ℚ :=
  roundAway (value * 10 ^ decimalPlaces.toNat) / 10 ^ decimalPlaces.toNat

/-! ## Validation -/

def validateParameters (parameters : Parameters) : Except InvalidArgument Unit :=
  throwIf (parameters.binLength ≤ 0 ∨ parameters.independentTraversalMinimumGapNs < 0 ∨
      parameters.maximumPaths = 0 ∨ parameters.maximumPointsPerPath < 2 ∨
      parameters.maximumTotalPoints < 2 ∨ parameters.maximumGeneratedBins = 0 ∨
      parameters.maximumModalityEvidenceIntervals = 0 ∨ parameters.maximumFindings = 0 ∨
      parameters.distanceRoundingDecimalPlaces < 0 ∨
      12 < parameters.distanceRoundingDecimalPlaces)
    "road-bin parameters are invalid"

def validateArcs (parameters : Parameters) :
    List Arc → List String → Nat → Except InvalidArgument Unit
  | [], _, _ => .ok ()
  | arc :: rest, seen, generated => do
      throwIf (arc.arcId = "" ∨ arc.arcId ∈ seen ∨ arc.length ≤ 0) "road-bin arc input is invalid"
      let binCount ← binCountForArc arc parameters
      let total ← checkedSizeAdd generated binCount
      throwIf (parameters.maximumGeneratedBins < total) "road-bin generated-bin budget is exceeded"
      validateArcs parameters rest (arc.arcId :: seen) total

/-- An arc by its index; the indices of validated points lie within the arcs. -/
def arcAt (arcs : List Arc) (arcIndex : Nat) : Arc :=
  arcs.getD arcIndex { arcId := "", length := 0 }

/-- An offset outside of its arc. -/
def MatchedPoint.outside (arcs : List Arc) (point : MatchedPoint) : Prop :=
  ∃ arcIndex ∈ point.arcIndex, arcs.length ≤ arcIndex ∨
    ∃ offset ∈ point.alongArcOffset, offset < 0 ∨ (arcAt arcs arcIndex).length < offset

instance (arcs : List Arc) (point : MatchedPoint) : Decidable (point.outside arcs) :=
  inferInstanceAs (Decidable (∃ _ ∈ _, _))

def validatePoints (arcs : List Arc) :
    Option Int → List MatchedPoint → Except InvalidArgument Unit
  | _, [] => .ok ()
  | previousTimeNs, point :: rest => do
      throwIf (point.speed < 0 ∨ point.arcIndex.isSome ≠ point.alongArcOffset.isSome)
        "road-bin matched point is invalid"
      throwIf (∃ time ∈ previousTimeNs, point.timeNs ≤ time)
        "road-bin matched points must be strictly time ordered"
      throwIf (point.outside arcs) "road-bin matched point offset is outside its arc"
      validatePoints arcs (some point.timeNs) rest

/-- The checks of the paths; the source groups of the sequences read so far are
returned. -/
def validatePaths (arcs : List Arc) (parameters : Parameters) :
    List MatchedPath → List String → List (String × String) → Nat →
      Except InvalidArgument (List (String × String))
  | [], _, groups, _ => .ok groups
  | path :: rest, seen, groups, count => do
      throwIf (path.roadMatchId = "" ∨ path.sequenceId = "" ∨ path.sourceGroupId = "" ∨
          path.roadMatchId ∈ seen ∨ parameters.maximumPointsPerPath < path.points.length)
        "road-bin matched path is invalid"
      let total ← checkedSizeAdd count path.points.length
      throwIf (parameters.maximumTotalPoints < total) "road-bin total-point budget is exceeded"
      throwIf (∃ group ∈ groups.lookup path.sequenceId, group ≠ path.sourceGroupId)
        "road-bin sequence has inconsistent source-group identity"
      validatePoints arcs none path.points
      validatePaths arcs parameters rest (path.roadMatchId :: seen)
        ((path.sequenceId, path.sourceGroupId) :: groups) total

def validateEvidence (groups : List (String × String)) :
    List ModalityEvidence → List String → Except InvalidArgument Unit
  | [], _ => .ok ()
  | evidence :: rest, seen => do
      throwIf (evidence.evidenceId = "" ∨ evidence.sequenceId = "" ∨ evidence.evidenceId ∈ seen ∨
          evidence.endTimeNs ≤ evidence.startTimeNs ∨ evidence.pointCount < 0 ∨
          ∃ overlap ∈ evidence.overlapSupport, overlap < 0)
        "road-bin modality evidence is invalid"
      throwIf (groups.lookup evidence.sequenceId = none)
        "road-bin modality evidence references an unknown sequence"
      validateEvidence groups rest (evidence.evidenceId :: seen)

def validateFindings (groups : List (String × String)) :
    List FindingInterval → List String → Except InvalidArgument Unit
  | [], _ => .ok ()
  | finding :: rest, seen => do
      throwIf (finding.findingId = "" ∨ finding.sequenceId = "" ∨ finding.findingId ∈ seen ∨
          finding.endTimeNs ≤ finding.startTimeNs ∨ groups.lookup finding.sequenceId = none)
        "road-bin finding input is invalid"
      validateFindings groups rest (finding.findingId :: seen)

/-- `validate_inputs`. -/
def validateInputs (arcs : List Arc) (paths : List MatchedPath)
    (evidence : List ModalityEvidence) (findings : List FindingInterval)
    (parameters : Parameters) : Except InvalidArgument Unit := do
  validateParameters parameters
  throwIf (parameters.maximumPaths < paths.length ∨
      parameters.maximumModalityEvidenceIntervals < evidence.length ∨
      parameters.maximumFindings < findings.length)
    "road-bin input exceeds its frozen budget"
  validateArcs parameters arcs [] 0
  let groups ← validatePaths arcs parameters paths [] [] 0
  validateEvidence groups evidence []
  validateFindings groups findings []

end CartoSentry.RoadBins
