import CartoSentry.RoadBins.Aggregation

set_option autoImplicit false

/-!
# Road bins: ledger contract

What the portable ledger checks of the traversals and bins it is composed of: the fields
and validators of `BinModalityEvidence`, `RoadBinTraversal` and `DirectedRoadBinCoverage`.
The identities, which the composition makes itself, are left out.
-/

namespace CartoSentry.RoadBins

/-! ## Modality evidence -/

/-- `BinModalityEvidence`. -/
structure ModalityAggregate.Conforms (value : ModalityAggregate) : Prop where
  validDurationNs : 0 ≤ value.validDurationNs
  pointSupport : 0 ≤ value.pointSupport
  meanOverlapSupport : ∀ mean ∈ value.meanOverlapSupport, 0 ≤ mean
  timestampSupportedDurationNs : 0 ≤ value.timestampSupportedDurationNs
  timestampSupport : value.timestampSupportedDurationNs ≤ value.validDurationNs
  lidarOnly : value.modality ≠ .lidar →
    value.pointSupport = 0 ∧ value.meanOverlapSupport = none
  evidenceIds : canonical value.evidenceIds = value.evidenceIds

/-! ## Traversals -/

/-- `RoadBinTraversal`. -/
structure TraversalCoverage.Conforms (traversal : TraversalCoverage) : Prop where
  sequenceId : traversal.sequenceId ≠ ""
  sourceGroupId : traversal.sourceGroupId ≠ ""
  entryOffset : 0 ≤ traversal.entryOffset
  exitOffset : 0 < traversal.exitOffset
  usableDurationNs : 0 < traversal.usableDurationNs
  usableDistance : 0 < traversal.usableDistance
  speedSampleCount : 0 < traversal.speedSampleCount
  minimumSpeed : 0 ≤ traversal.minimumSpeed
  meanSpeed : 0 ≤ traversal.meanSpeed
  maximumSpeed : 0 ≤ traversal.maximumSpeed
  yawExcitation : 0 ≤ traversal.yawExcitation
  times : traversal.firstTimeNs < traversal.lastTimeNs
  advances : traversal.entryOffset < traversal.exitOffset
  minimum_le_mean : traversal.minimumSpeed ≤ traversal.meanSpeed
  mean_le_maximum : traversal.meanSpeed ≤ traversal.maximumSpeed
  roadMatchIds : canonical traversal.roadMatchIds = traversal.roadMatchIds
  findingIds : canonical traversal.findingIds = traversal.findingIds
  criticalFindingIds : canonical traversal.criticalFindingIds = traversal.criticalFindingIds
  critical_subset : ∀ id ∈ traversal.criticalFindingIds, id ∈ traversal.findingIds
  modalities : ∀ value ∈ traversal.modalities, value.Conforms

/-! ## Bins -/

/-- Python's `round`: to the nearest, halves to even. -/
def roundHalfEven (value : ℚ) : Int :=
  if value - ⌊value⌋ < 1 / 2 then ⌊value⌋
  else if 1 / 2 < value - ⌊value⌋ then ⌊value⌋ + 1
  else if ⌊value⌋ % 2 = 0 then ⌊value⌋ else ⌊value⌋ + 1

/-- The length of a bin in the ledger, rounded once more. -/
def BinCoverage.trueLength (parameters : Parameters) (bin : BinCoverage) : ℚ :=
  roundHalfEven ((bin.endOffset - bin.startOffset) *
      10 ^ parameters.distanceRoundingDecimalPlaces.toNat) /
    10 ^ parameters.distanceRoundingDecimalPlaces.toNat

/-- `math.isclose` with its default relative tolerance. -/
def isClose (left right absoluteTolerance : ℚ) : Prop :=
  abs (left - right) ≤ max (1 / 10 ^ 9 * max (abs left) (abs right)) absoluteTolerance

/-- The speeds of a bin: absent, or present and ordered. -/
def BinCoverage.SpeedsConform (bin : BinCoverage) : Prop :=
  if bin.speedSampleCount = 0 then
    bin.minimumSpeed = none ∧ bin.meanSpeed = none ∧ bin.maximumSpeed = none
  else ∃ minimum ∈ bin.minimumSpeed, ∃ mean ∈ bin.meanSpeed, ∃ maximum ∈ bin.maximumSpeed,
    0 ≤ minimum ∧ minimum ≤ mean ∧ mean ≤ maximum

/-- `DirectedRoadBinCoverage`. -/
structure BinCoverage.Conforms (parameters : Parameters) (bin : BinCoverage) : Prop where
  startOffset : 0 ≤ bin.startOffset
  endOffset : 0 < bin.endOffset
  trueLength : 0 < bin.trueLength parameters
  usableDurationNs : 0 ≤ bin.usableDurationNs
  usableDistance : 0 ≤ bin.usableDistance
  yawExcitation : 0 ≤ bin.yawExcitation
  bounds : bin.startOffset < bin.endOffset
  lengthClose :
    isClose (bin.trueLength parameters) (bin.endOffset - bin.startOffset) (1 / 10 ^ 6)
  traversalCount : bin.independentTraversalCount = bin.traversals.length
  owned : ∀ traversal ∈ bin.traversals, bin.owns traversal
  speeds : bin.SpeedsConform
  critical_subset : ∀ id ∈ bin.criticalFindingIds, id ∈ bin.findingIds
  traversals : ∀ traversal ∈ bin.traversals, traversal.Conforms
  modalities : ∀ value ∈ bin.modalities, value.Conforms

/-- Every bin, with its traversals, can be composed into the ledger. -/
def AggregationResult.Composes (parameters : Parameters) (result : AggregationResult) : Prop :=
  ∀ bin ∈ result.bins, bin.Conforms parameters

end CartoSentry.RoadBins
