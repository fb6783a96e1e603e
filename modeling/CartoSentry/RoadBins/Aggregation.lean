import Mathlib.Logic.Function.Basic
import CartoSentry.RoadBins.Pieces

set_option autoImplicit false

/-!
# Road bins: aggregation

`make_traversal` and `aggregate_directed_road_bins`.
-/

namespace CartoSentry.RoadBins

open Foundation
open Matching (InvalidArgument)

/-- What a set of strings lists. -/
def canonical (ids : List String) : List String :=
  ids.dedup.insertionSort (· ≤ ·)

/-- `std::ranges::sort` of strings. -/
def sortIds (ids : List String) : List String :=
  ids.insertionSort (· ≤ ·)

/-! ## Intervals -/

structure TimeInterval where
  startNs : Int
  endNs : Int
  deriving DecidableEq, Repr

def TimeInterval.sortKey (interval : TimeInterval) : Int ×ₗ Int :=
  toLex (interval.startNs, interval.endNs)

/-- The loop of `merged_duration`, over sorted intervals. -/
def mergeFrom (currentStart currentEnd durationNs : Int) :
    List TimeInterval → Except InvalidArgument Int
  | [] => do
      let last ← checkedDifference currentEnd currentStart
      checkedAdd durationNs last
  | interval :: rest =>
      if interval.startNs ≤ currentEnd then
        mergeFrom currentStart (max currentEnd interval.endNs) durationNs rest
      else do
        let merged ← checkedDifference currentEnd currentStart
        let durationNs ← checkedAdd durationNs merged
        mergeFrom interval.startNs interval.endNs durationNs rest

/-- `merged_duration`. -/
def mergedDuration (intervals : List TimeInterval) : Except InvalidArgument Int :=
  match intervals.insertionSort fun left right => left.sortKey ≤ right.sortKey with
  | [] => .ok 0
  | first :: rest => mergeFrom first.startNs first.endNs 0 rest

/-- `overlap_interval`. -/
def overlapInterval (startNs endNs : Int) (piece : Piece) : Option TimeInterval :=
  let overlapStart := max piece.startTimeNs startNs
  let overlapEnd := min piece.endTimeNs endNs
  if overlapEnd ≤ overlapStart then none
  else some { startNs := overlapStart, endNs := overlapEnd }

/-! ## Modalities -/

structure ModalityAccumulator where
  modality : Modality
  validIntervals : List TimeInterval
  timestampIntervals : List TimeInterval
  pointSupport : ℚ
  overlapSupportDurationProduct : ℚ
  overlapSupportDurationNs : Int
  evidenceIds : List String
  deriving DecidableEq, Repr

def ModalityAccumulator.empty (modality : Modality) : ModalityAccumulator :=
  { modality := modality
    validIntervals := []
    timestampIntervals := []
    pointSupport := 0
    overlapSupportDurationProduct := 0
    overlapSupportDurationNs := 0
    evidenceIds := [] }

/-- The accumulators of the modalities met so far. -/
abbrev ModalityValues : Type :=
  Modality → Option ModalityAccumulator

def ModalityValues.at (values : ModalityValues) (modality : Modality) : ModalityAccumulator :=
  (values modality).getD (.empty modality)

/-- `modality_order`. -/
def Modality.all : List Modality :=
  [.camera, .gnss, .imu, .lidar, .radar, .trajectory]

/-- `finalize_modality`. -/
def finalizeModality (decimalPlaces : Int) (value : ModalityAccumulator) :
    Except InvalidArgument ModalityAggregate := do
  let validDurationNs ← mergedDuration value.validIntervals
  let timestampSupportedDurationNs ← mergedDuration value.timestampIntervals
  .ok { modality := value.modality
        validDurationNs := validDurationNs
        pointSupport := rounded value.pointSupport decimalPlaces
        meanOverlapSupport :=
          if 0 < value.overlapSupportDurationNs then
            some (rounded (value.overlapSupportDurationProduct / value.overlapSupportDurationNs)
              decimalPlaces)
          else none
        timestampSupportedDurationNs := timestampSupportedDurationNs
        evidenceIds := canonical value.evidenceIds }

/-- The duration with overlap support; the new duration counts where there is a support. -/
def addSupported (support : Option ℚ) (totalNs durationNs : Int) : Except InvalidArgument Int :=
  match support with
  | none => .ok totalNs
  | some _ => checkedAdd totalNs durationNs

/-- An evidence interval of the sequence, joined with the pieces of a traversal. -/
def addEvidence (pieces : List Piece) (sequenceId : String) (values : ModalityValues)
    (evidence : ModalityEvidence) : Except InvalidArgument ModalityValues :=
  if evidence.usable = false ∨ evidence.sequenceId ≠ sequenceId then .ok values
  else do
    let overlaps := pieces.filterMap (overlapInterval evidence.startTimeNs evidence.endTimeNs)
    let durationNs ← mergedDuration overlaps
    if durationNs ≤ 0 then .ok values
    else do
      let value := values.at evidence.modality
      let evidenceDurationNs ← checkedDifference evidence.endTimeNs evidence.startTimeNs
      let overlapSupportDurationNs ←
        addSupported evidence.overlapSupport value.overlapSupportDurationNs durationNs
      .ok (Function.update values evidence.modality (some
        { modality := evidence.modality
          validIntervals := value.validIntervals ++ overlaps
          timestampIntervals :=
            if evidence.timestampSupported then value.timestampIntervals ++ overlaps
            else value.timestampIntervals
          pointSupport :=
            value.pointSupport + evidence.pointCount * durationNs / evidenceDurationNs
          overlapSupportDurationProduct :=
            value.overlapSupportDurationProduct + evidence.overlapSupport.getD 0 * durationNs
          overlapSupportDurationNs := overlapSupportDurationNs
          evidenceIds := value.evidenceIds ++ [evidence.evidenceId] }))

/-! ## Traversals -/

/-- What the loop over the pieces of a traversal keeps. -/
@[ext]
structure TraversalProgress where
  firstTimeNs : Int
  lastTimeNs : Int
  entryOffset : ℚ
  exitOffset : ℚ
  usableDurationNs : Int
  usableDistance : ℚ
  speedSampleCount : Nat
  minimumSpeed : ℚ
  maximumSpeed : ℚ
  speedSum : ℚ
  yawExcitation : ℚ
  deriving DecidableEq, Repr

/-- The loop starts before the first piece.  The least speed starts at that of the first
piece, which replaces the infinity of the source at once. -/
def TraversalProgress.start (first : Piece) : TraversalProgress :=
  { firstTimeNs := first.startTimeNs
    lastTimeNs := first.endTimeNs
    entryOffset := first.entryOffset
    exitOffset := first.exitOffset
    usableDurationNs := 0
    usableDistance := 0
    speedSampleCount := 0
    minimumSpeed := first.startSpeed
    maximumSpeed := 0
    speedSum := 0
    yawExcitation := 0 }

def TraversalProgress.add (first : Piece) (progress : TraversalProgress) (piece : Piece) :
    Except InvalidArgument TraversalProgress := do
  let lastTimeNs := max progress.lastTimeNs piece.endTimeNs
  let durationNs ← checkedDifference piece.endTimeNs piece.startTimeNs
  let usableDurationNs ← checkedAdd progress.usableDurationNs durationNs
  .ok { firstTimeNs := min progress.firstTimeNs piece.startTimeNs
        lastTimeNs := lastTimeNs
        entryOffset :=
          if piece.startTimeNs < first.startTimeNs then piece.entryOffset
          else progress.entryOffset
        exitOffset :=
          if lastTimeNs ≤ piece.endTimeNs then piece.exitOffset else progress.exitOffset
        usableDurationNs := usableDurationNs
        usableDistance := progress.usableDistance + piece.distance
        speedSampleCount := progress.speedSampleCount + 2
        minimumSpeed := min progress.minimumSpeed (min piece.startSpeed piece.endSpeed)
        maximumSpeed := max progress.maximumSpeed (max piece.startSpeed piece.endSpeed)
        speedSum := progress.speedSum + (piece.startSpeed + piece.endSpeed)
        yawExcitation := progress.yawExcitation + piece.yawExcitation }

/-- The finding is of the sequence and meets one of the pieces. -/
def FindingInterval.affects (pieces : List Piece) (sequenceId : String)
    (finding : FindingInterval) : Bool :=
  finding.sequenceId = sequenceId &&
    pieces.any fun piece => (overlapInterval finding.startTimeNs finding.endTimeNs piece).isSome

/-- `make_traversal`. -/
def makeTraversal (evidence : List ModalityEvidence) (findings : List FindingInterval)
    (decimalPlaces : Int) (accumulator : KeyGroup Piece) :
    Except InvalidArgument TraversalCoverage := do
  let first := accumulator.first
  let pieces := accumulator.members
  let progress ← pieces.foldlM (TraversalProgress.add first) (TraversalProgress.start first)
  let values ← evidence.foldlM (addEvidence pieces first.sequenceId) fun _ => none
  let modalities ← (Modality.all.filterMap values).mapM (finalizeModality decimalPlaces)
  let affecting := findings.filter (FindingInterval.affects pieces first.sequenceId)
  .ok { arcIndex := first.arcIndex
        longitudinalBinIndex := first.binIndex
        sequenceId := first.sequenceId
        sourceGroupId := first.sourceGroupId
        traversalOrdinal := first.traversalOrdinal
        firstTimeNs := progress.firstTimeNs
        lastTimeNs := progress.lastTimeNs
        entryOffset := rounded progress.entryOffset decimalPlaces
        exitOffset := rounded progress.exitOffset decimalPlaces
        usableDurationNs := progress.usableDurationNs
        usableDistance := rounded progress.usableDistance decimalPlaces
        speedSampleCount := progress.speedSampleCount
        minimumSpeed := rounded progress.minimumSpeed decimalPlaces
        meanSpeed := rounded (progress.speedSum / progress.speedSampleCount) decimalPlaces
        maximumSpeed := rounded progress.maximumSpeed decimalPlaces
        yawExcitation := rounded progress.yawExcitation decimalPlaces
        roadMatchIds := canonical (pieces.map Piece.roadMatchId)
        modalities := modalities
        findingIds := sortIds (affecting.map FindingInterval.findingId)
        criticalFindingIds :=
          sortIds ((affecting.filter FindingInterval.critical).map FindingInterval.findingId) }

/-! ## Bins -/

abbrev TraversalKey : Type :=
  Nat ×ₗ Nat ×ₗ String ×ₗ Nat

/-- The traversal, and the bin, that a piece counts for. -/
def Piece.traversalKey (piece : Piece) : TraversalKey :=
  toLex (piece.arcIndex, toLex (piece.binIndex, toLex (piece.sequenceId,
    piece.traversalOrdinal)))

/-- A bin before any traversal. -/
def emptyBin (parameters : Parameters) (arcIndex : Nat) (arc : Arc) (binIndex : Nat) :
    BinCoverage :=
  { arcIndex := arcIndex
    longitudinalBinIndex := binIndex
    startOffset :=
      rounded (parameters.binLength * binIndex) parameters.distanceRoundingDecimalPlaces
    endOffset :=
      rounded (binEndOffset arc parameters binIndex) parameters.distanceRoundingDecimalPlaces
    usableDurationNs := 0
    usableDistance := 0
    independentTraversalCount := 0
    speedSampleCount := 0
    minimumSpeed := none
    meanSpeed := none
    maximumSpeed := none
    yawExcitation := 0
    traversals := []
    modalities := []
    findingIds := []
    criticalFindingIds := [] }

def arcBins (parameters : Parameters) (arcIndex : Nat) (arc : Arc) :
    Except InvalidArgument (List BinCoverage) := do
  let binCount ← binCountForArc arc parameters
  .ok ((List.range binCount).map (emptyBin parameters arcIndex arc))

def emptyBins (arcs : List Arc) (parameters : Parameters) :
    Except InvalidArgument (List BinCoverage) := do
  let bins ← arcs.zipIdx.mapM fun (arc, arcIndex) => arcBins parameters arcIndex arc
  .ok bins.flatten

def BinCoverage.addTraversal (bin : BinCoverage) (traversal : TraversalCoverage) :
    Except InvalidArgument BinCoverage := do
  let usableDurationNs ← checkedAdd bin.usableDurationNs traversal.usableDurationNs
  .ok { bin with
        usableDurationNs := usableDurationNs
        usableDistance := bin.usableDistance + traversal.usableDistance
        independentTraversalCount := bin.independentTraversalCount + 1
        speedSampleCount := bin.speedSampleCount + traversal.speedSampleCount
        minimumSpeed :=
          some (bin.minimumSpeed.elim traversal.minimumSpeed (min · traversal.minimumSpeed))
        maximumSpeed :=
          some (bin.maximumSpeed.elim traversal.maximumSpeed (max · traversal.maximumSpeed))
        meanSpeed :=
          some (bin.meanSpeed.getD 0 + traversal.meanSpeed * traversal.speedSampleCount)
        yawExcitation := bin.yawExcitation + traversal.yawExcitation
        traversals := bin.traversals ++ [traversal] }

/-- The traversal counts for the bin. -/
def BinCoverage.owns (bin : BinCoverage) (traversal : TraversalCoverage) : Prop :=
  bin.arcIndex = traversal.arcIndex ∧ bin.longitudinalBinIndex = traversal.longitudinalBinIndex

instance (bin : BinCoverage) (traversal : TraversalCoverage) : Decidable (bin.owns traversal) :=
  inferInstanceAs (Decidable (_ ∧ _))

/-- A traversal is made and counted in its bin. -/
def addToBins (evidence : List ModalityEvidence) (findings : List FindingInterval)
    (parameters : Parameters) (bins : List BinCoverage) (accumulator : KeyGroup Piece) :
    Except InvalidArgument (List BinCoverage) := do
  let traversal ← makeTraversal evidence findings parameters.distanceRoundingDecimalPlaces
    accumulator
  bins.mapM fun bin => if bin.owns traversal then bin.addTraversal traversal else .ok bin

/-- The aggregate of a traversal joins the accumulator of its modality in the bin. -/
def addAggregate (values : ModalityValues) (aggregate : ModalityAggregate) :
    Except InvalidArgument ModalityValues := do
  let value := values.at aggregate.modality
  let overlapSupportDurationNs ← addSupported aggregate.meanOverlapSupport
    value.overlapSupportDurationNs aggregate.validDurationNs
  .ok (Function.update values aggregate.modality (some
    { modality := aggregate.modality
      validIntervals :=
        if 0 < aggregate.validDurationNs then
          value.validIntervals ++ [{ startNs := 0, endNs := aggregate.validDurationNs }]
        else value.validIntervals
      timestampIntervals :=
        if 0 < aggregate.timestampSupportedDurationNs then
          value.timestampIntervals ++
            [{ startNs := 0, endNs := aggregate.timestampSupportedDurationNs }]
        else value.timestampIntervals
      pointSupport := value.pointSupport + aggregate.pointSupport
      overlapSupportDurationProduct :=
        value.overlapSupportDurationProduct +
          aggregate.meanOverlapSupport.getD 0 * aggregate.validDurationNs
      overlapSupportDurationNs := overlapSupportDurationNs
      evidenceIds := value.evidenceIds ++ aggregate.evidenceIds }))

/-- The durations of a modality, summed over the traversals that have it. -/
def addDurations (modality : Modality) (aggregate : ModalityAggregate)
    (traversal : TraversalCoverage) : Except InvalidArgument ModalityAggregate :=
  match traversal.modalities.find? (·.modality = modality) with
  | none => .ok aggregate
  | some item => do
      let validDurationNs ← checkedAdd aggregate.validDurationNs item.validDurationNs
      let timestampSupportedDurationNs ←
        checkedAdd aggregate.timestampSupportedDurationNs item.timestampSupportedDurationNs
      .ok { aggregate with
            validDurationNs := validDurationNs
            timestampSupportedDurationNs := timestampSupportedDurationNs }

def binModality (parameters : Parameters) (traversals : List TraversalCoverage)
    (value : ModalityAccumulator) : Except InvalidArgument ModalityAggregate := do
  let aggregate ← finalizeModality parameters.distanceRoundingDecimalPlaces value
  traversals.foldlM (addDurations value.modality)
    { aggregate with validDurationNs := 0, timestampSupportedDurationNs := 0 }

/-- The last loop over a bin: the sums are rounded and the evidence of the traversals is
joined. -/
def BinCoverage.finalize (parameters : Parameters) (bin : BinCoverage) :
    Except InvalidArgument BinCoverage := do
  let decimalPlaces := parameters.distanceRoundingDecimalPlaces
  let values ← (bin.traversals.flatMap TraversalCoverage.modalities).foldlM addAggregate
    fun _ => none
  let modalities ← (Modality.all.filterMap values).mapM (binModality parameters bin.traversals)
  .ok { bin with
        usableDistance := rounded bin.usableDistance decimalPlaces
        yawExcitation := rounded bin.yawExcitation decimalPlaces
        meanSpeed := bin.meanSpeed.map fun sum => rounded (sum / bin.speedSampleCount) decimalPlaces
        minimumSpeed := bin.minimumSpeed.map (rounded · decimalPlaces)
        maximumSpeed := bin.maximumSpeed.map (rounded · decimalPlaces)
        modalities := modalities
        findingIds := canonical (bin.traversals.flatMap TraversalCoverage.findingIds)
        criticalFindingIds :=
          canonical (bin.traversals.flatMap TraversalCoverage.criticalFindingIds) }

/-! ## The result -/

/-- The indices of the bins that a finding affects. -/
def localize (bins : List BinCoverage) (finding : FindingInterval) : FindingLocalization :=
  { findingId := finding.findingId
    binResultIndices :=
      (bins.zipIdx.filter fun (bin, _) => finding.findingId ∈ bin.findingIds).map Prod.snd }

/-- The result from the numbered pieces on. -/
def aggregatePieces (arcs : List Arc) (evidence : List ModalityEvidence)
    (findings : List FindingInterval) (parameters : Parameters) (pieces : List Piece) :
    Except InvalidArgument AggregationResult := do
  let bins ← emptyBins arcs parameters
  let accumulated ← (groupAscending Piece.traversalKey pieces).foldlM
    (addToBins evidence findings parameters) bins
  let finalized ← accumulated.mapM (BinCoverage.finalize parameters)
  .ok { bins := finalized, findingLocalizations := findings.map (localize finalized) }

/-- `aggregate_directed_road_bins`. -/
def aggregateDirectedRoadBins (order : PieceSort) (arcs : List Arc) (paths : List MatchedPath)
    (evidence : List ModalityEvidence) (findings : List FindingInterval)
    (parameters : Parameters) : Except InvalidArgument AggregationResult := do
  validateInputs arcs paths evidence findings parameters
  let pieces ← makePieces order arcs paths parameters
  aggregatePieces arcs evidence findings parameters pieces

end CartoSentry.RoadBins
