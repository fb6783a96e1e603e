import CartoSentry.Foundation.CompleteLink
import CartoSentry.Topology.Contracts

set_option autoImplicit false

/-!
# Topology hypotheses: mining

`mine_repeated_topology_disagreements`: the selection of off-map intervals, their
clusters with a fitted corridor each, and the hypotheses that the clusters support.
-/

namespace CartoSentry.Topology

open Foundation (Double completeLink)
open Matching (InvalidArgument throwIf)

/-! ## Resampling -/

/-- Two consecutive points of a polyline, and the lengths measured up to them. -/
structure Segment where
  left : Point
  right : Point
  leftLength : Double
  rightLength : Double
  deriving DecidableEq, Repr

section Resampling

variable (library : StandardLibrary)

/-- The segments of the polyline, with the `cumulative` lengths at their ends. -/
def segmentsFrom (length : Double) : List Point → List Segment
  | left :: right :: rest =>
    ⟨left, right, length, length.add (distance library left right)⟩ ::
      segmentsFrom (length.add (distance library left right)) (right :: rest)
  | _ => []

/-- The segment of the target, from the current one on: the last is never left. -/
def advance (target : Double) : Segment → List Segment → Segment × List Segment
  | current, [] => (current, [])
  | current, next :: rest =>
    if current.rightLength.lt target then advance target next rest else (current, next :: rest)

/-- The point at this part of the way through the segment. -/
def Segment.sample (segment : Segment) (target : Double) : Point :=
  let segmentLength := segment.rightLength.sub segment.leftLength
  if (Double.finite 0).lt segmentLength = false then segment.right
  else
    let fraction :=
      ((target.sub segment.leftLength).div segmentLength).clamp (.finite 0) (.finite 1)
    ⟨segment.left.xM.add (fraction.mul (segment.right.xM.sub segment.left.xM)),
      segment.left.yM.add (fraction.mul (segment.right.yM.sub segment.left.yM))⟩

/-- The samples from these indices on. -/
def samples (totalLength : Double) (pointCount : Nat) :
    Segment → List Segment → List Nat → List Point
  | _, _, [] => []
  | current, rest, sampleIndex :: indices =>
    let target := (totalLength.mul (.ofNat sampleIndex)).div (.ofNat (pointCount - 1))
    let reached := advance target current rest
    reached.1.sample target :: samples totalLength pointCount reached.1 reached.2 indices

/-- The points with their first and last replaced. -/
def withEnds (first last : Point) (points : List Point) : List Point :=
  (points.set 0 first).set (points.length - 1) last

def resample (points : List Point) (pointCount : Nat) : Except InvalidArgument (List Point) := do
  let totalLength ← polylineLength library points
  throwIf ((Double.finite 0).lt totalLength = false) "topology polyline has zero length"
  match segmentsFrom library (.finite 0) points with
  | [] => pure []
  | first :: rest =>
    pure (withEnds (front points) (back points)
      (samples totalLength pointCount first rest (List.range pointCount)))

/-! ## Compatible intervals -/

def heading (points : List Point) : Double :=
  library.atan2 ((back points).yM.sub (front points).yM) ((back points).xM.sub (front points).xM)

def headingDifference (left right : Double) : Double :=
  ((left.sub right).remainder ((Double.finite 2).mul pi)).abs

def totalDistance (left right : List Point) : Double :=
  (left.zip right).foldl (fun total pair => total.add (distance library pair.1 pair.2)) (.finite 0)

def meanCorrespondingDistance (left right : List Point) : Except InvalidArgument Double := do
  throwIf (left.length ≠ right.length ∨ left = [])
    "topology resampling produced incompatible shapes"
  let result := (totalDistance library left right).div (.ofNat left.length)
  throwIf (result.isFinite = false) "topology corridor distance is not finite"
  pure result

/-- The mean distance is computed only where headings and end points are close. -/
def compatible (parameters : Parameters) (left right : List Point) :
    Except InvalidArgument Bool :=
  if (headingDifference (heading library left) (heading library right)).le
        parameters.maximumHeadingDifferenceRad &&
      (distance library (front left) (front right)).le
        parameters.maximumClusterEndpointDistanceM &&
      (distance library (back left) (back right)).le
        parameters.maximumClusterEndpointDistanceM then do
    let mean ← meanCorrespondingDistance library left right
    pure (mean.le parameters.maximumClusterMeanDistanceM)
  else pure false

/-! ## Corridors -/

def median (values : List Double) : Except InvalidArgument Double := do
  throwIf (values = []) "topology corridor median has no values"
  let sorted := library.sort values
  let middle := values.length / 2
  if values.length % 2 ≠ 0 then pure (sorted.getD middle .nan)
  else pure (((sorted.getD (middle - 1) .nan).add (sorted.getD middle .nan)).div (.finite 2))

/-- The corridor through these polylines of one length. -/
def fitCorridor (resampled : List (List Point)) : Except InvalidArgument (List Point) :=
  match resampled with
  | [] => .error ⟨"topology cluster has no members"⟩
  | first :: _ =>
    (List.range first.length).mapM fun sampleIndex => do
      let sampled := resampled.map fun points => points.getD sampleIndex ⟨.nan, .nan⟩
      let x ← median library (sampled.map Point.xM)
      let y ← median library (sampled.map Point.yM)
      pure ⟨x, y⟩

end Resampling

/-! ## Selection -/

/-- What the selection does with an interval: it counts it under a reason, or keeps it
with its resampled points. -/
inductive Verdict where
  | notOffMap
  | unobservable
  | direction
  | stationary
  | quality
  | short
  | selected (resampled : List Point)
  deriving DecidableEq, Repr

def verdict (library : StandardLibrary) (parameters : Parameters) (interval : OffMapInterval) :
    Except InvalidArgument Verdict :=
  if !interval.offMap then pure .notOffMap
  else if !interval.positioningObservable then pure .unobservable
  else if !interval.directionConfident then pure .direction
  else if interval.stationary then pure .stationary
  else if interval.positioningQuality.lt parameters.minimumPositioningQuality then pure .quality
  else do
    let length ← polylineLength library interval.points
    if length.lt parameters.minimumIntervalLengthM then pure .short
    else if parameters.graphEndpointToleranceM.lt
        (distance library (front interval.points) (back interval.points)) = false then
      pure .direction
    else
      let resampled ← resample library interval.points parameters.resamplePointCount
      pure (.selected resampled)

section Mining

variable (library : StandardLibrary) (intervals : List OffMapInterval) (nodes : List GraphNode)
  (arcs : List GraphArc) (parameters : Parameters)

/-- The position of a selected interval, with its resampled points. -/
structure Selected where
  index : Fin intervals.length
  resampled : List Point

def Selected.interval {intervals : List OffMapInterval} (selected : Selected intervals) :
    OffMapInterval :=
  intervals.get selected.index

def Selected.intervalId {intervals : List OffMapInterval} (selected : Selected intervals) : String :=
  selected.interval.intervalId

/-- The intervals selected so far, with the counters of those that were not. -/
structure Selection where
  selected : List (Selected intervals)
  rejectedNotOffMap : Nat
  rejectedUnobservable : Nat
  rejectedDirection : Nat
  rejectedStationary : Nat
  rejectedQuality : Nat
  rejectedShort : Nat

def Selection.record {intervals : List OffMapInterval} (selection : Selection intervals)
    (index : Fin intervals.length) : Verdict → Selection intervals
  | .notOffMap => { selection with rejectedNotOffMap := selection.rejectedNotOffMap + 1 }
  | .unobservable => { selection with rejectedUnobservable := selection.rejectedUnobservable + 1 }
  | .direction => { selection with rejectedDirection := selection.rejectedDirection + 1 }
  | .stationary => { selection with rejectedStationary := selection.rejectedStationary + 1 }
  | .quality => { selection with rejectedQuality := selection.rejectedQuality + 1 }
  | .short => { selection with rejectedShort := selection.rejectedShort + 1 }
  | .selected resampled => { selection with selected := selection.selected ++ [⟨index, resampled⟩] }

def select : Except InvalidArgument (Selection intervals) :=
  (List.finRange intervals.length).foldlM (fun selection index => do
    let decided ← verdict library parameters (intervals.get index)
    pure (selection.record index decided)) ⟨[], 0, 0, 0, 0, 0, 0⟩

/-- `std::sort` by the identifiers, which are distinct. -/
def sortById {intervals : List OffMapInterval} (selected : List (Selected intervals)) :
    List (Selected intervals) :=
  selected.mergeSort fun left right => decide (left.intervalId ≤ right.intervalId)

def sizeMax : Nat :=
  2 ^ 64 - 1

def pairwiseCount (count maximum : Nat) : Except InvalidArgument Nat := do
  if count < 2 then pure 0
  else
    throwIf (sizeMax / (count - 1) < count) "topology pairwise work overflows size_t"
    throwIf (maximum < count * (count - 1) / 2) "topology pairwise work exceeds its budget"
    pure (count * (count - 1) / 2)

/-! ## Clusters -/

structure NearestNode where
  index : Fin nodes.length
  distanceM : Double

def nearestNode (point : Point) (maximumDistanceM : Double) : Option (NearestNode nodes) :=
  (List.finRange nodes.length).foldl (fun best index =>
    let candidateDistance := distance library point (nodes.get index).position
    if maximumDistanceM.lt candidateDistance then best
    else
      match best with
      | none => some ⟨index, candidateDistance⟩
      | some kept =>
        if candidateDistance.lt kept.distanceM ∨
            candidateDistance.eq kept.distanceM ∧
              (nodes.get index).nodeId < (nodes.get kept.index).nodeId then
          some ⟨index, candidateDistance⟩
        else best) none

/-- The cluster of these members. -/
def summarize {intervals : List OffMapInterval} (clusterOrdinal : Nat)
    (members : List (Selected intervals)) :
    Except InvalidArgument (Cluster (Fin intervals.length) (Fin nodes.length)) := do
  let members := sortById members
  let traversalIds := (members.map fun member => member.interval.traversalId).dedup
  let corridor ← fitCorridor library (members.map Selected.resampled)
  let start := nearestNode library nodes (front corridor) parameters.endpointSnapRadiusM
  let stop := nearestNode library nodes (back corridor) parameters.endpointSnapRadiusM
  pure {
    clusterOrdinal := clusterOrdinal
    intervalIndices := members.map Selected.index
    independentTraversalCount := traversalIds.length
    fittedCorridor := corridor
    startNodeIndex := start.map NearestNode.index
    endNodeIndex := stop.map NearestNode.index
    startEndpointDistanceM := start.map NearestNode.distanceM
    endEndpointDistanceM := stop.map NearestNode.distanceM }

/-! ## Hypotheses -/

structure ComparedArc where
  index : Fin arcs.length
  error : Double

/-- The arc between the two nodes whose geometry is the closest to the corridor. -/
def bestArc (corridor : List Point) (start stop : Fin nodes.length) :
    Except InvalidArgument (Option (ComparedArc arcs)) :=
  (List.finRange arcs.length).foldlM (fun best index => do
    let arc := arcs.get index
    if arc.sourceNodeIndex ≠ start.val ∨ arc.targetNodeIndex ≠ stop.val then pure best
    else
      let arcResampled ← resample library arc.geometry parameters.resamplePointCount
      let candidateError ← meanCorrespondingDistance library corridor arcResampled
      match best with
      | none => pure (some ⟨index, candidateError⟩)
      | some kept =>
        if candidateError.lt kept.error ∨
            candidateError.eq kept.error ∧ arc.arcId < (arcs.get kept.index).arcId then
          pure (some ⟨index, candidateError⟩)
        else pure best) none

/-- The hypothesis that the cluster at this position supports. -/
def hypothesize {Interval : Type} (clusterIndex : Nat)
    (cluster : Cluster Interval (Fin nodes.length)) :
    Except InvalidArgument (Option (Hypothesis (Fin nodes.length) (Fin arcs.length))) :=
  match cluster.startNodeIndex, cluster.endNodeIndex, cluster.startEndpointDistanceM,
    cluster.endEndpointDistanceM with
  | some start, some stop, some startDistance, some endDistance =>
    if cluster.independentTraversalCount < parameters.minimumIndependentTraversals ∨
        start = stop then pure none
    else do
      let best ← bestArc library nodes arcs parameters cluster.fittedCorridor start stop
      let endpointError := startDistance.max endDistance
      match best with
      | none =>
        pure (some ⟨.missingConnection, clusterIndex, start, stop, none, endpointError, none⟩)
      | some compared =>
        if parameters.geometryDisagreementMeanDistanceM.lt compared.error then
          pure (some ⟨.geometryDisagreement, clusterIndex, start, stop, some compared.index,
            endpointError, some compared.error⟩)
        else pure none
  | _, _, _, _ => pure none

/-! ## The miner -/

def mineRepeatedTopologyDisagreements : Except InvalidArgument
    (MiningResult (Fin intervals.length) (Fin nodes.length) (Fin arcs.length)) := do
  validateParameters parameters
  validateInputs library intervals nodes arcs parameters
  let selection ← select library intervals parameters
  let selected := sortById selection.selected
  let _ ← pairwiseCount selected.length parameters.maximumPairwiseComparisons
  let clusterMembers ← completeLink
    (fun left right => compatible library parameters left.resampled right.resampled)
    ⟨"topology cluster count exceeds its budget"⟩ parameters.maximumClusters selected
  let clusters ← clusterMembers.zipIdx.mapM fun entry =>
    summarize library nodes parameters entry.2 entry.1
  let hypotheses ← clusters.zipIdx.mapM fun entry =>
    hypothesize library nodes arcs parameters entry.2 entry.1
  pure {
    selectedIntervalIndices := selected.map Selected.index
    rejectedNotOffMap := selection.rejectedNotOffMap
    rejectedUnobservable := selection.rejectedUnobservable
    rejectedDirection := selection.rejectedDirection
    rejectedStationary := selection.rejectedStationary
    rejectedQuality := selection.rejectedQuality
    rejectedShort := selection.rejectedShort
    clusters := clusters
    hypotheses := hypotheses.filterMap id }

end Mining

end CartoSentry.Topology
