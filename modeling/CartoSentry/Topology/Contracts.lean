import CartoSentry.Foundation.DoubleArithmetic
import CartoSentry.Matching.Contracts

set_option autoImplicit false

/-!
# Topology hypotheses: contracts

The values the topology miner reads and returns, and its checks.  Coordinates are
doubles: the miner's own checks keep infinities and NaN out.
-/

namespace CartoSentry.Topology

open Foundation (Double)
open Matching (InvalidArgument throwIf)

/-- What the miner uses of the C++ library: two functions of `<cmath>` whose last digit is
the platform's, and `std::sort`, which leaves the order of the two zeros open. -/
structure StandardLibrary where
  hypot : Double → Double → Double
  atan2 : Double → Double → Double
  sort : List Double → List Double
  hypot_abs : ∀ x y, hypot x.abs y.abs = hypot x y
  hypot_isNaN : ∀ x y, x.isNaN = false → y.isNaN = false → (hypot x y).isNaN = false
  sort_perm : ∀ values, (sort values).Perm values
  sort_sorted : ∀ values, (∀ value ∈ values, value.isNaN = false) →
    (sort values).Pairwise fun left right => right.lt left = false

structure Point where
  xM : Double
  yM : Double
  deriving DecidableEq, Repr

structure OffMapInterval where
  intervalId : String
  sequenceId : String
  traversalId : String
  sourceGroupId : String
  offMap : Bool
  positioningObservable : Bool
  directionConfident : Bool
  stationary : Bool
  positioningQuality : Double
  points : List Point
  deriving DecidableEq, Repr

structure GraphNode where
  nodeId : String
  position : Point
  deriving DecidableEq, Repr

structure GraphArc where
  arcId : String
  sourceNodeIndex : Nat
  targetNodeIndex : Nat
  geometry : List Point
  deriving DecidableEq, Repr

structure Parameters where
  minimumPositioningQuality : Double
  minimumIntervalLengthM : Double
  resamplePointCount : Nat
  maximumClusterMeanDistanceM : Double
  maximumClusterEndpointDistanceM : Double
  maximumHeadingDifferenceRad : Double
  minimumIndependentTraversals : Nat
  endpointSnapRadiusM : Double
  geometryDisagreementMeanDistanceM : Double
  graphEndpointToleranceM : Double
  maximumIntervals : Nat
  maximumPointsPerInterval : Nat
  maximumTotalPoints : Nat
  maximumGraphNodes : Nat
  maximumGraphArcs : Nat
  maximumPointsPerGraphArc : Nat
  maximumTotalGraphPoints : Nat
  maximumPairwiseComparisons : Nat
  maximumClusters : Nat
  deriving DecidableEq, Repr

/-! ## Results

Over the types of what stands for an interval, a node and an arc: their positions in the
input, or their identifiers. -/

inductive HypothesisKind where
  | missingConnection
  | geometryDisagreement
  deriving DecidableEq, Repr

structure Cluster (Interval Node : Type) where
  clusterOrdinal : Nat
  intervalIndices : List Interval
  independentTraversalCount : Nat
  fittedCorridor : List Point
  startNodeIndex : Option Node
  endNodeIndex : Option Node
  startEndpointDistanceM : Option Double
  endEndpointDistanceM : Option Double
  deriving DecidableEq, Repr

structure Hypothesis (Node Arc : Type) where
  kind : HypothesisKind
  clusterResultIndex : Nat
  startNodeIndex : Node
  endNodeIndex : Node
  comparedArcIndex : Option Arc
  endpointLocalizationErrorM : Double
  geometryCorridorErrorM : Option Double
  deriving DecidableEq, Repr

structure MiningResult (Interval Node Arc : Type) where
  selectedIntervalIndices : List Interval
  rejectedNotOffMap : Nat
  rejectedUnobservable : Nat
  rejectedDirection : Nat
  rejectedStationary : Nat
  rejectedQuality : Nat
  rejectedShort : Nat
  clusters : List (Cluster Interval Node)
  hypotheses : List (Hypothesis Node Arc)
  deriving DecidableEq, Repr

section Renaming

variable {Interval Interval' Node Node' Arc Arc' : Type}

def Cluster.rename (interval : Interval → Interval') (node : Node → Node')
    (cluster : Cluster Interval Node) : Cluster Interval' Node' where
  clusterOrdinal := cluster.clusterOrdinal
  intervalIndices := cluster.intervalIndices.map interval
  independentTraversalCount := cluster.independentTraversalCount
  fittedCorridor := cluster.fittedCorridor
  startNodeIndex := cluster.startNodeIndex.map node
  endNodeIndex := cluster.endNodeIndex.map node
  startEndpointDistanceM := cluster.startEndpointDistanceM
  endEndpointDistanceM := cluster.endEndpointDistanceM

def Hypothesis.rename (node : Node → Node') (arc : Arc → Arc') (hypothesis : Hypothesis Node Arc) :
    Hypothesis Node' Arc' where
  kind := hypothesis.kind
  clusterResultIndex := hypothesis.clusterResultIndex
  startNodeIndex := node hypothesis.startNodeIndex
  endNodeIndex := node hypothesis.endNodeIndex
  comparedArcIndex := hypothesis.comparedArcIndex.map arc
  endpointLocalizationErrorM := hypothesis.endpointLocalizationErrorM
  geometryCorridorErrorM := hypothesis.geometryCorridorErrorM

/-- The result with other names for the intervals, nodes and arcs. -/
def MiningResult.rename (interval : Interval → Interval') (node : Node → Node') (arc : Arc → Arc')
    (result : MiningResult Interval Node Arc) : MiningResult Interval' Node' Arc' where
  selectedIntervalIndices := result.selectedIntervalIndices.map interval
  rejectedNotOffMap := result.rejectedNotOffMap
  rejectedUnobservable := result.rejectedUnobservable
  rejectedDirection := result.rejectedDirection
  rejectedStationary := result.rejectedStationary
  rejectedQuality := result.rejectedQuality
  rejectedShort := result.rejectedShort
  clusters := result.clusters.map (Cluster.rename interval node)
  hypotheses := result.hypotheses.map (Hypothesis.rename node arc)

end Renaming

def MiningResult.rejected {Interval Node Arc : Type} (result : MiningResult Interval Node Arc) : Nat :=
  result.rejectedNotOffMap + result.rejectedUnobservable + result.rejectedDirection +
    result.rejectedStationary + result.rejectedQuality + result.rejectedShort

/-! ## Lengths -/

/-- The double nearest to π. -/
def pi : Double :=
  .finite (884279719003555 / 2 ^ 48)

/-- `points.front()` -/
def front (points : List Point) : Point :=
  points.headD ⟨.finite 0, .finite 0⟩

/-- `points.back()` -/
def back (points : List Point) : Point :=
  points.getLastD ⟨.finite 0, .finite 0⟩

section Geometry

variable (library : StandardLibrary)

def distance (left right : Point) : Double :=
  library.hypot (right.xM.sub left.xM) (right.yM.sub left.yM)

/-- The loop of `polyline_length` behind the segments measured so far. -/
def polylineLengthFrom (result : Double) : List Point → Except InvalidArgument Double
  | left :: right :: rest => do
    let segment := distance library left right
    throwIf (segment.isFinite = false ∨ (Double.largest.sub segment).lt result)
      "topology polyline length is not finite"
    polylineLengthFrom (result.add segment) (right :: rest)
  | _ => pure result

def polylineLength (points : List Point) : Except InvalidArgument Double :=
  polylineLengthFrom library (.finite 0) points

end Geometry

/-! ## Validation -/

def validateParameters (parameters : Parameters) : Except InvalidArgument Unit :=
  throwIf (parameters.minimumPositioningQuality.isFinite = false ∨
      parameters.minimumPositioningQuality.lt (.finite 0) ∨
      (Double.finite 1).lt parameters.minimumPositioningQuality ∨
      parameters.minimumIntervalLengthM.isFinite = false ∨
      (Double.finite 0).lt parameters.minimumIntervalLengthM = false ∨
      parameters.resamplePointCount < 2 ∨
      parameters.maximumClusterMeanDistanceM.isFinite = false ∨
      (Double.finite 0).lt parameters.maximumClusterMeanDistanceM = false ∨
      parameters.maximumClusterEndpointDistanceM.isFinite = false ∨
      (Double.finite 0).lt parameters.maximumClusterEndpointDistanceM = false ∨
      parameters.maximumHeadingDifferenceRad.isFinite = false ∨
      parameters.maximumHeadingDifferenceRad.lt (.finite 0) ∨
      pi.lt parameters.maximumHeadingDifferenceRad ∨
      parameters.minimumIndependentTraversals = 0 ∨
      parameters.endpointSnapRadiusM.isFinite = false ∨
      (Double.finite 0).lt parameters.endpointSnapRadiusM = false ∨
      parameters.geometryDisagreementMeanDistanceM.isFinite = false ∨
      (Double.finite 0).lt parameters.geometryDisagreementMeanDistanceM = false ∨
      parameters.graphEndpointToleranceM.isFinite = false ∨
      parameters.graphEndpointToleranceM.lt (.finite 0) ∨
      parameters.maximumIntervals = 0 ∨
      parameters.maximumPointsPerInterval < 2 ∨
      parameters.maximumTotalPoints < 2 ∨
      parameters.maximumGraphNodes = 0 ∨
      parameters.maximumGraphArcs = 0 ∨
      parameters.maximumPointsPerGraphArc < 2 ∨
      parameters.maximumTotalGraphPoints < 2 ∨
      parameters.maximumPairwiseComparisons = 0 ∨
      parameters.maximumClusters = 0) "topology-mining parameters are invalid"

def Point.isFinite (point : Point) : Bool :=
  point.xM.isFinite && point.yM.isFinite

section Validation

variable (library : StandardLibrary)

def validatePoints (points : List Point) (maximum : Nat) (context : String) :
    Except InvalidArgument Unit := do
  throwIf (points.length < 2 ∨ maximum < points.length)
    (context ++ " point count is outside its budget")
  throwIf (∃ point ∈ points, point.isFinite = false) (context ++ " contains a nonfinite point")
  let length ← polylineLength library points
  throwIf ((Double.finite 0).lt length = false) (context ++ " must have positive length")

def checkedAdd (left right maximum : Nat) (context : String) : Except InvalidArgument Nat := do
  throwIf (maximum < right ∨ maximum - right < left) (context ++ " exceeds its budget")
  pure (left + right)

/-- The loop over the intervals, behind these identifiers and this many points. -/
def validateIntervals (parameters : Parameters) :
    List String → Nat → List OffMapInterval → Except InvalidArgument Unit
  | _, _, [] => pure ()
  | intervalIds, totalPoints, interval :: rest => do
    throwIf (interval.intervalId = "" ∨ interval.sequenceId = "" ∨ interval.traversalId = "" ∨
        interval.sourceGroupId = "" ∨ interval.intervalId ∈ intervalIds ∨
        interval.positioningQuality.isFinite = false ∨
        interval.positioningQuality.lt (.finite 0) ∨
        (Double.finite 1).lt interval.positioningQuality)
      "topology interval identity or quality is invalid"
    validatePoints library interval.points parameters.maximumPointsPerInterval "topology interval"
    let totalPoints ← checkedAdd totalPoints interval.points.length parameters.maximumTotalPoints
      "topology interval points"
    validateIntervals parameters (interval.intervalId :: intervalIds) totalPoints rest

def validateNodes : List String → List GraphNode → Except InvalidArgument Unit
  | _, [] => pure ()
  | nodeIds, node :: rest => do
    throwIf (node.nodeId = "" ∨ node.nodeId ∈ nodeIds ∨ node.position.isFinite = false)
      "topology graph node is invalid"
    validateNodes (node.nodeId :: nodeIds) rest

/-- The loop over the arcs, behind these identifiers and this many points. -/
def validateArcs (nodes : List GraphNode) (parameters : Parameters) :
    List String → Nat → List GraphArc → Except InvalidArgument Unit
  | _, _, [] => pure ()
  | arcIds, graphPoints, arc :: rest => do
    throwIf (arc.arcId = "" ∨ arc.arcId ∈ arcIds ∨ nodes.length ≤ arc.sourceNodeIndex ∨
        nodes.length ≤ arc.targetNodeIndex) "topology graph arc identity or endpoint is invalid"
    validatePoints library arc.geometry parameters.maximumPointsPerGraphArc "topology graph arc"
    let graphPoints ← checkedAdd graphPoints arc.geometry.length parameters.maximumTotalGraphPoints
      "topology graph points"
    throwIf (∃ source ∈ nodes[arc.sourceNodeIndex]?, ∃ target ∈ nodes[arc.targetNodeIndex]?,
        parameters.graphEndpointToleranceM.lt
          (distance library (front arc.geometry) source.position) ∨
        parameters.graphEndpointToleranceM.lt
          (distance library (back arc.geometry) target.position))
      "topology graph arc geometry disagrees with its endpoints"
    validateArcs nodes parameters (arc.arcId :: arcIds) graphPoints rest

def validateInputs (intervals : List OffMapInterval) (nodes : List GraphNode)
    (arcs : List GraphArc) (parameters : Parameters) : Except InvalidArgument Unit := do
  throwIf (parameters.maximumIntervals < intervals.length ∨
      parameters.maximumGraphNodes < nodes.length ∨ parameters.maximumGraphArcs < arcs.length)
    "topology-mining input count exceeds its budget"
  validateIntervals library parameters [] 0 intervals
  validateNodes [] nodes
  validateArcs library nodes parameters [] 0 arcs

end Validation

end CartoSentry.Topology
