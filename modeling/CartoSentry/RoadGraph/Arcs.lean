import Mathlib.Data.List.Sort
import CartoSentry.Foundation.Cuts
import CartoSentry.RoadGraph.Ways

set_option autoImplicit false

/-!
# Road graph: directed arcs

`_build_arcs`: the included ways are cut at topology nodes, and each part becomes an arc for each
direction of its way.  The local positions, the lengths and the hash come from a projection, from
floating point and from a library; the import takes them as given.
-/

namespace CartoSentry.RoadGraph

open Foundation (between between_infix length_between neighbours)

/-- `_local_position` of a node, `_arc_length`, and the digest of a text. -/
structure ArcSurvey where
  localPosition : OsmId → LocalPoint
  arcLength : List LocalPoint → ℚ
  sha256 : String → String

structure RoadNode where
  nodeId : String
  osmNodeId : OsmId
  positionLocal : LocalPoint
  deriving DecidableEq, Repr

/-! ## Topology nodes -/

section Topology

variable (included : List IncludedWay) (viaNodes : List OsmId)

/-- `usage`: the ways that a node lies on. -/
def wayIdsAt (nodeId : OsmId) : List OsmId :=
  ((included.filter fun item => nodeId ∈ item.raw.nodeIds).map fun item => item.raw.wayId).dedup

/-- The node is the first or the last of a way. -/
def isWayEnd (nodeId : OsmId) : Bool :=
  included.any fun item =>
    item.raw.nodeIds.head? = some nodeId || item.raw.nodeIds.getLast? = some nodeId

/-- `topology` -/
def isTopology (nodeId : OsmId) : Bool :=
  1 < (wayIdsAt included nodeId).length || decide (nodeId ∈ viaNodes) || isWayEnd included nodeId

/-- The nodes that a local position is made for. -/
def includedNodeIds : List OsmId :=
  (included.flatMap fun item => item.raw.nodeIds).dedup

end Topology

/-! ## Chains -/

namespace IncludedWay

variable (item : IncludedWay)

theorem length_pos : 0 < item.raw.nodeIds.length :=
  Nat.lt_of_lt_of_le Nat.zero_lt_two item.segmented

theorem pred_length_lt : item.raw.nodeIds.length - 1 < item.raw.nodeIds.length :=
  Nat.sub_one_lt_of_lt item.length_pos

/-- The places of the topology nodes of a way. -/
def cutPositions (isCut : OsmId → Bool) : List (Fin item.raw.nodeIds.length) :=
  (List.finRange item.raw.nodeIds.length).filter fun index => isCut (item.raw.nodeIds.get index)

/-- `split_positions`: the first and the last place are among them. -/
def splitPositions (isCut : OsmId → Bool) : List (Fin item.raw.nodeIds.length) :=
  let positions := item.cutPositions isCut
  let started :=
    if positions.head? = some ⟨0, item.length_pos⟩ then positions
    else ⟨0, item.length_pos⟩ :: positions
  if started.getLast? = some ⟨_, item.pred_length_lt⟩ then started
  else started ++ [⟨_, item.pred_length_lt⟩]

end IncludedWay

/-- `source_node_ids`, with the way and the index of the chain. -/
structure Chain where
  wayId : OsmId
  index : Nat
  nodeIds : List OsmId
  long : 2 ≤ nodeIds.length

theorem two_le_length_between {nodeIds : List OsmId} {start stop : Fin nodeIds.length}
    (h : start < stop) : 2 ≤ (between nodeIds start stop).length := by
  rw [length_between stop.isLt]
  have hvalue : start.val < stop.val := h
  omega

/-- The part of a way between two split positions; nothing if they are not in order. -/
def IncludedWay.chain (item : IncludedWay) (index : Nat)
    (ends : Fin item.raw.nodeIds.length × Fin item.raw.nodeIds.length) : Option Chain :=
  if h : ends.1 < ends.2 then
    some ⟨item.raw.wayId, index, between item.raw.nodeIds ends.1 ends.2, two_le_length_between h⟩
  else none

def IncludedWay.chains (item : IncludedWay) (isCut : OsmId → Bool) : List Chain :=
  (neighbours (item.splitPositions isCut)).zipIdx.filterMap fun entry =>
    item.chain entry.2 entry.1

/-! ## Identities -/

def ArcDirection.value : ArcDirection → String
  | .forward => "FORWARD"
  | .reverse => "REVERSE"

/-- The canonical JSON of what an arc is told apart by. -/
def arcPayload (profileSha256 : String) (wayId : OsmId) (index : Nat) (direction : ArcDirection)
    (nodeIds : List OsmId) : String :=
  "\x7b\"direction\":\"" ++ direction.value ++ "\",\"profile_immutable_sha256\":\"" ++
    profileSha256 ++ "\",\"source_chain_index\":" ++ index.repr ++
    ",\"source_geometry_node_ids\":[" ++ String.intercalate "," (nodeIds.map Nat.repr) ++
    "],\"source_way_id\":" ++ wayId.repr ++ "\x7d"

/-- `_arc_id` -/
def arcId (sha256 : String → String) (profileSha256 : String) (wayId : OsmId) (index : Nat)
    (direction : ArcDirection) (nodeIds : List OsmId) : String :=
  "osm-arc-sha256-" ++ sha256 (arcPayload profileSha256 wayId index direction nodeIds)

/-! ## Arcs -/

theorem nodeName_head {nodeIds : List OsmId} (h : nodeIds ≠ []) :
    some (nodeName (nodeIds.head h)) = nodeIds.head?.map nodeName := by
  rw [List.head?_eq_some_head h, Option.map_some]

theorem nodeName_getLast {nodeIds : List OsmId} (h : nodeIds ≠ []) :
    some (nodeName (nodeIds.getLast h)) = nodeIds.getLast?.map nodeName := by
  rw [List.getLast?_eq_some_getLast h, Option.map_some]

/-- Nodes in the order in which a direction passes them. -/
def ArcDirection.order : ArcDirection → List OsmId → List OsmId
  | .forward, nodeIds => nodeIds
  | .reverse, nodeIds => nodeIds.reverse

theorem ArcDirection.length_order (direction : ArcDirection) (nodeIds : List OsmId) :
    (direction.order nodeIds).length = nodeIds.length := by
  cases direction with
  | forward => rfl
  | reverse => exact List.length_reverse

namespace Chain

variable (chain : Chain) (survey : ArcSurvey)

def geometry : List LocalPoint :=
  chain.nodeIds.map survey.localPosition

def length : ℚ :=
  survey.arcLength (chain.geometry survey)

theorem order_ne_nil (direction : ArcDirection) : direction.order chain.nodeIds ≠ [] := by
  rw [← List.length_pos_iff_ne_nil, ArcDirection.length_order]
  exact Nat.lt_of_lt_of_le Nat.zero_lt_two chain.long

theorem two_le_length_order (direction : ArcDirection) :
    2 ≤ (direction.order chain.nodeIds).length := by
  rw [ArcDirection.length_order]
  exact chain.long

/-- The arc of a chain in one direction. -/
def arc (profile : GraphImportProfile) (hlength : 0 < chain.length survey)
    (direction : ArcDirection) : DirectedRoadArc where
  arcId := arcId survey.sha256 profile.immutableSha256 chain.wayId chain.index direction
    (direction.order chain.nodeIds)
  fromNodeId := nodeName ((direction.order chain.nodeIds).head
    (chain.order_ne_nil direction))
  toNodeId := nodeName ((direction.order chain.nodeIds).getLast
    (chain.order_ne_nil direction))
  sourceWayId := chain.wayId
  sourceChainIndex := chain.index
  direction := direction
  sourceGeometryNodeIds := direction.order chain.nodeIds
  geometryLocal := (direction.order chain.nodeIds).map survey.localPosition
  length := chain.length survey
  pointCount := chain.two_le_length_order direction
  geometryCount := List.length_map _
  fromEndpoint := nodeName_head _
  toEndpoint := nodeName_getLast _
  lengthPositive := hlength

end Chain

/-- The nodes between the ends of an arc. -/
def DirectedRoadArc.innerNodeIds (arc : DirectedRoadArc) : List OsmId :=
  arc.sourceGeometryNodeIds.tail.dropLast

/-- The directions of a way. -/
def IncludedWay.directions (item : IncludedWay) : List ArcDirection :=
  (if item.forward then [.forward] else []) ++ if item.reverse then [.reverse] else []

section Building

variable (survey : ArcSurvey) (profile : GraphImportProfile)

theorem length_pos_of_not_lt {chain : Chain}
    (h : ¬ chain.length survey < profile.minimumArcLength) : 0 < chain.length survey :=
  profile.minimumPositive.trans_le (not_lt.mp h)

/-- The arcs of one chain: none if it is shorter than the shortest arc. -/
def chainArcs (item : IncludedWay) (chain : Chain) : Except String (List DirectedRoadArc) :=
  if profile.maximumGeometryPointsPerArc < chain.nodeIds.length then
    .error "road arc geometry exceeds the frozen point budget"
  else if h : chain.length survey < profile.minimumArcLength then .ok []
  else .ok (item.directions.map (chain.arc survey profile (length_pos_of_not_lt survey profile h)))

variable (included : List IncludedWay) (viaNodes : List OsmId)

/-- The arcs of one way. -/
def wayArcs (item : IncludedWay) : Except String (List DirectedRoadArc) := do
  let arcs ← (item.chains (isTopology included viaNodes)).mapM (chainArcs survey profile item)
  return arcs.flatten

def roadNode (nodeId : OsmId) : RoadNode :=
  ⟨nodeName nodeId, nodeId, survey.localPosition nodeId⟩

/-- `road_nodes` -/
def roadNodes : List RoadNode :=
  (((includedNodeIds included).filter (isTopology included viaNodes)).insertionSort (· ≤ ·)).map
    (roadNode survey)

/-- `_build_arcs` -/
def buildArcs : Except String (List RoadNode × List DirectedRoadArc) := do
  let arcs ← (included.insertionSort fun left right => left.raw.wayId ≤ right.raw.wayId).mapM
    (wayArcs survey profile included viaNodes)
  return (roadNodes survey included viaNodes,
    arcs.flatten.insertionSort fun left right => left.arcId ≤ right.arcId)

end Building

end CartoSentry.RoadGraph
