import CartoSentry.RoadGraph.Arcs
import CartoSentry.RoadGraph.Restrictions

set_option autoImplicit false

/-!
# Road graph: the import

`import_osm_road_graph` behind the parser: the included ways, their arcs, the transition rules and
the statistics, and the validator `validate_graph` that the finished graph has to pass.
-/

namespace CartoSentry.RoadGraph

open Foundation (UnicodeNumerals)

/-! ## The extract and the graph -/

/-- What `_parse_osm` hands on, with what it checks. -/
structure OsmExtract where
  nodeIds : List OsmId
  ways : List RawWay
  relations : List RawRelation
  nodeIdsUnique : nodeIds.Nodup
  wayIdsUnique : (ways.map RawWay.wayId).Nodup
  relationIdsUnique : (relations.map RawRelation.relationId).Nodup
  nodesAvailable : ∀ way ∈ ways, ∀ nodeId ∈ way.nodeIds, nodeId ∈ nodeIds

structure RoadGraphStatistics where
  parsedNodeCount : Nat
  parsedWayCount : Nat
  parsedRelationCount : Nat
  includedWayCount : Nat
  excludedWayCount : Nat
  topologyNodeCount : Nat
  directedArcCount : Nat
  forwardArcCount : Nat
  reverseArcCount : Nat
  transitionRuleCount : Nat
  appliedRestrictionCount : Nat
  unknownRestrictionCount : Nat
  exclusionReasonCounts : List (String × Nat)
  deriving DecidableEq, Repr

/-- `DirectedRoadGraph`, before its validator. -/
structure RoadGraphContent where
  nodes : List RoadNode
  arcs : List DirectedRoadArc
  transitionRules : List TransitionRule
  restrictions : List TurnRestrictionEvidence
  statistics : RoadGraphStatistics

/-! ## The validator -/

namespace RoadGraphContent

variable (graph : RoadGraphContent)

def nodeIds : List String :=
  graph.nodes.map RoadNode.nodeId

def arcIds : List String :=
  graph.arcs.map DirectedRoadArc.arcId

def countDirection (direction : ArcDirection) : Nat :=
  graph.arcs.countP fun arc => arc.direction = direction

/-- The counts agree with what is counted. -/
def Counted : Prop :=
  graph.statistics.topologyNodeCount = graph.nodes.length ∧
    graph.statistics.directedArcCount = graph.arcs.length ∧
      graph.statistics.forwardArcCount = graph.countDirection .forward ∧
        graph.statistics.reverseArcCount = graph.countDirection .reverse ∧
          graph.statistics.transitionRuleCount = graph.transitionRules.length ∧
            graph.statistics.includedWayCount + graph.statistics.excludedWayCount =
              graph.statistics.parsedWayCount

instance : Decidable graph.Counted :=
  inferInstanceAs (Decidable (_ ∧ _))

/-- `validate_graph`; a rule is its own key. -/
def validateGraph : Except String Unit :=
  if ¬ (graph.nodeIds.Nodup ∧ graph.arcIds.Nodup) then
    .error "road graph node and arc identifiers must be unique"
  else if ¬ ∀ arc ∈ graph.arcs, arc.fromNodeId ∈ graph.nodeIds ∧ arc.toNodeId ∈ graph.nodeIds then
    .error "road graph arcs must reference topology nodes"
  else if ¬ ∀ rule ∈ graph.transitionRules,
      rule.fromArcId ∈ graph.arcIds ∧ rule.toArcId ∈ graph.arcIds then
    .error "road graph transition rules must reference arcs"
  else if graph.arcIds ≠ graph.arcIds.insertionSort (· ≤ ·) then
    .error "road graph arcs must have deterministic identity order"
  else if ¬ ((graph.restrictions.map TurnRestrictionEvidence.sourceRelationId).Nodup ∧
      graph.transitionRules.Nodup) then
    .error "road graph restriction evidence must be unique"
  else if ¬ graph.Counted then
    .error "road graph statistics do not match portable content"
  else .ok ()

/-- What the validator checks. -/
structure Valid : Prop where
  nodeIdsUnique : graph.nodeIds.Nodup
  arcIdsUnique : graph.arcIds.Nodup
  ends : ∀ arc ∈ graph.arcs, arc.fromNodeId ∈ graph.nodeIds ∧ arc.toNodeId ∈ graph.nodeIds
  rules : ∀ rule ∈ graph.transitionRules,
    rule.fromArcId ∈ graph.arcIds ∧ rule.toArcId ∈ graph.arcIds
  ordered : graph.arcIds = graph.arcIds.insertionSort (· ≤ ·)
  reportsUnique : (graph.restrictions.map TurnRestrictionEvidence.sourceRelationId).Nodup
  rulesUnique : graph.transitionRules.Nodup
  counted : graph.Counted

theorem validateGraph_eq_ok_iff : graph.validateGraph = .ok () ↔ graph.Valid := by
  unfold validateGraph
  constructor
  · intro h
    split_ifs at h with hids hends hrules hordered hunique hcounted
    exact ⟨hids.1, hids.2, hends, hrules, not_not.mp hordered, hunique.1, hunique.2, hcounted⟩
  · intro h
    rw [if_neg (not_not.mpr ⟨h.nodeIdsUnique, h.arcIdsUnique⟩), if_neg (not_not.mpr h.ends),
      if_neg (not_not.mpr h.rules), if_neg (not_not.mpr h.ordered),
      if_neg (not_not.mpr ⟨h.reportsUnique, h.rulesUnique⟩), if_neg (not_not.mpr h.counted)]

end RoadGraphContent

/-! ## The import -/

section Import

variable (unicode : UnicodeNumerals) (survey : ArcSurvey) (profile : GraphImportProfile)
  (extract : OsmExtract)

/-- `included` -/
def includedWays : List IncludedWay :=
  extract.ways.filterMap fun way => (includeWay unicode profile way).toOption

/-- Why a way stays out. -/
def exclusionReason (way : RawWay) : Option ExclusionReason :=
  match includeWay unicode profile way with
  | .ok _ => none
  | .error reason => some reason

/-- The reasons of the ways that stay out, way by way. -/
def exclusionReasons : List String :=
  extract.ways.filterMap fun way =>
    (exclusionReason unicode profile way).map ExclusionReason.value

/-- `dict(sorted(exclusion_reasons.items()))` -/
def countReasons (reasons : List String) : List (String × Nat) :=
  (reasons.dedup.insertionSort (· ≤ ·)).map fun reason => (reason, reasons.count reason)

/-- `restriction_via_nodes` -/
def restrictionViaNodes : List OsmId :=
  (extract.relations.filter (isRestriction profile.turnRestrictions)).flatMap RawRelation.viaNodeIds

/-- The finished graph. -/
def graphOf (nodes : List RoadNode) (arcs : List DirectedRoadArc) : RoadGraphContent :=
  let included := includedWays unicode profile extract
  let built := buildRestrictions extract.relations arcs (included.map fun item => item.raw.wayId)
    profile.turnRestrictions
  { nodes := nodes
    arcs := arcs
    transitionRules := built.1
    restrictions := built.2
    statistics := {
      parsedNodeCount := extract.nodeIds.length
      parsedWayCount := extract.ways.length
      parsedRelationCount := extract.relations.length
      includedWayCount := included.length
      excludedWayCount := extract.ways.length - included.length
      topologyNodeCount := nodes.length
      directedArcCount := arcs.length
      forwardArcCount := arcs.countP fun arc => arc.direction = .forward
      reverseArcCount := arcs.countP fun arc => arc.direction = .reverse
      transitionRuleCount := built.1.length
      appliedRestrictionCount := built.2.countP fun item => item.interpretation.applied
      unknownRestrictionCount := built.2.countP fun item => item.interpretation.unknown
      exclusionReasonCounts := countReasons (exclusionReasons unicode profile extract) } }

/-- `import_osm_road_graph`, from the parsed extract on. -/
def importRoadGraph : Except String RoadGraphContent := do
  let built ← buildArcs survey profile (includedWays unicode profile extract)
    (restrictionViaNodes profile extract)
  if built.2.isEmpty then .error "OSM import produced no directed road arcs"
  else
    let graph := graphOf unicode profile extract built.1 built.2
    graph.validateGraph
    return graph

end Import

end CartoSentry.RoadGraph
