import CartoSentry.Matching.Contracts
import CartoSentry.RoadGraph.Contracts

set_option autoImplicit false

/-!
# Road matching: the graph handed to the native matcher

`_native_graph_payload` and its reading on the native side: the arcs and
transition rules of an imported graph, in their own order.
-/

namespace CartoSentry.Matching

open RoadGraph (DirectedRoadArc)

def nativeDirection : RoadGraph.ArcDirection → ArcDirection
  | .forward => .forward
  | .reverse => .reverse

def nativeState : RoadGraph.TransitionState → RuleState
  | .forbidden => .forbidden
  | .unknownRestriction => .unknownRestriction

def nativeArc (arc : DirectedRoadArc) : Arc where
  arcId := arc.arcId
  fromNodeId := arc.fromNodeId
  toNodeId := arc.toNodeId
  sourceWayId := arc.sourceWayId
  direction := nativeDirection arc.direction
  length := arc.length
  geometry := arc.geometryLocal.map fun point => { x := point.x, y := point.y }

def nativeRule (rule : RoadGraph.TransitionRule) : TransitionRule where
  fromArcId := rule.fromArcId
  toArcId := rule.toArcId
  state := nativeState rule.state

def nativeGraph (arcs : List DirectedRoadArc) (rules : List RoadGraph.TransitionRule) : Graph where
  arcs := arcs.map nativeArc
  transitionRules := rules.map nativeRule

end CartoSentry.Matching
