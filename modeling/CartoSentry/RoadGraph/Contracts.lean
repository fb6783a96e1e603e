import Mathlib.Data.List.Basic
import Mathlib.Data.List.Nodup
import Mathlib.Data.Rat.Defs
import Mathlib.Data.String.Basic

set_option autoImplicit false

/-!
# Road graph: contracts of the OpenStreetMap import

Raw OpenStreetMap elements, the directed arcs cut from them and the transition
rules read from turn restrictions.  A model's own validator becomes a field, so
an arc whose end points contradict its geometry, or applied evidence without a
rule, cannot be built.

Descriptive fields that no modelled function reads (highway class, layer, source
tags of an arc, the WGS84 coordinates) are left out.
-/

namespace CartoSentry.RoadGraph

/-- The identifier of an OpenStreetMap node, way or relation. -/
abbrev OsmId : Type := Nat

/-- `_node_name`. -/
def nodeName (nodeId : OsmId) : String :=
  "osm-node-" ++ nodeId.repr

theorem nodeName_injective : Function.Injective nodeName := by
  intro left right h
  have hrepr : left.repr = right.repr := by
    have hlist := congrArg String.toList h
    simp only [nodeName, String.toList_append] at hlist
    exact String.toList_inj.mp (List.append_cancel_left hlist)
  have hvalue := congrArg (fun text => Nat.ofDigitChars 10 text.toList 0) hrepr
  simpa [Nat.repr] using hvalue

@[simp] theorem nodeName_inj {left right : OsmId} :
    nodeName left = nodeName right ↔ left = right :=
  nodeName_injective.eq_iff

/-- `str.startswith` with one candidate. -/
def startsWith (text start : String) : Bool :=
  start.toList.isPrefixOf text.toList

/-- `str.endswith`. -/
def endsWith (text ending : String) : Bool :=
  ending.toList.isSuffixOf text.toList

/-! ## Raw elements -/

/-- The `tag` children of one element: keys are unique and nonempty. -/
structure Tags where
  entries : List (String × String)
  unique : (entries.map Prod.fst).Nodup
  nonempty : ∀ entry ∈ entries, entry.1 ≠ ""

def Tags.get? (tags : Tags) (key : String) : Option String :=
  tags.entries.lookup key

def Tags.contains (tags : Tags) (key : String) : Bool :=
  (tags.get? key).isSome

def Tags.keys (tags : Tags) : List String :=
  tags.entries.map Prod.fst

inductive MemberType where
  | node
  | way
  | other (text : String)
  deriving DecidableEq, Repr

structure RawMember where
  memberType : MemberType
  memberId : OsmId
  role : String
  deriving DecidableEq, Repr

structure RawRelation where
  relationId : OsmId
  members : List RawMember
  tags : Tags

/-! ## Directed arcs -/

inductive ArcDirection where
  | forward
  | reverse
  deriving DecidableEq, Repr

/-- A position in the local frame of the graph. -/
structure LocalPoint where
  x : ℚ
  y : ℚ
  z : ℚ
  deriving DecidableEq, Repr

/-- `DirectedRoadArc`, with what its field bounds and `validate_geometry_contract`
establish. -/
structure DirectedRoadArc where
  arcId : String
  fromNodeId : String
  toNodeId : String
  sourceWayId : OsmId
  sourceChainIndex : Nat
  direction : ArcDirection
  sourceGeometryNodeIds : List OsmId
  geometryLocal : List LocalPoint
  length : ℚ
  pointCount : 2 ≤ sourceGeometryNodeIds.length
  geometryCount : geometryLocal.length = sourceGeometryNodeIds.length
  fromEndpoint : some fromNodeId = sourceGeometryNodeIds.head?.map nodeName
  toEndpoint : some toNodeId = sourceGeometryNodeIds.getLast?.map nodeName
  lengthPositive : 0 < length

/-! ## Transition rules and their evidence -/

inductive TransitionState where
  | forbidden
  | unknownRestriction
  deriving DecidableEq, Repr

def TransitionState.value : TransitionState → String
  | .forbidden => "FORBIDDEN"
  | .unknownRestriction => "UNKNOWN_RESTRICTION"

structure TransitionRule where
  fromArcId : String
  toArcId : String
  state : TransitionState
  sourceRelationId : OsmId
  deriving DecidableEq, Repr

inductive RestrictionInterpretation where
  | appliedNo
  | appliedOnly
  | unknownConditional
  | unknownViaWay
  | unknownValue
  | unknownExcept
  | unknownMalformed
  | unknownDisconnected
  | inactiveSourceExcluded
  deriving DecidableEq, Repr

/-- Reported as applied. -/
def RestrictionInterpretation.applied : RestrictionInterpretation → Bool
  | .appliedNo | .appliedOnly => true
  | _ => false

/-- Reported as `UNKNOWN_*`. -/
def RestrictionInterpretation.unknown : RestrictionInterpretation → Bool
  | .appliedNo | .appliedOnly | .inactiveSourceExcluded => false
  | _ => true

/-- `TurnRestrictionEvidence`; the last field is `validate_applied_evidence`. -/
structure TurnRestrictionEvidence where
  sourceRelationId : OsmId
  restrictionValue : String
  interpretation : RestrictionInterpretation
  fromWayIds : List OsmId
  viaNodeIds : List OsmId
  viaWayIds : List OsmId
  toWayIds : List OsmId
  generatedRuleCount : Nat
  appliedGenerates : interpretation.applied = true → generatedRuleCount ≠ 0

/-- The part of `TurnRestrictionProfile` that decides an interpretation. -/
structure TurnRestrictionProfile where
  relationType : String
  restrictionTagKeys : List String
  supportedPrefixes : List String
  deriving DecidableEq, Repr

end CartoSentry.RoadGraph
