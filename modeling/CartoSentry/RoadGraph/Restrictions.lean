import Mathlib.Data.List.Sort
import Mathlib.Data.Prod.Lex
import CartoSentry.RoadGraph.Contracts

set_option autoImplicit false

/-!
# Road graph: import of turn restrictions

`_build_restrictions`: each restriction relation is classified, turned into rules
over the directed arcs that touch its members, and reported with the number of
rules it generated.
-/

namespace CartoSentry.RoadGraph

open RestrictionInterpretation

/-- `_restriction_members`. -/
def restrictionMembers (relation : RawRelation) (memberType : MemberType) (role : String) :
    List OsmId :=
  (relation.members.filter fun item =>
    item.memberType = memberType ∧ item.role = role).map RawMember.memberId

def RawRelation.fromWayIds (relation : RawRelation) : List OsmId :=
  restrictionMembers relation .way "from"

def RawRelation.toWayIds (relation : RawRelation) : List OsmId :=
  restrictionMembers relation .way "to"

def RawRelation.viaNodeIds (relation : RawRelation) : List OsmId :=
  restrictionMembers relation .node "via"

def RawRelation.viaWayIds (relation : RawRelation) : List OsmId :=
  restrictionMembers relation .way "via"

/-- The relations the import reads at all. -/
def isRestriction (profile : TurnRestrictionProfile) (relation : RawRelation) : Bool :=
  relation.tags.get? "type" = some profile.relationType

/-- The first restriction tag in the profile's order, else the conditional one. -/
def restrictionValue (profile : TurnRestrictionProfile) (relation : RawRelation) : String :=
  (profile.restrictionTagKeys.findSome? relation.tags.get?).getD
    ((relation.tags.get? "restriction:conditional").getD "")

def isConditional (relation : RawRelation) : Bool :=
  relation.tags.keys.any fun key => endsWith key ":conditional"

def simpleMemberContract (relation : RawRelation) : Bool :=
  relation.fromWayIds.length = 1 ∧ relation.toWayIds.length = 1 ∧
    relation.viaNodeIds.length = 1 ∧ relation.viaWayIds = []

/-- The interpretation before any rule is generated. -/
def classify (profile : TurnRestrictionProfile) (includedWayIds : List OsmId)
    (relation : RawRelation) : RestrictionInterpretation :=
  let value := restrictionValue profile relation
  if relation.tags.contains "except" then unknownExcept
  else if isConditional relation then unknownConditional
  else if relation.viaWayIds ≠ [] then unknownViaWay
  else if ¬ simpleMemberContract relation then unknownMalformed
  else if ¬ profile.supportedPrefixes.any (startsWith value) then unknownValue
  else if ¬ ∀ wayId ∈ relation.fromWayIds ++ relation.toWayIds, wayId ∈ includedWayIds then
    inactiveSourceExcluded
  else if startsWith value "no_" then appliedNo
  else appliedOnly

/-! ## Arc indices -/

section Indices

variable (arcs : List DirectedRoadArc)

/-- `incoming_by_way_node`. -/
def incomingByWayNode (wayId : OsmId) (nodeId : String) : List DirectedRoadArc :=
  arcs.filter fun arc => arc.sourceWayId = wayId ∧ arc.toNodeId = nodeId

/-- `outgoing_by_way_node`. -/
def outgoingByWayNode (wayId : OsmId) (nodeId : String) : List DirectedRoadArc :=
  arcs.filter fun arc => arc.sourceWayId = wayId ∧ arc.fromNodeId = nodeId

/-- `outgoing_by_node`. -/
def outgoingByNode (nodeId : String) : List DirectedRoadArc :=
  arcs.filter fun arc => arc.fromNodeId = nodeId

/-- The arcs a restriction turns from, and the nodes at which it acts.  The node
names of the second branch are the sorted set of the arcs' end nodes. -/
def incomingArcs (relation : RawRelation) : List DirectedRoadArc :=
  match relation.viaNodeIds with
  | [via] => relation.fromWayIds.flatMap fun wayId => incomingByWayNode arcs wayId (nodeName via)
  | _ => arcs.filter fun arc => arc.sourceWayId ∈ relation.fromWayIds

def candidateNodes (relation : RawRelation) : List String :=
  match relation.viaNodeIds with
  | [via] => [nodeName via]
  | _ => (((incomingArcs arcs relation).map DirectedRoadArc.toNodeId).dedup).insertionSort (· ≤ ·)

/-! ## Rules of one relation -/

/-- The rule for one ordered pair of arcs. -/
def ruleFor (relation : RawRelation) (state : TransitionState)
    (fromArc toArc : DirectedRoadArc) : TransitionRule where
  fromArcId := fromArc.arcId
  toArcId := toArc.arcId
  state := state
  sourceRelationId := relation.relationId

/-- The rules of the `APPLIED_NO` branch. -/
def prohibitedRules (relation : RawRelation) : List TransitionRule :=
  (candidateNodes arcs relation).flatMap fun nodeId =>
    ((incomingArcs arcs relation).filter fun arc => arc.toNodeId = nodeId).flatMap fun fromArc =>
      relation.toWayIds.flatMap fun toWayId =>
        (outgoingByWayNode arcs toWayId nodeId).map (ruleFor relation .forbidden fromArc)

/-- The arc identities the `APPLIED_ONLY` branch leaves open. -/
def allowedArcIds (relation : RawRelation) : List String :=
  (candidateNodes arcs relation).flatMap fun nodeId =>
    relation.toWayIds.flatMap fun toWayId =>
      (outgoingByWayNode arcs toWayId nodeId).map DirectedRoadArc.arcId

/-- The rules of the `APPLIED_ONLY` branch. -/
def mandatoryRules (relation : RawRelation) : List TransitionRule :=
  (incomingArcs arcs relation).flatMap fun fromArc =>
    ((outgoingByNode arcs fromArc.toNodeId).filter fun toArc =>
      toArc.arcId ∉ allowedArcIds arcs relation).map (ruleFor relation .forbidden fromArc)

/-- The rules of every `UNKNOWN_*` interpretation. -/
def unknownRules (relation : RawRelation) : List TransitionRule :=
  (incomingArcs arcs relation).flatMap fun fromArc =>
    (outgoingByNode arcs fromArc.toNodeId).map (ruleFor relation .unknownRestriction fromArc)

/-- The final interpretation and the generated rules of one relation: an applied
relation without a rule is reclassified as disconnected and then fails closed. -/
def interpretRelation (profile : TurnRestrictionProfile) (includedWayIds : List OsmId)
    (relation : RawRelation) : RestrictionInterpretation × List TransitionRule :=
  let failClosed (interpretation : RestrictionInterpretation) :=
    (interpretation, unknownRules arcs relation)
  match classify profile includedWayIds relation with
  | inactiveSourceExcluded => (inactiveSourceExcluded, [])
  | appliedNo =>
      let generated := prohibitedRules arcs relation
      if generated = [] then failClosed unknownDisconnected else (appliedNo, generated)
  | appliedOnly =>
      if allowedArcIds arcs relation = [] then failClosed unknownDisconnected
      else
        let generated := mandatoryRules arcs relation
        if generated = [] then failClosed unknownDisconnected else (appliedOnly, generated)
  | interpretation => failClosed interpretation

/-- An applied relation generated a rule, so its evidence passes its own check. -/
theorem interpretRelation_applied_generates (profile : TurnRestrictionProfile)
    (includedWayIds : List OsmId) (relation : RawRelation)
    (happlied : (interpretRelation arcs profile includedWayIds relation).1.applied = true) :
    (interpretRelation arcs profile includedWayIds relation).2.length ≠ 0 := by
  rw [Ne, List.length_eq_zero_iff]
  revert happlied
  unfold interpretRelation
  cases classify profile includedWayIds relation <;>
    simp only [RestrictionInterpretation.applied, Bool.false_eq_true, false_imp_iff] <;>
    split_ifs <;> simp_all

/-- `TurnRestrictionEvidence(...)` as the loop builds it. -/
def evidenceFor (profile : TurnRestrictionProfile) (includedWayIds : List OsmId)
    (relation : RawRelation) : TurnRestrictionEvidence where
  sourceRelationId := relation.relationId
  restrictionValue := restrictionValue profile relation
  interpretation := (interpretRelation arcs profile includedWayIds relation).1
  fromWayIds := relation.fromWayIds
  viaNodeIds := relation.viaNodeIds
  viaWayIds := relation.viaWayIds
  toWayIds := relation.toWayIds
  generatedRuleCount := (interpretRelation arcs profile includedWayIds relation).2.length
  appliedGenerates := interpretRelation_applied_generates arcs profile includedWayIds relation

end Indices

/-! ## All relations -/

/-- Assignment into the dictionary of rules: a rule is its own key, so an equal
rule is replaced in place. -/
def insertRule (rules : List TransitionRule) (rule : TransitionRule) : List TransitionRule :=
  if rule ∈ rules then rules else rules ++ [rule]

/-- The key the rules are sorted by. -/
def TransitionRule.sortKey (rule : TransitionRule) : String ×ₗ String ×ₗ String ×ₗ Nat :=
  toLex (rule.fromArcId, toLex (rule.toArcId, toLex (rule.state.value, rule.sourceRelationId)))

/-- The restriction relations in the order the loop reads them. -/
def restrictionRelations (profile : TurnRestrictionProfile) (relations : List RawRelation) :
    List RawRelation :=
  (relations.insertionSort fun left right => left.relationId ≤ right.relationId).filter
    (isRestriction profile)

/-- `_build_restrictions`. -/
def buildRestrictions (relations : List RawRelation) (arcs : List DirectedRoadArc)
    (includedWayIds : List OsmId) (profile : TurnRestrictionProfile) :
    List TransitionRule × List TurnRestrictionEvidence :=
  let ordered := restrictionRelations profile relations
  let rules := ordered.foldl
    (fun rules relation =>
      (interpretRelation arcs profile includedWayIds relation).2.foldl insertRule rules) []
  (rules.insertionSort fun left right => left.sortKey ≤ right.sortKey,
    ordered.map (evidenceFor arcs profile includedWayIds))

end CartoSentry.RoadGraph
