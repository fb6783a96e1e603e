import CartoSentry.Matching.NativeGraph
import CartoSentry.Matching.Route
import CartoSentry.RoadGraph.RestrictionSoundness

set_option autoImplicit false

/-!
# Road graph: the turn a mandatory restriction permits

A mandatory restriction forbids every other departure from its via node.  Where
there is no other departure it generates no rule, is taken for a disconnected
one and fails closed: it then blocks the very turn it prescribes.
-/

namespace CartoSentry.RoadGraph

open RestrictionInterpretation

/-- A mandatory restriction as the import supports it: from one included way, over
one via node, to one included way, each with an arc at the via node. -/
structure Mandatory (profile : TurnRestrictionProfile) (includedWayIds : List OsmId)
    (arcs : List DirectedRoadArc) (relation : RawRelation) (fromWay via toWay : OsmId) : Prop where
  restriction : isRestriction profile relation = true
  unconditional : relation.tags.contains "except" = false ∧ isConditional relation = false
  value : startsWith (restrictionValue profile relation) "only_" = true
  supported : "only_" ∈ profile.supportedPrefixes
  fromMember : relation.fromWayIds = [fromWay]
  toMember : relation.toWayIds = [toWay]
  viaMember : relation.viaNodeIds = [via]
  noViaWay : relation.viaWayIds = []
  included : fromWay ∈ includedWayIds ∧ toWay ∈ includedWayIds
  arrives : ∃ arc ∈ arcs, arc.sourceWayId = fromWay ∧ arc.toNodeId = nodeName via
  departs : ∃ arc ∈ arcs, arc.sourceWayId = toWay ∧ arc.fromNodeId = nodeName via

/-- The restriction names the node as a via node or, without exactly one via node,
acts at the end of an arc of a from-way there. -/
def Touches (arcs : List DirectedRoadArc) (relation : RawRelation) (node : OsmId) : Prop :=
  node ∈ relation.viaNodeIds ∨
    relation.viaNodeIds.length ≠ 1 ∧
      ∃ arc ∈ arcs, arc.sourceWayId ∈ relation.fromWayIds ∧ arc.toNodeId = nodeName node

section Junction

variable {relations : List RawRelation} {arcs : List DirectedRoadArc}
  {includedWayIds : List OsmId} {profile : TurnRestrictionProfile} {relation : RawRelation}
  {fromWay via toWay : OsmId}

/-- A text that starts with `only_` does not start with `no_`. -/
theorem not_no_of_only {text : String} (h : startsWith text "only_" = true) :
    startsWith text "no_" = false := by
  unfold startsWith at *
  rw [List.isPrefixOf_iff_prefix] at h
  obtain ⟨rest, hrest⟩ := h
  rw [← hrest]
  rfl

theorem Mandatory.classify (h : Mandatory profile includedWayIds arcs relation fromWay via toWay) :
    classify profile includedWayIds relation = appliedOnly := by
  have hsimple : simpleMemberContract relation = true := by
    simp [simpleMemberContract, h.fromMember, h.toMember, h.viaMember, h.noViaWay]
  have hsupported : profile.supportedPrefixes.any
      (startsWith (restrictionValue profile relation)) = true :=
    List.any_eq_true.mpr ⟨"only_", h.supported, h.value⟩
  have hincluded : ∀ wayId ∈ relation.fromWayIds ++ relation.toWayIds, wayId ∈ includedWayIds := by
    rw [h.fromMember, h.toMember]
    simpa using h.included
  unfold RoadGraph.classify
  simp only [h.unconditional.1, h.unconditional.2, h.noViaWay, hsimple, hsupported,
    not_no_of_only h.value, not_true_eq_false, Bool.false_eq_true, ite_false, ne_eq]
  rw [if_neg (not_not.mpr hincluded)]

theorem Mandatory.allowed (h : Mandatory profile includedWayIds arcs relation fromWay via toWay)
    (arcId : String) :
    arcId ∈ allowedArcIds arcs relation ↔
      ∃ arc ∈ arcs, arc.sourceWayId = toWay ∧ arc.fromNodeId = nodeName via ∧ arc.arcId = arcId := by
  rw [mem_allowedArcIds h.viaMember, h.toMember]
  simp

/-- With unique arc identities, some departure is not permitted exactly when some
arc of another way leaves the via node. -/
theorem Mandatory.rules_nonempty
    (h : Mandatory profile includedWayIds arcs relation fromWay via toWay)
    (hunique : (arcs.map DirectedRoadArc.arcId).Nodup) :
    mandatoryRules arcs relation ≠ [] ↔
      ∃ arc ∈ arcs, arc.fromNodeId = nodeName via ∧ arc.sourceWayId ≠ toWay := by
  rw [ne_eq, List.eq_nil_iff_forall_not_mem]
  push Not
  constructor
  · intro ⟨rule, hrule⟩
    obtain ⟨fromArc, hincoming, toArc, harc, hnode, hopen, -⟩ := mem_mandatoryRules.mp hrule
    have hend := (mem_incomingArcs.mp hincoming).2.2 via h.viaMember
    rw [hend] at hnode
    refine ⟨toArc, harc, hnode, ?_⟩
    intro hway
    exact hopen ((h.allowed _).mpr ⟨toArc, harc, hway, hnode, rfl⟩)
  · intro ⟨toArc, harc, hnode, hway⟩
    obtain ⟨fromArc, hfrom, hfromWay, hend⟩ := h.arrives
    refine ⟨ruleFor relation .forbidden fromArc toArc, mem_mandatoryRules.mpr
      ⟨fromArc, ?_, toArc, harc, hnode.trans hend.symm, ?_, rfl⟩⟩
    · rw [mem_incomingArcs, h.fromMember, h.viaMember]
      refine ⟨hfrom, by simpa using hfromWay, ?_⟩
      intro other hother
      obtain rfl : via = other := by simpa using hother
      exact hend
    · intro hallowed
      obtain ⟨other, hother, hotherWay, -, hid⟩ := (h.allowed _).mp hallowed
      rw [List.inj_on_of_nodup_map hunique hother harc hid] at hotherWay
      exact hway hotherWay

/-- What a mandatory restriction comes out as. -/
theorem Mandatory.interpretation
    (h : Mandatory profile includedWayIds arcs relation fromWay via toWay)
    (hunique : (arcs.map DirectedRoadArc.arcId).Nodup) :
    (evidenceFor arcs profile includedWayIds relation).interpretation =
      if ∃ arc ∈ arcs, arc.fromNodeId = nodeName via ∧ arc.sourceWayId ≠ toWay then appliedOnly
      else unknownDisconnected := by
  change (interpretRelation arcs profile includedWayIds relation).1 = _
  have hallowed : allowedArcIds arcs relation ≠ [] := by
    obtain ⟨arc, harc, hway, hnode⟩ := h.departs
    exact List.ne_nil_of_mem ((h.allowed arc.arcId).mpr ⟨arc, harc, hway, hnode, rfl⟩)
  unfold interpretRelation
  rw [h.classify]
  simp only [hallowed, ite_false]
  have hrules := h.rules_nonempty hunique
  by_cases hempty : mandatoryRules arcs relation = []
  · rw [if_pos hempty, if_neg (fun hother => hrules.mpr hother hempty)]
  · rw [if_neg hempty, if_pos (hrules.mp hempty)]

/-- A rule between two arcs at the via node is of a restriction that touches it. -/
theorem touches_of_accounts (hunique : (arcs.map DirectedRoadArc.arcId).Nodup)
    {rule : TransitionRule} {fromArc : DirectedRoadArc} (hfrom : fromArc ∈ arcs)
    (hend : fromArc.toNodeId = nodeName via) (hid : rule.fromArcId = fromArc.arcId)
    (haccounts : (evidenceFor arcs profile includedWayIds relation).AccountsFor arcs rule) :
    Touches arcs relation via := by
  obtain ⟨-, other, hother, toArc, -, hotherId, -, hacts⟩ := haccounts
  have hsame : other = fromArc :=
    List.inj_on_of_nodup_map hunique hother hfrom (hotherId.symm.trans hid)
  have hturns : (evidenceFor arcs profile includedWayIds relation).TurnsFrom fromArc := by
    rw [← hsame]
    unfold TurnRestrictionEvidence.ActsOn at hacts
    split at hacts
    · exact hacts.2.1
    · exact hacts.2.1
    · exact hacts.elim
    · exact hacts.2.1
  obtain ⟨hway, hvia⟩ := hturns
  by_cases hsingle : relation.viaNodeIds.length = 1
  · obtain ⟨named, hnamed⟩ := List.length_eq_one_iff.mp hsingle
    have hname := hvia named hnamed
    rw [hend, nodeName_inj] at hname
    exact Or.inl (by rw [hnamed, hname]; exact List.mem_singleton_self named)
  · exact Or.inr ⟨hsingle, fromArc, hfrom, hway, hend⟩

/-- Every movement from the from-way over the via node to the to-way is free of
rules, and open to the native route search. -/
def PermittedTurnOpen (relations : List RawRelation) (arcs : List DirectedRoadArc)
    (includedWayIds : List OsmId) (profile : TurnRestrictionProfile)
    (fromWay via toWay : OsmId) : Prop :=
  let rules := (buildRestrictions relations arcs includedWayIds profile).1
  ∀ fromArc ∈ arcs, fromArc.sourceWayId = fromWay → fromArc.toNodeId = nodeName via →
    ∀ toArc ∈ arcs, toArc.sourceWayId = toWay → toArc.fromNodeId = nodeName via →
      (∀ rule ∈ rules, ¬ (rule.fromArcId = fromArc.arcId ∧ rule.toArcId = toArc.arcId)) ∧
        Matching.blockedTransition (Matching.nativeGraph arcs rules) fromArc.arcId toArc.arcId =
          none

/-- The native search sees the imported rules and no others. -/
theorem blockedTransition_nativeGraph {rules : List TransitionRule} {fromArcId toArcId : String} :
    Matching.blockedTransition (Matching.nativeGraph arcs rules) fromArcId toArcId = none ↔
      ∀ rule ∈ rules, ¬ (rule.fromArcId = fromArcId ∧ rule.toArcId = toArcId) := by
  rw [Matching.blockedTransition_eq_none_iff]
  simp [Matching.nativeGraph, Matching.nativeRule]

/-- Where a mandatory restriction is the only one that touches its via node, the
turn it permits stays open exactly when an arc of another way leaves that node. -/
theorem permitted_turn_open_iff
    (h : Mandatory profile includedWayIds arcs relation fromWay via toWay)
    (hmem : relation ∈ relations)
    (honly : ∀ other ∈ relations, isRestriction profile other = true →
      Touches arcs other via → other = relation)
    (hunique : (arcs.map DirectedRoadArc.arcId).Nodup) :
    PermittedTurnOpen relations arcs includedWayIds profile fromWay via toWay ↔
      ∃ arc ∈ arcs, arc.fromNodeId = nodeName via ∧ arc.sourceWayId ≠ toWay := by
  have hinterpretation := h.interpretation hunique
  constructor
  · intro hopen
    by_contra hnone
    rw [if_neg hnone] at hinterpretation
    obtain ⟨fromArc, hfrom, hfromWay, hend⟩ := h.arrives
    obtain ⟨toArc, hto, htoWay, hstart⟩ := h.departs
    obtain ⟨hfree, -⟩ := hopen fromArc hfrom hfromWay hend toArc hto htoWay hstart
    have hrule : ruleFor relation .unknownRestriction fromArc toArc ∈
        (buildRestrictions relations arcs includedWayIds profile).1 := by
      rw [mem_imported_rules]
      refine ⟨relation, hmem, h.restriction, rfl, fromArc, hfrom, toArc, hto, rfl, rfl, ?_⟩
      unfold TurnRestrictionEvidence.ActsOn
      rw [hinterpretation]
      have hturns : fromArc ∈ incomingArcs arcs relation := by
        rw [mem_incomingArcs, h.fromMember, h.viaMember]
        refine ⟨hfrom, by simpa using hfromWay, ?_⟩
        intro other hother
        obtain rfl : via = other := by simpa using hother
        exact hend
      exact ⟨rfl, (turnsFrom_evidenceFor.mp hturns).2, hstart.trans hend.symm⟩
    exact hfree _ hrule ⟨rfl, rfl⟩
  · intro hother fromArc hfrom hfromWay hend toArc hto htoWay hstart
    rw [if_pos hother] at hinterpretation
    rw [blockedTransition_nativeGraph, and_self]
    intro rule hrule ⟨hfromId, htoId⟩
    obtain ⟨accounting, haccounting, hrestriction, haccounts⟩ := (mem_imported_rules ..).mp hrule
    have htouches := touches_of_accounts hunique hfrom hend hfromId haccounts
    obtain rfl := honly accounting haccounting hrestriction htouches
    obtain ⟨-, _, -, other, hotherMem, -, hotherId, hacts⟩ := haccounts
    unfold TurnRestrictionEvidence.ActsOn at hacts
    rw [hinterpretation] at hacts
    apply hacts.2.2.2
    exact ⟨toArc, hto, (turnsTo_evidenceFor h.viaMember).mpr ⟨by simp [h.toMember, htoWay], hstart⟩,
      htoId.symm.trans hotherId⟩

end Junction

/-! ## Two one-way streets in a row -/

namespace StraightOn

/-- A one-way arc between two nodes. -/
def oneWayArc (arcId : String) (wayId fromNode toNode : OsmId) : DirectedRoadArc where
  arcId := arcId
  fromNodeId := nodeName fromNode
  toNodeId := nodeName toNode
  sourceWayId := wayId
  sourceChainIndex := 0
  direction := .forward
  sourceGeometryNodeIds := [fromNode, toNode]
  geometryLocal := [⟨0, 0, 0⟩, ⟨80, 0, 0⟩]
  length := 80
  pointCount := le_rfl
  geometryCount := rfl
  fromEndpoint := rfl
  toEndpoint := rfl
  lengthPositive := by decide +kernel

/-- `only_straight_on` from way 100 over node 2 to way 101. -/
def onlyStraightOn : RawRelation where
  relationId := 1000
  members := [⟨.way, 100, "from"⟩, ⟨.node, 2, "via"⟩, ⟨.way, 101, "to"⟩]
  tags := { entries := [("type", "restriction"), ("restriction", "only_straight_on")]
            unique := by decide
            nonempty := by decide }

def profile : TurnRestrictionProfile where
  relationType := "restriction"
  restrictionTagKeys := ["restriction", "restriction:motorcar"]
  supportedPrefixes := ["no_", "only_"]

/-- Way 100 from node 1 to node 2 and way 101 from node 2 to node 3. -/
def street : List DirectedRoadArc :=
  [oneWayArc "arc-a" 100 1 2, oneWayArc "arc-b" 101 2 3]

/-- The same street with a side road, way 102, from node 2 to node 4. -/
def junction : List DirectedRoadArc :=
  street ++ [oneWayArc "arc-c" 102 2 4]

theorem onlyStraightOn_mandatory {arcs : List DirectedRoadArc} (harcs : street ⊆ arcs) :
    Mandatory profile [100, 101, 102] arcs onlyStraightOn 100 2 101 where
  restriction := by decide +kernel
  unconditional := by decide +kernel
  value := by decide +kernel
  supported := by decide
  fromMember := by decide +kernel
  toMember := by decide +kernel
  viaMember := by decide +kernel
  noViaWay := by decide +kernel
  included := by decide
  arrives := ⟨_, harcs (List.mem_cons_self), rfl, rfl⟩
  departs := ⟨_, harcs (List.mem_cons_of_mem _ List.mem_cons_self), rfl, rfl⟩

/-- On the street the restriction blocks the turn it permits. -/
theorem permitted_turn_blocked :
    Mandatory profile [100, 101, 102] street onlyStraightOn 100 2 101 ∧
      (∀ other ∈ [onlyStraightOn], isRestriction profile other = true →
        Touches street other 2 → other = onlyStraightOn) ∧
      (street.map DirectedRoadArc.arcId).Nodup ∧
      ¬ PermittedTurnOpen [onlyStraightOn] street [100, 101, 102] profile 100 2 101 := by
  refine ⟨onlyStraightOn_mandatory (List.Subset.refl _), by simp, by decide, ?_⟩
  intro hopen
  have hblocked : Matching.blockedTransition
      (Matching.nativeGraph street
        (buildRestrictions [onlyStraightOn] street [100, 101, 102] profile).1)
      "arc-a" "arc-b" = some .unknownRestriction := by decide +kernel
  have hfree := (hopen (oneWayArc "arc-a" 100 1 2) (by simp [street]) rfl rfl
    (oneWayArc "arc-b" 101 2 3) (by simp [street]) rfl rfl).2
  rw [show (oneWayArc "arc-a" 100 1 2).arcId = "arc-a" from rfl,
    show (oneWayArc "arc-b" 101 2 3).arcId = "arc-b" from rfl, hblocked] at hfree
  simp at hfree

/-- With the side road it is open. -/
theorem permitted_turn_open_junction :
    PermittedTurnOpen [onlyStraightOn] junction [100, 101, 102] profile 100 2 101 := by
  apply (permitted_turn_open_iff (onlyStraightOn_mandatory (List.subset_append_left _ _))
    (List.mem_singleton_self _) (by simp) (by decide)).mpr
  exact ⟨oneWayArc "arc-c" 102 2 4, by simp, rfl, by decide⟩

end StraightOn

end CartoSentry.RoadGraph
