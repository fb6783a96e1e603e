import CartoSentry.RoadGraph.Restrictions

set_option autoImplicit false

/-!
# Road graph: restrictions are imported soundly and fail closed

What a reported restriction means, stated over the directed arcs and the members
it names, and that the imported rules are exactly the rules some report accounts
for.
-/

namespace CartoSentry.RoadGraph

open RestrictionInterpretation

/-! ## What a report accounts for -/

section Meaning

variable (arcs : List DirectedRoadArc) (evidence : TurnRestrictionEvidence)

/-- The name of a via node of the restriction. -/
def TurnRestrictionEvidence.AtVia (nodeId : String) : Prop :=
  ∃ via ∈ evidence.viaNodeIds, nodeId = nodeName via

/-- An arc of a from-way that ends at the via node; without exactly one via node,
any arc of a from-way. -/
def TurnRestrictionEvidence.TurnsFrom (arc : DirectedRoadArc) : Prop :=
  arc.sourceWayId ∈ evidence.fromWayIds ∧
    ∀ via, evidence.viaNodeIds = [via] → arc.toNodeId = nodeName via

/-- An arc of a to-way that starts at the via node. -/
def TurnRestrictionEvidence.TurnsTo (arc : DirectedRoadArc) : Prop :=
  arc.sourceWayId ∈ evidence.toWayIds ∧ evidence.AtVia arc.fromNodeId

/-- The pair of arcs the restriction acts on, and how.  Arcs are told apart by
their identities, as the rules name them. -/
def TurnRestrictionEvidence.ActsOn (fromArc toArc : DirectedRoadArc)
    (state : TransitionState) : Prop :=
  match evidence.interpretation with
  | appliedNo =>
      state = .forbidden ∧ evidence.TurnsFrom fromArc ∧ evidence.TurnsTo toArc
  | appliedOnly =>
      state = .forbidden ∧ evidence.TurnsFrom fromArc ∧ toArc.fromNodeId = fromArc.toNodeId ∧
        ¬ ∃ allowed ∈ arcs, evidence.TurnsTo allowed ∧ allowed.arcId = toArc.arcId
  | inactiveSourceExcluded => False
  | _ =>
      state = .unknownRestriction ∧ evidence.TurnsFrom fromArc ∧
        toArc.fromNodeId = fromArc.toNodeId

/-- The restriction accounts for the rule. -/
def TurnRestrictionEvidence.AccountsFor (rule : TransitionRule) : Prop :=
  rule.sourceRelationId = evidence.sourceRelationId ∧
    ∃ fromArc ∈ arcs, ∃ toArc ∈ arcs,
      rule.fromArcId = fromArc.arcId ∧ rule.toArcId = toArc.arcId ∧
        evidence.ActsOn arcs fromArc toArc rule.state

/-- The report is about this relation and repeats its members. -/
def TurnRestrictionEvidence.Reports (relation : RawRelation) : Prop :=
  evidence.sourceRelationId = relation.relationId ∧
    evidence.fromWayIds = relation.fromWayIds ∧ evidence.viaNodeIds = relation.viaNodeIds ∧
      evidence.viaWayIds = relation.viaWayIds ∧ evidence.toWayIds = relation.toWayIds

end Meaning

/-! ## Rules of one relation -/

section OneRelation

variable {arcs : List DirectedRoadArc} {profile : TurnRestrictionProfile}
  {includedWayIds : List OsmId} {relation : RawRelation}

theorem mem_incomingArcs {arc : DirectedRoadArc} :
    arc ∈ incomingArcs arcs relation ↔
      arc ∈ arcs ∧ arc.sourceWayId ∈ relation.fromWayIds ∧
        ∀ via, relation.viaNodeIds = [via] → arc.toNodeId = nodeName via := by
  unfold incomingArcs
  split
  · next via hvia =>
    simp only [incomingByWayNode, List.mem_flatMap, List.mem_filter, decide_eq_true_eq]
    constructor
    · rintro ⟨wayId, hway, harc, rfl, hnode⟩
      refine ⟨harc, hway, ?_⟩
      intro other hother
      rw [hvia] at hother
      obtain rfl : via = other := by simpa using hother
      exact hnode
    · intro ⟨harc, hway, hnode⟩
      exact ⟨arc.sourceWayId, hway, harc, rfl, hnode via hvia⟩
  · next hvia =>
    simp only [List.mem_filter, decide_eq_true_eq]
    constructor
    · intro ⟨harc, hway⟩
      exact ⟨harc, hway, fun via hsingle => absurd hsingle (hvia via)⟩
    · intro ⟨harc, hway, _⟩
      exact ⟨harc, hway⟩

theorem mem_outgoingByNode {arc : DirectedRoadArc} {nodeId : String} :
    arc ∈ outgoingByNode arcs nodeId ↔ arc ∈ arcs ∧ arc.fromNodeId = nodeId := by
  simp [outgoingByNode]

theorem mem_outgoingByWayNode {arc : DirectedRoadArc} {wayId : OsmId} {nodeId : String} :
    arc ∈ outgoingByWayNode arcs wayId nodeId ↔
      arc ∈ arcs ∧ arc.sourceWayId = wayId ∧ arc.fromNodeId = nodeId := by
  simp [outgoingByWayNode]

theorem candidateNodes_of_single {via : OsmId} (hvia : relation.viaNodeIds = [via]) :
    candidateNodes arcs relation = [nodeName via] := by
  simp [candidateNodes, hvia]

theorem mem_prohibitedRules {via : OsmId} (hvia : relation.viaNodeIds = [via])
    {rule : TransitionRule} :
    rule ∈ prohibitedRules arcs relation ↔
      ∃ fromArc ∈ incomingArcs arcs relation, ∃ toArc ∈ arcs,
        toArc.sourceWayId ∈ relation.toWayIds ∧ toArc.fromNodeId = nodeName via ∧
          rule = ruleFor relation .forbidden fromArc toArc := by
  simp only [prohibitedRules, candidateNodes_of_single hvia, List.flatMap_cons, List.flatMap_nil,
    List.append_nil, List.mem_flatMap, List.mem_filter, decide_eq_true_eq, List.mem_map,
    mem_outgoingByWayNode]
  constructor
  · rintro ⟨fromArc, ⟨hfrom, _⟩, wayId, hway, toArc, ⟨hto, rfl, hnode⟩, rfl⟩
    exact ⟨fromArc, hfrom, toArc, hto, hway, hnode, rfl⟩
  · rintro ⟨fromArc, hfrom, toArc, hto, hway, hnode, rfl⟩
    have hend := (mem_incomingArcs.mp hfrom).2.2 via hvia
    exact ⟨fromArc, ⟨hfrom, hend⟩, toArc.sourceWayId, hway, toArc, ⟨hto, rfl, hnode⟩, rfl⟩

theorem mem_allowedArcIds {via : OsmId} (hvia : relation.viaNodeIds = [via]) {arcId : String} :
    arcId ∈ allowedArcIds arcs relation ↔
      ∃ allowed ∈ arcs, allowed.sourceWayId ∈ relation.toWayIds ∧
        allowed.fromNodeId = nodeName via ∧ allowed.arcId = arcId := by
  simp only [allowedArcIds, candidateNodes_of_single hvia, List.flatMap_cons, List.flatMap_nil,
    List.append_nil, List.mem_flatMap, List.mem_map, mem_outgoingByWayNode]
  constructor
  · rintro ⟨wayId, hway, allowed, ⟨harc, rfl, hnode⟩, hid⟩
    exact ⟨allowed, harc, hway, hnode, hid⟩
  · rintro ⟨allowed, harc, hway, hnode, hid⟩
    exact ⟨allowed.sourceWayId, hway, allowed, ⟨harc, rfl, hnode⟩, hid⟩

theorem mem_mandatoryRules {rule : TransitionRule} :
    rule ∈ mandatoryRules arcs relation ↔
      ∃ fromArc ∈ incomingArcs arcs relation, ∃ toArc ∈ arcs,
        toArc.fromNodeId = fromArc.toNodeId ∧ toArc.arcId ∉ allowedArcIds arcs relation ∧
          rule = ruleFor relation .forbidden fromArc toArc := by
  simp only [mandatoryRules, List.mem_flatMap, List.mem_map, List.mem_filter, mem_outgoingByNode,
    decide_eq_true_eq]
  grind

theorem mem_unknownRules {rule : TransitionRule} :
    rule ∈ unknownRules arcs relation ↔
      ∃ fromArc ∈ incomingArcs arcs relation, ∃ toArc ∈ arcs,
        toArc.fromNodeId = fromArc.toNodeId ∧
          rule = ruleFor relation .unknownRestriction fromArc toArc := by
  simp only [unknownRules, List.mem_flatMap, List.mem_map, mem_outgoingByNode]
  grind

/-- An applied classification is of a relation with one from-way, one to-way, one
via node and no via way. -/
theorem simple_of_classify_applied
    (h : (classify profile includedWayIds relation).applied = true) :
    simpleMemberContract relation = true := by
  unfold classify at h
  split_ifs at h <;> simp_all [RestrictionInterpretation.applied]

theorem via_of_simple (h : simpleMemberContract relation = true) :
    ∃ via, relation.viaNodeIds = [via] := by
  simp only [simpleMemberContract, decide_eq_true_eq] at h
  exact List.length_eq_one_iff.mp h.2.2.1

/-- What one relation can come out as. -/
inductive Outcome (arcs : List DirectedRoadArc) (profile : TurnRestrictionProfile)
    (includedWayIds : List OsmId) (relation : RawRelation) :
    RestrictionInterpretation → List TransitionRule → Prop where
  | no (hclass : classify profile includedWayIds relation = appliedNo)
      (hrules : prohibitedRules arcs relation ≠ []) :
      Outcome arcs profile includedWayIds relation appliedNo (prohibitedRules arcs relation)
  | only (hclass : classify profile includedWayIds relation = appliedOnly)
      (hrules : mandatoryRules arcs relation ≠ []) :
      Outcome arcs profile includedWayIds relation appliedOnly (mandatoryRules arcs relation)
  | inactive (hclass : classify profile includedWayIds relation = inactiveSourceExcluded) :
      Outcome arcs profile includedWayIds relation inactiveSourceExcluded []
  | failClosed (interpretation : RestrictionInterpretation)
      (hunknown : interpretation.unknown = true) :
      Outcome arcs profile includedWayIds relation interpretation (unknownRules arcs relation)

theorem interpretRelation_outcome (arcs : List DirectedRoadArc) (profile : TurnRestrictionProfile)
    (includedWayIds : List OsmId) (relation : RawRelation) :
    Outcome arcs profile includedWayIds relation
      (interpretRelation arcs profile includedWayIds relation).1
      (interpretRelation arcs profile includedWayIds relation).2 := by
  unfold interpretRelation
  cases hclass : classify profile includedWayIds relation with
  | inactiveSourceExcluded => exact .inactive hclass
  | appliedNo =>
    by_cases hrules : prohibitedRules arcs relation = []
    · simpa [hrules] using Outcome.failClosed unknownDisconnected rfl
    · simpa [hrules] using Outcome.no hclass hrules
  | appliedOnly =>
    by_cases hallowed : allowedArcIds arcs relation = []
    · simpa [hallowed] using Outcome.failClosed unknownDisconnected rfl
    · by_cases hrules : mandatoryRules arcs relation = []
      · simpa [hallowed, hrules] using Outcome.failClosed unknownDisconnected rfl
      · simpa [hallowed, hrules] using Outcome.only hclass hrules
  | unknownConditional => exact .failClosed _ rfl
  | unknownViaWay => exact .failClosed _ rfl
  | unknownValue => exact .failClosed _ rfl
  | unknownExcept => exact .failClosed _ rfl
  | unknownMalformed => exact .failClosed _ rfl
  | unknownDisconnected => exact .failClosed _ rfl

/-- Only a relation with single members comes out as applied. -/
theorem Outcome.simple {interpretation : RestrictionInterpretation}
    {generated : List TransitionRule}
    (h : Outcome arcs profile includedWayIds relation interpretation generated)
    (happlied : interpretation.applied = true) : simpleMemberContract relation = true := by
  cases h with
  | no hclass _ => exact simple_of_classify_applied (by rw [hclass]; rfl)
  | only hclass _ => exact simple_of_classify_applied (by rw [hclass]; rfl)
  | inactive _ => simp [RestrictionInterpretation.applied] at happlied
  | failClosed _ hunknown =>
    cases interpretation <;>
      simp_all [RestrictionInterpretation.unknown, RestrictionInterpretation.applied]

theorem turnsFrom_evidenceFor {arc : DirectedRoadArc} :
    arc ∈ incomingArcs arcs relation ↔
      arc ∈ arcs ∧ (evidenceFor arcs profile includedWayIds relation).TurnsFrom arc :=
  mem_incomingArcs

theorem turnsTo_evidenceFor {via : OsmId} (hvia : relation.viaNodeIds = [via])
    {arc : DirectedRoadArc} :
    (evidenceFor arcs profile includedWayIds relation).TurnsTo arc ↔
      arc.sourceWayId ∈ relation.toWayIds ∧ arc.fromNodeId = nodeName via := by
  simp [TurnRestrictionEvidence.TurnsTo, TurnRestrictionEvidence.AtVia, evidenceFor, hvia]

/-- The rules one relation generates are those its evidence accounts for. -/
theorem mem_generated_iff (rule : TransitionRule) :
    rule ∈ (interpretRelation arcs profile includedWayIds relation).2 ↔
      (evidenceFor arcs profile includedWayIds relation).AccountsFor arcs rule := by
  have houtcome := interpretRelation_outcome arcs profile includedWayIds relation
  have hfrom := @turnsFrom_evidenceFor arcs profile includedWayIds relation
  have hto := @turnsTo_evidenceFor arcs profile includedWayIds relation
  unfold TurnRestrictionEvidence.AccountsFor TurnRestrictionEvidence.ActsOn
  generalize hevidence : evidenceFor arcs profile includedWayIds relation = evidence at hfrom hto ⊢
  have hid : evidence.sourceRelationId = relation.relationId := by rw [← hevidence]; rfl
  have hinterpretation : evidence.interpretation =
      (interpretRelation arcs profile includedWayIds relation).1 := by rw [← hevidence]; rfl
  rw [hid, hinterpretation]
  generalize (interpretRelation arcs profile includedWayIds relation).1 = interpretation
    at houtcome ⊢
  generalize (interpretRelation arcs profile includedWayIds relation).2 = generated
    at houtcome ⊢
  cases houtcome with
  | no hclass _ =>
    obtain ⟨via, hvia⟩ := via_of_simple (simple_of_classify_applied (by rw [hclass]; rfl))
    rw [mem_prohibitedRules hvia]
    constructor
    · rintro ⟨fromArc, hincoming, toArc, harc, hway, hnode, rfl⟩
      obtain ⟨hmem, hturns⟩ := hfrom.mp hincoming
      exact ⟨rfl, fromArc, hmem, toArc, harc, rfl, rfl, rfl, hturns, (hto hvia).mpr ⟨hway, hnode⟩⟩
    · rintro ⟨hrelation, fromArc, hmem, toArc, harc, hfromId, htoId, hstate, hturns, hturnsTo⟩
      obtain ⟨hway, hnode⟩ := (hto hvia).mp hturnsTo
      refine ⟨fromArc, hfrom.mpr ⟨hmem, hturns⟩, toArc, harc, hway, hnode, ?_⟩
      cases rule
      simp_all [ruleFor]
  | only hclass _ =>
    obtain ⟨via, hvia⟩ := via_of_simple (simple_of_classify_applied (by rw [hclass]; rfl))
    have hallowed (arcId : String) : arcId ∈ allowedArcIds arcs relation ↔
        ∃ allowed ∈ arcs, evidence.TurnsTo allowed ∧ allowed.arcId = arcId := by
      rw [mem_allowedArcIds hvia]
      simp only [hto hvia, and_assoc]
    rw [mem_mandatoryRules]
    constructor
    · rintro ⟨fromArc, hincoming, toArc, harc, hnode, hopen, rfl⟩
      obtain ⟨hmem, hturns⟩ := hfrom.mp hincoming
      rw [hallowed] at hopen
      exact ⟨rfl, fromArc, hmem, toArc, harc, rfl, rfl, rfl, hturns, hnode, hopen⟩
    · rintro ⟨hrelation, fromArc, hmem, toArc, harc, hfromId, htoId, hstate, hturns, hnode, hopen⟩
      rw [← hallowed] at hopen
      refine ⟨fromArc, hfrom.mpr ⟨hmem, hturns⟩, toArc, harc, hnode, hopen, ?_⟩
      cases rule
      simp_all [ruleFor]
  | inactive _ => simp
  | failClosed _ hunknown =>
    have hacts : rule ∈ unknownRules arcs relation ↔ rule.sourceRelationId = relation.relationId ∧
        ∃ fromArc ∈ arcs, ∃ toArc ∈ arcs,
          rule.fromArcId = fromArc.arcId ∧ rule.toArcId = toArc.arcId ∧
            rule.state = .unknownRestriction ∧ evidence.TurnsFrom fromArc ∧
              toArc.fromNodeId = fromArc.toNodeId := by
      rw [mem_unknownRules]
      constructor
      · rintro ⟨fromArc, hincoming, toArc, harc, hnode, rfl⟩
        obtain ⟨hmem, hturns⟩ := hfrom.mp hincoming
        exact ⟨rfl, fromArc, hmem, toArc, harc, rfl, rfl, rfl, hturns, hnode⟩
      · rintro ⟨hrelation, fromArc, hmem, toArc, harc, hfromId, htoId, hstate, hturns, hnode⟩
        refine ⟨fromArc, hfrom.mpr ⟨hmem, hturns⟩, toArc, harc, hnode, ?_⟩
        cases rule
        simp_all [ruleFor]
    rw [hacts]
    cases interpretation <;> simp_all [RestrictionInterpretation.unknown]

end OneRelation

/-! ## All relations -/

theorem mem_insertRule {rules : List TransitionRule} {rule added : TransitionRule} :
    rule ∈ insertRule rules added ↔ rule ∈ rules ∨ rule = added := by
  unfold insertRule
  split_ifs with h
  · constructor
    · exact Or.inl
    · rintro (hmem | rfl)
      · exact hmem
      · exact h
  · simp

theorem mem_foldl_insertRule {added : List TransitionRule} {rules : List TransitionRule}
    {rule : TransitionRule} :
    rule ∈ added.foldl insertRule rules ↔ rule ∈ rules ∨ rule ∈ added := by
  induction added generalizing rules with
  | nil => simp
  | cons head tail ih =>
    rw [List.foldl_cons, ih, mem_insertRule, List.mem_cons, or_assoc]

theorem mem_foldl_relations {generated : RawRelation → List TransitionRule}
    {relations : List RawRelation} {rules : List TransitionRule} {rule : TransitionRule} :
    rule ∈ relations.foldl
        (fun rules relation => (generated relation).foldl insertRule rules) rules ↔
      rule ∈ rules ∨ ∃ relation ∈ relations, rule ∈ generated relation := by
  induction relations generalizing rules with
  | nil => simp
  | cons head tail ih =>
    rw [List.foldl_cons, ih, mem_foldl_insertRule, or_assoc]
    simp

theorem mem_restrictionRelations {profile : TurnRestrictionProfile}
    {relations : List RawRelation} {relation : RawRelation} :
    relation ∈ restrictionRelations profile relations ↔
      relation ∈ relations ∧ isRestriction profile relation = true := by
  rw [restrictionRelations, List.mem_filter, List.mem_insertionSort]

section Import

variable (relations : List RawRelation) (arcs : List DirectedRoadArc)
  (includedWayIds : List OsmId) (profile : TurnRestrictionProfile)

theorem mem_imported_rules {rule : TransitionRule} :
    rule ∈ (buildRestrictions relations arcs includedWayIds profile).1 ↔
      ∃ relation ∈ relations, isRestriction profile relation = true ∧
        (evidenceFor arcs profile includedWayIds relation).AccountsFor arcs rule := by
  simp only [buildRestrictions, List.mem_insertionSort, mem_foldl_relations, List.not_mem_nil,
    false_or, mem_restrictionRelations, mem_generated_iff, and_assoc]

theorem mem_imported_evidence {evidence : TurnRestrictionEvidence} :
    evidence ∈ (buildRestrictions relations arcs includedWayIds profile).2 ↔
      ∃ relation ∈ relations, isRestriction profile relation = true ∧
        evidenceFor arcs profile includedWayIds relation = evidence := by
  simp only [buildRestrictions, List.mem_map, mem_restrictionRelations, and_assoc]

theorem evidenceFor_reports (relation : RawRelation) :
    (evidenceFor arcs profile includedWayIds relation).Reports relation :=
  ⟨rfl, rfl, rfl, rfl, rfl⟩

/-- Applied evidence is of a relation with single members, and some rule is its. -/
theorem evidenceFor_applied {relation : RawRelation}
    (happlied : (evidenceFor arcs profile includedWayIds relation).interpretation.applied = true) :
    simpleMemberContract relation = true ∧
      ∃ rule, (evidenceFor arcs profile includedWayIds relation).AccountsFor arcs rule := by
  constructor
  · exact (interpretRelation_outcome arcs profile includedWayIds relation).simple happlied
  · have hcount := interpretRelation_applied_generates arcs profile includedWayIds relation happlied
    obtain ⟨rule, hrule⟩ := List.exists_mem_of_length_pos (Nat.pos_of_ne_zero hcount)
    exact ⟨rule, (mem_generated_iff rule).mp hrule⟩

/-- With unique relation identifiers, the evidence of one identifier is one report. -/
theorem evidence_unique (hunique : (relations.map RawRelation.relationId).Nodup)
    {left right : TurnRestrictionEvidence}
    (hleft : left ∈ (buildRestrictions relations arcs includedWayIds profile).2)
    (hright : right ∈ (buildRestrictions relations arcs includedWayIds profile).2)
    (hid : left.sourceRelationId = right.sourceRelationId) : left = right := by
  obtain ⟨leftRelation, hleftMem, -, rfl⟩ := (mem_imported_evidence ..).mp hleft
  obtain ⟨rightRelation, hrightMem, -, rfl⟩ := (mem_imported_evidence ..).mp hright
  rw [List.inj_on_of_nodup_map hunique hleftMem hrightMem hid]

/-- The import reads every restriction relation once and invents none; its rules
are those some report accounts for; an applied report has single members and at
least one rule; and, relation identifiers being unique, the rules that carry the
identifier of a report are exactly those it accounts for. -/
theorem restrictions_sound_and_fail_closed :
    match buildRestrictions relations arcs includedWayIds profile with
    | (rules, reports) =>
      (∀ relation ∈ relations, isRestriction profile relation = true →
          ∃ evidence ∈ reports, evidence.Reports relation) ∧
        (∀ evidence ∈ reports, ∃ relation ∈ relations,
          isRestriction profile relation = true ∧ evidence.Reports relation) ∧
        (∀ rule, rule ∈ rules ↔ ∃ evidence ∈ reports, evidence.AccountsFor arcs rule) ∧
        (∀ evidence ∈ reports, evidence.interpretation.applied = true →
          evidence.fromWayIds.length = 1 ∧ evidence.toWayIds.length = 1 ∧
            evidence.viaNodeIds.length = 1 ∧ evidence.viaWayIds = [] ∧
              ∃ rule ∈ rules, evidence.AccountsFor arcs rule) ∧
        ((relations.map RawRelation.relationId).Nodup → ∀ evidence ∈ reports, ∀ rule,
          rule ∈ rules ∧ rule.sourceRelationId = evidence.sourceRelationId ↔
            evidence.AccountsFor arcs rule) := by
  set imported := buildRestrictions relations arcs includedWayIds profile
  have hrules (rule : TransitionRule) :
      rule ∈ imported.1 ↔ ∃ evidence ∈ imported.2, evidence.AccountsFor arcs rule := by
    rw [mem_imported_rules]
    constructor
    · intro ⟨relation, hmem, hrestriction, haccounts⟩
      exact ⟨_, (mem_imported_evidence ..).mpr ⟨relation, hmem, hrestriction, rfl⟩, haccounts⟩
    · intro ⟨evidence, hevidence, haccounts⟩
      obtain ⟨relation, hmem, hrestriction, rfl⟩ := (mem_imported_evidence ..).mp hevidence
      exact ⟨relation, hmem, hrestriction, haccounts⟩
  refine ⟨?_, ?_, hrules, ?_, ?_⟩
  · intro relation hmem hrestriction
    exact ⟨_, (mem_imported_evidence ..).mpr ⟨relation, hmem, hrestriction, rfl⟩,
      evidenceFor_reports arcs includedWayIds profile relation⟩
  · intro evidence hevidence
    obtain ⟨relation, hmem, hrestriction, rfl⟩ := (mem_imported_evidence ..).mp hevidence
    exact ⟨relation, hmem, hrestriction, evidenceFor_reports arcs includedWayIds profile relation⟩
  · intro evidence hevidence happlied
    obtain ⟨relation, hmem, hrestriction, rfl⟩ := (mem_imported_evidence ..).mp hevidence
    obtain ⟨hsimple, rule, haccounts⟩ := evidenceFor_applied arcs includedWayIds profile happlied
    simp only [simpleMemberContract, decide_eq_true_eq] at hsimple
    obtain ⟨hfrom, hto, hvia, hviaWay⟩ := hsimple
    exact ⟨hfrom, hto, hvia, hviaWay, rule, (hrules rule).mpr ⟨_, hevidence, haccounts⟩, haccounts⟩
  · intro hunique evidence hevidence rule
    constructor
    · intro ⟨hrule, hid⟩
      obtain ⟨other, hother, haccounts⟩ := (hrules rule).mp hrule
      have hsame : other.sourceRelationId = evidence.sourceRelationId := by
        rw [← haccounts.1, hid]
      rw [evidence_unique _ _ _ _ hunique hother hevidence hsame] at haccounts
      exact haccounts
    · intro haccounts
      exact ⟨(hrules rule).mpr ⟨evidence, hevidence, haccounts⟩, haccounts.1⟩

end Import

end CartoSentry.RoadGraph
