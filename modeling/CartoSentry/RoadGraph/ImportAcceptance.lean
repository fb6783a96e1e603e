import CartoSentry.RoadGraph.ArcRefinement
import CartoSentry.RoadGraph.Coordinates
import CartoSentry.RoadGraph.GraphImport
import CartoSentry.RoadGraph.RestrictionSoundness

set_option autoImplicit false

/-!
# Road graph: what the import accepts

A graph that the import builds passes the validator, unless two of its arcs have one identity.
-/

namespace CartoSentry.RoadGraph

open Foundation
open Foundation.Contraction (Piece)

/-! ## Keys of built lists -/

/-- Lists built from inputs with distinct keys, which the results carry on, have distinct keys. -/
theorem nodup_map_flatten_of_mapM_eq_ok {E A B K L : Type} {f : A → Except E (List B)}
    {as : List A} {bss : List (List B)} {key : A → K} {key' : B → L} (h : as.mapM f = .ok bss)
    (hkeys : (as.map key).Nodup)
    (hinner : ∀ a ∈ as, ∀ bs, f a = .ok bs → (bs.map key').Nodup)
    (hcarried : ∀ a ∈ as, ∀ a' ∈ as, ∀ bs bs', f a = .ok bs → f a' = .ok bs' → ∀ b ∈ bs,
      ∀ b' ∈ bs', key' b = key' b' → key a = key a') :
    (bss.flatten.map key').Nodup := by
  induction as generalizing bss with
  | nil =>
    obtain rfl := Except.ok.inj h
    exact List.nodup_nil
  | cons a rest ih =>
    rw [List.mapM_cons] at h
    obtain ⟨first, hfirst, h⟩ := bind_eq_ok_iff.mp h
    obtain ⟨later, hlater, h⟩ := bind_eq_ok_iff.mp h
    obtain rfl := Except.ok.inj h
    rw [List.map_cons, List.nodup_cons] at hkeys
    rw [List.flatten_cons, List.map_append, List.nodup_append]
    refine ⟨hinner a List.mem_cons_self first hfirst, ?_, ?_⟩
    · exact ih hlater hkeys.2 (fun a ha => hinner a (List.mem_cons_of_mem _ ha))
        fun a ha a' ha' => hcarried a (List.mem_cons_of_mem _ ha) a' (List.mem_cons_of_mem _ ha')
    · rintro k hk k' hk' rfl
      obtain ⟨b, hb, rfl⟩ := List.mem_map.mp hk
      obtain ⟨b', hb', hsame⟩ := List.mem_map.mp hk'
      obtain ⟨a', ha', bs', hok, hmem⟩ := (mem_flatten_of_mapM_eq_ok hlater).mp hb'
      have hkey := hcarried a List.mem_cons_self a' (List.mem_cons_of_mem _ ha') first bs' hfirst
        hok b hb b' hmem hsame.symm
      exact hkeys.1 (hkey ▸ List.mem_map_of_mem ha')

/-! ## Identities of arcs -/

section Built

variable {survey : ArcSurvey} {profile : GraphImportProfile} {included : List IncludedWay}
  {viaNodes : List OsmId} {nodes : List RoadNode} {arcs : List DirectedRoadArc}

/-- What an arc is told apart by. -/
def arcKey (arc : DirectedRoadArc) : OsmId × Nat × ArcDirection :=
  (arc.sourceWayId, arc.sourceChainIndex, arc.direction)

theorem nodup_directions (item : IncludedWay) : item.directions.Nodup := by
  unfold IncludedWay.directions
  cases item.forward <;> cases item.reverse <;> decide

theorem nodup_chain_indices (item : IncludedWay) (isCut : OsmId → Bool) :
    ((item.chains isCut).map Chain.index).Nodup := by
  have hplaces : (neighbours (item.splitPositions isCut)).zipIdx.Pairwise
      fun entry entry' => entry.2 ≠ entry'.2 := by
    have hrange := List.nodup_range' (s := 0) (n := (neighbours (item.splitPositions isCut)).length)
    rw [← List.zipIdx_map_snd] at hrange
    exact List.pairwise_map.mp hrange
  refine List.pairwise_map.mpr (List.pairwise_filterMap.mpr (hplaces.imp ?_))
  intro entry entry' hne chain hchain chain' hchain'
  rw [(chain_eq_some_iff.mp hchain).2.2.1, (chain_eq_some_iff.mp hchain').2.2.1]
  exact hne

theorem wayId_of_mem_chains {item : IncludedWay} {isCut : OsmId → Bool} {chain : Chain}
    (h : chain ∈ item.chains isCut) : chain.wayId = item.raw.wayId := by
  obtain ⟨_, _, -, hsome⟩ := mem_chains_iff.mp h
  exact (chain_eq_some_iff.mp hsome).2.1

theorem CutFrom.key {item : IncludedWay} {chain : Chain} {arc : DirectedRoadArc}
    (h : CutFrom survey profile item chain arc) :
    ∃ direction ∈ item.directions, arcKey arc = (chain.wayId, chain.index, direction) := by
  obtain ⟨-, direction, hdirection, rfl⟩ := h
  exact ⟨direction, hdirection, rfl⟩

theorem nodup_chainArcs {item : IncludedWay} {chain : Chain} {built : List DirectedRoadArc}
    (h : chainArcs survey profile item chain = .ok built) : (built.map arcKey).Nodup := by
  unfold chainArcs at h
  split_ifs at h
  · obtain rfl := Except.ok.inj h
    exact List.nodup_nil
  · obtain rfl := Except.ok.inj h
    rw [List.map_map]
    refine (nodup_directions item).map fun direction direction' hsame => ?_
    exact congrArg (fun key : OsmId × Nat × ArcDirection => key.2.2) hsame

theorem nodup_wayArcs {item : IncludedWay} {built : List DirectedRoadArc}
    (h : wayArcs survey profile included viaNodes item = .ok built) :
    (built.map arcKey).Nodup := by
  obtain ⟨chained, hchained, hbuilt⟩ := bind_eq_ok_iff.mp h
  obtain rfl := Except.ok.inj hbuilt
  refine nodup_map_flatten_of_mapM_eq_ok hchained (nodup_chain_indices item _)
    (fun chain _ cut hcut => nodup_chainArcs hcut) ?_
  intro chain _ chain' _ cut cut' hcut hcut' arc harc arc' harc' hsame
  obtain ⟨_, -, hkey⟩ := ((mem_chainArcs_iff hcut).mp harc).key
  obtain ⟨_, -, hkey'⟩ := ((mem_chainArcs_iff hcut').mp harc').key
  rw [hkey, hkey'] at hsame
  exact congrArg (fun key : OsmId × Nat × ArcDirection => key.2.1) hsame

theorem nodup_arcKeys (h : buildArcs survey profile included viaNodes = .ok (nodes, arcs))
    (hids : (included.map fun item => item.raw.wayId).Nodup) : (arcs.map arcKey).Nodup := by
  obtain ⟨built, hmap, hbuilt⟩ := bind_eq_ok_iff.mp h
  obtain rfl := congrArg Prod.snd (Except.ok.inj hbuilt)
  rw [((List.perm_insertionSort _ built.flatten).map arcKey).nodup_iff]
  refine nodup_map_flatten_of_mapM_eq_ok hmap
    (((List.perm_insertionSort _ included).map _).nodup_iff.mpr hids)
    (fun item _ cut hcut => nodup_wayArcs hcut) ?_
  intro item _ item' _ cut cut' hcut hcut' arc harc arc' harc' hsame
  obtain ⟨chain, hchain, hcutFrom⟩ := (mem_wayArcs_iff hcut).mp harc
  obtain ⟨chain', hchain', hcutFrom'⟩ := (mem_wayArcs_iff hcut').mp harc'
  obtain ⟨_, -, hkey⟩ := hcutFrom.key
  obtain ⟨_, -, hkey'⟩ := hcutFrom'.key
  rw [hkey, hkey', wayId_of_mem_chains hchain, wayId_of_mem_chains hchain'] at hsame
  exact congrArg Prod.fst hsame

/-- Arcs with one identity have one key. -/
def IdsApart (arcs : List DirectedRoadArc) : Prop :=
  ∀ arc ∈ arcs, ∀ arc' ∈ arcs, arc.arcId = arc'.arcId → arcKey arc = arcKey arc'

theorem nodup_arcIds_iff (h : buildArcs survey profile included viaNodes = .ok (nodes, arcs))
    (hids : (included.map fun item => item.raw.wayId).Nodup) :
    (arcs.map DirectedRoadArc.arcId).Nodup ↔ IdsApart arcs := by
  have hkeys := nodup_arcKeys h hids
  constructor
  · intro hnodup arc harc arc' harc' hsame
    rw [List.inj_on_of_nodup_map hnodup harc harc' hsame]
  · intro hapart
    refine hkeys.of_map.map_on fun arc harc arc' harc' hsame => ?_
    exact List.inj_on_of_nodup_map hkeys harc harc' (hapart arc harc arc' harc' hsame)

/-! ## When arcs are built -/

/-- A chain of an included way that is long enough, in a direction of the way. -/
structure KeptChain (survey : ArcSurvey) (profile : GraphImportProfile)
    (included : List IncludedWay) (viaNodes : List OsmId) (item : IncludedWay) (chain : Chain)
    (direction : ArcDirection) : Prop where
  isIncluded : item ∈ included
  isCut : chain ∈ item.chains (isTopology included viaNodes)
  isAllowed : direction ∈ item.directions
  long : profile.minimumArcLength ≤ chain.length survey

theorem mem_arcs_iff_keptChain
    (h : buildArcs survey profile included viaNodes = .ok (nodes, arcs)) {arc : DirectedRoadArc} :
    arc ∈ arcs ↔ ∃ item chain direction,
      ∃ hkept : KeptChain survey profile included viaNodes item chain direction,
        arc = chain.arc survey profile (length_pos_of_not_lt survey profile (not_lt.mpr hkept.long))
          direction := by
  rw [mem_buildArcs_iff h]
  constructor
  · rintro ⟨item, hitem, chain, hchain, hlong, direction, hdirection, rfl⟩
    exact ⟨item, chain, direction, ⟨hitem, hchain, hdirection, not_lt.mp hlong⟩, rfl⟩
  · rintro ⟨item, chain, direction, hkept, rfl⟩
    exact ⟨item, hkept.isIncluded, chain, hkept.isCut, not_lt.mpr hkept.long, direction,
      hkept.isAllowed, rfl⟩

/-- No chain has more points than an arc may have. -/
def PointsWithin (profile : GraphImportProfile) (included : List IncludedWay)
    (viaNodes : List OsmId) : Prop :=
  ∀ item ∈ included, ∀ chain ∈ item.chains (isTopology included viaNodes),
    chain.nodeIds.length ≤ profile.maximumGeometryPointsPerArc

theorem exists_mapM_eq_ok_iff {E A B : Type} {f : A → Except E B} {as : List A} :
    (∃ bs, as.mapM f = .ok bs) ↔ ∀ a ∈ as, ∃ b, f a = .ok b := by
  constructor
  · rintro ⟨bs, hbs⟩ a ha
    obtain ⟨b, -, hb⟩ := mem_of_mapM_eq_ok hbs ha
    exact ⟨b, hb⟩
  · exact exists_mapM_eq_ok

theorem exists_bind_pure_iff {E A B : Type} {x : Except E A} {f : A → B} :
    (∃ b, (x >>= fun a => (Except.ok (f a) : Except E B)) = .ok b) ↔ ∃ a, x = .ok a := by
  cases x <;> simp [bind, Except.bind]

theorem exists_chainArcs_iff {item : IncludedWay} {chain : Chain} :
    (∃ built, chainArcs survey profile item chain = .ok built) ↔
      chain.nodeIds.length ≤ profile.maximumGeometryPointsPerArc := by
  unfold chainArcs
  split_ifs with hpoints hshort
  · exact iff_of_false (fun h => by obtain ⟨_, h⟩ := h; cases h) (not_le.mpr hpoints)
  · exact iff_of_true ⟨_, rfl⟩ (not_lt.mp hpoints)
  · exact iff_of_true ⟨_, rfl⟩ (not_lt.mp hpoints)

theorem exists_buildArcs_iff :
    (∃ built, buildArcs survey profile included viaNodes = .ok built) ↔
      PointsWithin profile included viaNodes := by
  have hway : ∀ item, (∃ built, wayArcs survey profile included viaNodes item = .ok built) ↔
      ∀ chain ∈ item.chains (isTopology included viaNodes),
        chain.nodeIds.length ≤ profile.maximumGeometryPointsPerArc := by
    intro item
    refine exists_bind_pure_iff.trans (exists_mapM_eq_ok_iff.trans ?_)
    exact forall₂_congr fun chain _ => exists_chainArcs_iff
  refine exists_bind_pure_iff.trans (exists_mapM_eq_ok_iff.trans ?_)
  simp only [List.mem_insertionSort, hway]
  rfl

/-! ## The validator -/

theorem nodup_roadNodeIds : ((roadNodes survey included viaNodes).map RoadNode.nodeId).Nodup := by
  rw [roadNodes, List.map_map]
  refine List.Nodup.map nodeName_injective ?_
  rw [(List.perm_insertionSort _ _).nodup_iff]
  exact (List.nodup_dedup _).filter _

theorem exists_roadNode_of_stop {path : List OsmId} {u v nodeId : OsmId}
    (hpiece : Piece (streetLines included) (IsStop included viaNodes) path u v)
    (hmem : nodeId ∈ path) (hstop : IsStop included viaNodes nodeId) :
    nodeName nodeId ∈ (roadNodes survey included viaNodes).map RoadNode.nodeId := by
  obtain ⟨line, ⟨item, hitem, direction, -, rfl⟩, hpart⟩ := hpiece.onLine
  have hnode : nodeId ∈ item.raw.nodeIds := mem_order.mp (hpart.subset hmem)
  exact List.mem_map.mpr ⟨roadNode survey nodeId,
    mem_roadNodes_iff.mpr ⟨item, hitem, nodeId, hnode, hstop, rfl⟩, rfl⟩

/-- Both ends of an arc are road nodes. -/
theorem ends_mem_nodes (h : buildArcs survey profile included viaNodes = .ok (nodes, arcs))
    {arc : DirectedRoadArc} (harc : arc ∈ arcs) :
    arc.fromNodeId ∈ nodes.map RoadNode.nodeId ∧ arc.toNodeId ∈ nodes.map RoadNode.nodeId := by
  obtain ⟨u, v, hpiece⟩ := piece_of_mem_arcs h harc
  obtain ⟨hfrom, hto⟩ := endpoints_of_piece hpiece
  rw [hfrom, hto, buildArcs_nodes h]
  exact ⟨exists_roadNode_of_stop hpiece (List.mem_of_head? hpiece.head?) hpiece.starts,
    exists_roadNode_of_stop hpiece (List.mem_of_getLast? hpiece.getLast?) hpiece.ends⟩

theorem arcIds_sorted (h : buildArcs survey profile included viaNodes = .ok (nodes, arcs)) :
    (arcs.map DirectedRoadArc.arcId).insertionSort (· ≤ ·) = arcs.map DirectedRoadArc.arcId := by
  obtain ⟨built, hmap, hbuilt⟩ := bind_eq_ok_iff.mp h
  obtain rfl := congrArg Prod.snd (Except.ok.inj hbuilt)
  refine List.Pairwise.insertionSort_eq (List.pairwise_map.mpr ?_)
  exact List.pairwise_insertionSort _ _

end Built

theorem nodup_insertRule {rules : List TransitionRule} (h : rules.Nodup) (rule : TransitionRule) :
    (insertRule rules rule).Nodup := by
  unfold insertRule
  split_ifs with hmem
  · exact h
  · rw [← List.concat_eq_append]
    exact h.concat hmem

theorem nodup_foldl_insertRule {added rules : List TransitionRule} (h : rules.Nodup) :
    (added.foldl insertRule rules).Nodup := by
  induction added generalizing rules with
  | nil => exact h
  | cons rule rest ih => exact ih (nodup_insertRule h rule)

theorem nodup_imported_rules (relations : List RawRelation) (arcs : List DirectedRoadArc)
    (includedWayIds : List OsmId) (profile : TurnRestrictionProfile) :
    (buildRestrictions relations arcs includedWayIds profile).1.Nodup := by
  have hfold : ∀ (ordered : List RawRelation) (rules : List TransitionRule), rules.Nodup →
      (ordered.foldl (fun rules relation =>
        (interpretRelation arcs profile includedWayIds relation).2.foldl insertRule rules)
        rules).Nodup := by
    intro ordered
    induction ordered with
    | nil => exact fun _ h => h
    | cons relation rest ih => exact fun _ h => ih _ (nodup_foldl_insertRule h)
  rw [buildRestrictions, (List.perm_insertionSort _ _).nodup_iff]
  exact hfold _ _ List.nodup_nil

theorem nodup_reported_relations {relations : List RawRelation} (arcs : List DirectedRoadArc)
    (includedWayIds : List OsmId) (profile : TurnRestrictionProfile)
    (hunique : (relations.map RawRelation.relationId).Nodup) :
    ((buildRestrictions relations arcs includedWayIds profile).2.map
      TurnRestrictionEvidence.sourceRelationId).Nodup := by
  have hreported : (buildRestrictions relations arcs includedWayIds profile).2.map
      TurnRestrictionEvidence.sourceRelationId =
        (restrictionRelations profile relations).map RawRelation.relationId := by
    rw [buildRestrictions, List.map_map]
    rfl
  rw [hreported]
  refine List.Nodup.sublist (List.Sublist.map _ List.filter_sublist) ?_
  exact ((List.perm_insertionSort _ relations).map _).nodup_iff.mpr hunique

section Graph

variable {unicode : UnicodeNumerals} {survey : ArcSurvey} {profile : GraphImportProfile}
  {extract : OsmExtract} {nodes : List RoadNode} {arcs : List DirectedRoadArc}

theorem mem_includedWays {item : IncludedWay} : item ∈ includedWays unicode profile extract ↔
    ∃ way ∈ extract.ways, includeWay unicode profile way = .ok item := by
  rw [includedWays, List.mem_filterMap]
  refine exists_congr fun way => and_congr_right fun _ => ?_
  cases includeWay unicode profile way <;> simp [Except.toOption]

theorem nodup_includedWayIds :
    ((includedWays unicode profile extract).map fun item => item.raw.wayId).Nodup := by
  refine List.pairwise_map.mpr (List.pairwise_filterMap.mpr ?_)
  refine (List.pairwise_map.mp extract.wayIdsUnique).imp ?_
  intro way way' hne item hitem item' hitem'
  rw [includeWay_raw unicode profile (eq_ok_of_toOption hitem),
    includeWay_raw unicode profile (eq_ok_of_toOption hitem')]
  exact hne

theorem counted_graphOf : (graphOf unicode profile extract nodes arcs).Counted := by
  refine ⟨rfl, rfl, rfl, rfl, rfl, ?_⟩
  have hle : (includedWays unicode profile extract).length ≤ extract.ways.length :=
    List.length_filterMap_le _ _
  exact Nat.add_sub_cancel' hle

/-- The rules of an import name arcs of it. -/
theorem rules_mem_arcs : ∀ rule ∈ (graphOf unicode profile extract nodes arcs).transitionRules,
    rule.fromArcId ∈ arcs.map DirectedRoadArc.arcId ∧
      rule.toArcId ∈ arcs.map DirectedRoadArc.arcId := by
  intro rule hrule
  obtain ⟨relation, -, -, -, fromArc, hfrom, toArc, hto, hfromId, htoId, -⟩ :=
    (mem_imported_rules ..).mp hrule
  rw [hfromId, htoId]
  exact ⟨List.mem_map_of_mem hfrom, List.mem_map_of_mem hto⟩

/-- The graph of an import is valid if and only if no two arcs share an identity. -/
theorem validateGraph_graphOf (h : buildArcs survey profile (includedWays unicode profile extract)
      (restrictionViaNodes profile extract) = .ok (nodes, arcs)) :
    (graphOf unicode profile extract nodes arcs).validateGraph = .ok () ↔
      (arcs.map DirectedRoadArc.arcId).Nodup := by
  rw [RoadGraphContent.validateGraph_eq_ok_iff]
  refine ⟨fun hvalid => hvalid.arcIdsUnique, fun harcs => ?_⟩
  have hnodes : (nodes.map RoadNode.nodeId).Nodup := by
    rw [buildArcs_nodes h]
    exact nodup_roadNodeIds
  exact {
    nodeIdsUnique := hnodes
    arcIdsUnique := harcs
    ends := fun arc harc => ends_mem_nodes h harc
    rules := rules_mem_arcs
    ordered := (arcIds_sorted h).symm
    reportsUnique := nodup_reported_relations _ _ _ extract.relationIdsUnique
    rulesUnique := nodup_imported_rules _ _ _ _
    counted := counted_graphOf }

/-! ## Acceptance -/

/-- When the import returns: no chain has too many points, some chain is long enough, and the
identities tell the kept chains apart. -/
structure Importable (unicode : UnicodeNumerals) (survey : ArcSurvey)
    (profile : GraphImportProfile) (extract : OsmExtract) : Prop where
  within : PointsWithin profile (includedWays unicode profile extract)
    (restrictionViaNodes profile extract)
  some : ∃ item chain direction, KeptChain survey profile (includedWays unicode profile extract)
    (restrictionViaNodes profile extract) item chain direction
  apart : ∀ item chain direction item' chain' direction',
    KeptChain survey profile (includedWays unicode profile extract)
      (restrictionViaNodes profile extract) item chain direction →
    KeptChain survey profile (includedWays unicode profile extract)
      (restrictionViaNodes profile extract) item' chain' direction' →
    arcId survey.sha256 profile.immutableSha256 chain.wayId chain.index direction
        (direction.order chain.nodeIds) =
      arcId survey.sha256 profile.immutableSha256 chain'.wayId chain'.index direction'
        (direction'.order chain'.nodeIds) →
    chain.wayId = chain'.wayId ∧ chain.index = chain'.index ∧ direction = direction'

theorem importRoadGraph_eq_ok_iff {graph : RoadGraphContent} :
    importRoadGraph unicode survey profile extract = .ok graph ↔ ∃ nodes arcs,
      buildArcs survey profile (includedWays unicode profile extract)
        (restrictionViaNodes profile extract) = .ok (nodes, arcs) ∧ arcs ≠ [] ∧
      (arcs.map DirectedRoadArc.arcId).Nodup ∧
        graphOf unicode profile extract nodes arcs = graph := by
  rw [importRoadGraph, bind_eq_ok_iff]
  constructor
  · rintro ⟨⟨nodes, arcs⟩, hbuilt, h⟩
    split_ifs at h with hempty
    obtain ⟨hvalid, hgraph⟩ := bind_unit_eq_ok_iff.mp h
    refine ⟨nodes, arcs, hbuilt, ?_, (validateGraph_graphOf hbuilt).mp hvalid,
      Except.ok.inj hgraph⟩
    rintro rfl
    exact hempty rfl
  · rintro ⟨nodes, arcs, hbuilt, hne, hnodup, rfl⟩
    refine ⟨(nodes, arcs), hbuilt, ?_⟩
    rw [if_neg (by simpa using hne)]
    exact bind_unit_eq_ok_iff.mpr ⟨(validateGraph_graphOf hbuilt).mpr hnodup, rfl⟩

theorem import_accepts_iff :
    (∃ graph, importRoadGraph unicode survey profile extract = .ok graph) ↔
      Importable unicode survey profile extract := by
  constructor
  · rintro ⟨graph, hgraph⟩
    obtain ⟨nodes, arcs, hbuilt, hne, hnodup, -⟩ := importRoadGraph_eq_ok_iff.mp hgraph
    have hapart := (nodup_arcIds_iff hbuilt nodup_includedWayIds).mp hnodup
    refine ⟨exists_buildArcs_iff.mp ⟨_, hbuilt⟩, ?_, ?_⟩
    · obtain ⟨arc, harc⟩ := List.exists_mem_of_ne_nil arcs hne
      obtain ⟨item, chain, direction, hkept, -⟩ := (mem_arcs_iff_keptChain hbuilt).mp harc
      exact ⟨item, chain, direction, hkept⟩
    · intro item chain direction item' chain' direction' hkept hkept' hsame
      have harc := (mem_arcs_iff_keptChain hbuilt).mpr ⟨item, chain, direction, hkept, rfl⟩
      have harc' := (mem_arcs_iff_keptChain hbuilt).mpr ⟨item', chain', direction', hkept', rfl⟩
      have hkey := hapart _ harc _ harc' hsame
      exact ⟨congrArg Prod.fst hkey, congrArg (fun key => key.2.1) hkey,
        congrArg (fun key => key.2.2) hkey⟩
  · intro h
    obtain ⟨⟨nodes, arcs⟩, hbuilt⟩ := exists_buildArcs_iff.mpr h.within
    have hapart : IdsApart arcs := by
      intro arc harc arc' harc' hsame
      obtain ⟨item, chain, direction, hkept, rfl⟩ := (mem_arcs_iff_keptChain hbuilt).mp harc
      obtain ⟨item', chain', direction', hkept', rfl⟩ := (mem_arcs_iff_keptChain hbuilt).mp harc'
      obtain ⟨hway, hindex, hdirection⟩ := h.apart _ _ _ _ _ _ hkept hkept' hsame
      exact Prod.ext hway (Prod.ext hindex hdirection)
    refine ⟨_, importRoadGraph_eq_ok_iff.mpr ⟨nodes, arcs, hbuilt, ?_,
      (nodup_arcIds_iff hbuilt nodup_includedWayIds).mpr hapart, rfl⟩⟩
    obtain ⟨item, chain, direction, hkept⟩ := h.some
    exact List.ne_nil_of_mem
      ((mem_arcs_iff_keptChain hbuilt).mpr ⟨item, chain, direction, hkept, rfl⟩)

/-! ## Accepted graphs -/

theorem length_filterMap_add {A B C : Type} {f : A → Option B} {g : A → Option C} (as : List A)
    (h : ∀ a ∈ as, (f a).isSome = !(g a).isSome) :
    (as.filterMap f).length + (as.filterMap g).length = as.length := by
  induction as with
  | nil => rfl
  | cons a rest ih =>
    have hrest := ih fun other hother => h other (List.mem_cons_of_mem _ hother)
    have hfirst := h a List.mem_cons_self
    rw [List.filterMap_cons, List.filterMap_cons, List.length_cons, ← hrest]
    cases hf : f a <;> cases hg : g a <;> simp [hf, hg] at hfirst ⊢ <;> omega

/-- Every way is included or has a reason. -/
theorem length_includedWays_add_reasons :
    (includedWays unicode profile extract).length +
      (exclusionReasons unicode profile extract).length = extract.ways.length := by
  refine length_filterMap_add _ fun way _ => ?_
  rw [Option.isSome_map, exclusionReason]
  cases includeWay unicode profile way <;> rfl

theorem sum_countReasons (reasons : List String) :
    ((countReasons reasons).map Prod.snd).sum = reasons.length := by
  rw [countReasons, List.map_map]
  have hperm := (List.perm_insertionSort (· ≤ ·) reasons.dedup).map
    fun reason => reasons.count reason
  exact hperm.sum_eq.trans (List.sum_map_count_dedup_eq_length reasons)

/-- A node inside an arc is no junction: one included way passes it, none ends there, and no
restriction turns there. -/
structure NoJunction (included : List IncludedWay) (viaNodes : List OsmId) (arc : DirectedRoadArc)
    (nodeId : OsmId) : Prop where
  notVia : nodeId ∉ viaNodes
  oneWay : ∀ item ∈ included, nodeId ∈ item.raw.nodeIds → item.raw.wayId = arc.sourceWayId
  noEnd : ∀ item ∈ included, item.raw.nodeIds.head? ≠ some nodeId ∧
    item.raw.nodeIds.getLast? ≠ some nodeId

theorem noJunction_of_inner {included : List IncludedWay} {viaNodes : List OsmId}
    (h : buildArcs survey profile included viaNodes = .ok (nodes, arcs))
    (hids : (included.map fun item => item.raw.wayId).Nodup) {arc : DirectedRoadArc}
    (harc : arc ∈ arcs) {nodeId : OsmId} (hinner : nodeId ∈ arc.innerNodeIds) :
    NoJunction included viaNodes arc nodeId := by
  have hflat : isTopology included viaNodes nodeId = false := by
    obtain ⟨u, v, hpiece⟩ := piece_of_mem_arcs h harc
    obtain ⟨middle, hshape, hmiddle⟩ := hpiece.shape
    rw [DirectedRoadArc.innerNodeIds, hshape, List.cons_append, List.tail_cons,
      List.dropLast_concat] at hinner
    exact Bool.eq_false_of_not_eq_true (hmiddle nodeId hinner)
  obtain ⟨item, hitem, chain, hchain, hkept, direction, -, rfl⟩ := (mem_buildArcs_iff h).mp harc
  have hmem : nodeId ∈ item.raw.nodeIds := by
    obtain ⟨-, a, b, hpiece⟩ := piece_of_mem_chains (endsCut_isTopology hitem) hchain
    obtain ⟨line, hline, hpart⟩ := hpiece.onLine
    rw [← Set.mem_singleton_iff.mp hline]
    exact hpart.subset (mem_order.mp (List.mem_of_mem_tail (List.mem_of_mem_dropLast hinner)))
  constructor
  · intro hvia
    rw [isTopology, decide_eq_true hvia, Bool.or_true, Bool.true_or] at hflat
    cases hflat
  · intro other hother hmem'
    rw [eq_of_meet hids hflat hother hitem hmem' hmem]
    exact (wayId_of_mem_chains hchain).symm
  · intro other hother
    rw [isTopology, Bool.or_eq_false_iff] at hflat
    have hends := List.any_eq_false.mp hflat.2 other hother
    simpa [not_or] using hends

/-- An imported graph is valid, its statistics account for every way once, and no arc of it passes
a junction inside. -/
theorem imported_graph_accounts {graph : RoadGraphContent}
    (h : importRoadGraph unicode survey profile extract = .ok graph) :
    graph.Valid ∧
      graph.statistics.includedWayCount +
        (graph.statistics.exclusionReasonCounts.map Prod.snd).sum = extract.ways.length ∧
      ∀ arc ∈ graph.arcs, ∀ nodeId ∈ arc.innerNodeIds,
        NoJunction (includedWays unicode profile extract) (restrictionViaNodes profile extract) arc
          nodeId := by
  obtain ⟨nodes, arcs, hbuilt, -, hnodup, rfl⟩ := importRoadGraph_eq_ok_iff.mp h
  refine ⟨(RoadGraphContent.validateGraph_eq_ok_iff _).mp
    ((validateGraph_graphOf hbuilt).mpr hnodup), ?_, ?_⟩
  · change _ + ((countReasons (exclusionReasons unicode profile extract)).map Prod.snd).sum = _
    rw [sum_countReasons]
    exact length_includedWays_add_reasons
  · intro arc harc nodeId hinner
    exact noJunction_of_inner hbuilt nodup_includedWayIds harc hinner

end Graph

/-! ## A street with a footway -/

namespace Footway

theorem footway_unique : ([("highway", "footway")].map Prod.fst).Nodup := by
  decide

theorem footway_nonempty : ∀ entry ∈ [("highway", "footway")], entry.1 ≠ "" := by
  decide

/-- A one-way street, and a footway that leaves it in the middle. -/
def ways : List RawWay :=
  [⟨10, [1, 2, 3], SideStreet.oneway⟩, ⟨11, [2, 4], ⟨_, footway_unique, footway_nonempty⟩⟩]

theorem wayIds_unique : (ways.map RawWay.wayId).Nodup := by
  decide

theorem nodes_available : ∀ way ∈ ways, ∀ nodeId ∈ way.nodeIds, nodeId ∈ [1, 2, 3, 4] := by
  decide

theorem nodeIds_unique : [1, 2, 3, 4].Nodup := by
  decide

def extract : OsmExtract where
  nodeIds := [1, 2, 3, 4]
  ways := ways
  relations := []
  nodeIdsUnique := nodeIds_unique
  wayIdsUnique := wayIds_unique
  relationIdsUnique := List.nodup_nil
  nodesAvailable := nodes_available

theorem imported_graph_accounts_footway :
    ∃ graph, importRoadGraph asciiNumerals SideStreet.survey graphImportV1 extract = .ok graph ∧
      graph.Valid ∧
      graph.statistics.includedWayCount +
        (graph.statistics.exclusionReasonCounts.map Prod.snd).sum = 2 := by
  have hsingle : (buildArcs SideStreet.survey graphImportV1
      (includedWays asciiNumerals graphImportV1 extract)
      (restrictionViaNodes graphImportV1 extract)).toOption.map (fun built => built.2.length) =
        some 1 := by
    decide +kernel
  obtain ⟨⟨nodes, arcs⟩, hbuilt, hlength⟩ := Option.map_eq_some_iff.mp hsingle
  obtain ⟨arc, rfl⟩ := List.length_eq_one_iff.mp hlength
  have h := importRoadGraph_eq_ok_iff.mpr ⟨nodes, _, eq_ok_of_toOption hbuilt,
    List.cons_ne_nil _ _, List.nodup_singleton _, rfl⟩
  obtain ⟨hvalid, hcounted, -⟩ := imported_graph_accounts h
  exact ⟨_, h, hvalid, hcounted⟩

end Footway

end CartoSentry.RoadGraph
