import CartoSentry.Foundation.Contraction
import CartoSentry.Foundation.Outcome
import CartoSentry.Foundation.Sha256
import CartoSentry.RoadGraph.Arcs

set_option autoImplicit false

/-!
# Road graph: the arcs refine the ways

The included ways as lines that are travelled step by step, the arcs as their pieces between
topology nodes.  Routes over arcs are travel along ways; where no way passes an inner node twice
and no chain is dropped, travel along ways is matched by routes over arcs that are no longer.
-/

namespace CartoSentry.RoadGraph

open Foundation
open Foundation.Contraction

/-! ## Membership -/

theorem mem_flatten_of_mapM_eq_ok {E A B : Type} {f : A → Except E (List B)} {as : List A}
    {bss : List (List B)} (h : as.mapM f = .ok bss) {b : B} :
    b ∈ bss.flatten ↔ ∃ a ∈ as, ∃ bs, f a = .ok bs ∧ b ∈ bs := by
  rw [List.mem_flatten]
  constructor
  · rintro ⟨bs, hbs, hb⟩
    obtain ⟨a, ha, hok⟩ := exists_left_of_mem (forall₂_of_mapM_eq_ok h) hbs
    exact ⟨a, ha, bs, hok, hb⟩
  · rintro ⟨a, ha, bs, hok, hb⟩
    obtain ⟨bs', hbs', hok'⟩ := mem_of_mapM_eq_ok h ha
    obtain rfl := Except.ok.inj (hok.symm.trans hok')
    exact ⟨bs, hbs', hb⟩

theorem eq_of_mem_of_length_le_one {A : Type} {l : List A} {a b : A} (h : l.length ≤ 1)
    (ha : a ∈ l) (hb : b ∈ l) : a = b := by
  cases l with
  | nil => exact absurd ha List.not_mem_nil
  | cons first rest =>
    obtain rfl : rest = [] :=
      List.eq_nil_of_length_eq_zero (Nat.le_zero.mp (Nat.le_of_succ_le_succ h))
    exact (List.mem_singleton.mp ha).trans (List.mem_singleton.mp hb).symm

section Chains

variable {isCut : OsmId → Bool} {item : IncludedWay}

/-- The ends of a way are cut. -/
structure EndsCut (isCut : OsmId → Bool) (item : IncludedWay) : Prop where
  first : isCut (item.raw.nodeIds.get ⟨0, item.length_pos⟩) = true
  last : isCut (item.raw.nodeIds.get ⟨_, item.pred_length_lt⟩) = true

theorem mem_cutPositions {place : Fin item.raw.nodeIds.length} :
    place ∈ item.cutPositions isCut ↔ isCut (item.raw.nodeIds.get place) = true := by
  rw [IncludedWay.cutPositions, List.mem_filter]
  exact and_iff_right (List.mem_finRange place)

theorem cutPositions_sorted : (item.cutPositions isCut).Pairwise (· < ·) :=
  (List.pairwise_lt_finRange _).filter _

theorem splitPositions_eq (h : EndsCut isCut item) :
    item.splitPositions isCut = item.cutPositions isCut := by
  have hhead : (item.cutPositions isCut).head? = some ⟨0, item.length_pos⟩ :=
    head?_eq_some_of_least cutPositions_sorted (mem_cutPositions.mpr h.first)
      fun place _ => Nat.zero_le place.val
  have hlast : (item.cutPositions isCut).getLast? = some ⟨_, item.pred_length_lt⟩ :=
    getLast?_eq_some_of_greatest cutPositions_sorted (mem_cutPositions.mpr h.last)
      fun place _ => Nat.le_sub_one_of_lt place.isLt
  simp only [IncludedWay.splitPositions, hhead, hlast, if_true]

theorem mem_chains_iff {chain : Chain} :
    chain ∈ item.chains isCut ↔ ∃ index ends,
      (neighbours (item.splitPositions isCut))[index]? = some ends ∧
        item.chain index ends = some chain := by
  rw [IncludedWay.chains, List.mem_filterMap]
  constructor
  · rintro ⟨⟨ends, index⟩, hmem, hchain⟩
    exact ⟨index, ends, List.mem_zipIdx_iff_getElem?.mp hmem, hchain⟩
  · rintro ⟨index, ends, hget, hchain⟩
    exact ⟨⟨ends, index⟩, List.mem_zipIdx_iff_getElem?.mpr hget, hchain⟩

theorem chain_eq_some_iff {index : Nat}
    {ends : Fin item.raw.nodeIds.length × Fin item.raw.nodeIds.length} {chain : Chain} : item.chain index ends = some chain ↔ ends.1 < ends.2 ∧
      chain.wayId = item.raw.wayId ∧ chain.index = index ∧
        chain.nodeIds = between item.raw.nodeIds ends.1 ends.2 := by
  unfold IncludedWay.chain
  split
  · rename_i hlt
    rw [Option.some_inj]
    constructor
    · rintro rfl
      exact ⟨hlt, rfl, rfl, rfl⟩
    · rintro ⟨-, hway, hindex, hnodes⟩
      cases chain
      simp only at hway hindex hnodes
      subst hway hindex hnodes
      rfl
  · rename_i hlt
    exact iff_of_false (by simp) fun h => hlt h.1

theorem get_eq_getElem? {nodeIds : List OsmId} (place : Fin nodeIds.length) :
    nodeIds[place.val]? = some (nodeIds.get place) :=
  List.getElem?_eq_getElem place.isLt

/-- A chain is a piece of its way. -/
theorem piece_of_mem_chains (h : EndsCut isCut item) {chain : Chain}
    (hchain : chain ∈ item.chains isCut) :
    chain.wayId = item.raw.wayId ∧
      ∃ a b, Piece {item.raw.nodeIds} (fun place => isCut place = true) chain.nodeIds a b := by
  obtain ⟨index, ends, hget, hsome⟩ := mem_chains_iff.mp hchain
  obtain ⟨hlt, hway, -, hnodes⟩ := chain_eq_some_iff.mp hsome
  rw [splitPositions_eq h] at hget
  obtain ⟨hstart, hstop, -, hnone⟩ :=
    (mem_neighbours_iff cutPositions_sorted).mp (List.mem_of_getElem? hget)
  obtain ⟨middle, hbetween, hinner⟩ := between_eq_cons_append (l := item.raw.nodeIds) hlt
    (get_eq_getElem? ends.1) (get_eq_getElem? ends.2)
  refine ⟨hway, _, _, ⟨_, rfl, hnodes ▸ between_infix _ _⟩, ⟨middle, hnodes.trans hbetween, ?_⟩,
    mem_cutPositions.mp hstart, mem_cutPositions.mp hstop⟩
  intro inner hmem hcut
  obtain ⟨place, hafter, hbefore, hplace⟩ := hinner inner hmem
  obtain ⟨hlength, rfl⟩ := List.getElem?_eq_some_iff.mp hplace
  exact hnone ⟨place, hlength⟩ (mem_cutPositions.mpr hcut) ⟨hafter, hbefore⟩

/-- A piece of a way is one of its chains. -/
theorem exists_chain_of_piece (h : EndsCut isCut item) {path : List OsmId} {a b : OsmId}
    (hpiece : Piece {item.raw.nodeIds} (fun place => isCut place = true) path a b) :
    ∃ chain ∈ item.chains isCut, chain.nodeIds = path := by
  obtain ⟨line, hline, front, back, happend⟩ := hpiece.onLine
  obtain rfl := Set.mem_singleton_iff.mp hline
  obtain ⟨middle, rfl, hmiddle⟩ := hpiece.shape
  have hstart := getElem?_start happend.symm
  have hstop := getElem?_stop happend.symm
  obtain ⟨hstartLt, hstartGet⟩ := List.getElem?_eq_some_iff.mp hstart
  obtain ⟨hstopLt, hstopGet⟩ := List.getElem?_eq_some_iff.mp hstop
  let ends : Fin item.raw.nodeIds.length × Fin item.raw.nodeIds.length :=
    (⟨_, hstartLt⟩, ⟨_, hstopLt⟩)
  have hlt : ends.1 < ends.2 := by
    change front.length < front.length + middle.length + 1
    omega
  have hmem : ends ∈ neighbours (item.splitPositions isCut) := by
    rw [splitPositions_eq h]
    refine (mem_neighbours_iff cutPositions_sorted).mpr ⟨mem_cutPositions.mpr ?_,
      mem_cutPositions.mpr ?_, hlt, fun place hplace hbetween => ?_⟩
    · rw [List.get_eq_getElem, hstartGet]
      exact hpiece.starts
    · rw [List.get_eq_getElem, hstopGet]
      exact hpiece.ends
    · refine hmiddle _ ?_ (mem_cutPositions.mp hplace)
      exact mem_middle_of_getElem? happend.symm hbetween.1 hbetween.2 (get_eq_getElem? place)
  obtain ⟨index, hindex⟩ := List.mem_iff_getElem?.mp hmem
  refine ⟨⟨item.raw.wayId, index, _, two_le_length_between hlt⟩,
    mem_chains_iff.mpr ⟨index, ends, hindex, chain_eq_some_iff.mpr ⟨hlt, rfl, rfl, rfl⟩⟩, ?_⟩
  exact between_eq_part happend.symm

end Chains

/-! ## The arcs that are built -/

section Built

variable {survey : ArcSurvey} {profile : GraphImportProfile} {included : List IncludedWay}
  {viaNodes : List OsmId} {nodes : List RoadNode} {arcs : List DirectedRoadArc}

theorem endsCut_isTopology {item : IncludedWay} (hitem : item ∈ included) :
    EndsCut (isTopology included viaNodes) item := by
  have hend : ∀ nodeId, item.raw.nodeIds.head? = some nodeId ∨
      item.raw.nodeIds.getLast? = some nodeId → isTopology included viaNodes nodeId = true := by
    intro nodeId hnode
    have hway : isWayEnd included nodeId = true :=
      List.any_eq_true.mpr ⟨item, hitem, by simpa using hnode⟩
    rw [isTopology, hway, Bool.or_true]
  constructor
  · refine hend _ (.inl ?_)
    rw [List.head?_eq_getElem?, ← get_eq_getElem?]
  · refine hend _ (.inr ?_)
    rw [List.getLast?_eq_getElem?, ← get_eq_getElem?]

/-- The arc is cut from a chain of the way that is kept. -/
structure CutFrom (survey : ArcSurvey) (profile : GraphImportProfile) (item : IncludedWay)
    (chain : Chain) (arc : DirectedRoadArc) : Prop where
  kept : ¬ chain.length survey < profile.minimumArcLength
  arc_eq : ∃ direction ∈ item.directions,
    arc = chain.arc survey profile (length_pos_of_not_lt survey profile kept) direction

theorem mem_chainArcs_iff {item : IncludedWay} {chain : Chain} {built : List DirectedRoadArc}
    (h : chainArcs survey profile item chain = .ok built) {arc : DirectedRoadArc} :
    arc ∈ built ↔ CutFrom survey profile item chain arc := by
  unfold chainArcs at h
  split_ifs at h with hpoints hshort
  · obtain rfl := Except.ok.inj h
    exact iff_of_false List.not_mem_nil fun hcut => hcut.kept hshort
  · obtain rfl := Except.ok.inj h
    rw [List.mem_map]
    constructor
    · rintro ⟨direction, hdirection, rfl⟩
      exact ⟨hshort, direction, hdirection, rfl⟩
    · rintro ⟨-, direction, hdirection, rfl⟩
      exact ⟨direction, hdirection, rfl⟩

theorem mem_wayArcs_iff {item : IncludedWay} {built : List DirectedRoadArc}
    (h : wayArcs survey profile included viaNodes item = .ok built) {arc : DirectedRoadArc} :
    arc ∈ built ↔ ∃ chain ∈ item.chains (isTopology included viaNodes),
      CutFrom survey profile item chain arc := by
  obtain ⟨chained, hchained, hbuilt⟩ := bind_eq_ok_iff.mp h
  obtain rfl := Except.ok.inj hbuilt
  rw [mem_flatten_of_mapM_eq_ok hchained]
  constructor
  · rintro ⟨chain, hchain, cut, hcut, harc⟩
    exact ⟨chain, hchain, (mem_chainArcs_iff hcut).mp harc⟩
  · rintro ⟨chain, hchain, harc⟩
    obtain ⟨cut, -, hcut⟩ := mem_of_mapM_eq_ok hchained hchain
    exact ⟨chain, hchain, cut, hcut, (mem_chainArcs_iff hcut).mpr harc⟩

theorem buildArcs_nodes (h : buildArcs survey profile included viaNodes = .ok (nodes, arcs)) :
    nodes = roadNodes survey included viaNodes := by
  obtain ⟨built, -, hbuilt⟩ := bind_eq_ok_iff.mp h
  exact (congrArg Prod.fst (Except.ok.inj hbuilt)).symm

theorem mem_buildArcs_iff (h : buildArcs survey profile included viaNodes = .ok (nodes, arcs))
    {arc : DirectedRoadArc} :
    arc ∈ arcs ↔ ∃ item ∈ included, ∃ chain ∈ item.chains (isTopology included viaNodes),
      CutFrom survey profile item chain arc := by
  obtain ⟨built, hmap, hbuilt⟩ := bind_eq_ok_iff.mp h
  obtain rfl := congrArg Prod.snd (Except.ok.inj hbuilt)
  rw [List.mem_insertionSort, mem_flatten_of_mapM_eq_ok hmap]
  constructor
  · rintro ⟨item, hitem, cut, hcut, harc⟩
    exact ⟨item, (List.mem_insertionSort _).mp hitem, (mem_wayArcs_iff hcut).mp harc⟩
  · rintro ⟨item, hitem, harc⟩
    have hsorted := (List.mem_insertionSort fun left right : IncludedWay =>
      left.raw.wayId ≤ right.raw.wayId).mpr hitem
    obtain ⟨cut, -, hcut⟩ := mem_of_mapM_eq_ok hmap hsorted
    exact ⟨item, hsorted, cut, hcut, (mem_wayArcs_iff hcut).mpr harc⟩

theorem mem_roadNodes_iff {node : RoadNode} : node ∈ roadNodes survey included viaNodes ↔
    ∃ item ∈ included, ∃ nodeId ∈ item.raw.nodeIds,
      isTopology included viaNodes nodeId = true ∧ roadNode survey nodeId = node := by
  simp only [roadNodes, includedNodeIds, List.mem_map, List.mem_insertionSort, List.mem_filter,
    List.mem_dedup, List.mem_flatMap]
  constructor
  · rintro ⟨nodeId, ⟨⟨item, hitem, hmem⟩, hcut⟩, hnode⟩
    exact ⟨item, hitem, nodeId, hmem, hcut, hnode⟩
  · rintro ⟨item, hitem, nodeId, hmem, hcut, hnode⟩
    exact ⟨nodeId, ⟨⟨item, hitem, hmem⟩, hcut⟩, hnode⟩

end Built

/-! ## Streets and arcs -/

/-- The included ways as lines, in the directions that each allows. -/
def streetLines (included : List IncludedWay) : Set (List OsmId) :=
  { line | ∃ item ∈ included, ∃ direction ∈ item.directions,
    line = direction.order item.raw.nodeIds }

section Refinement

variable {K : Type} [AddCommMonoid K] {survey : ArcSurvey} {profile : GraphImportProfile}
  {included : List IncludedWay} {viaNodes : List OsmId} {nodes : List RoadNode}
  {arcs : List DirectedRoadArc}

/-- One arc, at the weight of its segments. -/
def ArcEdge (weight : OsmId → OsmId → K) (arcs : List DirectedRoadArc) (u v : OsmId) (k : K) :
    Prop :=
  ∃ arc ∈ arcs, arc.fromNodeId = nodeName u ∧ arc.toNodeId = nodeName v ∧
    k = pathWeight weight arc.sourceGeometryNodeIds

/-- The cut test of the import as a condition. -/
def IsStop (included : List IncludedWay) (viaNodes : List OsmId) (nodeId : OsmId) : Prop :=
  isTopology included viaNodes nodeId = true

theorem endpoints_of_piece {lines : Set (List OsmId)} {stop : OsmId → Prop} {arc : DirectedRoadArc}
    {u v : OsmId} (h : Piece lines stop arc.sourceGeometryNodeIds u v) :
    arc.fromNodeId = nodeName u ∧ arc.toNodeId = nodeName v := by
  have hfrom := arc.fromEndpoint
  have hto := arc.toEndpoint
  rw [h.head?] at hfrom
  rw [h.getLast?] at hto
  exact ⟨Option.some.inj hfrom, Option.some.inj hto⟩

/-- An arc is a piece of a street. -/
theorem piece_of_mem_arcs (h : buildArcs survey profile included viaNodes = .ok (nodes, arcs))
    {arc : DirectedRoadArc} (harc : arc ∈ arcs) : ∃ u v,
    Piece (streetLines included) (IsStop included viaNodes) arc.sourceGeometryNodeIds u v := by
  obtain ⟨item, hitem, chain, hchain, hkept, direction, hdirection, rfl⟩ :=
    (mem_buildArcs_iff h).mp harc
  obtain ⟨-, a, b, hpiece⟩ := piece_of_mem_chains (endsCut_isTopology hitem) hchain
  have hline : {direction.order item.raw.nodeIds} ⊆ streetLines included := by
    rintro line rfl
    exact ⟨item, hitem, direction, hdirection, rfl⟩
  cases direction with
  | forward => exact ⟨a, b, hpiece.mono hline⟩
  | reverse => exact ⟨b, a, hpiece.reverse.mono hline⟩

/-- Every chain is long enough to become an arc. -/
def ChainsKept (survey : ArcSurvey) (profile : GraphImportProfile) (included : List IncludedWay)
    (viaNodes : List OsmId) : Prop :=
  ∀ item ∈ included, ∀ chain ∈ item.chains (isTopology included viaNodes),
    profile.minimumArcLength ≤ chain.length survey

/-- A piece of a street is the geometry of an arc. -/
theorem exists_arc_of_piece (h : buildArcs survey profile included viaNodes = .ok (nodes, arcs))
    (hkept : ChainsKept survey profile included viaNodes) {path : List OsmId} {u v : OsmId}
    (hpiece : Piece (streetLines included) (IsStop included viaNodes) path u v) :
    ∃ arc ∈ arcs, arc.sourceGeometryNodeIds = path := by
  obtain ⟨line, ⟨item, hitem, direction, hdirection, rfl⟩, hpart⟩ := hpiece.onLine
  have hchain : ∃ chain ∈ item.chains (isTopology included viaNodes),
      direction.order chain.nodeIds = path := by
    have hcuts : EndsCut (isTopology included viaNodes) item := endsCut_isTopology hitem
    have halone : Piece {direction.order item.raw.nodeIds} (IsStop included viaNodes) path u v :=
      ⟨⟨_, rfl, hpart⟩, hpiece.shape, hpiece.starts, hpiece.ends⟩
    cases direction with
    | forward => exact exists_chain_of_piece hcuts halone
    | reverse =>
      have hback : Piece {item.raw.nodeIds} (IsStop included viaNodes) path.reverse v u := by
        have hreverse := halone.reverse
        rwa [ArcDirection.order, List.reverse_reverse] at hreverse
      obtain ⟨chain, hchain, hnodes⟩ := exists_chain_of_piece hcuts hback
      exact ⟨chain, hchain, by rw [ArcDirection.order, hnodes, List.reverse_reverse]⟩
  obtain ⟨chain, hchain, hnodes⟩ := hchain
  have hlong := not_lt.mpr (hkept item hitem chain hchain)
  exact ⟨_, (mem_buildArcs_iff h).mpr ⟨item, hitem, chain, hchain, hlong, direction, hdirection,
    rfl⟩, hnodes⟩

theorem ride_of_arcEdge {weight : OsmId → OsmId → K}
    (h : buildArcs survey profile included viaNodes = .ok (nodes, arcs)) {u v : OsmId} {k : K}
    (hedge : ArcEdge weight arcs u v k) :
    Ride weight (streetLines included) (IsStop included viaNodes) u v k := by
  obtain ⟨arc, harc, hfrom, hto, rfl⟩ := hedge
  obtain ⟨a, b, hpiece⟩ := piece_of_mem_arcs h harc
  obtain ⟨hfrom', hto'⟩ := endpoints_of_piece hpiece
  obtain rfl : a = u := nodeName_injective (hfrom'.symm.trans hfrom)
  obtain rfl : b = v := nodeName_injective (hto'.symm.trans hto)
  exact ⟨_, hpiece, rfl⟩

theorem arcEdge_of_ride {weight : OsmId → OsmId → K}
    (h : buildArcs survey profile included viaNodes = .ok (nodes, arcs))
    (hkept : ChainsKept survey profile included viaNodes) {u v : OsmId} {k : K}
    (hride : Ride weight (streetLines included) (IsStop included viaNodes) u v k) :
    ArcEdge weight arcs u v k := by
  obtain ⟨path, hpiece, rfl⟩ := hride
  obtain ⟨arc, harc, rfl⟩ := exists_arc_of_piece h hkept hpiece
  obtain ⟨hfrom, hto⟩ := endpoints_of_piece hpiece
  exact ⟨arc, harc, hfrom, hto, rfl⟩

/-- A node that a way passes twice is a topology node. -/
def CrossingsCut (included : List IncludedWay) (viaNodes : List OsmId) : Prop :=
  ∀ item ∈ included, ∀ nodeId ∈ item.raw.nodeIds, isTopology included viaNodes nodeId = false →
    item.raw.nodeIds.count nodeId = 1

theorem mem_order {direction : ArcDirection} {nodeIds : List OsmId} {nodeId : OsmId} :
    nodeId ∈ direction.order nodeIds ↔ nodeId ∈ nodeIds := by
  cases direction with
  | forward => exact Iff.rfl
  | reverse => exact List.mem_reverse

theorem count_order {direction : ArcDirection} {nodeIds : List OsmId} {nodeId : OsmId} :
    (direction.order nodeIds).count nodeId = nodeIds.count nodeId := by
  cases direction with
  | forward => rfl
  | reverse => exact List.count_reverse

/-- Two ways that meet at a node that is no topology node are one way. -/
theorem eq_of_meet (hids : (included.map fun item => item.raw.wayId).Nodup) {nodeId : OsmId}
    (hinner : isTopology included viaNodes nodeId = false) {item other : IncludedWay}
    (hitem : item ∈ included) (hother : other ∈ included) (hmem : nodeId ∈ item.raw.nodeIds)
    (hmem' : nodeId ∈ other.raw.nodeIds) : item = other := by
  have hsingle : (wayIdsAt included nodeId).length ≤ 1 := by
    by_contra hmany
    rw [isTopology, decide_eq_true (not_le.mp hmany), Bool.true_or, Bool.true_or] at hinner
    cases hinner
  have hat : ∀ way ∈ included, nodeId ∈ way.raw.nodeIds →
      way.raw.wayId ∈ wayIdsAt included nodeId := by
    intro way hway hnode
    rw [wayIdsAt, List.mem_dedup]
    exact List.mem_map_of_mem (List.mem_filter.mpr ⟨hway, decide_eq_true hnode⟩)
  have hsame : item.raw.wayId = other.raw.wayId :=
    eq_of_mem_of_length_le_one hsingle (hat item hitem hmem) (hat other hother hmem')
  exact List.inj_on_of_nodup_map hids hitem hother hsame

/-- Away from the topology nodes, a street is alone and passes once. -/
theorem passedOnce_streetLines (hids : (included.map fun item => item.raw.wayId).Nodup)
    (hcrossings : CrossingsCut included viaNodes) :
    PassedOnce (streetLines included) (IsStop included viaNodes) := by
  rintro place hplace line ⟨item, hitem, direction, -, rfl⟩ hmem
  have hinner := Bool.eq_false_of_not_eq_true hplace
  have hitemMem := mem_order.mp hmem
  refine ⟨count_order.trans (hcrossings item hitem place hitemMem hinner), ?_⟩
  rintro line ⟨other, hother, direction', -, rfl⟩ hmem'
  obtain rfl := eq_of_meet hids hinner hitem hother hitemMem (mem_order.mp hmem')
  cases direction <;> cases direction' <;> simp [ArcDirection.order]

/-- Routes over the arcs are travel along the included ways, of the same weight.  Where ways cross
themselves at topology nodes only and no chain is dropped, travel along the ways between two road
nodes is matched by a route that weighs no more. -/
theorem arcs_refine_ways {weight : OsmId → OsmId → ℚ}
    (h : buildArcs survey profile included viaNodes = .ok (nodes, arcs))
    (hids : (included.map fun item => item.raw.wayId).Nodup) (hweight : ∀ a b, 0 ≤ weight a b)
    {start goal : RoadNode} (hstart : start ∈ nodes) (hgoal : goal ∈ nodes) :
    (∀ cost, Travel (ArcEdge weight arcs) start.osmNodeId goal.osmNodeId cost →
      Travel (Step weight (streetLines included)) start.osmNodeId goal.osmNodeId cost) ∧
    (CrossingsCut included viaNodes → ChainsKept survey profile included viaNodes →
      ∀ cost, Travel (Step weight (streetLines included)) start.osmNodeId goal.osmNodeId cost →
        ∃ spent ≤ cost, Travel (ArcEdge weight arcs) start.osmNodeId goal.osmNodeId spent) := by
  have hstop : ∀ node ∈ nodes, IsStop included viaNodes node.osmNodeId := by
    intro node hnode
    rw [buildArcs_nodes h] at hnode
    obtain ⟨-, -, nodeId, -, hcut, rfl⟩ := mem_roadNodes_iff.mp hnode
    exact hcut
  constructor
  · intro cost hroute
    exact travel_steps_of_rides (hroute.map fun _ _ _ => ride_of_arcEdge h)
  · intro hcrossings hkept cost htravel
    obtain ⟨spent, hle, hrides⟩ := travel_rides_of_steps hweight
      (passedOnce_streetLines hids hcrossings) (hstop start hstart) (hstop goal hgoal) htravel
    exact ⟨spent, hle, hrides.map fun _ _ _ => arcEdge_of_ride h hkept⟩

end Refinement

/-! ## A side street -/

namespace SideStreet

theorem residential_unique : ([("highway", "residential")].map Prod.fst).Nodup := by
  decide

theorem residential_nonempty : ∀ entry ∈ [("highway", "residential")], entry.1 ≠ "" := by
  decide

def residential : Tags := ⟨_, residential_unique, residential_nonempty⟩

theorem oneway_unique : ([("highway", "residential"), ("oneway", "yes")].map Prod.fst).Nodup := by
  decide

theorem oneway_nonempty :
    ∀ entry ∈ [("highway", "residential"), ("oneway", "yes")], entry.1 ≠ "" := by
  decide

def oneway : Tags := ⟨_, oneway_unique, oneway_nonempty⟩

/-- Four nodes in a row, and a one-way street that leaves at the third. -/
def streets : List IncludedWay :=
  [⟨⟨10, [1, 2, 3, 4], residential⟩, true, true, Nat.le_of_ble_eq_true rfl, .inl rfl⟩,
    ⟨⟨11, [3, 5], oneway⟩, true, false, Nat.le_of_ble_eq_true rfl, .inl rfl⟩]

/-- Nodes on the first axis, their distances, and SHA-256. -/
def survey : ArcSurvey where
  localPosition nodeId := ⟨nodeId, 0, 0⟩
  arcLength := pathWeight fun left right => |right.x - left.x|
  sha256 text := String.ofList (Sha256.hexdigest (text.toList.flatMap String.utf8EncodeChar))

/-- One for each segment. -/
def hops (_ _ : OsmId) : ℚ := 1

theorem step_main {a b : OsmId} (h : [a, b] <:+: [1, 2, 3, 4]) :
    Step hops (streetLines streets) a b 1 :=
  ⟨⟨_, ⟨_, List.mem_cons_self, .forward, List.mem_cons_self, rfl⟩, h⟩, rfl⟩

theorem step_side : Step hops (streetLines streets) 3 5 1 :=
  ⟨⟨_, ⟨_, List.mem_cons_of_mem _ List.mem_cons_self, .forward, List.mem_cons_self, rfl⟩,
    List.infix_refl _⟩, rfl⟩

theorem arcs_refine_ways_sideStreet :
    ∃ nodes arcs, buildArcs survey graphImportV1 streets [] = .ok (nodes, arcs) ∧
      ∃ spent ≤ 3, Travel (ArcEdge hops arcs) 1 5 spent := by
  have hsome : (buildArcs survey graphImportV1 streets []).toOption.isSome = true := by
    decide +kernel
  obtain ⟨⟨nodes, arcs⟩, hbuilt⟩ := Option.isSome_iff_exists.mp hsome
  have h := eq_ok_of_toOption hbuilt
  have hnodes := buildArcs_nodes h
  have hfirst : roadNode survey 1 ∈ nodes := by
    rw [hnodes]
    decide +kernel
  have hlast : roadNode survey 5 ∈ nodes := by
    rw [hnodes]
    decide +kernel
  refine ⟨nodes, arcs, h, ?_⟩
  have htravel : Travel (Step hops (streetLines streets)) 1 5 (0 + 1 + 1 + 1) :=
    ((Travel.here.onward (step_main (b := 2) (by decide))).onward
      (step_main (b := 3) (by decide))).onward step_side
  have hcost : (0 + 1 + 1 + 1 : ℚ) = 3 := by norm_num
  rw [hcost] at htravel
  refine (arcs_refine_ways h ?_ (fun _ _ => zero_le_one) hfirst hlast).2 ?_ ?_ 3 htravel
  · decide
  · unfold CrossingsCut
    decide +kernel
  · unfold ChainsKept
    decide +kernel

end SideStreet

end CartoSentry.RoadGraph
