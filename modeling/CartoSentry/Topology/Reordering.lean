import CartoSentry.Foundation.KeyedList
import CartoSentry.Topology.Emission

set_option autoImplicit false

/-!
# Topology hypotheses: the order of the input

Intervals, nodes and arcs in another order give the same result, with every position in it read
as the entry there: the sort by the identifiers fixes the order of the clustering, and the two
searches are least entries of an order without ties.
-/

namespace CartoSentry.Topology

open Foundation (Agree Double bind_eq_ok_iff completeLink completeLink_clustered completeLink_map least
  least_eq_none_iff least_perm ok_bind)
open Matching (InvalidArgument throwIf)

/-! ## The same entries -/

/-- Entries of two lists that are each other's permutations, with identifiers of their own. -/
theorem entry_eq_of_id {A : Type} {entries entries' : List A} (identifier : A → String)
    (hperm : entries.Perm entries') (hunique : (entries.map identifier).Nodup)
    {entry entry' : A} (hentry : entry ∈ entries) (hentry' : entry' ∈ entries')
    (h : identifier entry = identifier entry') : entry = entry' :=
  List.inj_on_of_nodup_map hunique hentry (hperm.symm.subset hentry') h

/-! ## The selection in order -/

section Sorting

/-- The sort of what is kept of the selected intervals. -/
def sortCores (cores : List (OffMapInterval × List Point)) : List (OffMapInterval × List Point) :=
  cores.mergeSort fun left right => decide (left.1.intervalId ≤ right.1.intervalId)

theorem map_core_sortById {intervals : List OffMapInterval} (selected : List (Selected intervals)) :
    (sortById selected).map Selected.core = sortCores (selected.map Selected.core) :=
  List.map_mergeSort fun _ _ _ _ => rfl

theorem pairwise_sortCores (cores : List (OffMapInterval × List Point)) :
    (sortCores cores).Pairwise fun left right => left.1.intervalId ≤ right.1.intervalId := by
  have hsorted : (sortCores cores).Pairwise fun left right =>
      decide (left.1.intervalId ≤ right.1.intervalId) = true := by
    apply List.pairwise_mergeSort
    · intro a b c hab hbc
      exact decide_eq_true ((of_decide_eq_true hab).trans (of_decide_eq_true hbc))
    · intro a b
      rw [Bool.or_eq_true, decide_eq_true_iff, decide_eq_true_iff]
      exact le_total _ _
  exact hsorted.imp fun h => of_decide_eq_true h

/-- Where identifiers are distinct there is one order of them. -/
theorem sortCores_perm {cores cores' : List (OffMapInterval × List Point)}
    (hperm : cores.Perm cores')
    (hunique : (cores.map fun core => core.1.intervalId).Nodup) :
    sortCores cores = sortCores cores' := by
  have hleft : (sortCores cores).Perm cores := List.mergeSort_perm _ _
  have hright : (sortCores cores').Perm cores' := List.mergeSort_perm _ _
  refine List.Perm.eq_of_pairwise (fun a b ha hb hab hba => ?_) (pairwise_sortCores cores)
    (pairwise_sortCores cores') (hleft.trans (hperm.trans hright.symm))
  exact entry_eq_of_id (fun core => core.1.intervalId) hperm hunique
    (hleft.subset ha) (hright.subset hb) (le_antisymm hab hba)

end Sorting

/-! ## The nearest node -/

section Nodes

variable {library : StandardLibrary} {nodes nodes' : List GraphNode} {point : Point}
  {radius : Double}

theorem map_get_withinRadius :
    (withinRadius library nodes point radius).map nodes.get =
      nodes.filter fun node => !(radius.lt (distance library point node.position)) := by
  have hmap : (List.finRange nodes.length).map nodes.get = nodes := List.map_get_finRange nodes
  conv_rhs => rw [← hmap, List.filter_map]
  rfl

/-- The node and its distance do not depend on the order of the nodes. -/
theorem nearestNode_perm (hperm : nodes.Perm nodes')
    (hunique : (nodes.map GraphNode.nodeId).Nodup)
    (hnumber : ∀ index, (nodeDistance library nodes point index).isNaN = false)
    (hnumber' : ∀ index, (nodeDistance library nodes' point index).isNaN = false) :
    (nearestNode library nodes point radius).map (fun found =>
        (nodes.get found.index, found.distanceM)) =
      (nearestNode library nodes' point radius).map fun found =>
        (nodes'.get found.index, found.distanceM) := by
  have hleast : (least (preference (nodeDistance library nodes point) (nodeName nodes))
        (withinRadius library nodes point radius)).map nodes.get =
      (least (preference (nodeDistance library nodes' point) (nodeName nodes'))
        (withinRadius library nodes' point radius)).map nodes'.get := by
    apply least_perm
    · rw [map_get_withinRadius, map_get_withinRadius]
      exact hperm.filter _
    · intro index _ index' _
      constructor
      · intro hnode
        unfold preference nodeDistance nodeName
        rw [hnode]
      · intro hkey
        have hname : nodeName nodes index = nodeName nodes' index' :=
          congrArg Prod.snd (toLex.injective hkey)
        exact entry_eq_of_id GraphNode.nodeId hperm hunique (List.get_mem nodes index)
          (List.get_mem nodes' index') hname
  have hpair : ∀ (entries : List GraphNode) (found : Option (Fin entries.length)),
      (found.map fun index => (entries.get index, nodeDistance library entries point index)) =
        (found.map entries.get).map fun node => (node, distance library point node.position) := by
    intro entries found
    rw [Option.map_map]
    rfl
  rw [nearestNode_eq hnumber, nearestNode_eq hnumber', Option.map_map, Option.map_map]
  exact (hpair nodes _).trans ((congrArg _ hleast).trans (hpair nodes' _).symm)

end Nodes

/-! ## The closest arc -/

section Arcs

variable {library : StandardLibrary} {nodes nodes' : List GraphNode} {arcs arcs' : List GraphArc}
  {parameters : Parameters} {corridor : List Point}

/-- The arc at this position with its end nodes. -/
def arcAt (nodes : List GraphNode) (arcs : List GraphArc) (index : Fin arcs.length) : NamedArc :=
  (arcs.get index).named nodes

theorem getElem?_eq_get_iff (hunique : (nodes.map GraphNode.nodeId).Nodup) (place : Nat)
    (node : Fin nodes.length) : nodes[place]? = some (nodes.get node) ↔ place = node.val := by
  constructor
  · intro h
    obtain ⟨hplace, hnode⟩ := List.getElem?_eq_some_iff.mp h
    have hsame : (⟨place, hplace⟩ : Fin nodes.length) = node :=
      get_injective hunique (congrArg GraphNode.nodeId hnode)
    exact congrArg Fin.val hsame
  · rintro rfl
    exact List.getElem?_eq_getElem node.isLt

/-- What an arc joins, by the nodes. -/
theorem joins_iff (hunique : (nodes.map GraphNode.nodeId).Nodup) {start stop : Fin nodes.length}
    (arc : GraphArc) : arc.Joins start stop ↔
      (arc.named nodes).source = some (nodes.get start) ∧
        (arc.named nodes).target = some (nodes.get stop) := by
  unfold GraphArc.Joins GraphArc.named
  rw [getElem?_eq_get_iff hunique, getElem?_eq_get_iff hunique]

/-- A search returns where every arc between the two nodes can be measured. -/
theorem exists_bestArc {start stop : Fin nodes.length}
    (h : ∀ index : Fin arcs.length, (arcs.get index).Joins start stop →
      HasDistance library parameters corridor (arcs.get index)) :
    ∃ best, bestArc library nodes arcs parameters corridor start stop = .ok best := by
  rw [bestArc_eq_foldlM]
  have hrun : ∀ (indices : List (Fin arcs.length)) (best : Option (ComparedArc arcs)),
      ∃ after, indices.foldlM (compareArc library nodes arcs parameters corridor start stop) best =
        .ok after := by
    intro indices
    induction indices with
    | nil => exact fun best => ⟨best, rfl⟩
    | cons index indices ih =>
      intro best
      have hstep : ∃ after,
          compareArc library nodes arcs parameters corridor start stop best index = .ok after := by
        unfold compareArc
        by_cases hjoins : (arcs.get index).Joins start stop
        · obtain ⟨measured, hmeasured⟩ := h index hjoins
          obtain ⟨resampled, hresampled, herror⟩ := bind_eq_ok_iff.mp hmeasured
          rw [if_neg fun hapart => not_and_or.mpr hapart hjoins, hresampled, ok_bind, herror, ok_bind]
          cases best with
          | none => exact ⟨_, rfl⟩
          | some kept =>
            dsimp only
            split_ifs
            · exact ⟨_, rfl⟩
            · exact ⟨_, rfl⟩
        · exact ⟨best, if_pos (not_and_or.mp hjoins)⟩
      obtain ⟨after, hafter⟩ := hstep
      rw [List.foldlM_cons, hafter]
      exact ih after
  exact hrun _ none

/-- The distance of an arc is one of its geometry. -/
theorem arcDistance_congr {arc arc' : GraphArc} (h : arc.geometry = arc'.geometry) :
    arcDistance library parameters corridor arc = arcDistance library parameters corridor arc' := by
  unfold arcDistance
  rw [h]

theorem geometry_eq_of_arcAt {index : Fin arcs.length} {index' : Fin arcs'.length}
    (h : arcAt nodes arcs index = arcAt nodes' arcs' index') :
    (arcs.get index).geometry = (arcs'.get index').geometry :=
  congrArg NamedArc.geometry h

theorem arcMeasure_congr {index : Fin arcs.length} {index' : Fin arcs'.length}
    (h : arcAt nodes arcs index = arcAt nodes' arcs' index') :
    arcMeasure library parameters arcs corridor index =
      arcMeasure library parameters arcs' corridor index' := by
  unfold arcMeasure
  rw [arcDistance_congr (geometry_eq_of_arcAt h)]

/-- Arcs and nodes in another order. -/
structure SameGraph (nodes nodes' : List GraphNode) (arcs arcs' : List GraphArc) : Prop where
  nodePerm : nodes.Perm nodes'
  arcPerm : (arcs.map (GraphArc.named nodes)).Perm (arcs'.map (GraphArc.named nodes'))
  nodeIds : (nodes.map GraphNode.nodeId).Nodup
  arcIds : ((arcs.map (GraphArc.named nodes)).map NamedArc.arcId).Nodup

theorem SameGraph.symm (h : SameGraph nodes nodes' arcs arcs') :
    SameGraph nodes' nodes arcs' arcs where
  nodePerm := h.nodePerm.symm
  arcPerm := h.arcPerm.symm
  nodeIds := (h.nodePerm.map _).nodup_iff.mp h.nodeIds
  arcIds := (h.arcPerm.map _).nodup_iff.mp h.arcIds

theorem arcAt_mem (nodes : List GraphNode) (arcs : List GraphArc) (index : Fin arcs.length) :
    arcAt nodes arcs index ∈ arcs.map (GraphArc.named nodes) :=
  List.mem_map_of_mem (List.get_mem arcs index)

/-- Every arc has a place in the other order. -/
theorem SameGraph.exists_arcAt (h : SameGraph nodes nodes' arcs arcs')
    (index' : Fin arcs'.length) : ∃ index, arcAt nodes arcs index = arcAt nodes' arcs' index' := by
  obtain ⟨arc, harc, hnamed⟩ := List.mem_map.mp (h.arcPerm.symm.subset (arcAt_mem nodes' arcs' index'))
  obtain ⟨index, rfl⟩ := List.get_of_mem harc
  exact ⟨index, hnamed⟩

theorem SameGraph.joins_iff (h : SameGraph nodes nodes' arcs arcs') {start stop : Fin nodes.length}
    {start' stop' : Fin nodes'.length} (hstart : nodes.get start = nodes'.get start')
    (hstop : nodes.get stop = nodes'.get stop') {index : Fin arcs.length} {index' : Fin arcs'.length}
    (hindex : arcAt nodes arcs index = arcAt nodes' arcs' index') :
    (arcs.get index).Joins start stop ↔ (arcs'.get index').Joins start' stop' := by
  unfold arcAt at hindex
  rw [Topology.joins_iff h.nodeIds, Topology.joins_iff h.symm.nodeIds, hindex, hstart, hstop]

theorem SameGraph.hasDistance (h : SameGraph nodes nodes' arcs arcs') {start stop : Fin nodes.length}
    {start' stop' : Fin nodes'.length} (hstart : nodes.get start = nodes'.get start')
    (hstop : nodes.get stop = nodes'.get stop')
    (hdistances : ∀ index : Fin arcs.length, (arcs.get index).Joins start stop →
      HasDistance library parameters corridor (arcs.get index)) :
    ∀ index' : Fin arcs'.length, (arcs'.get index').Joins start' stop' →
      HasDistance library parameters corridor (arcs'.get index') := by
  intro index' hjoins
  obtain ⟨index, hindex⟩ := h.exists_arcAt index'
  obtain ⟨measured, hmeasured⟩ :=
    hdistances index ((h.joins_iff hstart hstop hindex).mpr hjoins)
  rw [arcDistance_congr (geometry_eq_of_arcAt hindex)] at hmeasured
  exact ⟨measured, hmeasured⟩

theorem map_arcAt_joins (hunique : (nodes.map GraphNode.nodeId).Nodup)
    {start stop : Fin nodes.length} :
    ((List.finRange arcs.length).filter fun index => (arcs.get index).Joins start stop).map
        (arcAt nodes arcs) =
      (arcs.map (GraphArc.named nodes)).filter fun arc =>
        arc.source = some (nodes.get start) ∧ arc.target = some (nodes.get stop) := by
  conv_rhs => rw [← List.map_get_finRange arcs, List.map_map, List.filter_map]
  unfold arcAt
  congr 1
  refine List.filter_congr fun index _ => ?_
  exact decide_eq_decide.mpr (joins_iff hunique _)

/-- An arc with its distance. -/
def ComparedArc.entry (nodes : List GraphNode) {arcs : List GraphArc} (compared : ComparedArc arcs) :
    NamedArc × Double :=
  (arcAt nodes arcs compared.index, compared.error)

/-- The same arcs have the same distances. -/
theorem map_entry_measured {found : Option (Fin arcs.length)} {found' : Option (Fin arcs'.length)}
    (h : found.map (arcAt nodes arcs) = found'.map (arcAt nodes' arcs')) :
    (found.map (measured library parameters arcs corridor)).map (ComparedArc.entry nodes) =
      (found'.map (measured library parameters arcs' corridor)).map (ComparedArc.entry nodes') := by
  cases found with
  | none =>
    cases found' with
    | none => rfl
    | some index' => cases h
  | some index =>
    cases found' with
    | none => cases h
    | some index' =>
      have harc := Option.some.inj h
      exact congrArg some (Prod.ext harc (arcMeasure_congr harc))

/-- The search finds the same arc, or fails alike. -/
theorem bestArc_agree (h : SameGraph nodes nodes' arcs arcs') {start stop : Fin nodes.length}
    {start' stop' : Fin nodes'.length} (hstart : nodes.get start = nodes'.get start')
    (hstop : nodes.get stop = nodes'.get stop') :
    Agree (fun best best' => best.map (ComparedArc.entry nodes) = best'.map (ComparedArc.entry nodes'))
      (bestArc library nodes arcs parameters corridor start stop)
      (bestArc library nodes' arcs' parameters corridor start' stop') := by
  have hleast : (least (preference (arcMeasure library parameters arcs corridor) (arcName arcs))
        ((List.finRange arcs.length).filter fun index => (arcs.get index).Joins start stop)).map
          (arcAt nodes arcs) =
      (least (preference (arcMeasure library parameters arcs' corridor) (arcName arcs'))
        ((List.finRange arcs'.length).filter fun index => (arcs'.get index).Joins start' stop')).map
          (arcAt nodes' arcs') := by
    apply least_perm
    · rw [map_arcAt_joins h.nodeIds, map_arcAt_joins h.symm.nodeIds, hstart, hstop]
      exact h.arcPerm.filter _
    · intro index _ index' _
      constructor
      · intro harc
        unfold preference
        rw [arcMeasure_congr harc]
        exact congrArg (fun name => toLex (_, name)) (congrArg NamedArc.arcId harc)
      · intro hkey
        have hname : arcName arcs index = arcName arcs' index' :=
          congrArg Prod.snd (toLex.injective hkey)
        exact entry_eq_of_id NamedArc.arcId h.arcPerm h.arcIds (arcAt_mem nodes arcs index)
          (arcAt_mem nodes' arcs' index') hname
  by_cases hdistances : ∀ index : Fin arcs.length, (arcs.get index).Joins start stop →
      HasDistance library parameters corridor (arcs.get index)
  · obtain ⟨best, hbest⟩ := exists_bestArc hdistances
    obtain ⟨best', hbest'⟩ := exists_bestArc (h.hasDistance hstart hstop hdistances)
    rw [hbest, hbest', Agree.ok_ok, (bestArc_eq hbest).2, (bestArc_eq hbest').2]
    exact map_entry_measured hleast
  · -- An arc that cannot be measured stops both searches.
    cases hbest : bestArc library nodes arcs parameters corridor start stop with
    | ok best => exact absurd (bestArc_eq hbest).1 hdistances
    | error fault =>
      cases hbest' : bestArc library nodes' arcs' parameters corridor start' stop' with
      | ok best' =>
        exact absurd (h.symm.hasDistance hstart.symm hstop.symm (bestArc_eq hbest').1) hdistances
      | error fault' => exact Agree.error_error

end Arcs

/-! ## Clusters and hypotheses -/

section Results

variable {library : StandardLibrary} {intervals intervals' : List OffMapInterval}
  {nodes nodes' : List GraphNode} {arcs arcs' : List GraphArc} {parameters : Parameters}

theorem map_resampled (selected : List (Selected intervals)) :
    selected.map Selected.resampled = (selected.map Selected.core).map Prod.snd := by
  rw [List.map_map]
  rfl

theorem map_interval (selected : List (Selected intervals)) :
    (selected.map Selected.index).map intervals.get =
      (selected.map Selected.core).map Prod.fst := by
  rw [List.map_map, List.map_map]
  rfl

theorem map_traversalId (selected : List (Selected intervals)) :
    (selected.map fun member => member.interval.traversalId) =
      (selected.map Selected.core).map fun core => core.1.traversalId := by
  rw [List.map_map]
  rfl

/-- The ends of the corridor through selected intervals are numbers. -/
theorem corridor_ends_of_faithful {members : List (Selected intervals)} {corridor : List Point}
    (hcount : 2 ≤ parameters.resamplePointCount)
    (hmembers : ∀ member ∈ members, member.Faithful library parameters)
    (h : fitCorridor library (members.map Selected.resampled) = .ok corridor) :
    (front corridor).isNumber ∧ (back corridor).isNumber :=
  corridor_ends hcount
    (List.forall_mem_map.mpr fun member hmember => (hmembers member hmember).shape.length)
    (List.forall_mem_map.mpr fun member hmember => (hmembers member hmember).ends.1)
    (List.forall_mem_map.mpr fun member hmember => (hmembers member hmember).ends.2) h

/-- The nearest node as an entry, and its distance. -/
theorem nearestNode_parts {point : Point} {radius : Double}
    (h : (nearestNode library nodes point radius).map (fun found =>
        (nodes.get found.index, found.distanceM)) =
      (nearestNode library nodes' point radius).map fun found =>
        (nodes'.get found.index, found.distanceM)) :
    ((nearestNode library nodes point radius).map NearestNode.index).map nodes.get =
        ((nearestNode library nodes' point radius).map NearestNode.index).map nodes'.get ∧
      (nearestNode library nodes point radius).map NearestNode.distanceM =
        (nearestNode library nodes' point radius).map NearestNode.distanceM := by
  have hnode := congrArg (Option.map Prod.fst) h
  have hdistance := congrArg (Option.map Prod.snd) h
  rw [Option.map_map, Option.map_map] at hnode hdistance
  rw [Option.map_map, Option.map_map]
  exact ⟨hnode, hdistance⟩

/-- The cluster of the same members is the same. -/
theorem summarize_agree (hcount : 2 ≤ parameters.resamplePointCount)
    (hnodes : ∀ node ∈ nodes, ValidNode node) (hperm : nodes.Perm nodes')
    (hunique : (nodes.map GraphNode.nodeId).Nodup) (ordinal : Nat)
    {members : List (Selected intervals)} {members' : List (Selected intervals')}
    (hmembers : ∀ member ∈ members, member.Faithful library parameters)
    (hcores : members.map Selected.core = members'.map Selected.core) :
    Agree (fun cluster cluster' => cluster.rename intervals.get nodes.get =
        cluster'.rename intervals'.get nodes'.get)
      (summarize library nodes parameters ordinal members)
      (summarize library nodes' parameters ordinal members') := by
  have hsorted : (sortById members).map Selected.core = (sortById members').map Selected.core := by
    rw [map_core_sortById, hcores, ← map_core_sortById]
  have hresampled : (sortById members).map Selected.resampled =
      (sortById members').map Selected.resampled := by
    rw [map_resampled, hsorted, ← map_resampled]
  have hfaithful : ∀ member ∈ sortById members, member.Faithful library parameters :=
    fun member hmember => hmembers member ((List.mergeSort_perm _ _).subset hmember)
  have hnodes' : ∀ node ∈ nodes', ValidNode node :=
    fun node hnode => hnodes node (hperm.symm.subset hnode)
  unfold summarize
  dsimp only
  rw [← hresampled]
  refine (Agree.refl (R := Eq) (fitCorridor library _) fun _ => rfl).bind ?_
  rintro corridor _ hcorridor _ rfl
  obtain ⟨hfront, hback⟩ := corridor_ends_of_faithful hcount hfaithful hcorridor
  obtain ⟨hstart, hstartDistance⟩ := nearestNode_parts (nearestNode_perm hperm hunique
    (isNaN_nodeDistance hfront hnodes) (isNaN_nodeDistance hfront hnodes'))
  obtain ⟨hstop, hstopDistance⟩ := nearestNode_parts (nearestNode_perm hperm hunique
    (isNaN_nodeDistance hback hnodes) (isNaN_nodeDistance hback hnodes'))
  refine Agree.ok_ok.mpr ?_
  unfold Cluster.rename
  dsimp only
  rw [map_interval, map_interval, map_traversalId, map_traversalId, hsorted, hstart, hstop,
    hstartDistance, hstopDistance]

theorem get_eq_iff (hunique : (nodes.map GraphNode.nodeId).Nodup) {start stop : Fin nodes.length} :
    nodes.get start = nodes.get stop ↔ start = stop :=
  ⟨fun h => get_injective hunique (congrArg GraphNode.nodeId h), fun h => by rw [h]⟩

/-- A cluster that does not snap at both ends has no hypothesis. -/
theorem hypothesize_of_none {clusterIndex : Nat} {cluster : Cluster (Fin intervals.length)
    (Fin nodes.length)} (h : cluster.startNodeIndex = none ∨ cluster.endNodeIndex = none ∨
      cluster.startEndpointDistanceM = none ∨ cluster.endEndpointDistanceM = none) :
    hypothesize library nodes arcs parameters clusterIndex cluster = .ok none := by
  unfold hypothesize
  split
  next hstart hstop hstartDistance hstopDistance =>
    rw [hstart, hstop, hstartDistance, hstopDistance] at h
    rcases h with h | h | h | h <;> cases h
  next => rfl

/-- What follows from the arc found for a cluster that snaps at both ends. -/
theorem hypothesize_of_some {clusterIndex : Nat} {cluster : Cluster (Fin intervals.length)
    (Fin nodes.length)} {start stop : Fin nodes.length} {startDistance stopDistance : Double}
    (hstart : cluster.startNodeIndex = some start) (hstop : cluster.endNodeIndex = some stop)
    (hstartDistance : cluster.startEndpointDistanceM = some startDistance)
    (hstopDistance : cluster.endEndpointDistanceM = some stopDistance) :
    hypothesize library nodes arcs parameters clusterIndex cluster =
      if cluster.independentTraversalCount < parameters.minimumIndependentTraversals ∨
        start = stop then .ok none
      else bestArc library nodes arcs parameters cluster.fittedCorridor start stop >>= fun best =>
        .ok (supported parameters clusterIndex start stop (startDistance.max stopDistance)
          best) := by
  unfold hypothesize
  rw [hstart, hstop, hstartDistance, hstopDistance]
  dsimp only
  split_ifs with hunwarranted
  · rfl
  · congr 1
    funext best
    cases best with
    | none => rfl
    | some compared =>
      dsimp only [supported]
      split_ifs
      · rfl
      · rfl

/-- The same arc supports the same hypothesis. -/
theorem map_rename_supported {start stop : Fin nodes.length} {start' stop' : Fin nodes'.length}
    (hstart : nodes.get start = nodes'.get start') (hstop : nodes.get stop = nodes'.get stop')
    (clusterIndex : Nat) (endpointError : Double) {best : Option (ComparedArc arcs)}
    {best' : Option (ComparedArc arcs')}
    (hbest : best.map (ComparedArc.entry nodes) = best'.map (ComparedArc.entry nodes')) :
    (supported parameters clusterIndex start stop endpointError best).map
        (Hypothesis.rename nodes.get (arcAt nodes arcs)) =
      (supported parameters clusterIndex start' stop' endpointError best').map
        (Hypothesis.rename nodes'.get (arcAt nodes' arcs')) := by
  cases best with
  | none =>
    cases best' with
    | none =>
      unfold supported Hypothesis.rename
      dsimp only [Option.map_some]
      rw [hstart, hstop]
      rfl
    | some compared' => cases hbest
  | some compared =>
    cases best' with
    | none => cases hbest
    | some compared' =>
      have hentry := Option.some.inj hbest
      have harc : arcAt nodes arcs compared.index = arcAt nodes' arcs' compared'.index :=
        congrArg Prod.fst hentry
      have herror : compared.error = compared'.error := congrArg Prod.snd hentry
      unfold supported
      dsimp only
      rw [herror]
      split_ifs
      · unfold Hypothesis.rename
        dsimp only [Option.map_some]
        rw [hstart, hstop, harc]
      · rfl

/-- The hypothesis about the same cluster is the same. -/
theorem hypothesize_agree (h : SameGraph nodes nodes' arcs arcs') (clusterIndex : Nat)
    {cluster : Cluster (Fin intervals.length) (Fin nodes.length)}
    {cluster' : Cluster (Fin intervals'.length) (Fin nodes'.length)}
    (hcluster : cluster.rename intervals.get nodes.get =
      cluster'.rename intervals'.get nodes'.get) :
    Agree (fun hypothesis hypothesis' =>
        hypothesis.map (Hypothesis.rename nodes.get (arcAt nodes arcs)) =
          hypothesis'.map (Hypothesis.rename nodes'.get (arcAt nodes' arcs')))
      (hypothesize library nodes arcs parameters clusterIndex cluster)
      (hypothesize library nodes' arcs' parameters clusterIndex cluster') := by
  have hcount : cluster.independentTraversalCount = cluster'.independentTraversalCount :=
    congrArg Cluster.independentTraversalCount hcluster
  have hcorridor : cluster.fittedCorridor = cluster'.fittedCorridor :=
    congrArg Cluster.fittedCorridor hcluster
  have hstart : cluster.startNodeIndex.map nodes.get = cluster'.startNodeIndex.map nodes'.get :=
    congrArg Cluster.startNodeIndex hcluster
  have hstop : cluster.endNodeIndex.map nodes.get = cluster'.endNodeIndex.map nodes'.get :=
    congrArg Cluster.endNodeIndex hcluster
  have hstartDistance : cluster.startEndpointDistanceM = cluster'.startEndpointDistanceM :=
    congrArg Cluster.startEndpointDistanceM hcluster
  have hstopDistance : cluster.endEndpointDistanceM = cluster'.endEndpointDistanceM :=
    congrArg Cluster.endEndpointDistanceM hcluster
  by_cases hsnaps : ∃ start stop startDistance stopDistance,
      cluster.startNodeIndex = some start ∧ cluster.endNodeIndex = some stop ∧
        cluster.startEndpointDistanceM = some startDistance ∧
          cluster.endEndpointDistanceM = some stopDistance
  · obtain ⟨start, stop, startDistance, stopDistance, hs, hs', hd, hd'⟩ := hsnaps
    rw [hs, Option.map_some] at hstart
    rw [hs', Option.map_some] at hstop
    obtain ⟨start', ht, hstart⟩ := Option.map_eq_some_iff.mp hstart.symm
    obtain ⟨stop', ht', hstop⟩ := Option.map_eq_some_iff.mp hstop.symm
    have hsame : start' = stop' ↔ start = stop := by
      rw [← get_eq_iff h.nodeIds, ← get_eq_iff h.symm.nodeIds, hstart, hstop]
    rw [hypothesize_of_some hs hs' hd hd', hypothesize_of_some ht ht' (hstartDistance ▸ hd)
      (hstopDistance ▸ hd'), hcount, hcorridor]
    simp only [hsame]
    split_ifs
    · exact Agree.ok_ok.mpr rfl
    · refine (bestArc_agree h hstart.symm hstop.symm).bind fun best best' _ _ hbest => ?_
      exact Agree.ok_ok.mpr (map_rename_supported hstart.symm hstop.symm clusterIndex _ hbest)
  · have hnone : cluster.startNodeIndex = none ∨ cluster.endNodeIndex = none ∨
        cluster.startEndpointDistanceM = none ∨ cluster.endEndpointDistanceM = none := by
      by_contra hsome
      simp only [not_or, ← ne_eq, Option.ne_none_iff_exists'] at hsome
      obtain ⟨⟨start, hs⟩, ⟨stop, hs'⟩, ⟨startDistance, hd⟩, ⟨stopDistance, hd'⟩⟩ := hsome
      exact hsnaps ⟨start, stop, startDistance, stopDistance, hs, hs', hd, hd'⟩
    have hnone' : cluster'.startNodeIndex = none ∨ cluster'.endNodeIndex = none ∨
        cluster'.startEndpointDistanceM = none ∨ cluster'.endEndpointDistanceM = none := by
      have hstartNone : cluster.startNodeIndex = none ↔ cluster'.startNodeIndex = none := by
        rw [← Option.map_eq_none_iff (f := nodes.get), hstart, Option.map_eq_none_iff]
      have hstopNone : cluster.endNodeIndex = none ↔ cluster'.endNodeIndex = none := by
        rw [← Option.map_eq_none_iff (f := nodes.get), hstop, Option.map_eq_none_iff]
      rwa [hstartNone, hstopNone, hstartDistance, hstopDistance] at hnone
    rw [hypothesize_of_none hnone, hypothesize_of_none hnone']
    exact Agree.ok_ok.mpr rfl

end Results

/-! ## The miner -/

section Miner

variable {library : StandardLibrary} {intervals intervals' : List OffMapInterval}
  {nodes nodes' : List GraphNode} {arcs arcs' : List GraphArc} {parameters : Parameters}

theorem kept_fst {interval : OffMapInterval} {core : OffMapInterval × List Point}
    (h : kept library parameters interval = some core) : core.1 = interval := by
  unfold kept at h
  split at h
  · rw [← Option.some.inj h]
  · cases h

/-- What is kept of intervals has their identifiers. -/
theorem nodup_kept_ids (hunique : (intervals.map OffMapInterval.intervalId).Nodup) :
    ((intervals.filterMap (kept library parameters)).map fun core => core.1.intervalId).Nodup := by
  have hsublist : ((intervals.filterMap (kept library parameters)).map Prod.fst).Sublist
      intervals := by
    clear hunique
    induction intervals with
    | nil => exact List.Sublist.refl _
    | cons interval intervals ih =>
      cases hkept : kept library parameters interval with
      | none =>
        rw [List.filterMap_cons_none hkept]
        exact ih.cons _
      | some core =>
        rw [List.filterMap_cons_some hkept, List.map_cons, kept_fst hkept]
        exact ih.cons_cons _
  have hids := hsublist.map OffMapInterval.intervalId
  rw [List.map_map] at hids
  exact hunique.sublist hids

/-- Two selections of the same intervals: the same cores in their order, and the same counters. -/
structure SameSelection (selection : Selection intervals) (selection' : Selection intervals') :
    Prop where
  cores : (sortById selection.selected).map Selected.core =
    (sortById selection'.selected).map Selected.core
  rejected : ∀ reason : Verdict, reason.rejects = true →
    selection.rejectedAs reason = selection'.rejectedAs reason

theorem Selects.same {selection : Selection intervals} {selection' : Selection intervals'}
    (h : Selects library parameters (List.finRange intervals.length) selection)
    (h' : Selects library parameters (List.finRange intervals'.length) selection')
    (hperm : intervals.Perm intervals')
    (hunique : (intervals.map OffMapInterval.intervalId).Nodup) :
    SameSelection selection selection' where
  cores := by
    have hcores := h.selected
    have hcores' := h'.selected
    rw [List.map_get_finRange] at hcores hcores'
    rw [map_core_sortById, map_core_sortById, hcores, hcores']
    exact sortCores_perm (hperm.filterMap _) (nodup_kept_ids hunique)
  rejected := by
    intro reason hreason
    rw [h.counted reason hreason, h'.counted reason hreason, List.map_get_finRange,
      List.map_get_finRange]
    exact hperm.countP_eq _

/-- The clusters of the same members in the same order. -/
theorem completeLink_agree {selected : List (Selected intervals)}
    {selected' : List (Selected intervals')} {full : InvalidArgument} {maximum : Nat}
    (hcores : selected.map Selected.core = selected'.map Selected.core) :
    Agree (fun clusters clusters' => clusters.map (List.map Selected.core) =
        clusters'.map (List.map Selected.core))
      (completeLink (fun left right => compatible library parameters left.resampled right.resampled)
        full maximum selected)
      (completeLink (fun left right => compatible library parameters left.resampled right.resampled)
        full maximum selected') := by
  have hmap : ∀ {entries : List OffMapInterval} (items : List (Selected entries)),
      (completeLink (fun left right => compatible library parameters left.resampled
        right.resampled) full maximum items).map (List.map (List.map Selected.core)) =
      completeLink (fun left right : OffMapInterval × List Point =>
        compatible library parameters left.2 right.2) full maximum (items.map Selected.core) := by
    intro entries items
    apply completeLink_map (f := Selected.core)
    exact fun _ _ => rfl
  have hsame := hmap selected
  rw [hcores, ← hmap selected'] at hsame
  generalize completeLink _ _ _ selected = clusters at hsame ⊢
  generalize completeLink _ _ _ selected' = clusters' at hsame ⊢
  cases clusters with
  | error fault =>
    cases clusters' with
    | error fault' => exact Agree.error_error
    | ok clusters' => cases hsame
  | ok clusters =>
    cases clusters' with
    | error fault' => cases hsame
    | ok clusters' => exact Agree.ok_ok.mpr (Except.ok.inj hsame)

theorem forall₂_zipIdx {A B : Type} {R : A → B → Prop} {items : List A} {items' : List B}
    (h : List.Forall₂ R items items') (start : Nat) :
    List.Forall₂ (fun entry entry' => R entry.1 entry'.1 ∧ entry.2 = entry'.2)
      (items.zipIdx start) (items'.zipIdx start) := by
  induction h generalizing start with
  | nil => exact .nil
  | cons hhead hrest ih => exact .cons ⟨hhead, rfl⟩ (ih (start + 1))

theorem filterMap_map_eq {A B C : Type} {f : A → C} {g : B → C} {items : List (Option A)}
    {items' : List (Option B)}
    (h : List.Forall₂ (fun item item' => item.map f = item'.map g) items items') :
    (items.filterMap id).map f = (items'.filterMap id).map g := by
  induction h with
  | nil => rfl
  | @cons item item' rest rest' hhead hrest ih =>
    cases item with
    | none =>
      cases item' with
      | none => exact ih
      | some value' => cases hhead
    | some value =>
      cases item' with
      | none => cases hhead
      | some value' => exact List.cons_eq_cons.mpr ⟨Option.some.inj hhead, ih⟩

theorem validateInputs_agree (hintervals : intervals.Perm intervals') (hnodes : nodes.Perm nodes')
    (harcs : (arcs.map (GraphArc.named nodes)).Perm (arcs'.map (GraphArc.named nodes'))) :
    Agree (fun _ _ => True) (validateInputs library intervals nodes arcs parameters)
      (validateInputs library intervals' nodes' arcs' parameters) := by
  cases hvalid : validateInputs library intervals nodes arcs parameters with
  | ok =>
    have hvalid' := validateInputs_eq_ok_iff.mpr
      ((validateInputs_eq_ok_iff.mp hvalid).perm hintervals hnodes harcs)
    rw [hvalid']
    trivial
  | error fault =>
    cases hvalid' : validateInputs library intervals' nodes' arcs' parameters with
    | error fault' => exact Agree.error_error
    | ok =>
      have hback := validateInputs_eq_ok_iff.mpr
        ((validateInputs_eq_ok_iff.mp hvalid').perm hintervals.symm hnodes.symm harcs.symm)
      rw [hvalid] at hback
      cases hback

theorem ValidInputs.sameGraph
    (h : ValidInputs library parameters intervals nodes (arcs.map (GraphArc.named nodes)))
    (hnodes : nodes.Perm nodes')
    (harcs : (arcs.map (GraphArc.named nodes)).Perm (arcs'.map (GraphArc.named nodes'))) :
    SameGraph nodes nodes' arcs arcs' where
  nodePerm := hnodes
  arcPerm := harcs
  nodeIds := h.nodeIds
  arcIds := h.arcIds

/-- The members of a cluster have been selected. -/
theorem faithful_of_completeLink {link : Selected intervals → Selected intervals →
      Except InvalidArgument Bool} {full : InvalidArgument} {maximum : Nat}
    {selected : List (Selected intervals)} {clusters : List (List (Selected intervals))}
    (hfaithful : ∀ item ∈ selected, item.Faithful library parameters)
    (h : completeLink link full maximum (sortById selected) = .ok clusters) :
    ∀ members ∈ clusters, ∀ member ∈ members, member.Faithful library parameters := by
  intro members hmembers member hmember
  have hordered : (sortById selected).Pairwise fun _ _ => True :=
    List.pairwise_of_forall fun _ _ => trivial
  have hflat := (completeLink_clustered hordered h).partition.subset
    (List.mem_flatten.mpr ⟨members, hmembers, hmember⟩)
  exact hfaithful member ((List.mergeSort_perm _ _).subset hflat)

variable (nodes arcs) in
/-- A result with the entries for their positions. -/
def MiningResult.entries
    (result : MiningResult (Fin intervals.length) (Fin nodes.length) (Fin arcs.length)) :
    MiningResult OffMapInterval GraphNode NamedArc :=
  result.rename intervals.get nodes.get (arcAt nodes arcs)

/-- The same intervals, nodes and arcs in another order give the same result. -/
theorem mine_agree (hintervals : intervals.Perm intervals') (hnodes : nodes.Perm nodes')
    (harcs : (arcs.map (GraphArc.named nodes)).Perm (arcs'.map (GraphArc.named nodes'))) :
    Agree (fun result result' => result.entries nodes arcs = result'.entries nodes' arcs')
      (mineRepeatedTopologyDisagreements library intervals nodes arcs parameters)
      (mineRepeatedTopologyDisagreements library intervals' nodes' arcs' parameters) := by
  unfold mineRepeatedTopologyDisagreements
  refine (Agree.refl (R := Eq) (validateParameters parameters) fun _ => rfl).bind ?_
  rintro _ _ hparameters - -
  obtain ⟨hcount, -⟩ := validateParameters_spec hparameters
  refine (validateInputs_agree hintervals hnodes harcs).bind ?_
  rintro _ _ hinputs hinputs' -
  have hvalid := validateInputs_eq_ok_iff.mp hinputs
  have hvalid' := validateInputs_eq_ok_iff.mp hinputs'
  have hgraph := hvalid.sameGraph hnodes harcs
  obtain ⟨selection, hselection, hselects⟩ := select_selects hcount hvalid.validIntervals
  obtain ⟨selection', hselection', hselects'⟩ := select_selects hcount hvalid'.validIntervals
  have hsame := hselects.same hselects' hintervals hvalid.intervalIds
  have hlength := congrArg List.length hsame.cores
  rw [List.length_map, List.length_map] at hlength
  rw [hselection, hselection', ok_bind, ok_bind]
  dsimp only
  rw [hlength]
  refine (Agree.refl (R := Eq) (pairwiseCount _ _) fun _ => rfl).bind ?_
  rintro _ _ - - -
  refine (completeLink_agree hsame.cores).bind ?_
  intro members members' hmembers _ hcores
  have hfaithful := faithful_of_completeLink (hselects.faithful hcount hvalid.validIntervals) hmembers
  have hzipped := forall₂_zipIdx (Foundation.forall₂_of_map_eq hcores) 0
  have hclusters : List.Forall₂ (fun entry entry' => Agree
      (fun cluster cluster' => Cluster.rename intervals.get nodes.get cluster =
        Cluster.rename intervals'.get nodes'.get cluster')
      (summarize library nodes parameters entry.2 entry.1)
      (summarize library nodes' parameters entry'.2 entry'.1)) members.zipIdx members'.zipIdx := by
    have hmembers : ∀ entry ∈ members.zipIdx, ∀ member ∈ entry.1,
        member.Faithful library parameters :=
      fun entry hentry => hfaithful entry.1 (List.fst_mem_of_mem_zipIdx hentry)
    have hboth := (List.forall₂_and_left _ _).mpr ⟨hmembers, hzipped⟩
    refine hboth.imp ?_
    rintro entry entry' ⟨hmember, hcore, hordinal⟩
    rw [← hordinal]
    exact summarize_agree hcount hvalid.validNodes hnodes hvalid.nodeIds entry.2 hmember hcore
  refine (Agree.mapM hclusters).bind ?_
  intro clusters clusters' _ _ hrenamed
  have hhypotheses : List.Forall₂ (fun entry entry' => Agree
      (fun hypothesis hypothesis' =>
        hypothesis.map (Hypothesis.rename nodes.get (arcAt nodes arcs)) =
          hypothesis'.map (Hypothesis.rename nodes'.get (arcAt nodes' arcs')))
      (hypothesize library nodes arcs parameters entry.2 entry.1)
      (hypothesize library nodes' arcs' parameters entry'.2 entry'.1))
      clusters.zipIdx clusters'.zipIdx := by
    refine (forall₂_zipIdx hrenamed 0).imp ?_
    rintro entry entry' ⟨hcluster, hindex⟩
    rw [← hindex]
    exact hypothesize_agree hgraph entry.2 hcluster
  refine (Agree.mapM hhypotheses).bind ?_
  intro outcomes outcomes' _ _ houtcomes
  refine Agree.ok_ok.mpr ?_
  have hclustersEq : clusters.map (Cluster.rename intervals.get nodes.get) =
      clusters'.map (Cluster.rename intervals'.get nodes'.get) := by
    rw [← List.forall₂_eq_eq_eq, List.forall₂_map_left_iff, List.forall₂_map_right_iff]
    exact hrenamed
  have hnotOffMap : selection.rejectedNotOffMap = selection'.rejectedNotOffMap :=
    hsame.rejected .notOffMap rfl
  have hunobservable : selection.rejectedUnobservable = selection'.rejectedUnobservable :=
    hsame.rejected .unobservable rfl
  have hdirection : selection.rejectedDirection = selection'.rejectedDirection :=
    hsame.rejected .direction rfl
  have hstationary : selection.rejectedStationary = selection'.rejectedStationary :=
    hsame.rejected .stationary rfl
  have hquality : selection.rejectedQuality = selection'.rejectedQuality :=
    hsame.rejected .quality rfl
  have hshort : selection.rejectedShort = selection'.rejectedShort := hsame.rejected .short rfl
  unfold MiningResult.entries MiningResult.rename
  dsimp only
  rw [filterMap_map_eq houtcomes, map_interval, map_interval, hsame.cores, hclustersEq, hnotOffMap,
    hunobservable, hdirection, hstationary, hquality, hshort]

end Miner

end CartoSentry.Topology
