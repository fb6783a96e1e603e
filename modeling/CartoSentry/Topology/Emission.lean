import CartoSentry.Topology.Preference

set_option autoImplicit false

/-!
# Topology hypotheses: what is emitted

A cluster supports a missing connection, a geometry disagreement or nothing, as its
traversals, the nodes that its corridor snaps to and the arcs between them decide.
-/

namespace CartoSentry.Topology

open Foundation (Double bind_eq_ok_iff bind_unit_eq_ok_iff forall₂_of_mapM_eq_ok
  exists_left_of_mem exists_right_of_mem completeLink_clustered)
open Matching (InvalidArgument throwIf throwIf_eq_ok_iff)

/-! ## Corridors -/

section Corridor

variable {library : StandardLibrary}

/-- The median of finite values is a number: the sum of two of them may overflow, but it is
no NaN. -/
theorem isNaN_median {values : List Double} {middle : Double}
    (hfinite : ∀ value ∈ values, value.isFinite = true)
    (h : median library values = .ok middle) : middle.isNaN = false := by
  unfold median at h
  obtain ⟨hvalues, h⟩ := bind_unit_eq_ok_iff.mp h
  have hpositive := List.length_pos_iff.mpr (throwIf_eq_ok_iff.mp hvalues)
  have hperm := library.sort_perm values
  have hmember : ∀ index < values.length,
      ((library.sort values).getD index .nan).isFinite = true := by
    intro index hindex
    have hsorted : index < (library.sort values).length := hperm.length_eq ▸ hindex
    rw [List.getD_eq_getElem _ _ hsorted]
    exact hfinite _ (hperm.subset (List.getElem_mem hsorted))
  split_ifs at h
  · cases h
    exact Double.not_isNaN_of_isFinite (hmember _ (by omega))
  · cases h
    exact Double.isNaN_div_two (Double.isNaN_add (hmember _ (by omega))
      (Double.not_isNaN_of_isFinite (hmember _ (by omega))))

/-- The points of the polylines at one sample. -/
def sampledAt (resampled : List (List Point)) (sampleIndex : Nat) : List Point :=
  resampled.map fun points => points.getD sampleIndex ⟨.nan, .nan⟩

theorem fitCorridor_at {resampled : List (List Point)} {corridor : List Point} {count : Nat}
    (hcount : ∀ points ∈ resampled, points.length = count)
    (h : fitCorridor library resampled = .ok corridor) :
    corridor.length = count ∧ ∀ index point, corridor[index]? = some point →
      median library ((sampledAt resampled index).map Point.xM) = .ok point.xM ∧
        median library ((sampledAt resampled index).map Point.yM) = .ok point.yM := by
  cases resampled with
  | nil => cases h
  | cons first rest =>
    have hfirst := hcount first List.mem_cons_self
    have hall := forall₂_of_mapM_eq_ok h
    have hlength : corridor.length = count := by
      rw [← hall.length_eq, List.length_range, hfirst]
    refine ⟨hlength, ?_⟩
    intro index point hpoint
    obtain ⟨hindex, rfl⟩ := List.getElem?_eq_some_iff.mp hpoint
    have hrange : index < (List.range first.length).length := by
      rw [List.length_range, hfirst, ← hlength]
      exact hindex
    have hat := hall.get hrange hindex
    simp only [List.get_eq_getElem, List.getElem_range] at hat
    obtain ⟨x, hx, hat⟩ := bind_eq_ok_iff.mp hat
    obtain ⟨y, hy, hat⟩ := bind_eq_ok_iff.mp hat
    have hvalue := Except.ok.inj hat
    rw [← hvalue]
    exact ⟨hx, hy⟩

theorem getElem?_front {points : List Point} (h : points ≠ []) :
    points[0]? = some (front points) := by
  cases points with
  | nil => exact absurd rfl h
  | cons head rest => rfl

theorem getElem?_back {points : List Point} (h : points ≠ []) :
    points[points.length - 1]? = some (back points) := by
  unfold back
  rw [List.getLastD_eq_getLast?, ← List.getLast?_eq_getElem?, List.getLast?_eq_some_getLast h]
  rfl

def Point.isNumber (point : Point) : Prop :=
  point.xM.isNaN = false ∧ point.yM.isNaN = false

/-- A corridor point between finite points is no NaN. -/
theorem isNumber_of_sampled {resampled : List (List Point)} {index : Nat} {point : Point}
    (hfinite : ∀ sampled ∈ sampledAt resampled index, sampled.isFinite = true)
    (hx : median library ((sampledAt resampled index).map Point.xM) = .ok point.xM)
    (hy : median library ((sampledAt resampled index).map Point.yM) = .ok point.yM) :
    point.isNumber := by
  have hboth : ∀ sampled ∈ sampledAt resampled index,
      sampled.xM.isFinite = true ∧ sampled.yM.isFinite = true := by
    intro sampled hsampled
    exact (Bool.and_eq_true _ _).mp (hfinite sampled hsampled)
  exact ⟨isNaN_median (List.forall_mem_map.mpr fun sampled h => (hboth sampled h).1) hx,
    isNaN_median (List.forall_mem_map.mpr fun sampled h => (hboth sampled h).2) hy⟩

/-- The ends of a corridor are numbers: they lie between the ends of the polylines, which
no resampling moves. -/
theorem corridor_ends {resampled : List (List Point)} {corridor : List Point} {count : Nat}
    (hcount : 2 ≤ count) (hlength : ∀ points ∈ resampled, points.length = count)
    (hfront : ∀ points ∈ resampled, (front points).isFinite = true)
    (hback : ∀ points ∈ resampled, (back points).isFinite = true)
    (h : fitCorridor library resampled = .ok corridor) :
    (front corridor).isNumber ∧ (back corridor).isNumber := by
  obtain ⟨hcorridor, hat⟩ := fitCorridor_at hlength h
  have hnonempty : corridor ≠ [] := List.ne_nil_of_length_pos (by omega)
  obtain ⟨hx, hy⟩ := hat 0 _ (getElem?_front hnonempty)
  obtain ⟨hx', hy'⟩ := hat _ _ (getElem?_back hnonempty)
  constructor
  · apply isNumber_of_sampled _ hx hy
    refine List.forall_mem_map.mpr fun points hpoints => ?_
    have hsome : points ≠ [] := List.ne_nil_of_length_pos (by rw [hlength points hpoints]; omega)
    rw [List.getD_eq_getElem?_getD, getElem?_front hsome]
    exact hfront points hpoints
  · apply isNumber_of_sampled _ hx' hy'
    refine List.forall_mem_map.mpr fun points hpoints => ?_
    have hsome : points ≠ [] := List.ne_nil_of_length_pos (by rw [hlength points hpoints]; omega)
    rw [hcorridor, ← hlength points hpoints, List.getD_eq_getElem?_getD, getElem?_back hsome]
    exact hback points hpoints

theorem isNaN_nodeDistance {nodes : List GraphNode} {point : Point} (hpoint : point.isNumber)
    (hnodes : ∀ node ∈ nodes, ValidNode node) (index : Fin nodes.length) :
    (nodeDistance library nodes point index).isNaN = false := by
  have hposition := (hnodes _ (List.get_mem nodes index)).position
  obtain ⟨hx, hy⟩ := (Bool.and_eq_true _ _).mp hposition
  exact library.hypot_isNaN _ _ (Double.isNaN_sub hx hpoint.1) (Double.isNaN_sub hy hpoint.2)

end Corridor

/-! ## Clusters -/

section Clusters

variable {library : StandardLibrary} {intervals : List OffMapInterval} {nodes : List GraphNode}
  {arcs : List GraphArc} {parameters : Parameters}

/-- A selected interval with its points resampled. -/
structure Selected.Faithful (library : StandardLibrary) (parameters : Parameters)
    (selected : Selected intervals) : Prop where
  resample : resample library selected.interval.points parameters.resamplePointCount =
    .ok selected.resampled
  shape : Resampled selected.interval.points parameters.resamplePointCount selected.resampled
  valid : ValidInterval library parameters selected.interval

theorem Selects.faithful {selection : Selection intervals}
    (hcount : 2 ≤ parameters.resamplePointCount)
    (hvalid : ∀ interval ∈ intervals, ValidInterval library parameters interval)
    (h : Selects library parameters (List.finRange intervals.length) selection) :
    ∀ selected ∈ selection.selected, selected.Faithful library parameters := by
  intro selected hselected
  have hcore : selected.core ∈ selection.selected.map Selected.core :=
    List.mem_map_of_mem hselected
  rw [h.selected] at hcore
  obtain ⟨interval, -, hkept⟩ := List.mem_filterMap.mp hcore
  have hinterval := hvalid _ (List.get_mem intervals selected.index)
  unfold kept at hkept
  split at hkept
  next resampled hdecided =>
    have hpair := Option.some.inj hkept
    have hsame : interval = selected.interval := congrArg Prod.fst hpair
    have hpoints : resampled = selected.resampled := congrArg Prod.snd hpair
    rw [hsame, hpoints] at hdecided
    obtain ⟨hresample, hshape⟩ := decided_selected hcount hinterval hdecided
    exact ⟨hresample, hshape, hinterval⟩
  next => cases hkept

theorem Selected.Faithful.ends {selected : Selected intervals}
    (h : selected.Faithful library parameters) :
    (front selected.resampled).isFinite = true ∧ (back selected.resampled).isFinite = true := by
  have hpoints := h.valid.points
  have htwo := hpoints.two
  have hnonempty : selected.interval.points ≠ [] := List.ne_nil_of_length_pos (by omega)
  rw [h.shape.front, h.shape.back]
  exact ⟨hpoints.finite _ (front_mem hnonempty), hpoints.finite _ (back_mem hnonempty)⟩

variable (library nodes parameters) in
/-- The cluster of these members: their traversals, the corridor fitted to their resampled
points, and the nodes that its ends snap to. -/
structure Summarizes (members : List (Selected intervals))
    (cluster : Cluster (Fin intervals.length) (Fin nodes.length)) : Prop where
  members : (members.map Selected.index).Perm cluster.intervalIndices
  traversals : cluster.independentTraversalCount =
    (cluster.intervalIndices.map fun index => (intervals.get index).traversalId).toFinset.card
  corridor : ∃ resampled, fitCorridor library resampled = .ok cluster.fittedCorridor ∧
    List.Forall₂ (fun index points => resample library (intervals.get index).points
      parameters.resamplePointCount = .ok points) cluster.intervalIndices resampled
  start : ∀ node, cluster.startNodeIndex = some node ↔ SnapsTo library nodes
    parameters.endpointSnapRadiusM (front cluster.fittedCorridor) node
  stop : ∀ node, cluster.endNodeIndex = some node ↔ SnapsTo library nodes
    parameters.endpointSnapRadiusM (back cluster.fittedCorridor) node
  startDistance : cluster.startEndpointDistanceM = cluster.startNodeIndex.map
    (nodeDistance library nodes (front cluster.fittedCorridor))
  stopDistance : cluster.endEndpointDistanceM = cluster.endNodeIndex.map
    (nodeDistance library nodes (back cluster.fittedCorridor))

theorem nearestNode_distance_map {point : Point} {radius : Double}
    (hnumber : ∀ index, (nodeDistance library nodes point index).isNaN = false) :
    (nearestNode library nodes point radius).map NearestNode.distanceM =
      ((nearestNode library nodes point radius).map NearestNode.index).map
        (nodeDistance library nodes point) := by
  cases hfound : nearestNode library nodes point radius with
  | none => rfl
  | some found => exact congrArg some (nearestNode_distance hnumber hfound)

theorem summarize_summarizes {ordinal : Nat} {members : List (Selected intervals)}
    {cluster : Cluster (Fin intervals.length) (Fin nodes.length)}
    (hcount : 2 ≤ parameters.resamplePointCount)
    (hradius : parameters.endpointSnapRadiusM.isNaN = false)
    (hnodes : ∀ node ∈ nodes, ValidNode node) (hunique : (nodes.map GraphNode.nodeId).Nodup)
    (hmembers : ∀ member ∈ members, member.Faithful library parameters)
    (h : summarize library nodes parameters ordinal members = .ok cluster) :
    Summarizes library nodes parameters members cluster := by
  obtain ⟨corridor, hcorridor, h⟩ := bind_eq_ok_iff.mp h
  cases h
  have hperm : (sortById members).Perm members := List.mergeSort_perm _ _
  have hfaithful : ∀ member ∈ sortById members, member.Faithful library parameters :=
    fun member hmember => hmembers member (hperm.subset hmember)
  obtain ⟨hfront, hback⟩ := corridor_ends hcount
    (List.forall_mem_map.mpr fun member hmember => (hfaithful member hmember).shape.length)
    (List.forall_mem_map.mpr fun member hmember => (hfaithful member hmember).ends.1)
    (List.forall_mem_map.mpr fun member hmember => (hfaithful member hmember).ends.2) hcorridor
  have hstart : ∀ index, (nodeDistance library nodes (front corridor) index).isNaN = false :=
    isNaN_nodeDistance hfront hnodes
  have hstop : ∀ index, (nodeDistance library nodes (back corridor) index).isNaN = false :=
    isNaN_nodeDistance hback hnodes
  refine ⟨(hperm.map _).symm, ?_, ⟨_, hcorridor, ?_⟩,
    fun node => nearestNode_index_iff hradius hstart hunique,
    fun node => nearestNode_index_iff hradius hstop hunique, nearestNode_distance_map hstart,
    nearestNode_distance_map hstop⟩
  · rw [List.card_toFinset, List.map_map]
    rfl
  · rw [List.forall₂_map_left_iff, List.forall₂_map_right_iff]
    exact List.forall₂_same.mpr fun member hmember => (hfaithful member hmember).resample

end Clusters

/-! ## Hypotheses -/

section Hypotheses

variable {library : StandardLibrary} {intervals : List OffMapInterval} {nodes : List GraphNode}
  {arcs : List GraphArc} {parameters : Parameters}

variable (library intervals parameters) in
/-- The members of the cluster name enough traversals, and the ends of its corridor snap to
these two nodes. -/
structure Connects (cluster : Cluster (Fin intervals.length) (Fin nodes.length))
    (start stop : Fin nodes.length) : Prop where
  traversals : parameters.minimumIndependentTraversals ≤
    (cluster.intervalIndices.map fun index => (intervals.get index).traversalId).toFinset.card
  snapsStart :
    SnapsTo library nodes parameters.endpointSnapRadiusM (front cluster.fittedCorridor) start
  snapsStop :
    SnapsTo library nodes parameters.endpointSnapRadiusM (back cluster.fittedCorridor) stop
  distinct : start ≠ stop

/-- The farther of the two nodes from its end of the corridor. -/
def endpointError (library : StandardLibrary)
    (cluster : Cluster (Fin intervals.length) (Fin nodes.length)) (start stop : Fin nodes.length) :
    Double :=
  (nodeDistance library nodes (front cluster.fittedCorridor) start).max
    (nodeDistance library nodes (back cluster.fittedCorridor) stop)

variable (library intervals parameters) in
/-- What a hypothesis about the cluster says: no arc joins the two nodes, or the closest of
those that do is too far. -/
inductive Supports (arcs : List GraphArc) (clusterIndex : Nat)
    (cluster : Cluster (Fin intervals.length) (Fin nodes.length)) :
    Hypothesis (Fin nodes.length) (Fin arcs.length) → Prop
  | missing (start stop : Fin nodes.length)
      (connects : Connects library intervals parameters cluster start stop)
      (missing : ∀ arc ∈ arcs, ¬ arc.Joins start stop) :
      Supports arcs clusterIndex cluster
        ⟨.missingConnection, clusterIndex, start, stop, none,
          endpointError library cluster start stop, none⟩
  | disagreement (start stop : Fin nodes.length) (arc : Fin arcs.length) (error : Double)
      (connects : Connects library intervals parameters cluster start stop)
      (closest : ClosestArc library nodes arcs parameters cluster.fittedCorridor start stop arc error)
      (exceeds : parameters.geometryDisagreementMeanDistanceM.lt error = true) :
      Supports arcs clusterIndex cluster
        ⟨.geometryDisagreement, clusterIndex, start, stop, some arc,
          endpointError library cluster start stop, some error⟩

variable {clusterIndex : Nat} {cluster : Cluster (Fin intervals.length) (Fin nodes.length)}
  {members : List (Selected intervals)}

/-- The nodes that the ends of a corridor snap to are the only ones. -/
theorem Connects.ends {start stop : Fin nodes.length}
    (hsummary : Summarizes library nodes parameters members cluster)
    (h : Connects library intervals parameters cluster start stop) :
    cluster.startNodeIndex = some start ∧ cluster.endNodeIndex = some stop :=
  ⟨(hsummary.start start).mpr h.snapsStart, (hsummary.stop stop).mpr h.snapsStop⟩

theorem connects_of_summary {start stop : Fin nodes.length}
    (hsummary : Summarizes library nodes parameters members cluster)
    (hstart : cluster.startNodeIndex = some start) (hstop : cluster.endNodeIndex = some stop)
    (hwarranted : ¬ (cluster.independentTraversalCount < parameters.minimumIndependentTraversals ∨
      start = stop)) : Connects library intervals parameters cluster start stop where
  traversals := by
    rw [← hsummary.traversals]
    exact Nat.le_of_not_lt fun hfew => hwarranted (Or.inl hfew)
  snapsStart := (hsummary.start start).mp hstart
  snapsStop := (hsummary.stop stop).mp hstop
  distinct := fun hsame => hwarranted (Or.inr hsame)

theorem Supports.clusterResultIndex {hypothesis : Hypothesis (Fin nodes.length) (Fin arcs.length)}
    (h : Supports library intervals parameters arcs clusterIndex cluster hypothesis) :
    hypothesis.clusterResultIndex = clusterIndex := by
  cases h with
  | missing => rfl
  | disagreement => rfl

/-- The hypothesis that the closest arc leaves, where there is one. -/
def supported (parameters : Parameters) (clusterIndex : Nat) (start stop : Fin nodes.length)
    (endpointError : Double) :
    Option (ComparedArc arcs) → Option (Hypothesis (Fin nodes.length) (Fin arcs.length))
  | none => some ⟨.missingConnection, clusterIndex, start, stop, none, endpointError, none⟩
  | some compared =>
    if parameters.geometryDisagreementMeanDistanceM.lt compared.error then
      some ⟨.geometryDisagreement, clusterIndex, start, stop, some compared.index, endpointError,
        some compared.error⟩
    else none

/-- The two ends of the cluster at which a hypothesis is looked for. -/
theorem hypothesize_eq {start stop : Fin nodes.length}
    (hsummary : Summarizes library nodes parameters members cluster)
    (hstart : cluster.startNodeIndex = some start) (hstop : cluster.endNodeIndex = some stop) :
    hypothesize library nodes arcs parameters clusterIndex cluster =
      if cluster.independentTraversalCount < parameters.minimumIndependentTraversals ∨
        start = stop then pure none
      else bestArc library nodes arcs parameters cluster.fittedCorridor start stop >>= fun best =>
        pure (supported parameters clusterIndex start stop
          (endpointError library cluster start stop) best) := by
  have hstartDistance := hsummary.startDistance
  have hstopDistance := hsummary.stopDistance
  rw [hstart] at hstartDistance
  rw [hstop] at hstopDistance
  unfold hypothesize
  rw [hstart, hstop, hstartDistance, hstopDistance]
  dsimp only [Option.map_some]
  split_ifs with hunwarranted
  · rfl
  · congr 1
    funext best
    cases best with
    | none => rfl
    | some compared =>
      dsimp only [supported]
      split_ifs with hexceeds
      · rfl
      · rfl

theorem supports_of_hypothesize {hypothesis : Hypothesis (Fin nodes.length) (Fin arcs.length)}
    (hsummary : Summarizes library nodes parameters members cluster)
    (h : hypothesize library nodes arcs parameters clusterIndex cluster = .ok (some hypothesis)) :
    Supports library intervals parameters arcs clusterIndex cluster hypothesis := by
  cases hstart : cluster.startNodeIndex with
  | none =>
    unfold hypothesize at h
    rw [hstart] at h
    cases h
  | some start =>
    cases hstop : cluster.endNodeIndex with
    | none =>
      unfold hypothesize at h
      rw [hstart, hstop] at h
      cases h
    | some stop =>
      rw [hypothesize_eq hsummary hstart hstop] at h
      by_cases hunwarranted : cluster.independentTraversalCount <
          parameters.minimumIndependentTraversals ∨ start = stop
      · rw [if_pos hunwarranted] at h
        cases h
      · rw [if_neg hunwarranted] at h
        have hconnects := connects_of_summary hsummary hstart hstop hunwarranted
        obtain ⟨best, hbest, h⟩ := bind_eq_ok_iff.mp h
        have hsupported := Except.ok.inj h
        cases best with
        | none =>
          cases hsupported
          exact .missing start stop hconnects (bestArc_none hbest)
        | some compared =>
          dsimp only [supported] at hsupported
          split_ifs at hsupported with hexceeds
          cases hsupported
          exact .disagreement start stop compared.index compared.error hconnects
            (bestArc_some hbest) hexceeds

theorem hypothesize_of_connects {start stop : Fin nodes.length}
    {outcome : Option (Hypothesis (Fin nodes.length) (Fin arcs.length))}
    (hsummary : Summarizes library nodes parameters members cluster)
    (hconnects : Connects library intervals parameters cluster start stop)
    (h : hypothesize library nodes arcs parameters clusterIndex cluster = .ok outcome) :
    ∃ best, bestArc library nodes arcs parameters cluster.fittedCorridor start stop = .ok best ∧
      supported parameters clusterIndex start stop (endpointError library cluster start stop) best =
        outcome := by
  obtain ⟨hstart, hstop⟩ := hconnects.ends hsummary
  have hwarranted : ¬ (cluster.independentTraversalCount <
      parameters.minimumIndependentTraversals ∨ start = stop) := by
    rintro (hfew | hsame)
    · rw [hsummary.traversals] at hfew
      exact absurd hconnects.traversals (Nat.not_le_of_lt hfew)
    · exact hconnects.distinct hsame
  rw [hypothesize_eq hsummary hstart hstop, if_neg hwarranted] at h
  obtain ⟨best, hbest, h⟩ := bind_eq_ok_iff.mp h
  exact ⟨best, hbest, Except.ok.inj h⟩

/-- Where a hypothesis is warranted, one of its kind is supported. -/
theorem hypothesize_of_supports {hypothesis : Hypothesis (Fin nodes.length) (Fin arcs.length)}
    {outcome : Option (Hypothesis (Fin nodes.length) (Fin arcs.length))}
    (hsummary : Summarizes library nodes parameters members cluster)
    (h : hypothesize library nodes arcs parameters clusterIndex cluster = .ok outcome)
    (hsupports : Supports library intervals parameters arcs clusterIndex cluster hypothesis) :
    ∃ emitted, outcome = some emitted ∧ emitted.kind = hypothesis.kind := by
  cases hsupports with
  | missing start stop hconnects hmissing =>
    obtain ⟨best, hbest, rfl⟩ := hypothesize_of_connects hsummary hconnects h
    cases best with
    | none => exact ⟨_, rfl, rfl⟩
    | some compared =>
      have hjoins := (bestArc_some hbest).joins
      exact absurd hjoins (hmissing _ (List.get_mem arcs compared.index))
  | disagreement start stop arc error hconnects hclosest hexceeds =>
    obtain ⟨best, hbest, rfl⟩ := hypothesize_of_connects hsummary hconnects h
    cases best with
    | none => exact absurd hclosest.joins (bestArc_none hbest _ (List.get_mem arcs arc))
    | some compared =>
      have hcompared := bestArc_some hbest
      obtain ⟨otherError, hother, hle⟩ := hclosest.closest compared.index hcompared.joins
      have hsame : otherError = compared.error :=
        Except.ok.inj (hother.symm.trans hcompared.attains)
      rw [hsame] at hle
      refine ⟨_, if_pos (Double.lt_of_lt_of_le hexceeds hle), rfl⟩

/-- A cluster that is looked at supports one hypothesis at most. -/
theorem sublist_clusterResultIndex
    {clusters : List (Cluster (Fin intervals.length) (Fin nodes.length))} {first : Nat}
    {outcomes : List (Option (Hypothesis (Fin nodes.length) (Fin arcs.length)))}
    (h : List.Forall₂ (fun (entry : Cluster (Fin intervals.length) (Fin nodes.length) × Nat)
      (outcome : Option (Hypothesis (Fin nodes.length) (Fin arcs.length))) =>
        ∀ hypothesis ∈ outcome, hypothesis.clusterResultIndex = entry.2)
      (clusters.zipIdx first) outcomes) :
    ((outcomes.filterMap id).map Hypothesis.clusterResultIndex).Sublist
      (List.range' first clusters.length) := by
  induction clusters generalizing first outcomes with
  | nil =>
    cases h
    exact List.Sublist.refl _
  | cons cluster rest ih =>
    cases h with
    | @cons _ outcome _ outcomes hhead hrest =>
      rw [List.length_cons, List.range'_succ]
      cases outcome with
      | none => exact (ih hrest).cons _
      | some hypothesis =>
        have hindex : hypothesis.clusterResultIndex = first := hhead hypothesis rfl
        change (hypothesis.clusterResultIndex ::
          (outcomes.filterMap id).map Hypothesis.clusterResultIndex).Sublist _
        rw [hindex]
        exact (ih hrest).cons_cons _

end Hypotheses

/-! ## The miner -/

section Miner

variable {library : StandardLibrary} {intervals : List OffMapInterval} {nodes : List GraphNode}
  {arcs : List GraphArc} {parameters : Parameters}
  {result : MiningResult (Fin intervals.length) (Fin nodes.length) (Fin arcs.length)}

theorem validateParameters_spec (h : validateParameters parameters = .ok ()) :
    2 ≤ parameters.resamplePointCount ∧ parameters.endpointSnapRadiusM.isNaN = false := by
  have hvalid := throwIf_eq_ok_iff.mp h
  simp only [not_or, Bool.not_eq_false] at hvalid
  obtain ⟨-, -, -, -, -, hcount, -, -, -, -, -, -, -, -, hradius, -⟩ := hvalid
  exact ⟨Nat.le_of_not_lt hcount, Double.not_isNaN_of_isFinite hradius⟩

variable (library intervals nodes arcs parameters result) in
/-- What the hypotheses of a run were drawn from. -/
structure Mined : Prop where
  summarized : ∀ cluster ∈ result.clusters, ∃ members : List (Selected intervals),
    Summarizes library nodes parameters members cluster
  drawn : ∃ outcomes, List.Forall₂ (fun (entry : _ × Nat) outcome =>
      hypothesize library nodes arcs parameters entry.2 entry.1 = .ok outcome)
    result.clusters.zipIdx outcomes ∧ result.hypotheses = outcomes.filterMap id

theorem mined_of_eq_ok (h : mineRepeatedTopologyDisagreements library intervals nodes arcs
    parameters = .ok result) : Mined library intervals nodes arcs parameters result := by
  unfold mineRepeatedTopologyDisagreements at h
  obtain ⟨hparameters, h⟩ := bind_unit_eq_ok_iff.mp h
  obtain ⟨hcount, hradius⟩ := validateParameters_spec hparameters
  obtain ⟨hinputs, h⟩ := bind_unit_eq_ok_iff.mp h
  have hvalid := validateInputs_eq_ok_iff.mp hinputs
  obtain ⟨selection, hselection, h⟩ := bind_eq_ok_iff.mp h
  obtain ⟨selected, hselected, hselects⟩ := select_selects hcount hvalid.validIntervals
  obtain rfl : selected = selection := Except.ok.inj (hselected.symm.trans hselection)
  have hfaithful := hselects.faithful hcount hvalid.validIntervals
  obtain ⟨_, -, h⟩ := bind_eq_ok_iff.mp h
  obtain ⟨clusterMembers, hmembers, h⟩ := bind_eq_ok_iff.mp h
  obtain ⟨clusters, hclusters, h⟩ := bind_eq_ok_iff.mp h
  obtain ⟨outcomes, houtcomes, h⟩ := bind_eq_ok_iff.mp h
  cases h
  refine ⟨?_, outcomes, forall₂_of_mapM_eq_ok houtcomes, rfl⟩
  intro cluster hcluster
  obtain ⟨entry, hentry, hsummary⟩ :=
    exists_left_of_mem (forall₂_of_mapM_eq_ok hclusters) hcluster
  have hordered : (sortById selected.selected).Pairwise fun _ _ => True :=
    List.pairwise_of_forall fun _ _ => trivial
  have hpartition := (completeLink_clustered hordered hmembers).partition
  refine ⟨entry.1, summarize_summarizes hcount hradius hvalid.validNodes hvalid.nodeIds ?_ hsummary⟩
  intro member hmember
  have hflat := hpartition.subset
    (List.mem_flatten.mpr ⟨entry.1, List.fst_mem_of_mem_zipIdx hentry, hmember⟩)
  exact hfaithful member ((List.mergeSort_perm _ _).subset hflat)

section Cluster

variable {clusterIndex : Nat} {cluster : Cluster (Fin intervals.length) (Fin nodes.length)}

theorem Mined.summary (h : Mined library intervals nodes arcs parameters result)
    (hcluster : result.clusters[clusterIndex]? = some cluster) :
    ∃ members : List (Selected intervals),
      Summarizes library nodes parameters members cluster :=
  h.summarized cluster (List.mem_of_getElem? hcluster)

theorem Mined.outcome (h : Mined library intervals nodes arcs parameters result)
    (hcluster : result.clusters[clusterIndex]? = some cluster) :
    ∃ outcome, hypothesize library nodes arcs parameters clusterIndex cluster = .ok outcome := by
  obtain ⟨outcomes, hdrawn, -⟩ := h.drawn
  obtain ⟨outcome, -, houtcome⟩ :=
    exists_right_of_mem hdrawn (List.mk_mem_zipIdx_iff_getElem?.mpr hcluster)
  exact ⟨outcome, houtcome⟩

/-- The hypothesis about a cluster is the one that it supports. -/
theorem Mined.emitted_iff (h : Mined library intervals nodes arcs parameters result)
    (hcluster : result.clusters[clusterIndex]? = some cluster)
    {hypothesis : Hypothesis (Fin nodes.length) (Fin arcs.length)} :
    hypothesis ∈ result.hypotheses ∧ hypothesis.clusterResultIndex = clusterIndex ↔
      hypothesize library nodes arcs parameters clusterIndex cluster = .ok (some hypothesis) := by
  obtain ⟨outcomes, hdrawn, hhypotheses⟩ := h.drawn
  rw [hhypotheses]
  constructor
  · rintro ⟨hmem, hindex⟩
    obtain ⟨outcome, houtcome, hsome⟩ := List.mem_filterMap.mp hmem
    have heq : outcome = some hypothesis := hsome
    subst heq
    obtain ⟨⟨other, index⟩, hentry, hother⟩ := exists_left_of_mem hdrawn houtcome
    have hat := List.mk_mem_zipIdx_iff_getElem?.mp hentry
    obtain ⟨members, hsummary⟩ := h.summary hat
    have hsame : index = clusterIndex :=
      (supports_of_hypothesize hsummary hother).clusterResultIndex.symm.trans hindex
    subst hsame
    obtain rfl : other = cluster := Option.some.inj (hat.symm.trans hcluster)
    exact hother
  · intro hsupported
    obtain ⟨members, hsummary⟩ := h.summary hcluster
    obtain ⟨outcome, hmem, houtcome⟩ :=
      exists_right_of_mem hdrawn (List.mk_mem_zipIdx_iff_getElem?.mpr hcluster)
    obtain rfl : outcome = some hypothesis := Except.ok.inj (houtcome.symm.trans hsupported)
    exact ⟨List.mem_filterMap.mpr ⟨_, hmem, rfl⟩,
      (supports_of_hypothesize hsummary hsupported).clusterResultIndex⟩

theorem Mined.supports (h : Mined library intervals nodes arcs parameters result)
    (hcluster : result.clusters[clusterIndex]? = some cluster)
    {hypothesis : Hypothesis (Fin nodes.length) (Fin arcs.length)}
    (hmem : hypothesis ∈ result.hypotheses) (hindex : hypothesis.clusterResultIndex = clusterIndex) :
    Supports library intervals parameters arcs clusterIndex cluster hypothesis := by
  obtain ⟨members, hsummary⟩ := h.summary hcluster
  exact supports_of_hypothesize hsummary ((h.emitted_iff hcluster).mp ⟨hmem, hindex⟩)

/-- A hypothesis that is warranted has its kind among those emitted. -/
theorem Mined.emits (h : Mined library intervals nodes arcs parameters result)
    (hcluster : result.clusters[clusterIndex]? = some cluster)
    {hypothesis : Hypothesis (Fin nodes.length) (Fin arcs.length)}
    (hsupports : Supports library intervals parameters arcs clusterIndex cluster hypothesis) :
    ∃ emitted ∈ result.hypotheses, emitted.clusterResultIndex = clusterIndex ∧
      emitted.kind = hypothesis.kind := by
  obtain ⟨members, hsummary⟩ := h.summary hcluster
  obtain ⟨outcome, houtcome⟩ := h.outcome hcluster
  obtain ⟨emitted, rfl, hkind⟩ := hypothesize_of_supports hsummary houtcome hsupports
  obtain ⟨hmem, hindex⟩ := (h.emitted_iff hcluster).mpr houtcome
  exact ⟨emitted, hmem, hindex, hkind⟩

end Cluster

/-- No cluster has two hypotheses. -/
theorem Mined.once (h : Mined library intervals nodes arcs parameters result) :
    (result.hypotheses.map Hypothesis.clusterResultIndex).Sublist
      (List.range result.clusters.length) := by
  obtain ⟨outcomes, hdrawn, hhypotheses⟩ := h.drawn
  rw [hhypotheses, List.range_eq_range']
  apply sublist_clusterResultIndex
  have hplaced : ∀ entry ∈ result.clusters.zipIdx, result.clusters[entry.2]? = some entry.1 :=
    fun entry hentry => List.mk_mem_zipIdx_iff_getElem?.mp hentry
  apply ((List.forall₂_and_left _ _).mpr ⟨hplaced, hdrawn⟩).imp
  rintro ⟨cluster, index⟩ outcome ⟨hcluster, houtcome⟩ hypothesis hsome
  rw [Option.mem_def.mp hsome] at houtcome
  exact ((h.emitted_iff hcluster).mpr houtcome).2

/-- **Hypotheses are emitted exactly when warranted.**  A cluster has a missing connection
where enough traversals end at two nodes that no arc joins, and a geometry disagreement
where arcs do but the closest is too far; it never has two hypotheses. -/
theorem topology_hypotheses_warranted (h : mineRepeatedTopologyDisagreements library intervals
    nodes arcs parameters = .ok result) :
    (result.hypotheses.map Hypothesis.clusterResultIndex).Sublist
      (List.range result.clusters.length) ∧
    ∀ clusterIndex cluster, result.clusters[clusterIndex]? = some cluster →
      (∃ resampled, fitCorridor library resampled = .ok cluster.fittedCorridor ∧
        List.Forall₂ (fun index points => resample library (intervals.get index).points
          parameters.resamplePointCount = .ok points) cluster.intervalIndices resampled) ∧
      ((∃ hypothesis ∈ result.hypotheses, hypothesis.clusterResultIndex = clusterIndex ∧
          hypothesis.kind = .missingConnection) ↔
        ∃ start stop, Connects library intervals parameters cluster start stop ∧
          ∀ arc ∈ arcs, ¬ arc.Joins start stop) ∧
      ((∃ hypothesis ∈ result.hypotheses, hypothesis.clusterResultIndex = clusterIndex ∧
          hypothesis.kind = .geometryDisagreement) ↔
        ∃ start stop arc error, Connects library intervals parameters cluster start stop ∧
          ClosestArc library nodes arcs parameters cluster.fittedCorridor start stop arc error ∧
          parameters.geometryDisagreementMeanDistanceM.lt error = true) ∧
      ∀ hypothesis ∈ result.hypotheses, hypothesis.clusterResultIndex = clusterIndex →
        Supports library intervals parameters arcs clusterIndex cluster hypothesis := by
  have hmined := mined_of_eq_ok h
  refine ⟨hmined.once, fun clusterIndex cluster hcluster => ⟨?_, ?_, ?_, ?_⟩⟩
  · obtain ⟨members, hsummary⟩ := hmined.summary hcluster
    exact hsummary.corridor
  · constructor
    · rintro ⟨hypothesis, hmem, hindex, hkind⟩
      cases hmined.supports hcluster hmem hindex with
      | missing start stop hconnects hmissing => exact ⟨start, stop, hconnects, hmissing⟩
      | disagreement => cases hkind
    · rintro ⟨start, stop, hconnects, hmissing⟩
      exact hmined.emits hcluster (.missing start stop hconnects hmissing)
  · constructor
    · rintro ⟨hypothesis, hmem, hindex, hkind⟩
      cases hmined.supports hcluster hmem hindex with
      | missing => cases hkind
      | disagreement start stop arc error hconnects hclosest hexceeds =>
        exact ⟨start, stop, arc, error, hconnects, hclosest, hexceeds⟩
    · rintro ⟨start, stop, arc, error, hconnects, hclosest, hexceeds⟩
      exact hmined.emits hcluster (.disagreement start stop arc error hconnects hclosest hexceeds)
  · exact fun hypothesis hmem hindex => hmined.supports hcluster hmem hindex

end Miner

/-! ## A pass beside a missing road -/

/-- The length of a step along an axis. -/
def axisHypot (x y : Double) : Double :=
  x.abs.add y.abs

theorem axisHypot_isNaN {x y : Double} (hx : x.isNaN = false) (hy : y.isNaN = false) :
    (axisHypot x y).isNaN = false := by
  unfold axisHypot
  cases hfinite : x.abs.isFinite with
  | true => exact Double.isNaN_add hfinite ((Double.isNaN_abs y).trans hy)
  | false => exact Double.isNaN_add_abs hfinite ((Double.isNaN_abs x).trans hx) hy

/-- A library that is the real one along the axis of the first coordinate. -/
def sampleLibrary : StandardLibrary where
  hypot := axisHypot
  atan2 := fun y _ => y
  sort := fun values => values.mergeSort fun left right => decide (left.rank ≤ right.rank)
  hypot_abs := by
    intro x y
    rw [axisHypot, axisHypot, Double.abs_abs, Double.abs_abs]
  hypot_isNaN := fun _ _ hx hy => axisHypot_isNaN hx hy
  sort_perm := fun values => List.mergeSort_perm _ _
  sort_sorted := by
    intro values hvalues
    have hsorted : (values.mergeSort fun left right => decide (left.rank ≤ right.rank)).Pairwise
        fun left right => decide (left.rank ≤ right.rank) = true := by
      apply List.pairwise_mergeSort
      · intro a b c hab hbc
        exact decide_eq_true ((of_decide_eq_true hab).trans (of_decide_eq_true hbc))
      · intro a b
        rcases le_total a.rank b.rank with h | h
        · simp [h]
        · simp [h]
    apply hsorted.imp
    intro left right hle
    unfold Double.lt
    simp [(of_decide_eq_true hle : left.rank ≤ right.rank).not_gt]

def sampleParameters : Parameters where
  minimumPositioningQuality := .finite 0
  minimumIntervalLengthM := .finite 1
  resamplePointCount := 3
  maximumClusterMeanDistanceM := .finite 10
  maximumClusterEndpointDistanceM := .finite 10
  maximumHeadingDifferenceRad := .finite 1
  minimumIndependentTraversals := 1
  endpointSnapRadiusM := .finite 5
  geometryDisagreementMeanDistanceM := .finite 5
  graphEndpointToleranceM := .finite 1
  maximumIntervals := 4
  maximumPointsPerInterval := 4
  maximumTotalPoints := 16
  maximumGraphNodes := 4
  maximumGraphArcs := 4
  maximumPointsPerGraphArc := 4
  maximumTotalGraphPoints := 16
  maximumPairwiseComparisons := 16
  maximumClusters := 4

def samplePoint (x y : ℚ) : Point :=
  ⟨.finite x, .finite y⟩

def sampleInterval : OffMapInterval where
  intervalId := "interval"
  sequenceId := "sequence"
  traversalId := "traversal"
  sourceGroupId := "group"
  offMap := true
  positioningObservable := true
  directionConfident := true
  stationary := false
  positioningQuality := .finite 1
  points := [samplePoint 0 2, samplePoint 100 2]

def sampleNodes : List GraphNode :=
  [⟨"west", samplePoint 0 0⟩, ⟨"east", samplePoint 100 0⟩]

theorem topology_hypotheses_warranted_pass : ∃ result,
    mineRepeatedTopologyDisagreements sampleLibrary [sampleInterval] sampleNodes [] sampleParameters =
      .ok result ∧
    result.hypotheses.map Hypothesis.kind = [.missingConnection] ∧
    (result.hypotheses.map Hypothesis.clusterResultIndex).Sublist
      (List.range result.clusters.length) := by
  cases hresult : mineRepeatedTopologyDisagreements sampleLibrary [sampleInterval] sampleNodes []
      sampleParameters with
  | error refused =>
    have hreturns : (mineRepeatedTopologyDisagreements sampleLibrary [sampleInterval] sampleNodes []
        sampleParameters).toOption.isSome = true := by decide +kernel
    rw [hresult] at hreturns
    cases hreturns
  | ok result =>
    have hkinds : (mineRepeatedTopologyDisagreements sampleLibrary [sampleInterval] sampleNodes []
        sampleParameters).toOption.map (fun result => result.hypotheses.map Hypothesis.kind) =
          some [.missingConnection] := by decide +kernel
    rw [hresult] at hkinds
    exact ⟨result, rfl, Option.some.inj hkinds, (topology_hypotheses_warranted hresult).1⟩

end CartoSentry.Topology
