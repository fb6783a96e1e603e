import CartoSentry.Topology.Reordering

set_option autoImplicit false

/-!
# Topology hypotheses: the clusters of a run

Every interval is selected or counted under one reason, every selected interval is in one
cluster, the members of a cluster are compatible in pairs, and what stands in a later cluster was
refused by the members that the earlier ones had.
-/

namespace CartoSentry.Topology

open Foundation (Agree Clustered Double bind_eq_ok_iff bind_unit_eq_ok_iff completeLink
  completeLink_clustered completeLink_inhabited exists_left_of_mem forall₂_of_mapM_eq_ok
  pairwise_of_forall₂)
open Matching (InvalidArgument)

/-! ## Compatible in both orders -/

section Compatible

variable {library : StandardLibrary} {parameters : Parameters}

theorem distance_comm (left right : Point) :
    distance library left right = distance library right left := by
  unfold distance
  rw [← library.hypot_abs, Double.abs_sub_comm left.xM, Double.abs_sub_comm left.yM,
    library.hypot_abs]

theorem isFinite_turn : ((Double.finite 2).mul pi).isFinite = true := by
  decide +kernel

theorem headingDifference_comm (left right : Double) :
    headingDifference left right = headingDifference right left :=
  (Double.abs_remainder_sub_comm left right isFinite_turn).symm

theorem totalDistance_comm (left right : List Point) :
    totalDistance library left right = totalDistance library right left := by
  unfold totalDistance
  generalize Double.finite 0 = total
  induction left generalizing right total with
  | nil =>
    cases right with
    | nil => rfl
    | cons point right => rfl
  | cons other left ih =>
    cases right with
    | nil => rfl
    | cons point right =>
      rw [List.zip_cons_cons, List.zip_cons_cons, List.foldl_cons, List.foldl_cons,
        distance_comm, ih]

theorem meanCorrespondingDistance_comm {left right : List Point} (h : left.length = right.length) :
    meanCorrespondingDistance library left right = meanCorrespondingDistance library right left := by
  have hempty : left = [] ↔ right = [] := by
    rw [← List.length_eq_zero_iff, ← List.length_eq_zero_iff, h]
  unfold meanCorrespondingDistance
  rw [totalDistance_comm, h]
  simp only [hempty]

/-- Resampled to one length, two intervals are compatible in both orders or in neither. -/
theorem compatible_comm {left right : List Point} (h : left.length = right.length) :
    compatible library parameters left right = compatible library parameters right left := by
  unfold compatible
  rw [headingDifference_comm, distance_comm (front left), distance_comm (back left),
    meanCorrespondingDistance_comm h]

end Compatible

/-! ## What a run has done with the intervals -/

section Accounts

variable {library : StandardLibrary} {intervals : List OffMapInterval} {nodes : List GraphNode}
  {arcs : List GraphArc} {parameters : Parameters}

/-- The identifier of the interval at this position. -/
def idAt (intervals : List OffMapInterval) (index : Fin intervals.length) : String :=
  (intervals.get index).intervalId

/-- What `compatible` says of the intervals at two positions. -/
def PairTest (library : StandardLibrary) (parameters : Parameters) (intervals : List OffMapInterval)
    (linked : Bool) (index other : Fin intervals.length) : Prop :=
  ∃ left right, resample library (intervals.get index).points parameters.resamplePointCount = .ok left ∧
    resample library (intervals.get other).points parameters.resamplePointCount = .ok right ∧
    compatible library parameters left right = .ok linked

/-- The counter of a reason. -/
def MiningResult.rejectedAs {Interval Node Arc : Type} (result : MiningResult Interval Node Arc) :
    Verdict → Nat
  | .notOffMap => result.rejectedNotOffMap
  | .unobservable => result.rejectedUnobservable
  | .direction => result.rejectedDirection
  | .stationary => result.rejectedStationary
  | .quality => result.rejectedQuality
  | .short => result.rejectedShort
  | .selected _ => 0

/-- Every interval is selected or counted under one reason, and the selected ones are clustered
by complete link. -/
structure Accounts (library : StandardLibrary) (parameters : Parameters)
    (intervals : List OffMapInterval)
    (result : MiningResult (Fin intervals.length) (Fin nodes.length) (Fin arcs.length)) : Prop where
  judged : ∀ interval ∈ intervals,
    verdict library parameters interval = .ok (decided library parameters interval)
  total : result.selectedIntervalIndices.length + result.rejected = intervals.length
  rejected : ∀ reason : Verdict, reason.rejects = true → result.rejectedAs reason =
    intervals.countP fun interval => decided library parameters interval = reason
  selected : ∀ index, index ∈ result.selectedIntervalIndices ↔
    (decided library parameters (intervals.get index)).rejects = false
  ordered : result.selectedIntervalIndices.Pairwise fun earlier later =>
    idAt intervals earlier < idAt intervals later
  partition : (result.clusters.map Cluster.intervalIndices).flatten.Perm
    result.selectedIntervalIndices
  inhabited : ∀ cluster ∈ result.clusters, cluster.intervalIndices ≠ []
  linked : ∀ cluster ∈ result.clusters, ∀ index ∈ cluster.intervalIndices,
    ∀ other ∈ cluster.intervalIndices, index ≠ other →
      PairTest library parameters intervals true index other
  /-- The intervals are placed in the order of their identifiers: the members that a cluster had
  when one was placed are those with smaller identifiers. -/
  greedy : result.clusters.Pairwise fun earlier later => ∀ index ∈ later.intervalIndices,
    ∃ member ∈ earlier.intervalIndices, idAt intervals member < idAt intervals index ∧
      PairTest library parameters intervals false index member

/-! ## The selection of a run -/

theorem rejects_decided_iff {interval : OffMapInterval} :
    (decided library parameters interval).rejects = false ↔
      ∃ points, kept library parameters interval = some (interval, points) := by
  unfold kept
  cases decided library parameters interval with
  | selected points => exact ⟨fun _ => ⟨points, rfl⟩, fun _ => rfl⟩
  | _ =>
    constructor
    · intro h
      cases h
    · rintro ⟨points, h⟩
      cases h

section Selection

variable {selection : Selection intervals}

/-- The positions selected are those of the intervals that are kept. -/
theorem Selects.mem_iff
    (h : Selects library parameters (List.finRange intervals.length) selection)
    (hunique : (intervals.map OffMapInterval.intervalId).Nodup) (index : Fin intervals.length) :
    index ∈ selection.selected.map Selected.index ↔
      (decided library parameters (intervals.get index)).rejects = false := by
  have hcores := h.selected
  rw [List.map_get_finRange] at hcores
  rw [rejects_decided_iff]
  constructor
  · intro hindex
    obtain ⟨member, hmember, rfl⟩ := List.mem_map.mp hindex
    have hcore : member.core ∈ selection.selected.map Selected.core := List.mem_map_of_mem hmember
    rw [hcores] at hcore
    obtain ⟨interval, -, hkept⟩ := List.mem_filterMap.mp hcore
    have hsame : intervals.get member.index = interval := kept_fst hkept
    rw [hsame]
    refine ⟨member.resampled, hkept.trans ?_⟩
    exact congrArg some (Prod.ext hsame rfl)
  · rintro ⟨points, hkept⟩
    have hcore : (intervals.get index, points) ∈ selection.selected.map Selected.core := by
      rw [hcores]
      exact List.mem_filterMap.mpr ⟨_, List.get_mem intervals index, hkept⟩
    obtain ⟨member, hmember, hsame⟩ := List.mem_map.mp hcore
    have hid : idAt intervals member.index = idAt intervals index :=
      congrArg (fun core => core.1.intervalId) hsame
    rw [← get_injective hunique hid]
    exact List.mem_map_of_mem hmember

/-- The selected intervals in the order of their identifiers, which are distinct. -/
theorem Selects.sorted
    (h : Selects library parameters (List.finRange intervals.length) selection)
    (hunique : (intervals.map OffMapInterval.intervalId).Nodup) :
    (sortById selection.selected).Pairwise fun earlier later =>
      idAt intervals earlier.index < idAt intervals later.index := by
  have hle : (sortById selection.selected).Pairwise fun earlier later =>
      earlier.intervalId ≤ later.intervalId := by
    have hcores := pairwise_sortCores (selection.selected.map Selected.core)
    rw [← map_core_sortById, List.pairwise_map] at hcores
    exact hcores
  have hnodup : ((sortById selection.selected).map fun member =>
      idAt intervals member.index).Nodup := by
    have hindices : (selection.selected.map Selected.index).Nodup :=
      (List.nodup_finRange intervals.length).sublist h.positions
    have hids := hindices.map (get_injective hunique)
    rw [List.map_map] at hids
    exact (((List.mergeSort_perm selection.selected _).map _).nodup_iff).mpr hids
  exact hle.imp₂ (fun earlier later hle hne => lt_of_le_of_ne hle hne) (List.pairwise_map.mp hnodup)

end Selection

/-! ## The clusters of a run -/

theorem pairTest_of_compatible {left right : Selected intervals} {linked : Bool}
    (hleft : left.Faithful library parameters) (hright : right.Faithful library parameters)
    (h : compatible library parameters left.resampled right.resampled = .ok linked) :
    PairTest library parameters intervals linked left.index right.index :=
  ⟨_, _, hleft.resample, hright.resample, h⟩

theorem summarize_intervalIndices {ordinal : Nat} {members : List (Selected intervals)}
    {cluster : Cluster (Fin intervals.length) (Fin nodes.length)}
    (h : summarize library nodes parameters ordinal members = .ok cluster) :
    cluster.intervalIndices = (sortById members).map Selected.index := by
  obtain ⟨corridor, -, h⟩ := bind_eq_ok_iff.mp h
  cases h
  rfl

theorem mem_sortById {members : List (Selected intervals)} {member : Selected intervals} :
    member ∈ sortById members ↔ member ∈ members :=
  (List.mergeSort_perm members _).mem_iff

/-- The members of a cluster were each linked to those before them, and `compatible` does not
tell the two apart. -/
theorem linked_of_members {members : List (Selected intervals)}
    (hfaithful : ∀ member ∈ members, member.Faithful library parameters)
    (h : members.Pairwise fun earlier later =>
      compatible library parameters later.resampled earlier.resampled = .ok true) :
    ∀ left ∈ members, ∀ right ∈ members, left.index ≠ right.index →
      PairTest library parameters intervals true left.index right.index := by
  have hboth : members.Pairwise fun left right =>
      PairTest library parameters intervals true left.index right.index ∧
        PairTest library parameters intervals true right.index left.index := by
    refine List.Pairwise.imp_of_mem (fun hearlier hlater hlink => ?_) h
    have hlength := (hfaithful _ hearlier).shape.length.trans (hfaithful _ hlater).shape.length.symm
    constructor
    · rw [← compatible_comm hlength] at hlink
      exact pairTest_of_compatible (hfaithful _ hearlier) (hfaithful _ hlater) hlink
    · exact pairTest_of_compatible (hfaithful _ hlater) (hfaithful _ hearlier) hlink
  intro left hleft right hright hapart
  have hsymmetric : Std.Symm fun left right : Selected intervals =>
      PairTest library parameters intervals true left.index right.index ∧
        PairTest library parameters intervals true right.index left.index :=
    ⟨fun _ _ h => h.symm⟩
  exact (hboth.forall hleft hright fun hsame => hapart (congrArg _ hsame)).1

/-- The positions of the clusters are those of their members, each list in order. -/
theorem flatten_members_perm {clusterMembers : List (List (Selected intervals))}
    {selected : List (Selected intervals)} (h : clusterMembers.flatten.Perm selected) :
    (clusterMembers.map fun members => (sortById members).map Selected.index).flatten.Perm
      (selected.map Selected.index) := by
  have hsorted : (clusterMembers.flatMap fun members => (sortById members).map Selected.index).Perm
      (clusterMembers.flatMap fun members => members.map Selected.index) :=
    List.Perm.flatMap_left _ fun members _ => (List.mergeSort_perm members _).map _
  rw [← List.flatMap_def]
  refine hsorted.trans ?_
  rw [List.flatMap_def, ← List.map_flatten]
  exact h.map _

theorem accounts_of_eq_ok
    {result : MiningResult (Fin intervals.length) (Fin nodes.length) (Fin arcs.length)}
    (h : mineRepeatedTopologyDisagreements library intervals nodes arcs parameters = .ok result) :
    Accounts library parameters intervals result := by
  unfold mineRepeatedTopologyDisagreements at h
  obtain ⟨hparameters, h⟩ := bind_unit_eq_ok_iff.mp h
  obtain ⟨hcount, -⟩ := validateParameters_spec hparameters
  obtain ⟨hinputs, h⟩ := bind_unit_eq_ok_iff.mp h
  have hvalid := validateInputs_eq_ok_iff.mp hinputs
  obtain ⟨selection, hselection, h⟩ := bind_eq_ok_iff.mp h
  obtain ⟨other, hother, hselects⟩ := select_selects hcount hvalid.validIntervals
  obtain rfl : other = selection := Except.ok.inj (hother.symm.trans hselection)
  have hfaithful := hselects.faithful hcount hvalid.validIntervals
  obtain ⟨_, -, h⟩ := bind_eq_ok_iff.mp h
  obtain ⟨clusterMembers, hmembers, h⟩ := bind_eq_ok_iff.mp h
  obtain ⟨clusters, hclusters, h⟩ := bind_eq_ok_iff.mp h
  obtain ⟨outcomes, -, h⟩ := bind_eq_ok_iff.mp h
  cases h
  have hsorted := hselects.sorted hvalid.intervalIds
  have hclustered := completeLink_clustered hsorted hmembers
  have hsummaries : List.Forall₂ (fun (entry : List (Selected intervals) × Nat)
      (cluster : Cluster (Fin intervals.length) (Fin nodes.length)) =>
        (∀ member ∈ entry.1, member.Faithful library parameters) ∧
          cluster.intervalIndices = (sortById entry.1).map Selected.index)
      clusterMembers.zipIdx clusters := by
    have hof := faithful_of_completeLink hfaithful hmembers
    have hentries : ∀ entry ∈ clusterMembers.zipIdx, ∀ member ∈ entry.1,
        member.Faithful library parameters :=
      fun entry hentry => hof entry.1 (List.fst_mem_of_mem_zipIdx hentry)
    have hboth := (List.forall₂_and_left _ _).mpr ⟨hentries, forall₂_of_mapM_eq_ok hclusters⟩
    exact hboth.imp fun entry cluster hentry => ⟨hentry.1, summarize_intervalIndices hentry.2⟩
  constructor
  case judged => exact fun interval hinterval => verdict_eq hcount (hvalid.validIntervals _ hinterval)
  case total =>
    have hlength : (sortById other.selected).length = other.selected.length :=
      (List.mergeSort_perm other.selected _).length_eq
    change ((sortById other.selected).map Selected.index).length + other.rejected = _
    rw [List.length_map, hlength, hselects.total, List.length_finRange]
  case rejected =>
    intro reason hreason
    have hcounted := hselects.counted reason hreason
    rw [List.map_get_finRange] at hcounted
    rw [← hcounted]
    cases reason <;> rfl
  case selected =>
    intro index
    rw [← hselects.mem_iff hvalid.intervalIds]
    exact ((List.mergeSort_perm other.selected _).map _).mem_iff
  case ordered => exact List.pairwise_map.mpr hsorted
  case partition =>
    have hpositions : clusters.map Cluster.intervalIndices =
        clusterMembers.map fun members => (sortById members).map Selected.index := by
      rw [Foundation.map_eq_of_mapM_eq_ok hclusters fun _ _ => summarize_intervalIndices,
        ← List.zipIdx_map_fst 0 clusterMembers, List.map_map, List.zipIdx_map_fst]
      rfl
    rw [hpositions]
    exact flatten_members_perm hclustered.partition
  case inhabited =>
    intro cluster hcluster
    obtain ⟨entry, hentry, -, hindices⟩ := exists_left_of_mem hsummaries hcluster
    have hsome := completeLink_inhabited hmembers entry.1 (List.fst_mem_of_mem_zipIdx hentry)
    obtain ⟨member, hmember⟩ := List.exists_mem_of_ne_nil _ hsome
    rw [hindices]
    exact List.ne_nil_of_mem (List.mem_map_of_mem (mem_sortById.mpr hmember))
  case linked =>
    intro cluster hcluster index hindex second hsecond hapart
    obtain ⟨entry, hentry, hof, hindices⟩ := exists_left_of_mem hsummaries hcluster
    rw [hindices] at hindex hsecond
    obtain ⟨left, hleft, rfl⟩ := List.mem_map.mp hindex
    obtain ⟨right, hright, rfl⟩ := List.mem_map.mp hsecond
    exact linked_of_members hof (hclustered.linked _ (List.fst_mem_of_mem_zipIdx hentry)) left
      (mem_sortById.mp hleft) right (mem_sortById.mp hright) hapart
  case greedy =>
    have hgreedy : clusterMembers.zipIdx.Pairwise fun earlier later => ∀ item ∈ later.1,
        ∃ member ∈ earlier.1, idAt intervals member.index < idAt intervals item.index ∧
          compatible library parameters item.resampled member.resampled = .ok false := by
      have hpairs := hclustered.greedy
      rw [← List.zipIdx_map_fst 0 clusterMembers, List.pairwise_map] at hpairs
      exact hpairs
    refine pairwise_of_forall₂ hsummaries hgreedy ?_
    rintro earlier later first second ⟨hofEarlier, hfirst⟩ ⟨hofLater, hsecond⟩ hrefused index hindex
    rw [hsecond] at hindex
    obtain ⟨item, hitem, rfl⟩ := List.mem_map.mp hindex
    have hlater := mem_sortById.mp hitem
    obtain ⟨member, hmember, hbefore, hlink⟩ := hrefused item hlater
    refine ⟨member.index, ?_, hbefore,
      pairTest_of_compatible (hofLater item hlater) (hofEarlier member hmember) hlink⟩
    rw [hfirst]
    exact List.mem_map_of_mem (mem_sortById.mpr hmember)

end Accounts

/-! ## Any order of the input -/

/-- **Mining does not depend on the order of its input and loses no interval.**  Intervals, nodes
and arcs in another order, the ends of the arcs renumbered, give the same entries in the same
result or fail alike; a result selects or counts every interval, and its clusters are a partition
of the selected ones by complete link. -/
theorem topology_mining_order_independent {library : StandardLibrary} {parameters : Parameters}
    {intervals intervals' : List OffMapInterval} {nodes nodes' : List GraphNode}
    {arcs arcs' : List GraphArc} (hintervals : intervals.Perm intervals')
    (hnodes : nodes.Perm nodes')
    (harcs : (arcs.map (GraphArc.named nodes)).Perm (arcs'.map (GraphArc.named nodes'))) :
    Agree (fun result result' => result.entries nodes arcs = result'.entries nodes' arcs')
      (mineRepeatedTopologyDisagreements library intervals nodes arcs parameters)
      (mineRepeatedTopologyDisagreements library intervals' nodes' arcs' parameters) ∧
    ∀ result, mineRepeatedTopologyDisagreements library intervals nodes arcs parameters = .ok result →
      Accounts library parameters intervals result :=
  ⟨mine_agree hintervals hnodes harcs, fun _ => accounts_of_eq_ok⟩

def sampleArc (source target : Nat) : GraphArc where
  arcId := "arc"
  sourceNodeIndex := source
  targetNodeIndex := target
  geometry := [samplePoint 0 0, samplePoint 100 0]

theorem topology_mining_order_independent_reversed : ∃ result result',
    mineRepeatedTopologyDisagreements sampleLibrary [sampleInterval] sampleNodes [sampleArc 0 1]
      sampleParameters = .ok result ∧
    mineRepeatedTopologyDisagreements sampleLibrary [sampleInterval] sampleNodes.reverse
      [sampleArc 1 0] sampleParameters = .ok result' ∧
    result.selectedIntervalIndices = [0] ∧
    result.entries sampleNodes [sampleArc 0 1] =
      result'.entries sampleNodes.reverse [sampleArc 1 0] := by
  have harcs : ([sampleArc 0 1].map (GraphArc.named sampleNodes)).Perm
      ([sampleArc 1 0].map (GraphArc.named sampleNodes.reverse)) := List.Perm.refl _
  have hagree : Agree (fun result result' => result.entries sampleNodes [sampleArc 0 1] =
        result'.entries sampleNodes.reverse [sampleArc 1 0])
      (mineRepeatedTopologyDisagreements sampleLibrary [sampleInterval] sampleNodes [sampleArc 0 1]
        sampleParameters)
      (mineRepeatedTopologyDisagreements sampleLibrary [sampleInterval] sampleNodes.reverse
        [sampleArc 1 0] sampleParameters) :=
    (topology_mining_order_independent (List.Perm.refl _) (List.reverse_perm sampleNodes).symm
      harcs).1
  have hselected : (mineRepeatedTopologyDisagreements sampleLibrary [sampleInterval] sampleNodes
      [sampleArc 0 1] sampleParameters).toOption.map MiningResult.selectedIntervalIndices =
        some [0] := by decide +kernel
  cases hresult : mineRepeatedTopologyDisagreements sampleLibrary [sampleInterval] sampleNodes
      [sampleArc 0 1] sampleParameters with
  | error fault =>
    rw [hresult] at hselected
    cases hselected
  | ok result =>
    rw [hresult] at hagree hselected
    cases hresult' : mineRepeatedTopologyDisagreements sampleLibrary [sampleInterval]
        sampleNodes.reverse [sampleArc 1 0] sampleParameters with
    | error fault =>
      rw [hresult'] at hagree
      cases hagree
    | ok result' =>
      rw [hresult'] at hagree
      exact ⟨result, result', rfl, rfl, Option.some.inj hselected, hagree⟩

end CartoSentry.Topology
