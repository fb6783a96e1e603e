import CartoSentry.Topology.Contracts
import Mathlib.Algebra.BigOperators.Group.List.Basic

set_option autoImplicit false

/-!
# Topology hypotheses: valid inputs

What the checks of the miner accept, as properties that do not depend on the order of
the input, where arcs are known by the nodes that they join.
-/

namespace CartoSentry.Topology

open Foundation (Double bind_eq_ok_iff bind_unit_eq_ok_iff)
open Matching (InvalidArgument throwIf throwIf_eq_ok_iff)

/-- An arc with its end nodes for their positions. -/
structure NamedArc where
  arcId : String
  source : Option GraphNode
  target : Option GraphNode
  geometry : List Point
  deriving DecidableEq, Repr

def GraphArc.named (nodes : List GraphNode) (arc : GraphArc) : NamedArc where
  arcId := arc.arcId
  source := nodes[arc.sourceNodeIndex]?
  target := nodes[arc.targetNodeIndex]?
  geometry := arc.geometry

/-! ## Loops over identified entries -/

section Loop

variable {A : Type} (identifier : A → String) (size : A → Nat) (maximum : Nat) (valid : A → Prop)
  (accepts : List String → Nat → List A → Prop)

/-- A loop that refuses an identifier seen before and a total beyond the budget accepts
entries whatever their order. -/
theorem accepts_iff (hnil : ∀ seen total, accepts seen total [])
    (hcons : ∀ seen total entry rest, total ≤ maximum → (accepts seen total (entry :: rest) ↔
      identifier entry ∉ seen ∧ valid entry ∧ total + size entry ≤ maximum ∧
        accepts (identifier entry :: seen) (total + size entry) rest)) :
    ∀ (entries : List A) (seen : List String) (total : Nat), total ≤ maximum →
      (accepts seen total entries ↔ (∀ entry ∈ entries, valid entry) ∧
        (entries.map identifier).Nodup ∧ (∀ entry ∈ entries, identifier entry ∉ seen) ∧
          total + (entries.map size).sum ≤ maximum) := by
  intro entries
  induction entries with
  | nil =>
    intro seen total htotal
    simpa [hnil] using htotal
  | cons entry rest ih =>
    intro seen total htotal
    rw [hcons _ _ _ _ htotal, List.map_cons, List.nodup_cons, List.map_cons, List.sum_cons, ← Nat.add_assoc]
    constructor
    · rintro ⟨hseen, hvalid, hsize, hrest⟩
      obtain ⟨hall, hnodup, hfresh, hsum⟩ := (ih _ _ hsize).mp hrest
      refine ⟨List.forall_mem_cons.mpr ⟨hvalid, hall⟩, ⟨?_, hnodup⟩,
        List.forall_mem_cons.mpr ⟨hseen, ?_⟩, hsum⟩
      · intro hmem
        obtain ⟨other, hother, heq⟩ := List.mem_map.mp hmem
        exact hfresh other hother (heq ▸ List.mem_cons_self)
      · exact fun other hother hmem => hfresh other hother (List.mem_cons_of_mem _ hmem)
    · rintro ⟨hall, ⟨hnot, hnodup⟩, hfresh, hsum⟩
      obtain ⟨hvalid, hall⟩ := List.forall_mem_cons.mp hall
      obtain ⟨hseen, hfresh⟩ := List.forall_mem_cons.mp hfresh
      have hsize : total + size entry ≤ maximum := by omega
      refine ⟨hseen, hvalid, hsize, (ih _ _ hsize).mpr ⟨hall, hnodup, ?_, hsum⟩⟩
      intro other hother hmem
      rcases List.mem_cons.mp hmem with heq | hmem
      · exact hnot (heq ▸ List.mem_map_of_mem hother)
      · exact hfresh other hother hmem

end Loop

theorem checkedAdd_eq_ok_iff {left right maximum total : Nat} {context : String} :
    checkedAdd left right maximum context = .ok total ↔
      left + right ≤ maximum ∧ total = left + right := by
  unfold checkedAdd
  rw [bind_unit_eq_ok_iff, throwIf_eq_ok_iff]
  constructor
  · rintro ⟨hfits, htotal⟩
    cases htotal
    exact ⟨by omega, rfl⟩
  · rintro ⟨hfits, rfl⟩
    exact ⟨by omega, rfl⟩

section Valid

variable (library : StandardLibrary)

structure ValidPoints (points : List Point) (maximum : Nat) : Prop where
  two : 2 ≤ points.length
  budget : points.length ≤ maximum
  finite : ∀ point ∈ points, point.isFinite = true
  positive : ∃ length, polylineLength library points = .ok length ∧
    (Double.finite 0).lt length = true

variable {library}

theorem validatePoints_eq_ok_iff {points : List Point} {maximum : Nat} {context : String} :
    validatePoints library points maximum context = .ok () ↔ ValidPoints library points maximum := by
  unfold validatePoints
  rw [bind_unit_eq_ok_iff, throwIf_eq_ok_iff, bind_unit_eq_ok_iff, throwIf_eq_ok_iff,
    bind_eq_ok_iff]
  simp only [throwIf_eq_ok_iff, not_or, not_lt, not_exists, not_and, Bool.not_eq_false]
  constructor
  · rintro ⟨⟨htwo, hbudget⟩, hfinite, hpositive⟩
    exact ⟨htwo, hbudget, hfinite, hpositive⟩
  · rintro ⟨htwo, hbudget, hfinite, hpositive⟩
    exact ⟨⟨htwo, hbudget⟩, hfinite, hpositive⟩

variable (library) in
structure ValidInterval (parameters : Parameters) (interval : OffMapInterval) : Prop where
  intervalId : interval.intervalId ≠ ""
  sequenceId : interval.sequenceId ≠ ""
  traversalId : interval.traversalId ≠ ""
  sourceGroupId : interval.sourceGroupId ≠ ""
  quality : interval.positioningQuality.isFinite = true
  qualityLow : interval.positioningQuality.lt (.finite 0) = false
  qualityHigh : (Double.finite 1).lt interval.positioningQuality = false
  points : ValidPoints library interval.points parameters.maximumPointsPerInterval

structure ValidNode (node : GraphNode) : Prop where
  nodeId : node.nodeId ≠ ""
  position : node.position.isFinite = true

variable (library) in
structure ValidArc (parameters : Parameters) (arc : NamedArc) : Prop where
  arcId : arc.arcId ≠ ""
  points : ValidPoints library arc.geometry parameters.maximumPointsPerGraphArc
  ends : ∃ source target, arc.source = some source ∧ arc.target = some target ∧
    parameters.graphEndpointToleranceM.lt
      (distance library (front arc.geometry) source.position) = false ∧
    parameters.graphEndpointToleranceM.lt
      (distance library (back arc.geometry) target.position) = false

theorem validateIntervals_eq_ok_iff {parameters : Parameters} {intervals : List OffMapInterval} :
    validateIntervals library parameters [] 0 intervals = .ok () ↔
      (∀ interval ∈ intervals, ValidInterval library parameters interval) ∧
        (intervals.map OffMapInterval.intervalId).Nodup ∧
          (intervals.map fun interval => interval.points.length).sum ≤
            parameters.maximumTotalPoints := by
  have hloop := accepts_iff OffMapInterval.intervalId (fun interval => interval.points.length)
    parameters.maximumTotalPoints (ValidInterval library parameters)
    (fun seen total entries => validateIntervals library parameters seen total entries = .ok ())
    (fun seen total => rfl) ?_ intervals [] 0 (Nat.zero_le _)
  · simpa using hloop
  · intro seen total interval rest _
    rw [validateIntervals, bind_unit_eq_ok_iff, throwIf_eq_ok_iff, bind_unit_eq_ok_iff,
      validatePoints_eq_ok_iff, bind_eq_ok_iff]
    simp only [checkedAdd_eq_ok_iff, not_or, Bool.not_eq_true, Bool.not_eq_false]
    constructor
    · rintro ⟨⟨hid, hsequence, htraversal, hgroup, hseen, hquality, hlow, hhigh⟩, hpoints, _,
        ⟨hsum, rfl⟩, hrest⟩
      exact ⟨hseen, ⟨hid, hsequence, htraversal, hgroup, hquality, hlow, hhigh, hpoints⟩, hsum, hrest⟩
    · rintro ⟨hseen, hvalid, hsum, hrest⟩
      exact ⟨⟨hvalid.intervalId, hvalid.sequenceId, hvalid.traversalId, hvalid.sourceGroupId, hseen,
        hvalid.quality, hvalid.qualityLow, hvalid.qualityHigh⟩, hvalid.points, _, ⟨hsum, rfl⟩, hrest⟩

theorem validateNodes_eq_ok_iff {nodes : List GraphNode} :
    validateNodes [] nodes = .ok () ↔
      (∀ node ∈ nodes, ValidNode node) ∧ (nodes.map GraphNode.nodeId).Nodup := by
  have hloop := accepts_iff GraphNode.nodeId (fun _ => 0) 0 ValidNode
    (fun seen _ entries => validateNodes seen entries = .ok ())
    (fun seen total => rfl) ?_ nodes [] 0 (Nat.zero_le _)
  · simpa using hloop
  · intro seen total node rest htotal
    rw [validateNodes, bind_unit_eq_ok_iff, throwIf_eq_ok_iff]
    simp only [not_or, Bool.not_eq_false]
    constructor
    · rintro ⟨⟨hid, hseen, hposition⟩, hrest⟩
      exact ⟨hseen, ⟨hid, hposition⟩, htotal, hrest⟩
    · rintro ⟨hseen, hvalid, -, hrest⟩
      exact ⟨⟨hvalid.nodeId, hseen, hvalid.position⟩, hrest⟩

theorem validateArcs_eq_ok_iff {nodes : List GraphNode} {parameters : Parameters}
    {arcs : List GraphArc} : validateArcs library nodes parameters [] 0 arcs = .ok () ↔
      (∀ arc ∈ arcs, ValidArc library parameters (arc.named nodes)) ∧
        (arcs.map GraphArc.arcId).Nodup ∧
          (arcs.map fun arc => arc.geometry.length).sum ≤ parameters.maximumTotalGraphPoints := by
  have hloop := accepts_iff GraphArc.arcId (fun arc => arc.geometry.length)
    parameters.maximumTotalGraphPoints (fun arc => ValidArc library parameters (arc.named nodes))
    (fun seen total entries => validateArcs library nodes parameters seen total entries = .ok ())
    (fun seen total => rfl) ?_ arcs [] 0 (Nat.zero_le _)
  · simpa using hloop
  · intro seen total arc rest _
    rw [validateArcs, bind_unit_eq_ok_iff, throwIf_eq_ok_iff, bind_unit_eq_ok_iff,
      validatePoints_eq_ok_iff, bind_eq_ok_iff]
    simp only [checkedAdd_eq_ok_iff, not_or, not_le]
    constructor
    · rintro ⟨⟨hid, hseen, hsource, htarget⟩, hpoints, _, ⟨hsum, rfl⟩, hrest⟩
      obtain ⟨hends, hrest⟩ := bind_unit_eq_ok_iff.mp hrest
      rw [throwIf_eq_ok_iff, List.getElem?_eq_getElem hsource, List.getElem?_eq_getElem htarget] at hends
      simp only [Option.mem_def, Option.some.injEq, exists_eq_left', not_or,
        Bool.not_eq_true] at hends
      exact ⟨hseen, ⟨hid, hpoints, _, _, List.getElem?_eq_getElem hsource,
        List.getElem?_eq_getElem htarget, hends⟩, hsum, hrest⟩
    · rintro ⟨hseen, hvalid, hsum, hrest⟩
      obtain ⟨source, target, hsource, htarget, hends⟩ := hvalid.ends
      refine ⟨⟨hvalid.arcId, hseen, (List.getElem?_eq_some_iff.mp hsource).1,
        (List.getElem?_eq_some_iff.mp htarget).1⟩, hvalid.points, _, ⟨hsum, rfl⟩,
        bind_unit_eq_ok_iff.mpr ⟨?_, hrest⟩⟩
      have hsource' : nodes[arc.sourceNodeIndex]? = some source := hsource
      have htarget' : nodes[arc.targetNodeIndex]? = some target := htarget
      rw [throwIf_eq_ok_iff, hsource', htarget']
      simpa [GraphArc.named] using hends

/-! ## The inputs as a whole -/

variable (library) in
/-- Inputs that the miner accepts, the arcs by the nodes that they join. -/
structure ValidInputs (parameters : Parameters) (intervals : List OffMapInterval)
    (nodes : List GraphNode) (arcs : List NamedArc) : Prop where
  intervalCount : intervals.length ≤ parameters.maximumIntervals
  nodeCount : nodes.length ≤ parameters.maximumGraphNodes
  arcCount : arcs.length ≤ parameters.maximumGraphArcs
  validIntervals : ∀ interval ∈ intervals, ValidInterval library parameters interval
  intervalIds : (intervals.map OffMapInterval.intervalId).Nodup
  totalPoints : (intervals.map fun interval => interval.points.length).sum ≤
    parameters.maximumTotalPoints
  validNodes : ∀ node ∈ nodes, ValidNode node
  nodeIds : (nodes.map GraphNode.nodeId).Nodup
  validArcs : ∀ arc ∈ arcs, ValidArc library parameters arc
  arcIds : (arcs.map NamedArc.arcId).Nodup
  graphPoints : (arcs.map fun arc => arc.geometry.length).sum ≤ parameters.maximumTotalGraphPoints

theorem validateInputs_eq_ok_iff {intervals : List OffMapInterval} {nodes : List GraphNode}
    {arcs : List GraphArc} {parameters : Parameters} :
    validateInputs library intervals nodes arcs parameters = .ok () ↔
      ValidInputs library parameters intervals nodes (arcs.map (GraphArc.named nodes)) := by
  have hids : (arcs.map (GraphArc.named nodes)).map NamedArc.arcId = arcs.map GraphArc.arcId := by
    rw [List.map_map]
    rfl
  have hsizes : (arcs.map (GraphArc.named nodes)).map (fun arc => arc.geometry.length) =
      arcs.map fun arc => arc.geometry.length := by
    rw [List.map_map]
    rfl
  unfold validateInputs
  rw [bind_unit_eq_ok_iff, throwIf_eq_ok_iff, bind_unit_eq_ok_iff, validateIntervals_eq_ok_iff,
    bind_unit_eq_ok_iff, validateNodes_eq_ok_iff, validateArcs_eq_ok_iff]
  simp only [not_or, not_lt]
  constructor
  · rintro ⟨⟨hintervals, hnodes, harcs⟩, ⟨hvalid, hunique, htotal⟩, ⟨hnode, hnodeIds⟩, harc, harcIds,
      hgraph⟩
    exact ⟨hintervals, hnodes, by rwa [List.length_map], hvalid, hunique, htotal, hnode, hnodeIds,
      List.forall_mem_map.mpr harc, by rwa [hids], by rwa [hsizes]⟩
  · intro h
    have harcIds := h.arcIds
    have hgraph := h.graphPoints
    have hcount := h.arcCount
    rw [hids] at harcIds
    rw [hsizes] at hgraph
    rw [List.length_map] at hcount
    exact ⟨⟨h.intervalCount, h.nodeCount, hcount⟩, ⟨h.validIntervals, h.intervalIds, h.totalPoints⟩,
      ⟨h.validNodes, h.nodeIds⟩, List.forall_mem_map.mp h.validArcs, harcIds, hgraph⟩

theorem ValidInputs.perm {parameters : Parameters} {intervals intervals' : List OffMapInterval}
    {nodes nodes' : List GraphNode} {arcs arcs' : List NamedArc}
    (h : ValidInputs library parameters intervals nodes arcs)
    (hintervals : intervals.Perm intervals') (hnodes : nodes.Perm nodes')
    (harcs : arcs.Perm arcs') : ValidInputs library parameters intervals' nodes' arcs' where
  intervalCount := hintervals.length_eq ▸ h.intervalCount
  nodeCount := hnodes.length_eq ▸ h.nodeCount
  arcCount := harcs.length_eq ▸ h.arcCount
  validIntervals := fun interval hmem => h.validIntervals interval (hintervals.symm.subset hmem)
  intervalIds := (hintervals.map _).nodup_iff.mp h.intervalIds
  totalPoints := by
    rw [← (hintervals.map fun interval => interval.points.length).sum_eq]
    exact h.totalPoints
  validNodes := fun node hmem => h.validNodes node (hnodes.symm.subset hmem)
  nodeIds := (hnodes.map _).nodup_iff.mp h.nodeIds
  validArcs := fun arc hmem => h.validArcs arc (harcs.symm.subset hmem)
  arcIds := (harcs.map _).nodup_iff.mp h.arcIds
  graphPoints := by
    rw [← (harcs.map fun arc => arc.geometry.length).sum_eq]
    exact h.graphPoints

end Valid

end CartoSentry.Topology
