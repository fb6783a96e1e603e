import CartoSentry.Foundation.ListOrder
import CartoSentry.Topology.Selection
import Mathlib.Data.Finset.Card
import Mathlib.Data.String.Basic

set_option autoImplicit false

/-!
# Topology hypotheses: nearest nodes and closest arcs

The two searches of the miner as the least entry under one order: by a measure, then by
the identifier.
-/

namespace CartoSentry.Topology

open Foundation (Double bind_eq_ok_iff bind_unit_eq_ok_iff least lesser least_concat
  least_eq_none_iff least_eq_some)
open Matching (InvalidArgument throwIf throwIf_eq_ok_iff)

/-! ## The order of preference -/

section Preference

variable {Index : Type} (measure : Index → Double) (identifier : Index → String)

/-- Entries stand in the order of their measure, and where it is the same in that of their
identifiers. -/
def preference (index : Index) : (ℤ ×ₗ ℚ) ×ₗ String :=
  toLex ((measure index).rank, identifier index)

variable {measure identifier}

theorem preference_lt_iff {index other : Index} (hindex : (measure index).isNaN = false)
    (hother : (measure other).isNaN = false) :
    preference measure identifier index < preference measure identifier other ↔
      (measure index).lt (measure other) = true ∨
        (measure index).eq (measure other) = true ∧ identifier index < identifier other := by
  unfold preference
  rw [Prod.Lex.toLex_lt_toLex, Double.lt_iff_rank hindex hother, Double.eq_iff_rank hindex hother]

theorem preference_injective (hidentifier : Function.Injective identifier) :
    Function.Injective (preference measure identifier) := by
  intro index other h
  have hpair := toLex.injective h
  exact hidentifier (congrArg Prod.snd hpair)

/-- The least entry is preferred to every other. -/
theorem preferred_of_least {indices : List Index} {index : Index}
    (hidentifier : Function.Injective identifier)
    (hmeasure : ∀ other ∈ indices, (measure other).isNaN = false)
    (h : least (preference measure identifier) indices = some index) :
    ∀ other ∈ indices, other ≠ index → (measure index).lt (measure other) = true ∨
      (measure index).eq (measure other) = true ∧ identifier index < identifier other := by
  intro other hother hdistinct
  obtain ⟨hmem, hleast⟩ := least_eq_some h
  have hlt : preference measure identifier index < preference measure identifier other := by
    apply lt_of_le_of_ne (hleast other hother)
    intro hequal
    exact hdistinct (preference_injective hidentifier hequal).symm
  exact (preference_lt_iff (hmeasure index hmem) (hmeasure other hother)).mp hlt

end Preference

theorem get_injective {A : Type} {entries : List A} {identifier : A → String}
    (h : (entries.map identifier).Nodup) :
    Function.Injective fun index : Fin entries.length => identifier (entries.get index) := by
  intro left right hequal
  apply Fin.ext
  have hnodup := List.nodup_iff_injective_get.mp h
  have hcast : ∀ index : Fin entries.length, index.val < (entries.map identifier).length := by
    intro index
    simp
  have hsame := @hnodup ⟨left.val, hcast left⟩ ⟨right.val, hcast right⟩ (by simpa using hequal)
  exact Fin.mk.inj hsame

/-! ## The nearest node -/

section Nearest

variable {library : StandardLibrary} {nodes : List GraphNode} {point : Point} {radius : Double}

/-- The distance of the point to the node at this position. -/
def nodeDistance (library : StandardLibrary) (nodes : List GraphNode) (point : Point)
    (index : Fin nodes.length) : Double :=
  distance library point (nodes.get index).position

def nodeName (nodes : List GraphNode) (index : Fin nodes.length) : String :=
  (nodes.get index).nodeId

/-- The positions of the nodes no farther from the point than the radius. -/
def withinRadius (library : StandardLibrary) (nodes : List GraphNode) (point : Point)
    (radius : Double) : List (Fin nodes.length) :=
  (List.finRange nodes.length).filter fun index =>
    !(radius.lt (nodeDistance library nodes point index))

theorem nearestNode_eq (hnumber : ∀ index, (nodeDistance library nodes point index).isNaN = false) :
    nearestNode library nodes point radius =
      (least (preference (nodeDistance library nodes point) (nodeName nodes))
        (withinRadius library nodes point radius)).map fun index =>
          ⟨index, nodeDistance library nodes point index⟩ := by
  unfold nearestNode withinRadius
  generalize List.finRange nodes.length = indices
  induction indices using List.reverseRecOn with
  | nil => rfl
  | append_singleton indices index ih =>
    rw [List.foldl_append, ih, List.filter_append, List.foldl_cons, List.foldl_nil]
    dsimp only
    change (if radius.lt (nodeDistance library nodes point index) = true then _ else _) = _
    cases hfar : radius.lt (nodeDistance library nodes point index) with
    | true =>
      rw [if_pos rfl, List.filter_singleton, hfar]
      simp
    | false =>
      have hkept : [index].filter (fun index => !(radius.lt (nodeDistance library nodes point index)))
          = [index] := List.filter_cons_of_pos (by rw [hfar]; rfl)
      rw [if_neg Bool.false_ne_true, hkept, least_concat]
      cases least (preference (nodeDistance library nodes point) (nodeName nodes))
          (indices.filter fun index => !(radius.lt (nodeDistance library nodes point index))) with
      | none => rfl
      | some kept =>
        have hiff : preference _ (nodeName nodes) index < preference _ (nodeName nodes) kept ↔ _ :=
          preference_lt_iff (hnumber index) (hnumber kept)
        by_cases hless : preference (nodeDistance library nodes point) (nodeName nodes) index <
            preference (nodeDistance library nodes point) (nodeName nodes) kept
        · rw [lesser, if_pos hless]
          exact if_pos (hiff.mp hless)
        · rw [lesser, if_neg hless]
          exact if_neg (mt hiff.mpr hless)

/-- The node that the point snaps to: the nearest within the radius, and of two at one
distance the one with the lesser identifier. -/
structure SnapsTo (library : StandardLibrary) (nodes : List GraphNode) (radius : Double)
    (point : Point) (node : Fin nodes.length) : Prop where
  within : (nodeDistance library nodes point node).le radius = true
  nearest : ∀ other, other ≠ node → (nodeDistance library nodes point other).le radius = true →
    (nodeDistance library nodes point node).lt (nodeDistance library nodes point other) = true ∨
      (nodeDistance library nodes point node).eq (nodeDistance library nodes point other) = true ∧
        nodeName nodes node < nodeName nodes other

theorem mem_withinRadius (hradius : radius.isNaN = false)
    (hnumber : ∀ index, (nodeDistance library nodes point index).isNaN = false)
    {index : Fin nodes.length} : index ∈ withinRadius library nodes point radius ↔
      (nodeDistance library nodes point index).le radius = true := by
  unfold withinRadius
  rw [List.mem_filter, Double.le_iff_not_lt (hnumber index) hradius]
  simp

theorem SnapsTo.unique {node other : Fin nodes.length}
    (hnode : SnapsTo library nodes radius point node)
    (hnumber : ∀ index, (nodeDistance library nodes point index).isNaN = false)
    (hother : SnapsTo library nodes radius point other) : node = other := by
  by_contra hdistinct
  have hforth := hnode.nearest other (Ne.symm hdistinct) hother.within
  have hback := hother.nearest node hdistinct hnode.within
  rw [← preference_lt_iff (hnumber _) (hnumber _)] at hforth hback
  exact lt_asymm hforth hback

/-- The search finds a node where there is one within the radius, and it is the one that
the point snaps to. -/
theorem nearestNode_index_iff (hradius : radius.isNaN = false)
    (hnumber : ∀ index, (nodeDistance library nodes point index).isNaN = false)
    (hunique : (nodes.map GraphNode.nodeId).Nodup) {node : Fin nodes.length} :
    (nearestNode library nodes point radius).map NearestNode.index = some node ↔
      SnapsTo library nodes radius point node := by
  have hindex : (nearestNode library nodes point radius).map NearestNode.index =
      least (preference (nodeDistance library nodes point) (nodeName nodes))
        (withinRadius library nodes point radius) := by
    rw [nearestNode_eq hnumber, Option.map_map]
    exact Option.map_id'
  have hsnaps : ∀ found, least (preference (nodeDistance library nodes point) (nodeName nodes))
      (withinRadius library nodes point radius) = some found →
        SnapsTo library nodes radius point found := by
    intro found hfound
    refine ⟨(mem_withinRadius hradius hnumber).mp (least_eq_some hfound).1, ?_⟩
    intro other hother hwithin
    exact preferred_of_least (get_injective hunique) (fun index _ => hnumber index) hfound other
      ((mem_withinRadius hradius hnumber).mpr hwithin) hother
  rw [hindex]
  constructor
  · exact hsnaps node
  · intro hnode
    cases hfound : least (preference (nodeDistance library nodes point) (nodeName nodes))
        (withinRadius library nodes point radius) with
    | none =>
      have hmem := (mem_withinRadius hradius hnumber).mpr hnode.within
      rw [least_eq_none_iff.mp hfound] at hmem
      cases hmem
    | some found => rw [(hsnaps found hfound).unique hnumber hnode]

theorem nearestNode_distance {found : NearestNode nodes}
    (hnumber : ∀ index, (nodeDistance library nodes point index).isNaN = false)
    (h : nearestNode library nodes point radius = some found) :
    found.distanceM = nodeDistance library nodes point found.index := by
  rw [nearestNode_eq hnumber, Option.map_eq_some_iff] at h
  obtain ⟨index, -, rfl⟩ := h
  rfl

end Nearest

/-! ## The closest arc -/

section Closest

variable {library : StandardLibrary} {nodes : List GraphNode} {arcs : List GraphArc}
  {parameters : Parameters} {corridor : List Point} {start stop : Fin nodes.length}

def GraphArc.Joins (arc : GraphArc) (start stop : Fin nodes.length) : Prop :=
  arc.sourceNodeIndex = start.val ∧ arc.targetNodeIndex = stop.val

instance {arc : GraphArc} : Decidable (arc.Joins start stop) :=
  inferInstanceAs (Decidable (_ ∧ _))

/-- The mean distance of the corridor to the geometry of the arc. -/
def arcDistance (library : StandardLibrary) (parameters : Parameters) (corridor : List Point)
    (arc : GraphArc) : Except InvalidArgument Double := do
  let arcResampled ← resample library arc.geometry parameters.resamplePointCount
  meanCorrespondingDistance library corridor arcResampled

/-- The distance of the arc at this position, where it has one. -/
def arcMeasure (library : StandardLibrary) (parameters : Parameters) (arcs : List GraphArc)
    (corridor : List Point) (index : Fin arcs.length) : Double :=
  match arcDistance library parameters corridor (arcs.get index) with
  | .ok distance => distance
  | .error _ => .nan

def arcName (arcs : List GraphArc) (index : Fin arcs.length) : String :=
  (arcs.get index).arcId

theorem arcMeasure_eq {index : Fin arcs.length} {distance : Double}
    (h : arcDistance library parameters corridor (arcs.get index) = .ok distance) :
    arcMeasure library parameters arcs corridor index = distance := by
  rw [arcMeasure, h]

theorem isFinite_arcDistance {arc : GraphArc} {distance : Double}
    (h : arcDistance library parameters corridor arc = .ok distance) :
    distance.isFinite = true := by
  obtain ⟨resampled, -, h⟩ := bind_eq_ok_iff.mp h
  unfold meanCorrespondingDistance at h
  rw [bind_unit_eq_ok_iff] at h
  obtain ⟨-, h⟩ := h
  obtain ⟨hfinite, h⟩ := bind_unit_eq_ok_iff.mp h
  cases h
  exact Bool.not_eq_false _ ▸ throwIf_eq_ok_iff.mp hfinite

/-- A turn of the search. -/
def compareArc (library : StandardLibrary) (nodes : List GraphNode) (arcs : List GraphArc)
    (parameters : Parameters) (corridor : List Point) (start stop : Fin nodes.length)
    (best : Option (ComparedArc arcs)) (index : Fin arcs.length) :
    Except InvalidArgument (Option (ComparedArc arcs)) := do
  let arc := arcs.get index
  if arc.sourceNodeIndex ≠ start.val ∨ arc.targetNodeIndex ≠ stop.val then pure best
  else
    let arcResampled ← resample library arc.geometry parameters.resamplePointCount
    let candidateError ← meanCorrespondingDistance library corridor arcResampled
    match best with
    | none => pure (some ⟨index, candidateError⟩)
    | some kept =>
      if candidateError.lt kept.error ∨
          candidateError.eq kept.error ∧ arc.arcId < (arcs.get kept.index).arcId then
        pure (some ⟨index, candidateError⟩)
      else pure best

theorem bestArc_eq_foldlM : bestArc library nodes arcs parameters corridor start stop =
    (List.finRange arcs.length).foldlM
      (compareArc library nodes arcs parameters corridor start stop) none :=
  rfl

/-- The arc at this position with its distance. -/
def measured (library : StandardLibrary) (parameters : Parameters) (arcs : List GraphArc)
    (corridor : List Point) (index : Fin arcs.length) : ComparedArc arcs :=
  ⟨index, arcMeasure library parameters arcs corridor index⟩

def HasDistance (library : StandardLibrary) (parameters : Parameters) (corridor : List Point)
    (arc : GraphArc) : Prop :=
  ∃ distance, arcDistance library parameters corridor arc = .ok distance

theorem isNaN_arcMeasure {index : Fin arcs.length}
    (h : HasDistance library parameters corridor (arcs.get index)) :
    (arcMeasure library parameters arcs corridor index).isNaN = false := by
  obtain ⟨distance, hdistance⟩ := h
  rw [arcMeasure_eq hdistance]
  exact Double.not_isNaN_of_isFinite (isFinite_arcDistance hdistance)

theorem compareArc_of_apart {best after : Option (ComparedArc arcs)} {index : Fin arcs.length}
    (hapart : ¬ (arcs.get index).Joins start stop)
    (h : compareArc library nodes arcs parameters corridor start stop best index = .ok after) :
    after = best := by
  unfold compareArc at h
  rw [if_pos (not_and_or.mp hapart)] at h
  cases h
  rfl

theorem compareArc_of_joins {kept : Option (Fin arcs.length)} {after : Option (ComparedArc arcs)}
    {index : Fin arcs.length} (hjoins : (arcs.get index).Joins start stop)
    (hkept : ∀ other, kept = some other →
      HasDistance library parameters corridor (arcs.get other))
    (h : compareArc library nodes arcs parameters corridor start stop
      (kept.map (measured library parameters arcs corridor)) index = .ok after) :
    HasDistance library parameters corridor (arcs.get index) ∧
      after = (lesser (preference (arcMeasure library parameters arcs corridor) (arcName arcs))
        kept index).map (measured library parameters arcs corridor) := by
  unfold compareArc at h
  rw [if_neg (fun hapart => not_and_or.mpr hapart hjoins)] at h
  obtain ⟨resampled, hresampled, h⟩ := bind_eq_ok_iff.mp h
  obtain ⟨candidateError, herror, h⟩ := bind_eq_ok_iff.mp h
  have hdistance : arcDistance library parameters corridor (arcs.get index) = .ok candidateError :=
    bind_eq_ok_iff.mpr ⟨resampled, hresampled, herror⟩
  have hmeasure := arcMeasure_eq hdistance
  refine ⟨⟨candidateError, hdistance⟩, ?_⟩
  cases kept with
  | none =>
    cases h
    rw [← hmeasure]
    rfl
  | some other =>
    have hiff : preference _ (arcName arcs) index < preference _ (arcName arcs) other ↔ _ :=
      preference_lt_iff (isNaN_arcMeasure ⟨candidateError, hdistance⟩)
        (isNaN_arcMeasure (hkept other rfl))
    rw [lesser]
    dsimp only [Option.map_some] at h
    rw [← hmeasure] at h
    by_cases hless : preference (arcMeasure library parameters arcs corridor) (arcName arcs) index <
        preference (arcMeasure library parameters arcs corridor) (arcName arcs) other
    · rw [if_pos hless]
      exact (Except.ok.inj ((if_pos (hiff.mp hless)).symm.trans h)).symm
    · rw [if_neg hless]
      exact (Except.ok.inj ((if_neg (mt hiff.mpr hless)).symm.trans h)).symm

theorem mem_filter_joins {index : Fin arcs.length} :
    index ∈ (List.finRange arcs.length).filter (fun index => (arcs.get index).Joins start stop) ↔
      (arcs.get index).Joins start stop := by
  rw [List.mem_filter, decide_eq_true_iff]
  exact and_iff_right (List.mem_finRange index)

/-- A search that returns has measured every arc between the two nodes, and returns the
closest. -/
theorem bestArc_eq {best : Option (ComparedArc arcs)}
    (h : bestArc library nodes arcs parameters corridor start stop = .ok best) :
    (∀ index : Fin arcs.length, (arcs.get index).Joins start stop →
      HasDistance library parameters corridor (arcs.get index)) ∧
    best = (least (preference (arcMeasure library parameters arcs corridor) (arcName arcs))
      ((List.finRange arcs.length).filter fun index => (arcs.get index).Joins start stop)).map
        (measured library parameters arcs corridor) := by
  have hrun : ∀ (indices : List (Fin arcs.length)) (best : Option (ComparedArc arcs)),
      indices.foldlM (compareArc library nodes arcs parameters corridor start stop) none = .ok best →
      (∀ index ∈ indices, (arcs.get index).Joins start stop →
        HasDistance library parameters corridor (arcs.get index)) ∧
      best = (least (preference (arcMeasure library parameters arcs corridor) (arcName arcs))
        (indices.filter fun index => (arcs.get index).Joins start stop)).map
          (measured library parameters arcs corridor) := by
    intro indices
    induction indices using List.reverseRecOn with
    | nil =>
      intro best h
      cases h
      exact ⟨fun _ hmem => absurd hmem List.not_mem_nil, rfl⟩
    | append_singleton indices index ih =>
      intro best h
      rw [List.foldlM_append] at h
      obtain ⟨before, hbefore, h⟩ := bind_eq_ok_iff.mp h
      obtain ⟨hmeasured, rfl⟩ := ih before hbefore
      obtain ⟨after, hafter, h⟩ := bind_eq_ok_iff.mp h
      cases h
      rw [List.filter_append]
      by_cases hjoins : (arcs.get index).Joins start stop
      · have hkept : ∀ other, least
            (preference (arcMeasure library parameters arcs corridor) (arcName arcs))
            (indices.filter fun index => (arcs.get index).Joins start stop) = some other →
            HasDistance library parameters corridor (arcs.get other) := by
          intro other hother
          obtain ⟨hmem, hothers⟩ := List.mem_filter.mp (least_eq_some hother).1
          exact hmeasured other hmem (of_decide_eq_true hothers)
        obtain ⟨hdistance, rfl⟩ := compareArc_of_joins hjoins hkept hafter
        have hkeep : [index].filter (fun index => (arcs.get index).Joins start stop) = [index] :=
          List.filter_cons_of_pos (by simpa using hjoins)
        rw [hkeep, least_concat]
        refine ⟨?_, rfl⟩
        intro other hother hother'
        rcases List.mem_append.mp hother with hmem | hmem
        · exact hmeasured other hmem hother'
        · rw [List.mem_singleton.mp hmem]
          exact hdistance
      · have hskip : [index].filter (fun index => (arcs.get index).Joins start stop) = [] :=
          List.filter_cons_of_neg (by simpa using hjoins)
        rw [compareArc_of_apart hjoins hafter, hskip, List.append_nil]
        refine ⟨?_, rfl⟩
        intro other hother hother'
        rcases List.mem_append.mp hother with hmem | hmem
        · exact hmeasured other hmem hother'
        · rw [List.mem_singleton.mp hmem] at hother'
          exact absurd hother' hjoins
  obtain ⟨hmeasured, hbest⟩ := hrun _ _ (bestArc_eq_foldlM.symm.trans h)
  exact ⟨fun index => hmeasured index (List.mem_finRange index), hbest⟩

/-- An arc between the two nodes that no other is closer to the corridor than. -/
structure ClosestArc (library : StandardLibrary) (nodes : List GraphNode) (arcs : List GraphArc)
    (parameters : Parameters) (corridor : List Point) (start stop : Fin nodes.length)
    (arc : Fin arcs.length) (error : Double) : Prop where
  joins : (arcs.get arc).Joins start stop
  attains : arcDistance library parameters corridor (arcs.get arc) = .ok error
  closest : ∀ other, (arcs.get other).Joins start stop → ∃ otherError,
    arcDistance library parameters corridor (arcs.get other) = .ok otherError ∧
      error.le otherError = true

theorem bestArc_none
    (h : bestArc library nodes arcs parameters corridor start stop = .ok none) :
    ∀ arc ∈ arcs, ¬ arc.Joins start stop := by
  obtain ⟨-, hbest⟩ := bestArc_eq h
  have hempty := least_eq_none_iff.mp (Option.map_eq_none_iff.mp hbest.symm)
  intro arc harc hjoins
  obtain ⟨index, rfl⟩ := List.get_of_mem harc
  have hmem := mem_filter_joins.mpr hjoins
  rw [hempty] at hmem
  cases hmem

theorem bestArc_some {compared : ComparedArc arcs}
    (h : bestArc library nodes arcs parameters corridor start stop = .ok (some compared)) :
    ClosestArc library nodes arcs parameters corridor start stop compared.index compared.error := by
  obtain ⟨hmeasured, hbest⟩ := bestArc_eq h
  obtain ⟨index, hleast, rfl⟩ := Option.map_eq_some_iff.mp hbest.symm
  obtain ⟨hmem, hall⟩ := least_eq_some hleast
  have hjoins := mem_filter_joins.mp hmem
  obtain ⟨distance, hdistance⟩ := hmeasured index hjoins
  have hmeasure := arcMeasure_eq hdistance
  refine ⟨hjoins, by rw [measured, hmeasure]; exact hdistance, ?_⟩
  intro other hother
  obtain ⟨otherError, hotherError⟩ := hmeasured other hother
  refine ⟨otherError, hotherError, ?_⟩
  have hle := hall other (mem_filter_joins.mpr hother)
  rw [measured, ← arcMeasure_eq hotherError, Double.le_iff_not_lt (isNaN_arcMeasure ⟨_, hdistance⟩)
    (isNaN_arcMeasure ⟨_, hotherError⟩)]
  intro hlt
  apply not_lt.mpr hle
  exact (preference_lt_iff (isNaN_arcMeasure ⟨_, hotherError⟩)
    (isNaN_arcMeasure ⟨_, hdistance⟩)).mpr (Or.inl hlt)

end Closest

end CartoSentry.Topology
