import Mathlib.Algebra.BigOperators.Group.List.Basic
import CartoSentry.RoadBins.Contracts

set_option autoImplicit false

/-!
# Road bins: validated input

What the checks of `validate_inputs` promise, apart from the order of the paths.
-/

namespace CartoSentry.RoadBins

open Foundation (bind_unit_eq_ok_iff bind_eq_ok_iff)
open Matching (InvalidArgument throwIf throwIf_eq_ok_iff)

/-! ## Points -/

/-- What is checked of a point alone. -/
structure MatchedPoint.Accepted (arcs : List Arc) (point : MatchedPoint) : Prop where
  speed : 0 ≤ point.speed
  inside : ¬ point.outside arcs

theorem validatePoints_accepted {arcs : List Arc} {previousTimeNs : Option Int}
    {points : List MatchedPoint} (h : validatePoints arcs previousTimeNs points = .ok ()) :
    ∀ point ∈ points, point.Accepted arcs := by
  induction points generalizing previousTimeNs with
  | nil => simp
  | cons point rest ih =>
    simp only [validatePoints, bind_unit_eq_ok_iff, throwIf_eq_ok_iff] at h
    obtain ⟨hfields, _, hinside, hrest⟩ := h
    push Not at hfields
    rw [List.forall_mem_cons]
    exact ⟨⟨hfields.1, hinside⟩, ih hrest⟩

/-! ## Arcs -/

/-- Every validated arc has a number of bins within the budget. -/
theorem validateArcs_counted {parameters : Parameters} {arcs : List Arc} {seen : List String}
    {generated : Nat} (h : validateArcs parameters arcs seen generated = .ok ()) :
    ∀ arc ∈ arcs, ∃ binCount, binCountForArc arc parameters = .ok binCount := by
  induction arcs generalizing seen generated with
  | nil => simp
  | cons arc rest ih =>
    simp only [validateArcs, bind_unit_eq_ok_iff, bind_eq_ok_iff (A := Nat)] at h
    obtain ⟨_, binCount, hcount, _, _, _, hrest⟩ := h
    rw [List.forall_mem_cons]
    exact ⟨⟨binCount, hcount⟩, ih hrest⟩

/-! ## Paths -/

/-- What is checked of a path alone. -/
structure MatchedPath.Accepted (arcs : List Arc) (parameters : Parameters) (path : MatchedPath) :
    Prop where
  roadMatchId : path.roadMatchId ≠ ""
  sequenceId : path.sequenceId ≠ ""
  sourceGroupId : path.sourceGroupId ≠ ""
  pointCount : path.points.length ≤ parameters.maximumPointsPerPath
  points : validatePoints arcs none path.points = .ok ()

/-- The paths have one source group for each sequence. -/
def SameSource (path other : MatchedPath) : Prop :=
  path.sequenceId = other.sequenceId → path.sourceGroupId = other.sourceGroupId

theorem SameSource.symm {path other : MatchedPath} (h : SameSource path other) :
    SameSource other path :=
  fun hsequence => (h hsequence.symm).symm

instance : Std.Symm SameSource :=
  ⟨fun _ _ => SameSource.symm⟩

/-- What is checked of the paths, after identities, source groups and points read before. -/
structure AcceptedPaths (arcs : List Arc) (parameters : Parameters) (paths : List MatchedPath)
    (seen : List String) (groups : List (String × String)) (count : Nat) : Prop where
  each : ∀ path ∈ paths, path.Accepted arcs parameters
  unseen : ∀ path ∈ paths, path.roadMatchId ∉ seen
  nodup : (paths.map MatchedPath.roadMatchId).Nodup
  grouped : ∀ path ∈ paths, ∀ group ∈ groups.lookup path.sequenceId, group = path.sourceGroupId
  sources : paths.Pairwise SameSource
  total : count + (paths.map fun path => path.points.length).sum ≤
    min parameters.maximumTotalPoints sizeMax

theorem AcceptedPaths.perm {arcs : List Arc} {parameters : Parameters}
    {paths others : List MatchedPath} {seen : List String} {groups : List (String × String)}
    {count : Nat} (h : AcceptedPaths arcs parameters paths seen groups count)
    (hperm : paths.Perm others) : AcceptedPaths arcs parameters others seen groups count := by
  refine ⟨?_, ?_, ?_, ?_, ?_, ?_⟩
  · exact fun path hpath => h.each path (hperm.mem_iff.mpr hpath)
  · exact fun path hpath => h.unseen path (hperm.mem_iff.mpr hpath)
  · exact (hperm.map _).nodup_iff.mp h.nodup
  · exact fun path hpath => h.grouped path (hperm.mem_iff.mpr hpath)
  · exact (hperm.pairwise_iff SameSource.symm).mp h.sources
  · rw [← (hperm.map _).sum_eq]
    exact h.total

theorem checkedSizeAdd_eq_ok {left right total : Nat} (hleft : left ≤ sizeMax) :
    checkedSizeAdd left right = .ok total ↔ left + right ≤ sizeMax ∧ left + right = total := by
  rw [checkedSizeAdd]
  split_ifs with hover
  · simp only [false_iff, not_and]
    omega
  · rw [Except.ok.injEq]
    constructor
    · intro htotal
      exact ⟨by omega, htotal⟩
    · exact And.right

theorem acceptedPaths_cons {arcs : List Arc} {parameters : Parameters} {path : MatchedPath}
    {rest : List MatchedPath} {seen : List String} {groups : List (String × String)}
    {count : Nat} :
    AcceptedPaths arcs parameters (path :: rest) seen groups count ↔
      path.Accepted arcs parameters ∧ path.roadMatchId ∉ seen ∧
        (∀ group ∈ groups.lookup path.sequenceId, group = path.sourceGroupId) ∧
          AcceptedPaths arcs parameters rest (path.roadMatchId :: seen)
            ((path.sequenceId, path.sourceGroupId) :: groups) (count + path.points.length) := by
  constructor
  · intro h
    obtain ⟨hid, hrest⟩ := List.nodup_cons.mp h.nodup
    obtain ⟨hsource, hsources⟩ := List.pairwise_cons.mp h.sources
    refine ⟨h.each path List.mem_cons_self, h.unseen path List.mem_cons_self,
      h.grouped path List.mem_cons_self, ?_, ?_, hrest, ?_, hsources, ?_⟩
    · exact fun other hother => h.each other (List.mem_cons_of_mem _ hother)
    · intro other hother hseen
      rcases List.mem_cons.mp hseen with heq | hseen
      · exact hid (heq ▸ List.mem_map_of_mem hother)
      · exact h.unseen other (List.mem_cons_of_mem _ hother) hseen
    · intro other hother group hgroup
      rw [List.lookup_cons] at hgroup
      split at hgroup
      · rename_i heq
        obtain rfl := Option.mem_some_iff.mp hgroup
        exact hsource other hother (eq_of_beq heq).symm
      · exact h.grouped other (List.mem_cons_of_mem _ hother) group hgroup
    · have htotal := h.total
      rw [List.map_cons, List.sum_cons] at htotal
      rwa [Nat.add_assoc]
  · intro ⟨hpath, hid, hgroup, h⟩
    refine ⟨?_, ?_, ?_, ?_, ?_, ?_⟩
    · exact List.forall_mem_cons.mpr ⟨hpath, h.each⟩
    · refine List.forall_mem_cons.mpr ⟨hid, ?_⟩
      exact fun other hother hseen => h.unseen other hother (List.mem_cons_of_mem _ hseen)
    · refine List.nodup_cons.mpr ⟨?_, h.nodup⟩
      intro hmem
      obtain ⟨other, hother, heq⟩ := List.mem_map.mp hmem
      exact h.unseen other hother (heq ▸ List.mem_cons_self)
    · refine List.forall_mem_cons.mpr ⟨hgroup, ?_⟩
      intro other hother group hlookup
      by_cases heq : other.sequenceId = path.sequenceId
      · have hsource : path.sourceGroupId = other.sourceGroupId :=
          h.grouped other hother path.sourceGroupId (by simp [heq])
        rw [heq] at hlookup
        rw [← hsource]
        exact hgroup group hlookup
      · apply h.grouped other hother group
        rwa [List.lookup_cons, beq_false_of_ne heq]
    · refine List.pairwise_cons.mpr ⟨?_, h.sources⟩
      intro other hother heq
      exact h.grouped other hother path.sourceGroupId (by simp [heq])
    · rw [List.map_cons, List.sum_cons, ← Nat.add_assoc]
      exact h.total

theorem validatePaths_eq_ok_iff {arcs : List Arc} {parameters : Parameters}
    {paths : List MatchedPath} {seen : List String} {groups : List (String × String)} {count : Nat}
    (hcount : count ≤ min parameters.maximumTotalPoints sizeMax) :
    (∃ result, validatePaths arcs parameters paths seen groups count = .ok result) ↔
      AcceptedPaths arcs parameters paths seen groups count := by
  induction paths generalizing seen groups count with
  | nil =>
    constructor
    · intro _
      exact ⟨by simp, by simp, by simp, by simp, by simp, by simpa using hcount⟩
    · intro _
      exact ⟨groups, rfl⟩
  | cons path rest ih =>
    rw [acceptedPaths_cons]
    simp only [validatePaths, bind_unit_eq_ok_iff, bind_eq_ok_iff (A := Nat), throwIf_eq_ok_iff,
      checkedSizeAdd_eq_ok (le_trans hcount (min_le_right _ _))]
    constructor
    · rintro ⟨result, hfields, total, ⟨hsize, rfl⟩, htotal, hgroup, hpoints, hrest⟩
      push Not at hfields hgroup
      obtain ⟨hmatch, hsequence, hsource, hseen, hlength⟩ := hfields
      have hbound : count + path.points.length ≤ min parameters.maximumTotalPoints sizeMax :=
        le_min (not_lt.mp htotal) hsize
      exact ⟨⟨hmatch, hsequence, hsource, hlength, hpoints⟩, hseen, hgroup,
        (ih hbound).mp ⟨result, hrest⟩⟩
    · intro ⟨hpath, hseen, hgroup, hrest⟩
      have hbound : count + path.points.length ≤ min parameters.maximumTotalPoints sizeMax :=
        le_trans (Nat.le_add_right _ _) hrest.total
      obtain ⟨result, hresult⟩ := (ih hbound).mpr hrest
      refine ⟨result, ?_, _, ⟨le_trans hbound (min_le_right _ _), rfl⟩,
        not_lt.mpr (le_trans hbound (min_le_left _ _)), ?_, hpath.points, hresult⟩
      · push Not
        exact ⟨hpath.roadMatchId, hpath.sequenceId, hpath.sourceGroupId, hseen, hpath.pointCount⟩
      · push Not
        exact hgroup

/-- The sequences read are those of the paths. -/
theorem lookup_validatePaths {arcs : List Arc} {parameters : Parameters} {paths : List MatchedPath}
    {seen : List String} {groups result : List (String × String)} {count : Nat}
    (h : validatePaths arcs parameters paths seen groups count = .ok result) (sequenceId : String) :
    result.lookup sequenceId = none ↔
      groups.lookup sequenceId = none ∧ ∀ path ∈ paths, path.sequenceId ≠ sequenceId := by
  induction paths generalizing seen groups count with
  | nil =>
    cases h
    simp
  | cons path rest ih =>
    simp only [validatePaths, bind_unit_eq_ok_iff, bind_eq_ok_iff (A := Nat)] at h
    obtain ⟨_, _, _, _, _, _, hrest⟩ := h
    rw [ih hrest, List.forall_mem_cons, List.lookup_cons]
    split
    · rename_i heq
      simp [(eq_of_beq heq).symm]
    · rename_i hne
      simp only [beq_eq_false_iff_ne, ne_eq] at hne
      constructor
      · intro ⟨hgroups, hpaths⟩
        exact ⟨hgroups, fun heq => hne heq.symm, hpaths⟩
      · intro ⟨hgroups, _, hpaths⟩
        exact ⟨hgroups, hpaths⟩

/-! ## Evidence and findings -/

/-- What is checked of an evidence interval alone. -/
structure ModalityEvidence.Accepted (evidence : ModalityEvidence) : Prop where
  forward : evidence.startTimeNs < evidence.endTimeNs
  pointCount : 0 ≤ evidence.pointCount
  overlapSupport : ∀ overlap ∈ evidence.overlapSupport, 0 ≤ overlap

theorem validateEvidence_accepted {groups : List (String × String)}
    {evidence : List ModalityEvidence} {seen : List String}
    (h : validateEvidence groups evidence seen = .ok ()) : ∀ item ∈ evidence, item.Accepted := by
  induction evidence generalizing seen with
  | nil => simp
  | cons item rest ih =>
    simp only [validateEvidence, bind_unit_eq_ok_iff, throwIf_eq_ok_iff] at h
    obtain ⟨hfields, _, hrest⟩ := h
    push Not at hfields
    obtain ⟨_, _, _, hforward, hcount, hoverlap⟩ := hfields
    rw [List.forall_mem_cons]
    exact ⟨⟨hforward, hcount, hoverlap⟩, ih hrest⟩

theorem validateFindings_nodup {groups : List (String × String)} {findings : List FindingInterval}
    {seen : List String} (h : validateFindings groups findings seen = .ok ()) :
    (findings.map FindingInterval.findingId).Nodup ∧
      ∀ finding ∈ findings, finding.findingId ∉ seen := by
  induction findings generalizing seen with
  | nil => simp
  | cons finding rest ih =>
    simp only [validateFindings, bind_unit_eq_ok_iff, throwIf_eq_ok_iff] at h
    obtain ⟨hfields, hrest⟩ := h
    push Not at hfields
    obtain ⟨hnodup, hseen⟩ := ih hrest
    refine ⟨?_, ?_⟩
    · rw [List.map_cons, List.nodup_cons]
      refine ⟨?_, hnodup⟩
      intro hmem
      obtain ⟨other, hother, heq⟩ := List.mem_map.mp hmem
      exact hseen other hother (heq ▸ List.mem_cons_self)
    · rw [List.forall_mem_cons]
      refine ⟨hfields.2.2.1, ?_⟩
      exact fun other hother hmem => hseen other hother (List.mem_cons_of_mem _ hmem)

theorem validateEvidence_congr {groups others : List (String × String)}
    (h : ∀ sequenceId, groups.lookup sequenceId = none ↔ others.lookup sequenceId = none)
    (evidence : List ModalityEvidence) (seen : List String) :
    validateEvidence groups evidence seen = validateEvidence others evidence seen := by
  induction evidence generalizing seen with
  | nil => rfl
  | cons item rest ih => simp only [validateEvidence, h, ih]

theorem validateFindings_congr {groups others : List (String × String)}
    (h : ∀ sequenceId, groups.lookup sequenceId = none ↔ others.lookup sequenceId = none)
    (findings : List FindingInterval) (seen : List String) :
    validateFindings groups findings seen = validateFindings others findings seen := by
  induction findings generalizing seen with
  | nil => rfl
  | cons item rest ih => simp only [validateFindings, h, ih]

/-! ## Inputs -/

section Inputs

variable {arcs : List Arc} {paths others : List MatchedPath} {evidence : List ModalityEvidence}
  {findings : List FindingInterval} {parameters : Parameters}

theorem acceptedPaths_of_validateInputs
    (h : validateInputs arcs paths evidence findings parameters = .ok ()) :
    AcceptedPaths arcs parameters paths [] [] 0 := by
  simp only [validateInputs, bind_unit_eq_ok_iff,
    bind_eq_ok_iff (A := List (String × String))] at h
  obtain ⟨_, _, _, groups, hgroups, _⟩ := h
  exact (validatePaths_eq_ok_iff (Nat.zero_le _)).mp ⟨groups, hgroups⟩

theorem binLength_pos_of_validateInputs
    (h : validateInputs arcs paths evidence findings parameters = .ok ()) :
    0 < parameters.binLength := by
  simp only [validateInputs, bind_unit_eq_ok_iff, validateParameters, throwIf_eq_ok_iff] at h
  have hparameters := h.1
  push Not at hparameters
  exact hparameters.1

theorem counted_of_validateInputs
    (h : validateInputs arcs paths evidence findings parameters = .ok ()) :
    ∀ arc ∈ arcs, ∃ binCount, binCountForArc arc parameters = .ok binCount := by
  simp only [validateInputs, bind_unit_eq_ok_iff] at h
  exact validateArcs_counted h.2.2.1

theorem accepted_of_validateInputs
    (h : validateInputs arcs paths evidence findings parameters = .ok ()) :
    (∀ item ∈ evidence, item.Accepted) ∧ (findings.map FindingInterval.findingId).Nodup := by
  simp only [validateInputs, bind_unit_eq_ok_iff,
    bind_eq_ok_iff (A := List (String × String))] at h
  obtain ⟨_, _, _, groups, _, hevidence, hfindings⟩ := h
  exact ⟨validateEvidence_accepted hevidence, (validateFindings_nodup hfindings).1⟩

/-- Validated paths are validated in every order. -/
theorem validateInputs_perm (h : validateInputs arcs paths evidence findings parameters = .ok ())
    (hperm : paths.Perm others) :
    validateInputs arcs others evidence findings parameters = .ok () := by
  have haccepted := (acceptedPaths_of_validateInputs h).perm hperm
  simp only [validateInputs, bind_unit_eq_ok_iff,
    bind_eq_ok_iff (A := List (String × String))] at h ⊢
  obtain ⟨hparameters, hsizes, harcs, groups, hgroups, hevidence, hfindings⟩ := h
  obtain ⟨groups', hgroups'⟩ := (validatePaths_eq_ok_iff (Nat.zero_le _)).mpr haccepted
  have hlookup (sequenceId : String) :
      groups'.lookup sequenceId = none ↔ groups.lookup sequenceId = none := by
    rw [lookup_validatePaths hgroups, lookup_validatePaths hgroups']
    simp only [hperm.mem_iff]
  refine ⟨hparameters, ?_, harcs, groups', hgroups', ?_, ?_⟩
  · rwa [← hperm.length_eq]
  · rwa [validateEvidence_congr hlookup]
  · rwa [validateFindings_congr hlookup]

end Inputs

end CartoSentry.RoadBins
