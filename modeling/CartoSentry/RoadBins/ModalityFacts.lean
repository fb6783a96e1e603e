import Mathlib.Algebra.Order.BigOperators.Group.List
import CartoSentry.Foundation.IntervalUnion
import CartoSentry.Foundation.Outcome
import CartoSentry.Foundation.WeightedMean
import CartoSentry.RoadBins.Ledger
import CartoSentry.RoadBins.Rounded
import CartoSentry.RoadBins.TraversalSums
import CartoSentry.RoadBins.Validation

set_option autoImplicit false

/-!
# Road bins: modality evidence

What the joins of evidence intervals with pieces come to, and which aggregates the ledger
takes.
-/

namespace CartoSentry.RoadBins

open Foundation
open Matching (InvalidArgument mapM_mem)

/-! ## Canonical lists -/

theorem canonical_of_sorted {ids : List String} (hsorted : ids.Pairwise (· ≤ ·))
    (hnodup : ids.Nodup) : canonical ids = ids := by
  rw [canonical, List.dedup_eq_self.mpr hnodup]
  exact hsorted.insertionSort_eq

theorem mem_canonical {ids : List String} {id : String} : id ∈ canonical ids ↔ id ∈ ids := by
  rw [canonical, List.mem_insertionSort, List.mem_dedup]

theorem canonical_canonical (ids : List String) : canonical (canonical ids) = canonical ids := by
  apply canonical_of_sorted
  · exact List.pairwise_insertionSort (· ≤ ·) _
  · exact (List.perm_insertionSort _ _).nodup_iff.mpr (List.nodup_dedup ids)

theorem mem_sortIds {ids : List String} {id : String} : id ∈ sortIds ids ↔ id ∈ ids :=
  List.mem_insertionSort _

theorem canonical_sortIds {ids : List String} (hnodup : ids.Nodup) :
    canonical (sortIds ids) = sortIds ids := by
  apply canonical_of_sorted
  · exact List.pairwise_insertionSort (· ≤ ·) _
  · exact (List.perm_insertionSort _ _).nodup_iff.mpr hnodup

/-! ## Merged durations -/

def TimeInterval.bounds (interval : TimeInterval) : Int × Int :=
  (interval.startNs, interval.endNs)

theorem mergeFrom_eq_ok {currentStart currentEnd durationNs result : Int}
    {intervals : List TimeInterval}
    (h : mergeFrom currentStart currentEnd durationNs intervals = .ok result) :
    result = durationNs +
      unionLength currentStart currentEnd (intervals.map TimeInterval.bounds) := by
  induction intervals generalizing currentStart currentEnd durationNs with
  | nil =>
    obtain ⟨last, hlast, h⟩ := bind_eq_ok_iff.mp h
    rw [checkedInt64_eq_ok h, checkedInt64_eq_ok hlast]
    rfl
  | cons interval rest ih =>
    rw [mergeFrom] at h
    simp only [List.map_cons, unionLength, TimeInterval.bounds]
    by_cases hoverlap : interval.startNs ≤ currentEnd
    · rw [if_pos hoverlap] at h
      rw [if_pos hoverlap]
      exact ih h
    · rw [if_neg hoverlap] at h
      rw [if_neg hoverlap]
      obtain ⟨merged, hmerged, h⟩ := bind_eq_ok_iff.mp h
      obtain ⟨total, htotal, h⟩ := bind_eq_ok_iff.mp h
      rw [ih h, checkedInt64_eq_ok htotal, checkedInt64_eq_ok hmerged, add_assoc]

/-- The merged duration counts the instants that the intervals cover. -/
theorem mergedDuration_eq_card {intervals : List TimeInterval} {durationNs : Int}
    (h : mergedDuration intervals = .ok durationNs)
    (hforward : ∀ interval ∈ intervals, interval.startNs ≤ interval.endNs) :
    durationNs = ((covered (intervals.map TimeInterval.bounds)).card : Int) := by
  have hperm := List.perm_insertionSort
    (fun left right : TimeInterval => left.sortKey ≤ right.sortKey) intervals
  have hsorted := List.pairwise_insertionSort
    (fun left right : TimeInterval => left.sortKey ≤ right.sortKey) intervals
  rw [mergedDuration] at h
  generalize (intervals.insertionSort fun left right => left.sortKey ≤ right.sortKey) = sorted
    at h hperm hsorted
  have hcovered : covered (intervals.map TimeInterval.bounds) =
      covered (sorted.map TimeInterval.bounds) := by
    apply Finset.Subset.antisymm
    · exact covered_subset fun interval => ((hperm.map _).mem_iff).mpr
    · exact covered_subset fun interval => ((hperm.map _).mem_iff).mp
  rw [hcovered]
  cases sorted with
  | nil =>
    cases h
    rfl
  | cons first rest =>
    have hstarts : ((first :: rest).map TimeInterval.bounds).Pairwise
        fun left right => left.1 ≤ right.1 := by
      rw [List.pairwise_map]
      apply hsorted.imp
      intro left right hle
      rcases Prod.Lex.le_iff.mp hle with hlt | ⟨heq, _⟩
      · exact hlt.le
      · exact heq.le
    obtain ⟨hfirst, hrest⟩ := List.pairwise_cons.mp hstarts
    have hforwardSorted : ∀ interval ∈ first :: rest, interval.startNs ≤ interval.endNs :=
      fun interval hinterval => hforward interval (hperm.mem_iff.mp hinterval)
    have hunion : unionLength first.startNs first.endNs (rest.map TimeInterval.bounds) =
        ((Finset.Ico first.startNs first.endNs ∪
          covered (rest.map TimeInterval.bounds)).card : Int) := by
      apply unionLength_eq_card hrest hfirst (hforwardSorted first List.mem_cons_self)
      intro bounds hbounds
      obtain ⟨interval, hinterval, rfl⟩ := List.mem_map.mp hbounds
      exact hforwardSorted interval (List.mem_cons_of_mem _ hinterval)
    rw [mergeFrom_eq_ok h, zero_add, hunion]
    rfl

theorem mergedDuration_nonneg {intervals : List TimeInterval} {durationNs : Int}
    (h : mergedDuration intervals = .ok durationNs)
    (hforward : ∀ interval ∈ intervals, interval.startNs ≤ interval.endNs) : 0 ≤ durationNs := by
  rw [mergedDuration_eq_card h hforward]
  exact Int.natCast_nonneg _

/-- More intervals last no shorter. -/
theorem mergedDuration_le {intervals others : List TimeInterval} {durationNs otherNs : Int}
    (h : mergedDuration intervals = .ok durationNs) (hother : mergedDuration others = .ok otherNs)
    (hforward : ∀ interval ∈ others, interval.startNs ≤ interval.endNs)
    (hsubset : ∀ interval ∈ intervals, interval ∈ others) : durationNs ≤ otherNs := by
  rw [mergedDuration_eq_card h fun interval hinterval => hforward interval (hsubset interval hinterval),
    mergedDuration_eq_card hother hforward, Nat.cast_le]
  apply Finset.card_le_card
  apply covered_subset
  intro bounds hbounds
  obtain ⟨interval, hinterval, rfl⟩ := List.mem_map.mp hbounds
  exact List.mem_map_of_mem (hsubset interval hinterval)

/-- An interval that lasts makes the merged duration positive. -/
theorem mergedDuration_pos {intervals : List TimeInterval} {durationNs : Int}
    (h : mergedDuration intervals = .ok durationNs)
    (hforward : ∀ interval ∈ intervals, interval.startNs < interval.endNs)
    (hne : intervals ≠ []) : 0 < durationNs := by
  rw [mergedDuration_eq_card h fun interval hinterval => (hforward interval hinterval).le]
  obtain ⟨interval, hinterval⟩ := List.exists_mem_of_ne_nil intervals hne
  have hcovered : interval.startNs ∈ covered (intervals.map TimeInterval.bounds) :=
    mem_covered.mpr
      ⟨interval.bounds, List.mem_map_of_mem hinterval, le_rfl, hforward interval hinterval⟩
  exact_mod_cast Finset.card_pos.mpr ⟨_, hcovered⟩

theorem overlapInterval_lasts {startNs endNs : Int} {piece : Piece} {interval : TimeInterval}
    (h : overlapInterval startNs endNs piece = some interval) :
    interval.startNs < interval.endNs := by
  simp only [overlapInterval] at h
  split_ifs at h with hoverlap
  cases h
  exact not_le.mp hoverlap

theorem overlaps_last {startNs endNs : Int} {pieces : List Piece} {interval : TimeInterval}
    (h : interval ∈ pieces.filterMap (overlapInterval startNs endNs)) :
    interval.startNs < interval.endNs := by
  obtain ⟨piece, _, hinterval⟩ := List.mem_filterMap.mp h
  exact overlapInterval_lasts hinterval

/-! ## Evidence of a traversal -/

/-- How long the evidence meets the pieces. -/
def ModalityEvidence.joinedNs (pieces : List Piece) (evidence : ModalityEvidence) : Int :=
  match mergedDuration (pieces.filterMap
    (overlapInterval evidence.startTimeNs evidence.endTimeNs)) with
  | .ok durationNs => durationNs
  | .error _ => 0

/-- The evidence counts for the pieces of a sequence. -/
def ModalityEvidence.Joins (pieces : List Piece) (sequenceId : String)
    (evidence : ModalityEvidence) : Prop :=
  evidence.usable = true ∧ evidence.sequenceId = sequenceId ∧
    ∃ piece ∈ pieces,
      (overlapInterval evidence.startTimeNs evidence.endTimeNs piece).isSome = true

instance (pieces : List Piece) (sequenceId : String) (evidence : ModalityEvidence) :
    Decidable (evidence.Joins pieces sequenceId) :=
  inferInstanceAs (Decidable (_ ∧ _ ∧ ∃ piece ∈ pieces, _))

/-- The points that an evidence interval brings to the pieces. -/
def ModalityEvidence.points (pieces : List Piece) (evidence : ModalityEvidence) : ℚ :=
  evidence.pointCount * evidence.joinedNs pieces /
    ((evidence.endTimeNs - evidence.startTimeNs : Int) : ℚ)

/-- The accumulator after an evidence interval that joins. -/
def ModalityAccumulator.join (pieces : List Piece) (evidence : ModalityEvidence)
    (value : ModalityAccumulator) : ModalityAccumulator :=
  let overlaps := pieces.filterMap (overlapInterval evidence.startTimeNs evidence.endTimeNs)
  { modality := evidence.modality
    validIntervals := value.validIntervals ++ overlaps
    timestampIntervals :=
      if evidence.timestampSupported then value.timestampIntervals ++ overlaps
      else value.timestampIntervals
    pointSupport := value.pointSupport + evidence.points pieces
    overlapSupportDurationProduct :=
      value.overlapSupportDurationProduct +
        evidence.overlapSupport.getD 0 * evidence.joinedNs pieces
    overlapSupportDurationNs :=
      value.overlapSupportDurationNs +
        if evidence.overlapSupport.isSome then evidence.joinedNs pieces else 0
    evidenceIds := value.evidenceIds ++ [evidence.evidenceId] }

theorem joinedNs_pos_iff {pieces : List Piece} {evidence : ModalityEvidence} {durationNs : Int}
    (h : mergedDuration (pieces.filterMap
      (overlapInterval evidence.startTimeNs evidence.endTimeNs)) = .ok durationNs) :
    0 < durationNs ↔ ∃ piece ∈ pieces,
      (overlapInterval evidence.startTimeNs evidence.endTimeNs piece).isSome = true := by
  constructor
  · intro hpositive
    by_contra hnone
    push Not at hnone
    have hempty : pieces.filterMap
        (overlapInterval evidence.startTimeNs evidence.endTimeNs) = [] := by
      apply List.filterMap_eq_nil_iff.mpr
      intro piece hpiece
      simpa using hnone piece hpiece
    rw [hempty] at h
    cases h
    exact lt_irrefl _ hpositive
  · intro ⟨piece, hpiece, hsome⟩
    obtain ⟨interval, hinterval⟩ := Option.isSome_iff_exists.mp hsome
    apply mergedDuration_pos h fun _ => overlaps_last
    exact List.ne_nil_of_mem (List.mem_filterMap.mpr ⟨piece, hpiece, hinterval⟩)

theorem addSupported_eq_ok {support : Option ℚ} {totalNs durationNs result : Int}
    (h : addSupported support totalNs durationNs = .ok result) :
    result = totalNs + if support.isSome then durationNs else 0 := by
  cases support with
  | none =>
    cases h
    simp
  | some value => simpa using checkedInt64_eq_ok h

/-- One evidence interval: it joins, or it is passed over. -/
theorem addEvidence_eq_ok {pieces : List Piece} {sequenceId : String}
    {values next : ModalityValues} {evidence : ModalityEvidence}
    (h : addEvidence pieces sequenceId values evidence = .ok next) :
    evidence.Joins pieces sequenceId ∧ 0 < evidence.joinedNs pieces ∧
        next = Function.update values evidence.modality
          (some ((values.at evidence.modality).join pieces evidence)) ∨
      ¬ evidence.Joins pieces sequenceId ∧ next = values := by
  rw [addEvidence] at h
  by_cases hskip : evidence.usable = false ∨ evidence.sequenceId ≠ sequenceId
  · rw [if_pos hskip] at h
    cases h
    refine Or.inr ⟨?_, rfl⟩
    intro hjoins
    rcases hskip with husable | hsequence
    · simp [hjoins.1] at husable
    · exact hsequence hjoins.2.1
  · rw [if_neg hskip] at h
    push Not at hskip
    obtain ⟨durationNs, hduration, h⟩ := bind_eq_ok_iff.mp h
    have hjoined : evidence.joinedNs pieces = durationNs := by
      rw [ModalityEvidence.joinedNs, hduration]
    have hpositive := joinedNs_pos_iff hduration
    by_cases hzero : durationNs ≤ 0
    · rw [if_pos hzero] at h
      cases h
      refine Or.inr ⟨?_, rfl⟩
      intro hjoins
      exact absurd (hpositive.mpr hjoins.2.2) (not_lt.mpr hzero)
    · rw [if_neg hzero] at h
      left
      have hlt : 0 < durationNs := not_le.mp hzero
      refine ⟨⟨by simpa using hskip.1, hskip.2, hpositive.mp hlt⟩, hjoined ▸ hlt, ?_⟩
      obtain ⟨evidenceNs, hevidence, h⟩ := bind_eq_ok_iff.mp h
      obtain ⟨overlapNs, hoverlap, h⟩ := bind_eq_ok_iff.mp h
      cases h
      rw [checkedInt64_eq_ok hevidence, addSupported_eq_ok hoverlap, ← hjoined]
      rfl

/-! ## Accumulators -/

/-- Intervals that last, timestamps only where they are valid, and no negative support. -/
structure ModalityAccumulator.Sound (value : ModalityAccumulator) : Prop where
  valid : ∀ interval ∈ value.validIntervals, interval.startNs < interval.endNs
  timestamps : ∀ interval ∈ value.timestampIntervals, interval ∈ value.validIntervals
  pointSupport : 0 ≤ value.pointSupport
  product : 0 ≤ value.overlapSupportDurationProduct
  overlapNs : 0 ≤ value.overlapSupportDurationNs

theorem ModalityAccumulator.empty_sound (modality : Modality) :
    (ModalityAccumulator.empty modality).Sound :=
  ⟨by simp [empty], by simp [empty], le_rfl, le_rfl, le_rfl⟩

/-- Every accumulator is sound and is that of its modality. -/
def ModalityValues.Sound (values : ModalityValues) : Prop :=
  ∀ modality, ∀ value ∈ values modality, value.modality = modality ∧ value.Sound

theorem ModalityValues.Sound.at {values : ModalityValues} (h : values.Sound)
    (modality : Modality) : (values.at modality).Sound := by
  rw [ModalityValues.at]
  cases hvalue : values modality with
  | none => exact ModalityAccumulator.empty_sound modality
  | some value => exact (h modality value hvalue).2

theorem ModalityValues.none_sound : ModalityValues.Sound fun _ => none := by
  intro modality value hvalue
  cases hvalue

theorem ModalityValues.Sound.update {values : ModalityValues} (h : values.Sound)
    {modality : Modality} {value : ModalityAccumulator} (hmodality : value.modality = modality)
    (hvalue : value.Sound) :
    ModalityValues.Sound (Function.update values modality (some value)) := by
  intro other found hfound
  by_cases heq : other = modality
  · subst heq
    rw [Function.update_self] at hfound
    obtain rfl := Option.mem_some_iff.mp hfound
    exact ⟨hmodality, hvalue⟩
  · rw [Function.update_of_ne heq] at hfound
    exact h other found hfound

@[simp]
theorem ModalityValues.at_update_self (values : ModalityValues) (modality : Modality)
    (value : ModalityAccumulator) :
    ModalityValues.at (Function.update values modality (some value)) modality = value := by
  rw [ModalityValues.at, Function.update_self, Option.getD_some]

theorem ModalityValues.at_update_of_ne (values : ModalityValues) {modality other : Modality}
    (h : other ≠ modality) (value : ModalityAccumulator) :
    ModalityValues.at (Function.update values modality (some value)) other = values.at other := by
  rw [ModalityValues.at, ModalityValues.at, Function.update_of_ne h]

theorem ModalityEvidence.Accepted.points_nonneg {evidence : ModalityEvidence}
    (h : evidence.Accepted) {pieces : List Piece} (hjoined : 0 < evidence.joinedNs pieces) :
    0 ≤ evidence.points pieces := by
  have hlength : (0 : ℚ) < ((evidence.endTimeNs - evidence.startTimeNs : Int) : ℚ) := by
    exact_mod_cast sub_pos.mpr h.forward
  have hjoined : (0 : ℚ) < (evidence.joinedNs pieces : ℚ) := by exact_mod_cast hjoined
  have hcount := h.pointCount
  rw [points]
  positivity

theorem ModalityAccumulator.Sound.join {value : ModalityAccumulator} (h : value.Sound)
    {evidence : ModalityEvidence} (hevidence : evidence.Accepted) {pieces : List Piece}
    (hjoined : 0 < evidence.joinedNs pieces) : (value.join pieces evidence).Sound := by
  refine ⟨?_, ?_, ?_, ?_, ?_⟩
  · intro interval hinterval
    rcases List.mem_append.mp hinterval with hold | hnew
    · exact h.valid interval hold
    · exact overlaps_last hnew
  · intro interval hinterval
    simp only [ModalityAccumulator.join] at hinterval ⊢
    split_ifs at hinterval with hsupported
    · rcases List.mem_append.mp hinterval with hold | hnew
      · exact List.mem_append_left _ (h.timestamps interval hold)
      · exact List.mem_append_right _ hnew
    · exact List.mem_append_left _ (h.timestamps interval hinterval)
  · exact add_nonneg h.pointSupport (hevidence.points_nonneg hjoined)
  · have hoverlap : 0 ≤ evidence.overlapSupport.getD 0 := by
      cases hsupport : evidence.overlapSupport with
      | none => exact le_rfl
      | some overlap => exact hevidence.overlapSupport overlap hsupport
    have hjoined : (0 : ℚ) ≤ (evidence.joinedNs pieces : ℚ) := by exact_mod_cast hjoined.le
    exact add_nonneg h.product (mul_nonneg hoverlap hjoined)
  · have hoverlap := h.overlapNs
    simp only [ModalityAccumulator.join]
    split_ifs
    · omega
    · omega

/-- The evidence of one modality that counts for the pieces. -/
def joining (pieces : List Piece) (sequenceId : String) (evidence : List ModalityEvidence)
    (modality : Modality) : List ModalityEvidence :=
  evidence.filter fun item => item.Joins pieces sequenceId ∧ item.modality = modality

theorem joining_cons_self {pieces : List Piece} {sequenceId : String} {item : ModalityEvidence}
    (h : item.Joins pieces sequenceId) (rest : List ModalityEvidence) :
    joining pieces sequenceId (item :: rest) item.modality =
      item :: joining pieces sequenceId rest item.modality :=
  List.filter_cons_of_pos (by simpa using h)

theorem joining_cons_of_not {pieces : List Piece} {sequenceId : String} {item : ModalityEvidence}
    {modality : Modality} (h : ¬ (item.Joins pieces sequenceId ∧ item.modality = modality))
    (rest : List ModalityEvidence) :
    joining pieces sequenceId (item :: rest) modality =
      joining pieces sequenceId rest modality :=
  List.filter_cons_of_neg (by simpa using h)

/-- The accumulator of a modality joins the evidence that counts, in order. -/
theorem foldlM_addEvidence_at {pieces : List Piece} {sequenceId : String}
    {evidence : List ModalityEvidence} {values final : ModalityValues}
    (h : evidence.foldlM (addEvidence pieces sequenceId) values = .ok final)
    (modality : Modality) :
    final.at modality = (joining pieces sequenceId evidence modality).foldl
      (fun value item => value.join pieces item) (values.at modality) := by
  induction evidence generalizing values with
  | nil =>
    cases h
    rfl
  | cons item rest ih =>
    rw [List.foldlM_cons] at h
    obtain ⟨next, hnext, h⟩ := bind_eq_ok_iff.mp h
    rw [ih h]
    rcases addEvidence_eq_ok hnext with ⟨hjoins, _, rfl⟩ | ⟨hskip, rfl⟩
    · by_cases hmodality : item.modality = modality
      · subst hmodality
        rw [ModalityValues.at_update_self, joining_cons_self hjoins, List.foldl_cons]
      · rw [ModalityValues.at_update_of_ne _ (Ne.symm hmodality),
          joining_cons_of_not fun h => hmodality h.2]
    · rw [joining_cons_of_not fun h => hskip h.1]

theorem joinedNs_pos_of_foldlM {pieces : List Piece} {sequenceId : String}
    {evidence : List ModalityEvidence} {values final : ModalityValues}
    (h : evidence.foldlM (addEvidence pieces sequenceId) values = .ok final) :
    ∀ item ∈ evidence, item.Joins pieces sequenceId → 0 < item.joinedNs pieces := by
  induction evidence generalizing values with
  | nil => exact fun item hitem => nomatch hitem
  | cons item rest ih =>
    rw [List.foldlM_cons] at h
    obtain ⟨next, hnext, h⟩ := bind_eq_ok_iff.mp h
    rw [List.forall_mem_cons]
    refine ⟨?_, ih h⟩
    intro hjoins
    rcases addEvidence_eq_ok hnext with ⟨_, hjoined, _⟩ | ⟨hskip, _⟩
    · exact hjoined
    · exact absurd hjoins hskip

/-- What the evidence of a sequence leaves in the accumulators. -/
structure Joined (pieces : List Piece) (sequenceId : String) (evidence : List ModalityEvidence)
    (values final : ModalityValues) : Prop where
  positive : ∀ item ∈ evidence, item.Joins pieces sequenceId → 0 < item.joinedNs pieces
  pointSupport : ∀ modality, (final.at modality).pointSupport =
    (values.at modality).pointSupport +
      ((joining pieces sequenceId evidence modality).map (ModalityEvidence.points pieces)).sum
  overlapNs : ∀ modality, (final.at modality).overlapSupportDurationNs =
    (values.at modality).overlapSupportDurationNs +
      ((joining pieces sequenceId evidence modality).map fun item =>
        if item.overlapSupport.isSome then item.joinedNs pieces else 0).sum

theorem foldlM_addEvidence_joined {pieces : List Piece} {sequenceId : String}
    {evidence : List ModalityEvidence} {values final : ModalityValues}
    (h : evidence.foldlM (addEvidence pieces sequenceId) values = .ok final) :
    Joined pieces sequenceId evidence values final := by
  refine ⟨joinedNs_pos_of_foldlM h, ?_, ?_⟩
  · intro modality
    rw [foldlM_addEvidence_at h]
    exact foldl_sum (fun _ _ => rfl) _ _
  · intro modality
    rw [foldlM_addEvidence_at h]
    exact foldl_sum (fun _ _ => rfl) _ _

theorem foldlM_addEvidence_sound {pieces : List Piece} {sequenceId : String}
    {evidence : List ModalityEvidence} {values final : ModalityValues}
    (h : evidence.foldlM (addEvidence pieces sequenceId) values = .ok final)
    (haccepted : ∀ item ∈ evidence, item.Accepted) (hsound : values.Sound) : final.Sound := by
  induction evidence generalizing values with
  | nil =>
    cases h
    exact hsound
  | cons item rest ih =>
    rw [List.foldlM_cons] at h
    obtain ⟨next, hnext, h⟩ := bind_eq_ok_iff.mp h
    obtain ⟨hitem, hrest⟩ := List.forall_mem_cons.mp haccepted
    apply ih h hrest
    rcases addEvidence_eq_ok hnext with ⟨_, hjoined, rfl⟩ | ⟨_, rfl⟩
    · exact hsound.update rfl ((hsound.at item.modality).join hitem hjoined)
    · exact hsound

/-! ## Aggregates -/

theorem ModalityAccumulator.Sound.finalize_conforms {value : ModalityAccumulator}
    (h : value.Sound) {decimalPlaces : Int} {aggregate : ModalityAggregate}
    (hfinalize : finalizeModality decimalPlaces value = .ok aggregate) :
    aggregate.Conforms ↔ (value.modality ≠ .lidar →
      rounded value.pointSupport decimalPlaces = 0 ∧ value.overlapSupportDurationNs ≤ 0) := by
  obtain ⟨validNs, hvalid, hfinalize⟩ := bind_eq_ok_iff.mp hfinalize
  obtain ⟨timestampNs, htimestamp, hfinalize⟩ := bind_eq_ok_iff.mp hfinalize
  cases hfinalize
  have hforward : ∀ interval ∈ value.validIntervals, interval.startNs ≤ interval.endNs :=
    fun interval hinterval => (h.valid interval hinterval).le
  have hmean (value' : ℚ) : some value' ≠ none := Option.some_ne_none value'
  constructor
  · intro hconforms hmodality
    obtain ⟨hpoints, hsupport⟩ := hconforms.lidarOnly hmodality
    refine ⟨hpoints, ?_⟩
    by_contra hpositive
    rw [if_pos (not_le.mp hpositive)] at hsupport
    exact hmean _ hsupport
  · intro hlidar
    refine ⟨?_, ?_, ?_, ?_, ?_, ?_, ?_⟩
    · exact mergedDuration_nonneg hvalid hforward
    · exact rounded_nonneg decimalPlaces h.pointSupport
    · intro mean hmem
      dsimp only at hmem
      split_ifs at hmem with hpositive
      · obtain rfl := Option.mem_some_iff.mp hmem
        apply rounded_nonneg
        apply div_nonneg h.product
        exact_mod_cast h.overlapNs
      · cases hmem
    · apply mergedDuration_nonneg htimestamp
      exact fun interval hinterval => hforward interval (h.timestamps interval hinterval)
    · exact mergedDuration_le htimestamp hvalid hforward h.timestamps
    · intro hmodality
      obtain ⟨hpoints, hoverlap⟩ := hlidar hmodality
      exact ⟨hpoints, if_neg (not_lt.mpr hoverlap)⟩
    · exact canonical_canonical value.evidenceIds

theorem Modality.mem_all (modality : Modality) : modality ∈ Modality.all := by
  cases modality with
  | _ => decide

/-- Evidence that is not lidar brings neither points, as they are rounded, nor overlap
support. -/
def LidarOnly (pieces : List Piece) (sequenceId : String) (evidence : List ModalityEvidence)
    (decimalPlaces : Int) : Prop :=
  ∀ modality, modality ≠ .lidar →
    rounded ((joining pieces sequenceId evidence modality).map
        (ModalityEvidence.points pieces)).sum decimalPlaces = 0 ∧
      ∀ item ∈ joining pieces sequenceId evidence modality, item.overlapSupport = none

theorem sum_joined_le_zero_iff {pieces : List Piece} {items : List ModalityEvidence}
    (hpositive : ∀ item ∈ items, 0 < item.joinedNs pieces) :
    (items.map fun item =>
        if item.overlapSupport.isSome then item.joinedNs pieces else 0).sum ≤ 0 ↔
      ∀ item ∈ items, item.overlapSupport = none := by
  constructor
  · intro hsum item hitem
    by_contra hsome
    have hsome : item.overlapSupport.isSome = true := Option.isSome_iff_ne_none.mpr hsome
    have hle : item.joinedNs pieces ≤ (items.map fun item =>
        if item.overlapSupport.isSome then item.joinedNs pieces else 0).sum := by
      apply List.single_le_sum
      · intro term hterm
        obtain ⟨other, hother, rfl⟩ := List.mem_map.mp hterm
        have hother := hpositive other hother
        split_ifs
        · omega
        · exact le_rfl
      · refine List.mem_map.mpr ⟨item, hitem, ?_⟩
        rw [if_pos hsome]
    have hitem := hpositive item hitem
    omega
  · intro hnone
    apply le_of_eq
    apply List.sum_eq_zero
    intro term hterm
    obtain ⟨item, hitem, rfl⟩ := List.mem_map.mp hterm
    rw [hnone item hitem]
    rfl

/-- The aggregates of a traversal conform exactly where only lidar brings support. -/
theorem modalities_conform_iff {pieces : List Piece} {sequenceId : String}
    {evidence : List ModalityEvidence} (haccepted : ∀ item ∈ evidence, item.Accepted)
    {values : ModalityValues}
    (hvalues : evidence.foldlM (addEvidence pieces sequenceId) (fun _ => none) = .ok values)
    {decimalPlaces : Int} {modalities : List ModalityAggregate}
    (hmodalities : (Modality.all.filterMap values).mapM (finalizeModality decimalPlaces) =
      .ok modalities) :
    (∀ value ∈ modalities, value.Conforms) ↔
      LidarOnly pieces sequenceId evidence decimalPlaces := by
  have hsound := foldlM_addEvidence_sound hvalues haccepted ModalityValues.none_sound
  obtain ⟨hpositive, hpoints, hoverlap⟩ := foldlM_addEvidence_joined hvalues
  have hjoining : ∀ modality, ∀ item ∈ joining pieces sequenceId evidence modality,
      0 < item.joinedNs pieces := by
    intro modality item hitem
    obtain ⟨hmem, hjoins⟩ := List.mem_filter.mp hitem
    exact hpositive item hmem (decide_eq_true_eq.mp hjoins).1
  have hat (modality : Modality) :
      (rounded (values.at modality).pointSupport decimalPlaces = 0 ∧
          (values.at modality).overlapSupportDurationNs ≤ 0) ↔
        rounded ((joining pieces sequenceId evidence modality).map
            (ModalityEvidence.points pieces)).sum decimalPlaces = 0 ∧
          ∀ item ∈ joining pieces sequenceId evidence modality, item.overlapSupport = none := by
    have hstart : ModalityValues.at (fun _ => none) modality = .empty modality := rfl
    rw [hpoints, hoverlap, hstart, ← sum_joined_le_zero_iff (hjoining modality)]
    simp only [ModalityAccumulator.empty, zero_add]
  constructor
  · intro hconform modality hmodality
    rw [← hat]
    cases hvalue : values modality with
    | none =>
      rw [ModalityValues.at, hvalue]
      exact ⟨rounded_zero decimalPlaces, le_rfl⟩
    | some value =>
      obtain ⟨hname, hvalueSound⟩ := hsound modality value hvalue
      obtain ⟨aggregate, haggregate, hfinalize⟩ := mem_of_mapM_eq_ok hmodalities
        (List.mem_filterMap.mpr ⟨modality, Modality.mem_all modality, hvalue⟩)
      rw [ModalityValues.at, hvalue]
      exact (hvalueSound.finalize_conforms hfinalize).mp (hconform aggregate haggregate)
        (hname ▸ hmodality)
  · intro hlidar aggregate haggregate
    obtain ⟨value, hvalue, hfinalize⟩ := mapM_mem hmodalities haggregate
    obtain ⟨modality, _, hvalue⟩ := List.mem_filterMap.mp hvalue
    obtain ⟨hname, hvalueSound⟩ := hsound modality value hvalue
    apply (hvalueSound.finalize_conforms hfinalize).mpr
    intro hmodality
    have hzero := (hat modality).mpr (hlidar modality (hname ▸ hmodality))
    rwa [ModalityValues.at, hvalue] at hzero

end CartoSentry.RoadBins
