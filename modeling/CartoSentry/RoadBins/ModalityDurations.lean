import CartoSentry.RoadBins.BinTraversals

set_option autoImplicit false

/-!
# Road bins: durations of modalities

The durations of a modality count the instants at which its evidence lasts and the
traversal moves.
-/

namespace CartoSentry.RoadBins

open Foundation
open Matching (InvalidArgument mapM_mem)

/-! ## Instants -/

def ModalityEvidence.span (evidence : ModalityEvidence) : Int × Int :=
  (evidence.startTimeNs, evidence.endTimeNs)

def Piece.span (piece : Piece) : Int × Int :=
  (piece.startTimeNs, piece.endTimeNs)

/-- The instants at which one of the evidence intervals lasts and one of the pieces does: the
union of their intersections. -/
noncomputable def supported (evidence : List ModalityEvidence) (pieces : List Piece) :
    Finset Int :=
  covered (evidence.map ModalityEvidence.span) ∩ covered (pieces.map Piece.span)

theorem mem_supported {evidence : List ModalityEvidence} {pieces : List Piece} {timeNs : Int} :
    timeNs ∈ supported evidence pieces ↔ ∃ item ∈ evidence, ∃ piece ∈ pieces,
      max item.startTimeNs piece.startTimeNs ≤ timeNs ∧
        timeNs < min item.endTimeNs piece.endTimeNs := by
  rw [supported, Finset.mem_inter, mem_covered_map, mem_covered_map]
  constructor
  · intro ⟨⟨item, hitem, hstart, hend⟩, piece, hpiece, hpieceStart, hpieceEnd⟩
    exact ⟨item, hitem, piece, hpiece, max_le hstart hpieceStart, lt_min hend hpieceEnd⟩
  · intro ⟨item, hitem, piece, hpiece, hstart, hend⟩
    rw [max_le_iff] at hstart
    rw [lt_min_iff] at hend
    exact ⟨⟨item, hitem, hstart.1, hend.1⟩, piece, hpiece, hstart.2, hend.2⟩

theorem supported_append (evidence others : List ModalityEvidence) (pieces : List Piece) :
    supported (evidence ++ others) pieces = supported evidence pieces ∪ supported others pieces := by
  rw [supported, List.map_append, covered_append, Finset.union_inter_distrib_right]
  rfl

/-- The usable evidence of a modality for a sequence. -/
def usableEvidence (evidence : List ModalityEvidence) (modality : Modality) (sequenceId : String) :
    List ModalityEvidence :=
  evidence.filter fun item =>
    item.usable = true ∧ item.sequenceId = sequenceId ∧ item.modality = modality

/-- The part of the evidence that has timestamps. -/
def timestamped (evidence : List ModalityEvidence) : List ModalityEvidence :=
  evidence.filter ModalityEvidence.timestampSupported

/-- The overlaps of an evidence interval with the pieces cover what it supports. -/
theorem covered_overlaps (item : ModalityEvidence) (pieces : List Piece) :
    covered ((pieces.filterMap (overlapInterval item.startTimeNs item.endTimeNs)).map
      TimeInterval.bounds) = supported [item] pieces := by
  ext timeNs
  rw [mem_supported, mem_covered_map]
  simp only [List.mem_filterMap, List.mem_singleton, exists_eq_left]
  constructor
  · rintro ⟨interval, ⟨piece, hpiece, hoverlap⟩, hstart, hend⟩
    simp only [overlapInterval] at hoverlap
    split_ifs at hoverlap with hempty
    cases hoverlap
    dsimp only [TimeInterval.bounds] at hstart hend
    exact ⟨piece, hpiece, by omega, by omega⟩
  · rintro ⟨piece, hpiece, hstart, hend⟩
    refine ⟨⟨max piece.startTimeNs item.startTimeNs, min piece.endTimeNs item.endTimeNs⟩,
      ⟨piece, hpiece, ?_⟩, ?_, ?_⟩
    · apply if_neg
      omega
    · dsimp only [TimeInterval.bounds]
      omega
    · dsimp only [TimeInterval.bounds]
      omega

/-! ## Evidence of a traversal -/

namespace ModalityAccumulator

noncomputable def validInstants (value : ModalityAccumulator) : Finset Int :=
  covered (value.validIntervals.map TimeInterval.bounds)

noncomputable def timestampInstants (value : ModalityAccumulator) : Finset Int :=
  covered (value.timestampIntervals.map TimeInterval.bounds)

theorem validInstants_join (pieces : List Piece) (item : ModalityEvidence)
    (value : ModalityAccumulator) :
    (value.join pieces item).validInstants = value.validInstants ∪ supported [item] pieces := by
  rw [validInstants, join, List.map_append, covered_append, covered_overlaps]
  rfl

theorem timestampInstants_join (pieces : List Piece) (item : ModalityEvidence)
    (value : ModalityAccumulator) :
    (value.join pieces item).timestampInstants =
      value.timestampInstants ∪ supported (timestamped [item]) pieces := by
  rw [timestampInstants, join]
  dsimp only
  split_ifs with htimestamp
  · rw [List.map_append, covered_append, covered_overlaps, timestamped,
      List.filter_cons_of_pos htimestamp]
    rfl
  · rw [timestamped, List.filter_cons_of_neg htimestamp]
    exact (Finset.union_empty _).symm

end ModalityAccumulator

theorem foldl_join_validInstants (pieces : List Piece) (items : List ModalityEvidence)
    (value : ModalityAccumulator) :
    (items.foldl (fun value item => value.join pieces item) value).validInstants =
      value.validInstants ∪ supported items pieces := by
  induction items generalizing value with
  | nil => exact (Finset.union_empty _).symm
  | cons item rest ih =>
    rw [List.foldl_cons, ih, ModalityAccumulator.validInstants_join, Finset.union_assoc,
      ← supported_append, List.singleton_append]

theorem foldl_join_timestampInstants (pieces : List Piece) (items : List ModalityEvidence)
    (value : ModalityAccumulator) :
    (items.foldl (fun value item => value.join pieces item) value).timestampInstants =
      value.timestampInstants ∪ supported (timestamped items) pieces := by
  induction items generalizing value with
  | nil => exact (Finset.union_empty _).symm
  | cons item rest ih =>
    rw [List.foldl_cons, ih, ModalityAccumulator.timestampInstants_join, Finset.union_assoc,
      ← supported_append, timestamped, timestamped, ← List.filter_append, List.singleton_append]
    rfl

/-- Evidence that shares an instant with a piece. -/
def ModalityEvidence.overlaps (pieces : List Piece) (item : ModalityEvidence) : Bool :=
  pieces.any fun piece => (overlapInterval item.startTimeNs item.endTimeNs piece).isSome

/-- The evidence that counts is the usable evidence that overlaps the pieces. -/
theorem joining_eq_filter (pieces : List Piece) (sequenceId : String)
    (evidence : List ModalityEvidence) (modality : Modality) :
    joining pieces sequenceId evidence modality =
      (usableEvidence evidence modality sequenceId).filter (ModalityEvidence.overlaps pieces) := by
  rw [joining, usableEvidence, List.filter_filter]
  apply List.filter_congr
  intro item _
  rw [Bool.eq_iff_iff, decide_eq_true_eq, Bool.and_eq_true, decide_eq_true_eq,
    ModalityEvidence.overlaps, List.any_eq_true, ModalityEvidence.Joins]
  tauto

/-- Evidence that overlaps no piece supports nothing. -/
theorem supported_overlapping (evidence : List ModalityEvidence) (pieces : List Piece) :
    supported (evidence.filter (ModalityEvidence.overlaps pieces)) pieces =
      supported evidence pieces := by
  ext timeNs
  rw [mem_supported, mem_supported]
  constructor
  · intro ⟨item, hitem, hpiece⟩
    exact ⟨item, List.mem_of_mem_filter hitem, hpiece⟩
  · intro ⟨item, hitem, piece, hpiece, hstart, hend⟩
    refine ⟨item, List.mem_filter.mpr ⟨hitem, ?_⟩, piece, hpiece, hstart, hend⟩
    rw [ModalityEvidence.overlaps, List.any_eq_true]
    refine ⟨piece, hpiece, ?_⟩
    rw [overlapInterval, if_neg (by omega)]
    rfl

theorem supported_timestamped (evidence : List ModalityEvidence) (pieces : List Piece) :
    supported (timestamped evidence) pieces ⊆ supported evidence pieces := by
  apply Finset.inter_subset_inter_right
  apply covered_subset
  exact fun interval => (List.filter_sublist.map _).mem

/-- The evidence adds what it supports to the instants of its modality. -/
theorem foldlM_addEvidence_instants {pieces : List Piece} {sequenceId : String}
    {evidence : List ModalityEvidence} {values final : ModalityValues}
    (h : evidence.foldlM (addEvidence pieces sequenceId) values = .ok final)
    (modality : Modality) :
    (final.at modality).validInstants = (values.at modality).validInstants ∪
        supported (usableEvidence evidence modality sequenceId) pieces ∧
      (final.at modality).timestampInstants = (values.at modality).timestampInstants ∪
        supported (timestamped (usableEvidence evidence modality sequenceId)) pieces := by
  rw [foldlM_addEvidence_at h, joining_eq_filter]
  constructor
  · rw [foldl_join_validInstants, supported_overlapping]
  · rw [foldl_join_timestampInstants, timestamped, List.filter_comm, supported_overlapping,
      timestamped]

/-! ## Aggregates by modality -/

/-- What is read of the aggregate of a modality, zero where there is none. -/
def readModality (read : ModalityAggregate → Int) (modalities : List ModalityAggregate)
    (modality : Modality) : Int :=
  (modalities.find? (·.modality = modality)).elim 0 read

/-- Every accumulator is that of its modality. -/
def ModalityValues.Named (values : ModalityValues) : Prop :=
  ∀ modality, ∀ value ∈ values modality, value.modality = modality

section Listed

variable {values : ModalityValues} {modalities : List ModalityAggregate}
  {make : ModalityAccumulator → Except InvalidArgument ModalityAggregate}

theorem nodup_modalities (hnamed : values.Named)
    (hmake : ∀ value aggregate, make value = .ok aggregate → aggregate.modality = value.modality)
    (h : (Modality.all.filterMap values).mapM make = .ok modalities) :
    (modalities.map ModalityAggregate.modality).Nodup := by
  have hall : Modality.all.Nodup := by decide
  rw [map_eq_of_mapM_eq_ok h hmake, List.Nodup, List.pairwise_map, List.pairwise_filterMap]
  apply hall.imp
  intro modality other hne value hvalue value' hvalue'
  rw [hnamed modality value hvalue, hnamed other value' hvalue']
  exact hne

/-- The aggregate of a modality is made of its accumulator. -/
theorem find?_modality (hnamed : values.Named)
    (hmake : ∀ value aggregate, make value = .ok aggregate → aggregate.modality = value.modality)
    (h : (Modality.all.filterMap values).mapM make = .ok modalities) (modality : Modality) :
    match values modality with
    | none => modalities.find? (·.modality = modality) = none
    | some value => ∃ aggregate, make value = .ok aggregate ∧
        modalities.find? (·.modality = modality) = some aggregate := by
  split
  · rename_i hnone
    apply List.find?_eq_none.mpr
    intro aggregate haggregate hmodality
    obtain ⟨value, hvalue, hmade⟩ := mapM_mem h haggregate
    obtain ⟨other, _, hother⟩ := List.mem_filterMap.mp hvalue
    rw [decide_eq_true_eq, hmake value aggregate hmade, hnamed other value hother] at hmodality
    rw [hmodality, hnone] at hother
    nomatch hother
  · rename_i value hvalue
    obtain ⟨aggregate, haggregate, hmade⟩ := mem_of_mapM_eq_ok h
      (List.mem_filterMap.mpr ⟨modality, Modality.mem_all modality, hvalue⟩)
    have hmodality : aggregate.modality = modality :=
      (hmake value aggregate hmade).trans (hnamed modality value hvalue)
    have hfound := find?_key_eq_some (nodup_modalities hnamed hmake h) haggregate
    rw [hmodality] at hfound
    exact ⟨aggregate, hmade, hfound⟩

end Listed

theorem finalizeModality_modality {decimalPlaces : Int} (value : ModalityAccumulator)
    (aggregate : ModalityAggregate) (h : finalizeModality decimalPlaces value = .ok aggregate) :
    aggregate.modality = value.modality := by
  obtain ⟨_, _, h⟩ := bind_eq_ok_iff.mp h
  obtain ⟨_, _, h⟩ := bind_eq_ok_iff.mp h
  cases h
  rfl

theorem ModalityAccumulator.Sound.finalize_durations {value : ModalityAccumulator}
    (hvalue : value.Sound) {decimalPlaces : Int} {aggregate : ModalityAggregate}
    (h : finalizeModality decimalPlaces value = .ok aggregate) :
    aggregate.validDurationNs = value.validInstants.card ∧
      aggregate.timestampSupportedDurationNs = value.timestampInstants.card := by
  obtain ⟨validNs, hvalid, h⟩ := bind_eq_ok_iff.mp h
  obtain ⟨timestampNs, htimestamp, h⟩ := bind_eq_ok_iff.mp h
  cases h
  constructor
  · exact mergedDuration_eq_card hvalid fun interval hinterval => (hvalue.valid interval hinterval).le
  · exact mergedDuration_eq_card htimestamp fun interval hinterval =>
      (hvalue.valid interval (hvalue.timestamps interval hinterval)).le

/-! ## Traversals -/

/-- The durations of the modalities of a traversal are exact. -/
structure TraversalCoverage.MeasuresExactly (evidence : List ModalityEvidence)
    (pieces : List Piece) (traversal : TraversalCoverage) : Prop where
  once : (traversal.modalities.map ModalityAggregate.modality).Nodup
  valid : ∀ modality,
    readModality ModalityAggregate.validDurationNs traversal.modalities modality =
      (supported (usableEvidence evidence modality traversal.sequenceId)
        (traversal.ownPieces pieces)).card
  timestamps : ∀ modality,
    readModality ModalityAggregate.timestampSupportedDurationNs traversal.modalities modality =
      (supported (timestamped (usableEvidence evidence modality traversal.sequenceId))
        (traversal.ownPieces pieces)).card
  ordered : ∀ modality,
    readModality ModalityAggregate.timestampSupportedDurationNs traversal.modalities modality ≤
      readModality ModalityAggregate.validDurationNs traversal.modalities modality ∧
    readModality ModalityAggregate.validDurationNs traversal.modalities modality ≤
      traversal.usableDurationNs

/-- What is supported lasts no longer than the pieces. -/
theorem card_supported_le (evidence : List ModalityEvidence) (pieces : List Piece) :
    ((supported evidence pieces).card : Int) ≤
      (pieces.map fun piece => piece.endTimeNs - piece.startTimeNs).sum := by
  have hsubset : (supported evidence pieces).card ≤ (covered (pieces.map Piece.span)).card :=
    Finset.card_le_card Finset.inter_subset_right
  have hforward : ∀ span ∈ pieces.map Piece.span, span.1 ≤ span.2 := by
    intro span hspan
    obtain ⟨piece, _, rfl⟩ := List.mem_map.mp hspan
    exact piece.lasts.le
  have hcovered := card_covered_le hforward
  rw [List.map_map] at hcovered
  exact (Int.ofNat_le.mpr hsubset).trans hcovered

theorem TraversalOf.measuresExactly {evidence : List ModalityEvidence}
    (haccepted : ∀ item ∈ evidence, item.Accepted) {findings : List FindingInterval}
    {decimalPlaces : Int} {pieces : List Piece} {traversal : TraversalCoverage}
    (h : TraversalOf evidence findings decimalPlaces pieces traversal) :
    traversal.MeasuresExactly evidence pieces := by
  obtain ⟨values, hvalues, hmodalities⟩ := h.modalities
  have hsound := foldlM_addEvidence_sound hvalues haccepted ModalityValues.none_sound
  have hnamed : values.Named := fun modality value hvalue => (hsound modality value hvalue).1
  have hinstants := foldlM_addEvidence_instants hvalues
  have hvalid (modality : Modality) : (values.at modality).validInstants =
      supported (usableEvidence evidence modality traversal.sequenceId)
        (traversal.ownPieces pieces) :=
    (hinstants modality).1.trans (Finset.empty_union _)
  have htimestamps (modality : Modality) : (values.at modality).timestampInstants =
      supported (timestamped (usableEvidence evidence modality traversal.sequenceId))
        (traversal.ownPieces pieces) :=
    (hinstants modality).2.trans (Finset.empty_union _)
  have hread (modality : Modality) :
      readModality ModalityAggregate.validDurationNs traversal.modalities modality =
          (values.at modality).validInstants.card ∧
        readModality ModalityAggregate.timestampSupportedDurationNs traversal.modalities modality =
          (values.at modality).timestampInstants.card := by
    have hfound := find?_modality hnamed finalizeModality_modality hmodalities modality
    rw [readModality, readModality, ModalityValues.at]
    cases hvalue : values modality with
    | none =>
      rw [hvalue] at hfound
      dsimp only at hfound
      rw [hfound]
      exact ⟨rfl, rfl⟩
    | some value =>
      rw [hvalue] at hfound
      obtain ⟨aggregate, hfinalize, hfound⟩ := hfound
      rw [hfound]
      exact (hsound modality value hvalue).2.finalize_durations hfinalize
  refine ⟨nodup_modalities hnamed finalizeModality_modality hmodalities, ?_, ?_, ?_⟩
  · intro modality
    rw [(hread modality).1, hvalid]
  · intro modality
    rw [(hread modality).2, htimestamps]
  · intro modality
    rw [(hread modality).1, (hread modality).2, hvalid, htimestamps, h.duration]
    exact ⟨Int.ofNat_le.mpr (Finset.card_le_card (supported_timestamped _ _)),
      card_supported_le _ _⟩

/-! ## Bins -/

/-- The durations of the modalities of a bin are the sums of those of its traversals. -/
structure BinCoverage.SumsExactly (bin : BinCoverage) : Prop where
  once : (bin.modalities.map ModalityAggregate.modality).Nodup
  valid : ∀ modality, readModality ModalityAggregate.validDurationNs bin.modalities modality =
    (bin.traversals.map fun traversal =>
      readModality ModalityAggregate.validDurationNs traversal.modalities modality).sum
  timestamps : ∀ modality,
    readModality ModalityAggregate.timestampSupportedDurationNs bin.modalities modality =
      (bin.traversals.map fun traversal =>
        readModality ModalityAggregate.timestampSupportedDurationNs traversal.modalities
          modality).sum
  ordered : ∀ modality,
    readModality ModalityAggregate.timestampSupportedDurationNs bin.modalities modality ≤
      readModality ModalityAggregate.validDurationNs bin.modalities modality ∧
    readModality ModalityAggregate.validDurationNs bin.modalities modality ≤ bin.usableDurationNs

/-- Which modalities the aggregates leave in the accumulators. -/
structure Collected (aggregates : List ModalityAggregate) (values final : ModalityValues) :
    Prop where
  named : values.Named → final.Named
  isSome : ∀ modality, (final modality).isSome = true ↔ (values modality).isSome = true ∨
    ∃ aggregate ∈ aggregates, aggregate.modality = modality

theorem foldlM_addAggregate_collected {aggregates : List ModalityAggregate}
    {values final : ModalityValues} (h : aggregates.foldlM addAggregate values = .ok final) :
    Collected aggregates values final := by
  induction aggregates generalizing values with
  | nil =>
    cases h
    exact ⟨fun hnamed => hnamed, by simp⟩
  | cons aggregate rest ih =>
    rw [List.foldlM_cons] at h
    obtain ⟨next, hnext, h⟩ := bind_eq_ok_iff.mp h
    obtain ⟨overlapNs, _, hnext⟩ := bind_eq_ok_iff.mp hnext
    cases hnext
    obtain ⟨hnamed, hsome⟩ := ih h
    refine ⟨?_, ?_⟩
    · intro hvalues
      apply hnamed
      intro modality value hvalue
      by_cases hmodality : modality = aggregate.modality
      · subst hmodality
        rw [Function.update_self] at hvalue
        obtain rfl := Option.mem_some_iff.mp hvalue
        rfl
      · rw [Function.update_of_ne hmodality] at hvalue
        exact hvalues modality value hvalue
    · intro modality
      rw [hsome, List.exists_mem_cons_iff, ← or_assoc]
      apply or_congr_left
      by_cases hmodality : modality = aggregate.modality
      · subst hmodality
        rw [Function.update_self]
        simp
      · rw [Function.update_of_ne hmodality, or_iff_left (Ne.symm hmodality)]

/-- The aggregate with the durations of traversals added. -/
def ModalityAggregate.addAll (aggregate : ModalityAggregate) (modality : Modality)
    (traversals : List TraversalCoverage) : ModalityAggregate :=
  { aggregate with
    validDurationNs := aggregate.validDurationNs + (traversals.map fun traversal =>
      readModality ModalityAggregate.validDurationNs traversal.modalities modality).sum
    timestampSupportedDurationNs := aggregate.timestampSupportedDurationNs +
      (traversals.map fun traversal =>
        readModality ModalityAggregate.timestampSupportedDurationNs traversal.modalities
          modality).sum }

/-- A traversal adds the durations of its aggregate of the modality, or none. -/
theorem addDurations_eq_addAll {modality : Modality} {aggregate next : ModalityAggregate}
    {traversal : TraversalCoverage} (h : addDurations modality aggregate traversal = .ok next) :
    next = aggregate.addAll modality [traversal] := by
  rw [addDurations] at h
  rw [ModalityAggregate.addAll, List.map_singleton, List.map_singleton, List.sum_singleton,
    List.sum_singleton, readModality, readModality]
  split at h
  · rename_i hnone
    cases h
    rw [hnone, Option.elim_none, Option.elim_none, add_zero, add_zero]
  · rename_i item hitem
    obtain ⟨validNs, hvalid, h⟩ := bind_eq_ok_iff.mp h
    obtain ⟨timestampNs, htimestamp, h⟩ := bind_eq_ok_iff.mp h
    cases h
    rw [hitem, checkedInt64_eq_ok hvalid, checkedInt64_eq_ok htimestamp]
    rfl

theorem foldlM_addDurations_eq {modality : Modality} {traversals : List TraversalCoverage}
    {aggregate last : ModalityAggregate}
    (h : traversals.foldlM (addDurations modality) aggregate = .ok last) :
    last = aggregate.addAll modality traversals := by
  induction traversals generalizing aggregate with
  | nil =>
    cases h
    rw [ModalityAggregate.addAll, List.map_nil, List.map_nil, List.sum_nil, add_zero, add_zero]
  | cons traversal rest ih =>
    rw [List.foldlM_cons] at h
    obtain ⟨next, hnext, h⟩ := bind_eq_ok_iff.mp h
    rw [ih h, addDurations_eq_addAll hnext]
    simp only [ModalityAggregate.addAll, List.map_cons, List.map_nil, List.sum_cons, List.sum_nil,
      add_zero, add_assoc]

/-- A modality of a bin has the durations of the traversals, and what else was accumulated. -/
theorem binModality_eq_ok {parameters : Parameters} {traversals : List TraversalCoverage}
    {value : ModalityAccumulator} {aggregate : ModalityAggregate}
    (h : binModality parameters traversals value = .ok aggregate) :
    ∃ final, finalizeModality parameters.distanceRoundingDecimalPlaces value = .ok final ∧
      aggregate = ModalityAggregate.addAll
        { final with validDurationNs := 0, timestampSupportedDurationNs := 0 } value.modality
          traversals := by
  obtain ⟨final, hfinal, h⟩ := bind_eq_ok_iff.mp h
  exact ⟨final, hfinal, foldlM_addDurations_eq h⟩

theorem binModality_modality {parameters : Parameters} {traversals : List TraversalCoverage}
    (value : ModalityAccumulator) (aggregate : ModalityAggregate)
    (h : binModality parameters traversals value = .ok aggregate) :
    aggregate.modality = value.modality := by
  obtain ⟨final, hfinal, rfl⟩ := binModality_eq_ok h
  exact finalizeModality_modality value final hfinal

theorem BinOf.sumsExactly {evidence : List ModalityEvidence} {pieces : List Piece}
    {parameters : Parameters} {traversals : List TraversalCoverage} {bin : BinCoverage}
    (h : BinOf parameters traversals bin)
    (hmeasures : ∀ traversal ∈ bin.traversals, traversal.MeasuresExactly evidence pieces) :
    bin.SumsExactly := by
  obtain ⟨values, hvalues, hmodalities⟩ := h.modalities
  obtain ⟨hnamed, hsome⟩ := foldlM_addAggregate_collected hvalues
  have hnamed : values.Named := hnamed fun _ _ hnone => nomatch hnone
  have habsent {modality : Modality} (hnone : values modality = none)
      (read : ModalityAggregate → Int) :
      (bin.traversals.map fun traversal => readModality read traversal.modalities modality).sum =
        0 := by
    apply List.sum_eq_zero
    intro term hterm
    obtain ⟨traversal, htraversal, rfl⟩ := List.mem_map.mp hterm
    have hmissing : traversal.modalities.find? (·.modality = modality) = none := by
      apply List.find?_eq_none.mpr
      intro aggregate haggregate hmodality
      have hpresent := (hsome modality).mpr (Or.inr ⟨aggregate,
        List.mem_flatMap.mpr ⟨traversal, htraversal, haggregate⟩, of_decide_eq_true hmodality⟩)
      rw [hnone] at hpresent
      nomatch hpresent
    rw [readModality, hmissing]
    rfl
  have hread (modality : Modality) :
      readModality ModalityAggregate.validDurationNs bin.modalities modality =
          (bin.traversals.map fun traversal =>
            readModality ModalityAggregate.validDurationNs traversal.modalities modality).sum ∧
        readModality ModalityAggregate.timestampSupportedDurationNs bin.modalities modality =
          (bin.traversals.map fun traversal =>
            readModality ModalityAggregate.timestampSupportedDurationNs traversal.modalities
              modality).sum := by
    have hfound := find?_modality hnamed binModality_modality hmodalities modality
    cases hvalue : values modality with
    | none =>
      rw [hvalue] at hfound
      dsimp only at hfound
      rw [habsent hvalue, habsent hvalue, readModality, readModality, hfound]
      exact ⟨rfl, rfl⟩
    | some value =>
      rw [hvalue] at hfound
      obtain ⟨aggregate, hmade, hfound⟩ := hfound
      obtain ⟨final, _, rfl⟩ := binModality_eq_ok hmade
      rw [hnamed modality value hvalue] at hfound
      rw [readModality, readModality, hfound]
      exact ⟨zero_add _, zero_add _⟩
  refine ⟨nodup_modalities hnamed binModality_modality hmodalities, fun modality => (hread modality).1,
    fun modality => (hread modality).2, ?_⟩
  intro modality
  rw [(hread modality).1, (hread modality).2, h.duration]
  constructor
  · exact List.sum_le_sum fun traversal htraversal =>
      ((hmeasures traversal htraversal).ordered modality).1
  · exact List.sum_le_sum fun traversal htraversal =>
      ((hmeasures traversal htraversal).ordered modality).2

/-- Of every result, the modality durations are exact measures, and those of the bins their
sums. -/
theorem modality_durations_exact (order : PieceSort) (arcs : List Arc) (paths : List MatchedPath)
    (evidence : List ModalityEvidence) (findings : List FindingInterval) (parameters : Parameters)
    {result : AggregationResult}
    (h : aggregateDirectedRoadBins order arcs paths evidence findings parameters = .ok result) :
    ∃ pieces, makePieces order arcs paths parameters = .ok pieces ∧ ∀ bin ∈ result.bins,
      (∀ traversal ∈ bin.traversals, traversal.MeasuresExactly evidence pieces) ∧
        bin.SumsExactly := by
  obtain ⟨hvalid, pieces, hpieces, traversals, hresult⟩ := aggregated_of h
  obtain ⟨haccepted, -⟩ := accepted_of_validateInputs hvalid
  refine ⟨pieces, hpieces, ?_⟩
  intro bin hbin
  have hmeasures : ∀ traversal ∈ bin.traversals, traversal.MeasuresExactly evidence pieces :=
    fun traversal htraversal => (hresult.traversalOf hbin htraversal).measuresExactly haccepted
  exact ⟨hmeasures, (hresult.bins bin hbin).sumsExactly hmeasures⟩

namespace Crossing

/-- Two scans that overlap each other, one of them without timestamps. -/
def scans : List ModalityEvidence :=
  [{ evidenceId := "long"
     sequenceId := "sequence"
     modality := .lidar
     startTimeNs := 1004
     endTimeNs := 1018
     usable := true
     pointCount := 70
     overlapSupport := none
     timestampSupported := false },
   { evidenceId := "short"
     sequenceId := "sequence"
     modality := .lidar
     startTimeNs := 1008
     endTimeNs := 1012
     usable := true
     pointCount := 12
     overlapSupport := some 2
     timestampSupported := true }]

end Crossing

theorem modality_durations_exact_crossing :
    ∃ result, aggregateDirectedRoadBins .stable Crossing.arcs [Crossing.drive] Crossing.scans []
        Crossing.parameters = .ok result ∧
      ∃ pieces, makePieces .stable Crossing.arcs [Crossing.drive] Crossing.parameters = .ok pieces ∧
        ∀ bin ∈ result.bins, (∀ traversal ∈ bin.traversals,
          traversal.MeasuresExactly Crossing.scans pieces) ∧ bin.SumsExactly := by
  have hsome : (aggregateDirectedRoadBins .stable Crossing.arcs [Crossing.drive] Crossing.scans []
      Crossing.parameters).toOption.isSome = true := by decide +kernel
  obtain ⟨result, hresult⟩ := Option.isSome_iff_exists.mp hsome
  have hok := eq_ok_of_toOption hresult
  exact ⟨result, hok, modality_durations_exact .stable Crossing.arcs [Crossing.drive]
    Crossing.scans [] Crossing.parameters hok⟩

end CartoSentry.RoadBins
