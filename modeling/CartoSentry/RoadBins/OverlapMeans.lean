import Mathlib.Algebra.BigOperators.Ring.Finset
import CartoSentry.Foundation.WeightedMean
import CartoSentry.RoadBins.ModalityDurations

set_option autoImplicit false

/-!
# Road bins: mean overlap support

The mean of a traversal is weighted by the duration of the evidence that carries a value.
The mean of a bin weighs the traversals by their valid duration, with the evidence that
carries none.
-/

namespace CartoSentry.RoadBins

open Foundation
open Matching (InvalidArgument mapM_mem)

/-! ## What a traversal contributes -/

/-- The overlap support that evidence of a modality brings to a traversal. -/
structure OverlapSupport where
  /-- The values of the evidence, each times its duration. -/
  product : ℚ
  /-- The duration of the evidence that carries a value. -/
  supportNs : Int
  /-- The duration of all usable evidence. -/
  validNs : Int
  supportNs_nonneg : 0 ≤ supportNs
  product_eq_zero : supportNs = 0 → product = 0
  validNs_pos : 0 < supportNs → 0 < validNs

namespace OverlapSupport

def mean (support : OverlapSupport) : ℚ :=
  support.product / support.supportNs

/-- The traversals with a mean. -/
def counted (supports : List OverlapSupport) : List OverlapSupport :=
  supports.filter fun support => 0 < support.supportNs

end OverlapSupport

/-- How long an evidence interval and the pieces last at once. -/
noncomputable def ModalityEvidence.overlapNs (pieces : List Piece) (item : ModalityEvidence) : Int :=
  (supported [item] pieces).card

/-- The part of the evidence that carries a value. -/
def valued (evidence : List ModalityEvidence) : List ModalityEvidence :=
  evidence.filter fun item => item.overlapSupport.isSome

theorem supported_mono {evidence others : List ModalityEvidence} (pieces : List Piece)
    (h : ∀ item ∈ evidence, item ∈ others) : supported evidence pieces ⊆ supported others pieces := by
  intro timeNs htime
  obtain ⟨item, hitem, hpiece⟩ := mem_supported.mp htime
  exact mem_supported.mpr ⟨item, h item hitem, hpiece⟩

theorem ModalityEvidence.overlapNs_nonneg (pieces : List Piece) (item : ModalityEvidence) :
    0 ≤ item.overlapNs pieces :=
  Int.natCast_nonneg _

/-- What usable evidence brings to the pieces of a traversal. -/
noncomputable def overlapSupportOf (evidence : List ModalityEvidence) (pieces : List Piece) :
    OverlapSupport where
  product := ((valued evidence).map fun item =>
    item.overlapSupport.getD 0 * (item.overlapNs pieces : ℚ)).sum
  supportNs := ((valued evidence).map (ModalityEvidence.overlapNs pieces)).sum
  validNs := (supported evidence pieces).card
  supportNs_nonneg := by
    apply List.sum_nonneg
    intro term hterm
    obtain ⟨item, _, rfl⟩ := List.mem_map.mp hterm
    exact item.overlapNs_nonneg pieces
  product_eq_zero := by
    intro hzero
    apply List.sum_eq_zero
    intro term hterm
    obtain ⟨item, hitem, rfl⟩ := List.mem_map.mp hterm
    have hle : item.overlapNs pieces ≤
        ((valued evidence).map (ModalityEvidence.overlapNs pieces)).sum := by
      apply List.single_le_sum _ _ (List.mem_map_of_mem hitem)
      intro other hother
      obtain ⟨otherItem, _, rfl⟩ := List.mem_map.mp hother
      exact otherItem.overlapNs_nonneg pieces
    have hnone : item.overlapNs pieces = 0 :=
      le_antisymm (hzero ▸ hle) (item.overlapNs_nonneg pieces)
    rw [hnone, Int.cast_zero, mul_zero]
  validNs_pos := by
    intro hpositive
    by_contra hempty
    have hnone : supported evidence pieces = ∅ := by
      rw [← Finset.card_eq_zero]
      omega
    apply hpositive.ne'
    apply List.sum_eq_zero
    intro term hterm
    obtain ⟨item, hitem, rfl⟩ := List.mem_map.mp hterm
    have hsubset : supported [item] pieces ⊆ supported evidence pieces := by
      apply supported_mono
      rw [List.forall_mem_singleton]
      exact List.mem_of_mem_filter hitem
    rw [hnone, Finset.subset_empty] at hsubset
    rw [ModalityEvidence.overlapNs, hsubset]
    rfl

/-! ## Means -/

/-- What the bin computes of its traversals: their rounded means, weighted by the valid
durations. -/
def binMean (round : ℚ → ℚ) (supports : List OverlapSupport) : Option ℚ :=
  if 0 < ((OverlapSupport.counted supports).map OverlapSupport.validNs).sum then
    some (weightedMean (fun support => round support.mean) (fun support => (support.validNs : ℚ))
      (OverlapSupport.counted supports))
  else none

/-- The mean over all evidence that carries a value, weighted by its duration. -/
def durationWeightedMean (supports : List OverlapSupport) : Option ℚ :=
  if 0 < (supports.map OverlapSupport.supportNs).sum then
    some ((supports.map OverlapSupport.product).sum /
      ((supports.map OverlapSupport.supportNs).sum : Int))
  else none

/-- Over the pairs of traversals with a mean, the differences of the means and those of the
shares of valid and of supported duration cancel out. -/
def Balanced (supports : List OverlapSupport) : Prop :=
  pairBalance OverlapSupport.mean (fun support => (support.validNs : ℚ))
    (fun support => (support.supportNs : ℚ)) (OverlapSupport.counted supports) = 0

theorem cast_sum_map {A : Type} (f : A → Int) (items : List A) :
    (((items.map f).sum : Int) : ℚ) = (items.map fun item => (f item : ℚ)).sum := by
  rw [Int.cast_list_sum, List.map_map]
  rfl

/-- Without rounding, the mean of the bin is the mean over the evidence exactly where the
traversals balance. -/
theorem binMean_id_eq_iff (supports : List OverlapSupport) :
    binMean id supports = durationWeightedMean supports ↔ Balanced supports := by
  have hpositive : ∀ support ∈ OverlapSupport.counted supports, 0 < support.supportNs := by
    intro support hsupport
    exact of_decide_eq_true (List.mem_filter.mp hsupport).2
  have hdropped : ∀ support ∈ supports, decide (0 < support.supportNs) = false →
      support.supportNs = 0 := by
    intro support _ hnot
    have hnonneg := support.supportNs_nonneg
    have hle := of_decide_eq_false hnot
    omega
  have hsupport : ((OverlapSupport.counted supports).map OverlapSupport.supportNs).sum =
      (supports.map OverlapSupport.supportNs).sum :=
    sum_filter_eq (fun _ _ _ => rfl) hdropped
  have hproduct : ((OverlapSupport.counted supports).map fun support =>
      support.mean * (support.supportNs : ℚ)).sum = (supports.map OverlapSupport.product).sum := by
    apply sum_filter_eq
    · intro support _ hcounted
      have hne : ((support.supportNs : Int) : ℚ) ≠ 0 := by
        exact_mod_cast (of_decide_eq_true hcounted).ne'
      rw [OverlapSupport.mean, div_mul_cancel₀ _ hne]
    · intro support hmem hnot
      exact support.product_eq_zero (hdropped support hmem hnot)
  have hsum (weight : OverlapSupport → Int) (hne : OverlapSupport.counted supports ≠ [])
      (hweight : ∀ support ∈ OverlapSupport.counted supports, 0 < weight support) :
      0 < ((OverlapSupport.counted supports).map weight).sum := by
    apply List.sum_pos _ _ (mt List.map_eq_nil_iff.mp hne)
    intro term hterm
    obtain ⟨support, hsupport, rfl⟩ := List.mem_map.mp hterm
    exact hweight support hsupport
  rw [Balanced, binMean, durationWeightedMean, ← hsupport, ← hproduct]
  by_cases hnone : OverlapSupport.counted supports = []
  · rw [hnone]
    exact ⟨fun _ => rfl, fun _ => rfl⟩
  · have hvalid := hsum OverlapSupport.validNs hnone fun support hsupport =>
      support.validNs_pos (hpositive support hsupport)
    have hduration := hsum OverlapSupport.supportNs hnone hpositive
    rw [if_pos hvalid, if_pos hduration, Option.some_inj, cast_sum_map]
    apply weightedMean_eq_iff
    · rw [← cast_sum_map]
      exact_mod_cast hvalid
    · rw [← cast_sum_map]
      exact_mod_cast hduration

/-! ## Traversals -/

/-- Evidence that joins the pieces lasts as long as it and they do at once. -/
theorem joinedNs_eq_overlapNs {pieces : List Piece} {item : ModalityEvidence}
    (h : 0 < item.joinedNs pieces) : item.joinedNs pieces = item.overlapNs pieces := by
  rw [ModalityEvidence.joinedNs] at h ⊢
  split at h
  · rename_i durationNs hduration
    rw [mergedDuration_eq_card hduration fun interval hinterval => (overlaps_last hinterval).le,
      covered_overlaps]
    rfl
  · exact absurd h (lt_irrefl 0)

/-- Sums over the evidence that counts are sums over the usable evidence. -/
theorem sum_joining {M : Type} [AddMonoid M] {pieces : List Piece} {sequenceId : String}
    {evidence : List ModalityEvidence} {modality : Modality}
    (hpositive : ∀ item ∈ evidence, item.Joins pieces sequenceId → 0 < item.joinedNs pieces)
    {part other : ModalityEvidence → M}
    (hpart : ∀ item, item.joinedNs pieces = item.overlapNs pieces → part item = other item)
    (hzero : ∀ item, item.overlapNs pieces = 0 → other item = 0) :
    ((joining pieces sequenceId evidence modality).map part).sum =
      ((usableEvidence evidence modality sequenceId).map other).sum := by
  rw [joining_eq_filter]
  apply sum_filter_eq
  · intro item hitem hoverlaps
    obtain ⟨hmem, husable⟩ := List.mem_filter.mp hitem
    rw [decide_eq_true_eq] at husable
    rw [ModalityEvidence.overlaps, List.any_eq_true] at hoverlaps
    exact hpart item
      (joinedNs_eq_overlapNs (hpositive item hmem ⟨husable.1, husable.2.1, hoverlaps⟩))
  · intro item _ hapart
    have hnone : supported [item] pieces = ∅ := by
      rw [← supported_overlapping, List.filter_cons_of_neg (by rw [hapart]; exact Bool.false_ne_true)]
      rfl
    apply hzero item
    rw [ModalityEvidence.overlapNs, hnone]
    rfl

/-- What the usable evidence of a modality brings to a traversal. -/
noncomputable def TraversalCoverage.overlapSupport (evidence : List ModalityEvidence)
    (pieces : List Piece) (modality : Modality) (traversal : TraversalCoverage) : OverlapSupport :=
  overlapSupportOf (usableEvidence evidence modality traversal.sequenceId)
    (traversal.ownPieces pieces)

/-- The aggregate of a traversal, in terms of its overlap support. -/
def OverlapSupport.Describes (decimalPlaces : Int) (support : OverlapSupport) :
    Option ModalityAggregate → Prop
  | none => support.supportNs = 0
  | some aggregate => aggregate.validDurationNs = support.validNs ∧
      aggregate.meanOverlapSupport =
        if 0 < support.supportNs then some (rounded support.mean decimalPlaces) else none

theorem TraversalOf.overlapSupport_describes {evidence : List ModalityEvidence}
    (haccepted : ∀ item ∈ evidence, item.Accepted) {findings : List FindingInterval}
    {decimalPlaces : Int} {pieces : List Piece} {traversal : TraversalCoverage}
    (h : TraversalOf evidence findings decimalPlaces pieces traversal) (modality : Modality) :
    (traversal.overlapSupport evidence pieces modality).Describes decimalPlaces
      (traversal.modalities.find? (·.modality = modality)) := by
  obtain ⟨values, hvalues, hmodalities⟩ := h.modalities
  have hsound := foldlM_addEvidence_sound hvalues haccepted ModalityValues.none_sound
  have hnamed : values.Named := fun modality value hvalue => (hsound modality value hvalue).1
  have hpositive := joinedNs_pos_of_foldlM hvalues
  have hinstants := (foldlM_addEvidence_instants hvalues modality).1
  have hproduct : (values.at modality).overlapSupportDurationProduct =
      (traversal.overlapSupport evidence pieces modality).product := by
    calc (values.at modality).overlapSupportDurationProduct
      _ = 0 + ((joining (traversal.ownPieces pieces) traversal.sequenceId evidence modality).map
            fun item => item.overlapSupport.getD 0 *
              (item.joinedNs (traversal.ownPieces pieces) : ℚ)).sum := by
          rw [foldlM_addEvidence_at hvalues]
          exact foldl_sum (fun _ _ => rfl) _ _
      _ = ((usableEvidence evidence modality traversal.sequenceId).map fun item =>
            item.overlapSupport.getD 0 * (item.overlapNs (traversal.ownPieces pieces) : ℚ)).sum := by
          rw [zero_add]
          apply sum_joining hpositive
          · intro item heq
            rw [heq]
          · intro item hzero
            rw [hzero, Int.cast_zero, mul_zero]
      _ = (traversal.overlapSupport evidence pieces modality).product := by
          symm
          apply sum_filter_eq fun _ _ _ => rfl
          intro item _ hnone
          rw [Option.isSome_eq_false_iff, Option.isNone_iff_eq_none] at hnone
          rw [hnone, Option.getD_none, zero_mul]
  have hsupport : (values.at modality).overlapSupportDurationNs =
      (traversal.overlapSupport evidence pieces modality).supportNs := by
    calc (values.at modality).overlapSupportDurationNs
      _ = 0 + ((joining (traversal.ownPieces pieces) traversal.sequenceId evidence modality).map
            fun item => if item.overlapSupport.isSome then
              item.joinedNs (traversal.ownPieces pieces) else 0).sum := by
          rw [foldlM_addEvidence_at hvalues]
          exact foldl_sum (fun _ _ => rfl) _ _
      _ = ((usableEvidence evidence modality traversal.sequenceId).map fun item =>
            if item.overlapSupport.isSome then
              item.overlapNs (traversal.ownPieces pieces) else 0).sum := by
          rw [zero_add]
          apply sum_joining hpositive
          · intro item heq
            rw [heq]
          · intro item hzero
            rw [hzero, ite_self]
      _ = (traversal.overlapSupport evidence pieces modality).supportNs := by
          symm
          apply sum_filter_eq
          · exact fun item _ hsome => (if_pos hsome).symm
          · exact fun item _ hnone => if_neg (by rw [hnone]; exact Bool.false_ne_true)
  have hfound := find?_modality hnamed finalizeModality_modality hmodalities modality
  cases hvalue : values modality with
  | none =>
    rw [hvalue] at hfound
    dsimp only at hfound
    rw [hfound, OverlapSupport.Describes, ← hsupport, ModalityValues.at, hvalue]
    rfl
  | some value =>
    rw [hvalue] at hfound
    obtain ⟨aggregate, hfinalize, hfound⟩ := hfound
    rw [ModalityValues.at, hvalue] at hproduct hsupport hinstants
    rw [hfound, OverlapSupport.Describes]
    refine ⟨?_, ?_⟩
    · rw [((hsound modality value hvalue).2.finalize_durations hfinalize).1]
      exact congrArg _ (congrArg _ (hinstants.trans (Finset.empty_union _)))
    · obtain ⟨_, _, hfinalize⟩ := bind_eq_ok_iff.mp hfinalize
      obtain ⟨_, _, hfinalize⟩ := bind_eq_ok_iff.mp hfinalize
      cases hfinalize
      rw [OverlapSupport.mean, ← hproduct, ← hsupport]
      rfl

/-! ## Bins -/

/-- The accumulator of a bin after the aggregate of a traversal. -/
def ModalityAccumulator.collect (value : ModalityAccumulator) (aggregate : ModalityAggregate) :
    ModalityAccumulator :=
  { modality := aggregate.modality
    validIntervals :=
      if 0 < aggregate.validDurationNs then
        value.validIntervals ++ [{ startNs := 0, endNs := aggregate.validDurationNs }]
      else value.validIntervals
    timestampIntervals :=
      if 0 < aggregate.timestampSupportedDurationNs then
        value.timestampIntervals ++
          [{ startNs := 0, endNs := aggregate.timestampSupportedDurationNs }]
      else value.timestampIntervals
    pointSupport := value.pointSupport + aggregate.pointSupport
    overlapSupportDurationProduct :=
      value.overlapSupportDurationProduct +
        aggregate.meanOverlapSupport.getD 0 * aggregate.validDurationNs
    overlapSupportDurationNs :=
      value.overlapSupportDurationNs +
        if aggregate.meanOverlapSupport.isSome then aggregate.validDurationNs else 0
    evidenceIds := value.evidenceIds ++ aggregate.evidenceIds }

theorem addAggregate_eq_ok {values next : ModalityValues} {aggregate : ModalityAggregate}
    (h : addAggregate values aggregate = .ok next) :
    next = Function.update values aggregate.modality
      (some ((values.at aggregate.modality).collect aggregate)) := by
  obtain ⟨overlapNs, hoverlap, h⟩ := bind_eq_ok_iff.mp h
  cases h
  rw [addSupported_eq_ok hoverlap]
  rfl

/-- The accumulator of a modality collects the aggregates of that modality, in order. -/
theorem foldlM_addAggregate_at {aggregates : List ModalityAggregate}
    {values final : ModalityValues} (h : aggregates.foldlM addAggregate values = .ok final)
    (modality : Modality) :
    final.at modality = (aggregates.filter (·.modality = modality)).foldl
      ModalityAccumulator.collect (values.at modality) := by
  induction aggregates generalizing values with
  | nil =>
    cases h
    rfl
  | cons aggregate rest ih =>
    rw [List.foldlM_cons] at h
    obtain ⟨next, hnext, h⟩ := bind_eq_ok_iff.mp h
    rw [ih h, addAggregate_eq_ok hnext]
    by_cases hmodality : aggregate.modality = modality
    · subst hmodality
      rw [ModalityValues.at_update_self, List.filter_cons, if_pos (decide_eq_true rfl),
        List.foldl_cons]
    · rw [ModalityValues.at_update_of_ne _ (Ne.symm hmodality), List.filter_cons,
        if_neg (by simpa using hmodality)]

/-- Sums over the aggregates of a modality are sums over the traversals. -/
theorem sum_listed {M : Type} [AddMonoid M] {traversals : List TraversalCoverage}
    (honce : ∀ traversal ∈ traversals,
      (traversal.modalities.map ModalityAggregate.modality).Nodup)
    (part : ModalityAggregate → M) (modality : Modality) :
    (((traversals.flatMap TraversalCoverage.modalities).filter (·.modality = modality)).map
        part).sum =
      (traversals.map fun traversal =>
        (traversal.modalities.find? (·.modality = modality)).elim 0 part).sum := by
  induction traversals with
  | nil => rfl
  | cons traversal rest ih =>
    obtain ⟨hfirst, hrest⟩ := List.forall_mem_cons.mp honce
    rw [List.flatMap_cons, List.filter_append, List.map_append, List.sum_append, ih hrest,
      List.map_cons, List.sum_cons, filter_key_eq_find? hfirst]
    cases traversal.modalities.find? (·.modality = modality) with
    | none => rfl
    | some aggregate => rw [Option.toList_some, List.map_singleton, List.sum_singleton, Option.elim]

/-- The mean overlap support that a bin reports of a modality. -/
def BinCoverage.meanOverlapSupport (bin : BinCoverage) (modality : Modality) : Option ℚ :=
  (bin.modalities.find? (·.modality = modality)).bind ModalityAggregate.meanOverlapSupport

/-- What the usable evidence of a modality brings to the traversals of a bin. -/
noncomputable def BinCoverage.overlapSupports (evidence : List ModalityEvidence)
    (pieces : List Piece) (modality : Modality) (bin : BinCoverage) : List OverlapSupport :=
  bin.traversals.map (TraversalCoverage.overlapSupport evidence pieces modality)

/-- The duration with which a traversal counts: its valid duration, where it has a mean. -/
theorem OverlapSupport.Describes.countedNs {decimalPlaces : Int} {support : OverlapSupport}
    {found : Option ModalityAggregate} (h : support.Describes decimalPlaces found) :
    (found.elim 0 fun aggregate =>
        if aggregate.meanOverlapSupport.isSome then aggregate.validDurationNs else 0) =
      if 0 < support.supportNs then support.validNs else 0 := by
  cases found with
  | none =>
    rw [Option.elim_none, if_neg (h.symm ▸ lt_irrefl 0)]
  | some aggregate =>
    obtain ⟨hvalid, hmean⟩ := h
    rw [Option.elim_some, hvalid, hmean]
    by_cases hpositive : 0 < support.supportNs
    · rw [if_pos hpositive, if_pos hpositive]
      rfl
    · rw [if_neg hpositive, if_neg hpositive]
      rfl

/-- The product with which a traversal counts: its rounded mean times its valid duration. -/
theorem OverlapSupport.Describes.countedProduct {decimalPlaces : Int} {support : OverlapSupport}
    {found : Option ModalityAggregate} (h : support.Describes decimalPlaces found) :
    (found.elim 0 fun aggregate =>
        aggregate.meanOverlapSupport.getD 0 * (aggregate.validDurationNs : ℚ)) =
      if 0 < support.supportNs then
        rounded support.mean decimalPlaces * (support.validNs : ℚ) else 0 := by
  cases found with
  | none =>
    rw [Option.elim_none, if_neg (h.symm ▸ lt_irrefl 0)]
  | some aggregate =>
    obtain ⟨hvalid, hmean⟩ := h
    rw [Option.elim_some, hvalid, hmean]
    split_ifs with hpositive
    · rfl
    · exact zero_mul _

/-- The bin reports the mean of the rounded means of its traversals. -/
theorem BinOf.meanOverlapSupport_eq {evidence : List ModalityEvidence} {pieces : List Piece}
    {parameters : Parameters} {traversals : List TraversalCoverage} {bin : BinCoverage}
    (h : BinOf parameters traversals bin) {modality : Modality}
    (honce : ∀ traversal ∈ bin.traversals,
      (traversal.modalities.map ModalityAggregate.modality).Nodup)
    (hdescribes : ∀ traversal ∈ bin.traversals,
      (traversal.overlapSupport evidence pieces modality).Describes
        parameters.distanceRoundingDecimalPlaces
        (traversal.modalities.find? (·.modality = modality))) :
    bin.meanOverlapSupport modality =
      (binMean (rounded · parameters.distanceRoundingDecimalPlaces)
        (bin.overlapSupports evidence pieces modality)).map
          (rounded · parameters.distanceRoundingDecimalPlaces) := by
  obtain ⟨values, hvalues, hmodalities⟩ := h.modalities
  have hnamed : values.Named :=
    (foldlM_addAggregate_collected hvalues).named fun _ _ hnone => nomatch hnone
  have hcounted {M : Type} [AddMonoid M] (part : OverlapSupport → M) :
      (bin.traversals.map fun traversal =>
        if 0 < (traversal.overlapSupport evidence pieces modality).supportNs then
          part (traversal.overlapSupport evidence pieces modality) else 0).sum =
      ((OverlapSupport.counted (bin.overlapSupports evidence pieces modality)).map part).sum := by
    calc (bin.traversals.map fun traversal =>
          if 0 < (traversal.overlapSupport evidence pieces modality).supportNs then
            part (traversal.overlapSupport evidence pieces modality) else 0).sum
      _ = ((bin.overlapSupports evidence pieces modality).map fun support =>
            if 0 < support.supportNs then part support else 0).sum := by
          rw [BinCoverage.overlapSupports, List.map_map]
          rfl
      _ = ((OverlapSupport.counted (bin.overlapSupports evidence pieces modality)).map
            part).sum := by
          symm
          apply sum_filter_eq
          · exact fun support _ hpositive => (if_pos (of_decide_eq_true hpositive)).symm
          · exact fun support _ hnot => if_neg (of_decide_eq_false hnot)
  have hduration : (values.at modality).overlapSupportDurationNs =
      ((OverlapSupport.counted (bin.overlapSupports evidence pieces modality)).map
        OverlapSupport.validNs).sum := by
    calc (values.at modality).overlapSupportDurationNs
      _ = 0 + (((bin.traversals.flatMap TraversalCoverage.modalities).filter
            (·.modality = modality)).map fun aggregate =>
              if aggregate.meanOverlapSupport.isSome then aggregate.validDurationNs else 0).sum := by
          rw [foldlM_addAggregate_at hvalues]
          exact foldl_sum (fun _ _ => rfl) _ _
      _ = (bin.traversals.map fun traversal =>
            if 0 < (traversal.overlapSupport evidence pieces modality).supportNs then
              (traversal.overlapSupport evidence pieces modality).validNs else 0).sum := by
          rw [zero_add, sum_listed honce]
          apply congrArg List.sum
          apply List.map_congr_left
          exact fun traversal htraversal => (hdescribes traversal htraversal).countedNs
      _ = ((OverlapSupport.counted (bin.overlapSupports evidence pieces modality)).map
            OverlapSupport.validNs).sum := hcounted OverlapSupport.validNs
  have hproduct : (values.at modality).overlapSupportDurationProduct =
      ((OverlapSupport.counted (bin.overlapSupports evidence pieces modality)).map
        fun support => rounded support.mean parameters.distanceRoundingDecimalPlaces *
          (support.validNs : ℚ)).sum := by
    calc (values.at modality).overlapSupportDurationProduct
      _ = 0 + (((bin.traversals.flatMap TraversalCoverage.modalities).filter
            (·.modality = modality)).map fun aggregate =>
              aggregate.meanOverlapSupport.getD 0 * (aggregate.validDurationNs : ℚ)).sum := by
          rw [foldlM_addAggregate_at hvalues]
          exact foldl_sum (fun _ _ => rfl) _ _
      _ = (bin.traversals.map fun traversal =>
            if 0 < (traversal.overlapSupport evidence pieces modality).supportNs then
              rounded (traversal.overlapSupport evidence pieces modality).mean
                parameters.distanceRoundingDecimalPlaces *
                  ((traversal.overlapSupport evidence pieces modality).validNs : ℚ) else 0).sum := by
          rw [zero_add, sum_listed honce]
          apply congrArg List.sum
          apply List.map_congr_left
          exact fun traversal htraversal => (hdescribes traversal htraversal).countedProduct
      _ = _ := hcounted fun support =>
          rounded support.mean parameters.distanceRoundingDecimalPlaces * (support.validNs : ℚ)
  have hfound := find?_modality hnamed binModality_modality hmodalities modality
  rw [BinCoverage.meanOverlapSupport, binMean, weightedMean, ← hproduct, ← hduration]
  cases hvalue : values modality with
  | none =>
    rw [hvalue] at hfound
    dsimp only at hfound
    rw [hfound, ModalityValues.at, hvalue]
    rfl
  | some value =>
    rw [hvalue] at hfound
    obtain ⟨aggregate, hmade, hfound⟩ := hfound
    obtain ⟨final, hfinal, rfl⟩ := binModality_eq_ok hmade
    obtain ⟨_, _, hfinal⟩ := bind_eq_ok_iff.mp hfinal
    obtain ⟨_, _, hfinal⟩ := bind_eq_ok_iff.mp hfinal
    cases hfinal
    rw [hfound, ← cast_sum_map, ← hduration, ModalityValues.at, hvalue, Option.getD_some,
      Option.bind_some]
    dsimp only [ModalityAggregate.addAll]
    split_ifs with hpositive
    · rfl
    · rfl

namespace Crossing

/-- A vehicle that passes the first bin twice. -/
def passes : MatchedPath :=
  { drive with points := [pointAt 1000 5 2, pointAt 1010 15 4, pointAt 2000 5 2, pointAt 2010 15 4] }

def scan (evidenceId : String) (startTimeNs endTimeNs : Int) (overlapSupport : Option ℚ) :
    ModalityEvidence :=
  { evidenceId := evidenceId
    sequenceId := "sequence"
    modality := .lidar
    startTimeNs := startTimeNs
    endTimeNs := endTimeNs
    usable := true
    pointCount := 0
    overlapSupport := overlapSupport
    timestampSupported := true }

/-- Of the first pass, a tenth of the evidence carries a value, of the second all of it. -/
def mixed : List ModalityEvidence :=
  [scan "first" 1000 1001 (some 1), scan "rest" 1001 1010 none, scan "second" 2000 2010 (some 3)]

end Crossing

end CartoSentry.RoadBins
