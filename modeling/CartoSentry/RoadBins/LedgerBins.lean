import CartoSentry.RoadBins.BinSums
import CartoSentry.RoadBins.LedgerTraversals
import CartoSentry.RoadBins.PathOrder

set_option autoImplicit false

/-!
# Road bins: bins in the ledger

A bin conforms exactly where its traversals do and its bounds stay apart when they are
rounded.
-/

namespace CartoSentry.RoadBins

open Foundation
open Matching (InvalidArgument mapM_mem)

/-! ## Modalities of a bin -/

/-- Nothing negative, and support from lidar alone. -/
structure ModalityAccumulator.InBin (value : ModalityAccumulator) : Prop where
  pointSupport : 0 ≤ value.pointSupport
  product : 0 ≤ value.overlapSupportDurationProduct
  overlapNs : 0 ≤ value.overlapSupportDurationNs
  lidarOnly : value.modality ≠ .lidar →
    value.pointSupport = 0 ∧ value.overlapSupportDurationNs = 0

def ModalityValues.InBin (values : ModalityValues) : Prop :=
  ∀ modality, ∀ value ∈ values modality, value.modality = modality ∧ value.InBin

theorem ModalityValues.InBin.at {values : ModalityValues} (h : values.InBin)
    (modality : Modality) :
    (values.at modality).modality = modality ∧ (values.at modality).InBin := by
  rw [ModalityValues.at]
  cases hvalue : values modality with
  | none => exact ⟨rfl, le_rfl, le_rfl, le_rfl, fun _ => ⟨rfl, rfl⟩⟩
  | some value => exact h modality value hvalue

theorem ModalityValues.InBin.addAggregate {values next : ModalityValues} (h : values.InBin)
    {aggregate : ModalityAggregate} (haggregate : aggregate.Conforms)
    (hnext : RoadBins.addAggregate values aggregate = .ok next) : next.InBin := by
  obtain ⟨overlapNs, hoverlap, hnext⟩ := bind_eq_ok_iff.mp hnext
  have hoverlap := addSupported_eq_ok hoverlap
  cases hnext
  obtain ⟨hname, hvalue⟩ := h.at aggregate.modality
  have hvalid := haggregate.validDurationNs
  have hmean : 0 ≤ aggregate.meanOverlapSupport.getD 0 := by
    cases hsupport : aggregate.meanOverlapSupport with
    | none => exact le_rfl
    | some mean => exact haggregate.meanOverlapSupport mean hsupport
  have hvalidCast : (0 : ℚ) ≤ (aggregate.validDurationNs : ℚ) := by exact_mod_cast hvalid
  intro modality value hmem
  by_cases heq : modality = aggregate.modality
  · subst heq
    rw [Function.update_self] at hmem
    obtain rfl := Option.mem_some_iff.mp hmem
    refine ⟨rfl, add_nonneg hvalue.pointSupport haggregate.pointSupport,
      add_nonneg hvalue.product (mul_nonneg hmean hvalidCast), ?_, ?_⟩
    · have hold := hvalue.overlapNs
      dsimp only
      rw [hoverlap]
      split_ifs
      · omega
      · omega
    · intro hlidar
      obtain ⟨hpoints, hnone⟩ := haggregate.lidarOnly hlidar
      obtain ⟨holdPoints, holdOverlap⟩ := hvalue.lidarOnly (hname.symm ▸ hlidar)
      dsimp only
      rw [hoverlap, hnone, holdPoints, hpoints, holdOverlap]
      exact ⟨add_zero 0, rfl⟩
  · rw [Function.update_of_ne heq] at hmem
    exact h modality value hmem

theorem foldlM_addAggregate_inBin {aggregates : List ModalityAggregate}
    (haggregates : ∀ aggregate ∈ aggregates, aggregate.Conforms) {values final : ModalityValues}
    (hvalues : values.InBin) (h : aggregates.foldlM addAggregate values = .ok final) :
    final.InBin := by
  induction aggregates generalizing values with
  | nil =>
    cases h
    exact hvalues
  | cons aggregate rest ih =>
    rw [List.foldlM_cons] at h
    obtain ⟨next, hnext, h⟩ := bind_eq_ok_iff.mp h
    obtain ⟨haggregate, hrest⟩ := List.forall_mem_cons.mp haggregates
    exact ih hrest (hvalues.addAggregate haggregate hnext) h

theorem addDurations_eq_ok {modality : Modality} {aggregate next : ModalityAggregate}
    {traversal : TraversalCoverage} (h : addDurations modality aggregate traversal = .ok next) :
    next = aggregate ∨ ∃ item ∈ traversal.modalities,
      next = { aggregate with
        validDurationNs := aggregate.validDurationNs + item.validDurationNs
        timestampSupportedDurationNs :=
          aggregate.timestampSupportedDurationNs + item.timestampSupportedDurationNs } := by
  rw [addDurations] at h
  split at h
  · cases h
    exact Or.inl rfl
  · rename_i item hitem
    obtain ⟨validNs, hvalid, h⟩ := bind_eq_ok_iff.mp h
    obtain ⟨timestampNs, htimestamp, h⟩ := bind_eq_ok_iff.mp h
    cases h
    right
    refine ⟨item, List.mem_of_find?_eq_some hitem, ?_⟩
    rw [checkedInt64_eq_ok hvalid, checkedInt64_eq_ok htimestamp]

/-- Summed durations keep what conforms. -/
theorem foldlM_addDurations_conforms {modality : Modality} {traversals : List TraversalCoverage}
    (htraversals : ∀ traversal ∈ traversals, ∀ item ∈ traversal.modalities, item.Conforms)
    {aggregate last : ModalityAggregate} (haggregate : aggregate.Conforms)
    (h : traversals.foldlM (addDurations modality) aggregate = .ok last) : last.Conforms := by
  induction traversals generalizing aggregate with
  | nil =>
    cases h
    exact haggregate
  | cons traversal rest ih =>
    rw [List.foldlM_cons] at h
    obtain ⟨next, hnext, h⟩ := bind_eq_ok_iff.mp h
    obtain ⟨htraversal, hrest⟩ := List.forall_mem_cons.mp htraversals
    apply ih hrest _ h
    rcases addDurations_eq_ok hnext with rfl | ⟨item, hitem, rfl⟩
    · exact haggregate
    · have hitem := htraversal item hitem
      have hvalid := haggregate.validDurationNs
      have hitemValid := hitem.validDurationNs
      have htimestamp := haggregate.timestampSupportedDurationNs
      have hitemTimestamp := hitem.timestampSupportedDurationNs
      have hsupport := haggregate.timestampSupport
      have hitemSupport := hitem.timestampSupport
      refine ⟨?_, haggregate.pointSupport, haggregate.meanOverlapSupport, ?_, ?_,
        haggregate.lidarOnly, haggregate.evidenceIds⟩
      · dsimp only
        omega
      · dsimp only
        omega
      · dsimp only
        omega

theorem binModality_conforms {parameters : Parameters} {traversals : List TraversalCoverage}
    (htraversals : ∀ traversal ∈ traversals, ∀ item ∈ traversal.modalities, item.Conforms)
    {value : ModalityAccumulator} (hvalue : value.InBin) {aggregate : ModalityAggregate}
    (h : binModality parameters traversals value = .ok aggregate) : aggregate.Conforms := by
  obtain ⟨finalized, hfinalized, h⟩ := bind_eq_ok_iff.mp h
  apply foldlM_addDurations_conforms htraversals _ h
  obtain ⟨validNs, _, hfinalized⟩ := bind_eq_ok_iff.mp hfinalized
  obtain ⟨timestampNs, _, hfinalized⟩ := bind_eq_ok_iff.mp hfinalized
  cases hfinalized
  refine ⟨le_rfl, rounded_nonneg _ hvalue.pointSupport, ?_, le_rfl, le_rfl, ?_,
    canonical_canonical _⟩
  · intro mean hmem
    dsimp only at hmem
    split_ifs at hmem with hpositive
    · obtain rfl := Option.mem_some_iff.mp hmem
      apply rounded_nonneg
      apply div_nonneg hvalue.product
      exact_mod_cast hvalue.overlapNs
    · cases hmem
  · intro hmodality
    obtain ⟨hpoints, hoverlap⟩ := hvalue.lidarOnly hmodality
    dsimp only
    rw [hpoints, hoverlap]
    exact ⟨rounded_zero _, rfl⟩

/-! ## Lengths of bins -/

theorem roundHalfEven_intCast (value : Int) : roundHalfEven (value : ℚ) = value := by
  rw [roundHalfEven, Int.floor_intCast, sub_self, if_pos (by norm_num)]

/-- The bounds of a bin are rounded, so rounding its length once more changes nothing. -/
theorem trueLength_eq {parameters : Parameters} {bin : BinCoverage} {start finish : ℚ}
    (hstart : bin.startOffset = rounded start parameters.distanceRoundingDecimalPlaces)
    (hfinish : bin.endOffset = rounded finish parameters.distanceRoundingDecimalPlaces) :
    bin.trueLength parameters = bin.endOffset - bin.startOffset := by
  have hscale := scale_pos parameters.distanceRoundingDecimalPlaces
  rw [BinCoverage.trueLength, hstart, hfinish, sub_mul, rounded_mul_scale, rounded_mul_scale,
    ← Int.cast_sub, roundHalfEven_intCast, Int.cast_sub, ← rounded_mul_scale, ← rounded_mul_scale,
    ← sub_mul]
  exact mul_div_cancel_right₀ _ hscale.ne'

/-! ## Bins -/

theorem foldlM_addTraversal_speeds {bin last : BinCoverage} {traversals : List TraversalCoverage}
    (htraversals : ∀ traversal ∈ traversals, traversal.Conforms) (hbin : bin.SpeedsOrdered)
    (h : traversals.foldlM BinCoverage.addTraversal bin = .ok last) : last.SpeedsOrdered := by
  induction traversals generalizing bin with
  | nil =>
    cases h
    exact hbin
  | cons traversal rest ih =>
    rw [List.foldlM_cons] at h
    obtain ⟨next, hnext, h⟩ := bind_eq_ok_iff.mp h
    obtain ⟨htraversal, hrest⟩ := List.forall_mem_cons.mp htraversals
    exact ih hrest (hbin.addTraversal htraversal.speedSampleCount htraversal.minimumSpeed
      htraversal.minimum_le_mean htraversal.mean_le_maximum hnext) h

/-- Rounding keeps the order of the speeds. -/
theorem BinCoverage.SpeedsOrdered.finalize {parameters : Parameters} {bin final : BinCoverage}
    (h : bin.SpeedsOrdered) (hfinal : bin.finalize parameters = .ok final) :
    final.SpeedsConform := by
  obtain ⟨values, _, hfinal⟩ := bind_eq_ok_iff.mp hfinal
  obtain ⟨modalities, _, hfinal⟩ := bind_eq_ok_iff.mp hfinal
  cases hfinal
  rw [SpeedsConform]
  rcases h with ⟨hzero, hminimum, hmean, hmaximum⟩ |
    ⟨hpositive, minimum, sum, maximum, hminimum, hmean, hmaximum, hnonneg, hle, hge⟩
  · rw [if_pos hzero]
    dsimp only
    rw [hminimum, hmean, hmaximum]
    exact ⟨rfl, rfl, rfl⟩
  · rw [if_neg (by dsimp only; omega)]
    dsimp only
    rw [hminimum, hmean, hmaximum]
    have hcast : (0 : ℚ) < bin.speedSampleCount := by exact_mod_cast hpositive
    refine ⟨_, rfl, _, rfl, _, rfl, rounded_nonneg _ hnonneg, rounded_mono _ ?_, rounded_mono _ ?_⟩
    · exact (le_div_iff₀ hcast).mpr hle
    · exact (div_le_iff₀ hcast).mpr hge

theorem isClose_self (value : ℚ) {tolerance : ℚ} (h : 0 ≤ tolerance) :
    isClose value value tolerance := by
  rw [isClose, sub_self, abs_zero]
  exact h.trans (le_max_right _ _)

theorem finalize_conforms {parameters : Parameters} (hlength : 0 < parameters.binLength)
    {arcIndex binIndex : Nat} {arc : Arc} {traversals : List TraversalCoverage}
    (htraversals : ∀ traversal ∈ traversals, traversal.Conforms)
    (howned : ∀ traversal ∈ traversals,
      (emptyBin parameters arcIndex arc binIndex).owns traversal)
    (hapart : (emptyBin parameters arcIndex arc binIndex).startOffset <
      (emptyBin parameters arcIndex arc binIndex).endOffset) {bin final : BinCoverage}
    (hbin : traversals.foldlM BinCoverage.addTraversal (emptyBin parameters arcIndex arc binIndex) =
      .ok bin) (hfinal : bin.finalize parameters = .ok final) : final.Conforms parameters := by
  have htotals := foldlM_addTraversal_totals hbin
  have hspeeds : bin.SpeedsOrdered :=
    foldlM_addTraversal_speeds htraversals (.inl ⟨rfl, rfl, rfl, rfl⟩) hbin
  have hspeeds := hspeeds.finalize hfinal
  obtain ⟨values, hvalues, hfinal⟩ := bind_eq_ok_iff.mp hfinal
  obtain ⟨modalities, hmodalities, hfinal⟩ := bind_eq_ok_iff.mp hfinal
  cases hfinal
  have hmembers : bin.traversals = traversals := by
    rw [htotals.traversals]
    rfl
  have hitems : ∀ traversal ∈ bin.traversals, ∀ item ∈ traversal.modalities, item.Conforms := by
    rw [hmembers]
    exact fun traversal htraversal => (htraversals traversal htraversal).modalities
  have hstart : 0 ≤ bin.startOffset := by
    rw [htotals.startOffset]
    apply rounded_nonneg
    positivity
  have hbounds : bin.startOffset < bin.endOffset := by
    rw [htotals.startOffset, htotals.endOffset]
    exact hapart
  have htrue : bin.trueLength parameters = bin.endOffset - bin.startOffset :=
    trueLength_eq htotals.startOffset htotals.endOffset
  refine
    { startOffset := hstart
      endOffset := hstart.trans_lt hbounds
      trueLength := ?_
      usableDurationNs := ?_
      usableDistance := ?_
      yawExcitation := ?_
      bounds := hbounds
      lengthClose := ?_
      traversalCount := ?_
      owned := ?_
      speeds := hspeeds
      critical_subset := ?_
      traversals := ?_
      modalities := ?_ }
  · exact (sub_pos.mpr hbounds).trans_eq htrue.symm
  · dsimp only
    rw [htotals.duration]
    apply add_nonneg le_rfl
    apply List.sum_nonneg
    intro duration hduration
    obtain ⟨traversal, htraversal, rfl⟩ := List.mem_map.mp hduration
    exact (htraversals traversal htraversal).usableDurationNs.le
  · apply rounded_nonneg
    rw [htotals.distance]
    apply add_nonneg le_rfl
    apply List.sum_nonneg
    intro distance hdistance
    obtain ⟨traversal, htraversal, rfl⟩ := List.mem_map.mp hdistance
    exact (htraversals traversal htraversal).usableDistance.le
  · apply rounded_nonneg
    rw [htotals.yaw]
    apply add_nonneg le_rfl
    apply List.sum_nonneg
    intro yaw hyaw
    obtain ⟨traversal, htraversal, rfl⟩ := List.mem_map.mp hyaw
    exact (htraversals traversal htraversal).yawExcitation
  · change isClose (bin.trueLength parameters) (bin.endOffset - bin.startOffset) (1 / 10 ^ 6)
    rw [htrue]
    exact isClose_self _ (by positivity)
  · dsimp only
    rw [htotals.count, hmembers]
    exact Nat.zero_add _
  · intro traversal htraversal
    dsimp only at htraversal
    rw [hmembers] at htraversal
    have howns := howned traversal htraversal
    rw [BinCoverage.owns, ← htotals.arcIndex, ← htotals.longitudinalBinIndex] at howns
    exact howns
  · intro id hid
    rw [mem_canonical, List.mem_flatMap] at hid ⊢
    obtain ⟨traversal, htraversal, hid⟩ := hid
    rw [hmembers] at htraversal
    refine ⟨traversal, hmembers ▸ htraversal, ?_⟩
    exact (htraversals traversal htraversal).critical_subset id hid
  · dsimp only
    rw [hmembers]
    exact htraversals
  · intro aggregate haggregate
    obtain ⟨value, hvalue, haggregate⟩ := mapM_mem hmodalities haggregate
    obtain ⟨modality, _, hvalue⟩ := List.mem_filterMap.mp hvalue
    have hinBin : values.InBin := by
      apply foldlM_addAggregate_inBin _ _ hvalues
      · intro item hitem
        obtain ⟨traversal, htraversal, hitem⟩ := List.mem_flatMap.mp hitem
        exact hitems traversal htraversal item hitem
      · intro modality value hnone
        cases hnone
    exact binModality_conforms hitems (hinBin modality value hvalue).2 haggregate

end CartoSentry.RoadBins
