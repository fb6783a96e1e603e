import CartoSentry.Foundation.OrderStatistic
import CartoSentry.LidarIntegrity.Histogram
import Mathlib.Tactic.Linarith
import Mathlib.Tactic.FieldSimp
import Mathlib.Tactic.Ring

set_option autoImplicit false

/-!
# Lidar integrity: quantiles

In exact arithmetic the quantiles of a histogram are order statistics up to half the width
of a bin, unless its bins have no width.
-/

namespace CartoSentry.LidarIntegrity

open Contracts (Raised)
open Foundation (bind_eq_ok_iff ok_bind mapM_eq_ok orderStatistic exists_orderStatistic
  mem_of_orderStatistic orderStatistic_mono lt_countP_iff countP_lt_succ)

/-! ## Bins -/

section Bins

variable (minimum maximum : ℚ) (bins : Nat)

/-- The place of a value in units of a bin. -/
def scaled (value : ℚ) : ℚ :=
  (value - minimum) / (maximum - minimum) * bins

/-- The bin of a value between the bounds. -/
def binPlace (value : ℚ) : Nat :=
  min (bins - 1) ⌊scaled minimum maximum bins value⌋₊

def binWidth : ℚ :=
  (maximum - minimum) / bins

variable {minimum maximum bins}

theorem scaled_mono (h : minimum < maximum) : Monotone (scaled minimum maximum bins) := by
  intro left right hle
  unfold scaled
  have hspan : 0 < maximum - minimum := sub_pos.mpr h
  gcongr

theorem binPlace_mono (h : minimum < maximum) : Monotone (binPlace minimum maximum bins) :=
  fun _ _ hle => min_le_min_left _ (Nat.floor_mono (scaled_mono h hle))

theorem binPlace_lt (hbins : 0 < bins) (value : ℚ) : binPlace minimum maximum bins value < bins :=
  (min_le_left _ _).trans_lt (Nat.sub_one_lt hbins.ne')

/-- A value between the bounds lies in its bin or on its end. -/
theorem binPlace_bounds (h : minimum < maximum) (hbins : 0 < bins) {value : ℚ}
    (hlow : minimum ≤ value) (hhigh : value ≤ maximum) :
    (binPlace minimum maximum bins value : ℚ) ≤ scaled minimum maximum bins value ∧
      scaled minimum maximum bins value ≤ binPlace minimum maximum bins value + 1 := by
  have hspan : 0 < maximum - minimum := sub_pos.mpr h
  have hnonneg : 0 ≤ scaled minimum maximum bins value := by
    unfold scaled
    have hvalue : 0 ≤ value - minimum := sub_nonneg.mpr hlow
    positivity
  have hbound : scaled minimum maximum bins value ≤ bins := by
    unfold scaled
    have hfraction : (value - minimum) / (maximum - minimum) ≤ 1 :=
      (div_le_one hspan).mpr (sub_le_sub_right hhigh minimum)
    exact mul_le_of_le_one_left (Nat.cast_nonneg bins) hfraction
  have hfloor := Nat.floor_le hnonneg
  have hnext := (Nat.lt_floor_add_one (scaled minimum maximum bins value)).le
  unfold binPlace
  rcases le_total ⌊scaled minimum maximum bins value⌋₊ (bins - 1) with hinside | hend
  · rw [min_eq_right hinside]
    exact ⟨hfloor, hnext⟩
  · rw [min_eq_left hend]
    have hcast : ((bins - 1 : Nat) : ℚ) + 1 = bins := by
      exact_mod_cast Nat.sub_add_cancel hbins
    refine ⟨(Nat.cast_le.mpr hend).trans hfloor, ?_⟩
    rw [hcast]
    exact hbound

/-- The middle of the bin of a value is at most half a width away from it. -/
theorem abs_middle_sub_le (h : minimum < maximum) (hbins : 0 < bins) {value : ℚ}
    (hlow : minimum ≤ value) (hhigh : value ≤ maximum) :
    |minimum + ((binPlace minimum maximum bins value : ℚ) + 1 / 2) * binWidth minimum maximum bins -
      value| ≤ binWidth minimum maximum bins / 2 := by
  have hspan : 0 < maximum - minimum := sub_pos.mpr h
  have hcount : (0 : ℚ) < bins := Nat.cast_pos.mpr hbins
  have hwidth : 0 < binWidth minimum maximum bins := div_pos hspan hcount
  obtain ⟨hbelow, habove⟩ := binPlace_bounds h hbins hlow hhigh
  have hvalue : value = minimum + scaled minimum maximum bins value * binWidth minimum maximum bins := by
    unfold scaled binWidth
    field_simp
    ring
  have hdifference : minimum + ((binPlace minimum maximum bins value : ℚ) + 1 / 2) *
      binWidth minimum maximum bins - value =
        ((binPlace minimum maximum bins value : ℚ) + 1 / 2 - scaled minimum maximum bins value) *
          binWidth minimum maximum bins := by
    rw [sub_mul]
    linarith
  have hhalf : |(binPlace minimum maximum bins value : ℚ) + 1 / 2 -
      scaled minimum maximum bins value| ≤ 1 / 2 := abs_le.mpr ⟨by linarith, by linarith⟩
  rw [hdifference, abs_mul, abs_of_pos hwidth]
  calc |(binPlace minimum maximum bins value : ℚ) + 1 / 2 - scaled minimum maximum bins value| *
        binWidth minimum maximum bins
      ≤ 1 / 2 * binWidth minimum maximum bins := mul_le_mul_of_nonneg_right hhalf hwidth.le
    _ = binWidth minimum maximum bins / 2 := by ring

end Bins

/-! ## Counts -/

section Counts

variable {minimum maximum : ℚ} {bins : Nat}

variable (minimum maximum bins) in
/-- The histogram of values between the bounds. -/
def tallied (values : List ℚ) : FixedHistogram ℚ where
  minimum := minimum
  maximum := maximum
  bins := bins
  counts := (List.range bins).map fun place =>
    values.countP fun value => binPlace minimum maximum bins value = place
  finiteCount := values.length
  below := 0
  above := 0

theorem increment_place {counts : List Nat} {place : Nat} (h : place < counts.length) :
    increment counts place = .ok (counts.modify place (· + 1)) := by
  have hnonneg : ¬ (place : Int) < 0 := not_lt.mpr (Int.natCast_nonneg place)
  unfold increment
  dsimp only
  rw [if_neg hnonneg, if_pos ⟨not_lt.mp hnonneg, Nat.cast_lt.mpr h⟩, Int.toNat_natCast]

theorem binOf_inside (h : minimum < maximum) (hbins : 0 < bins) (values : List ℚ) {value : ℚ}
    (hlow : minimum ≤ value) (hhigh : value ≤ maximum) :
    (tallied minimum maximum bins values).binOf value = .ok (binPlace minimum maximum bins value) := by
  have hnonneg : 0 ≤ scaled minimum maximum bins value :=
    (Nat.cast_nonneg _).trans (binPlace_bounds h hbins hlow hhigh).1
  have hbelow : Arithmetic.lt value (tallied minimum maximum bins values).minimum = false :=
    decide_eq_false (not_lt.mpr hlow)
  have habove : Arithmetic.lt (tallied minimum maximum bins values).maximum value = false :=
    decide_eq_false (not_lt.mpr hhigh)
  have hfraction : Arithmetic.div (Arithmetic.sub value minimum) (Arithmetic.sub maximum minimum) =
      .ok ((value - minimum) / (maximum - minimum)) := if_neg (sub_pos.mpr h).ne'
  have hindex : Arithmetic.truncate (scaled minimum maximum bins value) =
      .ok (⌊scaled minimum maximum bins value⌋₊ : Int) := by
    rw [Int.natCast_floor_eq_floor hnonneg]
    exact congrArg Except.ok (if_pos hnonneg)
  have hscaled : Arithmetic.mul ((value - minimum) / (maximum - minimum))
      (Arithmetic.ofInt (bins : Int)) = scaled minimum maximum bins value := by
    unfold scaled
    rw [← Int.cast_natCast]
    rfl
  unfold FixedHistogram.binOf
  rw [hbelow, habove]
  change (Arithmetic.div (Arithmetic.sub value minimum) (Arithmetic.sub maximum minimum) >>=
    fun fraction => Arithmetic.truncate (Arithmetic.mul fraction (Arithmetic.ofInt (bins : Int))) >>=
      fun index => pure (min ((bins : Int) - 1) index)) = _
  rw [hfraction, ok_bind, hscaled, hindex, ok_bind, binPlace]
  refine congrArg Except.ok ?_
  push_cast [Nat.cast_sub (Nat.one_le_iff_ne_zero.mpr hbins.ne')]
  rfl

/-- One more value is one more in its bin. -/
theorem add_tallied (h : minimum < maximum) (hbins : 0 < bins) (values : List ℚ) {value : ℚ}
    (hlow : minimum ≤ value) (hhigh : value ≤ maximum) :
    (tallied minimum maximum bins values).add value =
      .ok (tallied minimum maximum bins (values ++ [value])) := by
  have hlength : binPlace minimum maximum bins value <
      (tallied minimum maximum bins values).counts.length := by
    rw [tallied, List.length_map, List.length_range]
    exact binPlace_lt hbins value
  have hcounts : (tallied minimum maximum bins values).counts.modify
      (binPlace minimum maximum bins value) (· + 1) =
        (tallied minimum maximum bins (values ++ [value])).counts := by
    refine List.ext_getElem (by simp [tallied]) fun place hplace hother => ?_
    rw [List.getElem_modify]
    simp only [tallied, List.getElem_map, List.getElem_range, List.countP_append,
      List.countP_singleton, decide_eq_true_eq]
    split_ifs <;> rfl
  have hbelow : Arithmetic.lt value (tallied minimum maximum bins values).minimum = false :=
    decide_eq_false (not_lt.mpr hlow)
  have habove : Arithmetic.lt (tallied minimum maximum bins values).maximum value = false :=
    decide_eq_false (not_lt.mpr hhigh)
  have hfinite : Arithmetic.isFinite value = true := rfl
  unfold FixedHistogram.add
  rw [if_pos hfinite, binOf_inside h hbins values hlow hhigh, ok_bind, increment_place hlength, ok_bind,
    hcounts]
  dsimp only
  rw [hbelow, habove]
  refine congrArg Except.ok ?_
  simp [tallied]

theorem addAll_eq_tallied (h : minimum < maximum) (hbins : 0 < bins) {values : List ℚ}
    (hinside : ∀ value ∈ values, minimum ≤ value ∧ value ≤ maximum) :
    (FixedHistogram.construct minimum maximum bins).addAll values =
      .ok (tallied minimum maximum bins values) := by
  induction values using List.reverseRecOn with
  | nil =>
    refine congrArg Except.ok ?_
    simp [FixedHistogram.construct, tallied]
  | append_singleton values value ih =>
    obtain ⟨hvalues, hvalue⟩ := List.forall_mem_append.mp hinside
    obtain ⟨hlow, hhigh⟩ := hvalue value (List.mem_singleton.mpr rfl)
    have hbefore := ih hvalues
    unfold FixedHistogram.addAll at hbefore ⊢
    rw [List.foldlM_append, hbefore, ok_bind, List.foldlM_cons, add_tallied h hbins values hlow hhigh]
    rfl

theorem tallied_perm {values other : List ℚ} (h : other.Perm values) :
    tallied minimum maximum bins other = tallied minimum maximum bins values := by
  unfold tallied
  simp only [h.countP_eq, h.length_eq]

/-- The counts of the first bins together. -/
theorem sum_take_counts (values : List ℚ) {count : Nat} (h : count ≤ bins) :
    ((tallied minimum maximum bins values).counts.take count).sum =
      values.countP fun value => binPlace minimum maximum bins value < count := by
  rw [tallied, ← List.map_take, List.take_range, min_eq_left h]
  clear h
  induction count with
  | zero =>
    refine (List.countP_eq_zero.mpr fun value _ hlt => ?_).symm
    exact absurd (of_decide_eq_true hlt) (Nat.not_lt_zero _)
  | succ count ih =>
    rw [List.range_succ, List.map_append, List.sum_append, ih, List.map_singleton,
      List.sum_singleton, countP_lt_succ]

/-! ## The selected bin -/

/-- The scan stops at the first bin up to which there are as many as the target. -/
theorem selectBin_eq_some {target cumulative : Int} {index place : Nat} {counts : List Nat}
    (hplace : place < counts.length)
    (hreached : target ≤ cumulative + ((counts.take (place + 1)).sum : Nat))
    (hbefore : ∀ earlier < place, cumulative + ((counts.take (earlier + 1)).sum : Nat) < target) :
    selectBin target cumulative index counts = some (index + place) := by
  induction counts generalizing cumulative index place with
  | nil => exact absurd hplace (Nat.not_lt_zero place)
  | cons count counts ih =>
    unfold selectBin
    cases place with
    | zero =>
      rw [List.take_succ_cons, List.take_zero, List.sum_singleton] at hreached
      exact if_pos hreached
    | succ place =>
      have hfirst := hbefore 0 (Nat.succ_pos place)
      rw [List.take_succ_cons, List.take_zero, List.sum_singleton] at hfirst
      rw [if_neg (not_le.mpr hfirst), ih (Nat.lt_of_succ_lt_succ hplace) ?_ ?_, Nat.add_right_comm,
        Nat.add_assoc]
      · rw [List.take_succ_cons, List.sum_cons, Nat.cast_add, ← add_assoc] at hreached
        exact hreached
      · intro earlier hearlier
        have hnext := hbefore (earlier + 1) (Nat.succ_lt_succ hearlier)
        rw [List.take_succ_cons, List.sum_cons, Nat.cast_add, ← add_assoc] at hnext
        exact hnext

/-- The target is reached in the bin of the order statistic. -/
theorem selectBin_tallied (h : minimum < maximum) (hbins : 0 < bins) {values : List ℚ}
    {place : Nat} {value : ℚ} (hvalue : orderStatistic values place = some value) :
    selectBin (place + 1 : Nat) 0 0 (tallied minimum maximum bins values).counts =
      some (binPlace minimum maximum bins value) := by
  have hlt : binPlace minimum maximum bins value < bins := binPlace_lt hbins value
  have hcount : ∀ count, count + 1 ≤ bins →
      (place < ((tallied minimum maximum bins values).counts.take (count + 1)).sum ↔
        binPlace minimum maximum bins value ≤ count) := by
    intro count hle
    rw [sum_take_counts values hle, ← lt_countP_iff (binPlace_mono h) hvalue count]
    simp only [Nat.lt_succ_iff]
  have hlength : binPlace minimum maximum bins value <
      (tallied minimum maximum bins values).counts.length := by
    rw [tallied, List.length_map, List.length_range]
    exact hlt
  have hreached := (hcount _ hlt).mpr le_rfl
  have hbefore : ∀ earlier < binPlace minimum maximum bins value,
      (0 : Int) + (((tallied minimum maximum bins values).counts.take (earlier + 1)).sum : Nat) <
        (place + 1 : Nat) := by
    intro earlier hearlier
    have hnot := mt (hcount earlier (hearlier.trans hlt)).mp (not_le.mpr hearlier)
    omega
  rw [selectBin_eq_some hlength (by omega) hbefore, Nat.zero_add]

end Counts

/-! ## Quantiles -/

section Quantiles

variable {minimum maximum : ℚ} {bins : Nat} {values : List ℚ}

/-- The values in front of the order statistic for a probability. -/
def rankPlace (values : List ℚ) (probability : ℚ) : Nat :=
  (max 1 ⌈probability * values.length⌉).toNat - 1

theorem rankPlace_mono {probability other : ℚ} (h : probability ≤ other) :
    rankPlace values probability ≤ rankPlace values other := by
  have hproduct : probability * values.length ≤ other * values.length := by gcongr
  have hceil := Int.ceil_mono hproduct
  unfold rankPlace
  omega

theorem rankPlace_lt (hvalues : values ≠ []) {probability : ℚ} (h : probability ≤ 1) :
    rankPlace values probability < values.length := by
  have hlength := List.length_pos_iff.mpr hvalues
  have hceil : ⌈probability * values.length⌉ ≤ (values.length : Int) := by
    rw [Int.ceil_le, Int.cast_natCast]
    exact mul_le_of_le_one_left (Nat.cast_nonneg _) h
  unfold rankPlace
  omega

theorem quantile_tallied (h : minimum < maximum) (hbins : 0 < bins) {probability value : ℚ}
    (hvalue : orderStatistic values (rankPlace values probability) = some value) :
    (tallied minimum maximum bins values).quantile probability =
      .ok (minimum + ((binPlace minimum maximum bins value : ℚ) + 1 / 2) *
        binWidth minimum maximum bins) := by
  have hceil : Arithmetic.ceil (Arithmetic.mul probability
      (Arithmetic.ofInt ((tallied minimum maximum bins values).finiteCount : Int))) =
        .ok ⌈probability * values.length⌉ := by
    rw [← Int.cast_natCast (R := ℚ) values.length]
    rfl
  have htarget : max 1 ⌈probability * values.length⌉ = (rankPlace values probability + 1 : Nat) := by
    unfold rankPlace
    omega
  have hselected := selectBin_tallied h hbins hvalue
  have hwidth : Arithmetic.div (Arithmetic.sub maximum minimum) (Arithmetic.ofInt (bins : Int)) =
      .ok (binWidth minimum maximum bins) := by
    have hcount : ((bins : Int) : ℚ) ≠ 0 := by
      rw [Int.cast_natCast]
      exact Nat.cast_ne_zero.mpr hbins.ne'
    unfold binWidth
    rw [← Int.cast_natCast (R := ℚ) bins]
    exact if_neg hcount
  unfold FixedHistogram.quantile
  rw [hceil, ok_bind, htarget, hselected, Option.getD_some]
  dsimp only [tallied]
  rw [hwidth, ok_bind, ← Int.cast_natCast (R := ℚ)]
  rfl

/-- The quantiles are order statistics up to half the width of a bin. -/
structure Approximates (minimum maximum : ℚ) (bins : Nat) (values : List ℚ)
    (histogram : FixedHistogram ℚ) (quantile : ℚ → ℚ) : Prop where
  /-- The histogram does not depend on the order of the values. -/
  unordered : ∀ other : List ℚ, other.Perm values →
    (FixedHistogram.construct minimum maximum bins).addAll other = .ok histogram
  returned : ∀ probabilities : List ℚ,
    (∀ probability ∈ probabilities, 0 ≤ probability ∧ probability ≤ 1) →
      histogram.quantiles probabilities = .ok {
        probabilities := probabilities
        values := probabilities.map fun probability => some (quantile probability)
        finiteCount := values.length
        belowHistogramCount := 0
        aboveHistogramCount := 0 }
  near : ∀ probability : ℚ, 0 ≤ probability → probability ≤ 1 → ∃ value,
    orderStatistic values ((max 1 ⌈probability * values.length⌉).toNat - 1) = some value ∧
      |quantile probability - value| ≤ (maximum - minimum) / bins / 2
  monotone : ∀ probability other : ℚ, 0 ≤ probability → probability ≤ other → other ≤ 1 →
    quantile probability ≤ quantile other

theorem exists_approximates (h : minimum < maximum) (hbins : 0 < bins) (hvalues : values ≠ [])
    (hinside : ∀ value ∈ values, minimum ≤ value ∧ value ≤ maximum) :
    ∃ histogram quantile, Approximates minimum maximum bins values histogram quantile := by
  have hstatistic : ∀ probability : ℚ, probability ≤ 1 → ∃ value,
      orderStatistic values (rankPlace values probability) = some value :=
    fun probability hprobability => exists_orderStatistic (rankPlace_lt hvalues hprobability)
  let quantile := fun probability : ℚ => minimum + ((binPlace minimum maximum bins
    ((orderStatistic values (rankPlace values probability)).getD 0) : ℚ) + 1 / 2) *
      binWidth minimum maximum bins
  have hquantile : ∀ probability value,
      orderStatistic values (rankPlace values probability) = some value → quantile probability =
        minimum + ((binPlace minimum maximum bins value : ℚ) + 1 / 2) *
          binWidth minimum maximum bins := by
    intro probability value hvalue
    dsimp only [quantile]
    rw [hvalue, Option.getD_some]
  refine ⟨tallied minimum maximum bins values, quantile, ?_, ?_, ?_, ?_⟩
  · intro other hother
    rw [← tallied_perm hother]
    exact addAll_eq_tallied h hbins fun value hmem => hinside value (hother.subset hmem)
  · intro probabilities hprobabilities
    have hmapped : probabilities.mapM (fun probability =>
        some <$> (tallied minimum maximum bins values).quantile probability) =
          .ok (probabilities.map fun probability => some (quantile probability)) := by
      refine mapM_eq_ok fun probability hprobability => ?_
      obtain ⟨value, hvalue⟩ := hstatistic probability (hprobabilities probability hprobability).2
      rw [quantile_tallied h hbins hvalue, hquantile probability value hvalue]
      rfl
    have hcount : ¬ (tallied minimum maximum bins values).finiteCount = 0 :=
      mt List.length_eq_zero_iff.mp hvalues
    unfold FixedHistogram.quantiles
    rw [if_neg hcount, hmapped]
    rfl
  · intro probability _ hone
    obtain ⟨value, hvalue⟩ := hstatistic probability hone
    obtain ⟨hlow, hhigh⟩ := hinside value (mem_of_orderStatistic hvalue)
    refine ⟨value, hvalue, ?_⟩
    rw [hquantile probability value hvalue]
    exact abs_middle_sub_le h hbins hlow hhigh
  · intro probability other _ hle hone
    obtain ⟨value, hvalue⟩ := hstatistic probability (hle.trans hone)
    obtain ⟨next, hnext⟩ := hstatistic other hone
    have hplaces : binPlace minimum maximum bins value ≤ binPlace minimum maximum bins next :=
      binPlace_mono h (orderStatistic_mono (rankPlace_mono hle) hvalue hnext)
    have hwidth : 0 ≤ binWidth minimum maximum bins :=
      div_nonneg (sub_pos.mpr h).le (Nat.cast_nonneg bins)
    rw [hquantile probability value hvalue, hquantile other next hnext]
    gcongr

/-- Bins without width divide by zero. -/
theorem add_equal_bounds (hequal : maximum = minimum) {value : ℚ}
    (hvalue : value = minimum) : (FixedHistogram.construct minimum maximum bins).add value =
      .error (.zeroDivisionError "division by zero") := by
  subst hequal hvalue
  have hfinite : Arithmetic.isFinite value = true := rfl
  have hinside : ¬ Arithmetic.lt value value = true := fun h => lt_irrefl value (of_decide_eq_true h)
  have hdivided : Arithmetic.div (Arithmetic.sub value value) (Arithmetic.sub value value) =
      .error (.zeroDivisionError "division by zero") := if_pos (sub_self value)
  have hbin : (FixedHistogram.construct value value bins).binOf value =
      .error (.zeroDivisionError "division by zero") := by
    unfold FixedHistogram.binOf FixedHistogram.construct
    rw [if_neg hinside, if_neg hinside, hdivided]
    rfl
  unfold FixedHistogram.add
  rw [if_pos hfinite, hbin]
  rfl

/-- **Quantiles are order statistics.**  For values between the bounds the histogram does not
depend on their order, and the quantiles read off it are within half the width of a bin of
the order statistics and monotone, if and only if the bins have a width: with equal bounds
the first value is divided by zero. -/
theorem quantiles_approximate_iff (minimum maximum : ℚ) (bins : Nat) (values : List ℚ)
    (hbins : 0 < bins) (hvalues : values ≠ [])
    (hinside : ∀ value ∈ values, minimum ≤ value ∧ value ≤ maximum) :
    (∃ histogram quantile, Approximates minimum maximum bins values histogram quantile) ↔
      minimum < maximum := by
  refine ⟨?_, fun h => exists_approximates h hbins hvalues hinside⟩
  rintro ⟨histogram, quantile, happroximates⟩
  by_contra hnot
  obtain ⟨value, rest, rfl⟩ := List.exists_cons_of_ne_nil hvalues
  obtain ⟨hlow, hhigh⟩ := hinside value List.mem_cons_self
  have hequal : maximum = minimum := le_antisymm (not_lt.mp hnot) (hlow.trans hhigh)
  have hadded := happroximates.unordered _ (List.Perm.refl _)
  unfold FixedHistogram.addAll at hadded
  rw [List.foldlM_cons] at hadded
  obtain ⟨next, hnext, -⟩ := bind_eq_ok_iff.mp hadded
  rw [add_equal_bounds hequal (hlow.antisymm (hhigh.trans hequal.le)).symm] at hnext
  cases hnext

theorem quantiles_approximate_iff_halves : ∃ histogram quantile,
    Approximates 0 1 32 [1 / 4, 1, 1 / 2] histogram quantile :=
  (quantiles_approximate_iff 0 1 32 [1 / 4, 1, 1 / 2] (by decide) (List.cons_ne_nil _ _)
    (by decide +kernel)).mpr one_pos

/-- A sensor with one intensity. -/
theorem equal_bounds_divide : ¬ ∀ (minimum maximum : ℚ) (bins : Nat) (values : List ℚ), 0 < bins →
    values ≠ [] → (∀ value ∈ values, minimum ≤ value ∧ value ≤ maximum) →
      ∃ histogram quantile, Approximates minimum maximum bins values histogram quantile := by
  intro h
  obtain ⟨histogram, quantile, happroximates⟩ := h 1 1 512 [1] (by decide) (List.cons_ne_nil _ _)
    (List.forall_mem_singleton.mpr ⟨le_rfl, le_rfl⟩)
  have hadded := happroximates.unordered _ (List.Perm.refl _)
  unfold FixedHistogram.addAll at hadded
  rw [List.foldlM_cons, add_equal_bounds rfl rfl] at hadded
  cases hadded

end Quantiles

end CartoSentry.LidarIntegrity
