import Mathlib.Tactic.Positivity
import CartoSentry.Foundation.Outcome
import CartoSentry.RoadBins.TraversalSums

set_option autoImplicit false

/-!
# Road bins: the traversals of a bin

Every bin holds the traversals that it owns, in order, and sums them up.
-/

namespace CartoSentry.RoadBins

open Foundation
open Matching (InvalidArgument mapM_mem)

/-! ## Empty bins -/

theorem mem_emptyBins_iff {arcs : List Arc} {parameters : Parameters} {bins : List BinCoverage}
    (h : emptyBins arcs parameters = .ok bins) {bin : BinCoverage} :
    bin ∈ bins ↔ ∃ arcIndex arc binCount binIndex, arcs[arcIndex]? = some arc ∧
      binCountForArc arc parameters = .ok binCount ∧ binIndex < binCount ∧
        bin = emptyBin parameters arcIndex arc binIndex := by
  obtain ⟨parts, hparts, h⟩ := bind_eq_ok_iff.mp h
  cases h
  rw [List.mem_flatten]
  constructor
  · intro ⟨part, hpart, hbin⟩
    obtain ⟨⟨arc, arcIndex⟩, hmem, hpart⟩ := mapM_mem hparts hpart
    obtain ⟨binCount, hcount, hpart⟩ := bind_eq_ok_iff.mp hpart
    cases hpart
    obtain ⟨binIndex, hindex, rfl⟩ := List.mem_map.mp hbin
    exact ⟨arcIndex, arc, binCount, binIndex, List.mk_mem_zipIdx_iff_getElem?.mp hmem, hcount,
      List.mem_range.mp hindex, rfl⟩
  · rintro ⟨arcIndex, arc, binCount, binIndex, harc, hcount, hindex, rfl⟩
    have hmem : (arc, arcIndex) ∈ arcs.zipIdx := List.mk_mem_zipIdx_iff_getElem?.mpr harc
    obtain ⟨part, hpart, heq⟩ := mem_of_mapM_eq_ok hparts hmem
    obtain ⟨binCount', hcount', heq⟩ := bind_eq_ok_iff.mp heq
    cases heq
    rw [hcount, Except.ok.injEq] at hcount'
    subst hcount'
    exact ⟨_, hpart, List.mem_map_of_mem (List.mem_range.mpr hindex)⟩

theorem binCount_of_emptyBins {arcs : List Arc} {parameters : Parameters}
    {bins : List BinCoverage} (h : emptyBins arcs parameters = .ok bins) {arcIndex : Nat}
    {arc : Arc} (harc : arcs[arcIndex]? = some arc) :
    ∃ binCount, binCountForArc arc parameters = .ok binCount := by
  obtain ⟨parts, hparts, _⟩ := bind_eq_ok_iff.mp h
  have hmem : (arc, arcIndex) ∈ arcs.zipIdx := List.mk_mem_zipIdx_iff_getElem?.mpr harc
  obtain ⟨part, _, hpart⟩ := mem_of_mapM_eq_ok hparts hmem
  obtain ⟨binCount, hcount, _⟩ := bind_eq_ok_iff.mp hpart
  exact ⟨binCount, hcount⟩

/-! ## Traversals of a bin -/

theorem BinCoverage.addTraversal_owns {bin next : BinCoverage} {traversal : TraversalCoverage}
    (h : bin.addTraversal traversal = .ok next) (other : TraversalCoverage) :
    next.owns other ↔ bin.owns other := by
  obtain ⟨usableDurationNs, _, h⟩ := bind_eq_ok_iff.mp h
  cases h
  exact Iff.rfl

theorem owned_cons {traversal : TraversalCoverage} {traversals : List TraversalCoverage}
    {bins middles lasts : List BinCoverage}
    (hfirst : List.Forall₂ (fun bin middle =>
      (if bin.owns traversal then bin.addTraversal traversal else .ok bin) = .ok middle)
        bins middles)
    (hrest : List.Forall₂ (fun middle last => (traversals.filter (middle.owns ·)).foldlM
      BinCoverage.addTraversal middle = .ok last) middles lasts) :
    List.Forall₂ (fun bin last => ((traversal :: traversals).filter (bin.owns ·)).foldlM
      BinCoverage.addTraversal bin = .ok last) bins lasts := by
  induction hfirst generalizing lasts with
  | nil =>
    cases hrest
    exact .nil
  | @cons bin middle bins middles hhead _ ih =>
    cases hrest with
    | cons hlast hlasts =>
      refine .cons ?_ (ih hlasts)
      by_cases howns : bin.owns traversal
      · rw [if_pos howns] at hhead
        have hfilter : (traversals.filter fun other => middle.owns other) =
            traversals.filter fun other => bin.owns other := by
          apply List.filter_congr
          intro other _
          exact decide_eq_decide.mpr (BinCoverage.addTraversal_owns hhead other)
        rw [List.filter_cons_of_pos (by simpa using howns), List.foldlM_cons, hhead, ← hfilter]
        exact hlast
      · rw [if_neg howns] at hhead
        cases hhead
        rwa [List.filter_cons_of_neg (by simpa using howns)]

/-- The traversals of the groups are made in order, and every bin adds those it owns. -/
theorem foldlM_addToBins {evidence : List ModalityEvidence} {findings : List FindingInterval}
    {parameters : Parameters} {bins accumulated : List BinCoverage}
    {groups : List (KeyGroup Piece)}
    (h : groups.foldlM (addToBins evidence findings parameters) bins = .ok accumulated) :
    ∃ traversals,
      groups.mapM (makeTraversal evidence findings parameters.distanceRoundingDecimalPlaces) =
          .ok traversals ∧
        List.Forall₂ (fun bin last => (traversals.filter (bin.owns ·)).foldlM
          BinCoverage.addTraversal bin = .ok last) bins accumulated := by
  induction groups generalizing bins with
  | nil =>
    cases h
    exact ⟨[], rfl, List.forall₂_same.mpr fun _ _ => rfl⟩
  | cons group rest ih =>
    rw [List.foldlM_cons] at h
    obtain ⟨next, hnext, h⟩ := bind_eq_ok_iff.mp h
    obtain ⟨traversal, htraversal, hnext⟩ := bind_eq_ok_iff.mp hnext
    obtain ⟨traversals, htraversals, hlast⟩ := ih h
    refine ⟨traversal :: traversals, ?_, owned_cons (forall₂_of_mapM_eq_ok hnext) hlast⟩
    rw [List.mapM_cons, htraversal, htraversals]
    rfl

/-- What the traversals of a bin add up to. -/
structure BinTotals (bin : BinCoverage) (traversals : List TraversalCoverage)
    (last : BinCoverage) : Prop where
  arcIndex : last.arcIndex = bin.arcIndex
  longitudinalBinIndex : last.longitudinalBinIndex = bin.longitudinalBinIndex
  startOffset : last.startOffset = bin.startOffset
  endOffset : last.endOffset = bin.endOffset
  duration : last.usableDurationNs =
    bin.usableDurationNs + (traversals.map TraversalCoverage.usableDurationNs).sum
  distance : last.usableDistance =
    bin.usableDistance + (traversals.map TraversalCoverage.usableDistance).sum
  count : last.independentTraversalCount = bin.independentTraversalCount + traversals.length
  yaw : last.yawExcitation =
    bin.yawExcitation + (traversals.map TraversalCoverage.yawExcitation).sum
  traversals : last.traversals = bin.traversals ++ traversals

theorem foldlM_addTraversal_totals {bin last : BinCoverage} {traversals : List TraversalCoverage}
    (h : traversals.foldlM BinCoverage.addTraversal bin = .ok last) :
    BinTotals bin traversals last := by
  induction traversals generalizing bin with
  | nil =>
    cases h
    exact ⟨rfl, rfl, rfl, rfl, by simp, by simp, by simp, by simp, by simp⟩
  | cons traversal rest ih =>
    rw [List.foldlM_cons] at h
    obtain ⟨next, hnext, h⟩ := bind_eq_ok_iff.mp h
    obtain ⟨usableDurationNs, hduration, hnext⟩ := bind_eq_ok_iff.mp hnext
    have hduration := checkedInt64_eq_ok hduration
    cases hnext
    have hrest := ih h
    refine ⟨hrest.arcIndex, hrest.longitudinalBinIndex, hrest.startOffset, hrest.endOffset,
      ?_, ?_, ?_, ?_, ?_⟩
    · rw [hrest.duration, hduration, List.map_cons, List.sum_cons, add_assoc]
    · rw [hrest.distance, List.map_cons, List.sum_cons, add_assoc]
    · rw [hrest.count, List.length_cons]
      dsimp only
      omega
    · rw [hrest.yaw, List.map_cons, List.sum_cons, add_assoc]
    · rw [hrest.traversals, List.append_assoc]
      rfl

/-! ## Speeds of a bin -/

/-- The speeds summed so far: none, or the sum lies between the bounds. -/
def BinCoverage.SpeedsOrdered (bin : BinCoverage) : Prop :=
  bin.speedSampleCount = 0 ∧ bin.minimumSpeed = none ∧ bin.meanSpeed = none ∧
      bin.maximumSpeed = none ∨
    0 < bin.speedSampleCount ∧ ∃ minimum sum maximum, bin.minimumSpeed = some minimum ∧
      bin.meanSpeed = some sum ∧ bin.maximumSpeed = some maximum ∧ 0 ≤ minimum ∧
        minimum * bin.speedSampleCount ≤ sum ∧ sum ≤ maximum * bin.speedSampleCount

theorem BinCoverage.SpeedsOrdered.addTraversal {bin next : BinCoverage}
    {traversal : TraversalCoverage} (hbin : bin.SpeedsOrdered)
    (hcount : 0 < traversal.speedSampleCount) (hminimum : 0 ≤ traversal.minimumSpeed)
    (hmean : traversal.minimumSpeed ≤ traversal.meanSpeed)
    (hmaximum : traversal.meanSpeed ≤ traversal.maximumSpeed)
    (h : bin.addTraversal traversal = .ok next) : next.SpeedsOrdered := by
  obtain ⟨usableDurationNs, _, h⟩ := bind_eq_ok_iff.mp h
  cases h
  have hcast : (0 : ℚ) ≤ traversal.speedSampleCount := by positivity
  right
  rcases hbin with ⟨hzero, hnoMinimum, hnoMean, hnoMaximum⟩ |
    ⟨hpositive, minimum, sum, maximum, hbinMinimum, hbinSum, hbinMaximum, hnonneg, hle, hge⟩
  · refine ⟨by dsimp only; omega, traversal.minimumSpeed,
      traversal.meanSpeed * traversal.speedSampleCount, traversal.maximumSpeed, ?_, ?_, ?_,
      hminimum, ?_, ?_⟩
    · simp only [hnoMinimum, Option.elim_none]
    · simp only [hnoMean, Option.getD_none, zero_add]
    · simp only [hnoMaximum, Option.elim_none]
    · simp only [hzero, zero_add]
      exact mul_le_mul_of_nonneg_right hmean hcast
    · simp only [hzero, zero_add]
      exact mul_le_mul_of_nonneg_right hmaximum hcast
  · have hbinCast : (0 : ℚ) ≤ bin.speedSampleCount := by positivity
    refine ⟨by dsimp only; omega, min minimum traversal.minimumSpeed,
      sum + traversal.meanSpeed * traversal.speedSampleCount,
      max maximum traversal.maximumSpeed, ?_, ?_, ?_, le_min hnonneg hminimum, ?_, ?_⟩
    · simp only [hbinMinimum, Option.elim_some]
    · simp only [hbinSum, Option.getD_some]
    · simp only [hbinMaximum, Option.elim_some]
    · dsimp only
      push_cast
      rw [mul_add]
      apply add_le_add
      · exact (mul_le_mul_of_nonneg_right (min_le_left _ _) hbinCast).trans hle
      · exact mul_le_mul_of_nonneg_right ((min_le_right _ _).trans hmean) hcast
    · dsimp only
      push_cast
      rw [mul_add]
      apply add_le_add
      · exact hge.trans (mul_le_mul_of_nonneg_right (le_max_left _ _) hbinCast)
      · exact mul_le_mul_of_nonneg_right (hmaximum.trans (le_max_right _ _)) hcast

end CartoSentry.RoadBins
