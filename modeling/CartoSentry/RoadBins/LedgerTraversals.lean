import CartoSentry.RoadBins.ModalityFacts
import CartoSentry.RoadBins.PieceFacts

set_option autoImplicit false

/-!
# Road bins: traversals in the ledger

A traversal conforms exactly where it leaves its bin beyond the point where it entered it,
covers a distance that does not round to zero, and has support from lidar alone.
-/

namespace CartoSentry.RoadBins

open Foundation
open Matching (InvalidArgument)

/-! ## First and last piece -/

/-- The last of the pieces that end last. -/
def lastPiece (group : KeyGroup Piece) : Piece :=
  group.members.foldl
    (fun last piece => if last.endTimeNs ≤ piece.endTimeNs then piece else last) group.first

/-- The traversal leaves its bin beyond its entry, as the offsets are rounded. -/
def Advances (decimalPlaces : Int) (group : KeyGroup Piece) : Prop :=
  rounded group.first.entryOffset decimalPlaces < rounded (lastPiece group).exitOffset decimalPlaces

/-- The distance does not round to zero. -/
def CoversDistance (decimalPlaces : Int) (group : KeyGroup Piece) : Prop :=
  0 < rounded (group.members.map Piece.distance).sum decimalPlaces

namespace TraversalProgress

variable {first : Piece} {pieces : List Piece} {progress last : TraversalProgress}

theorem exitOffset_eq (h : pieces.foldlM (add first) progress = .ok last) {current : Piece}
    (hexit : progress.exitOffset = current.exitOffset)
    (htime : progress.lastTimeNs = current.endTimeNs) :
    last.exitOffset = (pieces.foldl
      (fun last piece => if last.endTimeNs ≤ piece.endTimeNs then piece else last)
        current).exitOffset := by
  induction pieces generalizing progress current with
  | nil =>
    cases h
    exact hexit
  | cons piece rest ih =>
    rw [List.foldlM_cons] at h
    obtain ⟨next, hnext, h⟩ := bind_eq_ok_iff.mp h
    have hnextExit : next.exitOffset =
        if progress.lastTimeNs ≤ piece.endTimeNs then piece.exitOffset
        else progress.exitOffset := by
      rw [add_eq_ok hnext]
    have hnextTime : next.lastTimeNs = max progress.lastTimeNs piece.endTimeNs := by
      rw [add_eq_ok hnext]
    rw [List.foldl_cons]
    apply ih h
    · rw [hnextExit, htime]
      split_ifs
      · rfl
      · exact hexit
    · rw [hnextTime, htime]
      split_ifs with hle
      · omega
      · omega

theorem entryOffset_eq (h : pieces.foldlM (add first) progress = .ok last)
    (hfirst : ∀ piece ∈ pieces, first.startTimeNs ≤ piece.startTimeNs) :
    last.entryOffset = progress.entryOffset := by
  induction pieces generalizing progress with
  | nil =>
    cases h
    rfl
  | cons piece rest ih =>
    rw [List.foldlM_cons] at h
    obtain ⟨next, hnext, h⟩ := bind_eq_ok_iff.mp h
    obtain ⟨hpiece, hrest⟩ := List.forall_mem_cons.mp hfirst
    rw [ih h hrest, add_eq_ok hnext]
    exact if_neg (not_lt.mpr hpiece)

end TraversalProgress

/-! ## Traversals -/

section Group

variable {group : KeyGroup Piece} {progress : TraversalProgress}

theorem first_mem (group : KeyGroup Piece) : group.first ∈ group.members :=
  List.mem_cons_self

/-- The mean of the speeds lies between the least and the greatest one. -/
theorem mean_bounds
    (h : group.members.foldlM (TraversalProgress.add group.first)
      (TraversalProgress.start group.first) = .ok progress) :
    progress.minimumSpeed ≤ progress.speedSum / progress.speedSampleCount ∧
      progress.speedSum / progress.speedSampleCount ≤ progress.maximumSpeed := by
  have hsums := TraversalProgress.sums h
  have hbounds := TraversalProgress.bounds h
  have hcount : progress.speedSampleCount = 2 * group.members.length := by
    rw [hsums.count]
    exact Nat.zero_add _
  have hspeed : progress.speedSum =
      (group.members.map fun piece => piece.startSpeed + piece.endSpeed).sum := by
    rw [hsums.speed]
    exact zero_add _
  have hpositive : (0 : ℚ) < progress.speedSampleCount := by
    rw [hcount, KeyGroup.members, List.length_cons]
    positivity
  have hcast : (progress.speedSampleCount : ℚ) = group.members.length * 2 := by
    rw [hcount]
    push_cast
    ring
  constructor
  · rw [le_div_iff₀ hpositive, hspeed, hcast]
    have hle := List.card_nsmul_le_sum
      (group.members.map fun piece => piece.startSpeed + piece.endSpeed)
      (2 * progress.minimumSpeed) (by
        intro sum hsum
        obtain ⟨piece, hpiece, rfl⟩ := List.mem_map.mp hsum
        have hpiece := hbounds.minimum_le.2 piece hpiece
        linarith [hpiece.1, hpiece.2])
    rw [List.length_map, nsmul_eq_mul] at hle
    linarith
  · rw [div_le_iff₀ hpositive, hspeed, hcast]
    have hle := List.sum_le_card_nsmul
      (group.members.map fun piece => piece.startSpeed + piece.endSpeed)
      (2 * progress.maximumSpeed) (by
        intro sum hsum
        obtain ⟨piece, hpiece, rfl⟩ := List.mem_map.mp hsum
        have hpiece := hbounds.le_maximum.2 piece hpiece
        linarith [hpiece.1, hpiece.2])
    rw [List.length_map, nsmul_eq_mul] at hle
    linarith

theorem minimumSpeed_nonneg
    (h : group.members.foldlM (TraversalProgress.add group.first)
      (TraversalProgress.start group.first) = .ok progress)
    (hmeasured : ∀ piece ∈ group.members, piece.Measured) : 0 ≤ progress.minimumSpeed := by
  rcases (TraversalProgress.bounds h).minimum_mem with heq | ⟨piece, hpiece, heq | heq⟩
  · rw [heq]
    exact (hmeasured group.first (first_mem group)).startSpeed
  · rw [heq]
    exact (hmeasured piece hpiece).startSpeed
  · rw [heq]
    exact (hmeasured piece hpiece).endSpeed

theorem usableDurationNs_pos
    (h : group.members.foldlM (TraversalProgress.add group.first)
      (TraversalProgress.start group.first) = .ok progress) : 0 < progress.usableDurationNs := by
  rw [(TraversalProgress.sums h).duration, KeyGroup.members, List.map_cons, List.sum_cons]
  have hfirst := group.first.lasts
  have hlater : 0 ≤ (group.later.map fun piece => piece.endTimeNs - piece.startTimeNs).sum := by
    apply List.sum_nonneg
    intro term hterm
    obtain ⟨piece, _, rfl⟩ := List.mem_map.mp hterm
    have hlasts := piece.lasts
    omega
  have hzero : (TraversalProgress.start group.first).usableDurationNs = 0 := rfl
  omega

end Group

/-- What a group of pieces of validated paths is made of. -/
structure GroupValid (group : KeyGroup Piece) : Prop where
  measured : ∀ piece ∈ group.members, piece.Measured
  first_le : ∀ piece ∈ group.members, group.first.startTimeNs ≤ piece.startTimeNs
  sequenceId : group.first.sequenceId ≠ ""
  sourceGroupId : group.first.sourceGroupId ≠ ""

theorem makeTraversal_conforms_iff {group : KeyGroup Piece} (hgroup : GroupValid group)
    {evidence : List ModalityEvidence} (hevidence : ∀ item ∈ evidence, item.Accepted)
    {findings : List FindingInterval}
    (hfindings : (findings.map FindingInterval.findingId).Nodup) {decimalPlaces : Int}
    {traversal : TraversalCoverage}
    (h : makeTraversal evidence findings decimalPlaces group = .ok traversal) :
    traversal.Conforms ↔ Advances decimalPlaces group ∧ CoversDistance decimalPlaces group ∧
      LidarOnly group.members group.first.sequenceId evidence decimalPlaces := by
  obtain ⟨progress, hprogress, h⟩ := bind_eq_ok_iff.mp h
  obtain ⟨values, hvalues, h⟩ := bind_eq_ok_iff.mp h
  obtain ⟨modalities, hmodalities, h⟩ := bind_eq_ok_iff.mp h
  cases h
  have hmodalities := modalities_conform_iff hevidence hvalues hmodalities
  have hentry : progress.entryOffset = group.first.entryOffset :=
    TraversalProgress.entryOffset_eq hprogress hgroup.first_le
  have hexit : progress.exitOffset = (lastPiece group).exitOffset :=
    TraversalProgress.exitOffset_eq hprogress rfl rfl
  have hdistance : progress.usableDistance = (group.members.map Piece.distance).sum := by
    rw [(TraversalProgress.sums hprogress).distance]
    exact zero_add _
  constructor
  · intro hconforms
    refine ⟨?_, ?_, hmodalities.mp hconforms.modalities⟩
    · rw [Advances, ← hentry, ← hexit]
      exact hconforms.advances
    · rw [CoversDistance, ← hdistance]
      exact hconforms.usableDistance
  · intro ⟨hadvances, hcovers, hlidar⟩
    rw [Advances, ← hentry, ← hexit] at hadvances
    rw [CoversDistance, ← hdistance] at hcovers
    have hbounds := TraversalProgress.bounds hprogress
    have hsums := TraversalProgress.sums hprogress
    have hmean := mean_bounds hprogress
    have hminimum := minimumSpeed_nonneg hprogress hgroup.measured
    have hentryNonneg : 0 ≤ rounded progress.entryOffset decimalPlaces := by
      apply rounded_nonneg
      rw [hentry]
      exact (hgroup.measured group.first (first_mem group)).entryOffset
    have hnodup : ((findings.filter
        (FindingInterval.affects group.members group.first.sequenceId)).map
          FindingInterval.findingId).Nodup :=
      hfindings.sublist (List.filter_sublist.map _)
    refine
      { sequenceId := hgroup.sequenceId
        sourceGroupId := hgroup.sourceGroupId
        entryOffset := hentryNonneg
        exitOffset := hentryNonneg.trans_lt hadvances
        usableDurationNs := usableDurationNs_pos hprogress
        usableDistance := hcovers
        speedSampleCount := ?_
        minimumSpeed := rounded_nonneg _ hminimum
        meanSpeed := rounded_nonneg _ (hminimum.trans hmean.1)
        maximumSpeed := rounded_nonneg _ ((hminimum.trans hmean.1).trans hmean.2)
        yawExcitation := rounded_nonneg _ ?_
        times := ?_
        advances := hadvances
        minimum_le_mean := rounded_mono _ hmean.1
        mean_le_maximum := rounded_mono _ hmean.2
        roadMatchIds := canonical_canonical _
        findingIds := canonical_sortIds hnodup
        criticalFindingIds := ?_
        critical_subset := ?_
        modalities := hmodalities.mpr hlidar }
    · dsimp only
      rw [hsums.count, KeyGroup.members, List.length_cons]
      omega
    · rw [hsums.yaw]
      apply add_nonneg le_rfl
      apply List.sum_nonneg
      intro yaw hyaw
      obtain ⟨piece, hpiece, rfl⟩ := List.mem_map.mp hyaw
      exact (hgroup.measured piece hpiece).yawExcitation
    · have hfirst := hbounds.first_le.2 group.first (first_mem group)
      have hlast := hbounds.le_last.2 group.first (first_mem group)
      have hlasts := group.first.lasts
      dsimp only
      omega
    · apply canonical_sortIds
      exact hnodup.sublist (List.filter_sublist.map _)
    · intro id hid
      dsimp only at hid ⊢
      rw [mem_sortIds] at hid ⊢
      exact (List.filter_sublist.map _).mem hid

end CartoSentry.RoadBins
