import Mathlib.Algebra.BigOperators.Group.List.Basic
import Mathlib.Tactic.Linarith
import CartoSentry.RoadBins.Aggregation

set_option autoImplicit false

/-!
# Road bins: the pieces of a traversal

What the loop of `make_traversal` makes of the pieces: sums, least and greatest values.
-/

namespace CartoSentry.RoadBins

open Foundation
open Matching (InvalidArgument)

theorem checkedInt64_eq_ok {message : String} {value result : Int}
    (h : checkedInt64 message value = .ok result) : result = value := by
  rw [checkedInt64] at h
  split_ifs at h
  injection h with h
  exact h.symm

namespace TraversalProgress

variable {first piece : Piece} {pieces : List Piece} {progress next last : TraversalProgress}

/-- One piece more. -/
theorem add_eq_ok (h : progress.add first piece = .ok next) :
    next =
      { firstTimeNs := min progress.firstTimeNs piece.startTimeNs
        lastTimeNs := max progress.lastTimeNs piece.endTimeNs
        entryOffset :=
          if piece.startTimeNs < first.startTimeNs then piece.entryOffset
          else progress.entryOffset
        exitOffset :=
          if progress.lastTimeNs ≤ piece.endTimeNs then piece.exitOffset else progress.exitOffset
        usableDurationNs := progress.usableDurationNs + (piece.endTimeNs - piece.startTimeNs)
        usableDistance := progress.usableDistance + piece.distance
        speedSampleCount := progress.speedSampleCount + 2
        minimumSpeed := min progress.minimumSpeed (min piece.startSpeed piece.endSpeed)
        maximumSpeed := max progress.maximumSpeed (max piece.startSpeed piece.endSpeed)
        speedSum := progress.speedSum + (piece.startSpeed + piece.endSpeed)
        yawExcitation := progress.yawExcitation + piece.yawExcitation } := by
  obtain ⟨durationNs, hduration, h⟩ := bind_eq_ok_iff.mp h
  obtain ⟨usableDurationNs, husable, h⟩ := bind_eq_ok_iff.mp h
  obtain rfl := checkedInt64_eq_ok hduration
  obtain rfl := checkedInt64_eq_ok husable
  injection h with h
  rw [← h]
  simp only [max_le_iff, le_refl, and_true]

/-- The sums of a run of the loop. -/
structure Sums (progress : TraversalProgress) (pieces : List Piece) (last : TraversalProgress) :
    Prop where
  duration : last.usableDurationNs = progress.usableDurationNs +
    (pieces.map fun piece => piece.endTimeNs - piece.startTimeNs).sum
  distance : last.usableDistance = progress.usableDistance + (pieces.map Piece.distance).sum
  count : last.speedSampleCount = progress.speedSampleCount + 2 * pieces.length
  speed : last.speedSum =
    progress.speedSum + (pieces.map fun piece => piece.startSpeed + piece.endSpeed).sum
  yaw : last.yawExcitation = progress.yawExcitation + (pieces.map Piece.yawExcitation).sum

theorem sums (h : pieces.foldlM (add first) progress = .ok last) : Sums progress pieces last := by
  induction pieces generalizing progress with
  | nil =>
    cases h
    exact ⟨by simp, by simp, by simp, by simp, by simp⟩
  | cons piece rest ih =>
    rw [List.foldlM_cons] at h
    obtain ⟨next, hnext, h⟩ := bind_eq_ok_iff.mp h
    have hrest := ih h
    rw [add_eq_ok hnext] at hrest
    refine ⟨?_, ?_, ?_, ?_, ?_⟩
    · rw [hrest.duration, List.map_cons, List.sum_cons, add_assoc]
    · rw [hrest.distance, List.map_cons, List.sum_cons, add_assoc]
    · have hcount := hrest.count
      dsimp only at hcount
      rw [List.length_cons]
      omega
    · rw [hrest.speed, List.map_cons, List.sum_cons, add_assoc]
    · rw [hrest.yaw, List.map_cons, List.sum_cons, add_assoc]

/-- The times and speeds of a run of the loop: bounds of the pieces that are reached. -/
structure Bounds (progress : TraversalProgress) (pieces : List Piece) (last : TraversalProgress) :
    Prop where
  first_le : last.firstTimeNs ≤ progress.firstTimeNs ∧
    ∀ piece ∈ pieces, last.firstTimeNs ≤ piece.startTimeNs
  le_last : progress.lastTimeNs ≤ last.lastTimeNs ∧
    ∀ piece ∈ pieces, piece.endTimeNs ≤ last.lastTimeNs
  minimum_le : last.minimumSpeed ≤ progress.minimumSpeed ∧
    ∀ piece ∈ pieces, last.minimumSpeed ≤ piece.startSpeed ∧ last.minimumSpeed ≤ piece.endSpeed
  minimum_mem : last.minimumSpeed = progress.minimumSpeed ∨
    ∃ piece ∈ pieces, last.minimumSpeed = piece.startSpeed ∨ last.minimumSpeed = piece.endSpeed
  le_maximum : progress.maximumSpeed ≤ last.maximumSpeed ∧
    ∀ piece ∈ pieces, piece.startSpeed ≤ last.maximumSpeed ∧ piece.endSpeed ≤ last.maximumSpeed
  maximum_mem : last.maximumSpeed = progress.maximumSpeed ∨
    ∃ piece ∈ pieces, last.maximumSpeed = piece.startSpeed ∨ last.maximumSpeed = piece.endSpeed

theorem bounds (h : pieces.foldlM (add first) progress = .ok last) :
    Bounds progress pieces last := by
  induction pieces generalizing progress with
  | nil =>
    cases h
    exact ⟨by simp, by simp, by simp, by simp, by simp, by simp⟩
  | cons piece rest ih =>
    rw [List.foldlM_cons] at h
    obtain ⟨next, hnext, h⟩ := bind_eq_ok_iff.mp h
    have hrest := ih h
    rw [add_eq_ok hnext] at hrest
    obtain ⟨⟨hfirst, hfirsts⟩, ⟨hlast, hlasts⟩, ⟨hmin, hmins⟩, hminMem, ⟨hmax, hmaxs⟩, hmaxMem⟩ :=
      hrest
    simp only [le_min_iff, max_le_iff] at hfirst hlast hmin hmax
    refine ⟨⟨hfirst.1, ?_⟩, ⟨hlast.1, ?_⟩, ⟨hmin.1, ?_⟩, ?_, ⟨hmax.1, ?_⟩, ?_⟩
    · exact List.forall_mem_cons.mpr ⟨hfirst.2, hfirsts⟩
    · exact List.forall_mem_cons.mpr ⟨hlast.2, hlasts⟩
    · exact List.forall_mem_cons.mpr ⟨hmin.2, hmins⟩
    · rcases hminMem with heq | ⟨other, hother, heq⟩
      · dsimp only at heq
        rcases min_choice progress.minimumSpeed (min piece.startSpeed piece.endSpeed) with hc | hc
        · exact Or.inl (heq.trans hc)
        · rw [hc] at heq
          right
          refine ⟨piece, List.mem_cons_self, ?_⟩
          rw [heq]
          exact min_choice piece.startSpeed piece.endSpeed
      · exact Or.inr ⟨other, List.mem_cons_of_mem _ hother, heq⟩
    · exact List.forall_mem_cons.mpr ⟨hmax.2, hmaxs⟩
    · rcases hmaxMem with heq | ⟨other, hother, heq⟩
      · dsimp only at heq
        rcases max_choice progress.maximumSpeed (max piece.startSpeed piece.endSpeed) with hc | hc
        · exact Or.inl (heq.trans hc)
        · rw [hc] at heq
          right
          refine ⟨piece, List.mem_cons_self, ?_⟩
          rw [heq]
          exact max_choice piece.startSpeed piece.endSpeed
      · exact Or.inr ⟨other, List.mem_cons_of_mem _ hother, heq⟩

end TraversalProgress

end CartoSentry.RoadBins
