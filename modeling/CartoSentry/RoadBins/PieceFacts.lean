import Mathlib.Tactic.FieldSimp
import CartoSentry.RoadBins.PieceOrder
import CartoSentry.RoadBins.Validation

set_option autoImplicit false

/-!
# Road bins: pieces of validated paths

A piece of a validated path lies in a bin of an arc, and what it measures is not negative.
-/

namespace CartoSentry.RoadBins

open Foundation
open Matching (InvalidArgument mapM_mem)

theorem headingDifference_nonneg (left right : ℚ) : 0 ≤ headingDifference left right := by
  simp only [headingDifference]
  split_ifs
  · exact abs_nonneg _
  · exact abs_nonneg _
  · exact abs_nonneg _

namespace Movement

variable {movement : Movement} {offset entry exit : ℚ}

theorem totalDistance_pos (movement : Movement) : 0 < movement.totalDistance :=
  sub_pos.mpr movement.advances

theorem fraction_nonneg (h : movement.startOffset ≤ offset) : 0 ≤ movement.fraction offset :=
  div_nonneg (sub_nonneg.mpr h) movement.totalDistance_pos.le

theorem fraction_le_one (h : offset ≤ movement.endOffset) : movement.fraction offset ≤ 1 := by
  rw [fraction, div_le_one movement.totalDistance_pos, totalDistance]
  linarith

/-- The speed on the way lies between those at the ends. -/
theorem speedAt_nonneg (hleft : 0 ≤ movement.left.speed) (hright : 0 ≤ movement.right.speed)
    (hstart : movement.startOffset ≤ offset) (hend : offset ≤ movement.endOffset) :
    0 ≤ movement.speedAt offset := by
  have hfraction := fraction_nonneg hstart
  have hrest : 0 ≤ 1 - movement.fraction offset := sub_nonneg.mpr (fraction_le_one hend)
  calc (0 : ℚ) ≤ movement.left.speed * (1 - movement.fraction offset) +
        movement.right.speed * movement.fraction offset := by positivity
    _ = movement.speedAt offset := by
        rw [speedAt]
        ring

theorem yawBetween_nonneg (h : entry ≤ exit) : 0 ≤ movement.yawBetween entry exit := by
  rw [yawBetween]
  split
  · apply mul_nonneg (headingDifference_nonneg _ _)
    exact div_nonneg (sub_nonneg.mpr h) movement.totalDistance_pos.le
  · exact le_rfl

end Movement

/-- Nothing that the piece measures is negative. -/
structure Piece.Measured (piece : Piece) : Prop where
  entryOffset : 0 ≤ piece.entryOffset
  startSpeed : 0 ≤ piece.startSpeed
  endSpeed : 0 ≤ piece.endSpeed
  yawExcitation : 0 ≤ piece.yawExcitation

theorem Movement.split_measured {movement : Movement} {arc : Arc} {parameters : Parameters}
    {path : MatchedPath} {durationNs : Int} (hleft : 0 ≤ movement.left.speed)
    (hright : 0 ≤ movement.right.speed) (hstart : 0 ≤ movement.startOffset) {fuel : Nat}
    {cursor : ℚ} (hcursor : movement.startOffset ≤ cursor) {pieces : List Piece}
    (h : movement.split arc parameters path durationNs fuel cursor = .ok pieces) :
    ∀ piece ∈ pieces, piece.Measured ∧ piece.arcIndex = movement.arcIndex := by
  induction fuel generalizing cursor pieces with
  | zero =>
    cases h
    simp
  | succ fuel ih =>
    rw [split] at h
    split_ifs at h with hdone
    · cases h
      simp
    obtain ⟨binCount, _, h⟩ := bind_eq_ok_iff.mp h
    dsimp only at h
    have hexit := min_le_left movement.endOffset
      (binEndOffset arc parameters (binIndexAt parameters binCount cursor))
    generalize min movement.endOffset
      (binEndOffset arc parameters (binIndexAt parameters binCount cursor)) = exit at h hexit
    split_ifs at h with hprogress
    obtain ⟨pieceStart, _, h⟩ := bind_eq_ok_iff.mp h
    obtain ⟨pieceEnd, _, h⟩ := bind_eq_ok_iff.mp h
    obtain ⟨rest, hrest, h⟩ := bind_eq_ok_iff.mp h
    have hlater := ih (hcursor.trans hprogress.le) hrest
    split_ifs at h with hlasts
    · cases h
      rw [List.forall_mem_cons]
      refine ⟨⟨⟨hstart.trans hcursor, ?_, ?_, ?_⟩, rfl⟩, hlater⟩
      · exact speedAt_nonneg hleft hright hcursor (not_le.mp hdone).le
      · exact speedAt_nonneg hleft hright (hcursor.trans hprogress.le) hexit
      · exact yawBetween_nonneg hprogress.le
    · cases h
      exact hlater

theorem movementOf_eq_some {left right : MatchedPoint} {movement : Movement}
    (h : movementOf left right = some movement) :
    movement.left = left ∧ movement.right = right ∧ left.arcIndex = some movement.arcIndex ∧
      right.arcIndex = some movement.arcIndex ∧
        left.alongArcOffset = some movement.startOffset ∧
          right.alongArcOffset = some movement.endOffset := by
  rw [movementOf] at h
  split_ifs at h with hskip
  push Not at hskip
  obtain ⟨_, _, _, _, _, harc⟩ := hskip
  split at h
  · rename_i arcIndex startOffset endOffset hindex hstart hend
    split_ifs at h with htotal
    cases h
    exact ⟨rfl, rfl, hindex, harc ▸ hindex, hstart, hend⟩
  · cases h

theorem mem_of_mem_consecutive {points : List MatchedPoint} {pair : MatchedPoint × MatchedPoint}
    (h : pair ∈ consecutive points) : pair.1 ∈ points ∧ pair.2 ∈ points := by
  obtain ⟨i, hleft, hright⟩ := mem_consecutive_iff.mp h
  exact ⟨List.mem_of_getElem? hleft, List.mem_of_getElem? hright⟩

theorem MatchedPoint.Accepted.offset_bounds {arcs : List Arc} {point : MatchedPoint}
    (h : point.Accepted arcs) {arcIndex : Nat} {offset : ℚ}
    (harc : point.arcIndex = some arcIndex) (hoffset : point.alongArcOffset = some offset) :
    arcIndex < arcs.length ∧ 0 ≤ offset ∧ offset ≤ (arcAt arcs arcIndex).length := by
  have hinside := h.inside
  simp only [outside, harc, hoffset, Option.mem_some_iff, exists_eq_left'] at hinside
  push Not at hinside
  exact hinside

/-- The pieces of a validated path measure nothing negative and lie on the arcs. -/
theorem pieces_measured {arcs : List Arc} {parameters : Parameters} {path : MatchedPath}
    (haccepted : path.Accepted arcs parameters) {piece : Piece}
    (hpiece : piece ∈ piecesOf arcs parameters path) :
    piece.Measured ∧ piece.arcIndex < arcs.length := by
  rw [piecesOf] at hpiece
  split at hpiece
  · rename_i pieces hpieces
    obtain ⟨parts, hparts, hpieces⟩ := bind_eq_ok_iff.mp hpieces
    cases hpieces
    obtain ⟨part, hpart, hpiece⟩ := List.mem_flatten.mp hpiece
    obtain ⟨pair, hpair, hpart⟩ := mapM_mem hparts hpart
    obtain ⟨hleftMem, hrightMem⟩ := mem_of_mem_consecutive hpair
    have hleft := validatePoints_accepted haccepted.points pair.1 hleftMem
    have hright := validatePoints_accepted haccepted.points pair.2 hrightMem
    rw [pairPieces] at hpart
    cases hmovement : movementOf pair.1 pair.2 with
    | none =>
      rw [hmovement] at hpart
      cases hpart
      simp at hpiece
    | some movement =>
      rw [hmovement] at hpart
      obtain ⟨durationNs, _, hpart⟩ := bind_eq_ok_iff.mp hpart
      obtain ⟨hl, hr, harc, _, hstart, _⟩ := movementOf_eq_some hmovement
      obtain ⟨hindex, hoffset, _⟩ := hleft.offset_bounds harc hstart
      have hmeasured := Movement.split_measured (by rw [hl]; exact hleft.speed)
        (by rw [hr]; exact hright.speed) hoffset le_rfl hpart piece hpiece
      exact ⟨hmeasured.1, hmeasured.2 ▸ hindex⟩
  · simp at hpiece

end CartoSentry.RoadBins
