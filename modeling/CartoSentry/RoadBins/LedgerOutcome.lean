import CartoSentry.RoadBins.LedgerBins

set_option autoImplicit false

/-!
# Road bins: composing the ledger

When the native result can be composed into the ledger.
-/

namespace CartoSentry.RoadBins

open Foundation
open Matching (InvalidArgument mapM_mem)

/-- Bins stay apart when their bounds are rounded, and every traversal leaves its bin beyond
its entry, covers a distance that does not round to zero and has support from lidar alone. -/
structure LedgerSafe (order : PieceSort) (arcs : List Arc) (paths : List MatchedPath)
    (evidence : List ModalityEvidence) (parameters : Parameters) : Prop where
  apart : ∀ arc ∈ arcs, ∀ binIndex < ⌈arc.length / parameters.binLength⌉.toNat,
    rounded (parameters.binLength * binIndex) parameters.distanceRoundingDecimalPlaces <
      rounded (binEndOffset arc parameters binIndex) parameters.distanceRoundingDecimalPlaces
  traversals : ∀ pieces ∈ (makePieces order arcs paths parameters).toOption,
    ∀ group ∈ groupAscending Piece.traversalKey pieces,
      Advances parameters.distanceRoundingDecimalPlaces group ∧
        CoversDistance parameters.distanceRoundingDecimalPlaces group ∧
          LidarOnly group.members group.first.sequenceId evidence
            parameters.distanceRoundingDecimalPlaces

section Groups

variable {arcs : List Arc} {parameters : Parameters} {paths : List MatchedPath}
  {pieces : List Piece} {group : KeyGroup Piece}

theorem mem_of_mem_group (hgroup : group ∈ groupAscending Piece.traversalKey pieces)
    {piece : Piece} (hpiece : piece ∈ group.members) :
    piece ∈ pieces ∧ piece.traversalKey = group.first.traversalKey := by
  rwa [members_of_mem_groupAscending hgroup, List.mem_filter, decide_eq_true_eq] at hpiece

/-- The pieces of validated paths come in valid groups. -/
theorem groupValid_of_made (haccepted : ∀ path ∈ paths, path.Accepted arcs parameters)
    (hmade : MadeOf arcs parameters paths pieces)
    (hgroup : group ∈ groupAscending Piece.traversalKey pieces) : GroupValid group := by
  obtain ⟨path, hpath, _, _, hsequence, hsource⟩ :=
    hmade.kept (mem_of_mem_group hgroup (first_mem group)).1
  refine ⟨?_, ?_, ?_, ?_⟩
  · intro piece hpiece
    obtain ⟨hmem, _⟩ := mem_of_mem_group hgroup hpiece
    obtain ⟨path, hpath, original, horiginal, heq⟩ := hmade.origin piece hmem
    obtain ⟨hmeasured, _⟩ := pieces_measured (haccepted path hpath) horiginal
    rw [heq]
    exact ⟨hmeasured.entryOffset, hmeasured.startSpeed, hmeasured.endSpeed,
      hmeasured.yawExcitation⟩
  · intro piece hpiece
    have hsorted : group.members.Pairwise fun left right => left.sortKey ≤ right.sortKey := by
      rw [members_of_mem_groupAscending hgroup]
      exact hmade.sorted.sublist List.filter_sublist
    cases hpiece with
    | head => exact le_rfl
    | tail _ hlater =>
      have hle := (List.pairwise_cons.mp hsorted).1 piece hlater
      have hkey := (mem_of_mem_group hgroup (List.mem_cons_of_mem _ hlater)).2
      simp only [Piece.traversalKey, EmbeddingLike.apply_eq_iff_eq, Prod.mk.injEq] at hkey
      obtain ⟨harc, _, hsequence, _⟩ := hkey
      simp only [Piece.sortKey, Prod.Lex.toLex_le_toLex, hsequence, harc, lt_irrefl, true_and,
        false_or] at hle
      rcases hle with hlt | ⟨heq, _⟩
      · exact hlt.le
      · exact heq.le
  · rw [hsequence]
    exact (haccepted path hpath).sequenceId
  · rw [hsource]
    exact (haccepted path hpath).sourceGroupId

/-- Every group has its bin. -/
theorem exists_bin_of_group (haccepted : ∀ path ∈ paths, path.Accepted arcs parameters)
    (hmade : MadeOf arcs parameters paths pieces)
    (hgroup : group ∈ groupAscending Piece.traversalKey pieces) {bins : List BinCoverage}
    (hbins : emptyBins arcs parameters = .ok bins) :
    ∃ arc, emptyBin parameters group.first.arcIndex arc group.first.binIndex ∈ bins := by
  obtain ⟨hmem, _⟩ := mem_of_mem_group hgroup (first_mem group)
  obtain ⟨path, hpath, original, horiginal, heq⟩ := hmade.origin group.first hmem
  obtain ⟨_, hindex⟩ := pieces_measured (haccepted path hpath) horiginal
  obtain ⟨binCount, hcount, hbin⟩ := (piecesOf_of horiginal).located
  have hpositive := binCountForArc_eq_ok hcount
  have hceil : 0 < ⌈(arcAt arcs original.arcIndex).length / parameters.binLength⌉ :=
    Int.ceil_pos.mpr hpositive.1
  have harc : arcs[original.arcIndex]? = some (arcAt arcs original.arcIndex) := by
    rw [arcAt, List.getD_eq_getElem?_getD, List.getElem?_eq_getElem hindex, Option.getD_some]
  refine ⟨arcAt arcs original.arcIndex, (mem_emptyBins_iff hbins).mpr
    ⟨original.arcIndex, arcAt arcs original.arcIndex, binCount, original.binIndex, harc, hcount,
      ?_, ?_⟩⟩
  · rw [hbin, binIndexAt]
    omega
  · rw [heq]
    rfl

end Groups

theorem makeTraversal_key {evidence : List ModalityEvidence} {findings : List FindingInterval}
    {decimalPlaces : Int} {group : KeyGroup Piece} {traversal : TraversalCoverage}
    (h : makeTraversal evidence findings decimalPlaces group = .ok traversal) :
    traversal.arcIndex = group.first.arcIndex ∧
      traversal.longitudinalBinIndex = group.first.binIndex := by
  obtain ⟨_, _, h⟩ := bind_eq_ok_iff.mp h
  obtain ⟨_, _, h⟩ := bind_eq_ok_iff.mp h
  obtain ⟨_, _, h⟩ := bind_eq_ok_iff.mp h
  cases h
  exact ⟨rfl, rfl⟩

theorem finalize_traversals {parameters : Parameters} {bin final : BinCoverage}
    (h : bin.finalize parameters = .ok final) :
    final.traversals = bin.traversals ∧ final.startOffset = bin.startOffset ∧
      final.endOffset = bin.endOffset := by
  obtain ⟨_, _, h⟩ := bind_eq_ok_iff.mp h
  obtain ⟨_, _, h⟩ := bind_eq_ok_iff.mp h
  cases h
  exact ⟨rfl, rfl, rfl⟩

namespace Crossing

/-- A vehicle that goes on from further back within one bin. -/
def jitter : MatchedPath :=
  { drive with points := [pointAt 1000 5 2, pointAt 1010 8 2, pointAt 1020 2 2, pointAt 1030 4 2] }

end Crossing

end CartoSentry.RoadBins
