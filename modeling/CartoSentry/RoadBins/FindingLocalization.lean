import CartoSentry.Foundation.BinarySearch
import CartoSentry.RoadBins.BinTraversals
import CartoSentry.RoadBins.Splitting

set_option autoImplicit false

/-!
# Road bins: localisation of findings

A finding is localized to exactly the bins in which a piece of its sequence meets it.
-/

namespace CartoSentry.RoadBins

open Foundation
open Matching (InvalidArgument mapM_mem)

/-! ## Half-open intervals -/

/-- An instant lies in both of two half-open intervals. -/
def Meet (startNs endNs otherStartNs otherEndNs : Int) : Prop :=
  ∃ timeNs, startNs ≤ timeNs ∧ timeNs < endNs ∧ otherStartNs ≤ timeNs ∧ timeNs < otherEndNs

theorem overlapInterval_isSome_iff {startNs endNs : Int} {piece : Piece} :
    (overlapInterval startNs endNs piece).isSome = true ↔
      Meet startNs endNs piece.startTimeNs piece.endTimeNs := by
  unfold overlapInterval
  dsimp only
  split_ifs with hempty
  · constructor
    · exact fun h => nomatch h
    · intro ⟨timeNs, _, _, _, _⟩
      omega
  · refine ⟨fun _ => ⟨max piece.startTimeNs startNs, ?_, ?_, ?_, ?_⟩, fun _ => rfl⟩
    · omega
    · omega
    · omega
    · omega

/-- What meets a part meets the whole. -/
theorem Meet.mono {startNs endNs pieceStart pieceEnd wholeStart wholeEnd : Int}
    (h : Meet startNs endNs pieceStart pieceEnd) (hstart : wholeStart ≤ pieceStart)
    (hend : pieceEnd ≤ wholeEnd) : Meet startNs endNs wholeStart wholeEnd := by
  obtain ⟨timeNs, hle, hlt, hafter, hbefore⟩ := h
  exact ⟨timeNs, hle, hlt, hstart.trans hafter, hbefore.trans_le hend⟩

/-! ## Pieces on their way -/

theorem Movement.split_within {movement : Movement} {arc : Arc} {parameters : Parameters}
    {path : MatchedPath} {durationNs : Int} (hduration : 0 ≤ durationNs) {fuel : Nat} {cursor : ℚ}
    (hcursor : movement.startOffset ≤ cursor) {pieces : List Piece}
    (h : movement.split arc parameters path durationNs fuel cursor = .ok pieces) :
    ∀ piece ∈ pieces, movement.timeAt durationNs movement.startOffset ≤ piece.startTimeNs ∧
      piece.endTimeNs ≤ movement.timeAt durationNs movement.endOffset := by
  induction fuel generalizing cursor pieces with
  | zero =>
    cases h
    exact fun piece hpiece => nomatch hpiece
  | succ fuel ih =>
    rw [split] at h
    split_ifs at h with hdone
    · cases h
      exact fun piece hpiece => nomatch hpiece
    obtain ⟨binCount, _, h⟩ := bind_eq_ok_iff.mp h
    dsimp only at h
    have hexit := min_le_left movement.endOffset
      (binEndOffset arc parameters (binIndexAt parameters binCount cursor))
    generalize min movement.endOffset
      (binEndOffset arc parameters (binIndexAt parameters binCount cursor)) = exit at h hexit
    split_ifs at h with hprogress
    obtain ⟨pieceStart, hpieceStart, h⟩ := bind_eq_ok_iff.mp h
    obtain ⟨pieceEnd, hpieceEnd, h⟩ := bind_eq_ok_iff.mp h
    obtain ⟨rest, hrest, h⟩ := bind_eq_ok_iff.mp h
    have hlater := ih (hcursor.trans hprogress.le) hrest
    split_ifs at h with hlasts
    · cases h
      rw [List.forall_mem_cons]
      refine ⟨⟨?_, ?_⟩, hlater⟩
      · dsimp only
        rw [checkedInt64_eq_ok hpieceStart]
        exact movement.timeAt_mono hduration hcursor
      · dsimp only
        rw [checkedInt64_eq_ok hpieceEnd]
        exact movement.timeAt_mono hduration hexit
    · cases h
      exact hlater

/-- A piece lies within the movement it was cut from. -/
theorem exists_movement_of_piece {arcs : List Arc} {parameters : Parameters} {path : MatchedPath}
    (haccepted : path.Accepted arcs parameters) {piece : Piece}
    (hpiece : piece ∈ piecesOf arcs parameters path) :
    ∃ pair ∈ consecutive path.points, ∃ movement, movementOf pair.1 pair.2 = some movement ∧
      pair.1.timeNs ≤ piece.startTimeNs ∧ piece.endTimeNs ≤ pair.2.timeNs := by
  rw [piecesOf] at hpiece
  split at hpiece
  · rename_i pieces hpieces
    obtain ⟨parts, hparts, hpieces⟩ := bind_eq_ok_iff.mp hpieces
    cases hpieces
    obtain ⟨part, hpart, hpiece⟩ := List.mem_flatten.mp hpiece
    obtain ⟨pair, hpair, hpart⟩ := mapM_mem hparts hpart
    rw [pairPieces] at hpart
    cases hmovement : movementOf pair.1 pair.2 with
    | none =>
      rw [hmovement] at hpart
      cases hpart
      cases hpiece
    | some movement =>
      rw [hmovement] at hpart
      obtain ⟨durationNs, hduration, hpart⟩ := bind_eq_ok_iff.mp hpart
      have hduration := checkedInt64_eq_ok hduration
      obtain ⟨hl, hr, -⟩ := movementOf_eq_some hmovement
      have hforward := validatePoints_forward haccepted.points pair hpair
      rw [← hl, ← hr] at hforward
      have hnonneg : 0 ≤ durationNs := by
        rw [hduration]
        exact (sub_pos.mpr hforward).le
      obtain ⟨hstart, hend⟩ := Movement.split_within hnonneg le_rfl hpart piece hpiece
      rw [Movement.timeAt_startOffset] at hstart
      rw [Movement.timeAt_endOffset hduration] at hend
      exact ⟨pair, hpair, movement, hmovement, hl ▸ hstart, hr ▸ hend⟩
  · cases hpiece

/-! ## Identifiers of a bin -/

theorem canonical_pairwise (ids : List String) : (canonical ids).Pairwise (· < ·) := by
  have hsorted := List.pairwise_insertionSort (· ≤ ·) ids.dedup
  have hnodup := (List.perm_insertionSort (· ≤ ·) ids.dedup).nodup_iff.mpr (List.nodup_dedup ids)
  exact hsorted.imp₂ (fun _ _ hle hne => lt_of_le_of_ne hle hne) hnodup

/-- A piece of the sequence of the finding lies in the bin and meets the finding. -/
def BinCoverage.Affected (bin : BinCoverage) (pieces : List Piece) (finding : FindingInterval) :
    Prop :=
  ∃ piece ∈ pieces, piece.sequenceId = finding.sequenceId ∧ bin.holds piece ∧
    Meet finding.startTimeNs finding.endTimeNs piece.startTimeNs piece.endTimeNs

section Bins

variable {evidence : List ModalityEvidence} {findings : List FindingInterval}
  {parameters : Parameters} {pieces : List Piece} {traversals : List TraversalCoverage}
  {result : AggregationResult} {bin : BinCoverage} {finding : FindingInterval}

theorem affects_iff {own : List Piece} {sequenceId : String}
    (hown : ∀ piece ∈ own, piece.sequenceId = sequenceId) :
    finding.affects own sequenceId = true ↔ ∃ piece ∈ own,
      piece.sequenceId = finding.sequenceId ∧
        Meet finding.startTimeNs finding.endTimeNs piece.startTimeNs piece.endTimeNs := by
  rw [FindingInterval.affects, Bool.and_eq_true, decide_eq_true_eq, List.any_eq_true]
  constructor
  · rintro ⟨hsequence, piece, hpiece, hmeets⟩
    exact ⟨piece, hpiece, (hown piece hpiece).trans hsequence.symm,
      overlapInterval_isSome_iff.mp hmeets⟩
  · rintro ⟨piece, hpiece, hsequence, hmeets⟩
    exact ⟨hsequence.symm.trans (hown piece hpiece), piece, hpiece,
      overlapInterval_isSome_iff.mpr hmeets⟩

/-- A finding affects a bin when it affects one of its traversals. -/
theorem Aggregated.affected_iff (h : Aggregated evidence findings parameters pieces traversals result)
    (hbin : bin ∈ result.bins) :
    bin.Affected pieces finding ↔ ∃ traversal ∈ bin.traversals,
      finding.affects (traversal.ownPieces pieces) traversal.sequenceId = true := by
  have hown (traversal : TraversalCoverage) :
      ∀ piece ∈ traversal.ownPieces pieces, piece.sequenceId = traversal.sequenceId := by
    intro piece hpiece
    exact (TraversalCoverage.key_eq_iff.mp (TraversalCoverage.mem_ownPieces.mp hpiece).2).2.2.1
  constructor
  · intro ⟨piece, hpiece, hsequence, hholds, hmeets⟩
    obtain ⟨traversal, htraversal, hmem⟩ := (h.holds_iff hbin hpiece).mp hholds
    exact ⟨traversal, htraversal,
      (affects_iff (hown traversal)).mpr ⟨piece, hmem, hsequence, hmeets⟩⟩
  · intro ⟨traversal, htraversal, haffects⟩
    obtain ⟨piece, hmem, hsequence, hmeets⟩ := (affects_iff (hown traversal)).mp haffects
    have hpiece := (TraversalCoverage.mem_ownPieces.mp hmem).1
    exact ⟨piece, hpiece, hsequence, (h.holds_iff hbin hpiece).mpr ⟨traversal, htraversal, hmem⟩,
      hmeets⟩

theorem Aggregated.mem_findingIds_iff
    (h : Aggregated evidence findings parameters pieces traversals result)
    (hbin : bin ∈ result.bins) {id : String} :
    id ∈ bin.findingIds ↔
      ∃ finding ∈ findings, finding.findingId = id ∧ bin.Affected pieces finding := by
  rw [(h.bins bin hbin).findingIds, mem_canonical, List.mem_flatMap]
  constructor
  · intro ⟨traversal, htraversal, hid⟩
    rw [(h.traversalOf hbin htraversal).findingIds, mem_sortIds] at hid
    obtain ⟨finding, hfinding, rfl⟩ := List.mem_map.mp hid
    obtain ⟨hmem, haffects⟩ := List.mem_filter.mp hfinding
    exact ⟨finding, hmem, rfl, (h.affected_iff hbin).mpr ⟨traversal, htraversal, haffects⟩⟩
  · rintro ⟨finding, hfinding, rfl, haffected⟩
    obtain ⟨traversal, htraversal, haffects⟩ := (h.affected_iff hbin).mp haffected
    refine ⟨traversal, htraversal, ?_⟩
    rw [(h.traversalOf hbin htraversal).findingIds, mem_sortIds]
    exact List.mem_map_of_mem (List.mem_filter.mpr ⟨hfinding, haffects⟩)

theorem Aggregated.mem_criticalFindingIds_iff
    (h : Aggregated evidence findings parameters pieces traversals result)
    (hbin : bin ∈ result.bins) {id : String} :
    id ∈ bin.criticalFindingIds ↔ ∃ finding ∈ findings,
      finding.findingId = id ∧ finding.critical = true ∧ bin.Affected pieces finding := by
  rw [(h.bins bin hbin).criticalFindingIds, mem_canonical, List.mem_flatMap]
  constructor
  · intro ⟨traversal, htraversal, hid⟩
    rw [(h.traversalOf hbin htraversal).criticalFindingIds, mem_sortIds] at hid
    obtain ⟨finding, hfinding, rfl⟩ := List.mem_map.mp hid
    obtain ⟨haffecting, hcritical⟩ := List.mem_filter.mp hfinding
    obtain ⟨hmem, haffects⟩ := List.mem_filter.mp haffecting
    exact ⟨finding, hmem, rfl, hcritical,
      (h.affected_iff hbin).mpr ⟨traversal, htraversal, haffects⟩⟩
  · rintro ⟨finding, hfinding, rfl, hcritical, haffected⟩
    obtain ⟨traversal, htraversal, haffects⟩ := (h.affected_iff hbin).mp haffected
    refine ⟨traversal, htraversal, ?_⟩
    rw [(h.traversalOf hbin htraversal).criticalFindingIds, mem_sortIds]
    exact List.mem_map_of_mem
      (List.mem_filter.mpr ⟨List.mem_filter.mpr ⟨hfinding, haffects⟩, hcritical⟩)

/-- The indices of a localization are those of the bins that the finding affects. -/
theorem Aggregated.mem_localize_iff
    (h : Aggregated evidence findings parameters pieces traversals result)
    (hids : (findings.map FindingInterval.findingId).Nodup) (hfinding : finding ∈ findings)
    {index : Nat} :
    index ∈ (localize result.bins finding).binResultIndices ↔
      ∃ bin ∈ result.bins[index]?, bin.Affected pieces finding := by
  unfold localize
  dsimp only
  rw [List.mem_map]
  constructor
  · rintro ⟨⟨bin, _⟩, hbin, rfl⟩
    rw [List.mem_filter, List.mk_mem_zipIdx_iff_getElem?, decide_eq_true_eq] at hbin
    obtain ⟨hindex, hid⟩ := hbin
    obtain ⟨other, hother, hsame, haffected⟩ :=
      (h.mem_findingIds_iff (List.mem_of_getElem? hindex)).mp hid
    obtain rfl := List.inj_on_of_nodup_map hids hother hfinding hsame
    exact ⟨bin, hindex, haffected⟩
  · intro ⟨bin, hindex, haffected⟩
    refine ⟨(bin, index), ?_, rfl⟩
    rw [List.mem_filter, List.mk_mem_zipIdx_iff_getElem?, decide_eq_true_eq]
    exact ⟨hindex, (h.mem_findingIds_iff (List.mem_of_getElem? hindex)).mpr
      ⟨finding, hfinding, rfl, haffected⟩⟩

end Bins

/-! ## The result -/

/-- The localizations and the identifiers of the bins are exact. -/
structure LocalizesExactly (paths : List MatchedPath) (findings : List FindingInterval)
    (pieces : List Piece) (result : AggregationResult) : Prop where
  ids : result.findingLocalizations.map FindingLocalization.findingId =
    findings.map FindingInterval.findingId
  listed : ∀ finding localization,
    (finding, localization) ∈ findings.zip result.findingLocalizations →
      ∀ index, index ∈ localization.binResultIndices ↔
        ∃ bin ∈ result.bins[index]?, bin.Affected pieces finding
  findingIds : ∀ index, ∀ bin ∈ result.bins[index]?, ∀ id, id ∈ bin.findingIds ↔
    ∃ finding localization, (finding, localization) ∈ findings.zip result.findingLocalizations ∧
      finding.findingId = id ∧ index ∈ localization.binResultIndices
  criticalFindingIds : ∀ index, ∀ bin ∈ result.bins[index]?, ∀ id, id ∈ bin.criticalFindingIds ↔
    ∃ finding localization, (finding, localization) ∈ findings.zip result.findingLocalizations ∧
      finding.findingId = id ∧ finding.critical = true ∧ index ∈ localization.binResultIndices
  sorted : ∀ bin ∈ result.bins,
    bin.findingIds.Pairwise (· < ·) ∧ bin.criticalFindingIds.Pairwise (· < ·)
  /-- The search of the source finds what is listed. -/
  searched : ∀ bin ∈ result.bins, ∀ id, binarySearch bin.findingIds id = true ↔ id ∈ bin.findingIds
  /-- Without an eligible movement that meets the finding, no bin is listed. -/
  unmoved : ∀ finding localization,
    (finding, localization) ∈ findings.zip result.findingLocalizations →
      (∀ path ∈ paths, path.sequenceId = finding.sequenceId → ∀ pair ∈ consecutive path.points,
        (movementOf pair.1 pair.2).isSome = true →
          ¬ Meet finding.startTimeNs finding.endTimeNs pair.1.timeNs pair.2.timeNs) →
        localization.binResultIndices = []

namespace Crossing

/-- A finding from within the second half of the drive on. -/
def brake : FindingInterval :=
  { findingId := "brake"
    sequenceId := "sequence"
    startTimeNs := 1015
    endTimeNs := 1030
    critical := true }

end Crossing

end CartoSentry.RoadBins
