import CartoSentry.RoadBins.LedgerOutcome

set_option autoImplicit false

/-!
# Road bins: what the result is made of

Every traversal of the result is made of its own pieces, and every bin of the traversals
that it owns.
-/

namespace CartoSentry.RoadBins

open Foundation
open Matching (InvalidArgument mapM_mem)

/-! ## Own pieces -/

/-- The key under which the pieces of the traversal were collected. -/
def TraversalCoverage.key (traversal : TraversalCoverage) : TraversalKey :=
  toLex (traversal.arcIndex, toLex (traversal.longitudinalBinIndex, toLex (traversal.sequenceId,
    traversal.traversalOrdinal)))

/-- The pieces that the traversal is made of. -/
def TraversalCoverage.ownPieces (traversal : TraversalCoverage) (pieces : List Piece) :
    List Piece :=
  pieces.filter fun piece => piece.traversalKey = traversal.key

/-- The piece lies in the bin. -/
def BinCoverage.holds (bin : BinCoverage) (piece : Piece) : Prop :=
  bin.arcIndex = piece.arcIndex ∧ bin.longitudinalBinIndex = piece.binIndex

instance (bin : BinCoverage) (piece : Piece) : Decidable (bin.holds piece) :=
  inferInstanceAs (Decidable (_ ∧ _))

theorem TraversalCoverage.key_eq_iff {traversal : TraversalCoverage} {piece : Piece} :
    piece.traversalKey = traversal.key ↔ piece.arcIndex = traversal.arcIndex ∧
      piece.binIndex = traversal.longitudinalBinIndex ∧
        piece.sequenceId = traversal.sequenceId ∧
          piece.traversalOrdinal = traversal.traversalOrdinal := by
  simp only [Piece.traversalKey, key, EmbeddingLike.apply_eq_iff_eq, Prod.mk.injEq]

theorem TraversalCoverage.mem_ownPieces {traversal : TraversalCoverage} {pieces : List Piece}
    {piece : Piece} : piece ∈ traversal.ownPieces pieces ↔
      piece ∈ pieces ∧ piece.traversalKey = traversal.key := by
  rw [ownPieces, List.mem_filter, decide_eq_true_eq]

/-- A piece lies in the bin that owns its traversal. -/
theorem BinCoverage.owns_iff_holds {bin : BinCoverage} {traversal : TraversalCoverage}
    {piece : Piece} (h : piece.traversalKey = traversal.key) :
    bin.owns traversal ↔ bin.holds piece := by
  obtain ⟨harc, hbin, _, _⟩ := TraversalCoverage.key_eq_iff.mp h
  unfold owns holds
  rw [harc, hbin]

/-! ## Traversals -/

/-- What `make_traversal` puts into a traversal, in terms of its own pieces. -/
structure TraversalOf (evidence : List ModalityEvidence) (findings : List FindingInterval)
    (decimalPlaces : Int) (pieces : List Piece) (traversal : TraversalCoverage) : Prop where
  inhabited : ∃ piece ∈ pieces, piece.traversalKey = traversal.key
  duration : traversal.usableDurationNs =
    ((traversal.ownPieces pieces).map fun piece => piece.endTimeNs - piece.startTimeNs).sum
  modalities : ∃ values,
    evidence.foldlM (addEvidence (traversal.ownPieces pieces) traversal.sequenceId)
      (fun _ => none) = .ok values ∧
    (Modality.all.filterMap values).mapM (finalizeModality decimalPlaces) =
      .ok traversal.modalities
  findingIds : traversal.findingIds = sortIds ((findings.filter
    (FindingInterval.affects (traversal.ownPieces pieces) traversal.sequenceId)).map
      FindingInterval.findingId)
  criticalFindingIds : traversal.criticalFindingIds = sortIds (((findings.filter
    (FindingInterval.affects (traversal.ownPieces pieces) traversal.sequenceId)).filter
      FindingInterval.critical).map FindingInterval.findingId)

section Groups

variable {evidence : List ModalityEvidence} {findings : List FindingInterval}
  {decimalPlaces : Int} {pieces : List Piece} {group : KeyGroup Piece}
  {traversal : TraversalCoverage}

theorem makeTraversal_traversalKey
    (h : makeTraversal evidence findings decimalPlaces group = .ok traversal) :
    traversal.key = group.first.traversalKey := by
  obtain ⟨_, _, h⟩ := bind_eq_ok_iff.mp h
  obtain ⟨_, _, h⟩ := bind_eq_ok_iff.mp h
  obtain ⟨_, _, h⟩ := bind_eq_ok_iff.mp h
  cases h
  rfl

/-- The own pieces of a traversal are the members of its group. -/
theorem ownPieces_eq_members (hgroup : group ∈ groupAscending Piece.traversalKey pieces)
    (h : makeTraversal evidence findings decimalPlaces group = .ok traversal) :
    traversal.ownPieces pieces = group.members := by
  rw [TraversalCoverage.ownPieces, makeTraversal_traversalKey h,
    members_of_mem_groupAscending hgroup]

theorem makeTraversal_of (hgroup : group ∈ groupAscending Piece.traversalKey pieces)
    (h : makeTraversal evidence findings decimalPlaces group = .ok traversal) :
    TraversalOf evidence findings decimalPlaces pieces traversal := by
  have hkey := makeTraversal_traversalKey h
  have hown := ownPieces_eq_members hgroup h
  obtain ⟨progress, hprogress, h⟩ := bind_eq_ok_iff.mp h
  obtain ⟨values, hvalues, h⟩ := bind_eq_ok_iff.mp h
  obtain ⟨modalities, hmodalities, h⟩ := bind_eq_ok_iff.mp h
  cases h
  refine ⟨⟨group.first, (mem_of_mem_group hgroup (first_mem group)).1, hkey.symm⟩, ?_,
    ⟨values, ?_, hmodalities⟩, ?_, ?_⟩
  · rw [hown]
    exact (TraversalProgress.sums hprogress).duration.trans (zero_add _)
  · rw [hown]
    exact hvalues
  · rw [hown]
  · rw [hown]

end Groups

/-! ## Bins -/

/-- What the last loop leaves in a bin, in terms of its traversals. -/
structure BinOf (parameters : Parameters) (traversals : List TraversalCoverage)
    (bin : BinCoverage) : Prop where
  traversals : bin.traversals = traversals.filter (bin.owns ·)
  duration : bin.usableDurationNs = (bin.traversals.map TraversalCoverage.usableDurationNs).sum
  count : bin.independentTraversalCount = bin.traversals.length
  modalities : ∃ values,
    (bin.traversals.flatMap TraversalCoverage.modalities).foldlM addAggregate (fun _ => none) =
      .ok values ∧
    (Modality.all.filterMap values).mapM (binModality parameters bin.traversals) =
      .ok bin.modalities
  findingIds : bin.findingIds = canonical (bin.traversals.flatMap TraversalCoverage.findingIds)
  criticalFindingIds : bin.criticalFindingIds =
    canonical (bin.traversals.flatMap TraversalCoverage.criticalFindingIds)

theorem finalize_of {parameters : Parameters} {traversals : List TraversalCoverage}
    {arcIndex binIndex : Nat} {arc : Arc} {last final : BinCoverage}
    (hfold : (traversals.filter fun traversal =>
        (emptyBin parameters arcIndex arc binIndex).owns traversal).foldlM
      BinCoverage.addTraversal (emptyBin parameters arcIndex arc binIndex) = .ok last)
    (hfinalize : last.finalize parameters = .ok final) : BinOf parameters traversals final := by
  have htotals := foldlM_addTraversal_totals hfold
  have htraversals := htotals.traversals.trans (List.nil_append _)
  obtain ⟨values, hvalues, h⟩ := bind_eq_ok_iff.mp hfinalize
  obtain ⟨modalities, hmodalities, h⟩ := bind_eq_ok_iff.mp h
  cases h
  refine ⟨?_, ?_, ?_, ⟨values, hvalues, hmodalities⟩, rfl, rfl⟩
  · dsimp only
    rw [htraversals]
    apply List.filter_congr
    intro traversal _
    apply decide_eq_decide.mpr
    unfold BinCoverage.owns
    rw [htotals.arcIndex, htotals.longitudinalBinIndex]
  · dsimp only
    rw [htraversals]
    exact htotals.duration.trans (zero_add _)
  · dsimp only
    rw [htraversals]
    exact htotals.count.trans (Nat.zero_add _)

/-! ## The result -/

/-- What the result is made of. -/
structure Aggregated (evidence : List ModalityEvidence) (findings : List FindingInterval)
    (parameters : Parameters) (pieces : List Piece) (traversals : List TraversalCoverage)
    (result : AggregationResult) : Prop where
  made : ∀ traversal ∈ traversals,
    TraversalOf evidence findings parameters.distanceRoundingDecimalPlaces pieces traversal
  keys : (traversals.map TraversalCoverage.key).Nodup
  every : ∀ piece ∈ pieces, ∃ traversal ∈ traversals, piece.traversalKey = traversal.key
  bins : ∀ bin ∈ result.bins, BinOf parameters traversals bin
  localizations : result.findingLocalizations = findings.map (localize result.bins)

section Result

variable {order : PieceSort} {arcs : List Arc} {paths : List MatchedPath}
  {evidence : List ModalityEvidence} {findings : List FindingInterval} {parameters : Parameters}
  {pieces : List Piece} {traversals : List TraversalCoverage} {result : AggregationResult}
  {bin : BinCoverage} {traversal : TraversalCoverage}

theorem aggregatePieces_of
    (h : aggregatePieces arcs evidence findings parameters pieces = .ok result) :
    ∃ traversals, Aggregated evidence findings parameters pieces traversals result := by
  obtain ⟨bins, hbins, h⟩ := bind_eq_ok_iff.mp h
  obtain ⟨accumulated, haccumulated, h⟩ := bind_eq_ok_iff.mp h
  obtain ⟨finalized, hfinalized, h⟩ := bind_eq_ok_iff.mp h
  cases h
  obtain ⟨traversals, htraversals, howners⟩ := foldlM_addToBins haccumulated
  have hfinals := forall₂_of_mapM_eq_ok hfinalized
  refine ⟨traversals, ?_, ?_, ?_, ?_, rfl⟩
  · intro traversal htraversal
    obtain ⟨group, hgroup, hmake⟩ := mapM_mem htraversals htraversal
    exact makeTraversal_of hgroup hmake
  · rw [map_eq_of_mapM_eq_ok htraversals fun _ _ hmake => makeTraversal_traversalKey hmake]
    exact nodup_keys_groupAscending Piece.traversalKey pieces
  · intro piece hpiece
    obtain ⟨group, hgroup, hkey, _⟩ : ∃ group ∈ groupAscending Piece.traversalKey pieces,
        group.first.traversalKey = piece.traversalKey ∧ piece ∈ group.members :=
      exists_mem_groupAscending hpiece
    obtain ⟨traversal, htraversal, hmake⟩ := mem_of_mapM_eq_ok htraversals hgroup
    exact ⟨traversal, htraversal, (makeTraversal_traversalKey hmake ▸ hkey).symm⟩
  · intro final hfinal
    obtain ⟨last, hlast, hfinalize⟩ := exists_left_of_mem hfinals hfinal
    obtain ⟨bin, hbin, hfold⟩ := exists_left_of_mem howners hlast
    obtain ⟨arcIndex, arc, _, binIndex, _, _, _, rfl⟩ := (mem_emptyBins_iff hbins).mp hbin
    exact finalize_of hfold hfinalize

/-- The result is made of the pieces of validated paths. -/
theorem aggregated_of
    (h : aggregateDirectedRoadBins order arcs paths evidence findings parameters = .ok result) :
    validateInputs arcs paths evidence findings parameters = .ok () ∧
      ∃ pieces, makePieces order arcs paths parameters = .ok pieces ∧
        ∃ traversals, Aggregated evidence findings parameters pieces traversals result := by
  rw [aggregateDirectedRoadBins, bind_unit_eq_ok_iff] at h
  obtain ⟨hvalid, h⟩ := h
  obtain ⟨pieces, hpieces, h⟩ := bind_eq_ok_iff.mp h
  exact ⟨hvalid, pieces, hpieces, aggregatePieces_of h⟩

namespace Aggregated

variable (h : Aggregated evidence findings parameters pieces traversals result)

include h

theorem mem_traversals_iff (hbin : bin ∈ result.bins) :
    traversal ∈ bin.traversals ↔ traversal ∈ traversals ∧ bin.owns traversal := by
  rw [(h.bins bin hbin).traversals, List.mem_filter, decide_eq_true_eq]

theorem traversalOf (hbin : bin ∈ result.bins) (htraversal : traversal ∈ bin.traversals) :
    TraversalOf evidence findings parameters.distanceRoundingDecimalPlaces pieces traversal :=
  h.made traversal ((h.mem_traversals_iff hbin).mp htraversal).1

/-- A piece lies in a bin exactly when its traversal is one of the bin. -/
theorem holds_iff (hbin : bin ∈ result.bins) {piece : Piece} (hpiece : piece ∈ pieces) :
    bin.holds piece ↔ ∃ traversal ∈ bin.traversals, piece ∈ traversal.ownPieces pieces := by
  constructor
  · intro hholds
    obtain ⟨traversal, htraversal, hkey⟩ := h.every piece hpiece
    exact ⟨traversal, (h.mem_traversals_iff hbin).mpr
      ⟨htraversal, (BinCoverage.owns_iff_holds hkey).mpr hholds⟩,
      TraversalCoverage.mem_ownPieces.mpr ⟨hpiece, hkey⟩⟩
  · intro ⟨traversal, htraversal, hown⟩
    apply (BinCoverage.owns_iff_holds (TraversalCoverage.mem_ownPieces.mp hown).2).mp
    exact ((h.mem_traversals_iff hbin).mp htraversal).2

end Aggregated

end Result

end CartoSentry.RoadBins
