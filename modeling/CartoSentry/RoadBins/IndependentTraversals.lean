import Mathlib.Data.Finset.Card
import CartoSentry.Foundation.GapNumbering
import CartoSentry.RoadBins.FindingLocalization

set_option autoImplicit false

/-!
# Road bins: independent traversals

Traversal ordinals number the passes of a sequence over an arc: the groups of pieces that
overlap in time or are apart by no more than the minimum gap.
-/

namespace CartoSentry.RoadBins

open Foundation
open Matching (InvalidArgument)

/-! ## Passes -/

/-- The sequence and the arc of a piece. -/
def Piece.passKey (piece : Piece) : String × Nat :=
  (piece.sequenceId, piece.arcIndex)

/-- The pieces overlap in time, or one starts at most a gap after the other ends. -/
def Piece.Adjoins (gapNs : Int) (piece other : Piece) : Prop :=
  Meet piece.startTimeNs piece.endTimeNs other.startTimeNs other.endTimeNs ∨
    (piece.endTimeNs ≤ other.startTimeNs ∧ other.startTimeNs - piece.endTimeNs ≤ gapNs) ∨
      (other.endTimeNs ≤ piece.startTimeNs ∧ piece.startTimeNs - other.endTimeNs ≤ gapNs)

/-- A chain of pieces of one sequence and arc, each adjoining the next one. -/
def Linked (gapNs : Int) (pieces : List Piece) : Piece → Piece → Prop :=
  Relation.ReflTransGen fun piece other =>
    piece ∈ pieces ∧ other ∈ pieces ∧ piece.passKey = other.passKey ∧ piece.Adjoins gapNs other

/-- The pieces of a sequence on an arc. -/
def passPieces (pieces : List Piece) (passKey : String × Nat) : List Piece :=
  pieces.filter fun piece => piece.passKey = passKey

theorem mem_passPieces {pieces : List Piece} {passKey : String × Nat} {piece : Piece} :
    piece ∈ passPieces pieces passKey ↔ piece ∈ pieces ∧ piece.passKey = passKey := by
  rw [passPieces, List.mem_filter, decide_eq_true_eq]

theorem Piece.adjoins_iff_near {gapNs : Int} (hgap : 0 ≤ gapNs) {piece other : Piece} :
    piece.Adjoins gapNs other ↔ Near gapNs startTimeNs endTimeNs piece other := by
  have hpiece := piece.lasts
  have hother := other.lasts
  constructor
  · rintro (⟨timeNs, hstart, hend, hotherStart, hotherEnd⟩ | ⟨hbefore, hnear⟩ | ⟨hafter, hnear⟩)
    · exact ⟨by omega, by omega⟩
    · exact ⟨by omega, by omega⟩
    · exact ⟨by omega, by omega⟩
  · intro ⟨hleft, hright⟩
    by_cases hbefore : piece.endTimeNs ≤ other.startTimeNs
    · exact Or.inr (Or.inl ⟨hbefore, by omega⟩)
    by_cases hafter : other.endTimeNs ≤ piece.startTimeNs
    · exact Or.inr (Or.inr ⟨hafter, by omega⟩)
    · exact Or.inl
        ⟨max piece.startTimeNs other.startTimeNs, by omega, by omega, by omega, by omega⟩

theorem linked_iff_chained {gapNs : Int} (hgap : 0 ≤ gapNs) {pieces : List Piece}
    {piece other : Piece} :
    Linked gapNs pieces piece other ↔ Chained gapNs Piece.startTimeNs Piece.endTimeNs
      (passPieces pieces piece.passKey) piece other := by
  constructor
  · intro hlinked
    have hboth : other.passKey = piece.passKey ∧ Chained gapNs Piece.startTimeNs Piece.endTimeNs
        (passPieces pieces piece.passKey) piece other := by
      induction hlinked with
      | refl => exact ⟨rfl, .refl⟩
      | tail _ hlink ih =>
        obtain ⟨hleft, hright, hkey, hadjoins⟩ := hlink
        obtain ⟨hsame, hchained⟩ := ih
        refine ⟨hkey.symm.trans hsame, hchained.tail ⟨?_, ?_, ?_⟩⟩
        · exact mem_passPieces.mpr ⟨hleft, hsame⟩
        · exact mem_passPieces.mpr ⟨hright, hkey.symm.trans hsame⟩
        · exact (Piece.adjoins_iff_near hgap).mp hadjoins
    exact hboth.2
  · apply Relation.ReflTransGen.mono
    intro left right ⟨hleft, hright, hnear⟩
    rw [mem_passPieces] at hleft hright
    exact ⟨hleft.1, hright.1, hleft.2.trans hright.2.symm, (Piece.adjoins_iff_near hgap).mpr hnear⟩

/-! ## The sweep of the source -/

section Sweep

variable {parameters : Parameters} {state : TraversalState} {piece : Piece}
  {traversal : Nat × Int}

theorem nextOrdinal_eq_ok (hgap : 0 ≤ parameters.independentTraversalMinimumGapNs)
    {ordinal next : Nat} {reachedNs startTimeNs : Int}
    (h : nextOrdinal parameters ordinal reachedNs startTimeNs = .ok next) :
    next = if reachedNs + parameters.independentTraversalMinimumGapNs < startTimeNs then ordinal + 1
      else ordinal := by
  rw [nextOrdinal] at h
  split_ifs at h with hafter
  · obtain ⟨gapNs, hdifference, h⟩ := bind_eq_ok_iff.mp h
    have hdifference := checkedInt64_eq_ok hdifference
    cases h
    split_ifs with hnew hapart hapart
    · rfl
    · omega
    · omega
    · rfl
  · cases h
    rw [if_neg (by omega)]

/-- The numbered pieces of every sequence and arc are those of a sweep. -/
theorem numberTraversals_swept (hgap : 0 ≤ parameters.independentTraversalMinimumGapNs)
    {pieces numbered : List Piece} (h : numberTraversals parameters state pieces = .ok numbered)
    (passKey : String × Nat) :
    match state.lookup passKey with
    | none => Swept parameters.independentTraversalMinimumGapNs Piece.startTimeNs Piece.endTimeNs
        Piece.traversalOrdinal (passPieces numbered passKey)
    | some (ordinal, reachedNs) =>
        SweptFrom parameters.independentTraversalMinimumGapNs Piece.startTimeNs Piece.endTimeNs
          Piece.traversalOrdinal ordinal reachedNs (passPieces numbered passKey) := by
  induction pieces generalizing state numbered with
  | nil =>
    cases h
    split
    · exact True.intro
    · exact True.intro
  | cons piece rest ih =>
    rw [numberTraversals] at h
    obtain ⟨traversal, htraversal, h⟩ := bind_eq_ok_iff.mp h
    obtain ⟨later, hlater, h⟩ := bind_eq_ok_iff.mp h
    cases h
    have hlater := ih hlater
    by_cases hkey : piece.passKey = passKey
    · subst hkey
      have hfirst : passPieces (piece.numbered traversal.1 :: later) piece.passKey =
          piece.numbered traversal.1 :: passPieces later piece.passKey :=
        List.filter_cons_of_pos (decide_eq_true rfl)
      have hlookup : (((piece.sequenceId, piece.arcIndex), traversal) :: state).lookup piece.passKey =
          some traversal := List.lookup_cons_self
      rw [hlookup] at hlater
      rw [hfirst]
      rw [traversalOf, ← Piece.passKey] at htraversal
      cases hstate : state.lookup piece.passKey with
      | none =>
        rw [hstate] at htraversal
        cases htraversal
        exact ⟨rfl, hlater⟩
      | some previous =>
        rw [hstate] at htraversal
        obtain ⟨ordinal, hordinal, htraversal⟩ := bind_eq_ok_iff.mp htraversal
        cases htraversal
        exact ⟨nextOrdinal_eq_ok hgap hordinal, hlater⟩
    · have hrest : passPieces (piece.numbered traversal.1 :: later) passKey =
          passPieces later passKey :=
        List.filter_cons_of_neg fun hsame => hkey (of_decide_eq_true hsame)
      have hlookup : (((piece.sequenceId, piece.arcIndex), traversal) :: state).lookup passKey =
          state.lookup passKey := by
        rw [List.lookup_cons, ← Piece.passKey, beq_eq_false_iff_ne.mpr (Ne.symm hkey)]
      rwa [hlookup, ← hrest] at hlater

end Sweep

section Made

variable {order : PieceSort} {arcs : List Arc} {paths : List MatchedPath}
  {evidence : List ModalityEvidence} {findings : List FindingInterval} {parameters : Parameters}
  {pieces : List Piece}

theorem minimumGap_nonneg_of_validateInputs
    (h : validateInputs arcs paths evidence findings parameters = .ok ()) :
    0 ≤ parameters.independentTraversalMinimumGapNs := by
  rw [validateInputs, bind_unit_eq_ok_iff, validateParameters, Matching.throwIf_eq_ok_iff] at h
  omega

theorem makePieces_swept (hgap : 0 ≤ parameters.independentTraversalMinimumGapNs)
    (h : makePieces order arcs paths parameters = .ok pieces) (passKey : String × Nat) :
    Swept parameters.independentTraversalMinimumGapNs Piece.startTimeNs Piece.endTimeNs
      Piece.traversalOrdinal (passPieces pieces passKey) := by
  obtain ⟨distinct, _, h⟩ := bind_eq_ok_iff.mp h
  exact numberTraversals_swept hgap h passKey

/-- The pieces of a sequence on an arc are in the order of their starts. -/
theorem passPieces_sorted (h : MadeOf arcs parameters paths pieces) (passKey : String × Nat) :
    (passPieces pieces passKey).Pairwise fun piece other =>
      piece.startTimeNs ≤ other.startTimeNs := by
  apply (h.sorted.sublist List.filter_sublist).imp_of_mem
  intro piece other hpiece hother hle
  have hkey := (mem_passPieces.mp hpiece).2.trans (mem_passPieces.mp hother).2.symm
  simp only [Piece.passKey, Prod.mk.injEq] at hkey
  simp only [Piece.sortKey, Prod.Lex.toLex_le_toLex, hkey.1, hkey.2, lt_irrefl, true_and,
    false_or] at hle
  rcases hle with hlt | ⟨heq, _⟩
  · exact hlt.le
  · exact heq.le

end Made

/-! ## The result -/

/-- The sequence and the ordinal under which a piece counts in its bin. -/
def Piece.pass (piece : Piece) : String × Nat :=
  (piece.sequenceId, piece.traversalOrdinal)

/-- The ordinals are those of the passes, and the bins count these. -/
structure CountsPasses (gapNs : Int) (pieces : List Piece) (result : AggregationResult) : Prop where
  linked : ∀ piece ∈ pieces, ∀ other ∈ pieces, piece.passKey = other.passKey →
    (piece.traversalOrdinal = other.traversalOrdinal ↔ Linked gapNs pieces piece other)
  /-- A later pass starts more than the gap after an earlier one has ended. -/
  ordered : ∀ piece ∈ pieces, ∀ other ∈ pieces, piece.passKey = other.passKey →
    piece.traversalOrdinal < other.traversalOrdinal → piece.endTimeNs + gapNs < other.startTimeNs
  /-- The ordinals of a sequence on an arc start at zero and leave none out. -/
  consecutive : ∀ piece ∈ pieces, ∀ ordinal ≤ piece.traversalOrdinal, ∃ other ∈ pieces,
    other.passKey = piece.passKey ∧ other.traversalOrdinal = ordinal
  counted : ∀ bin ∈ result.bins, bin.independentTraversalCount =
    ((pieces.filter (bin.holds ·)).map Piece.pass).toFinset.card

/-- A bin has one traversal for each pass that has a piece in it. -/
theorem Aggregated.count_eq_card {evidence : List ModalityEvidence}
    {findings : List FindingInterval} {parameters : Parameters} {pieces : List Piece}
    {traversals : List TraversalCoverage} {result : AggregationResult}
    (h : Aggregated evidence findings parameters pieces traversals result) {bin : BinCoverage}
    (hbin : bin ∈ result.bins) :
    bin.independentTraversalCount =
      ((pieces.filter (bin.holds ·)).map Piece.pass).toFinset.card := by
  have hpass {traversal : TraversalCoverage} {piece : Piece}
      (hkey : piece.traversalKey = traversal.key) :
      piece.pass = (traversal.sequenceId, traversal.traversalOrdinal) := by
    obtain ⟨_, _, hsequence, hordinal⟩ := TraversalCoverage.key_eq_iff.mp hkey
    rw [Piece.pass, hsequence, hordinal]
  have hnodup : (bin.traversals.map fun traversal =>
      (traversal.sequenceId, traversal.traversalOrdinal)).Nodup := by
    have hkeys : (bin.traversals.map TraversalCoverage.key).Nodup := by
      rw [(h.bins bin hbin).traversals]
      exact h.keys.sublist (List.filter_sublist.map _)
    apply hkeys.of_map.map_on
    intro traversal htraversal other hother hsame
    obtain ⟨hsequence, hordinal⟩ := Prod.mk.inj hsame
    obtain ⟨harc, hindex⟩ := ((h.mem_traversals_iff hbin).mp htraversal).2
    obtain ⟨hotherArc, hotherIndex⟩ := ((h.mem_traversals_iff hbin).mp hother).2
    apply List.inj_on_of_nodup_map hkeys htraversal hother
    rw [TraversalCoverage.key, TraversalCoverage.key, ← harc, ← hindex, hotherArc, hotherIndex,
      hsequence, hordinal]
  have hsame : ((pieces.filter (bin.holds ·)).map Piece.pass).toFinset =
      (bin.traversals.map fun traversal =>
        (traversal.sequenceId, traversal.traversalOrdinal)).toFinset := by
    ext pass
    rw [List.mem_toFinset, List.mem_toFinset, List.mem_map, List.mem_map]
    constructor
    · rintro ⟨piece, hpiece, rfl⟩
      rw [List.mem_filter, decide_eq_true_eq] at hpiece
      obtain ⟨traversal, htraversal, hown⟩ := (h.holds_iff hbin hpiece.1).mp hpiece.2
      exact ⟨traversal, htraversal, (hpass (TraversalCoverage.mem_ownPieces.mp hown).2).symm⟩
    · rintro ⟨traversal, htraversal, rfl⟩
      obtain ⟨piece, hpiece, hkey⟩ := (h.traversalOf hbin htraversal).inhabited
      refine ⟨piece, ?_, hpass hkey⟩
      rw [List.mem_filter, decide_eq_true_eq]
      exact ⟨hpiece, (h.holds_iff hbin hpiece).mpr
        ⟨traversal, htraversal, TraversalCoverage.mem_ownPieces.mpr ⟨hpiece, hkey⟩⟩⟩
  rw [hsame, List.toFinset_card_of_nodup hnodup, List.length_map, (h.bins bin hbin).count]

/-- Independent traversals are the passes that the minimum gap separates. -/
theorem traversals_are_passes (order : PieceSort) (arcs : List Arc) (paths : List MatchedPath)
    (evidence : List ModalityEvidence) (findings : List FindingInterval) (parameters : Parameters)
    {result : AggregationResult}
    (h : aggregateDirectedRoadBins order arcs paths evidence findings parameters = .ok result) :
    ∃ pieces, makePieces order arcs paths parameters = .ok pieces ∧
      CountsPasses parameters.independentTraversalMinimumGapNs pieces result := by
  obtain ⟨hvalid, pieces, hpieces, traversals, hresult⟩ := aggregated_of h
  have hgap := minimumGap_nonneg_of_validateInputs hvalid
  have hsorted := passPieces_sorted (makePieces_madeOf hpieces)
  have hswept := makePieces_swept hgap hpieces
  have hforward (passKey : String × Nat) :
      ∀ piece ∈ passPieces pieces passKey, piece.startTimeNs ≤ piece.endTimeNs :=
    fun piece _ => piece.lasts.le
  refine ⟨pieces, hpieces, ?_⟩
  exact {
    linked := by
      intro piece hpiece other hother hkey
      rw [linked_iff_chained hgap]
      exact (hswept _).number_eq_iff (hsorted _) hgap (hforward _)
        (mem_passPieces.mpr ⟨hpiece, rfl⟩) (mem_passPieces.mpr ⟨hother, hkey.symm⟩)
    ordered := by
      intro piece hpiece other hother hkey hlt
      exact (hswept _).lt_start (hsorted _) (mem_passPieces.mpr ⟨hpiece, rfl⟩)
        (mem_passPieces.mpr ⟨hother, hkey.symm⟩) hlt
    consecutive := by
      intro piece hpiece ordinal hle
      obtain ⟨other, hother, heq⟩ :=
        (hswept piece.passKey).exists_number (mem_passPieces.mpr ⟨hpiece, rfl⟩) hle
      obtain ⟨hmem, hkey⟩ := mem_passPieces.mp hother
      exact ⟨other, hmem, hkey, heq⟩
    counted := fun bin hbin => hresult.count_eq_card hbin }

namespace Crossing

/-- The same vehicle on the same arc once more, after more than the minimum gap. -/
def secondDrive : MatchedPath :=
  { drive with
    roadMatchId := "second drive"
    points := [pointAt 2000 5 2, pointAt 2010 15 4, pointAt 2020 30 5] }

end Crossing

theorem traversals_are_passes_crossing :
    ∃ result, aggregateDirectedRoadBins .stable Crossing.arcs
        [Crossing.secondDrive, Crossing.drive] [] [] Crossing.parameters = .ok result ∧
      ∃ pieces, makePieces .stable Crossing.arcs [Crossing.secondDrive, Crossing.drive]
          Crossing.parameters = .ok pieces ∧
        CountsPasses Crossing.parameters.independentTraversalMinimumGapNs pieces result := by
  have hsome : (aggregateDirectedRoadBins .stable Crossing.arcs
      [Crossing.secondDrive, Crossing.drive] [] [] Crossing.parameters).toOption.isSome = true := by
    decide +kernel
  obtain ⟨result, hresult⟩ := Option.isSome_iff_exists.mp hsome
  have hok := eq_ok_of_toOption hresult
  exact ⟨result, hok, traversals_are_passes .stable Crossing.arcs
    [Crossing.secondDrive, Crossing.drive] [] [] Crossing.parameters hok⟩

end CartoSentry.RoadBins
