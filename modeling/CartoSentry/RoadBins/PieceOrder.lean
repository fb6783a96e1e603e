import Mathlib.Tactic.FieldSimp
import Mathlib.Tactic.Linarith
import CartoSentry.Foundation.Outcome
import CartoSentry.RoadBins.Pieces

set_option autoImplicit false

/-!
# Road bins: order of pieces

What the pieces owe to their path, to the order of the paths and to the order of equal
sort keys.
-/

namespace CartoSentry.RoadBins

open Foundation
open Matching (InvalidArgument throwIf mapM_mem)

/-! ## Fuel -/

theorem binCountForArc_eq_ok {arc : Arc} {parameters : Parameters} {binCount : Nat}
    (h : binCountForArc arc parameters = .ok binCount) :
    0 < arc.length / parameters.binLength ∧
      binCount = ⌈arc.length / parameters.binLength⌉.toNat := by
  simp only [binCountForArc] at h
  split_ifs at h with hratio
  push Not at hratio
  injection h with h
  exact ⟨hratio.1, h.symm⟩

/-- The bin of an offset before the end of the arc is the one that holds it. -/
theorem binIndexAt_eq {arc : Arc} {parameters : Parameters} {binCount : Nat} {offset : ℚ}
    (hlength : 0 < parameters.binLength) (hcount : binCountForArc arc parameters = .ok binCount)
    (hend : offset < arc.length) :
    binIndexAt parameters binCount offset = ⌊offset / parameters.binLength⌋.toNat := by
  obtain ⟨hpositive, rfl⟩ := binCountForArc_eq_ok hcount
  have hlt : offset / parameters.binLength < arc.length / parameters.binLength := by gcongr
  have hfloor : ⌊offset / parameters.binLength⌋ < ⌈arc.length / parameters.binLength⌉ := by
    rw [Int.floor_lt]
    exact hlt.trans_le (Int.le_ceil _)
  have hceil : 0 < ⌈arc.length / parameters.binLength⌉ := Int.ceil_pos.mpr hpositive
  rw [binIndexAt]
  omega

theorem mul_floor_le {parameters : Parameters} (hlength : 0 < parameters.binLength) {offset : ℚ}
    (hoffset : 0 ≤ offset) :
    parameters.binLength * (⌊offset / parameters.binLength⌋.toNat : ℚ) ≤ offset := by
  have hfloor : 0 ≤ ⌊offset / parameters.binLength⌋ := Int.floor_nonneg.mpr (by positivity)
  have hcast : ((⌊offset / parameters.binLength⌋.toNat : Nat) : ℚ) =
      (⌊offset / parameters.binLength⌋ : ℚ) := by
    exact_mod_cast congrArg (fun n : Int => (n : ℚ)) (Int.toNat_of_nonneg hfloor)
  rw [hcast, mul_comm]
  exact (le_div_iff₀ hlength).mp (Int.floor_le _)

theorem lt_mul_floor_succ {parameters : Parameters} (hlength : 0 < parameters.binLength)
    (offset : ℚ) :
    offset < parameters.binLength * ((⌊offset / parameters.binLength⌋.toNat : ℚ) + 1) := by
  have hfloor : (⌊offset / parameters.binLength⌋ : ℚ) ≤
      ((⌊offset / parameters.binLength⌋.toNat : Nat) : ℚ) := by
    exact_mod_cast Int.self_le_toNat _
  rw [mul_comm, ← div_lt_iff₀ hlength]
  exact (Int.lt_floor_add_one _).trans_le (by linarith)

/-- Enough fuel to reach the end of the arc from the start of a bin on: one step more
changes nothing. -/
theorem Movement.split_succ {movement : Movement} {arc : Arc} {parameters : Parameters}
    {path : MatchedPath} {durationNs : Int} (hlength : 0 < parameters.binLength)
    (hend : movement.endOffset ≤ arc.length) {fuel binStart : Nat} {cursor : ℚ}
    (hcursor : parameters.binLength * binStart ≤ cursor)
    (hfuel : arc.length ≤ parameters.binLength * (binStart + fuel : Nat)) :
    movement.split arc parameters path durationNs (fuel + 1) cursor =
      movement.split arc parameters path durationNs fuel cursor := by
  induction fuel generalizing binStart cursor with
  | zero =>
    have hdone : movement.endOffset ≤ cursor := by
      rw [Nat.add_zero] at hfuel
      linarith
    simp only [split, if_pos hdone]
  | succ fuel ih =>
    rw [split]
    conv_rhs => rw [split]
    by_cases hdone : movement.endOffset ≤ cursor
    · rw [if_pos hdone, if_pos hdone]
    rw [if_neg hdone, if_neg hdone]
    cases hcount : binCountForArc arc parameters with
    | error failure => rfl
    | ok binCount =>
      -- The part ends with the movement, or where a later bin starts.
      have hnext : movement.split arc parameters path durationNs (fuel + 1)
            (min movement.endOffset
              (binEndOffset arc parameters (binIndexAt parameters binCount cursor))) =
          movement.split arc parameters path durationNs fuel
            (min movement.endOffset
              (binEndOffset arc parameters (binIndexAt parameters binCount cursor))) := by
        rw [binIndexAt_eq hlength hcount (by linarith)]
        have hbin : binStart ≤ ⌊cursor / parameters.binLength⌋.toNat := by
          have hle : (binStart : Int) ≤ ⌊cursor / parameters.binLength⌋ := by
            rw [Int.le_floor, le_div_iff₀ hlength]
            push_cast
            linarith
          omega
        have hbin' : (binStart : ℚ) ≤ (⌊cursor / parameters.binLength⌋.toNat : ℚ) := by
          exact_mod_cast hbin
        rcases le_total movement.endOffset (parameters.binLength *
            ((⌊cursor / parameters.binLength⌋.toNat : ℚ) + 1)) with hlast | hlater
        · have hexit : min movement.endOffset
              (binEndOffset arc parameters ⌊cursor / parameters.binLength⌋.toNat) =
              movement.endOffset := by
            rw [binEndOffset]
            exact min_eq_left (le_min hend hlast)
          rw [hexit]
          cases fuel with
          | zero => simp only [split, if_pos le_rfl]
          | succ fuel => simp only [split, if_pos le_rfl]
        · have hexit : min movement.endOffset
              (binEndOffset arc parameters ⌊cursor / parameters.binLength⌋.toNat) =
              parameters.binLength * ((⌊cursor / parameters.binLength⌋.toNat : ℚ) + 1) := by
            rw [binEndOffset, min_eq_right (hlater.trans hend), min_eq_right hlater]
          rw [hexit]
          refine @ih (binStart + 1) _ ?_ ?_
          · push_cast
            gcongr
          · rwa [show binStart + 1 + fuel = binStart + (fuel + 1) by omega]
      simp only [bind, Except.bind, hnext]

/-- The loop ends of itself: fuel beyond the bins of the arc is not used. -/
theorem Movement.split_eq_of_le {movement : Movement} {arc : Arc} {parameters : Parameters}
    {path : MatchedPath} {durationNs : Int} (hlength : 0 < parameters.binLength)
    (hstart : 0 ≤ movement.startOffset) (hend : movement.endOffset ≤ arc.length) {fuel : Nat}
    (hfuel : ⌈arc.length / parameters.binLength⌉.toNat ≤ fuel) :
    movement.split arc parameters path durationNs fuel movement.startOffset =
      movement.split arc parameters path durationNs ⌈arc.length / parameters.binLength⌉.toNat
        movement.startOffset := by
  induction fuel, hfuel using Nat.le_induction with
  | base => rfl
  | succ fuel hfuel ih =>
    rw [← ih]
    refine @split_succ _ _ _ _ _ hlength hend fuel 0 _ ?_ ?_
    · simpa using hstart
    · have hceil : arc.length / parameters.binLength ≤ (fuel : ℚ) := by
        calc arc.length / parameters.binLength
            ≤ (⌈arc.length / parameters.binLength⌉ : ℚ) := Int.le_ceil _
          _ ≤ ((⌈arc.length / parameters.binLength⌉.toNat : Nat) : ℚ) := by
            exact_mod_cast Int.self_le_toNat _
          _ ≤ (fuel : ℚ) := by exact_mod_cast hfuel
      rw [Nat.zero_add, mul_comm]
      exact (div_le_iff₀ hlength).mp hceil

/-! ## What a piece owes to its path -/

/-- The piece, as another path has it. -/
def Piece.ofPath (path : MatchedPath) (piece : Piece) : Piece :=
  { piece with
    roadMatchId := path.roadMatchId
    sequenceId := path.sequenceId
    sourceGroupId := path.sourceGroupId }

theorem Piece.ofPath_identity {path : MatchedPath} {piece : Piece}
    (hsequence : piece.sequenceId = path.sequenceId) :
    (piece.ofPath path).identity = piece.identity := by
  simp only [identity, ofPath, hsequence]

theorem Movement.split_ofPath (movement : Movement) (arc : Arc) (parameters : Parameters)
    (path other : MatchedPath) (durationNs : Int) (fuel : Nat) (cursor : ℚ) :
    movement.split arc parameters other durationNs fuel cursor =
      (movement.split arc parameters path durationNs fuel cursor).map
        (List.map (Piece.ofPath other)) := by
  induction fuel generalizing cursor with
  | zero => rfl
  | succ fuel ih =>
    rw [split]
    conv_rhs => rw [split]
    by_cases hdone : movement.endOffset ≤ cursor
    · rw [if_pos hdone, if_pos hdone]
      rfl
    rw [if_neg hdone, if_neg hdone]
    cases binCountForArc arc parameters with
    | error failure => rfl
    | ok binCount =>
      simp only [bind, Except.bind]
      split_ifs with hprogress
      · rw [ih]
        cases interpolateTime movement.left.timeNs durationNs (movement.fraction cursor) with
        | error failure => rfl
        | ok pieceStart =>
          simp only []
          cases interpolateTime movement.left.timeNs durationNs (movement.fraction
            (min movement.endOffset
              (binEndOffset arc parameters (binIndexAt parameters binCount cursor)))) with
          | error failure => rfl
          | ok pieceEnd =>
            simp only []
            cases movement.split arc parameters path durationNs fuel
              (min movement.endOffset
                (binEndOffset arc parameters (binIndexAt parameters binCount cursor))) with
            | error failure => rfl
            | ok rest =>
              simp only [Except.map]
              split_ifs with hlasts
              · rfl
              · rfl
      · rfl

theorem pairPieces_ofPath (arcs : List Arc) (parameters : Parameters) (path other : MatchedPath)
    (pair : MatchedPoint × MatchedPoint) :
    pairPieces arcs parameters other pair =
      (pairPieces arcs parameters path pair).map (List.map (Piece.ofPath other)) := by
  rw [pairPieces, pairPieces]
  cases movementOf pair.1 pair.2 with
  | none => rfl
  | some movement =>
    dsimp only
    cases checkedDifference movement.right.timeNs movement.left.timeNs with
    | error failure => rfl
    | ok durationNs => exact movement.split_ofPath _ _ path other _ _ _

/-- The piece is of the path, and lies in the bin of its entry. -/
structure Piece.Of (arcs : List Arc) (parameters : Parameters) (path : MatchedPath)
    (piece : Piece) : Prop where
  roadMatchId : piece.roadMatchId = path.roadMatchId
  sequenceId : piece.sequenceId = path.sequenceId
  sourceGroupId : piece.sourceGroupId = path.sourceGroupId
  located : ∃ binCount, binCountForArc (arcAt arcs piece.arcIndex) parameters = .ok binCount ∧
    piece.binIndex = binIndexAt parameters binCount piece.entryOffset
  ordinal : piece.traversalOrdinal = 0

theorem Movement.split_of {movement : Movement} {arcs : List Arc} {parameters : Parameters}
    {path : MatchedPath} {durationNs : Int} {fuel : Nat} {cursor : ℚ} {pieces : List Piece}
    (h : movement.split (arcAt arcs movement.arcIndex) parameters path durationNs fuel cursor =
      .ok pieces) :
    ∀ piece ∈ pieces, piece.Of arcs parameters path := by
  induction fuel generalizing cursor pieces with
  | zero =>
    cases h
    simp
  | succ fuel ih =>
    rw [split] at h
    split_ifs at h with hdone
    · cases h
      simp
    obtain ⟨binCount, hcount, h⟩ := bind_eq_ok_iff.mp h
    simp only [] at h
    split_ifs at h with hprogress
    obtain ⟨pieceStart, _, h⟩ := bind_eq_ok_iff.mp h
    obtain ⟨pieceEnd, _, h⟩ := bind_eq_ok_iff.mp h
    obtain ⟨rest, hrest, h⟩ := bind_eq_ok_iff.mp h
    split_ifs at h with hlasts
    · cases h
      intro piece hpiece
      cases hpiece with
      | head => exact ⟨rfl, rfl, rfl, ⟨binCount, hcount, rfl⟩, rfl⟩
      | tail _ hpiece => exact ih hrest piece hpiece
    · cases h
      exact ih hrest

theorem pairPieces_of {arcs : List Arc} {parameters : Parameters} {path : MatchedPath}
    {pair : MatchedPoint × MatchedPoint} {pieces : List Piece}
    (h : pairPieces arcs parameters path pair = .ok pieces) :
    ∀ piece ∈ pieces, piece.Of arcs parameters path := by
  rw [pairPieces] at h
  cases hmovement : movementOf pair.1 pair.2 with
  | none =>
    rw [hmovement] at h
    cases h
    simp
  | some movement =>
    rw [hmovement] at h
    obtain ⟨durationNs, _, h⟩ := bind_eq_ok_iff.mp h
    exact Movement.split_of h

theorem pathPieces_of {arcs : List Arc} {parameters : Parameters} {path : MatchedPath}
    {pieces : List Piece} (h : pathPieces arcs parameters path = .ok pieces) :
    ∀ piece ∈ pieces, piece.Of arcs parameters path := by
  obtain ⟨parts, hparts, h⟩ := bind_eq_ok_iff.mp h
  cases h
  intro piece hpiece
  obtain ⟨part, hpart, hpiece⟩ := List.mem_flatten.mp hpiece
  obtain ⟨pair, _, hpair⟩ := mapM_mem hparts hpart
  exact pairPieces_of hpair piece hpiece

/-- The place in the order that an identity decides. -/
def identityKey (arcs : List Arc) (parameters : Parameters) :
    String × Nat × Int × Int × ℚ × ℚ → Piece.SortKey
  | (sequenceId, arcIndex, startTimeNs, endTimeNs, entryOffset, _) =>
      toLex (sequenceId, toLex (arcIndex, toLex (startTimeNs, toLex (endTimeNs,
        toLex (binIndexAt parameters
          ⌈(arcAt arcs arcIndex).length / parameters.binLength⌉.toNat entryOffset, entryOffset)))))

theorem Piece.Of.sortKey_eq {arcs : List Arc} {parameters : Parameters} {path : MatchedPath}
    {piece : Piece} (h : piece.Of arcs parameters path) :
    piece.sortKey = identityKey arcs parameters piece.identity := by
  obtain ⟨binCount, hcount, hbin⟩ := h.located
  obtain ⟨_, rfl⟩ := binCountForArc_eq_ok hcount
  rw [sortKey, hbin]
  rfl

/-! ## Windows -/

theorem mem_consecutive_iff {points : List MatchedPoint} {pair : MatchedPoint × MatchedPoint} :
    pair ∈ consecutive points ↔
      ∃ i : Nat, points[i]? = some pair.1 ∧ points[i + 1]? = some pair.2 := by
  rw [consecutive, List.mem_iff_getElem?]
  apply exists_congr
  intro i
  rw [List.getElem?_zip_eq_some, List.getElem?_tail]

theorem consecutive_subset {window points : List MatchedPoint} (h : window <:+: points) :
    consecutive window ⊆ consecutive points := by
  intro pair hpair
  obtain ⟨i, hleft, hright⟩ := mem_consecutive_iff.mp hpair
  obtain ⟨offset, _, hpoints⟩ := List.infix_iff_getElem?.mp h
  obtain ⟨hi, hleft⟩ := List.getElem?_eq_some_iff.mp hleft
  obtain ⟨hi', hright⟩ := List.getElem?_eq_some_iff.mp hright
  apply mem_consecutive_iff.mpr
  refine ⟨i + offset, ?_, ?_⟩
  · rw [hpoints i hi, hleft]
  · rw [show i + offset + 1 = i + 1 + offset by omega, hpoints (i + 1) hi', hright]

/-- Where the other path can be cut into pieces, so can the path, and it has no piece that
the other has not. -/
def MatchedPath.Within (arcs : List Arc) (parameters : Parameters) (path other : MatchedPath) :
    Prop :=
  ∀ pieces, pathPieces arcs parameters other = .ok pieces →
    ∃ part, pathPieces arcs parameters path = .ok part ∧
      ∀ piece ∈ part, piece.identity ∈ pieces.map Piece.identity

theorem MatchedPath.Within.refl (arcs : List Arc) (parameters : Parameters) (path : MatchedPath) :
    path.Within arcs parameters path := by
  intro pieces hpieces
  exact ⟨pieces, hpieces, fun piece => List.mem_map_of_mem⟩

/-- A window of a path has no piece of its own. -/
theorem MatchedPath.Within.of_isInfix {arcs : List Arc} {parameters : Parameters}
    {window path : MatchedPath} (hsequence : window.sequenceId = path.sequenceId)
    (hpoints : window.points <:+: path.points) : window.Within arcs parameters path := by
  intro pieces hpieces
  obtain ⟨parts, hparts, hpieces⟩ := bind_eq_ok_iff.mp hpieces
  cases hpieces
  have hpair : ∀ pair ∈ consecutive window.points, ∃ part ∈ parts,
      pairPieces arcs parameters path pair = .ok part ∧
        pairPieces arcs parameters window pair = .ok (part.map (Piece.ofPath window)) := by
    intro pair hpair
    obtain ⟨part, hpart, hpieces⟩ :=
      mem_of_mapM_eq_ok hparts (consecutive_subset hpoints hpair)
    refine ⟨part, hpart, hpieces, ?_⟩
    rw [pairPieces_ofPath arcs parameters path window pair, hpieces]
    rfl
  obtain ⟨windowParts, hwindow⟩ := exists_mapM_eq_ok fun pair hmem =>
    (hpair pair hmem).elim fun part h => ⟨_, h.2.2⟩
  refine ⟨windowParts.flatten, ?_, ?_⟩
  · rw [pathPieces, hwindow]
    rfl
  · intro piece hpiece
    obtain ⟨windowPart, hwindowPart, hpiece⟩ := List.mem_flatten.mp hpiece
    obtain ⟨pair, hmem, hpairWindow⟩ := mapM_mem hwindow hwindowPart
    obtain ⟨part, hpart, hpieces, hpairPath⟩ := hpair pair hmem
    rw [hpairWindow, Except.ok.injEq] at hpairPath
    subst hpairPath
    obtain ⟨original, horiginal, rfl⟩ := List.mem_map.mp hpiece
    have hof := pairPieces_of hpieces original horiginal
    rw [Piece.ofPath_identity (by rw [hof.sequenceId, hsequence])]
    exact List.mem_map_of_mem (List.mem_flatten.mpr ⟨part, hpart, horiginal⟩)

/-! ## Distinct pieces -/

/-- The pieces of a path; none where it cannot be cut. -/
def piecesOf (arcs : List Arc) (parameters : Parameters) (path : MatchedPath) : List Piece :=
  match pathPieces arcs parameters path with
  | .ok pieces => pieces
  | .error _ => []

theorem piecesOf_eq {arcs : List Arc} {parameters : Parameters} {path : MatchedPath}
    {pieces : List Piece} (h : pathPieces arcs parameters path = .ok pieces) :
    piecesOf arcs parameters path = pieces := by
  rw [piecesOf, h]

theorem piecesOf_of {arcs : List Arc} {parameters : Parameters} {path : MatchedPath}
    {piece : Piece} (h : piece ∈ piecesOf arcs parameters path) : piece.Of arcs parameters path := by
  rw [piecesOf] at h
  split at h
  · rename_i pieces hpieces
    exact pathPieces_of hpieces piece h
  · simp at h

/-- The identity is that of a piece of a path. -/
abbrev HasPiece (arcs : List Arc) (parameters : Parameters) (path : MatchedPath)
    (identity : String × Nat × Int × Int × ℚ × ℚ) : Prop :=
  identity ∈ (piecesOf arcs parameters path).map Piece.identity

theorem distinctPieces_eq_ok {arcs : List Arc} {parameters : Parameters} {paths : List MatchedPath}
    {pieces : List Piece} (h : distinctPieces arcs parameters paths = .ok pieces) :
    (∀ path ∈ paths, ∃ part, pathPieces arcs parameters path = .ok part) ∧
      (∀ identity, identity ∈ pieces.map Piece.identity ↔
        ∃ path ∈ paths, HasPiece arcs parameters path identity) ∧
      ∀ piece ∈ pieces, ∃ path ∈ paths, piece ∈ piecesOf arcs parameters path := by
  obtain ⟨parts, hparts, h⟩ := bind_eq_ok_iff.mp h
  cases h
  refine ⟨?_, ?_, ?_⟩
  · intro path hpath
    obtain ⟨part, _, hpart⟩ := mem_of_mapM_eq_ok hparts hpath
    exact ⟨part, hpart⟩
  · intro identity
    rw [mem_map_keepFirst, and_iff_left List.not_mem_nil, List.mem_map]
    constructor
    · intro ⟨piece, hpiece, hidentity⟩
      obtain ⟨part, hpart, hpiece⟩ := List.mem_flatten.mp hpiece
      obtain ⟨path, hpath, hpieces⟩ := mapM_mem hparts hpart
      refine ⟨path, hpath, ?_⟩
      rw [HasPiece, piecesOf_eq hpieces, ← hidentity]
      exact List.mem_map_of_mem hpiece
    · intro ⟨path, hpath, hidentity⟩
      obtain ⟨part, hpart, hpieces⟩ := mem_of_mapM_eq_ok hparts hpath
      rw [HasPiece, piecesOf_eq hpieces] at hidentity
      obtain ⟨piece, hpiece, hidentity⟩ := List.mem_map.mp hidentity
      exact ⟨piece, List.mem_flatten.mpr ⟨part, hpart, hpiece⟩, hidentity⟩
  · intro piece hpiece
    obtain ⟨part, hpart, hpiece⟩ :=
      List.mem_flatten.mp ((keepFirst_sublist [] parts.flatten).mem hpiece)
    obtain ⟨path, hpath, hpieces⟩ := mapM_mem hparts hpart
    exact ⟨path, hpath, (piecesOf_eq hpieces).symm ▸ hpiece⟩

/-- Paths within those that can be cut can be cut, into no more pieces. -/
theorem mapM_pathPieces_within {arcs : List Arc} {parameters : Parameters}
    {left right : List MatchedPath}
    (hwithin : ∀ path ∈ left, ∃ other ∈ right, path.Within arcs parameters other)
    {others : List (List Piece)} (hothers : right.mapM (pathPieces arcs parameters) = .ok others) :
    ∃ parts, left.mapM (pathPieces arcs parameters) = .ok parts ∧
      ∀ identity ∈ parts.flatten.map Piece.identity,
        identity ∈ others.flatten.map Piece.identity := by
  have hpart : ∀ path ∈ left, ∃ part, pathPieces arcs parameters path = .ok part ∧
      ∀ piece ∈ part, piece.identity ∈ others.flatten.map Piece.identity := by
    intro path hpath
    obtain ⟨other, hother, hpath⟩ := hwithin path hpath
    obtain ⟨pieces, hmem, hpieces⟩ := mem_of_mapM_eq_ok hothers hother
    obtain ⟨part, hpart, hidentity⟩ := hpath pieces hpieces
    refine ⟨part, hpart, ?_⟩
    intro piece hpiece
    obtain ⟨original, horiginal, heq⟩ := List.mem_map.mp (hidentity piece hpiece)
    exact List.mem_map.mpr ⟨original, List.mem_flatten.mpr ⟨pieces, hmem, horiginal⟩, heq⟩
  obtain ⟨parts, hparts⟩ := exists_mapM_eq_ok fun path hpath =>
    (hpart path hpath).imp fun part h => h.1
  refine ⟨parts, hparts, ?_⟩
  intro identity hidentity
  obtain ⟨piece, hpiece, rfl⟩ := List.mem_map.mp hidentity
  obtain ⟨part, hmem, hpiece⟩ := List.mem_flatten.mp hpiece
  obtain ⟨path, hpath, hpieces⟩ := mapM_mem hparts hmem
  obtain ⟨part', hpart', hidentity⟩ := hpart path hpath
  rw [hpieces, Except.ok.injEq] at hpart'
  subst hpart'
  exact hidentity piece hpiece

/-- Lists of paths, each path of one within a path of the other, have the same distinct
pieces up to their order. -/
theorem distinctPieces_agree {arcs : List Arc} {parameters : Parameters}
    {left right : List MatchedPath}
    (hleft : ∀ path ∈ left, ∃ other ∈ right, path.Within arcs parameters other)
    (hright : ∀ path ∈ right, ∃ other ∈ left, path.Within arcs parameters other) :
    Agree (fun pieces others => (pieces.map Piece.identity).Perm (others.map Piece.identity))
      (distinctPieces arcs parameters left) (distinctPieces arcs parameters right) := by
  rw [distinctPieces, distinctPieces]
  cases hparts : left.mapM (pathPieces arcs parameters) with
  | error failure =>
    cases hothers : right.mapM (pathPieces arcs parameters) with
    | error other => exact Agree.error_error
    | ok others =>
      obtain ⟨parts, hok, _⟩ := mapM_pathPieces_within hleft hothers
      rw [hparts] at hok
      cases hok
  | ok parts =>
    obtain ⟨others, hothers, hright⟩ := mapM_pathPieces_within hright hparts
    obtain ⟨parts', hparts', hleft⟩ := mapM_pathPieces_within hleft hothers
    rw [hparts, Except.ok.injEq] at hparts'
    subst hparts'
    rw [hothers]
    apply keepFirst_perm
    intro identity
    exact ⟨hleft identity, hright identity⟩

/-! ## Numbering -/

@[simp]
theorem Piece.numbered_sortKey (ordinal : Nat) (piece : Piece) :
    (piece.numbered ordinal).sortKey = piece.sortKey := rfl

@[simp]
theorem Piece.numbered_traversalOrdinal (ordinal : Nat) (piece : Piece) :
    (piece.numbered ordinal).traversalOrdinal = ordinal := rfl

@[simp]
theorem Piece.numbered_identity (ordinal : Nat) (piece : Piece) :
    (piece.numbered ordinal).identity = piece.identity := rfl

theorem Piece.sortKey_eq_iff {left right : Piece} :
    left.sortKey = right.sortKey ↔ left.sequenceId = right.sequenceId ∧
      left.arcIndex = right.arcIndex ∧ left.startTimeNs = right.startTimeNs ∧
        left.endTimeNs = right.endTimeNs ∧ left.binIndex = right.binIndex ∧
          left.entryOffset = right.entryOffset := by
  simp only [sortKey, EmbeddingLike.apply_eq_iff_eq, Prod.mk.injEq]

theorem traversalOf_congr {parameters : Parameters} {state : TraversalState} {left right : Piece}
    (hkey : left.sortKey = right.sortKey) :
    traversalOf parameters state left = traversalOf parameters state right := by
  obtain ⟨hsequence, harc, hstart, hend, _, _⟩ := Piece.sortKey_eq_iff.mp hkey
  simp only [traversalOf, hsequence, harc, hstart, hend]

theorem le_traversalOf {parameters : Parameters} {state : TraversalState} {piece : Piece}
    {traversal : Nat × Int} (h : traversalOf parameters state piece = .ok traversal) :
    piece.endTimeNs ≤ traversal.2 := by
  rw [traversalOf] at h
  split at h
  · cases h
    exact le_rfl
  · obtain ⟨ordinal, _, h⟩ := bind_eq_ok_iff.mp h
    cases h
    exact le_max_right _ _

/-- A piece of the key of the last one goes on with its traversal. -/
theorem traversalOf_again {parameters : Parameters} {state : TraversalState}
    {piece again : Piece} {traversal : Nat × Int}
    (h : traversalOf parameters state piece = .ok traversal)
    (hkey : again.sortKey = piece.sortKey) :
    traversalOf parameters (((piece.sequenceId, piece.arcIndex), traversal) :: state) again =
      .ok (traversal.1, max traversal.2 again.endTimeNs) := by
  have hend := le_traversalOf h
  have hlasts := piece.lasts
  rw [traversalOf_congr hkey]
  simp only [traversalOf, List.lookup_cons_self, nextOrdinal]
  rw [if_neg (by omega), (Piece.sortKey_eq_iff.mp hkey).2.2.2.1]
  rfl

/-- Among sorted pieces, a later piece of the key of the first gets its number. -/
theorem number_again {parameters : Parameters} {state : TraversalState} {piece next : Piece}
    {rest : List Piece} {traversal : Nat × Int} {number : Piece.SortKey → Nat}
    (htraversal : traversalOf parameters state piece = .ok traversal)
    (hsorted : (piece :: rest).Pairwise fun left right => left.sortKey ≤ right.sortKey)
    (hnumber : numberTraversals parameters
      (((piece.sequenceId, piece.arcIndex), traversal) :: state) rest =
        .ok (rest.map fun other => other.numbered (number other.sortKey)))
    (hnext : next ∈ rest) (hkey : next.sortKey = piece.sortKey) :
    number piece.sortKey = traversal.1 := by
  obtain ⟨hhead, hrest⟩ := List.pairwise_cons.mp hsorted
  cases rest with
  | nil => simp at hnext
  | cons second later =>
    have hsecond : second.sortKey = piece.sortKey := by
      apply le_antisymm _ (hhead second List.mem_cons_self)
      rw [← hkey]
      cases hnext with
      | head => exact le_rfl
      | tail _ hnext => exact (List.pairwise_cons.mp hrest).1 next hnext
    rw [numberTraversals, traversalOf_again htraversal hsecond] at hnumber
    obtain ⟨_, hagain, hnumber⟩ := bind_eq_ok_iff.mp hnumber
    obtain rfl := Except.ok.inj hagain
    obtain ⟨_, _, hnumber⟩ := bind_eq_ok_iff.mp hnumber
    injection hnumber with hnumber
    injection hnumber with hfirst _
    have hordinal := congrArg Piece.traversalOrdinal hfirst
    rw [← hsecond]
    exact hordinal.symm

/-- The number of a sorted piece is decided by the keys alone, and pieces of one key get
one number. -/
theorem numberTraversals_eq_map (parameters : Parameters) (state : TraversalState)
    (pieces : List Piece)
    (hsorted : pieces.Pairwise fun left right => left.sortKey ≤ right.sortKey) :
    ∃ numbers : Except InvalidArgument (Piece.SortKey → Nat), ∀ others : List Piece,
      others.map Piece.sortKey = pieces.map Piece.sortKey →
        numberTraversals parameters state others =
          numbers.map fun number => others.map fun other => other.numbered (number other.sortKey) := by
  induction pieces generalizing state with
  | nil =>
    refine ⟨.ok fun _ => 0, ?_⟩
    intro others hkeys
    obtain rfl := List.map_eq_nil_iff.mp hkeys
    rfl
  | cons piece rest ih =>
    obtain ⟨hhead, hrest⟩ := List.pairwise_cons.mp hsorted
    cases htraversal : traversalOf parameters state piece with
    | error failure =>
      refine ⟨.error failure, ?_⟩
      intro others hkeys
      obtain ⟨other, later, rfl, hother, _⟩ := List.map_eq_cons_iff.mp hkeys
      rw [numberTraversals, traversalOf_congr hother, htraversal]
      rfl
    | ok traversal =>
      obtain ⟨numbers, hnumbers⟩ :=
        ih (((piece.sequenceId, piece.arcIndex), traversal) :: state) hrest
      refine ⟨numbers.map fun number => Function.update number piece.sortKey traversal.1, ?_⟩
      intro others hkeys
      obtain ⟨other, later, rfl, hother, hlater⟩ := List.map_eq_cons_iff.mp hkeys
      obtain ⟨hsequence, harc, _⟩ := Piece.sortKey_eq_iff.mp hother
      rw [numberTraversals, traversalOf_congr hother, htraversal, hsequence, harc]
      cases numbers with
      | error failure =>
        simp only [bind, Except.bind, hnumbers later hlater]
        rfl
      | ok number =>
        -- A later piece of this key was numbered as this one is.
        have hsame : ∀ next ∈ later, next.numbered (number next.sortKey) =
            next.numbered (Function.update number piece.sortKey traversal.1 next.sortKey) := by
          intro next hnext
          by_cases hkey : next.sortKey = piece.sortKey
          · have hmem : piece.sortKey ∈ rest.map Piece.sortKey := by
              rw [← hlater, ← hkey]
              exact List.mem_map_of_mem hnext
            obtain ⟨again, hagain, hagainKey⟩ := List.mem_map.mp hmem
            rw [hkey, Function.update_self,
              number_again htraversal hsorted (hnumbers rest rfl) hagain hagainKey]
          · rw [Function.update_of_ne hkey]
        simp only [bind, Except.bind, hnumbers later hlater, Except.map, List.map_cons, hother,
          Function.update_self, List.map_congr_left hsame]

/-! ## Lists of pieces -/

/-- One place in the order, and one traversal. -/
def Piece.SameKey (piece other : Piece) : Prop :=
  piece.sortKey = other.sortKey ∧ piece.traversalOrdinal = other.traversalOrdinal

/-- The pieces are the same up to the copies kept and the order of equal keys. -/
structure SamePieces (pieces others : List Piece) : Prop where
  keys : List.Forall₂ Piece.SameKey pieces others
  perm : (pieces.map fun piece => (piece.identity, piece.sortKey, piece.traversalOrdinal)).Perm
    (others.map fun other => (other.identity, other.sortKey, other.traversalOrdinal))

theorem numberTraversals_agree {arcs : List Arc} {parameters : Parameters}
    {pieces others : List Piece}
    (hpieces : ∀ piece ∈ pieces, piece.sortKey = identityKey arcs parameters piece.identity)
    (hothers : ∀ other ∈ others, other.sortKey = identityKey arcs parameters other.identity)
    (hsorted : pieces.Pairwise fun left right => left.sortKey ≤ right.sortKey)
    (hkeys : others.map Piece.sortKey = pieces.map Piece.sortKey)
    (hperm : (pieces.map Piece.identity).Perm (others.map Piece.identity)) :
    Agree SamePieces (numberTraversals parameters [] pieces)
      (numberTraversals parameters [] others) := by
  obtain ⟨numbers, hnumbers⟩ := numberTraversals_eq_map parameters [] pieces hsorted
  rw [hnumbers pieces rfl, hnumbers others hkeys]
  cases numbers with
  | error failure => exact Agree.error_error
  | ok number =>
    have hplaces {list : List Piece}
        (hlist : ∀ piece ∈ list, piece.sortKey = identityKey arcs parameters piece.identity) :
        ((list.map fun piece => piece.numbered (number piece.sortKey)).map fun piece =>
          (piece.identity, piece.sortKey, piece.traversalOrdinal)) =
          (list.map Piece.identity).map fun identity => (identity,
            identityKey arcs parameters identity,
            number (identityKey arcs parameters identity)) := by
      rw [List.map_map, List.map_map]
      apply List.map_congr_left
      intro piece hpiece
      simp only [Function.comp_apply, Piece.numbered_identity, Piece.numbered_sortKey,
        Piece.numbered_traversalOrdinal, hlist piece hpiece]
    constructor
    · rw [List.forall₂_map_left_iff, List.forall₂_map_right_iff]
      apply (forall₂_of_map_eq hkeys.symm).imp
      intro piece other hkey
      exact ⟨hkey, congrArg number hkey⟩
    · rw [hplaces hpieces, hplaces hothers]
      exact hperm.map _

/-- Lists of paths, each path of one within a path of the other, have the same pieces. -/
theorem makePieces_agree (order : PieceSort) {arcs : List Arc} {parameters : Parameters}
    {left right : List MatchedPath}
    (hleft : ∀ path ∈ left, ∃ other ∈ right, path.Within arcs parameters other)
    (hright : ∀ path ∈ right, ∃ other ∈ left, path.Within arcs parameters other) :
    Agree SamePieces (makePieces order arcs left parameters)
      (makePieces order arcs right parameters) := by
  apply (distinctPieces_agree hleft hright).bind
  intro pieces others hpieces hothers hperm
  have hkey {paths : List MatchedPath} {list : List Piece}
      (hlist : distinctPieces arcs parameters paths = .ok list) :
      ∀ piece ∈ list, piece.sortKey = identityKey arcs parameters piece.identity := by
    intro piece hpiece
    obtain ⟨path, _, hmem⟩ := (distinctPieces_eq_ok hlist).2.2 piece hpiece
    exact (piecesOf_of hmem).sortKey_eq
  have hsortPieces := order.perm pieces
  have hsortOthers := order.perm others
  have hsorted : ((order.sort pieces).map Piece.identity).Perm
      ((order.sort others).map Piece.identity) :=
    ((hsortPieces.map _).trans hperm).trans (hsortOthers.map _).symm
  apply numberTraversals_agree
  · intro piece hpiece
    exact hkey hpieces piece (hsortPieces.mem_iff.mp hpiece)
  · intro other hother
    exact hkey hothers other (hsortOthers.mem_iff.mp hother)
  · exact order.sorted pieces
  · apply map_eq_of_perm_of_sorted _ (order.sorted others) (order.sorted pieces)
    have hmap {paths : List MatchedPath} {list : List Piece}
        (hlist : distinctPieces arcs parameters paths = .ok list) :
        (order.sort list).map Piece.sortKey =
          ((order.sort list).map Piece.identity).map (identityKey arcs parameters) := by
      rw [List.map_map]
      apply List.map_congr_left
      intro piece hpiece
      exact hkey hlist piece ((order.perm list).mem_iff.mp hpiece)
    rw [hmap hothers, hmap hpieces]
    exact (hsorted.map _).symm
  · exact hsorted

/-- The pieces are those of the paths, sorted and numbered. -/
structure MadeOf (arcs : List Arc) (parameters : Parameters) (paths : List MatchedPath)
    (pieces : List Piece) : Prop where
  identity : ∀ identity, identity ∈ pieces.map Piece.identity ↔
    ∃ path ∈ paths, HasPiece arcs parameters path identity
  origin : ∀ piece ∈ pieces, ∃ path ∈ paths, ∃ original ∈ piecesOf arcs parameters path,
    piece = original.numbered piece.traversalOrdinal
  sorted : pieces.Pairwise fun left right => left.sortKey ≤ right.sortKey

theorem makePieces_madeOf {order : PieceSort} {arcs : List Arc} {parameters : Parameters}
    {paths : List MatchedPath} {pieces : List Piece}
    (h : makePieces order arcs paths parameters = .ok pieces) :
    MadeOf arcs parameters paths pieces := by
  obtain ⟨distinct, hdistinct, h⟩ := bind_eq_ok_iff.mp h
  obtain ⟨_, hidentity, horigin⟩ := distinctPieces_eq_ok hdistinct
  have hsorted := order.sorted distinct
  have hperm := order.perm distinct
  obtain ⟨numbers, hnumbers⟩ := numberTraversals_eq_map parameters [] (order.sort distinct) hsorted
  rw [hnumbers _ rfl] at h
  cases numbers with
  | error failure => cases h
  | ok number =>
    cases h
    refine ⟨?_, ?_, ?_⟩
    · intro identity
      rw [← hidentity, ← (hperm.map Piece.identity).mem_iff, List.map_map]
      rfl
    · intro piece hpiece
      obtain ⟨original, horiginal, rfl⟩ := List.mem_map.mp hpiece
      obtain ⟨path, hpath, hmem⟩ := horigin original (hperm.mem_iff.mp horiginal)
      exact ⟨path, hpath, original, hmem, rfl⟩
    · rw [List.pairwise_map]
      exact hsorted

end CartoSentry.RoadBins
