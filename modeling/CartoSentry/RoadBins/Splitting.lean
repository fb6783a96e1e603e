import CartoSentry.Foundation.Spans
import CartoSentry.RoadBins.PieceFacts
import CartoSentry.RoadBins.Rounded
import CartoSentry.RoadBins.Windows

set_option autoImplicit false

/-!
# Road bins: conservation of a movement

The loop of `make_pieces` over a movement, with all the segments that it goes through: the
pieces are those that last. On validated input the segments tile the movement, in offsets
and in times.
-/

namespace CartoSentry.RoadBins

open Foundation
open Matching (InvalidArgument)

/-! ## Segments -/

/-- One turn of the loop, whether or not it makes a piece. -/
structure Segment where
  binIndex : Nat
  entryOffset : ℚ
  exitOffset : ℚ
  startTimeNs : Int
  endTimeNs : Int
  advances : entryOffset < exitOffset

namespace Segment

def lasts (segment : Segment) : Bool :=
  segment.startTimeNs < segment.endTimeNs

def length (segment : Segment) : ℚ :=
  segment.exitOffset - segment.entryOffset

def durationNs (segment : Segment) : Int :=
  segment.endTimeNs - segment.startTimeNs

def offsets (segment : Segment) : ℚ × ℚ :=
  (segment.entryOffset, segment.exitOffset)

def times (segment : Segment) : Int × Int :=
  (segment.startTimeNs, segment.endTimeNs)

end Segment

namespace Movement

variable (movement : Movement) (arc : Arc) (parameters : Parameters) (path : MatchedPath)
  (durationNs : Int)

/-- The turns of the loop from an offset on. -/
def segments : Nat → ℚ → Except InvalidArgument (List Segment)
  | 0, _ => .ok []
  | fuel + 1, cursor =>
      if movement.endOffset ≤ cursor then .ok []
      else do
        let binCount ← binCountForArc arc parameters
        let binIndex := binIndexAt parameters binCount cursor
        let exit := min movement.endOffset (binEndOffset arc parameters binIndex)
        if hprogress : cursor < exit then do
          let startTimeNs ←
            interpolateTime movement.left.timeNs durationNs (movement.fraction cursor)
          let endTimeNs ← interpolateTime movement.left.timeNs durationNs (movement.fraction exit)
          let rest ← segments fuel exit
          .ok (⟨binIndex, cursor, exit, startTimeNs, endTimeNs, hprogress⟩ :: rest)
        else .error ⟨"road-bin splitter made no progress"⟩

/-- The piece of a segment that lasts. -/
def pieceOf (segment : Segment) : Option Piece :=
  if hlasts : segment.startTimeNs < segment.endTimeNs then
    some
      { arcIndex := movement.arcIndex
        binIndex := segment.binIndex
        roadMatchId := path.roadMatchId
        sequenceId := path.sequenceId
        sourceGroupId := path.sourceGroupId
        startTimeNs := segment.startTimeNs
        endTimeNs := segment.endTimeNs
        entryOffset := segment.entryOffset
        exitOffset := segment.exitOffset
        startSpeed := movement.speedAt segment.entryOffset
        endSpeed := movement.speedAt segment.exitOffset
        yawExcitation := movement.yawBetween segment.entryOffset segment.exitOffset
        traversalOrdinal := 0
        lasts := hlasts
        advances := segment.advances }
  else none

/-- The loop makes the pieces of its segments, and fails where they do. -/
theorem split_eq_segments (fuel : Nat) (cursor : ℚ) :
    movement.split arc parameters path durationNs fuel cursor =
      (movement.segments arc parameters durationNs fuel cursor).map fun segments =>
        segments.filterMap (movement.pieceOf path) := by
  induction fuel generalizing cursor with
  | zero => rfl
  | succ fuel ih =>
    rw [split, segments]
    by_cases hdone : movement.endOffset ≤ cursor
    · rw [if_pos hdone, if_pos hdone]
      rfl
    rw [if_neg hdone, if_neg hdone]
    cases hcount : binCountForArc arc parameters with
    | error failure => rfl
    | ok binCount =>
      rw [ok_bind, ok_bind]
      dsimp only
      by_cases hprogress : cursor < min movement.endOffset
          (binEndOffset arc parameters (binIndexAt parameters binCount cursor))
      · rw [dif_pos hprogress, dif_pos hprogress]
        cases interpolateTime movement.left.timeNs durationNs (movement.fraction cursor) with
        | error failure => rfl
        | ok startTimeNs =>
          rw [ok_bind, ok_bind]
          cases interpolateTime movement.left.timeNs durationNs (movement.fraction
            (min movement.endOffset
              (binEndOffset arc parameters (binIndexAt parameters binCount cursor)))) with
          | error failure => rfl
          | ok endTimeNs =>
            rw [ok_bind, ok_bind, ih]
            cases movement.segments arc parameters durationNs fuel (min movement.endOffset
              (binEndOffset arc parameters (binIndexAt parameters binCount cursor))) with
            | error failure => rfl
            | ok rest =>
              change _ = Except.ok (List.filterMap (movement.pieceOf path) (_ :: rest))
              rw [List.filterMap_cons]
              unfold pieceOf
              dsimp only
              by_cases hlasts : startTimeNs < endTimeNs
              · rw [dif_pos hlasts]
                change dite _ _ _ = _
                rw [dif_pos hlasts]
              · rw [dif_neg hlasts]
                change dite _ _ _ = _
                rw [dif_neg hlasts]
      · rw [dif_neg hprogress, dif_neg hprogress]
        rfl

/-- The time at which the movement is interpolated to reach an offset. -/
def timeAt (offset : ℚ) : Int :=
  movement.left.timeNs + roundAway (durationNs * movement.fraction offset)

/-- What is known of a movement when its loop starts. -/
structure Splittable : Prop where
  binLength : 0 < parameters.binLength
  counted : ∃ binCount, binCountForArc arc parameters = .ok binCount
  start : 0 ≤ movement.startOffset
  finish : movement.endOffset ≤ arc.length
  forward : movement.left.timeNs < movement.right.timeNs
  leftTime : ¬ overflows movement.left.timeNs
  rightTime : ¬ overflows movement.right.timeNs
  duration : durationNs = movement.right.timeNs - movement.left.timeNs

/-- The segments lie in single bins and tile what the movement does from an offset on. -/
structure Covered (cursor : ℚ) (segments : List Segment) : Prop where
  offsets : Tiles cursor movement.endOffset (segments.map Segment.offsets)
  times : Tiles (movement.timeAt durationNs cursor) (movement.timeAt durationNs movement.endOffset)
    (segments.map Segment.times)
  inBin : ∀ segment ∈ segments, parameters.binLength * segment.binIndex ≤ segment.entryOffset ∧
    segment.exitOffset ≤ binEndOffset arc parameters segment.binIndex
  ordered : ∀ segment ∈ segments, segment.startTimeNs ≤ segment.endTimeNs

variable {movement arc parameters durationNs}

/-! ## Times on the way -/

theorem timeAt_startOffset : movement.timeAt durationNs movement.startOffset =
    movement.left.timeNs := by
  have hzero : roundAway (0 : ℚ) = 0 := by exact_mod_cast roundAway_intCast 0
  rw [timeAt, fraction, sub_self, zero_div, mul_zero, hzero, add_zero]

theorem timeAt_endOffset (h : durationNs = movement.right.timeNs - movement.left.timeNs) :
    movement.timeAt durationNs movement.endOffset = movement.right.timeNs := by
  have hwhole : movement.fraction movement.endOffset = 1 := by
    rw [fraction, totalDistance, div_self (sub_pos.mpr movement.advances).ne']
  rw [timeAt, hwhole, mul_one, roundAway_intCast, h, add_sub_cancel]

theorem Splittable.duration_nonneg (h : Splittable movement arc parameters durationNs) :
    0 ≤ durationNs := by
  rw [h.duration]
  exact (sub_pos.mpr h.forward).le

theorem timeAt_mono (movement : Movement) (h : 0 ≤ durationNs) {offset later : ℚ}
    (hle : offset ≤ later) :
    movement.timeAt durationNs offset ≤ movement.timeAt durationNs later := by
  have hduration : (0 : ℚ) ≤ durationNs := by exact_mod_cast h
  have hfraction : movement.fraction offset ≤ movement.fraction later := by
    unfold fraction
    exact div_le_div_of_nonneg_right (sub_le_sub_right hle _) movement.totalDistance_pos.le
  exact Int.add_le_add_left (roundAway_mono (mul_le_mul_of_nonneg_left hfraction hduration)) _

/-- No time on the way leaves 64 bits. -/
theorem interpolateTime_eq (h : Splittable movement arc parameters durationNs) {offset : ℚ}
    (hstart : movement.startOffset ≤ offset) (hend : offset ≤ movement.endOffset) :
    interpolateTime movement.left.timeNs durationNs (movement.fraction offset) =
      .ok (movement.timeAt durationNs offset) := by
  have hlow := movement.timeAt_mono h.duration_nonneg hstart
  have hhigh := movement.timeAt_mono h.duration_nonneg hend
  have hleft := h.leftTime
  have hright := h.rightTime
  rw [timeAt_startOffset] at hlow
  rw [timeAt_endOffset h.duration] at hhigh
  apply if_neg
  change ¬ overflows (movement.timeAt durationNs offset)
  unfold overflows at hleft hright ⊢
  omega

/-! ## The loop -/

/-- From inside its bin the cursor goes to the end of the bin or of the movement. -/
theorem exit_cases (h : Splittable movement arc parameters durationNs) {binCount : Nat}
    (hcount : binCountForArc arc parameters = .ok binCount) {cursor : ℚ}
    (hstart : movement.startOffset ≤ cursor) (hcursor : cursor < movement.endOffset) :
    let binIndex := ⌊cursor / parameters.binLength⌋.toNat
    let exit := min movement.endOffset (binEndOffset arc parameters binIndex)
    binIndexAt parameters binCount cursor = binIndex ∧
      parameters.binLength * binIndex ≤ cursor ∧ cursor < exit ∧
        exit ≤ movement.endOffset ∧
          (exit = movement.endOffset ∨ exit = parameters.binLength * (binIndex + 1)) := by
  have hnonneg : 0 ≤ cursor := h.start.trans hstart
  have hbefore := lt_mul_floor_succ h.binLength cursor
  refine ⟨binIndexAt_eq h.binLength hcount (hcursor.trans_le h.finish),
    mul_floor_le h.binLength hnonneg, ?_, min_le_left _ _, ?_⟩
  · exact lt_min hcursor (lt_min (hcursor.trans_le h.finish) hbefore)
  · rw [binEndOffset, ← min_assoc, min_eq_left h.finish]
    exact min_choice _ _

theorem segments_of_done {fuel : Nat} {cursor : ℚ} (h : movement.endOffset ≤ cursor) :
    movement.segments arc parameters durationNs fuel cursor = .ok [] := by
  cases fuel with
  | zero => rfl
  | succ fuel => exact if_pos h

theorem covered_nil {cursor : ℚ} (h : cursor = movement.endOffset) :
    Covered movement arc parameters durationNs cursor [] :=
  ⟨h, congrArg _ h, fun _ hsegment => (nomatch hsegment), fun _ hsegment => nomatch hsegment⟩

theorem floor_lt_binCount (h : Splittable movement arc parameters durationNs) {binCount : Nat}
    (hcount : binCountForArc arc parameters = .ok binCount) {cursor : ℚ}
    (hcursor : cursor < movement.endOffset) :
    ⌊cursor / parameters.binLength⌋.toNat < binCount := by
  have hindex := binIndexAt_eq h.binLength hcount (hcursor.trans_le h.finish)
  obtain ⟨hpositive, rfl⟩ := binCountForArc_eq_ok hcount
  have hceil : 0 < ⌈arc.length / parameters.binLength⌉ := Int.ceil_pos.mpr hpositive
  rw [binIndexAt] at hindex
  omega

theorem floor_bin_start (h : 0 < parameters.binLength) (binIndex : Nat) :
    ⌊parameters.binLength * (binIndex + 1 : ℚ) / parameters.binLength⌋.toNat = binIndex + 1 := by
  have hcast : (binIndex + 1 : ℚ) = ((binIndex + 1 : Nat) : ℚ) := by push_cast; rfl
  rw [mul_div_cancel_left₀ _ h.ne', hcast, Int.floor_natCast, Int.toNat_natCast]

/-- As long as there is fuel for the bins that are left, the loop reaches the end of the
movement and uses no more of it. -/
theorem segments_covered (h : Splittable movement arc parameters durationNs) {binCount : Nat}
    (hcount : binCountForArc arc parameters = .ok binCount) {fuel : Nat} {cursor : ℚ}
    (hstart : movement.startOffset ≤ cursor) (hcursor : cursor ≤ movement.endOffset)
    (hfuel : binCount ≤ ⌊cursor / parameters.binLength⌋.toNat + fuel) :
    ∃ segments, (∀ more, fuel ≤ more →
        movement.segments arc parameters durationNs more cursor = .ok segments) ∧
      Covered movement arc parameters durationNs cursor segments := by
  induction fuel generalizing cursor with
  | zero =>
    have hdone : cursor = movement.endOffset := by
      apply hcursor.antisymm
      by_contra hbefore
      have hlt := floor_lt_binCount h hcount (not_le.mp hbefore)
      omega
    exact ⟨[], fun _ _ => segments_of_done hdone.ge, covered_nil hdone⟩
  | succ fuel ih =>
    rcases hcursor.eq_or_lt with hdone | hbefore
    · exact ⟨[], fun _ _ => segments_of_done hdone.ge, covered_nil hdone⟩
    obtain ⟨hindex, hbin, hprogress, hexit, hstop⟩ := exit_cases h hcount hstart hbefore
    generalize hexitOffset : min movement.endOffset
      (binEndOffset arc parameters ⌊cursor / parameters.binLength⌋.toNat) = exit at *
    -- The turn ends with the movement, or in the next bin, for which there is fuel.
    obtain ⟨rest, hrest, hcovered⟩ : ∃ rest, (∀ more, fuel ≤ more →
        movement.segments arc parameters durationNs more exit = .ok rest) ∧
          Covered movement arc parameters durationNs exit rest := by
      rcases hstop with hlast | hnext
      · exact ⟨[], fun _ _ => segments_of_done hlast.ge, covered_nil hlast⟩
      · apply ih (hstart.trans hprogress.le) hexit
        rw [hnext, floor_bin_start h.binLength]
        omega
    refine ⟨⟨⌊cursor / parameters.binLength⌋.toNat, cursor, exit,
      movement.timeAt durationNs cursor, movement.timeAt durationNs exit, hprogress⟩ :: rest, ?_, ?_⟩
    · intro more hmore
      obtain ⟨more, rfl⟩ : ∃ less, more = less + 1 := ⟨more - 1, by omega⟩
      rw [segments, if_neg (not_le.mpr hbefore), hcount, ok_bind]
      dsimp only
      simp only [hindex, hexitOffset]
      rw [dif_pos hprogress, interpolateTime_eq h hstart hcursor, ok_bind,
        interpolateTime_eq h (hstart.trans hprogress.le) hexit, ok_bind, hrest more (by omega)]
      rfl
    · refine ⟨⟨rfl, hcovered.offsets⟩, ⟨rfl, hcovered.times⟩, ?_, ?_⟩
      · exact List.forall_mem_cons.mpr
          ⟨⟨hbin, hexitOffset ▸ min_le_right _ _⟩, hcovered.inBin⟩
      · exact List.forall_mem_cons.mpr ⟨movement.timeAt_mono h.duration_nonneg hprogress.le,
          hcovered.ordered⟩

/-! ## Sums -/

/-- What is read off the pieces is read off the segments that last. -/
theorem map_pieces {B : Type} {path : MatchedPath} (f : Segment → B) (g : Piece → B)
    (h : ∀ segment piece, movement.pieceOf path segment = some piece → g piece = f segment)
    (segments : List Segment) :
    (segments.filterMap (movement.pieceOf path)).map g = (segments.filter Segment.lasts).map f := by
  induction segments with
  | nil => rfl
  | cons segment rest ih =>
    by_cases hlasts : segment.startTimeNs < segment.endTimeNs
    · obtain ⟨piece, hpiece⟩ : ∃ piece, movement.pieceOf path segment = some piece :=
        ⟨_, dif_pos hlasts⟩
      have hkept : segment.lasts = true := decide_eq_true hlasts
      rw [List.filterMap_cons_some hpiece, List.filter_cons_of_pos hkept, List.map_cons,
        List.map_cons, ih, h segment piece hpiece]
    · have hnone : movement.pieceOf path segment = none := dif_neg hlasts
      have hdropped : ¬ segment.lasts = true := by
        rw [Segment.lasts, decide_eq_true_eq]
        exact hlasts
      rw [List.filterMap_cons_none hnone, List.filter_cons_of_neg hdropped, ih]

theorem pieceOf_eq_some {path : MatchedPath} {segment : Segment} {piece : Piece}
    (h : movement.pieceOf path segment = some piece) :
    piece.endTimeNs - piece.startTimeNs = segment.durationNs ∧ piece.distance = segment.length := by
  unfold pieceOf at h
  split_ifs at h
  cases h
  exact ⟨rfl, rfl⟩

/-- The pieces last as long as the movement. -/
theorem sum_durations (h : Splittable movement arc parameters durationNs) {path : MatchedPath}
    {segments : List Segment}
    (hcovered : Covered movement arc parameters durationNs movement.startOffset segments) :
    ((segments.filterMap (movement.pieceOf path)).map fun piece =>
      piece.endTimeNs - piece.startTimeNs).sum =
        movement.right.timeNs - movement.left.timeNs := by
  have hnone : ((segments.filter fun segment => !segment.lasts).map Segment.durationNs).sum = 0 := by
    apply List.sum_eq_zero
    intro duration hduration
    obtain ⟨segment, hsegment, rfl⟩ := List.mem_map.mp hduration
    obtain ⟨hmem, hstill⟩ := List.mem_filter.mp hsegment
    have hordered := hcovered.ordered segment hmem
    rw [Segment.lasts, Bool.not_eq_true', decide_eq_false_iff_not] at hstill
    unfold Segment.durationNs
    omega
  have hsum := hcovered.times.sum_lengths
  rw [timeAt_startOffset, timeAt_endOffset h.duration, List.map_map] at hsum
  have hparts := sum_filter_add_sum_filter_not Segment.lasts Segment.durationNs segments
  rw [hnone, add_zero] at hparts
  rw [map_pieces Segment.durationNs _ fun _ _ hpiece => (pieceOf_eq_some hpiece).1, hparts]
  exact hsum

/-- The pieces advance as far as the movement, but for the segments that take no time. -/
theorem sum_distances {path : MatchedPath} {segments : List Segment}
    (hcovered : Covered movement arc parameters durationNs movement.startOffset segments) :
    ((segments.filterMap (movement.pieceOf path)).map Piece.distance).sum =
      movement.endOffset - movement.startOffset -
        ((segments.filter fun segment => segment.startTimeNs = segment.endTimeNs).map
          Segment.length).sum := by
  have hstill : (segments.filter fun segment => !segment.lasts) =
      segments.filter fun segment => segment.startTimeNs = segment.endTimeNs := by
    apply List.filter_congr
    intro segment hmem
    have hordered := hcovered.ordered segment hmem
    rw [Segment.lasts, Bool.eq_iff_iff, Bool.not_eq_true', decide_eq_false_iff_not,
      decide_eq_true_eq]
    omega
  have hsum := hcovered.offsets.sum_lengths
  rw [List.map_map] at hsum
  have hparts := sum_filter_add_sum_filter_not Segment.lasts Segment.length segments
  rw [hstill] at hparts
  rw [map_pieces Segment.length _ fun _ _ hpiece => (pieceOf_eq_some hpiece).2]
  rw [eq_sub_iff_add_eq, hparts]
  exact hsum

/-- The pieces enter their bins at increasing offsets, so that no two are the same. -/
theorem nodup_identities {path : MatchedPath} {segments : List Segment} {cursor : ℚ}
    (hcovered : Covered movement arc parameters durationNs cursor segments) :
    ((segments.filterMap (movement.pieceOf path)).map Piece.identity).Nodup := by
  have hforward : ∀ span ∈ segments.map Segment.offsets, span.1 ≤ span.2 := by
    intro span hspan
    obtain ⟨segment, -, rfl⟩ := List.mem_map.mp hspan
    exact segment.advances.le
  have hpairwise := (hcovered.offsets.pairwise hforward).2
  rw [List.pairwise_map] at hpairwise
  rw [List.Nodup, List.pairwise_map, List.pairwise_filterMap]
  apply hpairwise.imp
  intro left right hapart piece hpiece other hother hsame
  have hentry : piece.entryOffset = other.entryOffset := by
    unfold Piece.identity at hsame
    simp only [Prod.mk.injEq] at hsame
    exact hsame.2.2.2.2.1
  unfold pieceOf at hpiece hother
  split_ifs at hpiece hother
  cases hpiece
  cases hother
  dsimp only [Segment.offsets] at hentry hapart
  rw [← hentry] at hapart
  exact absurd hapart (not_le.mpr left.advances)

end Movement

/-! ## Pairs of points -/

/-- Validated points are in the order of their times. -/
theorem validatePoints_forward {arcs : List Arc} {previousTimeNs : Option Int}
    {points : List MatchedPoint} (h : validatePoints arcs previousTimeNs points = .ok ()) :
    ∀ pair ∈ consecutive points, pair.1.timeNs < pair.2.timeNs := by
  induction points generalizing previousTimeNs with
  | nil =>
    intro pair hpair
    cases hpair
  | cons point rest ih =>
    simp only [validatePoints, bind_unit_eq_ok_iff] at h
    obtain ⟨_, _, _, hrest⟩ := h
    have hlater := ih hrest
    cases rest with
    | nil =>
      intro pair hpair
      cases hpair
    | cons second rest =>
      simp only [validatePoints, bind_unit_eq_ok_iff, Matching.throwIf_eq_ok_iff] at hrest
      have hforward := hrest.2.1
      push Not at hforward
      exact List.forall_mem_cons.mpr ⟨hforward _ rfl, hlater⟩

section Pair

variable {arcs : List Arc} {paths : List MatchedPath} {evidence : List ModalityEvidence}
  {findings : List FindingInterval} {parameters : Parameters} {path : MatchedPath}
  {pair : MatchedPoint × MatchedPoint} {movement : Movement} {durationNs : Int}

/-- Validated movements can be split. -/
theorem splittable_of_validateInputs
    (hvalid : validateInputs arcs paths evidence findings parameters = .ok ())
    (hpath : path ∈ paths) (hpair : pair ∈ consecutive path.points)
    (hmovement : movementOf pair.1 pair.2 = some movement)
    (htimes : ∀ point ∈ path.points, ¬ overflows point.timeNs)
    (hduration : checkedDifference movement.right.timeNs movement.left.timeNs = .ok durationNs) :
    movement.Splittable (arcAt arcs movement.arcIndex) parameters durationNs := by
  have haccepted := (acceptedPaths_of_validateInputs hvalid).each path hpath
  obtain ⟨hleftMem, hrightMem⟩ := mem_of_mem_consecutive hpair
  have hleft := validatePoints_accepted haccepted.points pair.1 hleftMem
  have hright := validatePoints_accepted haccepted.points pair.2 hrightMem
  obtain ⟨hl, hr, hleftArc, hrightArc, hstart, hend⟩ := movementOf_eq_some hmovement
  obtain ⟨hindex, hoffset, _⟩ := hleft.offset_bounds hleftArc hstart
  obtain ⟨_, _, hwithin⟩ := hright.offset_bounds hrightArc hend
  have harc : arcAt arcs movement.arcIndex ∈ arcs := by
    rw [arcAt, List.getD_eq_getElem?_getD, List.getElem?_eq_getElem hindex, Option.getD_some]
    exact List.getElem_mem hindex
  exact {
    binLength := binLength_pos_of_validateInputs hvalid
    counted := counted_of_validateInputs hvalid _ harc
    start := hoffset
    finish := hwithin
    forward := by
      rw [hl, hr]
      exact validatePoints_forward haccepted.points pair hpair
    leftTime := hl ▸ htimes pair.1 hleftMem
    rightTime := hr ▸ htimes pair.2 hrightMem
    duration := checkedInt64_eq_ok hduration }

/-- The pieces of a pair of points are among those of their path. -/
theorem mem_piecesOf {pieces part : List Piece} (hpieces : pathPieces arcs parameters path = .ok pieces)
    (hpair : pair ∈ consecutive path.points) (hpart : pairPieces arcs parameters path pair = .ok part)
    {piece : Piece} (hpiece : piece ∈ part) : piece ∈ piecesOf arcs parameters path := by
  rw [piecesOf_eq hpieces]
  obtain ⟨parts, hparts, hflatten⟩ := bind_eq_ok_iff.mp hpieces
  cases hflatten
  obtain ⟨other, hother, hmem⟩ := mem_of_mapM_eq_ok hparts hpair
  rw [hpart] at hmem
  cases hmem
  exact List.mem_flatten.mpr ⟨part, hother, hpiece⟩

/-- What a movement between two points is cut into. -/
structure Conserves (arcs : List Arc) (parameters : Parameters) (paths : List MatchedPath)
    (path : MatchedPath) (pair : MatchedPoint × MatchedPoint) (movement : Movement)
    (segments : List Segment) : Prop where
  /-- The pieces are the segments that last. -/
  made : pairPieces arcs parameters path pair = .ok (segments.filterMap (movement.pieceOf path))
  inBin : ∀ segment ∈ segments, parameters.binLength * segment.binIndex ≤ segment.entryOffset ∧
    segment.exitOffset ≤ binEndOffset (arcAt arcs movement.arcIndex) parameters segment.binIndex
  offsets : Tiles movement.startOffset movement.endOffset (segments.map Segment.offsets)
  times : Tiles pair.1.timeNs pair.2.timeNs (segments.map Segment.times)
  durations : ((segments.filterMap (movement.pieceOf path)).map fun piece =>
    piece.endTimeNs - piece.startTimeNs).sum = pair.2.timeNs - pair.1.timeNs
  distances : ((segments.filterMap (movement.pieceOf path)).map Piece.distance).sum =
    movement.endOffset - movement.startOffset -
      ((segments.filter fun segment => segment.startTimeNs = segment.endTimeNs).map
        Segment.length).sum
  distinct : ((segments.filterMap (movement.pieceOf path)).map Piece.identity).Nodup
  /-- No piece is dropped but for one that is the same. -/
  kept : ∀ pieces, distinctPieces arcs parameters paths = .ok pieces →
    ∀ piece ∈ segments.filterMap (movement.pieceOf path), piece.identity ∈ pieces.map Piece.identity

/-- The loop over an eligible pair of validated points ends without an error, whatever fuel
beyond the bins of the arc it is given, and what it cuts the movement into conserves it. -/
theorem movement_conserved
    (hvalid : validateInputs arcs paths evidence findings parameters = .ok ())
    (hpath : path ∈ paths) (hpair : pair ∈ consecutive path.points)
    (hmovement : movementOf pair.1 pair.2 = some movement)
    (htimes : ∀ point ∈ path.points, ¬ overflows point.timeNs)
    (hduration : checkedDifference movement.right.timeNs movement.left.timeNs = .ok durationNs) :
    ∃ segments,
      (∀ fuel, ⌈(arcAt arcs movement.arcIndex).length / parameters.binLength⌉.toNat ≤ fuel →
        movement.segments (arcAt arcs movement.arcIndex) parameters durationNs fuel
          movement.startOffset = .ok segments) ∧
      Conserves arcs parameters paths path pair movement segments := by
  have hsplit := splittable_of_validateInputs hvalid hpath hpair hmovement htimes hduration
  obtain ⟨binCount, hcount⟩ := hsplit.counted
  obtain ⟨-, rfl⟩ := binCountForArc_eq_ok hcount
  obtain ⟨hl, hr, -⟩ := movementOf_eq_some hmovement
  obtain ⟨segments, hsegments, hcovered⟩ := Movement.segments_covered hsplit hcount le_rfl
    movement.advances.le (Nat.le_add_left _ _)
  have hmade : pairPieces arcs parameters path pair =
      .ok (segments.filterMap (movement.pieceOf path)) := by
    rw [pairPieces, hmovement]
    dsimp only
    rw [hduration, ok_bind, Movement.split_eq_segments, hsegments _ le_rfl]
    rfl
  refine ⟨segments, hsegments, ?_⟩
  exact {
    made := hmade
    inBin := hcovered.inBin
    offsets := hcovered.offsets
    times := by
      rw [← hl, ← hr, ← Movement.timeAt_startOffset,
        ← Movement.timeAt_endOffset hsplit.duration]
      exact hcovered.times
    durations := by
      rw [← hl, ← hr]
      exact Movement.sum_durations hsplit hcovered
    distances := Movement.sum_distances hcovered
    distinct := Movement.nodup_identities hcovered
    kept := by
      intro pieces hpieces piece hpiece
      obtain ⟨hparts, hidentities, -⟩ := distinctPieces_eq_ok hpieces
      obtain ⟨part, hpart⟩ := hparts path hpath
      apply (hidentities piece.identity).mpr
      exact ⟨path, hpath, List.mem_map_of_mem (mem_piecesOf hpart hpair hmade hpiece)⟩ }

end Pair

/-- The second half of the drive, across the boundary at 20. -/
def Crossing.ride : Movement :=
  { left := pointAt 1010 15 4
    right := pointAt 1020 30 5
    arcIndex := 0
    startOffset := 15
    endOffset := 30
    advances := by norm_num }

theorem movement_conserved_crossing :
    ∃ segments,
      (∀ fuel, ⌈(arcAt Crossing.arcs Crossing.ride.arcIndex).length /
          Crossing.parameters.binLength⌉.toNat ≤ fuel →
        Crossing.ride.segments (arcAt Crossing.arcs Crossing.ride.arcIndex) Crossing.parameters 10
          fuel Crossing.ride.startOffset = .ok segments) ∧
      Conserves Crossing.arcs Crossing.parameters [Crossing.drive] Crossing.drive
        (Crossing.pointAt 1010 15 4, Crossing.pointAt 1020 30 5) Crossing.ride segments := by
  have hvalid : validateInputs Crossing.arcs [Crossing.drive] [] [] Crossing.parameters = .ok () := by
    decide +kernel
  have hpair : (Crossing.pointAt 1010 15 4, Crossing.pointAt 1020 30 5) ∈
      consecutive Crossing.drive.points := by
    decide +kernel
  have hmovement : movementOf (Crossing.pointAt 1010 15 4) (Crossing.pointAt 1020 30 5) =
      some Crossing.ride := by
    unfold movementOf
    rw [if_neg (by decide)]
    dsimp only [Crossing.pointAt]
    rw [dif_neg (by norm_num)]
    rfl
  have htimes : ∀ point ∈ Crossing.drive.points, ¬ overflows point.timeNs := by
    decide +kernel
  have hduration : checkedDifference Crossing.ride.right.timeNs Crossing.ride.left.timeNs = .ok 10 := by
    decide +kernel
  exact movement_conserved hvalid List.mem_cons_self hpair hmovement htimes hduration

end CartoSentry.RoadBins
