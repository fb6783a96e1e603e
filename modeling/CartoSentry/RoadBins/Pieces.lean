import Mathlib.Data.Prod.Lex
import Mathlib.Data.String.Basic
import CartoSentry.Foundation.KeyedList
import CartoSentry.RoadBins.Contracts

set_option autoImplicit false

/-!
# Road bins: pieces

`make_pieces`: movements between consecutive points are cut at the bin boundaries, a
piece met again is dropped, and the sorted pieces are numbered by traversal.
-/

namespace CartoSentry.RoadBins

open Foundation
open Matching (InvalidArgument throwIf numbersPi)

/-! ## Interpolation -/

/-- `interpolate_time`. -/
def interpolateTime (startNs durationNs : Int) (fraction : ℚ) : Except InvalidArgument Int :=
  checkedInt64 "road-bin interpolated time overflows int64"
    (startNs + roundAway (durationNs * fraction))

/-- `std::fmod`: the remainder has the sign of the dividend. -/
def fmod (value divisor : ℚ) : ℚ :=
  value - (if 0 ≤ value / divisor then ⌊value / divisor⌋ else ⌈value / divisor⌉) * divisor

/-- `heading_difference`. -/
def headingDifference (left right : ℚ) : ℚ :=
  let difference := fmod (right - left) (2 * numbersPi)
  if numbersPi < difference then abs (difference - 2 * numbersPi)
  else if difference < -numbersPi then abs (difference + 2 * numbersPi)
  else abs difference

/-! ## Movements -/

/-- Two consecutive points that count: confident, moving, on one arc and advancing. -/
structure Movement where
  left : MatchedPoint
  right : MatchedPoint
  arcIndex : Nat
  startOffset : ℚ
  endOffset : ℚ
  advances : startOffset < endOffset

def movementOf (left right : MatchedPoint) : Option Movement :=
  if left.confident = false ∨ right.confident = false ∨ left.stationary = true ∨
      right.stationary = true ∨ left.arcIndex = none ∨ left.arcIndex ≠ right.arcIndex then none
  else
    match left.arcIndex, left.alongArcOffset, right.alongArcOffset with
    | some arcIndex, some startOffset, some endOffset =>
        if htotal : endOffset - startOffset ≤ 0 then none
        else some
          { left := left
            right := right
            arcIndex := arcIndex
            startOffset := startOffset
            endOffset := endOffset
            advances := sub_pos.mp (not_le.mp htotal) }
    | _, _, _ => none

namespace Movement

variable (movement : Movement)

def totalDistance : ℚ :=
  movement.endOffset - movement.startOffset

/-- The share of the movement that is done at an offset. -/
def fraction (offset : ℚ) : ℚ :=
  (offset - movement.startOffset) / movement.totalDistance

def speedAt (offset : ℚ) : ℚ :=
  movement.left.speed + (movement.right.speed - movement.left.speed) * movement.fraction offset

def yawBetween (entry exit : ℚ) : ℚ :=
  match movement.left.headingRad, movement.right.headingRad with
  | some left, some right =>
      headingDifference left right * ((exit - entry) / movement.totalDistance)
  | _, _ => 0

end Movement

/-! ## Pieces -/

/-- A part of a movement within one bin; it lasts and it advances. -/
structure Piece where
  arcIndex : Nat
  binIndex : Nat
  roadMatchId : String
  sequenceId : String
  sourceGroupId : String
  startTimeNs : Int
  endTimeNs : Int
  entryOffset : ℚ
  exitOffset : ℚ
  startSpeed : ℚ
  endSpeed : ℚ
  yawExcitation : ℚ
  traversalOrdinal : Nat
  lasts : startTimeNs < endTimeNs
  advances : entryOffset < exitOffset
  deriving DecidableEq

namespace Piece

/-- `distance_m`. -/
def distance (piece : Piece) : ℚ :=
  piece.exitOffset - piece.entryOffset

/-- What makes two pieces the same. -/
def identity (piece : Piece) : String × Nat × Int × Int × ℚ × ℚ :=
  (piece.sequenceId, piece.arcIndex, piece.startTimeNs, piece.endTimeNs, piece.entryOffset,
    piece.exitOffset)

abbrev SortKey : Type :=
  String ×ₗ Nat ×ₗ Int ×ₗ Int ×ₗ Nat ×ₗ ℚ

/-- What the pieces are sorted by: not the exit offset. -/
def sortKey (piece : Piece) : SortKey :=
  toLex (piece.sequenceId, toLex (piece.arcIndex, toLex (piece.startTimeNs,
    toLex (piece.endTimeNs, toLex (piece.binIndex, piece.entryOffset)))))

def numbered (ordinal : Nat) (piece : Piece) : Piece :=
  { piece with traversalOrdinal := ordinal }

end Piece

/-- The bin of an offset; the last bin includes the end of the arc. -/
def binIndexAt (parameters : Parameters) (binCount : Nat) (offset : ℚ) : Nat :=
  min ⌊offset / parameters.binLength⌋.toNat (binCount - 1)

/-- The end of a bin. -/
def binEndOffset (arc : Arc) (parameters : Parameters) (binIndex : Nat) : ℚ :=
  min arc.length (parameters.binLength * (binIndex + 1))

/-- The loop that cuts a movement at the bin boundaries, from an offset on. -/
def Movement.split (movement : Movement) (arc : Arc) (parameters : Parameters)
    (path : MatchedPath) (durationNs : Int) : Nat → ℚ → Except InvalidArgument (List Piece)
  | 0, _ => .ok []
  | fuel + 1, cursor =>
      if movement.endOffset ≤ cursor then .ok []
      else do
        let binCount ← binCountForArc arc parameters
        let binIndex := binIndexAt parameters binCount cursor
        let exit := min movement.endOffset (binEndOffset arc parameters binIndex)
        if hprogress : cursor < exit then do
          let pieceStart ←
            interpolateTime movement.left.timeNs durationNs (movement.fraction cursor)
          let pieceEnd ← interpolateTime movement.left.timeNs durationNs (movement.fraction exit)
          let rest ← movement.split arc parameters path durationNs fuel exit
          if hlasts : pieceStart < pieceEnd then
            .ok ({ arcIndex := movement.arcIndex
                   binIndex := binIndex
                   roadMatchId := path.roadMatchId
                   sequenceId := path.sequenceId
                   sourceGroupId := path.sourceGroupId
                   startTimeNs := pieceStart
                   endTimeNs := pieceEnd
                   entryOffset := cursor
                   exitOffset := exit
                   startSpeed := movement.speedAt cursor
                   endSpeed := movement.speedAt exit
                   yawExcitation := movement.yawBetween cursor exit
                   traversalOrdinal := 0
                   lasts := hlasts
                   advances := hprogress } :: rest)
          else .ok rest
        else .error ⟨"road-bin splitter made no progress"⟩

/-- The pieces between two consecutive points of a path.  A movement crosses each bin of
its arc at most once. -/
def pairPieces (arcs : List Arc) (parameters : Parameters) (path : MatchedPath)
    (pair : MatchedPoint × MatchedPoint) : Except InvalidArgument (List Piece) :=
  match movementOf pair.1 pair.2 with
  | none => .ok []
  | some movement => do
      let durationNs ← checkedDifference movement.right.timeNs movement.left.timeNs
      let arc := arcAt arcs movement.arcIndex
      movement.split arc parameters path durationNs ⌈arc.length / parameters.binLength⌉.toNat
        movement.startOffset

/-- The consecutive points of a path. -/
def consecutive (points : List MatchedPoint) : List (MatchedPoint × MatchedPoint) :=
  points.zip points.tail

def pathPieces (arcs : List Arc) (parameters : Parameters) (path : MatchedPath) :
    Except InvalidArgument (List Piece) := do
  let pieces ← (consecutive path.points).mapM (pairPieces arcs parameters path)
  .ok pieces.flatten

/-! ## Order and traversals -/

/-- `std::ranges::sort` by the key.  It is not stable: what it does with pieces of one
key is left open. -/
structure PieceSort where
  sort : List Piece → List Piece
  perm : ∀ pieces, (sort pieces).Perm pieces
  sorted : ∀ pieces, (sort pieces).Pairwise fun left right => left.sortKey ≤ right.sortKey

/-- The sort that leaves pieces of one key as they were. -/
def PieceSort.stable : PieceSort :=
  { sort := fun pieces => pieces.insertionSort fun left right => left.sortKey ≤ right.sortKey
    perm := fun pieces => List.perm_insertionSort _ pieces
    sorted := fun pieces =>
      List.pairwise_insertionSort (fun left right : Piece => left.sortKey ≤ right.sortKey) pieces }

/-- The number of the traversal a piece belongs to, after one that ended before. -/
def nextOrdinal (parameters : Parameters) (ordinal : Nat) (previousEnd startTimeNs : Int) :
    Except InvalidArgument Nat :=
  if previousEnd < startTimeNs then do
    let gap ← checkedDifference startTimeNs previousEnd
    .ok (if parameters.independentTraversalMinimumGapNs < gap then ordinal + 1 else ordinal)
  else .ok ordinal

/-- For a sequence and an arc: the number of the last traversal and its end so far. -/
abbrev TraversalState : Type :=
  List ((String × Nat) × (Nat × Int))

/-- The traversal of a piece: its number and its end so far. -/
def traversalOf (parameters : Parameters) (state : TraversalState) (piece : Piece) :
    Except InvalidArgument (Nat × Int) :=
  match state.lookup (piece.sequenceId, piece.arcIndex) with
  | none => .ok (0, piece.endTimeNs)
  | some (ordinal, previousEnd) => do
      let ordinal ← nextOrdinal parameters ordinal previousEnd piece.startTimeNs
      .ok (ordinal, max previousEnd piece.endTimeNs)

/-- The last loop of `make_pieces`, over the sorted pieces. -/
def numberTraversals (parameters : Parameters) :
    TraversalState → List Piece → Except InvalidArgument (List Piece)
  | _, [] => .ok []
  | state, piece :: rest => do
      let traversal ← traversalOf parameters state piece
      let later ← numberTraversals parameters
        (((piece.sequenceId, piece.arcIndex), traversal) :: state) rest
      .ok (piece.numbered traversal.1 :: later)

/-- The pieces of every path, each one once. -/
def distinctPieces (arcs : List Arc) (parameters : Parameters) (paths : List MatchedPath) :
    Except InvalidArgument (List Piece) := do
  let pieces ← paths.mapM (pathPieces arcs parameters)
  .ok (keepFirst Piece.identity [] pieces.flatten)

/-- `make_pieces`. -/
def makePieces (order : PieceSort) (arcs : List Arc) (paths : List MatchedPath)
    (parameters : Parameters) : Except InvalidArgument (List Piece) := do
  let pieces ← distinctPieces arcs parameters paths
  numberTraversals parameters [] (order.sort pieces)

end CartoSentry.RoadBins
