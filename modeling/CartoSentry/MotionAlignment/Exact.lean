import CartoSentry.Foundation.Moments
import CartoSentry.MotionAlignment.Permutation
import CartoSentry.MotionAlignment.Report
import Mathlib.Algebra.BigOperators.Group.Finset.Basic
import Mathlib.Analysis.SpecialFunctions.Trigonometric.Inverse

set_option autoImplicit false

/-!
# Motion alignment: exact arithmetic

With exact numbers the accumulators of two frames combine to that of all their points in a cell,
and the thickness of a shared cell is the root of the total variance of these points.
-/

namespace CartoSentry.MotionAlignment

open Contracts (Raised)
open Foundation (Agree variance variance_eq variance_nonneg)

/-! ## The points of two frames -/

namespace LidarMotionAlignmentAnalyzer

variable {K : Type}

/-- The points of two frames in a cell. -/
def pooled (left right : List (PointOutcome K)) (cell : Cell) : List (Vector K) :=
  worldsIn left cell ++ worldsIn right cell

/-- The cells that both frames occupy. -/
def shared (left right : List (PointOutcome K)) : Finset Cell :=
  cellsOf left ∩ cellsOf right

theorem two_le_pooled {left right : List (PointOutcome K)} {cell : Cell}
    (h : cell ∈ shared left right) : 2 ≤ (pooled left right cell).length := by
  obtain ⟨hleft, hright⟩ := Finset.mem_inter.mp h
  have hleftPos := List.length_pos_iff.mpr (mem_cellsOf.mp hleft)
  have hrightPos := List.length_pos_iff.mpr (mem_cellsOf.mp hright)
  unfold pooled
  rw [List.length_append]
  omega

end LidarMotionAlignmentAnalyzer

/-! ## Exact numbers -/

variable {K : Type} [Field K] [LinearOrder K]

/-- The functions that a field does not have of its own. -/
structure ExactFunctions (K : Type) where
  sqrt : K → K
  acos : K → K
  hypot : K → K → K
  floor : K → Int

/-- Numbers without rounding. -/
def exactArithmetic (functions : ExactFunctions K) : Arithmetic K where
  ofNat count := count
  ofInt value := .ok value
  isFinite _ := true
  add left right := left + right
  sub left right := left - right
  mul left right := left * right
  div left right := left / right
  square value := .ok (value ^ 2)
  abs value := if value < 0 then -value else value
  sqrt := functions.sqrt
  acos := functions.acos
  hypot := functions.hypot
  floor value := .ok (functions.floor value)
  lt left right := decide (left < right)
  le left right := decide (left ≤ right)
  ratio left right := left / right
  sum := List.sum

/-- An analyzer with its arithmetic exact. -/
def LidarMotionAlignmentAnalyzer.exact (analyzer : LidarMotionAlignmentAnalyzer K)
    (functions : ExactFunctions K) : LidarMotionAlignmentAnalyzer K :=
  { analyzer with arithmetic := exactArithmetic functions }

theorem exactArithmetic_orderless (functions : ExactFunctions K) :
    (exactArithmetic functions).Orderless :=
  fun sum left right => add_right_comm sum left right

namespace LidarMotionAlignmentAnalyzer

variable {analyzer : LidarMotionAlignmentAnalyzer K} {functions : ExactFunctions K}

/-! ## Moments -/

/-- The sums over points, as an accumulator. -/
def momentsOf (points : List (Vector K)) : VoxelAccumulator K where
  count := points.length
  sumX := (points.map Vector.x).sum
  sumY := (points.map Vector.y).sum
  sumZ := (points.map Vector.z).sum
  sumX2 := ((points.map Vector.x).map fun value => value * value).sum
  sumY2 := ((points.map Vector.y).map fun value => value * value).sum
  sumZ2 := ((points.map Vector.z).map fun value => value * value).sum

theorem foldl_add_exact (points : List (Vector K)) (voxel : VoxelAccumulator K) :
    points.foldl (VoxelAccumulator.add (exactArithmetic functions)) voxel =
      voxel.combine (exactArithmetic functions) (momentsOf points) := by
  induction points generalizing voxel with
  | nil => simp [VoxelAccumulator.combine, momentsOf, exactArithmetic]
  | cons point points ih =>
    rw [List.foldl_cons, ih]
    simp only [VoxelAccumulator.combine, VoxelAccumulator.add, momentsOf, exactArithmetic,
      List.map_cons, List.sum_cons, List.length_cons, add_assoc, Nat.add_comm 1]

theorem accumulated_exact (points : List (Vector K)) :
    (analyzer.exact functions).accumulated points = momentsOf points := by
  unfold accumulated
  refine (foldl_add_exact points _).trans ?_
  simp [VoxelAccumulator.combine, VoxelAccumulator.empty, Arithmetic.zero, exact, exactArithmetic]

/-- The accumulators of two lists of points combine to that of both. -/
theorem combine_momentsOf (left right : List (Vector K)) :
    (momentsOf left).combine (exactArithmetic functions) (momentsOf right) =
      momentsOf (left ++ right) := by
  simp [VoxelAccumulator.combine, momentsOf, exactArithmetic]

/-- The total variance of points. -/
def totalVariance (points : List (Vector K)) : K :=
  variance (points.map Vector.x) + variance (points.map Vector.y) +
    variance (points.map Vector.z)

/-- The mean, over the shared cells, of the root of the total variance of their points. -/
def meanThickness (functions : ExactFunctions K) (left right : List (PointOutcome K)) : Option K :=
  if shared left right = ∅ then none
  else some ((∑ cell ∈ shared left right, functions.sqrt (totalVariance (pooled left right cell))) /
    ((shared left right).card : K))

/-- The share of the cells of two frames that both occupy. -/
def jaccard (left right : List (PointOutcome K)) : K :=
  if cellsOf left ∪ cellsOf right = ∅ then 0
  else ((shared left right).card : K) / ((cellsOf left ∪ cellsOf right).card : K)

theorem overlap_exact (left right : List (PointOutcome K)) :
    (analyzer.exact functions).overlap (cellsOf left) (cellsOf right) = jaccard left right := by
  unfold overlap jaccard
  split_ifs
  · exact Nat.cast_zero
  · rfl

variable [IsStrictOrderedRing K]

/-- The variance along an axis, from its sums. -/
theorem axisVariance_exact (functions : ExactFunctions K) {values : List K} (h : values ≠ []) :
    VoxelAccumulator.axisVariance (exactArithmetic functions) (1 / values.length) values.sum
      ((values.map fun value => value * value).sum) = .ok (variance values) := by
  have hmax : (exactArithmetic functions).max (exactArithmetic functions).zero (variance values) =
      variance values := by
    have hzero : (exactArithmetic functions).zero = (0 : K) := Nat.cast_zero
    unfold Arithmetic.max
    rw [hzero]
    split_ifs with hpositive
    · rfl
    · exact le_antisymm (variance_nonneg values)
        (not_lt.mp fun hlt => hpositive (decide_eq_true hlt))
  rw [← hmax, variance_eq h]
  rfl

/-- The thickness of two points or more is the root of their total variance. -/
theorem thickness_momentsOf {points : List (Vector K)} (h : 2 ≤ points.length) :
    (momentsOf points).thickness (exactArithmetic functions) =
      .ok (functions.sqrt (totalVariance points)) := by
  have haxis : ∀ axis : Vector K → K, VoxelAccumulator.axisVariance (exactArithmetic functions)
      ((exactArithmetic functions).div (exactArithmetic functions).one
        ((exactArithmetic functions).ofNat points.length)) (points.map axis).sum
      (((points.map axis).map fun value => value * value).sum) =
        .ok (variance (points.map axis)) := by
    intro axis
    have hne : points.map axis ≠ [] := by
      intro hnil
      rw [List.map_eq_nil_iff.mp hnil] at h
      cases h
    rw [← axisVariance_exact functions hne, List.length_map]
    congr 1
    exact congrArg (· / (points.length : K)) Nat.cast_one
  unfold VoxelAccumulator.thickness
  rw [if_neg (by exact not_le.mpr h)]
  dsimp only [momentsOf]
  rw [haxis Vector.x, haxis Vector.y, haxis Vector.z]
  rfl

/-! ## Pairs -/

theorem sharedThickness_exact (left right : List (PointOutcome K)) :
    (analyzer.exact functions).sharedThickness ((analyzer.exact functions).voxelsOf left)
      ((analyzer.exact functions).voxelsOf right) = .ok (meanThickness functions left right) := by
  have hthickness : ∀ cell ∈ (shared left right).sort (· ≤ ·),
      ((((analyzer.exact functions).voxelsOf left).accumulator cell).combine
        (analyzer.exact functions).arithmetic
          (((analyzer.exact functions).voxelsOf right).accumulator cell)).thickness
            (analyzer.exact functions).arithmetic =
        .ok (functions.sqrt (totalVariance (pooled left right cell))) := by
    intro cell hcell
    unfold voxelsOf
    dsimp only
    rw [accumulated_exact, accumulated_exact]
    change ((momentsOf _).combine (exactArithmetic functions) _).thickness _ = _
    rw [combine_momentsOf]
    exact thickness_momentsOf (two_le_pooled ((Finset.mem_sort _).mp hcell))
  have hsum : (((shared left right).sort (· ≤ ·)).map fun cell =>
      functions.sqrt (totalVariance (pooled left right cell))).sum =
        ∑ cell ∈ shared left right, functions.sqrt (totalVariance (pooled left right cell)) := by
    rw [Finset.sum_eq_multiset_sum, ← Finset.sort_eq (shared left right) (· ≤ ·),
      Multiset.map_coe, Multiset.sum_coe]
  have hempty : (shared left right).sort (· ≤ ·) = [] ↔ shared left right = ∅ := by
    rw [← List.length_eq_zero_iff, Finset.length_sort, Finset.card_eq_zero]
  have hcells : ((analyzer.exact functions).voxelsOf left).cells ∩
      ((analyzer.exact functions).voxelsOf right).cells = shared left right := rfl
  unfold sharedThickness
  rw [hcells, Foundation.mapM_eq_ok hthickness, Foundation.ok_bind]
  unfold meanThickness
  refine congrArg Except.ok ?_
  simp only [List.map_eq_nil_iff, hempty, List.length_map, Finset.length_sort]
  rw [← hsum]
  rfl

/-! ## Analyses -/

/-- A pair as the claim of the report: the share of the cells and the mean thickness. -/
structure ExactPair (analyzer : LidarMotionAlignmentAnalyzer K) (functions : ExactFunctions K)
    (left right : AlignmentFrameInput K) (evidence : PairAlignmentEvidence K)
    (outcomes outcomes' : List (PointOutcome K)) : Prop where
  left : Examined (analyzer.exact functions) left.referenceTimeNs left.points outcomes
  right : Examined (analyzer.exact functions) right.referenceTimeNs right.points outcomes'
  overlap : evidence.occupancyJaccard = some (jaccard outcomes outcomes')
  thickness : evidence.sharedSurfaceThicknessM = meanThickness functions outcomes outcomes'

/-- What an exact report says of its frames. -/
structure ExactReport (analyzer : LidarMotionAlignmentAnalyzer K) (functions : ExactFunctions K)
    (frames : List (AlignmentFrameInput K)) (report : LidarAlignmentReport K) : Prop where
  counted : List.Forall₂ (fun frame evidence => ∃ outcomes,
    Counted (analyzer.exact functions) frame evidence outcomes) frames report.frames
  paired : List.Forall₂ (fun two evidence => Supported (analyzer.exact functions) two.1 →
    Supported (analyzer.exact functions) two.2 → ∃ outcomes outcomes',
      ExactPair analyzer functions two.1 two.2 evidence outcomes outcomes')
    (neighbours frames) report.pairs
  pass_iff : report.state = .pass ↔
    ∀ evidence ∈ report.pairs, Passes (analyzer.exact functions) evidence
  unsupported : ∀ frame ∈ frames, ¬ Supported (analyzer.exact functions) frame →
    report.state ≠ .pass

/-- With exact numbers an analysis is one of the multisets of the points of its frames. -/
theorem alignment_of_point_multisets (analyzer : LidarMotionAlignmentAnalyzer K)
    (functions : ExactFunctions K) :
    (∀ frames others : List (AlignmentFrameInput K), List.Forall₂ SamePoints frames others →
      Agree (fun report report' => report.anonymous = report'.anonymous)
        ((analyzer.exact functions).analyze frames)
        ((analyzer.exact functions).analyze others)) ∧
    ∀ (frames : List (AlignmentFrameInput K)) (report : LidarAlignmentReport K),
      (analyzer.exact functions).analyze frames = .ok report →
        ExactReport analyzer functions frames report := by
  refine ⟨fun frames others h => analyze_agree (exactArithmetic_orderless functions) h,
    fun frames report h => ?_⟩
  have hreports := analyze_reports h
  refine ⟨hreports.counted, ?_, hreports.pass_iff, hreports.unsupported⟩
  refine hreports.paired.imp fun two evidence hpair hleft hright => ?_
  obtain ⟨outcomes, outcomes', hevidence⟩ := hpair hleft hright
  refine ⟨outcomes, outcomes', hevidence.left, hevidence.right, ?_, ?_⟩
  · rw [hevidence.overlap, overlap_exact]
  · have hthickness := hevidence.thickness
    rw [sharedThickness_exact] at hthickness
    exact (Except.ok.inj hthickness).symm

end LidarMotionAlignmentAnalyzer

/-! ## A small analysis -/

section Sample

variable {K : Type} (arithmetic : Arithmetic K)

/-- The identity between two frames. -/
def identityTransform (targetFrame sourceFrame : String) : RigidTransform K where
  targetFrame := targetFrame
  sourceFrame := sourceFrame
  translationM := ⟨arithmetic.zero, arithmetic.zero, arithmetic.zero⟩
  rotation := ⟨arithmetic.one, arithmetic.zero, arithmetic.zero, arithmetic.zero⟩

/-- An analyzer whose vehicle stands still: all of its transforms are identities. -/
def sampleAnalyzer : LidarMotionAlignmentAnalyzer K where
  arithmetic := arithmetic
  geometry := {
    compose outer inner := .ok { inner with targetFrame := outer.targetFrame }
    apply _ point := .ok point }
  trajectory _ :=
    .ok ⟨.supported, some (identityTransform arithmetic "trajectory_local_world" "rig")⟩
  rigFromLidar := identityTransform arithmetic "rig" "lidar"
  profile := {
    immutableSha256 := "e51d033344c3191bd86d6b05a91631cb9b28b25deec8a58919867b6ec7813166"
    voxelSizeM := arithmetic.one
    masks := ⟨arithmetic.div (arithmetic.ofNat 5) (arithmetic.ofNat 2), arithmetic.ofNat 3⟩
    observability := ⟨24, 12, 4, arithmetic.div (arithmetic.ofNat 1) (arithmetic.ofNat 4),
      arithmetic.div (arithmetic.ofNat 1) (arithmetic.ofNat 50)⟩
    alignment := ⟨arithmetic.div (arithmetic.ofNat 3) (arithmetic.ofNat 4),
      arithmetic.div (arithmetic.ofNat 4) (arithmetic.ofNat 5)⟩
    budgets := ⟨10000, 200000, 100000, 9999, 16⟩ }
  profileFileSha256 := "4f0b83080762db586df1921ebfc71fa5bad6a09a19d957710c7048e5a1e1a90e"
  sourceSha256 := "eeeeeeeeeeeeeeeeeeeeeeeeeeeeeeeeeeeeeeeeeeeeeeeeeeeeeeeeeeeeeeee"

/-- A static point 10 m ahead, and where it is expected. -/
def samplePoint (expectedX : K) : AlignmentPointInput K where
  positionLidarM := ⟨arithmetic.ofNat 10, arithmetic.zero, arithmetic.zero⟩
  relativeTimeNs := 0
  sourceOffset := 0
  motionClass := .static
  expectedWorldM := some ⟨expectedX, arithmetic.zero, arithmetic.zero⟩

/-- A point that is far from where it is expected. -/
def farPoint : AlignmentPointInput K :=
  samplePoint arithmetic (arithmetic.ofNat (10 + 2 ^ 27))

/-- A point that is 1.375 m from where it is expected. -/
def nearPoint : AlignmentPointInput K :=
  samplePoint arithmetic (arithmetic.div (arithmetic.ofNat 91) (arithmetic.ofNat 8))

/-- A frame with points, and an empty one. -/
def sampleFrames (points : List (AlignmentPointInput K)) : List (AlignmentFrameInput K) :=
  [⟨0, "lidar/0.bin", 0, points⟩, ⟨1, "lidar/1.bin", 100000000, []⟩]

/-- The two frames with three points, the far one first or last. -/
def threePoints (farLast : Bool) : List (AlignmentFrameInput K) :=
  if farLast then
    sampleFrames [nearPoint arithmetic, nearPoint arithmetic, farPoint arithmetic]
  else sampleFrames [farPoint arithmetic, nearPoint arithmetic, nearPoint arithmetic]

theorem threePoints_samePoints :
    List.Forall₂ SamePoints (threePoints arithmetic false) (threePoints arithmetic true) := by
  unfold threePoints sampleFrames
  generalize nearPoint arithmetic = near
  generalize farPoint arithmetic = far
  exact .cons ⟨(List.Perm.swap near far [near]).trans ((List.Perm.swap near far []).cons near), rfl⟩
    (.cons ⟨.refl _, rfl⟩ .nil)

end Sample

/-- The functions of the reals. -/
noncomputable def realFunctions : ExactFunctions ℝ where
  sqrt := Real.sqrt
  acos := Real.arccos
  hypot x y := Real.sqrt (x ^ 2 + y ^ 2)
  floor := Int.floor

/-- The same analyzer over the reals, which are not to be evaluated. -/
@[irreducible]
noncomputable def realAnalyzer : LidarMotionAlignmentAnalyzer ℝ :=
  sampleAnalyzer (exactArithmetic realFunctions)

theorem alignment_of_point_multisets_three :
    Agree (fun report report' => report.anonymous = report'.anonymous)
        ((realAnalyzer.exact realFunctions).analyze
          (threePoints (exactArithmetic realFunctions) false))
        ((realAnalyzer.exact realFunctions).analyze
          (threePoints (exactArithmetic realFunctions) true)) ∧
      ∀ report, (realAnalyzer.exact realFunctions).analyze
          (threePoints (exactArithmetic realFunctions) false) = .ok report →
        LidarMotionAlignmentAnalyzer.ExactReport realAnalyzer realFunctions
          (threePoints (exactArithmetic realFunctions) false) report := by
  obtain ⟨hagree, hreport⟩ :=
    LidarMotionAlignmentAnalyzer.alignment_of_point_multisets realAnalyzer realFunctions
  exact ⟨hagree _ _ (threePoints_samePoints _), hreport _⟩

end CartoSentry.MotionAlignment
