import CartoSentry.Foundation.Outcome
import CartoSentry.Foundation.Polyline
import Mathlib.Analysis.Real.Sqrt
import Mathlib.Tactic.Positivity

set_option autoImplicit false

/-!
# Topology hypotheses: resampling with exact lengths

`resample` over an ordered field: a cursor over the segments and a target for each sample.
Indices and divisors are checked, so that a result says that the cursor stayed on the
polyline and that nothing was divided by zero.
-/

namespace CartoSentry.Topology.Exact

open Foundation (PlanePoint LiesAt Separates lengthTo lengthTo_zero lengthTo_succ arcLength
  bind_eq_ok_iff ok_bind)

variable {R : Type}

/-! ## The loop -/

/-- What can go wrong in the loop, beside what it throws. -/
inductive ResampleFault where
  | invalidArgument (message : String)
  | outOfRange
  | dividedByZero
  | unfinished
  deriving DecidableEq, Repr

/-- `items[index]` -/
def entryAt {A : Type} (items : List A) (index : Nat) : Except ResampleFault A :=
  match items[index]? with
  | some item => .ok item
  | none => .error .outOfRange

section Loop

variable [Field R] [LinearOrder R] (distance : PlanePoint R → PlanePoint R → R)

def quotient (left right : R) : Except ResampleFault R :=
  if right = 0 then .error .dividedByZero else .ok (left / right)

/-- `polyline_length` -/
def lengthFrom (result : R) : List (PlanePoint R) → R
  | left :: right :: rest => lengthFrom (result + distance left right) (right :: rest)
  | _ => result

/-- `cumulative` -/
def cumulativeFrom (result : R) : List (PlanePoint R) → List R
  | left :: right :: rest =>
    result :: cumulativeFrom (result + distance left right) (right :: rest)
  | [_] => [result]
  | [] => []

/-- The inner loop: the cursor goes on while the segment ends before the target. -/
def advance (cumulative : List R) (target : R) : Nat → Nat → Except ResampleFault Nat
  | 0, _ => .error .unfinished
  | fuel + 1, segmentIndex =>
    if segmentIndex + 1 < cumulative.length then do
      let reached ← entryAt cumulative segmentIndex
      if reached < target then advance cumulative target fuel (segmentIndex + 1)
      else return segmentIndex
    else return segmentIndex

/-- `std::clamp(value, 0.0, 1.0)` -/
def clamped (value : R) : R :=
  if value < 0 then 0 else if 1 < value then 1 else value

/-- The sample on the segment of the cursor. -/
def sampleOn (points : List (PlanePoint R)) (cumulative : List R) (target : R)
    (segmentIndex : Nat) : Except ResampleFault (PlanePoint R) := do
  let leftIndex := segmentIndex - 1
  let upper ← entryAt cumulative segmentIndex
  let lower ← entryAt cumulative leftIndex
  let segmentLength := upper - lower
  if 0 < segmentLength then do
    let ratio ← quotient (target - lower) segmentLength
    let left ← entryAt points leftIndex
    let right ← entryAt points segmentIndex
    return left.between right (clamped ratio)
  else entryAt points segmentIndex

/-- A turn of the loop over the samples: the cursor and the points so far. -/
def sampleStep (points : List (PlanePoint R)) (cumulative : List R) (total : R)
    (pointCount : Nat) (state : Nat × List (PlanePoint R)) (sampleIndex : Nat) :
    Except ResampleFault (Nat × List (PlanePoint R)) := do
  let target ← quotient (total * sampleIndex) ((pointCount - 1 : Nat) : R)
  let segmentIndex ← advance cumulative target (cumulative.length + 1) state.1
  let point ← sampleOn points cumulative target segmentIndex
  return (segmentIndex, state.2 ++ [point])

/-- `resample` -/
def resample (points : List (PlanePoint R)) (pointCount : Nat) :
    Except ResampleFault (List (PlanePoint R)) := do
  let total := lengthFrom distance 0 points
  if 0 < total then do
    let cumulative := cumulativeFrom distance 0 points
    let state ← (List.range pointCount).foldlM (sampleStep points cumulative total pointCount)
      (1, [])
    let front ← entryAt points 0
    let back ← entryAt points (points.length - 1)
    let _ ← entryAt state.2 0
    return (state.2.set 0 front).set (state.2.length - 1) back
  else .error (.invalidArgument "topology polyline has zero length")

end Loop

/-! ## Lengths -/

section Lengths

variable [Field R] {distance : PlanePoint R → PlanePoint R → R} {points : List (PlanePoint R)}

theorem getElem?_cumulativeFrom (result : R) {index : Nat} (hindex : index < points.length) :
    (cumulativeFrom distance result points)[index]? =
      some (result + lengthTo distance points index) := by
  induction points generalizing result index with
  | nil => exact absurd hindex (Nat.not_lt_zero _)
  | cons left points ih =>
    cases points with
    | nil =>
      obtain rfl : index = 0 := by
        rw [List.length_singleton] at hindex
        omega
      rw [lengthTo_zero, add_zero]
      rfl
    | cons right rest =>
      cases index with
      | zero =>
        rw [lengthTo_zero, add_zero]
        rfl
      | succ index =>
        rw [cumulativeFrom, List.getElem?_cons_succ, ih _ (Nat.lt_of_succ_lt_succ hindex), lengthTo,
          add_assoc]

theorem length_cumulativeFrom (result : R) :
    (cumulativeFrom distance result points).length = points.length := by
  induction points generalizing result with
  | nil => rfl
  | cons left points ih =>
    cases points with
    | nil => rfl
    | cons right rest =>
      rw [cumulativeFrom, List.length_cons, ih]
      rfl

theorem lengthFrom_eq (result : R) :
    lengthFrom distance result points = result + arcLength distance points := by
  induction points generalizing result with
  | nil =>
    rw [arcLength, List.length_nil, lengthTo_zero, add_zero]
    rfl
  | cons left points ih =>
    cases points with
    | nil =>
      rw [arcLength, List.length_singleton, lengthTo_zero, add_zero]
      rfl
    | cons right rest =>
      rw [lengthFrom, ih, add_assoc]
      rfl

end Lengths

/-! ## The cursor -/

section Cursor

variable [Field R] {distance : PlanePoint R → PlanePoint R → R}
  {points : List (PlanePoint R)}

theorem entryAt_eq_ok {A : Type} {items : List A} {index : Nat} {item : A}
    (h : items[index]? = some item) : entryAt items index = .ok item := by
  rw [entryAt, h]

theorem entryAt_cumulative {index : Nat} (hindex : index < points.length) :
    entryAt (cumulativeFrom distance 0 points) index = .ok (lengthTo distance points index) := by
  rw [entryAt_eq_ok (getElem?_cumulativeFrom 0 hindex), zero_add]

variable [LinearOrder R]

/-- The cursor is on a segment that does not start behind the target. -/
structure OnSegment (distance : PlanePoint R → PlanePoint R → R) (points : List (PlanePoint R))
    (target : R) (segmentIndex : Nat) : Prop where
  inside : 1 ≤ segmentIndex ∧ segmentIndex < points.length
  lower : lengthTo distance points (segmentIndex - 1) ≤ target

/-- The cursor stops on a segment up to which the target is reached. -/
theorem advance_spec {target : R} {fuel segmentIndex : Nat}
    (h : OnSegment distance points target segmentIndex)
    (hreached : target ≤ arcLength distance points)
    (hfuel : points.length < segmentIndex + fuel) :
    ∃ next, advance (cumulativeFrom distance 0 points) target fuel segmentIndex = .ok next ∧
      OnSegment distance points target next ∧ target ≤ lengthTo distance points next := by
  induction fuel generalizing segmentIndex with
  | zero =>
    have hinside := h.inside
    omega
  | succ fuel ih =>
    obtain ⟨hfirst, hlast⟩ := h.inside
    rw [advance, length_cumulativeFrom]
    split_ifs with hmore
    · rw [entryAt_cumulative hlast, ok_bind]
      split_ifs with hbefore
      · refine ih ⟨⟨by omega, hmore⟩, ?_⟩ (by omega)
        rw [Nat.add_sub_cancel]
        exact hbefore.le
      · exact ⟨segmentIndex, rfl, h, not_lt.mp hbefore⟩
    · refine ⟨segmentIndex, rfl, h, ?_⟩
      have hend : points.length - 1 = segmentIndex := by omega
      rw [arcLength, hend] at hreached
      exact hreached

theorem clamped_eq {value : R} (h : 0 ≤ value ∧ value ≤ 1) : clamped value = value := by
  rw [clamped, if_neg (not_lt.mpr h.1), if_neg (not_lt.mpr h.2)]

theorem quotient_eq (left : R) {right : R} (h : right ≠ 0) :
    quotient left right = .ok (left / right) :=
  if_neg h

variable [IsStrictOrderedRing R]

/-- The sample on the segment lies at the target. -/
theorem sampleOn_spec {target : R} {segmentIndex : Nat}
    (h : OnSegment distance points target segmentIndex)
    (hupper : target ≤ lengthTo distance points segmentIndex) :
    ∃ point, sampleOn points (cumulativeFrom distance 0 points) target segmentIndex = .ok point ∧
      LiesAt distance points target point := by
  obtain ⟨hfirst, hlast⟩ := h.inside
  obtain ⟨index, rfl⟩ := Nat.exists_eq_add_of_le' hfirst
  have hlower := h.lower
  rw [Nat.add_sub_cancel] at hlower
  have hleft : points[index]? = some points[index] := List.getElem?_eq_getElem _
  have hright : points[index + 1]? = some points[index + 1] := List.getElem?_eq_getElem _
  have hsegment : lengthTo distance points (index + 1) = _ := lengthTo_succ hleft hright
  rw [sampleOn, Nat.add_sub_cancel, entryAt_cumulative hlast, ok_bind,
    entryAt_cumulative (by omega), ok_bind]
  dsimp only
  rw [hsegment] at hupper ⊢
  rw [add_sub_cancel_left]
  split_ifs with hpositive
  · have hfraction : 0 ≤ (target - lengthTo distance points index) /
        distance points[index] points[index + 1] ∧ (target - lengthTo distance points index) /
          distance points[index] points[index + 1] ≤ 1 :=
      ⟨div_nonneg (by linarith) hpositive.le, (div_le_one hpositive).mpr (by linarith)⟩
    rw [quotient_eq _ hpositive.ne', ok_bind, entryAt_eq_ok hleft, ok_bind, entryAt_eq_ok hright,
      ok_bind, clamped_eq hfraction]
    refine ⟨_, rfl, ?_⟩
    have hplace : LiesAt distance points _ _ := LiesAt.of_segment hleft hright hfraction
    rwa [div_mul_cancel₀ _ hpositive.ne', add_sub_cancel] at hplace
  · refine ⟨_, entryAt_eq_ok hright, ?_⟩
    -- the segment has no length, so the target is its end
    have hplace : LiesAt distance points _ _ :=
      LiesAt.of_segment hleft hright ⟨zero_le_one, le_rfl⟩
    rw [PlanePoint.between_one] at hplace
    convert hplace using 1
    linarith

/-- The target of a sample. -/
def targetOf (total : R) (pointCount sampleIndex : Nat) : R :=
  total * sampleIndex / ((pointCount - 1 : Nat) : R)

theorem targetOf_mono {total : R} (htotal : 0 < total) (pointCount : Nat) {sampleIndex later : Nat}
    (hle : sampleIndex ≤ later) :
    targetOf total pointCount sampleIndex ≤ targetOf total pointCount later := by
  unfold targetOf
  have hindex : (sampleIndex : R) ≤ later := Nat.cast_le.mpr hle
  gcongr

theorem targetOf_last (total : R) {pointCount : Nat} (hcount : 2 ≤ pointCount) :
    targetOf total pointCount (pointCount - 1) = total := by
  have hdenominator : ((pointCount - 1 : Nat) : R) ≠ 0 := by
    exact_mod_cast (show pointCount - 1 ≠ 0 by omega)
  rw [targetOf, mul_div_assoc, div_self hdenominator, mul_one]

/-- The points so far lie at their targets. -/
structure Sampled (distance : PlanePoint R → PlanePoint R → R) (points : List (PlanePoint R))
    (pointCount : Nat) (done : Nat) (state : Nat × List (PlanePoint R)) : Prop where
  cursor : ∀ later, done ≤ later + 1 → later < pointCount →
    OnSegment distance points (targetOf (arcLength distance points) pointCount later) state.1
  length : state.2.length = done
  placed : ∀ index point, state.2[index]? = some point →
    LiesAt distance points (targetOf (arcLength distance points) pointCount index) point

/-- The loop over the samples. -/
theorem exists_sampled (hpoints : 2 ≤ points.length) (hlength : 0 < arcLength distance points)
    {pointCount : Nat} (hcount : 2 ≤ pointCount) {done : Nat} (hdone : done ≤ pointCount) :
    ∃ state, (List.range done).foldlM (sampleStep points (cumulativeFrom distance 0 points)
        (lengthFrom distance 0 points) pointCount) (1, []) = .ok state ∧
      Sampled distance points pointCount done state := by
  have hdenominator : ((pointCount - 1 : Nat) : R) ≠ 0 := by
    exact_mod_cast (show pointCount - 1 ≠ 0 by omega)
  induction done with
  | zero =>
    refine ⟨(1, []), rfl, fun later _ _ => ⟨⟨le_rfl, by omega⟩, ?_⟩, rfl, fun index point h => ?_⟩
    · dsimp only
      rw [Nat.sub_self, lengthTo_zero]
      unfold targetOf
      positivity
    · cases h
  | succ done ih =>
    obtain ⟨state, hstate, hsampled⟩ := ih (by omega)
    have htarget := targetOf_mono hlength pointCount (show done ≤ pointCount - 1 by omega)
    rw [targetOf_last _ hcount] at htarget
    obtain ⟨next, hnext, hon, hupper⟩ := advance_spec
      (hsampled.cursor done (by omega) (by omega)) htarget
      (show points.length < state.1 + (points.length + 1) by omega)
    obtain ⟨point, hpoint, hplaced⟩ := sampleOn_spec hon hupper
    refine ⟨(next, state.2 ++ [point]), ?_, ⟨fun later hlater hless => ?_, ?_, ?_⟩⟩
    · have hstep : sampleStep points (cumulativeFrom distance 0 points)
          (lengthFrom distance 0 points) pointCount state done = .ok (next, state.2 ++ [point]) := by
        unfold targetOf at hnext hpoint
        rw [sampleStep, quotient_eq _ hdenominator, ok_bind, lengthFrom_eq, zero_add,
          length_cumulativeFrom, hnext, ok_bind, hpoint, ok_bind]
        rfl
      rw [List.range_succ, List.foldlM_append, hstate, ok_bind, List.foldlM_cons, hstep]
      rfl
    · exact ⟨hon.inside, hon.lower.trans (targetOf_mono hlength pointCount (by omega))⟩
    · rw [List.length_append, hsampled.length, List.length_singleton]
    · intro index placed hplace
      obtain hbefore | rfl | hbehind := Nat.lt_trichotomy index done
      · rw [List.getElem?_append_left (by rwa [hsampled.length])] at hplace
        exact hsampled.placed index placed hplace
      · rw [List.getElem?_append_right hsampled.length.le, hsampled.length, Nat.sub_self] at hplace
        obtain rfl := Option.some.inj hplace
        exact hplaced
      · rw [List.getElem?_eq_none (by
          rw [List.length_append, hsampled.length, List.length_singleton]; omega)] at hplace
        cases hplace

/-- The sample at either end is the end of the polyline. -/
theorem liesAt_ends (hpoints : 2 ≤ points.length) {front back : PlanePoint R}
    (hfront : points[0]? = some front) (hback : points[points.length - 1]? = some back) :
    LiesAt distance points 0 front ∧ LiesAt distance points (arcLength distance points) back := by
  obtain ⟨index, hindex⟩ := Nat.exists_eq_add_of_le hpoints
  have hsecond : points[0 + 1]? = some points[1] := List.getElem?_eq_getElem _
  have hbefore : points[index]? = some points[index] := List.getElem?_eq_getElem _
  have hlast : points[index + 1]? = some back := by
    rwa [show points.length - 1 = index + 1 by omega] at hback
  constructor
  · have hplace : LiesAt distance points _ _ :=
      LiesAt.of_segment hfront hsecond ⟨le_rfl, zero_le_one⟩
    rwa [lengthTo_zero, zero_mul, add_zero, PlanePoint.between_zero] at hplace
  · have hplace : LiesAt distance points _ _ :=
      LiesAt.of_segment hbefore hlast ⟨zero_le_one, le_rfl⟩
    rw [PlanePoint.between_one, one_mul, ← lengthTo_succ hbefore hlast] at hplace
    rwa [arcLength, show points.length - 1 = index + 1 by omega]

/-- The samples lie at their targets, the ends of the polyline first and last. -/
theorem exists_resample (hpoints : 2 ≤ points.length) (hlength : 0 < lengthFrom distance 0 points)
    {pointCount : Nat} (hcount : 2 ≤ pointCount) :
    ∃ result, resample distance points pointCount = .ok result ∧ result.length = pointCount ∧
      result[0]? = points[0]? ∧ result[pointCount - 1]? = points[points.length - 1]? ∧
      ∀ index point, result[index]? = some point →
        LiesAt distance points (targetOf (lengthFrom distance 0 points) pointCount index) point := by
  have htotal : lengthFrom distance 0 points = arcLength distance points := by
    rw [lengthFrom_eq, zero_add]
  have hpositive := hlength
  rw [htotal] at hpositive
  obtain ⟨state, hstate, hsampled⟩ := exists_sampled hpoints hpositive hcount le_rfl
  obtain ⟨front, hfront⟩ : ∃ front, points[0]? = some front :=
    ⟨_, List.getElem?_eq_getElem (by omega)⟩
  obtain ⟨back, hback⟩ : ∃ back, points[points.length - 1]? = some back :=
    ⟨_, List.getElem?_eq_getElem (by omega)⟩
  obtain ⟨sampled, hfirst⟩ : ∃ sampled, state.2[0]? = some sampled :=
    ⟨_, List.getElem?_eq_getElem (by rw [hsampled.length]; omega)⟩
  obtain ⟨hstart, hend⟩ : LiesAt distance points 0 front ∧ LiesAt distance points _ back :=
    liesAt_ends hpoints hfront hback
  refine ⟨(state.2.set 0 front).set (state.2.length - 1) back, ?_, ?_, ?_, ?_, ?_⟩
  · rw [resample]
    dsimp only
    rw [if_pos hlength, hstate, ok_bind, entryAt_eq_ok hfront, ok_bind, entryAt_eq_ok hback,
      ok_bind, entryAt_eq_ok hfirst, ok_bind]
    rfl
  · rw [List.length_set, List.length_set, hsampled.length]
  · rw [List.getElem?_set_ne (by rw [hsampled.length]; omega),
      List.getElem?_set_self (by rw [hsampled.length]; omega), hfront]
  · rw [hsampled.length, List.getElem?_set_self (by
      rw [List.length_set, hsampled.length]; omega), hback]
  · intro index point hpoint
    rw [htotal]
    rw [hsampled.length] at hpoint
    obtain rfl | hlast := eq_or_ne index (pointCount - 1)
    · rw [List.getElem?_set_self (by rw [List.length_set, hsampled.length]; omega)] at hpoint
      obtain rfl := Option.some.inj hpoint
      rwa [targetOf_last _ hcount]
    · rw [List.getElem?_set_ne hlast.symm] at hpoint
      obtain rfl | hinner := eq_or_ne index 0
      · rw [List.getElem?_set_self (by rw [hsampled.length]; omega)] at hpoint
        obtain rfl := Option.some.inj hpoint
        rwa [targetOf, Nat.cast_zero, mul_zero, zero_div]
      · rw [List.getElem?_set_ne hinner.symm] at hpoint
        exact hsampled.placed index point hpoint

end Cursor

/-! ## Exact lengths -/

/-- `std::hypot` of the differences, exactly. -/
noncomputable def euclidean (left right : PlanePoint ℝ) : ℝ :=
  √((right.x - left.x) ^ 2 + (right.y - left.y) ^ 2)

theorem separates_euclidean : Separates euclidean where
  nonneg _ _ := Real.sqrt_nonneg _
  eq_of_zero left right h := by
    have hsum := (Real.sqrt_eq_zero (by positivity)).mp h
    obtain ⟨hx, hy⟩ := (add_eq_zero_iff_of_nonneg (sq_nonneg _) (sq_nonneg _)).mp hsum
    have hx := sub_eq_zero.mp (pow_eq_zero_iff two_ne_zero |>.mp hx)
    have hy := sub_eq_zero.mp (pow_eq_zero_iff two_ne_zero |>.mp hy)
    cases left
    cases right
    exact PlanePoint.mk.injEq .. ▸ ⟨hx.symm, hy.symm⟩

/-- A polyline of positive length is resampled to as many points as asked for, its ends first
and last, and each of them the point at its share of the length. -/
theorem resample_exact (points : List (PlanePoint ℝ)) (pointCount : Nat)
    (hpoints : 2 ≤ points.length) (hlength : 0 < lengthFrom euclidean 0 points)
    (hcount : 2 ≤ pointCount) :
    ∃ result, resample euclidean points pointCount = .ok result ∧ result.length = pointCount ∧
      result.head? = points.head? ∧ result.getLast? = points.getLast? ∧
      ∀ index < pointCount, ∀ point, result[index]? = some point ↔
        LiesAt euclidean points
          (index / ((pointCount - 1 : Nat) : ℝ) * lengthFrom euclidean 0 points) point := by
  obtain ⟨result, hresult, hsize, hfront, hback, hplaced⟩ :=
    exists_resample hpoints hlength hcount
  refine ⟨result, hresult, hsize, ?_, ?_, fun index hindex point => ?_⟩
  · rw [List.head?_eq_getElem?, List.head?_eq_getElem?, hfront]
  · rw [List.getLast?_eq_getElem?, List.getLast?_eq_getElem?, hsize, hback]
  · have hsome : result[index]? = some result[index] := List.getElem?_eq_getElem _
    have hlies := hplaced index _ hsome
    have htarget : targetOf (lengthFrom euclidean 0 points) pointCount index =
        index / ((pointCount - 1 : Nat) : ℝ) * lengthFrom euclidean 0 points := by
      rw [targetOf, mul_comm, mul_div_right_comm]
    rw [htarget] at hlies
    constructor
    · intro h
      rwa [← Option.some.inj (hsome.symm.trans h)]
    · intro h
      rw [hsome, hlies.unique separates_euclidean h rfl]

/-- A segment without length, and one of length five. -/
theorem resample_exact_five : ∃ result,
    resample euclidean [⟨0, 0⟩, ⟨0, 0⟩, ⟨3, 4⟩] 6 = .ok result ∧ result.length = 6 ∧
      result.head? = some ⟨0, 0⟩ ∧ result.getLast? = some ⟨3, 4⟩ := by
  have hlength : 0 < lengthFrom euclidean 0 [⟨0, 0⟩, ⟨0, 0⟩, ⟨3, 4⟩] := by
    norm_num [lengthFrom, euclidean]
  obtain ⟨result, hresult, hsize, hfront, hback, -⟩ :=
    resample_exact [⟨0, 0⟩, ⟨0, 0⟩, ⟨3, 4⟩] 6 (by simp) hlength (by omega)
  exact ⟨result, hresult, hsize, hfront, hback⟩

end CartoSentry.Topology.Exact
