import Mathlib.Algebra.Order.Field.Basic
import Mathlib.Tactic.Linarith

set_option autoImplicit false

/-!
# Polylines by arc length

The length of a polyline up to a vertex, and the point of a polyline at an arc length, over
any ordered field and any distance of its points.
-/

namespace CartoSentry.Foundation

universe u

variable {R : Type u}

structure PlanePoint (R : Type u) where
  x : R
  y : R
  deriving DecidableEq, Repr

section Field

variable [Field R]

/-- The point at a fraction of the way from one point to the other. -/
def PlanePoint.between (left right : PlanePoint R) (fraction : R) : PlanePoint R :=
  ⟨left.x + fraction * (right.x - left.x), left.y + fraction * (right.y - left.y)⟩

@[simp] theorem PlanePoint.between_zero (left right : PlanePoint R) : left.between right 0 = left := by
  simp [between]

@[simp] theorem PlanePoint.between_one (left right : PlanePoint R) : left.between right 1 = right := by
  simp [between]

@[simp] theorem PlanePoint.between_self (point : PlanePoint R) (fraction : R) :
    point.between point fraction = point := by
  simp [between]

variable (distance : PlanePoint R → PlanePoint R → R)

/-- The length up to a vertex. -/
def lengthTo : List (PlanePoint R) → Nat → R
  | left :: right :: rest, index + 1 => distance left right + lengthTo (right :: rest) index
  | _, _ => 0

/-- The length of the whole polyline. -/
def arcLength (points : List (PlanePoint R)) : R :=
  lengthTo distance points (points.length - 1)

variable {distance} {points : List (PlanePoint R)}

@[simp] theorem lengthTo_zero (points : List (PlanePoint R)) : lengthTo distance points 0 = 0 := by
  unfold lengthTo
  split <;> simp_all

theorem lengthTo_succ {left right : PlanePoint R} {index : Nat} (hleft : points[index]? = some left)
    (hright : points[index + 1]? = some right) :
    lengthTo distance points (index + 1) = lengthTo distance points index + distance left right := by
  induction points generalizing index with
  | nil => cases hleft
  | cons first points ih =>
    cases points with
    | nil => cases hright
    | cons second rest =>
      cases index with
      | zero =>
        cases hleft
        cases hright
        rw [lengthTo, lengthTo_zero, lengthTo_zero, add_comm]
      | succ index =>
        rw [lengthTo, ih hleft hright, lengthTo, add_assoc]

variable [LinearOrder R]

variable (distance) in
/-- A point of the polyline, with the arc length at which it lies. -/
inductive LiesAt : List (PlanePoint R) → R → PlanePoint R → Prop where
  | here (left right : PlanePoint R) (rest : List (PlanePoint R)) (fraction : R)
      (hfraction : 0 ≤ fraction ∧ fraction ≤ 1) :
      LiesAt (left :: right :: rest) (fraction * distance left right) (left.between right fraction)
  | later (left right : PlanePoint R) (rest : List (PlanePoint R)) (place : R)
      (point : PlanePoint R) (h : LiesAt (right :: rest) place point) :
      LiesAt (left :: right :: rest) (distance left right + place) point

/-- The points of a segment by the length up to it. -/
theorem LiesAt.of_segment {left right : PlanePoint R} {index : Nat}
    (hleft : points[index]? = some left) (hright : points[index + 1]? = some right) {fraction : R}
    (hfraction : 0 ≤ fraction ∧ fraction ≤ 1) :
    LiesAt distance points (lengthTo distance points index + fraction * distance left right)
      (left.between right fraction) := by
  induction points generalizing index with
  | nil => cases hleft
  | cons first points ih =>
    cases points with
    | nil => cases hright
    | cons second rest =>
      cases index with
      | zero =>
        cases hleft
        cases hright
        rw [lengthTo_zero, zero_add]
        exact .here _ _ _ _ hfraction
      | succ index =>
        rw [lengthTo, add_assoc]
        exact .later _ _ _ _ _ (ih hleft hright)

/-- The distances of a metric, as far as lengths need them. -/
structure Separates (distance : PlanePoint R → PlanePoint R → R) : Prop where
  nonneg : ∀ left right, 0 ≤ distance left right
  eq_of_zero : ∀ left right, distance left right = 0 → left = right

variable [IsStrictOrderedRing R]

theorem LiesAt.nonneg (hdistance : Separates distance) {place : R} {point : PlanePoint R}
    (h : LiesAt distance points place point) : 0 ≤ place := by
  induction h with
  | here left right rest fraction hfraction =>
    exact mul_nonneg hfraction.1 (hdistance.nonneg left right)
  | later left right rest place point h ih => exact add_nonneg (hdistance.nonneg left right) ih

/-- At no length there is the first point. -/
theorem LiesAt.eq_head (hdistance : Separates distance) {first : PlanePoint R}
    {rest : List (PlanePoint R)} {place : R} {point : PlanePoint R}
    (h : LiesAt distance (first :: rest) place point) (hzero : place = 0) : point = first := by
  induction rest generalizing first place with
  | nil => cases h
  | cons second rest ih =>
    cases h with
    | here left right rest fraction hfraction =>
      obtain hfraction | hsame := mul_eq_zero.mp hzero
      · rw [hfraction, PlanePoint.between_zero]
      · rw [hdistance.eq_of_zero first second hsame, PlanePoint.between_self]
    | later left right rest place point h =>
      have hplace := h.nonneg hdistance
      have hlength := hdistance.nonneg first second
      rw [ih h (by linarith), hdistance.eq_of_zero first second (by linarith)]

/-- Where a segment ends the next one starts. -/
theorem LiesAt.here_eq_later (hdistance : Separates distance) {left right : PlanePoint R}
    {rest : List (PlanePoint R)} {fraction place : R} {point : PlanePoint R}
    (hfraction : 0 ≤ fraction ∧ fraction ≤ 1) (h : LiesAt distance (right :: rest) place point)
    (hsame : fraction * distance left right = distance left right + place) :
    left.between right fraction = point := by
  have hplace := h.nonneg hdistance
  have hlength := hdistance.nonneg left right
  have hshort : fraction * distance left right ≤ distance left right :=
    mul_le_of_le_one_left hlength hfraction.2
  rw [h.eq_head hdistance (by linarith)]
  have hreached : fraction * distance left right = distance left right := by linarith
  have hwhole : (fraction - 1) * distance left right = 0 := by
    rw [sub_mul, one_mul, hreached, sub_self]
  obtain hone | hzero := mul_eq_zero.mp hwhole
  · rw [sub_eq_zero.mp hone, PlanePoint.between_one]
  · rw [hdistance.eq_of_zero left right hzero, PlanePoint.between_self]

/-- There is one point at an arc length. -/
theorem LiesAt.unique (hdistance : Separates distance) {place place' : R}
    {point other : PlanePoint R} (h : LiesAt distance points place point)
    (h' : LiesAt distance points place' other) (hsame : place = place') : point = other := by
  induction h generalizing place' with
  | here left right rest fraction hfraction =>
    cases h' with
    | here left right rest fraction' hfraction' =>
      obtain heq | hzero := mul_eq_mul_right_iff.mp hsame
      · rw [heq]
      · rw [hdistance.eq_of_zero left right hzero, PlanePoint.between_self,
          PlanePoint.between_self]
    | later left right rest place other h' => exact here_eq_later hdistance hfraction h' hsame
  | later left right rest place point h ih =>
    cases h' with
    | here left right rest fraction hfraction =>
      exact (here_eq_later hdistance hfraction h hsame.symm).symm
    | later left right rest place' other h' => exact ih h' (add_left_cancel hsame)

end Field

end CartoSentry.Foundation
