import CartoSentry.MotionAlignment.Exact

set_option autoImplicit false

/-!
# Motion alignment: floats

The arithmetic of Python's floats, and that with it the order of the points of a frame does reach
the report.
-/

namespace CartoSentry.MotionAlignment

open Contracts (Raised)
open Foundation (Agree Double)

/-! ## Roots -/

/-- The integer root of a number, bit by bit from the highest. -/
def floorRoot (value : Nat) : Nat → Nat → Nat
  | 0, root => root
  | bit + 1, root =>
    if (root + 2 ^ bit) * (root + 2 ^ bit) ≤ value then floorRoot value bit (root + 2 ^ bit)
    else floorRoot value bit root

/-- The double nearest to the root of a number that is not negative.  The root is cut off behind
its first 60 bits, with a last bit that says whether something was cut. -/
def nearestRoot (value : ℚ) : Double :=
  let shift := 60 - Int.log 2 value / 2
  let scaled := value * 4 ^ shift
  let root := floorRoot ⌊scaled⌋.toNat 64 0
  let sticky := if (root * root : ℚ) = scaled then 0 else 1
  .rounded false ((2 * root + sticky : ℚ) / 2 ^ (shift + 1))

/-- `math.sqrt` -/
def sqrtDouble (value : Double) : Double :=
  match value with
  | .finite number => nearestRoot number
  | other => other

/-- `math.hypot` of finite numbers, rounded once. -/
def hypotDouble (x y : Double) : Double :=
  nearestRoot (x.number ^ 2 + y.number ^ 2)

/-! ## Sums -/

/-- `sum` over floats, with the rest of the additions and its compensation so far. -/
def compensatedFrom (total compensation : Double) : List Double → Double
  | [] =>
    if compensation.isFinite = true ∧ compensation.number ≠ 0 then total.add compensation else total
  | value :: values =>
    let next := total.add value
    let lost :=
      if value.abs.le total.abs = true then (total.sub next).add value
      else (value.sub next).add total
    compensatedFrom next (compensation.add lost) values

/-- `sum` of floats. -/
def compensatedSum (values : List Double) : Double :=
  compensatedFrom (.finite 0) (.finite 0) values

/-! ## Floats -/

/-- `math.floor` -/
def floorDouble : Double → Except Raised Int
  | .finite value => .ok ⌊value⌋
  | .negativeZero => .ok 0
  | .infinity _ => .error (.overflowError "cannot convert float infinity to integer")
  | .nan => .error (.valueError "cannot convert float NaN to integer")

/-- `value ** 2` -/
def squareDouble (value : Double) : Except Raised Double :=
  if value.isFinite = true ∧ (value.mul value).isFinite = false then
    .error (.overflowError "(34, 'Numerical result out of range')")
  else .ok (value.mul value)

/-- `float(value)` of a whole number. -/
def floatOfInt (value : Int) : Except Raised Double :=
  if (Double.rounded false value).isFinite = false then
    .error (.overflowError "int too large to convert to float")
  else .ok (.rounded false value)

/-- The arithmetic of floats, the inverse cosine given. -/
def doubleArithmetic (acos : Double → Double) : Arithmetic Double where
  ofNat := Double.ofNat
  ofInt := floatOfInt
  isFinite := Double.isFinite
  add := Double.add
  sub := Double.sub
  mul := Double.mul
  div := Double.div
  square := squareDouble
  abs := Double.abs
  sqrt := sqrtDouble
  acos := acos
  hypot := hypotDouble
  floor := floorDouble
  lt := Double.lt
  le := Double.le
  ratio left right := .rounded false ((left : ℚ) / right)
  sum := compensatedSum

/-! ## The order of the points -/

/-- The errors that an analysis reports for its frames. -/
def reportedErrors (outcome : Except Raised (LidarAlignmentReport Double)) :
    Option (List (Option Double)) :=
  outcome.toOption.map fun report => report.frames.map FrameAlignmentEvidence.analyticTruthRmseM

/-- Reports that agree but for the offsets report the same errors. -/
theorem reportedErrors_of_agree {outcome other : Except Raised (LidarAlignmentReport Double)}
    (h : Agree (fun report report' => report.anonymous = report'.anonymous) outcome other) :
    reportedErrors outcome = reportedErrors other := by
  have hforget : ∀ report : LidarAlignmentReport Double,
      report.frames.map FrameAlignmentEvidence.analyticTruthRmseM =
        report.anonymous.frames.map FrameAlignmentEvidence.analyticTruthRmseM := by
    intro report
    unfold LidarAlignmentReport.anonymous
    rw [List.map_map]
    rfl
  cases outcome with
  | ok report =>
    cases other with
    | ok report' =>
      have hreports : report.anonymous = report'.anonymous := h
      refine congrArg some ?_
      dsimp only
      rw [hforget, hreports, ← hforget]
    | error _ => exact absurd h id
  | error _ =>
    cases other with
    | ok _ => exact absurd h id
    | error _ => rfl

/-- With floats the far point first or last makes a difference of one bit to the error. -/
theorem float_order_reported :
    ¬ ∀ frames others : List (AlignmentFrameInput Double), List.Forall₂ SamePoints frames others →
      Agree (fun report report' => report.anonymous = report'.anonymous)
        ((sampleAnalyzer (doubleArithmetic fun _ => .finite 0)).analyze frames)
        ((sampleAnalyzer (doubleArithmetic fun _ => .finite 0)).analyze others) := by
  intro h
  have hfirst : reportedErrors ((sampleAnalyzer (doubleArithmetic fun _ => .finite 0)).analyze
      (threePoints (doubleArithmetic fun _ => .finite 0) false)) =
        some [some (.finite (1300077228592327 / 16777216)), none] := by
    decide +kernel
  have hlast : reportedErrors ((sampleAnalyzer (doubleArithmetic fun _ => .finite 0)).analyze
      (threePoints (doubleArithmetic fun _ => .finite 0) true)) =
        some [some (.finite (5200308914369309 / 67108864)), none] := by
    decide +kernel
  have hsame := reportedErrors_of_agree (h _ _ (threePoints_samePoints (doubleArithmetic fun _ => .finite 0)))
  rw [hfirst, hlast] at hsame
  exact absurd hsame (by decide +kernel)

end CartoSentry.MotionAlignment
