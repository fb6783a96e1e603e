import CartoSentry.Contracts.Raised
import CartoSentry.Foundation.DoubleArithmetic
import Mathlib.Data.Rat.Floor

set_option autoImplicit false

/-!
# Lidar integrity: histograms

`_FixedHistogram`: counts in bins of one width, and the quantiles that are read off them.
-/

namespace CartoSentry.LidarIntegrity

open Contracts (Raised)
open Foundation (Double)

/-! ## Numbers -/

/-- What a histogram takes of the numbers that it counts. -/
class Arithmetic (N : Type) where
  isFinite : N → Bool
  lt : N → N → Bool
  add : N → N → N
  sub : N → N → N
  mul : N → N → N
  /-- `left / right` -/
  div : N → N → Except Raised N
  ofInt : Int → N
  half : N
  /-- `int(value)` -/
  truncate : N → Except Raised Int
  /-- `math.ceil(value)` -/
  ceil : N → Except Raised Int

/-- Exact arithmetic. -/
instance : Arithmetic ℚ where
  isFinite _ := true
  lt left right := left < right
  add := (· + ·)
  sub := (· - ·)
  mul := (· * ·)
  div left right :=
    if right = 0 then .error (.zeroDivisionError "division by zero") else .ok (left / right)
  ofInt := Int.cast
  half := 1 / 2
  truncate value := .ok (if 0 ≤ value then ⌊value⌋ else ⌈value⌉)
  ceil value := .ok ⌈value⌉

/-- A whole number of a finite float. -/
def wholeOf (round : ℚ → Int) : Double → Except Raised Int
  | .finite value => .ok (round value)
  | .negativeZero => .ok 0
  | .infinity _ => .error (.overflowError "cannot convert float infinity to integer")
  | .nan => .error (.valueError "cannot convert float NaN to integer")

instance : Arithmetic Double where
  isFinite := Double.isFinite
  lt := Double.lt
  add := Double.add
  sub := Double.sub
  mul := Double.mul
  div left right :=
    if right.eq (.finite 0) then .error (.zeroDivisionError "float division by zero")
    else .ok (left.div right)
  ofInt value := .rounded false value
  half := .finite (1 / 2)
  truncate := wholeOf fun value => if 0 ≤ value then ⌊value⌋ else ⌈value⌉
  ceil := wholeOf fun value => ⌈value⌉

/-! ## Counters -/

/-- `counts[index] += 1`: an index below zero counts from the end. -/
def increment (counts : List Nat) (index : Int) : Except Raised (List Nat) :=
  let place := if index < 0 then index + counts.length else index
  if 0 ≤ place ∧ place < counts.length then .ok (counts.modify place.toNat (· + 1))
  else .error (.indexError "list index out of range")

/-! ## The histogram -/

structure LidarQuantiles (N : Type) where
  probabilities : List N
  values : List (Option N)
  finiteCount : Nat
  belowHistogramCount : Nat
  aboveHistogramCount : Nat
  deriving DecidableEq, Repr

structure FixedHistogram (N : Type) where
  minimum : N
  maximum : N
  bins : Nat
  counts : List Nat
  finiteCount : Nat
  below : Nat
  above : Nat
  deriving DecidableEq, Repr

/-- The loop over the counts: the first bin up to which there are as many as the target. -/
def selectBin (target cumulative : Int) (index : Nat) : List Nat → Option Nat
  | [] => none
  | count :: rest =>
    if target ≤ cumulative + count then some index
    else selectBin target (cumulative + count) (index + 1) rest

namespace FixedHistogram

variable {N : Type} [Arithmetic N]

/-- `__init__` -/
def construct (minimum maximum : N) (bins : Nat) : FixedHistogram N where
  minimum := minimum
  maximum := maximum
  bins := bins
  counts := List.replicate bins 0
  finiteCount := 0
  below := 0
  above := 0

variable (histogram : FixedHistogram N)

/-- The bin of a finite value, the ends for one outside. -/
def binOf (value : N) : Except Raised Int :=
  if Arithmetic.lt value histogram.minimum then .ok 0
  else if Arithmetic.lt histogram.maximum value then .ok (histogram.bins - 1)
  else do
    let fraction ← Arithmetic.div (Arithmetic.sub value histogram.minimum)
      (Arithmetic.sub histogram.maximum histogram.minimum)
    let index ← Arithmetic.truncate (Arithmetic.mul fraction (Arithmetic.ofInt histogram.bins))
    return min (histogram.bins - 1) index

def add (value : N) : Except Raised (FixedHistogram N) :=
  if Arithmetic.isFinite value then do
    let index ← histogram.binOf value
    let counts ← increment histogram.counts index
    let isBelow := Arithmetic.lt value histogram.minimum
    let isAbove := !isBelow && Arithmetic.lt histogram.maximum value
    return { histogram with
      counts := counts
      finiteCount := histogram.finiteCount + 1
      below := if isBelow then histogram.below + 1 else histogram.below
      above := if isAbove then histogram.above + 1 else histogram.above }
  else return histogram

/-- The middle of the bin where the counts reach the probability. -/
def quantile (probability : N) : Except Raised N := do
  let whole ← Arithmetic.ceil
    (Arithmetic.mul probability (Arithmetic.ofInt histogram.finiteCount))
  let selected := (selectBin (max 1 whole) 0 0 histogram.counts).getD (histogram.bins - 1)
  let width ← Arithmetic.div (Arithmetic.sub histogram.maximum histogram.minimum)
    (Arithmetic.ofInt histogram.bins)
  return Arithmetic.add histogram.minimum
    (Arithmetic.mul (Arithmetic.add (Arithmetic.ofInt selected) Arithmetic.half) width)

def quantiles (probabilities : List N) : Except Raised (LidarQuantiles N) := do
  let values ←
    if histogram.finiteCount = 0 then pure (probabilities.map fun _ => none)
    else probabilities.mapM fun probability => some <$> histogram.quantile probability
  return {
    probabilities := probabilities
    values := values
    finiteCount := histogram.finiteCount
    belowHistogramCount := histogram.below
    aboveHistogramCount := histogram.above }

/-- The values are added one after the other. -/
def addAll (values : List N) : Except Raised (FixedHistogram N) :=
  values.foldlM add histogram

end FixedHistogram

end CartoSentry.LidarIntegrity
