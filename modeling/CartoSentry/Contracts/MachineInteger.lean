import Mathlib.Algebra.Group.Int.Defs
import Mathlib.Algebra.Group.Nat.Defs
import Mathlib.Data.Int.Init
import Mathlib.Order.Basic

set_option autoImplicit false

/-!
# Contracts: machine integers

`std::int64_t` and `std::uint64_t` as the integers that they hold.  An operation whose
exact result its type does not hold is a fault of its own: of a signed type it is
undefined, of an unsigned one it would wrap.
-/

namespace CartoSentry.Contracts

/-- What the native contracts throw, and what they must never do. -/
inductive Fault where
  | invalidArgument (message : String)
  | overflowError (message : String)
  | outOfRange
  deriving DecidableEq, Repr

/-- The bounds of `std::int64_t`. -/
def Representable (value : Int) : Prop :=
  -2 ^ 63 ≤ value ∧ value < 2 ^ 63

instance (value : Int) : Decidable (Representable value) :=
  inferInstanceAs (Decidable (_ ∧ _))

/-- `std::int64_t` -/
structure Int64Value where
  value : Int
  representable : Representable value
  deriving DecidableEq

namespace Int64Value

@[ext]
theorem ext {left right : Int64Value} (h : left.value = right.value) : left = right := by
  cases left
  cases right
  cases h
  rfl

/-- `std::numeric_limits<std::int64_t>::max()` -/
def max : Int64Value :=
  ⟨2 ^ 63 - 1, by decide⟩

/-- `std::numeric_limits<std::int64_t>::min()` -/
def min : Int64Value :=
  ⟨-2 ^ 63, by decide⟩

/-- An exact result, where the type holds it. -/
def ofInt (value : Int) : Except Fault Int64Value :=
  if h : Representable value then .ok ⟨value, h⟩ else .error .outOfRange

def add (left right : Int64Value) : Except Fault Int64Value :=
  ofInt (left.value + right.value)

def sub (left right : Int64Value) : Except Fault Int64Value :=
  ofInt (left.value - right.value)

def neg (operand : Int64Value) : Except Fault Int64Value :=
  ofInt (-operand.value)

theorem ofInt_eq {value : Int} (h : Representable value) : ofInt value = .ok ⟨value, h⟩ :=
  dif_pos h

theorem ofInt_value (operand : Int64Value) : ofInt operand.value = .ok operand :=
  ofInt_eq operand.representable

end Int64Value

/-- The greatest `std::uint64_t`. -/
def uint64Max : Nat :=
  2 ^ 64 - 1

/-- An exact result of unsigned arithmetic, where `std::uint64_t` holds it. -/
def unsigned (value : Nat) : Except Fault Nat :=
  if value ≤ uint64Max then .ok value else .error .outOfRange

theorem unsigned_eq {value : Nat} (h : value ≤ uint64Max) : unsigned value = .ok value :=
  if_pos h

end CartoSentry.Contracts
