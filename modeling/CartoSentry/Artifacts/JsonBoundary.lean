import CartoSentry.Artifacts.Portability
import CartoSentry.Foundation.JsonScanner

set_option autoImplicit false

/-!
# Artifacts: the JSON boundary

`_check_json_depth` and `decode_bounded_json` of `manifest_boundaries.py`. How many
containers the interpreter can have open at once is a parameter.
-/

namespace CartoSentry.Artifacts

open Foundation
open Foundation.JsonScanner

/-- What decoding raises: a `ManifestBoundaryError`, another `ValueError`, or nothing ever. -/
inductive DecodeError where
  | boundary (message : String)
  | value (message : String)
  | unending
  deriving DecidableEq, Repr

/-! ## Depth -/

/-- The variables of the loop. -/
structure DepthScan where
  depth : Nat
  inString : Bool
  escaped : Bool
  deriving DecidableEq, Repr

section Boundary

variable (context : String)

def tooDeep : DecodeError :=
  .boundary s!"{context} nesting exceeds the supported depth"

/-- The body of the loop. -/
def depthStep (scan : DepthScan) (byte : Nat) : Except DecodeError DepthScan :=
  if scan.inString then
    if scan.escaped then .ok { scan with escaped := false }
    else if byte = '\\'.toNat then .ok { scan with escaped := true }
    else if byte = '"'.toNat then .ok { scan with inString := false }
    else .ok scan
  else if byte = '"'.toNat then .ok { scan with inString := true }
  else if byte = '{'.toNat ∨ byte = '['.toNat then
    if maximumJsonDepth < scan.depth + 1 then .error (tooDeep context)
    else .ok { scan with depth := scan.depth + 1 }
  else if (byte = '}'.toNat ∨ byte = ']'.toNat) ∧ 0 < scan.depth then
    .ok { scan with depth := scan.depth - 1 }
  else .ok scan

/-- `_check_json_depth`. -/
def checkJsonDepth (content : List Nat) : Except DecodeError Unit := do
  let _ ← content.foldlM (depthStep context) ⟨0, false, false⟩

/-! ## Decoding -/

/-- The digits of the longest integer that Python converts. -/
def maximumIntegerDigits : Nat := 4300

/-- Whether an integer has too many digits. -/
def isOverlong : Callback → Bool
  | .integer digits => maximumIntegerDigits < digits
  | _ => false

/-- Whether `unique_object` or `reject_nonfinite_constant` raises. -/
def isRefused : Callback → Bool
  | .object keys => !decide keys.Nodup
  | .constant _ => true
  | _ => false

/-- What the conversion of a number, `unique_object` or `reject_nonfinite_constant` raises. -/
def callbackError : Callback → Option DecodeError
  | .integer digits =>
    if maximumIntegerDigits < digits then
      some (.value (s!"Exceeds the limit (4300 digits) for integer string conversion: value has " ++
        s!"{digits} digits; use sys.set_int_max_str_digits() to increase the limit"))
    else none
  | .real _ => none
  | .object keys =>
    if keys.Nodup then none else some (.boundary s!"{context} contains a duplicate key")
  | .constant name =>
    some (.boundary (s!"{context} contains non-standard numeric constant " ++ "'" ++ name ++ "'"))

/-- `json.loads` with the hooks: the first call that raises ends it. -/
def loads (levels : Nat) (text : Text) : Except DecodeError (JsonValue Text) :=
  match (scanDocument levels text).calls.findSome? (callbackError context) with
  | some error => .error error
  | none =>
    match (scanDocument levels text).result with
    | .ok value => .ok value
    | .error .exhausted => .error .unending
    | .error _ => .error (.boundary s!"{context} is not valid JSON")

/-- `decode_bounded_json`. -/
def decodeBoundedJson (levels : Nat) (content : List UInt8) (maximumBytes : Int) :
    Except DecodeError (JsonValue Text) := do
  if content = [] ∨ maximumBytes < content.length then
    throw (.boundary s!"{context} size is outside the supported range")
  checkJsonDepth context (content.map UInt8.toNat)
  match decodeText content with
  | none => throw (.boundary s!"{context} is not valid JSON")
  | some text => loads context levels text

end Boundary

end CartoSentry.Artifacts
