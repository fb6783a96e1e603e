import CartoSentry.Foundation.DoubleArithmetic
import CartoSentry.Foundation.TextDecoding

set_option autoImplicit false

/-!
# Scanning JSON

The scanner of Python's `json` on code points: what it returns, and what it calls out for
on the way. A container is scanned with one level less to go, so that the levels bound the
recursion.
-/

namespace CartoSentry.Foundation.JsonScanner

abbrev Text : Type := List Nat

/-! ## Scans -/

/-- Why a scan does not return. -/
inductive ScanFault where
  | malformed
  | tooDeep
  | exhausted
  deriving DecidableEq, Repr

/-- What a scan calls out for, in the order in which it does. -/
inductive Callback where
  | integer (digits : Nat)
  | real (value : Double)
  | constant (name : String)
  | object (keys : List Text)
  deriving DecidableEq, Repr

structure Scan (A : Type) where
  calls : List Callback
  result : Except ScanFault A

namespace Scan

variable {A B : Type}

protected def pure (value : A) : Scan A :=
  ⟨[], .ok value⟩

protected def bind (first : Scan A) (next : A → Scan B) : Scan B :=
  match first.result with
  | .error fault => ⟨first.calls, .error fault⟩
  | .ok value => ⟨first.calls ++ (next value).calls, (next value).result⟩

instance : Monad Scan where
  pure := Scan.pure
  bind := Scan.bind

def fail (fault : ScanFault) : Scan A :=
  ⟨[], .error fault⟩

def call (callback : Callback) : Scan Unit :=
  ⟨[callback], .ok ()⟩

/-- What has been read, or a malformed text. -/
def ofOption : Option A → Scan A
  | some value => Scan.pure value
  | none => fail .malformed

/-- A scan that returns, with what it called out for. -/
def Returns (scan : Scan A) (calls : List Callback) (value : A) : Prop :=
  scan.calls = calls ∧ scan.result = .ok value

theorem returns_bind {first : Scan A} {next : A → Scan B} {calls : List Callback} {value : B}
    (h : (first >>= next).Returns calls value) :
    ∃ middle before after, first.Returns before middle ∧ (next middle).Returns after value ∧
      calls = before ++ after := by
  obtain ⟨hcalls, hresult⟩ := h
  change (Scan.bind first next).calls = calls at hcalls
  change (Scan.bind first next).result = .ok value at hresult
  unfold Scan.bind at hcalls hresult
  cases hfirst : first.result with
  | error fault =>
    rw [hfirst] at hresult
    cases hresult
  | ok middle =>
    rw [hfirst] at hcalls hresult
    exact ⟨middle, first.calls, (next middle).calls, ⟨rfl, hfirst⟩, ⟨rfl, hresult⟩, hcalls.symm⟩

theorem returns_pure {calls : List Callback} {result value : A}
    (h : (pure result : Scan A).Returns calls value) : calls = [] ∧ result = value :=
  ⟨h.1.symm, Except.ok.inj h.2⟩

theorem returns_bind_ofOption {found : Option A} {next : A → Scan B} {calls : List Callback}
    {value : B} (h : (ofOption found >>= next).Returns calls value) :
    ∃ middle, found = some middle ∧ (next middle).Returns calls value := by
  obtain ⟨middle, before, after, hfound, hnext, rfl⟩ := returns_bind h
  cases found with
  | none => cases hfound.2
  | some read =>
    obtain ⟨rfl, hvalue⟩ := hfound
    cases hvalue
    exact ⟨middle, rfl, hnext⟩

theorem returns_bind_call {callback : Callback} {next : Unit → Scan B} {calls : List Callback}
    {value : B} (h : (call callback >>= next).Returns calls value) :
    ∃ after, (next ()).Returns after value ∧ calls = callback :: after := by
  obtain ⟨_, before, after, hcall, hnext, rfl⟩ := returns_bind h
  cases hcall.1
  exact ⟨after, hnext, rfl⟩

theorem not_returns_fail {fault : ScanFault} {calls : List Callback} {value : A} :
    ¬ (fail fault : Scan A).Returns calls value :=
  fun h => nomatch h.2

/-- The scan does not run out of steps. -/
def Ends (scan : Scan A) : Prop :=
  scan.result ≠ .error .exhausted

theorem ends_pure (value : A) : (pure value : Scan A).Ends :=
  fun h => nomatch h

theorem ends_fail {fault : ScanFault} (h : fault ≠ .exhausted) : (fail fault : Scan A).Ends :=
  fun hresult => h (Except.error.inj hresult)

theorem ends_call (callback : Callback) : (call callback).Ends :=
  fun h => nomatch h

theorem ends_ofOption (found : Option A) : (ofOption found).Ends := by
  cases found with
  | none => exact ends_fail (by decide)
  | some value => exact ends_pure value

theorem ends_bind {first : Scan A} {next : A → Scan B} (hfirst : first.Ends)
    (hnext : ∀ calls value, first.Returns calls value → (next value).Ends) :
    (first >>= next).Ends := by
  change (Scan.bind first next).result ≠ .error .exhausted
  unfold Scan.bind
  cases hresult : first.result with
  | error fault =>
    intro hfault
    apply hfirst
    rw [hresult]
    exact congrArg Except.error (Except.error.inj hfault)
  | ok value => exact hnext first.calls value ⟨rfl, hresult⟩

theorem ends_bind_ofOption {found : Option A} {next : A → Scan B}
    (h : ∀ value, found = some value → (next value).Ends) : (ofOption found >>= next).Ends := by
  apply ends_bind (ends_ofOption found)
  intro calls value hreturns
  cases found with
  | none => cases hreturns.2
  | some read =>
    cases hreturns.2
    exact h _ rfl

end Scan

/-! ## Characters -/

def quote : Nat := '"'.toNat

def backslash : Nat := '\\'.toNat

def isBlank (point : Nat) : Bool :=
  point == ' '.toNat || point == '\t'.toNat || point == '\n'.toNat || point == '\r'.toNat

def skipBlanks (text : Text) : Text :=
  text.dropWhile isBlank

def isDigit (point : Nat) : Bool :=
  '0'.toNat ≤ point && point ≤ '9'.toNat

/-- The code points of a word. -/
def word (text : String) : Text :=
  text.toList.map Char.toNat

/-- What follows a word. -/
def afterWord (text : Text) (expected : Text) : Option Text :=
  if expected.isPrefixOf text then some (text.drop expected.length) else none

/-! ## Strings -/

def hexDigit? (point : Nat) : Option Nat :=
  if isDigit point then some (point - '0'.toNat)
  else if 'a'.toNat ≤ point ∧ point ≤ 'f'.toNat then some (point - 'a'.toNat + 10)
  else if 'A'.toNat ≤ point ∧ point ≤ 'F'.toNat then some (point - 'A'.toNat + 10)
  else none

/-- The unit that four hexadecimal digits name. -/
def hexUnit? (a b c d : Nat) : Option Nat := do
  let first ← hexDigit? a
  let second ← hexDigit? b
  let third ← hexDigit? c
  let fourth ← hexDigit? d
  return ((first * 16 + second) * 16 + third) * 16 + fourth

/-- The unit that a short escape names. -/
def escapeUnit? (point : Nat) : Option Nat :=
  if point = quote ∨ point = backslash ∨ point = '/'.toNat then some point
  else if point = 'b'.toNat then some 8
  else if point = 'f'.toNat then some 12
  else if point = 'n'.toNat then some 10
  else if point = 'r'.toNat then some 13
  else if point = 't'.toNat then some 9
  else none

/-- The units up to the closing quote, each with whether digits name it, and what
follows the quote. -/
def scanUnits : Text → Option (List (Nat × Bool) × Text)
  | [] => none
  | point :: text =>
    if point = quote then some ([], text)
    else if point = backslash then
      match text with
      | [] => none
      | escape :: text =>
        if escape = 'u'.toNat then
          match text with
          | a :: b :: c :: d :: text => do
            let unit ← hexUnit? a b c d
            let (units, rest) ← scanUnits text
            return ((unit, true) :: units, rest)
          | _ => none
        else do
          let unit ← escapeUnit? escape
          let (units, rest) ← scanUnits text
          return ((unit, false) :: units, rest)
    else if point < 32 then none
    else do
      let (units, rest) ← scanUnits text
      return ((point, false) :: units, rest)

/-- Two surrogates that digits name are one code point. -/
def joinUnits : List (Nat × Bool) → Text
  | (high, true) :: (low, true) :: rest =>
    if isHighSurrogate high && isLowSurrogate low then joinSurrogates high low :: joinUnits rest
    else high :: joinUnits ((low, true) :: rest)
  | (unit, _) :: rest => unit :: joinUnits rest
  | [] => []

/-- `scanstring`, behind the opening quote. -/
def scanString (text : Text) : Scan (Text × Text) := do
  let (units, rest) ← Scan.ofOption (scanUnits text)
  return (joinUnits units, rest)

/-! ## Numbers -/

/-- The parts of a number. -/
structure Numeral where
  negative : Bool
  whole : Text
  fraction : Text
  exponent : Option (Bool × Text)

def digitsValue (digits : Text) : Nat :=
  digits.foldl (fun value point => value * 10 + (point - '0'.toNat)) 0

namespace Numeral

def isReal (numeral : Numeral) : Bool :=
  !numeral.fraction.isEmpty || numeral.exponent.isSome

def integer (numeral : Numeral) : Int :=
  if numeral.negative then -(digitsValue numeral.whole : Int) else digitsValue numeral.whole

def scale (numeral : Numeral) : ℚ :=
  match numeral.exponent with
  | none => 1
  | some (false, digits) => 10 ^ digitsValue digits
  | some (true, digits) => 1 / 10 ^ digitsValue digits

/-- The number without its sign. -/
def magnitude (numeral : Numeral) : ℚ :=
  (digitsValue (numeral.whole ++ numeral.fraction) : ℚ) / 10 ^ numeral.fraction.length *
    numeral.scale

end Numeral

def scanSign (minus : Nat) : Text → Bool × Text
  | [] => (false, [])
  | point :: text => if point = minus then (true, text) else (false, point :: text)

def scanWhole : Text → Option (Text × Text)
  | [] => none
  | point :: text =>
    if point = '0'.toNat then some ([point], text)
    else if isDigit point then some (point :: text.takeWhile isDigit, text.dropWhile isDigit)
    else none

def scanFraction : Text → Text × Text
  | point :: text =>
    if point = '.'.toNat ∧ text.takeWhile isDigit ≠ [] then
      (text.takeWhile isDigit, text.dropWhile isDigit)
    else ([], point :: text)
  | [] => ([], [])

/-- The sign of an exponent. -/
def scanExponentSign : Text → Bool × Text
  | point :: text =>
    if point = '-'.toNat then (true, text)
    else if point = '+'.toNat then (false, text)
    else (false, point :: text)
  | [] => (false, [])

def scanExponent : Text → Option (Bool × Text) × Text
  | point :: text =>
    if (point = 'e'.toNat ∨ point = 'E'.toNat) ∧
        (scanExponentSign text).2.takeWhile isDigit ≠ [] then
      (some ((scanExponentSign text).1, (scanExponentSign text).2.takeWhile isDigit),
        (scanExponentSign text).2.dropWhile isDigit)
    else (none, point :: text)
  | [] => (none, [])

def scanNumeral (text : Text) : Option (Numeral × Text) := do
  let (negative, text) := scanSign '-'.toNat text
  let (whole, text) ← scanWhole text
  let (fraction, text) := scanFraction text
  let (exponent, text) := scanExponent text
  return (⟨negative, whole, fraction, exponent⟩, text)

/-- `_match_number`. -/
def scanNumber (text : Text) : Scan (JsonValue Text × Text) := do
  let (numeral, rest) ← Scan.ofOption (scanNumeral text)
  if numeral.isReal then
    Scan.call (.real (doubleOf numeral.negative numeral.magnitude))
    return (.real (doubleOf numeral.negative numeral.magnitude), rest)
  else
    Scan.call (.integer numeral.whole.length)
    return (.integer numeral.integer, rest)

/-! ## Containers -/

/-- A character behind blanks, and the blanks after it. -/
def scanMark (mark : Nat) (text : Text) : Option Text :=
  match skipBlanks text with
  | [] => none
  | point :: rest => if point = mark then some (skipBlanks rest) else none

/-- Behind an element: whether the container ends there, and what follows. -/
def scanDelimiter (close : Nat) (text : Text) : Option (Bool × Text) :=
  match skipBlanks text with
  | [] => none
  | point :: rest =>
    if point = close then some (true, rest)
    else if point = ','.toNat then some (false, skipBlanks rest)
    else none

section Containers

variable (scanItem : Text → Scan (JsonValue Text × Text))

/-- The elements of an array that has some. -/
def scanItems : Nat → Text → Scan (List (JsonValue Text) × Text)
  | 0, _ => Scan.fail .exhausted
  | steps + 1, text => do
    let (item, rest) ← scanItem text
    let (closed, rest) ← Scan.ofOption (scanDelimiter ']'.toNat rest)
    if closed then
      return ([item], rest)
    let (items, rest) ← scanItems steps rest
    return (item :: items, rest)

/-- `_parse_array`, behind the opening bracket. -/
def scanArray (text : Text) : Scan (JsonValue Text × Text) :=
  match afterWord (skipBlanks text) [']'.toNat] with
  | some rest => return (.array [], rest)
  | none => do
    let (items, rest) ← scanItems scanItem (text.length + 1) (skipBlanks text)
    return (.array items, rest)

/-- A key and the colon behind it. -/
def scanKey (text : Text) : Scan (Text × Text) := do
  let rest ← Scan.ofOption (afterWord text [quote])
  let (key, rest) ← scanString rest
  let rest ← Scan.ofOption (scanMark ':'.toNat rest)
  return (key, rest)

/-- The members of an object that has some. -/
def scanMembers : Nat → Text → Scan (List (Text × JsonValue Text) × Text)
  | 0, _ => Scan.fail .exhausted
  | steps + 1, text => do
    let (key, rest) ← scanKey text
    let (item, rest) ← scanItem rest
    let (closed, rest) ← Scan.ofOption (scanDelimiter '}'.toNat rest)
    if closed then
      return ([(key, item)], rest)
    let (members, rest) ← scanMembers steps rest
    return ((key, item) :: members, rest)

/-- `_parse_object`, behind the opening brace. -/
def scanObject (text : Text) : Scan (JsonValue Text × Text) :=
  match afterWord (skipBlanks text) ['}'.toNat] with
  | some rest => do
    Scan.call (.object [])
    return (.object [], rest)
  | none => do
    let (members, rest) ← scanMembers scanItem (text.length + 1) (skipBlanks text)
    Scan.call (.object (members.map Prod.fst))
    return (.object members, rest)

end Containers

/-! ## Values -/

/-- The words that are values, with the name under which a constant is called out for. -/
def wordValues : List (String × JsonValue Text × Option String) :=
  [("null", .null, none), ("true", .boolean true, none), ("false", .boolean false, none),
    ("NaN", .real .nan, some "NaN"), ("Infinity", .real (.infinity false), some "Infinity"),
    ("-Infinity", .real (.infinity true), some "-Infinity")]

/-- The word that starts the text, with what follows. -/
def scanWord (text : Text) : Option ((String × JsonValue Text × Option String) × Text) :=
  wordValues.findSome? fun entry => (afterWord text (word entry.1)).map fun rest => (entry, rest)

/-- A value that is no container. -/
def scanAtom (text : Text) : Scan (JsonValue Text × Text) :=
  match scanWord text with
  | some ((_, value, none), rest) => return (value, rest)
  | some ((_, value, some name), rest) => do
    Scan.call (.constant name)
    return (value, rest)
  | none => scanNumber text

/-- `_scan_once`, the containers scanned as given. -/
def scanOnce (scanObject scanArray : Text → Scan (JsonValue Text × Text)) :
    Text → Scan (JsonValue Text × Text)
  | [] => Scan.fail .malformed
  | point :: text =>
    if point = quote then do
      let (value, rest) ← scanString text
      return (.string value, rest)
    else if point = '{'.toNat then scanObject text
    else if point = '['.toNat then scanArray text
    else scanAtom (point :: text)

/-- A value with at most so many containers open at once. -/
def scanValue : Nat → Text → Scan (JsonValue Text × Text)
  | 0 => scanOnce (fun _ => Scan.fail .tooDeep) (fun _ => Scan.fail .tooDeep)
  | levels + 1 => scanOnce (scanObject (scanValue levels)) (scanArray (scanValue levels))

/-- `JSONDecoder.decode`. -/
def scanDocument (levels : Nat) (text : Text) : Scan (JsonValue Text) := do
  let (value, rest) ← scanValue levels (skipBlanks text)
  if skipBlanks rest = [] then
    return value
  else
    Scan.fail .malformed

end CartoSentry.Foundation.JsonScanner
