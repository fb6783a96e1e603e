import CartoSentry.Contracts.MachineInteger
import CartoSentry.Foundation.Outcome
import Mathlib.Algebra.Order.Floor.Ring
import Mathlib.Data.List.Induction
import Mathlib.Data.List.TakeWhile
import Mathlib.Data.Nat.Digits.Defs
import Mathlib.Data.Rat.Floor
import Mathlib.Tactic.FieldSimp
import Mathlib.Tactic.Linarith

set_option autoImplicit false

/-!
# Contracts: decimal seconds

`decimal_seconds_to_nanoseconds` of `time.cpp`, and the lexemes that it reads.
-/

namespace CartoSentry.Contracts

open Foundation (bind_eq_ok_iff ok_bind)

/-! ## The parser -/

def maximumDecimalSecondsBytes : Nat :=
  64

def isDigit (byte : UInt8) : Bool :=
  '0'.toNat ≤ byte.toNat && byte.toNat ≤ '9'.toNat

/-- `byte - '0'` -/
def digitOf (byte : UInt8) : Nat :=
  byte.toNat - '0'.toNat

/-- The number that `std::from_chars` reads from digits. -/
def readNumber (digits : List UInt8) : Nat :=
  digits.foldl (fun value byte => value * 10 + digitOf byte) 0

/-- `parse_unsigned` -/
def parseUnsigned (lexeme : List UInt8) : Except Fault Nat :=
  if lexeme = [] ∨ lexeme.all isDigit = false ∨ uint64Max < readNumber lexeme then
    .error (.invalidArgument "plain decimal seconds required")
  else .ok (readNumber lexeme)

def nanosecondsPerSecond : Nat :=
  1000000000

def positiveLimit : Nat :=
  2 ^ 63 - 1

/-- `magnitude_limit` -/
def magnitudeLimit (negative : Bool) : Except Fault Nat :=
  if negative then unsigned (positiveLimit + 1) else pure positiveLimit

/-- The signed value, where the most negative one has no positive counterpart. -/
def withSign (magnitude : Nat) (negative : Bool) : Except Fault Int64Value :=
  if negative = false then Int64Value.ofInt magnitude
  else if magnitude = positiveLimit + 1 then pure Int64Value.min
  else do
    let positive ← Int64Value.ofInt magnitude
    positive.neg

/-- `checked_nanosecond_magnitude` -/
def checkedNanosecondMagnitude (seconds fractionNs : Nat) (negative : Bool) :
    Except Fault Int64Value := do
  let limit ← magnitudeLimit negative
  if limit / nanosecondsPerSecond < seconds ∨
      (seconds = limit / nanosecondsPerSecond ∧ limit % nanosecondsPerSecond < fractionNs) then
    .error (.overflowError "nanosecond timestamp is out of range")
  else
    let product ← unsigned (seconds * nanosecondsPerSecond)
    let magnitude ← unsigned (product + fractionNs)
    withSign magnitude negative

/-- What the loop over the fraction keeps. -/
structure Fraction where
  fractionNs : Nat
  fractionDigits : Nat
  roundUp : Bool
  deriving DecidableEq, Repr

/-- The ninth digit is the last to be kept, and the tenth decides on rounding. -/
def Fraction.read (state : Fraction) (byte : UInt8) : Except Fault Fraction :=
  if state.fractionDigits < 9 then do
    let scaled ← unsigned (state.fractionNs * 10)
    let fractionNs ← unsigned (scaled + digitOf byte)
    pure ⟨fractionNs, state.fractionDigits + 1, state.roundUp⟩
  else if state.fractionDigits = 9 then
    pure ⟨state.fractionNs, state.fractionDigits + 1, '5'.toNat ≤ byte.toNat⟩
  else pure { state with fractionDigits := state.fractionDigits + 1 }

/-- The loop that multiplies by ten, once for each digit that is missing. -/
def padFraction : Nat → Nat → Except Fault Nat
  | 0, fractionNs => pure fractionNs
  | missing + 1, fractionNs => do
    let scaled ← unsigned (fractionNs * 10)
    padFraction missing scaled

/-- What follows the digits before the point. -/
def readFraction (rest : List UInt8) : Except Fault Fraction :=
  match rest with
  | [] => pure ⟨0, 0, false⟩
  | point :: fraction =>
    if point.toNat ≠ '.'.toNat then .error (.invalidArgument "plain decimal seconds required")
    else do
      let state ← (fraction.takeWhile isDigit).foldlM Fraction.read ⟨0, 0, false⟩
      if fraction.takeWhile isDigit = [] then
        .error (.invalidArgument "fractional digits required")
      else if fraction.dropWhile isDigit ≠ [] then
        .error (.invalidArgument "plain decimal seconds required")
      else pure state

def addRounding (roundUp : Bool) (fractionNs : Nat) : Except Fault Nat :=
  if roundUp then unsigned (fractionNs + 1) else pure fractionNs

/-- Rounding, with its carry into the seconds. -/
def roundMagnitude (seconds : Nat) (state : Fraction) (negative : Bool) :
    Except Fault Int64Value := do
  let padded ← padFraction (9 - state.fractionDigits) state.fractionNs
  let fractionNs ← addRounding state.roundUp padded
  if fractionNs = nanosecondsPerSecond then
    if seconds = uint64Max then .error (.overflowError "nanosecond timestamp is out of range")
    else
      let carried ← unsigned (seconds + 1)
      checkedNanosecondMagnitude carried 0 negative
  else checkedNanosecondMagnitude seconds fractionNs negative

/-- The sign, and what follows it. -/
def readSign (lexeme : List UInt8) : Bool × List UInt8 :=
  match lexeme with
  | first :: rest =>
    if first.toNat = '+'.toNat ∨ first.toNat = '-'.toNat then
      (first.toNat = '-'.toNat, rest)
    else (false, lexeme)
  | [] => (false, [])

/-- `decimal_seconds_to_nanoseconds` -/
def decimalSecondsToNanoseconds (lexeme : List UInt8) : Except Fault Int64Value :=
  if lexeme = [] ∨ maximumDecimalSecondsBytes < lexeme.length then
    .error (.invalidArgument "plain decimal seconds required")
  else
    let signed := readSign lexeme
    let whole := signed.2.takeWhile isDigit
    if whole = [] then .error (.invalidArgument "plain decimal seconds required")
    else do
      let seconds ← parseUnsigned whole
      let state ← readFraction (signed.2.dropWhile isDigit)
      roundMagnitude seconds state signed.1

/-! ## Lexemes -/

/-- An optional sign, digits, and optionally a point with digits behind it. -/
structure DecimalLexeme where
  /-- Whether the sign is a minus. -/
  sign : Option Bool
  whole : List (Fin 10)
  fraction : Option (List (Fin 10))
  whole_ne_nil : whole ≠ []
  fraction_ne_nil : fraction ≠ some []

namespace DecimalLexeme

def signText : Option Bool → List Char
  | none => []
  | some false => ['+']
  | some true => ['-']

def digitChar (digit : Fin 10) : Char :=
  Char.ofNat ('0'.toNat + digit.val)

def fractionText : Option (List (Fin 10)) → List Char
  | none => []
  | some digits => '.' :: digits.map digitChar

/-- The characters of the lexeme. -/
def text (lexeme : DecimalLexeme) : List Char :=
  signText lexeme.sign ++ (lexeme.whole.map digitChar ++ fractionText lexeme.fraction)

/-- The bytes of the lexeme. -/
def bytes (lexeme : DecimalLexeme) : List UInt8 :=
  lexeme.text.map fun c => UInt8.ofNat c.toNat

/-- The number of the digits, the first counting the most. -/
def numberOf (digits : List (Fin 10)) : Nat :=
  Nat.ofDigits 10 (digits.reverse.map Fin.val)

def fractionDigits (lexeme : DecimalLexeme) : List (Fin 10) :=
  lexeme.fraction.getD []

/-- The seconds, without the sign. -/
def magnitude (lexeme : DecimalLexeme) : ℚ :=
  numberOf lexeme.whole + numberOf lexeme.fractionDigits / 10 ^ lexeme.fractionDigits.length

/-- The nanoseconds, rounded to nearest with halves away from zero. -/
def nanoseconds (lexeme : DecimalLexeme) : Int :=
  if lexeme.sign = some true then -⌊lexeme.magnitude * 10 ^ 9 + 1 / 2⌋
  else ⌊lexeme.magnitude * 10 ^ 9 + 1 / 2⌋

end DecimalLexeme

/-! ## Numbers -/

open DecimalLexeme

def digitByte (digit : Fin 10) : UInt8 :=
  UInt8.ofNat (digitChar digit).toNat

theorem toNat_digitByte (digit : Fin 10) : (digitByte digit).toNat = '0'.toNat + digit.val := by
  revert digit
  decide

theorem isDigit_digitByte (digit : Fin 10) : isDigit (digitByte digit) = true := by
  revert digit
  decide

theorem digitOf_digitByte (digit : Fin 10) : digitOf (digitByte digit) = digit.val := by
  rw [digitOf, toNat_digitByte, Nat.add_sub_cancel_left]

theorem exists_digitByte {byte : UInt8} (h : isDigit byte = true) :
    ∃ digit, digitByte digit = byte := by
  rw [isDigit, Bool.and_eq_true, decide_eq_true_eq, decide_eq_true_eq] at h
  have hzero : '0'.toNat = 48 := rfl
  have hnine : '9'.toNat = 57 := rfl
  refine ⟨⟨byte.toNat - 48, by omega⟩, ?_⟩
  apply UInt8.toNat_inj.mp
  rw [toNat_digitByte]
  dsimp only
  omega

theorem exists_digitBytes {bytes : List UInt8} (h : ∀ byte ∈ bytes, isDigit byte = true) :
    ∃ digits : List (Fin 10), digits.map digitByte = bytes := by
  induction bytes with
  | nil => exact ⟨[], rfl⟩
  | cons byte rest ih =>
    obtain ⟨hbyte, hrest⟩ := List.forall_mem_cons.mp h
    obtain ⟨digit, rfl⟩ := exists_digitByte hbyte
    obtain ⟨digits, rfl⟩ := ih hrest
    exact ⟨digit :: digits, rfl⟩

theorem numberOf_append (front back : List (Fin 10)) :
    numberOf (front ++ back) = numberOf front * 10 ^ back.length + numberOf back := by
  unfold numberOf
  rw [List.reverse_append, List.map_append, Nat.ofDigits_append, List.length_map,
    List.length_reverse]
  ring

theorem numberOf_singleton (digit : Fin 10) : numberOf [digit] = digit.val := by
  simp [numberOf]

theorem numberOf_lt (digits : List (Fin 10)) : numberOf digits < 10 ^ digits.length := by
  have hlt := Nat.ofDigits_lt_base_pow_length' (b := 8) (l := digits.reverse.map Fin.val) ?_
  · simpa [numberOf] using hlt
  · intro digit hdigit
    obtain ⟨other, -, rfl⟩ := List.mem_map.mp hdigit
    exact other.isLt

theorem readNumber_digitBytes (digits : List (Fin 10)) :
    readNumber (digits.map digitByte) = numberOf digits := by
  induction digits using List.reverseRec with
  | nil => rfl
  | append_singleton front digit ih =>
    unfold readNumber at ih ⊢
    rw [List.map_append, List.foldl_append, ih, numberOf_append, numberOf_singleton]
    simp [digitOf_digitByte]

/-! ## The fraction -/

/-- The tenth digit rounds up. -/
def roundsUp (digits : List (Fin 10)) : Bool :=
  digits[9]?.any fun digit => 5 ≤ digit.val

/-- What the loop has kept behind these digits. -/
def fractionAfter (digits : List (Fin 10)) : Fraction :=
  ⟨numberOf (digits.take 9), digits.length, roundsUp digits⟩

theorem read_fractionAfter (digits : List (Fin 10)) (digit : Fin 10) :
    (fractionAfter digits).read (digitByte digit) = .ok (fractionAfter (digits ++ [digit])) := by
  have hlength : (digits ++ [digit]).length = digits.length + 1 := List.length_append
  unfold Fraction.read fractionAfter
  dsimp only
  rw [hlength]
  split_ifs with hkept htenth
  · have hfront : digits.take 9 = digits := List.take_of_length_le (by omega)
    have hwhole : (digits ++ [digit]).take 9 = digits ++ [digit] :=
      List.take_of_length_le (by omega)
    have hdigit := digit.isLt
    have hlt : numberOf digits < 10 ^ 8 :=
      (numberOf_lt digits).trans_le (Nat.pow_le_pow_right (by norm_num) (by omega))
    have hround : roundsUp (digits ++ [digit]) = roundsUp digits := by
      unfold roundsUp
      rw [List.getElem?_eq_none (by omega), List.getElem?_eq_none (by omega)]
    have hscaled : numberOf digits * 10 ≤ uint64Max := by
      unfold uint64Max
      omega
    have hsum : numberOf digits * 10 + digit.val ≤ uint64Max := by
      unfold uint64Max
      omega
    have happend : numberOf (digits ++ [digit]) = numberOf digits * 10 + digit.val := by
      rw [numberOf_append, numberOf_singleton, List.length_singleton, pow_one]
    rw [hfront, hwhole, hround, digitOf_digitByte, unsigned_eq hscaled, happend]
    simp only [bind, Except.bind]
    rw [unsigned_eq hsum]
    rfl
  · have hfront : (digits ++ [digit]).take 9 = digits.take 9 :=
      List.take_append_of_le_length (by omega)
    have hround : roundsUp (digits ++ [digit]) = decide ('5'.toNat ≤ (digitByte digit).toNat) := by
      have hzero : '0'.toNat = 48 := rfl
      have hfive : '5'.toNat = 53 := rfl
      unfold roundsUp
      rw [← htenth, List.getElem?_concat_length, Option.any_some, toNat_digitByte]
      apply decide_eq_decide.mpr
      omega
    rw [hfront, hround]
    rfl
  · have hfront : (digits ++ [digit]).take 9 = digits.take 9 :=
      List.take_append_of_le_length (by omega)
    have hround : roundsUp (digits ++ [digit]) = roundsUp digits := by
      unfold roundsUp
      rw [List.getElem?_append_left (by omega)]
    rw [hfront, hround]
    rfl

/-- The loop over the fraction never leaves its type. -/
theorem foldlM_read (digits : List (Fin 10)) :
    (digits.map digitByte).foldlM Fraction.read ⟨0, 0, false⟩ = .ok (fractionAfter digits) := by
  induction digits using List.reverseRec with
  | nil => rfl
  | append_singleton front digit ih =>
    rw [List.map_append, List.foldlM_append, ih]
    simp only [List.map_singleton, List.foldlM_cons, List.foldlM_nil, bind, Except.bind,
      read_fractionAfter]
    rfl

theorem padFraction_eq {missing value : Nat} (h : value * 10 ^ missing ≤ uint64Max) :
    padFraction missing value = .ok (value * 10 ^ missing) := by
  induction missing generalizing value with
  | zero => rw [pow_zero, Nat.mul_one]; rfl
  | succ missing ih =>
    have hpower : value * 10 ^ (missing + 1) = value * 10 * 10 ^ missing := by ring
    rw [hpower] at h ⊢
    have hscaled : value * 10 ≤ uint64Max :=
      (Nat.le_mul_of_pos_right _ (by positivity)).trans h
    rw [padFraction, unsigned_eq hscaled]
    exact ih h

/-! ## Magnitudes -/

def signedValue (negative : Bool) (magnitude : Nat) : Int :=
  if negative then -(magnitude : Int) else magnitude

/-- The result for a magnitude, which may be one beyond the greatest where it is negative. -/
def magnitudeOutcome (negative : Bool) (magnitude : Nat) : Except Fault Int64Value :=
  if h : Representable (signedValue negative magnitude) then .ok ⟨_, h⟩
  else .error (.overflowError "nanosecond timestamp is out of range")

/-- The greatest magnitude. -/
def greatestMagnitude (negative : Bool) : Nat :=
  if negative then positiveLimit + 1 else positiveLimit

theorem greatestMagnitude_le (negative : Bool) : greatestMagnitude negative ≤ uint64Max := by
  unfold greatestMagnitude positiveLimit uint64Max
  split_ifs <;> omega

theorem magnitudeLimit_eq (negative : Bool) :
    magnitudeLimit negative = .ok (greatestMagnitude negative) := by
  cases negative with
  | false => rfl
  | true => exact unsigned_eq (greatestMagnitude_le true)

theorem representable_signedValue {negative : Bool} {magnitude : Nat} :
    Representable (signedValue negative magnitude) ↔ magnitude ≤ greatestMagnitude negative := by
  unfold Representable signedValue greatestMagnitude positiveLimit
  cases negative with
  | false =>
    rw [if_neg Bool.false_ne_true, if_neg Bool.false_ne_true]
    omega
  | true =>
    rw [if_pos rfl, if_pos rfl]
    omega

/-- The division of the limit decides on the magnitude as a whole. -/
theorem beyond_limit_iff {seconds fractionNs limit : Nat}
    (hfraction : fractionNs < nanosecondsPerSecond) :
    (limit / nanosecondsPerSecond < seconds ∨
        (seconds = limit / nanosecondsPerSecond ∧ limit % nanosecondsPerSecond < fractionNs)) ↔
      ¬ seconds * nanosecondsPerSecond + fractionNs ≤ limit := by
  unfold nanosecondsPerSecond at hfraction ⊢
  omega

theorem withSign_eq {magnitude : Nat} {negative : Bool}
    (h : Representable (signedValue negative magnitude)) :
    withSign magnitude negative = .ok ⟨_, h⟩ := by
  unfold withSign
  cases negative with
  | false =>
    rw [if_pos rfl]
    exact Int64Value.ofInt_eq h
  | true =>
    have hle := representable_signedValue.mp h
    rw [greatestMagnitude, if_pos rfl] at hle
    rw [if_neg (Bool.noConfusion : ¬ true = false)]
    by_cases hmost : magnitude = positiveLimit + 1
    · subst hmost
      rw [if_pos rfl]
      rfl
    · have hpositive : Representable (magnitude : Int) := by
        unfold positiveLimit at hle hmost
        unfold Representable
        omega
      rw [if_neg hmost, Int64Value.ofInt_eq hpositive]
      exact Int64Value.ofInt_eq h

theorem checkedNanosecondMagnitude_eq {seconds fractionNs : Nat} {negative : Bool}
    (hfraction : fractionNs < nanosecondsPerSecond) :
    checkedNanosecondMagnitude seconds fractionNs negative =
      magnitudeOutcome negative (seconds * nanosecondsPerSecond + fractionNs) := by
  have hlimit := greatestMagnitude_le negative
  have hguard : (greatestMagnitude negative / nanosecondsPerSecond < seconds ∨
      (seconds = greatestMagnitude negative / nanosecondsPerSecond ∧
        greatestMagnitude negative % nanosecondsPerSecond < fractionNs)) ↔
      ¬ Representable (signedValue negative (seconds * nanosecondsPerSecond + fractionNs)) := by
    rw [beyond_limit_iff hfraction, representable_signedValue]
  unfold checkedNanosecondMagnitude magnitudeOutcome
  rw [magnitudeLimit_eq, ok_bind]
  by_cases hfits : Representable (signedValue negative (seconds * nanosecondsPerSecond + fractionNs))
  · have hle := representable_signedValue.mp hfits
    rw [if_neg (fun hbeyond => hguard.mp hbeyond hfits), dif_pos hfits, unsigned_eq (by omega),
      ok_bind, unsigned_eq (by omega), ok_bind]
    exact withSign_eq hfits
  · rw [if_pos (hguard.mpr hfits), dif_neg hfits]

/-! ## Rounding -/

/-- The nanoseconds below the second, before a carry. -/
def fractionNanoseconds (digits : List (Fin 10)) : Nat :=
  numberOf (digits.take 9) * 10 ^ (9 - digits.length) + if roundsUp digits then 1 else 0

theorem kept_lt (digits : List (Fin 10)) :
    numberOf (digits.take 9) * 10 ^ (9 - digits.length) < 10 ^ 9 := by
  have hlt := numberOf_lt (digits.take 9)
  have hlength : (digits.take 9).length + (9 - digits.length) = 9 := by
    rw [List.length_take]
    omega
  calc numberOf (digits.take 9) * 10 ^ (9 - digits.length)
      < 10 ^ (digits.take 9).length * 10 ^ (9 - digits.length) :=
        Nat.mul_lt_mul_of_pos_right hlt (by positivity)
    _ = 10 ^ 9 := by rw [← pow_add, hlength]

theorem fractionNanoseconds_le (digits : List (Fin 10)) :
    fractionNanoseconds digits ≤ nanosecondsPerSecond := by
  have hkept := kept_lt digits
  unfold fractionNanoseconds nanosecondsPerSecond
  split_ifs <;> omega

theorem addRounding_eq (digits : List (Fin 10)) :
    addRounding (roundsUp digits) (numberOf (digits.take 9) * 10 ^ (9 - digits.length)) =
      .ok (fractionNanoseconds digits) := by
  have hkept := kept_lt digits
  unfold addRounding fractionNanoseconds
  cases roundsUp digits with
  | false => rfl
  | true =>
    apply unsigned_eq
    unfold uint64Max
    omega

/-- A magnitude beyond every limit. -/
theorem magnitudeOutcome_of_gt {negative : Bool} {magnitude : Nat} (h : uint64Max < magnitude) :
    magnitudeOutcome negative magnitude =
      .error (.overflowError "nanosecond timestamp is out of range") := by
  apply dif_neg
  rw [representable_signedValue]
  exact not_le.mpr ((greatestMagnitude_le negative).trans_lt h)

theorem roundMagnitude_eq {seconds : Nat} (hseconds : seconds ≤ uint64Max)
    (digits : List (Fin 10)) (negative : Bool) :
    roundMagnitude seconds (fractionAfter digits) negative =
      magnitudeOutcome negative (seconds * nanosecondsPerSecond + fractionNanoseconds digits) := by
  have hpadded : padFraction (9 - (fractionAfter digits).fractionDigits)
      (fractionAfter digits).fractionNs =
        .ok (numberOf (digits.take 9) * 10 ^ (9 - digits.length)) := by
    apply padFraction_eq
    have hkept := kept_lt digits
    unfold uint64Max
    exact hkept.le.trans (by norm_num)
  have hrounding := addRounding_eq digits
  have hle := fractionNanoseconds_le digits
  have hone : 1 ≤ nanosecondsPerSecond := by
    unfold nanosecondsPerSecond
    norm_num
  unfold roundMagnitude
  rw [hpadded, ok_bind]
  rw [show (fractionAfter digits).roundUp = roundsUp digits from rfl, hrounding, ok_bind]
  by_cases hcarry : fractionNanoseconds digits = nanosecondsPerSecond
  · rw [if_pos hcarry, hcarry]
    by_cases hlast : seconds = uint64Max
    · rw [if_pos hlast, magnitudeOutcome_of_gt]
      calc uint64Max < seconds + 1 := by omega
        _ ≤ seconds * nanosecondsPerSecond + nanosecondsPerSecond :=
          Nat.add_le_add (Nat.le_mul_of_pos_right _ hone) hone
    · rw [if_neg hlast, unsigned_eq (by omega), ok_bind,
        checkedNanosecondMagnitude_eq (by omega), Nat.add_mul, Nat.one_mul, Nat.add_zero]
  · rw [if_neg hcarry, checkedNanosecondMagnitude_eq (lt_of_le_of_ne hle hcarry)]

/-- The digits that are kept, and the tenth, tell the nearest nanosecond. -/
theorem floor_fraction (digits : List (Fin 10)) :
    ⌊(numberOf digits : ℚ) / 10 ^ digits.length * 10 ^ 9 + 1 / 2⌋ =
      (fractionNanoseconds digits : ℤ) := by
  have hfloor : ∀ (whole : Nat) (part : ℚ), 0 ≤ part → part < 1 →
      ⌊(whole : ℚ) + part⌋ = (whole : ℤ) := by
    intro whole part hlow hhigh
    rw [Int.floor_eq_iff]
    push_cast
    constructor <;> linarith
  unfold fractionNanoseconds
  by_cases hshort : digits.length ≤ 9
  · have hfront : digits.take 9 = digits := List.take_of_length_le hshort
    have hround : roundsUp digits = false := by
      unfold roundsUp
      rw [List.getElem?_eq_none hshort]
      rfl
    have hpower : (10 : ℚ) ^ 9 = 10 ^ digits.length * 10 ^ (9 - digits.length) := by
      rw [← pow_add, Nat.add_sub_cancel' hshort]
    have hexact : (numberOf digits : ℚ) / 10 ^ digits.length * 10 ^ 9 =
        ((numberOf digits * 10 ^ (9 - digits.length) : Nat) : ℚ) := by
      rw [hpower]
      push_cast
      field_simp
    rw [hfront, hround, hexact, hfloor _ _ (by norm_num) (by norm_num)]
    rfl
  · obtain ⟨digit, hdigit⟩ : ∃ digit, digits[9]? = some digit :=
      ⟨_, List.getElem?_eq_getElem (by omega)⟩
    have hrest : digits.drop 9 = digit :: digits.drop 10 := by
      rw [List.drop_eq_getElem_cons (by omega)]
      rw [List.getElem?_eq_getElem (by omega), Option.some.injEq] at hdigit
      rw [hdigit]
    have hround : roundsUp digits = decide (5 ≤ digit.val) := by
      unfold roundsUp
      rw [hdigit]
      rfl
    have hlength : digits.length = (digits.drop 10).length + 10 := by
      rw [List.length_drop]
      omega
    have hnumber : numberOf digits = numberOf (digits.take 9) * 10 ^ ((digits.drop 10).length + 1) +
        (digit.val * 10 ^ (digits.drop 10).length + numberOf (digits.drop 10)) := by
      conv_lhs => rw [← List.take_append_drop 9 digits, hrest]
      have hcons : digit :: digits.drop 10 = [digit] ++ digits.drop 10 := rfl
      rw [numberOf_append, List.length_cons, hcons, numberOf_append, numberOf_singleton]
    have htail := numberOf_lt (digits.drop 10)
    have hmissing : 9 - digits.length = 0 := by omega
    rw [hround, hmissing, pow_zero, Nat.mul_one, hnumber, hlength]
    generalize numberOf (digits.drop 10) = tail at *
    generalize (digits.drop 10).length = places at *
    generalize numberOf (digits.take 9) = front
    have hpositive : (0 : ℚ) < 10 ^ places := by positivity
    have htailCast : (tail : ℚ) < 10 ^ places := by exact_mod_cast htail
    have htailNonneg : (0 : ℚ) ≤ tail := by positivity
    have hvalue : ((front * 10 ^ (places + 1) + (digit.val * 10 ^ places + tail) : ℕ) : ℚ) /
        10 ^ (places + 10) * 10 ^ 9 =
          front + ((digit.val : ℚ) + tail / 10 ^ places) / 10 := by
      push_cast
      field_simp
      ring
    have hpart : (tail : ℚ) / 10 ^ places < 1 := (div_lt_one hpositive).mpr htailCast
    have hpartNonneg : (0 : ℚ) ≤ tail / 10 ^ places := by positivity
    rw [hvalue]
    by_cases hfive : 5 ≤ digit.val
    · have hlow : (5 : ℚ) ≤ digit.val := by exact_mod_cast hfive
      have hhigh : (digit.val : ℚ) ≤ 9 := by exact_mod_cast Nat.le_of_lt_succ digit.isLt
      have hsum : (front : ℚ) + ((digit.val : ℚ) + tail / 10 ^ places) / 10 + 1 / 2 =
          ((front + 1 : ℕ) : ℚ) + (((digit.val : ℚ) + tail / 10 ^ places) / 10 - 1 / 2) := by
        push_cast
        ring
      rw [hsum, hfloor _ _ (by linarith) (by linarith), decide_eq_true hfive, if_pos rfl]
    · have hhigh : (digit.val : ℚ) ≤ 4 := by exact_mod_cast Nat.le_of_lt_succ (not_le.mp hfive)
      have hlow : (0 : ℚ) ≤ digit.val := by positivity
      rw [add_assoc, hfloor _ _ (by linarith) (by linarith), decide_eq_false hfive,
        if_neg Bool.false_ne_true, Nat.add_zero]

/-! ## The bytes of a lexeme -/

def byteOf (c : Char) : UInt8 :=
  UInt8.ofNat c.toNat

theorem bytes_eq (lexeme : DecimalLexeme) :
    lexeme.bytes = (signText lexeme.sign).map byteOf ++
      (lexeme.whole.map digitByte ++ (fractionText lexeme.fraction).map byteOf) := by
  unfold bytes text
  rw [List.map_append, List.map_append, List.map_map]
  rfl

theorem fractionBytes_eq (fraction : Option (List (Fin 10))) :
    (fractionText fraction).map byteOf =
      match fraction with
      | none => []
      | some digits => byteOf '.' :: digits.map digitByte := by
  cases fraction with
  | none => rfl
  | some digits =>
    unfold fractionText
    rw [List.map_cons, List.map_map]
    rfl

theorem all_digitBytes (digits : List (Fin 10)) :
    ∀ byte ∈ digits.map digitByte, isDigit byte = true := by
  intro byte hbyte
  obtain ⟨digit, -, rfl⟩ := List.mem_map.mp hbyte
  exact isDigit_digitByte digit

/-- The digits end where no digit follows. -/
theorem takeWhile_digitBytes (digits : List (Fin 10)) {rest : List UInt8}
    (h : ∀ byte ∈ rest.head?, isDigit byte = false) :
    (digits.map digitByte ++ rest).takeWhile isDigit = digits.map digitByte := by
  rw [List.takeWhile_append_of_pos (all_digitBytes digits)]
  cases rest with
  | nil => rw [List.takeWhile_nil, List.append_nil]
  | cons byte rest =>
    rw [List.takeWhile_cons_of_neg (by rw [h byte rfl]; exact Bool.false_ne_true), List.append_nil]

theorem dropWhile_digitBytes (digits : List (Fin 10)) {rest : List UInt8}
    (h : ∀ byte ∈ rest.head?, isDigit byte = false) :
    (digits.map digitByte ++ rest).dropWhile isDigit = rest := by
  rw [List.dropWhile_append_of_pos (all_digitBytes digits)]
  cases rest with
  | nil => rfl
  | cons byte rest =>
    exact List.dropWhile_cons_of_neg (by rw [h byte rfl]; exact Bool.false_ne_true)

theorem readSign_bytes (sign : Option Bool) {first : Fin 10} {rest : List UInt8} :
    readSign ((signText sign).map byteOf ++ digitByte first :: rest) =
      (decide (sign = some true), digitByte first :: rest) := by
  match sign with
  | some false => rfl
  | some true => rfl
  | none =>
    have hzero : '0'.toNat = 48 := rfl
    have hplus : '+'.toNat = 43 := rfl
    have hminus : '-'.toNat = 45 := rfl
    have hdigit := toNat_digitByte first
    unfold signText readSign
    rw [List.map_nil, List.nil_append]
    dsimp only
    rw [if_neg (by omega)]
    rfl

/-- Any sign is that of a lexeme. -/
theorem exists_sign (bytes : List UInt8) :
    ∃ sign, bytes = (signText sign).map byteOf ++ (readSign bytes).2 := by
  cases bytes with
  | nil => exact ⟨none, rfl⟩
  | cons first rest =>
    unfold readSign
    dsimp only
    by_cases hplus : first.toNat = '+'.toNat
    · have hfirst : first = byteOf '+' := UInt8.toNat_inj.mp hplus
      rw [if_pos (Or.inl hplus), hfirst]
      exact ⟨some false, rfl⟩
    by_cases hminus : first.toNat = '-'.toNat
    · have hfirst : first = byteOf '-' := UInt8.toNat_inj.mp hminus
      rw [if_pos (Or.inr hminus), hfirst]
      exact ⟨some true, rfl⟩
    · rw [if_neg (by tauto)]
      exact ⟨none, rfl⟩

/-! ## What the parser computes -/

/-- What the parser makes of the digits of a lexeme. -/
def DecimalLexeme.evaluate (lexeme : DecimalLexeme) : Except Fault Int64Value := do
  let seconds ← parseUnsigned (lexeme.whole.map digitByte)
  roundMagnitude seconds (fractionAfter lexeme.fractionDigits) (lexeme.sign = some true)

theorem readFraction_bytes {fraction : Option (List (Fin 10))} (h : fraction ≠ some []) :
    readFraction ((fractionText fraction).map byteOf) = .ok (fractionAfter (fraction.getD [])) := by
  rw [fractionBytes_eq]
  cases fraction with
  | none => rfl
  | some digits =>
    have hall : (digits.map digitByte).takeWhile isDigit = digits.map digitByte :=
      List.takeWhile_eq_self_iff.mpr (all_digitBytes digits)
    have hnone : (digits.map digitByte).dropWhile isDigit = [] :=
      List.dropWhile_eq_nil_iff.mpr (all_digitBytes digits)
    have hne : digits.map digitByte ≠ [] := fun hnil => h (by rw [List.map_eq_nil_iff.mp hnil])
    have hpoint : ¬ (byteOf '.').toNat ≠ '.'.toNat := not_not.mpr rfl
    unfold readFraction
    dsimp only
    rw [if_neg hpoint, hall, hnone, foldlM_read, ok_bind, if_neg hne, if_neg (not_not.mpr rfl)]
    rfl

theorem decimalSeconds_bytes {lexeme : DecimalLexeme}
    (h : lexeme.bytes.length ≤ maximumDecimalSecondsBytes) :
    decimalSecondsToNanoseconds lexeme.bytes = lexeme.evaluate := by
  obtain ⟨first, rest, hwhole⟩ := List.exists_cons_of_ne_nil lexeme.whole_ne_nil
  have hne : lexeme.bytes ≠ [] := by
    rw [bytes_eq, hwhole]
    simp
  have hsign : readSign lexeme.bytes = (decide (lexeme.sign = some true),
      lexeme.whole.map digitByte ++ (fractionText lexeme.fraction).map byteOf) := by
    rw [bytes_eq, hwhole, List.map_cons, List.cons_append]
    exact readSign_bytes lexeme.sign
  have hpoint : ∀ byte ∈ ((fractionText lexeme.fraction).map byteOf).head?,
      isDigit byte = false := by
    rw [fractionBytes_eq]
    cases lexeme.fraction with
    | none => exact fun byte hbyte => nomatch hbyte
    | some digits =>
      intro byte hbyte
      rw [← Option.mem_some_iff.mp hbyte]
      rfl
  unfold decimalSecondsToNanoseconds evaluate
  rw [if_neg (by rintro (hnil | hlong); exacts [hne hnil, absurd h (not_le.mpr hlong)]), hsign]
  dsimp only
  rw [takeWhile_digitBytes _ hpoint, dropWhile_digitBytes _ hpoint,
    if_neg (fun hnil => lexeme.whole_ne_nil (List.map_eq_nil_iff.mp hnil)),
    readFraction_bytes lexeme.fraction_ne_nil]
  rfl

/-- What follows the digits before the point is the fraction of a lexeme, or is refused. -/
theorem readFraction_cases (rest : List UInt8) :
    (∃ fraction, fraction ≠ some [] ∧ rest = (fractionText fraction).map byteOf) ∨
      ∃ message, readFraction rest = .error (.invalidArgument message) := by
  cases rest with
  | nil => exact Or.inl ⟨none, (fun h => nomatch h), rfl⟩
  | cons point fraction =>
    unfold readFraction
    dsimp only
    by_cases hpoint : point.toNat = '.'.toNat
    · have hpointByte : point = byteOf '.' := UInt8.toNat_inj.mp hpoint
      have hread : ∀ byte ∈ fraction.takeWhile isDigit, isDigit byte = true :=
        fun byte hbyte => List.mem_takeWhile_imp hbyte
      obtain ⟨digits, hdigits⟩ := exists_digitBytes hread
      rw [if_neg (not_not.mpr hpoint), ← hdigits, foldlM_read, ok_bind]
      by_cases hnone : digits.map digitByte = []
      · exact Or.inr ⟨_, if_pos hnone⟩
      rw [if_neg hnone]
      by_cases htrailing : fraction.dropWhile isDigit = []
      · have hfraction : fraction = digits.map digitByte := by
          rw [hdigits, ← List.append_nil (fraction.takeWhile isDigit), ← htrailing,
            List.takeWhile_append_dropWhile]
        refine Or.inl ⟨some digits, ?_, ?_⟩
        · intro hnil
          exact hnone (by rw [Option.some.inj hnil, List.map_nil])
        · rw [fractionBytes_eq, hpointByte, hfraction]
      · exact Or.inr ⟨_, if_pos htrailing⟩
    · exact Or.inr ⟨_, if_pos hpoint⟩

theorem parseUnsigned_cases (lexeme : List UInt8) :
    (∃ message, parseUnsigned lexeme = .error (.invalidArgument message)) ∨
      parseUnsigned lexeme = .ok (readNumber lexeme) := by
  unfold parseUnsigned
  split_ifs
  · exact Or.inl ⟨_, rfl⟩
  · exact Or.inr rfl

/-- Bytes are those of a lexeme, or are refused as such. -/
theorem decimalSeconds_cases (bytes : List UInt8) :
    (∃ lexeme : DecimalLexeme, lexeme.bytes = bytes) ∨
      ∃ message, decimalSecondsToNanoseconds bytes = .error (.invalidArgument message) := by
  obtain ⟨sign, hsign⟩ := exists_sign bytes
  unfold decimalSecondsToNanoseconds
  by_cases hlength : bytes = [] ∨ maximumDecimalSecondsBytes < bytes.length
  · exact Or.inr ⟨_, if_pos hlength⟩
  rw [if_neg hlength]
  dsimp only
  have hread : ∀ byte ∈ (readSign bytes).2.takeWhile isDigit, isDigit byte = true :=
    fun byte hbyte => List.mem_takeWhile_imp hbyte
  obtain ⟨whole, hwhole⟩ := exists_digitBytes hread
  rw [← hwhole]
  by_cases hnone : whole.map digitByte = []
  · exact Or.inr ⟨_, if_pos hnone⟩
  rw [if_neg hnone]
  obtain ⟨message, hseconds⟩ | hseconds := parseUnsigned_cases (whole.map digitByte)
  · exact Or.inr ⟨message, by rw [hseconds]; rfl⟩
  rw [hseconds, ok_bind]
  obtain ⟨fraction, hfraction, hrest⟩ | ⟨message, hrest⟩ :=
    readFraction_cases ((readSign bytes).2.dropWhile isDigit)
  · refine Or.inl ⟨⟨sign, whole, fraction, ?_, hfraction⟩, ?_⟩
    · intro hnil
      exact hnone (by rw [hnil, List.map_nil])
    · rw [bytes_eq]
      dsimp only
      rw [hwhole, ← hrest, List.takeWhile_append_dropWhile]
      exact hsign.symm
  · exact Or.inr ⟨message, by rw [hrest]; rfl⟩

/-! ## Exactness -/

/-- The nanoseconds of a lexeme are whole seconds and the rounded rest. -/
theorem nanoseconds_eq (lexeme : DecimalLexeme) :
    lexeme.nanoseconds = signedValue (lexeme.sign = some true)
      (numberOf lexeme.whole * nanosecondsPerSecond +
        fractionNanoseconds lexeme.fractionDigits) := by
  have hfloor : ⌊lexeme.magnitude * 10 ^ 9 + 1 / 2⌋ =
      ((numberOf lexeme.whole * nanosecondsPerSecond +
        fractionNanoseconds lexeme.fractionDigits : Nat) : Int) := by
    have hvalue : lexeme.magnitude * 10 ^ 9 + 1 / 2 =
        ((numberOf lexeme.whole * nanosecondsPerSecond : Nat) : ℚ) +
          ((numberOf lexeme.fractionDigits : ℚ) / 10 ^ lexeme.fractionDigits.length * 10 ^ 9 +
            1 / 2) := by
      unfold magnitude nanosecondsPerSecond
      push_cast
      ring
    rw [hvalue, Int.floor_natCast_add, floor_fraction]
    push_cast
    rfl
  unfold nanoseconds signedValue
  rw [hfloor]
  by_cases hsign : lexeme.sign = some true
  · rw [if_pos hsign, if_pos (decide_eq_true hsign)]
  · rw [if_neg hsign, if_neg (by rw [decide_eq_false hsign]; exact Bool.false_ne_true)]

theorem parseUnsigned_digitBytes {digits : List (Fin 10)} (h : digits ≠ []) :
    parseUnsigned (digits.map digitByte) =
      if uint64Max < numberOf digits then
        .error (.invalidArgument "plain decimal seconds required")
      else .ok (numberOf digits) := by
  have hne : digits.map digitByte ≠ [] := fun hnil => h (List.map_eq_nil_iff.mp hnil)
  have hall : (digits.map digitByte).all isDigit = true :=
    List.all_eq_true.mpr (all_digitBytes digits)
  unfold parseUnsigned
  rw [readNumber_digitBytes, hall]
  apply if_congr _ rfl rfl
  simp [hne]

/-- The parser computes the nanoseconds, or refuses seconds that no integer holds. -/
theorem evaluate_eq (lexeme : DecimalLexeme) :
    lexeme.evaluate =
      if uint64Max < numberOf lexeme.whole then
        .error (.invalidArgument "plain decimal seconds required")
      else
        magnitudeOutcome (lexeme.sign = some true)
          (numberOf lexeme.whole * nanosecondsPerSecond +
            fractionNanoseconds lexeme.fractionDigits) := by
  unfold evaluate
  rw [parseUnsigned_digitBytes lexeme.whole_ne_nil]
  by_cases hseconds : uint64Max < numberOf lexeme.whole
  · rw [if_pos hseconds, if_pos hseconds]
    rfl
  · rw [if_neg hseconds, if_neg hseconds, ok_bind, roundMagnitude_eq (not_lt.mp hseconds)]

theorem evaluate_ok_iff {lexeme : DecimalLexeme} {result : Int64Value} :
    lexeme.evaluate = .ok result ↔ result.value = lexeme.nanoseconds := by
  rw [evaluate_eq, nanoseconds_eq]
  generalize hmagnitude : numberOf lexeme.whole * nanosecondsPerSecond +
    fractionNanoseconds lexeme.fractionDigits = total
  by_cases hseconds : uint64Max < numberOf lexeme.whole
  · have hlarge : uint64Max < total := by
      rw [← hmagnitude]
      calc uint64Max < numberOf lexeme.whole := hseconds
        _ ≤ numberOf lexeme.whole * nanosecondsPerSecond :=
          Nat.le_mul_of_pos_right _ (by unfold nanosecondsPerSecond; norm_num)
        _ ≤ _ := Nat.le_add_right _ _
    rw [if_pos hseconds]
    constructor
    · intro herror
      nomatch herror
    · intro hvalue
      have hfits := result.representable
      rw [hvalue, representable_signedValue] at hfits
      exact absurd (hfits.trans (greatestMagnitude_le _)) (not_le.mpr hlarge)
  · rw [if_neg hseconds]
    unfold magnitudeOutcome
    split_ifs with hfits
    · rw [Except.ok.injEq]
      constructor
      · rintro rfl
        rfl
      · intro hvalue
        exact Int64Value.ext hvalue.symm
    · constructor
      · intro herror
        nomatch herror
      · intro hvalue
        exact absurd (hvalue ▸ result.representable) hfits

/-- No step of the parser leaves its machine type. -/
theorem evaluate_ne_outOfRange (lexeme : DecimalLexeme) : lexeme.evaluate ≠ .error .outOfRange := by
  rw [evaluate_eq]
  unfold magnitudeOutcome
  split_ifs <;> exact fun h => nomatch h

/-- The parser accepts the lexemes of at most 64 bytes whose nanoseconds a signed 64-bit
integer holds, and returns them; and none of its operations overflows or wraps. -/
theorem decimal_seconds_exact (bytes : List UInt8) :
    (∀ result, decimalSecondsToNanoseconds bytes = .ok result ↔
      ∃ lexeme : DecimalLexeme, lexeme.bytes = bytes ∧
        bytes.length ≤ maximumDecimalSecondsBytes ∧ result.value = lexeme.nanoseconds) ∧
    decimalSecondsToNanoseconds bytes ≠ .error .outOfRange := by
  have hback : ∀ result, (∃ lexeme : DecimalLexeme, lexeme.bytes = bytes ∧
      bytes.length ≤ maximumDecimalSecondsBytes ∧ result.value = lexeme.nanoseconds) →
        decimalSecondsToNanoseconds bytes = .ok result := by
    rintro result ⟨lexeme, rfl, hlength, hvalue⟩
    rw [decimalSeconds_bytes hlength]
    exact evaluate_ok_iff.mpr hvalue
  by_cases hlength : bytes.length ≤ maximumDecimalSecondsBytes
  · obtain ⟨lexeme, rfl⟩ | ⟨message, hmessage⟩ := decimalSeconds_cases bytes
    · refine ⟨fun result => ⟨fun hok => ?_, hback result⟩, ?_⟩
      · rw [decimalSeconds_bytes hlength] at hok
        exact ⟨lexeme, rfl, hlength, evaluate_ok_iff.mp hok⟩
      · rw [decimalSeconds_bytes hlength]
        exact evaluate_ne_outOfRange lexeme
    · rw [hmessage]
      rw [hmessage] at hback
      exact ⟨fun result => ⟨fun hok => (nomatch hok), hback result⟩, fun herror => nomatch herror⟩
  · have hlong : decimalSecondsToNanoseconds bytes =
        .error (.invalidArgument "plain decimal seconds required") :=
      if_pos (Or.inr (not_le.mp hlength))
    rw [hlong]
    rw [hlong] at hback
    exact ⟨fun result => ⟨fun hok => (nomatch hok), hback result⟩, fun herror => nomatch herror⟩

end CartoSentry.Contracts
