import CartoSentry.Artifacts.SequenceManifest
import CartoSentry.Contracts.DecimalSeconds
import CartoSentry.Foundation.DoubleArithmetic

set_option autoImplicit false

/-!
# Contracts: raw time

`RawTime` of `contracts.py`, its validator, and the texts that the validator accepts.
-/

namespace CartoSentry.Contracts

open Artifacts (Patterned TimeEpoch TimeReference)
open Foundation (Double bind_unit_eq_ok_iff)

/-! ## The record -/

def isNonempty (text : List Char) : Bool :=
  !text.isEmpty

abbrev NonemptyString : Type := Patterned isNonempty

/-- A finite float that is at least zero. -/
structure NonnegativeFloat where
  value : Double
  finite : value.isFinite = true
  nonnegative : 0 ≤ value.number
  deriving DecidableEq

inductive RawTimeEncoding where
  | decimalLexeme
  | signedInteger
  | unsignedInteger
  | encodedBytes
  deriving DecidableEq, Repr

def RawTimeEncoding.value : RawTimeEncoding → String
  | .decimalLexeme => "decimal_lexeme"
  | .signedInteger => "signed_integer"
  | .unsignedInteger => "unsigned_integer"
  | .encodedBytes => "encoded_bytes"

inductive TimeRounding where
  | exact
  | nearestNanosecondHalfAwayFromZero
  deriving DecidableEq, Repr

def TimeRounding.value : TimeRounding → String
  | .exact => "exact"
  | .nearestNanosecondHalfAwayFromZero => "nearest_nanosecond_half_away_from_zero"

/-- The fields of a `RawTime`, before its validator has run. -/
structure RawTimeFields where
  sourceKey : NonemptyString
  field : NonemptyString
  unit : NonemptyString
  epoch : TimeEpoch
  reference : TimeReference
  encoding : RawTimeEncoding
  decimalLexeme : Option String
  integerValue : Option String
  encodedBytes : Option String
  rounding : TimeRounding
  maximumConversionErrorNs : NonnegativeFloat
  deriving DecidableEq

/-! ## The validator -/

/-- A check that raises a `ValueError`. -/
def check (condition : Prop) [Decidable condition] (message : String) : Except String Unit :=
  if condition then .ok () else .error message

theorem check_eq_ok_iff {condition : Prop} [Decidable condition] {message : String} :
    check condition message = .ok () ↔ condition := by
  unfold check
  split_ifs with h
  · exact iff_of_true rfl h
  · exact iff_of_false (fun herror => nomatch herror) h

/-- `str.removeprefix` of one character -/
def removePrefix (sign : Char) : List Char → List Char
  | [] => []
  | first :: rest => if first = sign then rest else first :: rest

/-- `removeprefix("+").removeprefix("-")` -/
def removeSigns (text : List Char) : List Char :=
  removePrefix '-' (removePrefix '+' text)

/-- `str.isascii` -/
def isAscii (text : List Char) : Bool :=
  text.all fun c => c.toNat < 128

/-- `str.isdigit`, which is asked of ASCII texts only. -/
def isDecimalDigits (text : List Char) : Bool :=
  !text.isEmpty && text.all Char.isDigit

/-- Neither empty nor beyond ASCII nor anything but digits. -/
def PlainDigits (text : List Char) : Prop :=
  text ≠ [] ∧ isAscii text = true ∧ isDecimalDigits text = true

instance (text : List Char) : Decidable (PlainDigits text) :=
  inferInstanceAs (Decidable (_ ∧ _ ∧ _))

namespace RawTimeFields

variable (raw : RawTimeFields)

/-- `representations[self.encoding]` -/
def representation : Option String :=
  match raw.encoding with
  | .decimalLexeme => raw.decimalLexeme
  | .signedInteger | .unsignedInteger => raw.integerValue
  | .encodedBytes => raw.encodedBytes

def populated : Nat :=
  [raw.decimalLexeme, raw.integerValue, raw.encodedBytes].countP Option.isSome

def checkInteger (integerValue : List Char) : Except String Unit := do
  let digits := if raw.encoding = .signedInteger then removeSigns integerValue else integerValue
  check (PlainDigits digits) "raw integer timestamp must be a plain integer"
  check (¬ (raw.encoding = .unsignedInteger ∧
      (integerValue.head? = some '+' ∨ integerValue.head? = some '-')))
    "raw unsigned timestamp cannot contain a sign"

def checkDecimal (lexeme : List Char) : Except String Unit :=
  let components := (removeSigns lexeme).splitOn '.'
  check (components.length ≤ 2 ∧ ∀ component ∈ components, PlainDigits component)
    "raw decimal timestamp must be a plain decimal lexeme"

def checkRounding : Except String Unit :=
  match raw.rounding with
  | .exact =>
    check (raw.maximumConversionErrorNs.value.number = 0)
      "exact time conversion must record zero error"
  | .nearestNanosecondHalfAwayFromZero =>
    check (raw.maximumConversionErrorNs.value.number ≤ 1 / 2)
      "nearest-nanosecond conversion error cannot exceed 0.5 ns"

/-- The check of the text that the encoding names. -/
def checkRepresentation (text : List Char) : Except String Unit :=
  match raw.encoding with
  | .decimalLexeme => checkDecimal text
  | .signedInteger | .unsignedInteger => raw.checkInteger text
  | .encodedBytes => .ok ()

/-- `validate_exact_representation` -/
def validateExactRepresentation : Except String Unit := do
  check (raw.populated = 1 ∧ raw.representation ≠ none)
    "raw time must contain exactly the representation named by encoding"
  raw.checkRepresentation (raw.representation.getD "").toList
  raw.checkRounding

/-- The record with a decimal lexeme for its only representation. -/
def withDecimalLexeme (text : String) : RawTimeFields :=
  { raw with
    encoding := .decimalLexeme
    decimalLexeme := some text
    integerValue := none
    encodedBytes := none }

/-- The record with a signed integer for its only representation. -/
def withSignedInteger (text : String) : RawTimeFields :=
  { raw with
    encoding := .signedInteger
    decimalLexeme := none
    integerValue := some text
    encodedBytes := none }

end RawTimeFields

/-- A record that the validator has accepted. -/
structure RawTime where
  fields : RawTimeFields
  accepted : fields.validateExactRepresentation = .ok ()
  deriving DecidableEq

/-! ## Digits and signs -/

open DecimalLexeme

theorem isDigit_digitChar (digit : Fin 10) : (digitChar digit).isDigit = true := by
  revert digit
  decide

theorem exists_digitChar {c : Char} (h : c.isDigit = true) : ∃ digit, digitChar digit = c := by
  have hbounds := h
  rw [Char.isDigit, Bool.and_eq_true, decide_eq_true_eq, decide_eq_true_eq] at hbounds
  have hlow : 48 ≤ c.toNat := hbounds.1
  have hhigh : c.toNat ≤ 57 := hbounds.2
  have hzero : '0'.toNat = 48 := rfl
  refine ⟨⟨c.toNat - 48, by omega⟩, ?_⟩
  unfold digitChar
  rw [hzero, Nat.add_sub_cancel' hlow, Char.ofNat_toNat]

/-- Plain digits are those of a nonempty list. -/
theorem plainDigits_iff {text : List Char} :
    PlainDigits text ↔ ∃ digits : List (Fin 10), digits ≠ [] ∧ digits.map digitChar = text := by
  constructor
  · rintro ⟨hne, -, hdigits⟩
    have hall := (Bool.and_eq_true _ _ ▸ hdigits : _ ∧ _).2
    obtain ⟨digits, rfl⟩ : ∃ digits : List (Fin 10), digits.map digitChar = text := by
      clear hne hdigits
      induction text with
      | nil => exact ⟨[], rfl⟩
      | cons c rest ih =>
        rw [List.all_cons, Bool.and_eq_true] at hall
        obtain ⟨digit, rfl⟩ := exists_digitChar hall.1
        obtain ⟨digits, rfl⟩ := ih hall.2
        exact ⟨digit :: digits, rfl⟩
    exact ⟨digits, fun hnil => hne (by rw [hnil, List.map_nil]), rfl⟩
  · rintro ⟨digits, hne, rfl⟩
    have hascii : ∀ digit : Fin 10, (digitChar digit).toNat < 128 := by decide
    have hmapped : digits.map digitChar ≠ [] := fun hnil => hne (List.map_eq_nil_iff.mp hnil)
    refine ⟨hmapped, ?_, ?_⟩
    · rw [isAscii, List.all_map, List.all_eq_true]
      exact fun digit _ => decide_eq_true (hascii digit)
    · rw [isDecimalDigits, Bool.and_eq_true, List.all_map, List.all_eq_true]
      refine ⟨by simpa using hne, fun digit _ => isDigit_digitChar digit⟩

/-- Digits with their fraction, without a sign. -/
def unsignedText (whole : List (Fin 10)) (fraction : Option (List (Fin 10))) : List Char :=
  whole.map digitChar ++ fractionText fraction

theorem point_notMem_digits (digits : List (Fin 10)) : '.' ∉ digits.map digitChar := by
  intro hmem
  obtain ⟨digit, -, hdigit⟩ := List.mem_map.mp hmem
  revert hdigit
  revert digit
  decide

/-- One or two components of plain digits are the digits of an unsigned lexeme. -/
theorem components_iff {text : List Char} :
    ((text.splitOn '.').length ≤ 2 ∧ ∀ component ∈ text.splitOn '.', PlainDigits component) ↔
      ∃ whole fraction, whole ≠ [] ∧ fraction ≠ some [] ∧ text = unsignedText whole fraction := by
  constructor
  · rintro ⟨hlength, hplain⟩
    have hjoined : List.intercalate ['.'] (text.splitOn '.') = text :=
      List.intercalate_splitOn '.'
    match hcomponents : text.splitOn '.' with
    | [] => exact absurd hcomponents (List.splitOn_ne_nil _ _)
    | [only] =>
      rw [hcomponents] at hplain hjoined
      obtain ⟨whole, hne, hwhole⟩ := plainDigits_iff.mp (hplain only List.mem_cons_self)
      refine ⟨whole, none, hne, (fun h => nomatch h), ?_⟩
      rw [← hjoined, ← hwhole]
      simp [unsignedText, fractionText]
    | [first, second] =>
      rw [hcomponents] at hplain hjoined
      obtain ⟨whole, hne, hwhole⟩ := plainDigits_iff.mp (hplain first List.mem_cons_self)
      obtain ⟨digits, hdigits, hsecond⟩ :=
        plainDigits_iff.mp (hplain second (List.mem_cons_of_mem _ List.mem_cons_self))
      refine ⟨whole, some digits, hne, fun h => hdigits (Option.some.inj h), ?_⟩
      rw [← hjoined, ← hwhole, ← hsecond]
      simp [unsignedText, fractionText]
    | first :: second :: third :: rest =>
      rw [hcomponents, List.length_cons, List.length_cons, List.length_cons] at hlength
      omega
  · rintro ⟨whole, fraction, hwhole, hfraction, rfl⟩
    have hplain : PlainDigits (whole.map digitChar) := plainDigits_iff.mpr ⟨whole, hwhole, rfl⟩
    unfold unsignedText
    cases fraction with
    | none =>
      rw [fractionText, List.append_nil,
        List.splitOn_eq_singleton (point_notMem_digits whole)]
      exact ⟨by norm_num, List.forall_mem_singleton.mpr hplain⟩
    | some digits =>
      have hne : digits ≠ [] := fun hnil => hfraction (by rw [hnil])
      rw [fractionText, List.splitOn_append_cons_self_of_not_mem (point_notMem_digits whole),
        List.splitOn_eq_singleton (point_notMem_digits digits)]
      refine ⟨le_refl _, List.forall_mem_cons.mpr ⟨hplain, List.forall_mem_singleton.mpr ?_⟩⟩
      exact plainDigits_iff.mpr ⟨digits, hne, rfl⟩

/-- Up to two signs are removed, the plus before the minus. -/
theorem removeSigns_eq_iff {text body : List Char}
    (hbody : body.head? ≠ some '+' ∧ body.head? ≠ some '-') :
    removeSigns text = body ↔
      (∃ sign, text = signText sign ++ body) ∨ text = '+' :: '-' :: body := by
  constructor
  · rintro rfl
    match text with
    | [] => exact Or.inl ⟨none, rfl⟩
    | first :: rest =>
      by_cases hplus : first = '+'
      · subst hplus
        match rest with
        | [] => exact Or.inl ⟨some false, rfl⟩
        | second :: rest =>
          by_cases hminus : second = '-'
          · subst hminus
            exact Or.inr rfl
          · have hremoved : removeSigns ('+' :: second :: rest) = second :: rest := by
              unfold removeSigns
              exact if_neg hminus
            exact Or.inl ⟨some false, by rw [hremoved]; rfl⟩
      · have hfirst : removeSigns (first :: rest) = removePrefix '-' (first :: rest) := by
          unfold removeSigns
          rw [removePrefix, if_neg hplus]
        by_cases hminus : first = '-'
        · subst hminus
          exact Or.inl ⟨some true, by rw [hfirst]; rfl⟩
        · exact Or.inl ⟨none, by rw [hfirst, removePrefix, if_neg hminus]; rfl⟩
  · have hbare : removePrefix '-' body = body ∧ removePrefix '+' body = body := by
      match body with
      | [] => exact ⟨rfl, rfl⟩
      | first :: rest =>
        rw [List.head?_cons, ne_eq, ne_eq, Option.some.injEq, Option.some.injEq] at hbody
        exact ⟨if_neg hbody.2, if_neg hbody.1⟩
    rintro (⟨sign, rfl⟩ | rfl)
    · match sign with
      | none =>
        change removePrefix '-' (removePrefix '+' body) = body
        rw [hbare.2, hbare.1]
      | some false => exact hbare.1
      | some true => rfl
    · rfl

theorem head_unsignedText {whole : List (Fin 10)} (hwhole : whole ≠ [])
    (fraction : Option (List (Fin 10))) :
    (unsignedText whole fraction).head? ≠ some '+' ∧
      (unsignedText whole fraction).head? ≠ some '-' := by
  have hdigit : ∀ digit, some (digitChar digit) ≠ some '+' ∧ some (digitChar digit) ≠ some '-' := by
    decide
  obtain ⟨first, rest, rfl⟩ := List.exists_cons_of_ne_nil hwhole
  exact hdigit first

/-! ## The accepted texts -/

/-- Whether a text is that of a lexeme. -/
def IsDecimalLexeme (text : String) : Prop :=
  ∃ lexeme : DecimalLexeme, lexeme.text = text.toList

/-- A plus before a lexeme that has a minus. -/
def DoublySigned (text : String) : Prop :=
  ∃ lexeme : DecimalLexeme, lexeme.sign = some true ∧ '+' :: lexeme.text = text.toList

/-- Whether a text is an optional sign and digits. -/
def IsSignedInteger (text : String) : Prop :=
  ∃ lexeme : DecimalLexeme, lexeme.fraction = none ∧ lexeme.text = text.toList

/-- A plus before a minus and digits. -/
def DoublySignedInteger (text : String) : Prop :=
  ∃ lexeme : DecimalLexeme,
    lexeme.fraction = none ∧ lexeme.sign = some true ∧ '+' :: lexeme.text = text.toList

theorem text_eq (lexeme : DecimalLexeme) :
    lexeme.text = signText lexeme.sign ++ unsignedText lexeme.whole lexeme.fraction :=
  rfl

/-- What is without signs an unsigned lexeme is a lexeme or has two signs. -/
theorem removeSigns_unsigned_iff (fits : Option (List (Fin 10)) → Prop) (text : List Char) :
    (∃ whole fraction, whole ≠ [] ∧ fraction ≠ some [] ∧ fits fraction ∧
        removeSigns text = unsignedText whole fraction) ↔
      (∃ lexeme : DecimalLexeme, fits lexeme.fraction ∧ lexeme.text = text) ∨
        ∃ lexeme : DecimalLexeme,
          fits lexeme.fraction ∧ lexeme.sign = some true ∧ '+' :: lexeme.text = text := by
  constructor
  · rintro ⟨whole, fraction, hwhole, hfraction, hfits, hbody⟩
    obtain ⟨sign, htext⟩ | htext :=
      (removeSigns_eq_iff (head_unsignedText hwhole fraction)).mp hbody
    · exact Or.inl ⟨⟨sign, whole, fraction, hwhole, hfraction⟩, hfits, htext.symm⟩
    · exact Or.inr ⟨⟨some true, whole, fraction, hwhole, hfraction⟩, hfits, rfl, htext.symm⟩
  · rintro (⟨lexeme, hfits, rfl⟩ | ⟨lexeme, hfits, hsign, rfl⟩)
    · refine ⟨lexeme.whole, lexeme.fraction, lexeme.whole_ne_nil, lexeme.fraction_ne_nil, hfits, ?_⟩
      apply (removeSigns_eq_iff (head_unsignedText lexeme.whole_ne_nil _)).mpr
      exact Or.inl ⟨lexeme.sign, text_eq lexeme⟩
    · refine ⟨lexeme.whole, lexeme.fraction, lexeme.whole_ne_nil, lexeme.fraction_ne_nil, hfits, ?_⟩
      apply (removeSigns_eq_iff (head_unsignedText lexeme.whole_ne_nil _)).mpr
      exact Or.inr (by rw [text_eq, hsign]; rfl)

/-- No lexeme has two signs. -/
theorem not_isDecimalLexeme_of_doublySigned {text : String} (h : DoublySigned text) :
    ¬ IsDecimalLexeme text := by
  rintro ⟨plain, hplain⟩
  obtain ⟨lexeme, hsign, htext⟩ := h
  have hhead := head_unsignedText plain.whole_ne_nil plain.fraction
  rw [← htext, text_eq, text_eq, hsign] at hplain
  match hsign' : plain.sign with
  | none =>
    rw [hsign'] at hplain
    exact hhead.1 (by rw [show unsignedText plain.whole plain.fraction = _ from hplain]; rfl)
  | some false =>
    rw [hsign'] at hplain
    have hrest := (List.cons.inj hplain).2
    exact hhead.2 (by rw [show unsignedText plain.whole plain.fraction = _ from hrest]; rfl)
  | some true =>
    rw [hsign'] at hplain
    exact absurd (List.cons.inj hplain).1 (by decide)

theorem not_isSignedInteger_of_doublySigned {text : String} (h : DoublySignedInteger text) :
    ¬ IsSignedInteger text := by
  obtain ⟨lexeme, -, htwo⟩ := h
  rintro ⟨plain, -, htext⟩
  exact not_isDecimalLexeme_of_doublySigned ⟨lexeme, htwo⟩ ⟨plain, htext⟩

/-- What is accepted as decimal is a lexeme or has two signs. -/
theorem checkDecimal_iff (text : String) :
    RawTimeFields.checkDecimal text.toList = .ok () ↔
      IsDecimalLexeme text ∨ DoublySigned text := by
  have hremoved := removeSigns_unsigned_iff (fun _ => True) text.toList
  simp only [true_and] at hremoved
  unfold RawTimeFields.checkDecimal
  dsimp only
  rw [check_eq_ok_iff, components_iff]
  exact hremoved

/-- What is accepted as a signed integer is one or has two signs. -/
theorem checkInteger_iff {raw : RawTimeFields} (hencoding : raw.encoding = .signedInteger)
    (text : String) :
    raw.checkInteger text.toList = .ok () ↔ IsSignedInteger text ∨ DoublySignedInteger text := by
  have hdigits : PlainDigits (removeSigns text.toList) ↔ ∃ whole fraction, whole ≠ [] ∧
      fraction ≠ some [] ∧ fraction = none ∧
        removeSigns text.toList = unsignedText whole fraction := by
    rw [plainDigits_iff]
    constructor
    · rintro ⟨digits, hne, hdigits⟩
      refine ⟨digits, none, hne, (fun h => nomatch h), rfl, ?_⟩
      rw [← hdigits, unsignedText, fractionText, List.append_nil]
    · rintro ⟨digits, _, hne, -, rfl, hdigits⟩
      refine ⟨digits, hne, ?_⟩
      rw [hdigits, unsignedText, fractionText, List.append_nil]
  have hremoved := removeSigns_unsigned_iff (fun fraction => fraction = none) text.toList
  unfold RawTimeFields.checkInteger
  dsimp only
  rw [if_pos hencoding, bind_unit_eq_ok_iff, check_eq_ok_iff, check_eq_ok_iff, hdigits, hremoved,
    hencoding]
  exact and_iff_left fun h => nomatch h.1

theorem validate_withDecimalLexeme {raw : RawTimeFields} (hrounding : raw.checkRounding = .ok ())
    (text : String) :
    (raw.withDecimalLexeme text).validateExactRepresentation = .ok () ↔
      IsDecimalLexeme text ∨ DoublySigned text := by
  rw [← checkDecimal_iff]
  unfold RawTimeFields.validateExactRepresentation
  rw [bind_unit_eq_ok_iff, bind_unit_eq_ok_iff, check_eq_ok_iff]
  constructor
  · exact fun h => h.2.1
  · exact fun h => ⟨⟨rfl, fun hnone => nomatch hnone⟩, h, hrounding⟩

theorem validate_withSignedInteger {raw : RawTimeFields} (hrounding : raw.checkRounding = .ok ())
    (text : String) :
    (raw.withSignedInteger text).validateExactRepresentation = .ok () ↔
      IsSignedInteger text ∨ DoublySignedInteger text := by
  have hchecked : (raw.withSignedInteger text).checkInteger text.toList = .ok () ↔
      IsSignedInteger text ∨ DoublySignedInteger text := checkInteger_iff rfl text
  rw [← hchecked]
  unfold RawTimeFields.validateExactRepresentation
  rw [bind_unit_eq_ok_iff, bind_unit_eq_ok_iff, check_eq_ok_iff]
  constructor
  · exact fun h => h.2.1
  · exact fun h => ⟨⟨rfl, fun hnone => nomatch hnone⟩, h, hrounding⟩

/-- A record without a sign, in order but for its text. -/
def unsignedRawTime : RawTimeFields where
  sourceKey := ⟨"imu.csv", rfl⟩
  field := ⟨"timestamp", rfl⟩
  unit := ⟨"s", rfl⟩
  epoch := .unixUtc
  reference := .sample
  encoding := .encodedBytes
  decimalLexeme := none
  integerValue := none
  encodedBytes := none
  rounding := .exact
  maximumConversionErrorNs := ⟨.finite 0, rfl, le_refl 0⟩

/-- The lexeme `-1`. -/
def minusOne : DecimalLexeme where
  sign := some true
  whole := [1]
  fraction := none
  whole_ne_nil := List.cons_ne_nil _ _
  fraction_ne_nil h := nomatch h

theorem toNat_lt_of_mem_text {lexeme : DecimalLexeme} {c : Char} (h : c ∈ lexeme.text) :
    c.toNat < 128 := by
  have hdigits : ∀ digits : List (Fin 10), c ∈ digits.map digitChar → c.toNat < 128 := by
    intro digits hc
    have hascii : ∀ digit : Fin 10, (digitChar digit).toNat < 128 := by decide
    obtain ⟨digit, -, rfl⟩ := List.mem_map.mp hc
    exact hascii digit
  rw [text, List.mem_append, List.mem_append] at h
  obtain hsign | hwhole | hfraction := h
  · match hsigned : lexeme.sign with
    | none => rw [hsigned] at hsign; nomatch hsign
    | some false => rw [hsigned] at hsign; rw [List.mem_singleton.mp hsign]; decide
    | some true => rw [hsigned] at hsign; rw [List.mem_singleton.mp hsign]; decide
  · exact hdigits _ hwhole
  · match hdigit : lexeme.fraction with
    | none => rw [hdigit] at hfraction; nomatch hfraction
    | some digits =>
      rw [hdigit, fractionText, List.mem_cons] at hfraction
      obtain rfl | hmem := hfraction
      · decide
      · exact hdigits _ hmem

theorem utf8Bytes_eq {lexeme : DecimalLexeme} {text : String} (h : lexeme.text = text.toList) :
    Artifacts.utf8Bytes text = lexeme.bytes := by
  unfold Artifacts.utf8Bytes bytes
  rw [← h, List.map_eq_flatMap]
  exact List.flatMap_congr fun c hc =>
    Foundation.asciiTransparent_utf8.ascii c (toNat_lt_of_mem_text hc)

/-- The native parser converts every accepted text of at most 64 bytes with at most one sign,
as long as an integer holds its nanoseconds. -/
theorem accepted_decimal_converts {raw : RawTimeFields} {text : String}
    (haccepted : (raw.withDecimalLexeme text).validateExactRepresentation = .ok ())
    (hsigns : ¬ DoublySigned text)
    (hlength : (Artifacts.utf8Bytes text).length ≤ maximumDecimalSecondsBytes) :
    ∃ lexeme : DecimalLexeme, lexeme.text = text.toList ∧ ∀ result,
      decimalSecondsToNanoseconds (Artifacts.utf8Bytes text) = .ok result ↔
        result.value = lexeme.nanoseconds := by
  have htext : RawTimeFields.checkDecimal text.toList = .ok () := by
    unfold RawTimeFields.validateExactRepresentation at haccepted
    rw [bind_unit_eq_ok_iff, bind_unit_eq_ok_iff] at haccepted
    exact haccepted.2.1
  obtain ⟨lexeme, hlexeme⟩ := ((checkDecimal_iff text).mp htext).resolve_right hsigns
  refine ⟨lexeme, hlexeme, fun result => ?_⟩
  rw [utf8Bytes_eq hlexeme] at hlength ⊢
  rw [decimalSeconds_bytes hlength, evaluate_ok_iff]

end CartoSentry.Contracts
