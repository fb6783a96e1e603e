import CartoSentry.Foundation.DecimalArithmetic
import CartoSentry.Foundation.JsonScanner

set_option autoImplicit false

/-!
# Decimal literals

The numeric strings of Python's `Decimal`, read exactly: a grammar of the literals, the parser, and
that the parser reads what the grammar derives.
-/

namespace CartoSentry.Foundation

open JsonScanner (Text digitsValue isDigit scanExponentSign word)

/-! ## Literals -/

/-- The parts of a literal without a special value. -/
structure DecimalNumeral where
  negative : Bool
  whole : Text
  fraction : Text
  exponent : Int
  deriving DecidableEq, Repr

inductive DecimalLiteral where
  | finite (numeral : DecimalNumeral)
  | infinity (negative : Bool)
  | nan (signaling negative : Bool) (payload : Text)
  deriving DecidableEq, Repr

namespace DecimalNumeral

variable (numeral : DecimalNumeral)

def coefficient : Nat :=
  digitsValue (numeral.whole ++ numeral.fraction)

/-- The exponent of the last digit. -/
def lastPlace : Int :=
  numeral.exponent - numeral.fraction.length

/-- The number that a literal denotes. -/
def value : ℚ :=
  Decimal.signed numeral.negative (magnitude numeral.coefficient numeral.lastPlace)

end DecimalNumeral

/-! ## The grammar -/

/-- A text of digits only. -/
def IsDigits (text : Text) : Prop :=
  ∀ point ∈ text, isDigit point = true

inductive SignText : Text → Bool → Prop where
  | absent : SignText [] false
  | plus : SignText ['+'.toNat] false
  | minus : SignText ['-'.toNat] true

/-- Digits, with a point before, between or behind them. -/
inductive DecimalPart : Text → Text → Text → Prop where
  | whole {whole : Text} (hwhole : IsDigits whole) (hne : whole ≠ []) : DecimalPart whole whole []
  | pointed {whole fraction : Text} (hwhole : IsDigits whole) (hfraction : IsDigits fraction)
      (hne : whole ≠ [] ∨ fraction ≠ []) :
      DecimalPart (whole ++ '.'.toNat :: fraction) whole fraction

/-- A sign before a number. -/
def signedInteger (negative : Bool) (value : Nat) : Int :=
  if negative then -value else value

inductive ExponentPart : Text → Int → Prop where
  | absent : ExponentPart [] 0
  | written {indicator : Nat} {sign digits : Text} {negative : Bool}
      (hindicator : indicator = 'e'.toNat ∨ indicator = 'E'.toNat) (hsign : SignText sign negative)
      (hdigits : IsDigits digits) (hne : digits ≠ []) :
      ExponentPart (indicator :: (sign ++ digits)) (signedInteger negative (digitsValue digits))

/-- A text spells a finite literal. -/
def SpellsNumeral (text : Text) (numeral : DecimalNumeral) : Prop :=
  ∃ sign digits exponent, text = sign ++ (digits ++ exponent) ∧
    SignText sign numeral.negative ∧ DecimalPart digits numeral.whole numeral.fraction ∧
    ExponentPart exponent numeral.exponent

/-! ## The parser -/

/-- The digits behind the point. -/
def scanDecimalFraction : Text → Text × Text
  | [] => ([], [])
  | point :: text =>
    if point = '.'.toNat then (text.takeWhile isDigit, text.dropWhile isDigit)
    else ([], point :: text)

def parseExponentDigits (negative : Bool) (digits : Text) : Option Int :=
  if digits ≠ [] ∧ digits.all isDigit = true then
    some (signedInteger negative (digitsValue digits))
  else none

/-- The exponent, with nothing behind it. -/
def parseExponentPart : Text → Option Int
  | [] => some 0
  | indicator :: text =>
    if indicator = 'e'.toNat ∨ indicator = 'E'.toNat then
      parseExponentDigits (scanExponentSign text).1 (scanExponentSign text).2
    else none

def parseNumeral (negative : Bool) (text : Text) : Option DecimalNumeral :=
  let whole := text.takeWhile isDigit
  let scanned := scanDecimalFraction (text.dropWhile isDigit)
  if whole = [] ∧ scanned.1 = [] then none
  else (parseExponentPart scanned.2).map fun exponent => ⟨negative, whole, scanned.1, exponent⟩

/-- A letter of ASCII in lower case. -/
def lowerPoint (point : Nat) : Nat :=
  if 'A'.toNat ≤ point ∧ point ≤ 'Z'.toNat then point + 32 else point

/-- The payload of a NaN behind this name. -/
def nanPayload? (name : String) (text : Text) : Option Text :=
  if (text.take name.length).map lowerPoint = word name ∧
      (text.drop name.length).all isDigit = true then
    some (text.drop name.length)
  else none

/-- What follows the sign of a literal. -/
def parseUnsigned (negative : Bool) (text : Text) : Option DecimalLiteral :=
  if text.map lowerPoint = word "inf" ∨ text.map lowerPoint = word "infinity" then
    some (.infinity negative)
  else
    match nanPayload? "nan" text, nanPayload? "snan" text with
    | some payload, _ => some (.nan false negative payload)
    | none, some payload => some (.nan true negative payload)
    | none, none => (parseNumeral negative text).map .finite

/-- The literal that a text of ASCII spells. -/
def parseLiteral (text : Text) : Option DecimalLiteral :=
  parseUnsigned (scanExponentSign text).1 (scanExponentSign text).2

/-! ## Strings -/

/-- The tables of Unicode. -/
structure UnicodeNumerals where
  isSpace : Nat → Bool
  decimalDigit : Nat → Option (Fin 10)

/-- A code point as one of ASCII. -/
def UnicodeNumerals.asciiPoint (unicode : UnicodeNumerals) (point : Nat) : Option Nat :=
  if 0 < point ∧ point ≤ 127 then some point
  else if unicode.isSpace point = true then some ' '.toNat
  else (unicode.decimalDigit point).map fun digit => '0'.toNat + digit

/-- A string without the space around it and without underscores, in ASCII. -/
def UnicodeNumerals.numericAscii (unicode : UnicodeNumerals) (text : Text) : Option Text :=
  (((text.reverse.dropWhile unicode.isSpace).reverse.dropWhile unicode.isSpace).filter
    fun point => point ≠ '_'.toNat).mapM unicode.asciiPoint

/-- The literal that a string spells. -/
def readLiteral (unicode : UnicodeNumerals) (text : Text) : Option DecimalLiteral :=
  (unicode.numericAscii text).bind parseLiteral

/-- A string denotes a number. -/
def Denotes (unicode : UnicodeNumerals) (text : Text) (value : ℚ) : Prop :=
  ∃ ascii numeral, unicode.numericAscii text = some ascii ∧ SpellsNumeral ascii numeral ∧
    numeral.value = value

/-! ## Storing -/

/-- The largest context: `MAX_PREC`, `MIN_EMIN` and `MAX_EMAX`. -/
def maximumContext : DecimalContext where
  precision := 999999999999999999
  least := -999999999999999999
  greatest := 999999999999999999
  precision_pos := by omega
  least_le_greatest := by omega

/-- The literal has no more digits than fit, and exponents in the range of the library. -/
def DecimalNumeral.Storable (numeral : DecimalNumeral) : Prop :=
  numeral.fraction.length ≤ maximumContext.precision ∧
    Nat.log 10 numeral.coefficient < maximumContext.precision ∧
    maximumContext.tiny ≤ numeral.lastPlace ∧
    leading numeral.coefficient numeral.lastPlace ≤ maximumContext.greatest

instance (numeral : DecimalNumeral) : Decidable numeral.Storable :=
  inferInstanceAs (Decidable (_ ∧ _ ∧ _ ∧ _))

namespace Decimal

/-- A literal is stored exactly or not at all. -/
def store : DecimalLiteral → Except DecimalSignal Decimal
  | .finite numeral =>
    if numeral.Storable then
      .ok (.finite numeral.negative numeral.coefficient numeral.lastPlace)
    else .error .invalidOperation
  | .infinity negative => .ok (.infinity negative)
  | .nan signaling negative payload =>
    if Nat.log 10 (digitsValue payload) < maximumContext.precision then
      .ok (.nan signaling negative (digitsValue payload))
    else .error .invalidOperation

/-- `Decimal(text)` -/
def ofText (unicode : UnicodeNumerals) (text : Text) : Except DecimalSignal Decimal :=
  match readLiteral unicode text with
  | none => .error .invalidOperation
  | some literal => store literal

end Decimal

/-! ## The parser and the grammar -/

/-- A text that does not go on with a digit. -/
def Stops (text : Text) : Prop :=
  ∀ point ∈ text.head?, isDigit point = false

theorem takeWhile_digits {digits rest : Text} (hdigits : IsDigits digits) (hrest : Stops rest) :
    (digits ++ rest).takeWhile isDigit = digits := by
  rw [List.takeWhile_append_of_pos hdigits]
  cases rest with
  | nil => rw [List.takeWhile_nil, List.append_nil]
  | cons point rest =>
    rw [List.takeWhile_cons_of_neg (by simp [hrest point rfl]), List.append_nil]

theorem dropWhile_digits {digits rest : Text} (hdigits : IsDigits digits) (hrest : Stops rest) :
    (digits ++ rest).dropWhile isDigit = rest := by
  rw [List.dropWhile_append_of_pos hdigits]
  cases rest with
  | nil => rfl
  | cons point rest => rw [List.dropWhile_cons_of_neg (by simp [hrest point rfl])]

theorem isDigits_takeWhile (text : Text) : IsDigits (text.takeWhile isDigit) :=
  List.all_eq_true.mp List.all_takeWhile

/-- A sign is read, and nothing else. -/
theorem scanExponentSign_spec (text : Text) :
    ∃ sign, text = sign ++ (scanExponentSign text).2 ∧
      SignText sign (scanExponentSign text).1 := by
  unfold scanExponentSign
  split
  · split_ifs with hminus hplus
    · exact ⟨_, by rw [hminus]; rfl, .minus⟩
    · exact ⟨_, by rw [hplus]; rfl, .plus⟩
    · exact ⟨[], rfl, .absent⟩
  · exact ⟨[], rfl, .absent⟩

theorem scanExponentSign_append {sign rest : Text} {negative : Bool}
    (hsign : SignText sign negative)
    (hrest : ∀ point ∈ rest.head?, point ≠ '-'.toNat ∧ point ≠ '+'.toNat) :
    scanExponentSign (sign ++ rest) = (negative, rest) := by
  cases hsign with
  | absent =>
    cases rest with
    | nil => rfl
    | cons point rest =>
      obtain ⟨hminus, hplus⟩ := hrest point rfl
      unfold scanExponentSign
      rw [List.nil_append]
      dsimp only
      rw [if_neg hminus, if_neg hplus]
  | plus => rfl
  | minus => rfl

theorem not_sign_of_isDigit {point : Nat} (h : isDigit point = true) :
    point ≠ '-'.toNat ∧ point ≠ '+'.toNat := by
  simp only [isDigit, Bool.and_eq_true, decide_eq_true_eq, Char.reduceToNat] at h ⊢
  omega

theorem parseExponentPart_eq_some_iff {text : Text} {exponent : Int} :
    parseExponentPart text = some exponent ↔ ExponentPart text exponent := by
  constructor
  · intro h
    cases text with
    | nil =>
      obtain rfl := Option.some.inj h
      exact .absent
    | cons indicator text =>
      unfold parseExponentPart at h
      dsimp only at h
      split_ifs at h with hindicator
      unfold parseExponentDigits at h
      split_ifs at h with hdigits
      obtain rfl := Option.some.inj h
      obtain ⟨sign, htext, hsign⟩ := scanExponentSign_spec text
      generalize scanExponentSign text = scanned at *
      subst htext
      exact .written hindicator hsign (List.all_eq_true.mp hdigits.2) hdigits.1
  · intro h
    cases h with
    | absent => rfl
    | written hindicator hsign hdigits hne =>
      unfold parseExponentPart
      dsimp only
      rw [if_pos hindicator, scanExponentSign_append hsign ?_]
      · exact if_pos ⟨hne, List.all_eq_true.mpr hdigits⟩
      · exact fun point hpoint => not_sign_of_isDigit (hdigits point (List.mem_of_mem_head? hpoint))

theorem stops_of_exponentPart {text : Text} {exponent : Int} (h : ExponentPart text exponent) :
    Stops text := by
  cases h with
  | absent =>
    intro point hpoint
    cases hpoint
  | written hindicator hsign hdigits hne =>
    intro point hpoint
    obtain rfl := Option.some.inj hpoint
    rcases hindicator with rfl | rfl
    · decide
    · decide

theorem exponentPart_head {text : Text} {exponent : Int} (h : ExponentPart text exponent) :
    ∀ point ∈ text.head?, point ≠ '.'.toNat := by
  cases h with
  | absent =>
    intro point hpoint
    cases hpoint
  | written hindicator hsign hdigits hne =>
    intro point hpoint
    obtain rfl := Option.some.inj hpoint
    rcases hindicator with rfl | rfl
    · decide
    · decide

theorem scanDecimalFraction_of_head {text : Text} (h : ∀ point ∈ text.head?, point ≠ '.'.toNat) :
    scanDecimalFraction text = ([], text) := by
  cases text with
  | nil => rfl
  | cons point text => exact if_neg (h point rfl)

theorem scanDecimalFraction_spec (text : Text) :
    scanDecimalFraction text = ([], text) ∨
      ∃ behind, text = '.'.toNat :: behind ∧
        scanDecimalFraction text = (behind.takeWhile isDigit, behind.dropWhile isDigit) := by
  cases text with
  | nil => exact Or.inl rfl
  | cons point behind =>
    by_cases hpoint : point = '.'.toNat
    · exact Or.inr ⟨behind, by rw [hpoint], if_pos hpoint⟩
    · exact Or.inl (if_neg hpoint)

/-- The digits that are read are those of the grammar. -/
theorem parseNumeral_eq_some_iff {negative : Bool} {text : Text} {numeral : DecimalNumeral} :
    parseNumeral negative text = some numeral ↔ numeral.negative = negative ∧
      ∃ digits exponent, text = digits ++ exponent ∧
        DecimalPart digits numeral.whole numeral.fraction ∧
        ExponentPart exponent numeral.exponent := by
  constructor
  · intro h
    unfold parseNumeral at h
    dsimp only at h
    split_ifs at h with hempty
    obtain ⟨exponent, hexponent, rfl⟩ := Option.map_eq_some_iff.mp h
    rw [parseExponentPart_eq_some_iff] at hexponent
    refine ⟨rfl, ?_⟩
    dsimp only
    have hwhole := isDigits_takeWhile text
    have htext : text.takeWhile isDigit ++ text.dropWhile isDigit = text :=
      List.takeWhile_append_dropWhile
    generalize text.takeWhile isDigit = whole at *
    generalize text.dropWhile isDigit = rest at *
    subst htext
    rcases scanDecimalFraction_spec rest with hscanned | ⟨behind, rfl, hscanned⟩
    · rw [hscanned] at hempty hexponent ⊢
      exact ⟨whole, rest, rfl, .whole hwhole fun hnil => hempty ⟨hnil, rfl⟩, hexponent⟩
    · rw [hscanned] at hempty hexponent ⊢
      refine ⟨whole ++ '.'.toNat :: behind.takeWhile isDigit, behind.dropWhile isDigit, ?_,
        .pointed hwhole (isDigits_takeWhile behind) (not_and_or.mp hempty), hexponent⟩
      rw [List.append_assoc, List.cons_append, List.takeWhile_append_dropWhile]
  · rintro ⟨hnegative, digits, exponent, rfl, hdigits, hexponent⟩
    obtain ⟨sign, whole, fraction, power⟩ := numeral
    dsimp only at hnegative hdigits hexponent
    subst hnegative
    have hpower := parseExponentPart_eq_some_iff.mpr hexponent
    cases hdigits with
    | whole hwhole hne =>
      unfold parseNumeral
      dsimp only
      rw [takeWhile_digits hwhole (stops_of_exponentPart hexponent),
        dropWhile_digits hwhole (stops_of_exponentPart hexponent),
        scanDecimalFraction_of_head (exponentPart_head hexponent), if_neg (fun h => hne h.1),
        hpower]
      rfl
    | pointed hwhole hfraction hne =>
      have hpoint : Stops ('.'.toNat :: (fraction ++ exponent)) := by
        intro point h
        obtain rfl := Option.some.inj h
        decide
      have hscanned : scanDecimalFraction ('.'.toNat :: (fraction ++ exponent)) =
          (fraction, exponent) := by
        unfold scanDecimalFraction
        dsimp only
        rw [if_pos rfl, takeWhile_digits hfraction (stops_of_exponentPart hexponent),
          dropWhile_digits hfraction (stops_of_exponentPart hexponent)]
      unfold parseNumeral
      dsimp only
      rw [List.append_assoc, List.cons_append, takeWhile_digits hwhole hpoint,
        dropWhile_digits hwhole hpoint, hscanned, if_neg (not_and_or.mpr hne), hpower]
      rfl

/-- The first character of digits with a point is a digit or the point. -/
theorem decimalPart_head {digits whole fraction : Text} (h : DecimalPart digits whole fraction)
    (exponent : Text) :
    ∃ point rest, digits ++ exponent = point :: rest ∧
      (isDigit point = true ∨ point = '.'.toNat) := by
  cases h with
  | whole hwhole hne =>
    cases digits with
    | nil => exact absurd rfl hne
    | cons point digits =>
      exact ⟨point, digits ++ exponent, rfl, Or.inl (hwhole point List.mem_cons_self)⟩
  | pointed hwhole hfraction hne =>
    cases whole with
    | nil => exact ⟨'.'.toNat, fraction ++ exponent, rfl, Or.inr rfl⟩
    | cons point whole =>
      exact ⟨point, (whole ++ '.'.toNat :: fraction) ++ exponent, rfl,
        Or.inl (hwhole point List.mem_cons_self)⟩

/-- What starts with a digit or a point is no special value. -/
theorem parseUnsigned_of_head {negative : Bool} {point : Nat} {rest : Text}
    (h : isDigit point = true ∨ point = '.'.toNat) :
    parseUnsigned negative (point :: rest) =
      (parseNumeral negative (point :: rest)).map .finite := by
  have hlower : lowerPoint point = point := by
    unfold lowerPoint
    simp only [isDigit, Bool.and_eq_true, decide_eq_true_eq, Char.reduceToNat] at h ⊢
    rw [if_neg (by omega)]
  have hletter : point ≠ 'i'.toNat ∧ point ≠ 'n'.toNat ∧ point ≠ 's'.toNat := by
    simp only [isDigit, Bool.and_eq_true, decide_eq_true_eq, Char.reduceToNat] at h ⊢
    omega
  have hinfinity : ¬ ((point :: rest).map lowerPoint = word "inf" ∨
      (point :: rest).map lowerPoint = word "infinity") := by
    rw [List.map_cons, hlower]
    rintro (h | h)
    · exact hletter.1 (List.cons.inj h).1
    · exact hletter.1 (List.cons.inj h).1
  have hnan : nanPayload? "nan" (point :: rest) = none := by
    refine if_neg fun hname => hletter.2.1 ?_
    have hfirst : lowerPoint point = 'n'.toNat := (List.cons.inj hname.1).1
    rwa [hlower] at hfirst
  have hsnan : nanPayload? "snan" (point :: rest) = none := by
    refine if_neg fun hname => hletter.2.2 ?_
    have hfirst : lowerPoint point = 's'.toNat := (List.cons.inj hname.1).1
    rwa [hlower] at hfirst
  unfold parseUnsigned
  rw [if_neg hinfinity, hnan, hsnan]

/-- The finite literals that are read are those of the grammar. -/
theorem parseLiteral_eq_finite_iff {text : Text} {numeral : DecimalNumeral} :
    parseLiteral text = some (.finite numeral) ↔ SpellsNumeral text numeral := by
  constructor
  · intro h
    obtain ⟨sign, htext, hsign⟩ := scanExponentSign_spec text
    unfold parseLiteral parseUnsigned at h
    split_ifs at h with hinfinity
    · cases Option.some.inj h
    · split at h
      · cases Option.some.inj h
      · cases Option.some.inj h
      · obtain ⟨found, hfound, hnumeral⟩ := Option.map_eq_some_iff.mp h
        obtain rfl := DecimalLiteral.finite.inj hnumeral
        obtain ⟨hnegative, digits, exponent, hrest, hdigits, hexponent⟩ :=
          parseNumeral_eq_some_iff.mp hfound
        rw [hrest] at htext
        rw [← hnegative] at hsign
        exact ⟨sign, digits, exponent, htext, hsign, hdigits, hexponent⟩
  · rintro ⟨sign, digits, exponent, rfl, hsign, hdigits, hexponent⟩
    obtain ⟨point, rest, hrest, hpoint⟩ := decimalPart_head hdigits exponent
    have hscanned : scanExponentSign (sign ++ (digits ++ exponent)) =
        (numeral.negative, digits ++ exponent) := by
      refine scanExponentSign_append hsign fun first hfirst => ?_
      rw [hrest] at hfirst
      obtain rfl := Option.some.inj hfirst
      rcases hpoint with hdigit | rfl
      · exact not_sign_of_isDigit hdigit
      · decide
    unfold parseLiteral
    rw [hscanned]
    dsimp only
    rw [hrest, parseUnsigned_of_head hpoint, ← hrest,
      parseNumeral_eq_some_iff.mpr ⟨rfl, digits, exponent, rfl, hdigits, hexponent⟩]
    rfl

/-- A string denotes the number of the finite literal that is read. -/
theorem denotes_iff {unicode : UnicodeNumerals} {text : Text} {value : ℚ} :
    Denotes unicode text value ↔
      ∃ numeral, readLiteral unicode text = some (.finite numeral) ∧ numeral.value = value := by
  unfold Denotes readLiteral
  constructor
  · rintro ⟨ascii, numeral, hascii, hspells, hvalue⟩
    refine ⟨numeral, ?_, hvalue⟩
    rw [hascii]
    exact parseLiteral_eq_finite_iff.mpr hspells
  · rintro ⟨numeral, hread, hvalue⟩
    obtain ⟨ascii, hascii, hparse⟩ := Option.bind_eq_some_iff.mp hread
    exact ⟨ascii, numeral, hascii, parseLiteral_eq_finite_iff.mp hparse, hvalue⟩

end CartoSentry.Foundation
