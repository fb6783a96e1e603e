import CartoSentry.Contracts.Raised
import CartoSentry.Foundation.DecimalText

set_option autoImplicit false

/-!
# Road graph: coordinates

`_coordinate_e7` of `road_graph.py`: decimal degrees of OpenStreetMap as whole numbers of 10⁻⁷
degrees.
-/

namespace CartoSentry.RoadGraph

open Contracts (Raised raiseIf raiseIf_eq_ok_iff)
open Foundation
open Foundation.JsonScanner (Text word)

/-- What leaves `_coordinate_e7`: an exception of Python, or one of the module `decimal`. -/
inductive CoordinateError where
  | raised (error : Raised)
  | signal (signal : DecimalSignal)
  deriving DecidableEq, Repr

/-- The default context of the module `decimal`. -/
def defaultContext : DecimalContext where
  precision := 28
  least := -999999
  greatest := 999999
  precision_pos := by omega
  least_le_greatest := by omega

/-- `Decimal(10_000_000)` -/
def degreesScale : Decimal :=
  .finite false 10000000 0

/-- `Decimal(value) * Decimal(10_000_000)` -/
def scaledDegrees (unicode : UnicodeNumerals) (value : Text) : Except DecimalSignal Decimal := do
  let degrees ← Decimal.ofText unicode value
  defaultContext.mul degrees degreesScale

/-- `int(value)` -/
def integerOf : Decimal → Except CoordinateError Int
  | .finite negative coefficient exponent =>
    .ok (signedInteger negative ⌊magnitude coefficient exponent⌋.toNat)
  | .infinity _ => .error (.raised (.overflowError "cannot convert Infinity to integer"))
  | .nan .. => .error (.raised (.valueError "cannot convert NaN to integer"))

/-- `limit` -/
def coordinateLimit (latitude : Bool) : Nat :=
  if latitude then 900000000 else 1800000000

/-- An exception of the module `decimal` that nobody catches. -/
def uncaught {A : Type} : Except DecimalSignal A → Except CoordinateError A
  | .ok result => .ok result
  | .error signal => .error (.signal signal)

/-- A `ValueError` under a condition. -/
def refuseIf (condition : Prop) [Decidable condition] (message : String) :
    Except CoordinateError Unit :=
  if condition then .error (.raised (.valueError message)) else .ok ()

/-- What becomes of the scaled degrees. -/
def wholeDegrees (latitude : Bool) (scaled : Decimal) : Except CoordinateError Int := do
  let integral ← uncaught scaled.toIntegralValue
  let equal ← uncaught (scaled.equals integral)
  refuseIf (equal = false) "OSM coordinates must have at most seven decimal places"
  let result ← integerOf integral
  refuseIf (¬ (-(coordinateLimit latitude : Int) ≤ result ∧ result ≤ coordinateLimit latitude))
    "OSM coordinate is outside WGS84 bounds"
  return result

/-- `_coordinate_e7` -/
def coordinateE7 (unicode : UnicodeNumerals) (value : Text) (latitude : Bool) :
    Except CoordinateError Int :=
  match scaledDegrees unicode value with
  | .error .invalidOperation =>
    .error (.raised (.valueError "OSM coordinate must be finite decimal degrees"))
  | .error signal => .error (.signal signal)
  | .ok scaled => wholeDegrees latitude scaled

/-! ## Outcomes -/

/-- The outcome is a result or a `ValueError`. -/
def Refuses {A : Type} (outcome : Except CoordinateError A) : Prop :=
  ∃ message, outcome = .error (.raised (.valueError message))

theorem refuseIf_bind {A : Type} {condition : Prop} [Decidable condition] {message : String}
    {rest : Except CoordinateError A} :
    (refuseIf condition message >>= fun _ => rest) =
      if condition then .error (.raised (.valueError message)) else rest := by
  unfold refuseIf
  split_ifs
  · rfl
  · rfl

theorem signedInteger_inj {negative : Bool} {left right : Nat}
    (h : signedInteger negative left = signedInteger negative right) : left = right := by
  unfold signedInteger at h
  split_ifs at h
  · omega
  · omega

theorem signedInteger_bounds {negative : Bool} {value limit : Nat} :
    -(limit : Int) ≤ signedInteger negative value ∧ signedInteger negative value ≤ limit ↔
      value ≤ limit := by
  unfold signedInteger
  split_ifs
  · omega
  · omega

theorem signed_eq_iff {negative : Bool} {left right : ℚ} :
    Decimal.signed negative left = Decimal.signed negative right ↔ left = right := by
  unfold Decimal.signed
  split_ifs
  · exact neg_inj
  · exact Iff.rfl

theorem signed_natCast (negative : Bool) (value : Nat) :
    Decimal.signed negative value = (signedInteger negative value : Int) := by
  unfold Decimal.signed signedInteger
  split_ifs
  · push_cast
    rfl
  · push_cast
    rfl

/-- A number that is whole with its sign is whole. -/
theorem signed_eq_intCast_iff {negative : Bool} {value : ℚ} (hvalue : 0 ≤ value) {units : Int} :
    Decimal.signed negative value = units ↔
      ∃ whole : Nat, value = whole ∧ units = signedInteger negative whole := by
  constructor
  · intro h
    obtain ⟨whole, rfl⟩ : ∃ whole : Nat, value = whole := by
      unfold Decimal.signed at h
      split_ifs at h
      · have hunits : value = ((-units : Int) : ℚ) := by
          push_cast
          linarith
        rw [hunits] at hvalue
        obtain ⟨whole, hwhole⟩ := Int.eq_ofNat_of_zero_le (Int.cast_nonneg_iff.mp hvalue)
        exact ⟨whole, by rw [hunits, hwhole, Int.cast_natCast]⟩
      · rw [h] at hvalue
        obtain ⟨whole, hwhole⟩ := Int.eq_ofNat_of_zero_le (Int.cast_nonneg_iff.mp hvalue)
        exact ⟨whole, by rw [h, hwhole, Int.cast_natCast]⟩
    rw [signed_natCast] at h
    exact ⟨whole, rfl, (Int.cast_inj.mp h).symm⟩
  · rintro ⟨whole, rfl, rfl⟩
    exact signed_natCast negative whole

/-! ## Whole numbers -/

/-- The whole number next to a number, and whether it is the number. -/
theorem toIntegralValue_finite (negative : Bool) (coefficient : Nat) (exponent : Int) :
    ∃ coefficient' exponent' whole,
      (Decimal.finite negative coefficient exponent).toIntegralValue =
        .ok (.finite negative coefficient' exponent') ∧
      magnitude coefficient' exponent' = ((whole : Nat) : ℚ) ∧
      ∀ value : Nat, magnitude coefficient exponent = value → value = whole := by
  unfold Decimal.toIntegralValue
  dsimp only
  split_ifs with hexponent
  · obtain ⟨shift, rfl⟩ := Int.eq_ofNat_of_zero_le hexponent
    have hwhole : magnitude coefficient shift = ((coefficient * 10 ^ shift : Nat) : ℚ) := by
      rw [magnitude, zpow_natCast]
      norm_cast
    refine ⟨coefficient, shift, coefficient * 10 ^ shift, rfl, hwhole, fun value hvalue => ?_⟩
    rw [hwhole] at hvalue
    exact_mod_cast hvalue.symm
  · refine ⟨_, 0, (nearestEven (magnitude coefficient exponent)).toNat, rfl, ?_, ?_⟩
    · rw [magnitude, zpow_zero, mul_one]
    · intro value hvalue
      have hnearest : nearestEven (value : ℚ) = value := by
        rw [← Int.cast_natCast, nearestEven_intCast]
      rw [hvalue, hnearest, Int.toNat_natCast]

/-- The integer that a number is scaled to. -/
theorem wholeDegrees_finite (latitude negative : Bool) (coefficient : Nat) (exponent : Int) :
    (∀ result, wholeDegrees latitude (.finite negative coefficient exponent) = .ok result ↔
      ∃ whole : Nat, magnitude coefficient exponent = whole ∧ whole ≤ coordinateLimit latitude ∧
        result = signedInteger negative whole) ∧
    ((∃ result, wholeDegrees latitude (.finite negative coefficient exponent) = .ok result) ∨
      Refuses (wholeDegrees latitude (.finite negative coefficient exponent))) := by
  obtain ⟨coefficient', exponent', whole, hintegral, hwhole, hunique⟩ :=
    toIntegralValue_finite negative coefficient exponent
  have hequals : (Decimal.finite negative coefficient exponent).equals
      (.finite negative coefficient' exponent') =
        .ok (decide (magnitude coefficient exponent = whole)) := by
    unfold Decimal.equals
    dsimp only
    refine congrArg Except.ok (decide_eq_decide.mpr ?_)
    rw [signed_eq_iff, hwhole]
  have hinteger : integerOf (.finite negative coefficient' exponent') =
      .ok (signedInteger negative whole) := by
    unfold integerOf
    dsimp only
    rw [hwhole, Int.floor_natCast, Int.toNat_natCast]
  have houtcome : wholeDegrees latitude (.finite negative coefficient exponent) =
      if magnitude coefficient exponent = whole then
        if whole ≤ coordinateLimit latitude then .ok (signedInteger negative whole)
        else .error (.raised (.valueError "OSM coordinate is outside WGS84 bounds"))
      else .error (.raised (.valueError
        "OSM coordinates must have at most seven decimal places")) := by
    unfold wholeDegrees
    rw [hintegral]
    unfold uncaught
    dsimp only
    rw [ok_bind, hequals]
    dsimp only
    rw [ok_bind, refuseIf_bind, hinteger, ok_bind, refuseIf_bind]
    simp only [decide_eq_false_iff_not, ite_not, signedInteger_bounds]
    rfl
  rw [houtcome]
  constructor
  · intro result
    constructor
    · intro h
      split_ifs at h with hexact hlimit
      exact ⟨whole, hexact, hlimit, (Except.ok.inj h).symm⟩
    · rintro ⟨value, hvalue, hlimit, rfl⟩
      obtain rfl := hunique value hvalue
      rw [if_pos hvalue, if_pos hlimit]
  · split_ifs
    · exact Or.inl ⟨_, rfl⟩
    · exact Or.inr ⟨_, rfl⟩
    · exact Or.inr ⟨_, rfl⟩

/-! ## Exact conversion -/

/-- The string is a literal of this many units of 10⁻⁷ degrees, on the axis. -/
def IsCoordinate (unicode : UnicodeNumerals) (value : Text) (latitude : Bool) (units : Int) :
    Prop :=
  Denotes unicode value (units / 10 ^ 7) ∧
    -(coordinateLimit latitude : Int) ≤ units ∧ units ≤ coordinateLimit latitude

/-- The conversion returns the units of a literal that has them, and refuses every other
string. -/
def Converts (unicode : UnicodeNumerals) (value : Text) (latitude : Bool) : Prop :=
  (∀ units, coordinateE7 unicode value latitude = .ok units ↔
    IsCoordinate unicode value latitude units) ∧
  ((∀ units, ¬ IsCoordinate unicode value latitude units) →
    Refuses (coordinateE7 unicode value latitude))

/-- The coefficient of the degrees times 10⁷. -/
def scaledCoefficient (numeral : DecimalNumeral) : Nat :=
  numeral.coefficient * 10000000

/-- The degrees times 10⁷, without the sign. -/
def unitsOf (numeral : DecimalNumeral) : ℚ :=
  magnitude (scaledCoefficient numeral) numeral.lastPlace

/-- The last digit that the product keeps. -/
def lastDigit (numeral : DecimalNumeral) : ℚ :=
  10 ^ defaultContext.lastExponent (scaledCoefficient numeral) numeral.lastPlace

/-- A finite literal that the context does not distort.  Where the library can store it, the
product does not overflow and is no whole number of the axis or farther from it than half of its
last digit; where the library cannot, it has no units on the axis. -/
structure Undistorted (numeral : DecimalNumeral) (latitude : Bool) : Prop where
  fits : numeral.Storable → unitsOf numeral < defaultContext.overflowBound
  apart : numeral.Storable → numeral.coefficient ≠ 0 → ∀ whole ≤ coordinateLimit latitude,
    unitsOf numeral = whole ∨ lastDigit numeral < 2 * |unitsOf numeral - whole|
  stored : ¬ numeral.Storable → ∀ whole ≤ coordinateLimit latitude, unitsOf numeral ≠ whole

/-- A string that is no infinity, and no finite literal that the context distorts. -/
def Convertible (unicode : UnicodeNumerals) (value : Text) (latitude : Bool) : Prop :=
  (∀ negative, readLiteral unicode value ≠ some (.infinity negative)) ∧
    ∀ numeral, readLiteral unicode value = some (.finite numeral) → Undistorted numeral latitude

variable {unicode : UnicodeNumerals} {value : Text} {latitude : Bool}

/-- Only a finite literal has units. -/
theorem not_isCoordinate (h : ∀ numeral, readLiteral unicode value ≠ some (.finite numeral))
    (units : Int) : ¬ IsCoordinate unicode value latitude units := by
  rintro ⟨hdenotes, -⟩
  obtain ⟨numeral, hread, -⟩ := denotes_iff.mp hdenotes
  exact h numeral hread

theorem unitsOf_eq (numeral : DecimalNumeral) :
    unitsOf numeral = magnitude numeral.coefficient numeral.lastPlace * 10 ^ 7 := by
  unfold unitsOf scaledCoefficient magnitude
  push_cast
  ring

/-- The units of a finite literal. -/
theorem isCoordinate_iff {numeral : DecimalNumeral}
    (hread : readLiteral unicode value = some (.finite numeral)) (units : Int) :
    IsCoordinate unicode value latitude units ↔
      ∃ whole : Nat, unitsOf numeral = whole ∧ whole ≤ coordinateLimit latitude ∧
        units = signedInteger numeral.negative whole := by
  have hscaled : numeral.value = units / 10 ^ 7 ↔
      ∃ whole : Nat, unitsOf numeral = whole ∧ units = signedInteger numeral.negative whole := by
    have hsigned : Decimal.signed numeral.negative (unitsOf numeral) = numeral.value * 10 ^ 7 := by
      rw [unitsOf_eq]
      unfold DecimalNumeral.value Decimal.signed
      split_ifs
      · ring
      · rfl
    have hpositive : 0 ≤ unitsOf numeral := magnitude_nonneg _ _
    rw [← signed_eq_intCast_iff hpositive, eq_div_iff (by norm_num), ← hsigned]
  unfold IsCoordinate
  rw [denotes_iff, hread]
  constructor
  · rintro ⟨⟨other, hother, hvalue⟩, hbounds⟩
    obtain rfl := DecimalLiteral.finite.inj (Option.some.inj hother)
    obtain ⟨whole, hwhole, rfl⟩ := hscaled.mp hvalue
    exact ⟨whole, hwhole, signedInteger_bounds.mp hbounds, rfl⟩
  · rintro ⟨whole, hwhole, hlimit, rfl⟩
    exact ⟨⟨numeral, rfl, hscaled.mpr ⟨whole, hwhole, rfl⟩⟩, signedInteger_bounds.mpr hlimit⟩

/-! ## Products -/

/-- The product of a literal that the library stores. -/
theorem scaledDegrees_eq {numeral : DecimalNumeral}
    (hread : readLiteral unicode value = some (.finite numeral)) (hstorable : numeral.Storable) :
    scaledDegrees unicode value = defaultContext.round numeral.negative
      (scaledCoefficient numeral) numeral.lastPlace := by
  unfold scaledDegrees Decimal.ofText
  rw [hread]
  unfold Decimal.store
  dsimp only
  rw [if_pos hstorable, ok_bind]
  unfold degreesScale DecimalContext.mul
  dsimp only
  rw [Bool.xor_false, add_zero]
  rfl

theorem coordinateE7_of_ok {scaled : Decimal} (h : scaledDegrees unicode value = .ok scaled) :
    coordinateE7 unicode value latitude = wholeDegrees latitude scaled := by
  unfold coordinateE7
  rw [h]

theorem coordinateE7_of_invalid (h : scaledDegrees unicode value = .error .invalidOperation) :
    Refuses (coordinateE7 unicode value latitude) := by
  unfold coordinateE7
  rw [h]
  exact ⟨_, rfl⟩

theorem coordinateE7_of_overflow (h : scaledDegrees unicode value = .error .overflow) :
    coordinateE7 unicode value latitude = .error (.signal .overflow) := by
  unfold coordinateE7
  rw [h]

/-- A conversion returns or refuses. -/
theorem Converts.returns_or_refuses (h : Converts unicode value latitude) :
    (∃ units, coordinateE7 unicode value latitude = .ok units) ∨
      Refuses (coordinateE7 unicode value latitude) := by
  by_cases hunits : ∃ units, IsCoordinate unicode value latitude units
  · obtain ⟨units, hunits⟩ := hunits
    exact Or.inl ⟨units, (h.1 units).mpr hunits⟩
  · exact Or.inr (h.2 (not_exists.mp hunits))

/-- A refused string is converted if it has no units. -/
theorem converts_of_refuses (h : Refuses (coordinateE7 unicode value latitude)) :
    Converts unicode value latitude ↔ ∀ units, ¬ IsCoordinate unicode value latitude units := by
  constructor
  · intro hconverts units hunits
    obtain ⟨message, hrefused⟩ := h
    rw [(hconverts.1 units).mpr hunits] at hrefused
    cases hrefused
  · intro hnone
    refine ⟨fun units => iff_of_false ?_ (hnone units), fun _ => h⟩
    obtain ⟨message, hrefused⟩ := h
    rw [hrefused]
    exact fun hok => by cases hok

/-! ## Finite literals -/

theorem scaledCoefficient_ne_zero {numeral : DecimalNumeral} (h : numeral.coefficient ≠ 0) :
    scaledCoefficient numeral ≠ 0 :=
  Nat.mul_ne_zero h (by decide)

/-- A zero is converted. -/
theorem converts_zero {numeral : DecimalNumeral}
    (hread : readLiteral unicode value = some (.finite numeral)) (hstorable : numeral.Storable)
    (hzero : numeral.coefficient = 0) : Converts unicode value latitude := by
  have hscaled : scaledCoefficient numeral = 0 := by
    rw [scaledCoefficient, hzero, Nat.zero_mul]
  have hproduct := scaledDegrees_eq hread hstorable
  unfold DecimalContext.round at hproduct
  rw [if_pos hscaled] at hproduct
  obtain ⟨hreturns, hrefuses⟩ := wholeDegrees_finite latitude numeral.negative 0
    (max defaultContext.tiny (min numeral.lastPlace defaultContext.greatest))
  rw [← coordinateE7_of_ok hproduct] at hreturns hrefuses
  have hunits : ∀ units, coordinateE7 unicode value latitude = .ok units ↔
      IsCoordinate unicode value latitude units := by
    intro units
    rw [hreturns, isCoordinate_iff hread, unitsOf, hscaled, magnitude_zero, magnitude_zero]
  refine ⟨hunits, fun hnone => hrefuses.resolve_left ?_⟩
  rintro ⟨units, hok⟩
  exact hnone units ((hunits units).mp hok)

/-- A product that overflows is not refused. -/
theorem not_converts_of_overflow {numeral : DecimalNumeral}
    (hread : readLiteral unicode value = some (.finite numeral)) (hstorable : numeral.Storable)
    (hlarge : defaultContext.overflowBound ≤ unitsOf numeral) :
    ¬ Converts unicode value latitude := by
  have hne : scaledCoefficient numeral ≠ 0 := by
    intro hzero
    rw [unitsOf, hzero, magnitude_zero] at hlarge
    refine absurd hlarge (not_le.mpr ?_)
    unfold DecimalContext.overflowBound
    refine mul_pos ?_ (by positivity)
    norm_num [defaultContext]
  have hproduct := scaledDegrees_eq hread hstorable
  rw [defaultContext.round_eq_overflow hne ((defaultContext.zpow_le_rounded_iff hne).mpr hlarge)]
    at hproduct
  have hsignal : coordinateE7 unicode value latitude = .error (.signal .overflow) :=
    coordinateE7_of_overflow hproduct
  intro hconverts
  rcases hconverts.returns_or_refuses with ⟨units, h⟩ | ⟨message, h⟩
  · rw [hsignal] at h
    cases h
  · rw [hsignal] at h
    cases h

/-- A product that fits is the rounded one, and is converted if it is near no whole number of the
axis but the units of the literal. -/
theorem converts_iff_apart {numeral : DecimalNumeral}
    (hread : readLiteral unicode value = some (.finite numeral)) (hstorable : numeral.Storable)
    (hne : numeral.coefficient ≠ 0) (hfits : unitsOf numeral < defaultContext.overflowBound) :
    Converts unicode value latitude ↔ ∀ whole ≤ coordinateLimit latitude,
      unitsOf numeral = whole ∨ lastDigit numeral < 2 * |unitsOf numeral - whole| := by
  have hscaled := scaledCoefficient_ne_zero hne
  obtain ⟨coefficient, exponent, hround, hrounded⟩ := defaultContext.round_eq_ok hscaled
    (lt_of_not_ge fun hlarge => absurd ((defaultContext.zpow_le_rounded_iff hscaled).mp hlarge)
      (not_le.mpr hfits))
  rw [← scaledDegrees_eq hread hstorable] at hround
  obtain ⟨hreturns, hrefuses⟩ :=
    wholeDegrees_finite latitude numeral.negative coefficient exponent
  rw [← coordinateE7_of_ok hround] at hreturns hrefuses
  rw [hrounded] at hreturns
  have hnear : ∀ whole ≤ coordinateLimit latitude,
      (defaultContext.rounded (scaledCoefficient numeral) numeral.lastPlace = (whole : Nat) ↔
        2 * |unitsOf numeral - whole| ≤ lastDigit numeral) := by
    intro whole hwhole
    refine defaultContext.rounded_eq_natCast_iff hscaled ?_ (by decide)
    have hlimit : coordinateLimit latitude ≤ 1800000000 := by
      unfold coordinateLimit
      split_ifs
      · omega
      · omega
    have hpower : 3600000000 < 10 ^ (defaultContext.precision - 1) := by decide
    omega
  constructor
  · intro hconverts whole hwhole
    by_contra hdistorted
    obtain ⟨hinexact, hclose⟩ := not_or.mp hdistorted
    have hok := (hreturns (signedInteger numeral.negative whole)).mpr
      ⟨whole, (hnear whole hwhole).mpr (not_lt.mp hclose), hwhole, rfl⟩
    obtain ⟨exact, hexact, -, hsame⟩ := (isCoordinate_iff hread _).mp ((hconverts.1 _).mp hok)
    rw [signedInteger_inj hsame] at hinexact
    exact hinexact hexact
  · intro hapart
    have hunits : ∀ units, coordinateE7 unicode value latitude = .ok units ↔
        IsCoordinate unicode value latitude units := by
      intro units
      rw [hreturns, isCoordinate_iff hread]
      constructor
      · rintro ⟨whole, hwhole, hlimit, rfl⟩
        have hclose := (hnear whole hlimit).mp hwhole
        exact ⟨whole, (hapart whole hlimit).resolve_right (not_lt.mpr hclose), hlimit, rfl⟩
      · rintro ⟨whole, hwhole, hlimit, rfl⟩
        refine ⟨whole, (hnear whole hlimit).mpr ?_, hlimit, rfl⟩
        rw [hwhole, sub_self, abs_zero, mul_zero]
        unfold lastDigit
        positivity
    refine ⟨hunits, fun hnone => hrefuses.resolve_left ?_⟩
    rintro ⟨units, hok⟩
    exact hnone units ((hunits units).mp hok)

/-- A literal that the library cannot store is refused. -/
theorem converts_iff_not_stored {numeral : DecimalNumeral}
    (hread : readLiteral unicode value = some (.finite numeral)) (hstorable : ¬ numeral.Storable) :
    Converts unicode value latitude ↔
      ∀ whole ≤ coordinateLimit latitude, unitsOf numeral ≠ whole := by
  have hinvalid : scaledDegrees unicode value = .error .invalidOperation := by
    unfold scaledDegrees Decimal.ofText
    rw [hread]
    unfold Decimal.store
    dsimp only
    rw [if_neg hstorable]
    rfl
  rw [converts_of_refuses (coordinateE7_of_invalid hinvalid)]
  constructor
  · intro hnone whole hwhole hunits
    exact hnone _ ((isCoordinate_iff hread _).mpr ⟨whole, hunits, hwhole, rfl⟩)
  · intro hnone units hunits
    obtain ⟨whole, hwhole, hlimit, -⟩ := (isCoordinate_iff hread units).mp hunits
    exact hnone whole hlimit hwhole

theorem converts_iff_undistorted {numeral : DecimalNumeral}
    (hread : readLiteral unicode value = some (.finite numeral)) :
    Converts unicode value latitude ↔ Undistorted numeral latitude := by
  by_cases hstorable : numeral.Storable
  · rcases lt_or_ge (unitsOf numeral) defaultContext.overflowBound with hfits | hlarge
    · by_cases hzero : numeral.coefficient = 0
      · exact iff_of_true (converts_zero hread hstorable hzero)
          ⟨fun _ => hfits, fun _ hne => absurd hzero hne, fun hnot => absurd hstorable hnot⟩
      · rw [converts_iff_apart hread hstorable hzero hfits]
        exact ⟨fun hapart => ⟨fun _ => hfits, fun _ _ => hapart, fun hnot => absurd hstorable hnot⟩,
          fun h => h.apart hstorable hzero⟩
    · exact iff_of_false (not_converts_of_overflow hread hstorable hlarge)
        fun h => absurd (h.fits hstorable) (not_lt.mpr hlarge)
  · rw [converts_iff_not_stored hread hstorable]
    exact ⟨fun hnone => ⟨fun h => absurd h hstorable, fun h => absurd h hstorable, fun _ => hnone⟩,
      fun h => h.stored hstorable⟩

/-! ## Other strings -/

theorem not_converts_infinity {negative : Bool}
    (hread : readLiteral unicode value = some (.infinity negative)) :
    ¬ Converts unicode value latitude := by
  have hproduct : scaledDegrees unicode value = .ok (.infinity negative) := by
    unfold scaledDegrees Decimal.ofText
    rw [hread]
    unfold Decimal.store
    rw [ok_bind]
    unfold degreesScale DecimalContext.mul
    dsimp only
    rw [if_neg (by decide), Bool.xor_false]
  have houtcome : coordinateE7 unicode value latitude =
      .error (.raised (.overflowError "cannot convert Infinity to integer")) := by
    rw [coordinateE7_of_ok hproduct]
    unfold wholeDegrees Decimal.toIntegralValue Decimal.equals
    cases negative with
    | false => rfl
    | true => rfl
  intro hconverts
  rcases hconverts.returns_or_refuses with ⟨units, h⟩ | ⟨message, h⟩
  · rw [houtcome] at h
    cases h
  · rw [houtcome] at h
    cases h

theorem refuses_nan {signaling negative : Bool} {payload : Text}
    (hread : readLiteral unicode value = some (.nan signaling negative payload)) :
    Refuses (coordinateE7 unicode value latitude) := by
  by_cases hpayload : Nat.log 10 (JsonScanner.digitsValue payload) < maximumContext.precision
  · have hstored : Decimal.ofText unicode value =
        .ok (.nan signaling negative (JsonScanner.digitsValue payload)) := by
      unfold Decimal.ofText
      rw [hread]
      exact if_pos hpayload
    cases signaling with
    | true =>
      refine coordinateE7_of_invalid ?_
      unfold scaledDegrees
      rw [hstored, ok_bind]
      rfl
    | false =>
      have hproduct : scaledDegrees unicode value =
          .ok (defaultContext.quiet negative (JsonScanner.digitsValue payload)) := by
        unfold scaledDegrees
        rw [hstored, ok_bind]
        rfl
      rw [coordinateE7_of_ok hproduct]
      exact ⟨_, rfl⟩
  · refine coordinateE7_of_invalid ?_
    unfold scaledDegrees Decimal.ofText
    rw [hread]
    unfold Decimal.store
    dsimp only
    rw [if_neg hpayload]
    rfl

theorem refuses_unread (hread : readLiteral unicode value = none) :
    Refuses (coordinateE7 unicode value latitude) := by
  refine coordinateE7_of_invalid ?_
  unfold scaledDegrees Decimal.ofText
  rw [hread]
  rfl

/-- The conversion is exact on the convertible strings and on no others. -/
theorem converts_iff (unicode : UnicodeNumerals) (value : Text) (latitude : Bool) :
    Converts unicode value latitude ↔ Convertible unicode value latitude := by
  unfold Convertible
  cases hread : readLiteral unicode value with
  | none =>
    have hnone : ∀ numeral, readLiteral unicode value ≠ some (.finite numeral) := by
      intro numeral h
      rw [hread] at h
      cases h
    refine iff_of_true ?_ ⟨fun negative h => ?_, fun numeral h => ?_⟩
    · exact (converts_of_refuses (refuses_unread hread)).mpr (not_isCoordinate hnone)
    · cases h
    · cases h
  | some literal =>
    cases literal with
    | finite numeral =>
      rw [converts_iff_undistorted hread]
      constructor
      · intro h
        refine ⟨fun negative hinfinity => ?_, fun other hother => ?_⟩
        · cases hinfinity
        · obtain rfl := DecimalLiteral.finite.inj (Option.some.inj hother)
          exact h
      · intro h
        exact h.2 numeral rfl
    | infinity negative =>
      exact iff_of_false (not_converts_infinity hread) fun h => h.1 negative rfl
    | nan signaling negative payload =>
      have hnone : ∀ numeral, readLiteral unicode value ≠ some (.finite numeral) := by
        intro numeral h
        rw [hread] at h
        cases h
      refine iff_of_true ?_ ⟨fun negative h => ?_, fun numeral h => ?_⟩
      · exact (converts_of_refuses (refuses_nan hread)).mpr (not_isCoordinate hnone)
      · cases h
      · cases h

/-! ## Distorted literals -/

/-- The tables of Unicode for strings of ASCII. -/
def asciiNumerals : UnicodeNumerals where
  isSpace point := (9 ≤ point && point ≤ 13) || (28 ≤ point && point ≤ 32)
  decimalDigit point :=
    if h : 48 ≤ point ∧ point < 58 then some ⟨point - 48, by omega⟩ else none

/-- An infinity leaves the conversion as an `OverflowError`, and a literal with thirty places is
cut down to coordinates that it does not have. -/
theorem literals_distorted :
    ¬ Converts asciiNumerals (word "Infinity") true ∧
      ¬ Converts asciiNumerals (word "43.650000000000000000000000000001") true := by
  constructor
  · have hliteral : readLiteral asciiNumerals (word "Infinity") = some (.infinity false) := by
      decide +kernel
    exact not_converts_infinity hliteral
  · intro hconverts
    have hok : coordinateE7 asciiNumerals (word "43.650000000000000000000000000001") true =
        .ok 436500000 := by
      decide +kernel
    obtain ⟨hdenotes, -⟩ := (hconverts.1 _).mp hok
    obtain ⟨numeral, hread, hvalue⟩ := denotes_iff.mp hdenotes
    have hliteral : readLiteral asciiNumerals (word "43.650000000000000000000000000001") =
        some (.finite ⟨false, word "43", word "650000000000000000000000000001", 0⟩) := by
      decide +kernel
    rw [hliteral] at hread
    obtain rfl := DecimalLiteral.finite.inj (Option.some.inj hread)
    exact absurd hvalue (by decide +kernel)

end CartoSentry.RoadGraph
