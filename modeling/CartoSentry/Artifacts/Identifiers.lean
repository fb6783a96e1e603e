import CartoSentry.Artifacts.PortabilityAgreement
import Mathlib.Data.List.DropRight
import Mathlib.Data.List.Sort
import Mathlib.Data.String.Basic

set_option autoImplicit false

/-!
# Artifacts: deterministic identifiers

`identifiers.py`: the canonical JSON bytes of a portable value, their hash and the
identifiers built on it. A text that a field restricts by a pattern is a value that
carries the match.
-/

namespace CartoSentry.Artifacts

open Foundation (JsonValue Double bind_unit_eq_ok_iff bind_eq_ok_iff)

/-! ## Texts with a pattern -/

/-- A text that the pattern accepts. -/
structure Patterned (accepts : List Char → Bool) where
  text : String
  valid : accepts text.toList = true
  deriving DecidableEq

/-- `[0-9a-f]{64}`. -/
def isSha256 (text : List Char) : Bool :=
  text.length == 64 && text.all fun c => c.isDigit || ('a' ≤ c && c ≤ 'f')

/-- `[A-Za-z0-9][A-Za-z0-9_.:-]*`. -/
def isIdentifier : List Char → Bool
  | [] => false
  | first :: rest =>
    first.isAlphanum &&
      rest.all fun c => c.isAlphanum || c == '_' || c == '.' || c == ':' || c == '-'

/-- `[A-Za-z0-9_.:-]+`. -/
def isFrameId (text : List Char) : Bool :=
  !text.isEmpty &&
    text.all fun c => c.isAlphanum || c == '_' || c == '.' || c == ':' || c == '-'

/-- `[a-z0-9]`. -/
def isLowerAlnum (c : Char) : Bool :=
  ('a' ≤ c && c ≤ 'z') || c.isDigit

/-- `[a-z0-9-]+`. -/
def isSlug (text : List Char) : Bool :=
  !text.isEmpty && text.all fun c => isLowerAlnum c || c == '-'

/-- `[a-z][a-z0-9-]*`. -/
def isKind : List Char → Bool
  | [] => false
  | first :: rest => ('a' ≤ first && first ≤ 'z') && rest.all fun c => isLowerAlnum c || c == '-'

/-- What precedes the 64 characters at the end. -/
def beforeDigest (text : List Char) : List Char :=
  text.take (text.length - 64)

/-- The 64 characters at the end. -/
def digestOf (text : List Char) : List Char :=
  text.drop (text.length - 64)

/-- `[a-z][a-z0-9-]*-sha256-[0-9a-f]{64}`. -/
def isStableId (text : List Char) : Bool :=
  isSha256 (digestOf text) && "-sha256-".toList.isSuffixOf (beforeDigest text) &&
    isKind ((beforeDigest text).take ((beforeDigest text).length - 8))

/-- `stream-[a-z0-9-]+-[a-z0-9-]+-[0-9a-f]{64}`. -/
def isStreamId (text : List Char) : Bool :=
  isSha256 (digestOf text) && "stream-".toList.isPrefixOf (beforeDigest text) &&
    "-".toList.isSuffixOf (beforeDigest text) &&
    isSlug (((beforeDigest text).drop 7).dropLast) &&
    ((((beforeDigest text).drop 7).dropLast.drop 1).dropLast).contains '-'

abbrev Sha256 : Type := Patterned isSha256
abbrev Identifier : Type := Patterned isIdentifier
abbrev FrameId : Type := Patterned isFrameId
abbrev StableId : Type := Patterned isStableId
abbrev StreamId : Type := Patterned isStreamId
abbrev Slug : Type := Patterned isSlug

theorem beforeDigest_append {front digest : List Char} (hdigest : digest.length = 64) :
    beforeDigest (front ++ digest) = front := by
  unfold beforeDigest
  rw [List.length_append, hdigest, Nat.add_sub_cancel, List.take_left]

theorem digestOf_append {front digest : List Char} (hdigest : digest.length = 64) :
    digestOf (front ++ digest) = digest := by
  unfold digestOf
  rw [List.length_append, hdigest, Nat.add_sub_cancel, List.drop_left]

theorem Sha256.length_eq (digest : Sha256) : digest.text.toList.length = 64 := by
  have hvalid := digest.valid
  rw [isSha256, Bool.and_eq_true, beq_iff_eq] at hvalid
  exact hvalid.1

/-! ## Canonical JSON -/

/-- What `identifiers.py` takes from the standard library. -/
structure Platform where
  unicode : UnicodeLower
  floatText : Double → String
  sha256 : List UInt8 → Sha256

/-- What the identifiers and the manifests raise. -/
inductive IdentityError where
  | portability (error : PortabilityError)
  | value (message : String)
  deriving DecidableEq, Repr

/-- A check that raises a `ValueError`. -/
def require (condition : Prop) [Decidable condition] (message : String) :
    Except IdentityError Unit :=
  if condition then .ok () else .error (.value message)

/-- A character as `json.dumps` writes it inside a string. -/
def escaped (c : Char) : List Char :=
  if c = '"' then ['\\', '"']
  else if c = '\\' then ['\\', '\\']
  else if c = '\n' then ['\\', 'n']
  else if c = '\r' then ['\\', 'r']
  else if c = '\t' then ['\\', 't']
  else if c = Char.ofNat 12 then ['\\', 'f']
  else if c = Char.ofNat 8 then ['\\', 'b']
  else if c.toNat < 32 then
    ['\\', 'u', '0', '0', Nat.digitChar (c.toNat / 16), Nat.digitChar (c.toNat % 16)]
  else [c]

def quoted (text : String) : List Char :=
  '"' :: (text.toList.flatMap escaped ++ ['"'])

/-- Texts with commas in between. -/
def separated : List (List Char) → List Char
  | [] => []
  | [text] => text
  | text :: rest => text ++ ',' :: separated rest

section Canonical

variable (platform : Platform)

/-- A number with `allow_nan=False`. -/
def realText : Double → Except IdentityError (List Char)
  | .infinity _ | .nan => .error (.value "Out of range float values are not JSON compliant")
  | value => .ok (platform.floatText value).toList

mutual

/-- `json.dumps` without blanks, the keys sorted. -/
def jsonText : JsonValue String → Except IdentityError (List Char)
  | .null => .ok "null".toList
  | .boolean value => .ok (if value then "true" else "false").toList
  | .integer value => .ok (toString value).toList
  | .real value => realText platform value
  | .string text => .ok (quoted text)
  | .array items => do
    let texts ← jsonItems items
    return '[' :: (separated texts ++ [']'])
  | .object entries => do
    let texts ← jsonEntries entries
    let sorted := texts.insertionSort fun left right => left.1 ≤ right.1
    return '{' :: (separated (sorted.map fun entry => quoted entry.1 ++ ':' :: entry.2) ++ ['}'])

def jsonItems : List (JsonValue String) → Except IdentityError (List (List Char))
  | [] => return []
  | item :: items => do
    let text ← jsonText item
    let texts ← jsonItems items
    return text :: texts

def jsonEntries : List (String × JsonValue String) →
    Except IdentityError (List (String × List Char))
  | [] => return []
  | (key, item) :: entries => do
    let text ← jsonText item
    let texts ← jsonEntries entries
    return (key, text) :: texts

end

/-- `assert_portable`, among the errors of the identifiers. -/
def checkPortable (value : JsonValue String) (location : String) : Except IdentityError Unit :=
  match assertPortable platform.unicode value location with
  | .error error => .error (.portability error)
  | .ok () => .ok ()

/-- `canonical_json_bytes`. -/
def canonicalJsonBytes (value : JsonValue String) : Except IdentityError (List UInt8) := do
  checkPortable platform value "identifier input"
  let text ← jsonText platform value
  return text.flatMap String.utf8EncodeChar

/-- `canonical_sha256`. -/
def canonicalSha256 (value : JsonValue String) : Except IdentityError Sha256 := do
  let bytes ← canonicalJsonBytes platform value
  return platform.sha256 bytes

/-! ## Identifiers -/

theorem isStableId_of_kind (kind : Patterned isKind) (digest : Sha256) :
    isStableId (kind.text ++ "-sha256-" ++ digest.text).toList = true := by
  have hsplit : (kind.text ++ "-sha256-" ++ digest.text).toList =
      (kind.text.toList ++ "-sha256-".toList) ++ digest.text.toList := by
    simp only [String.toList_append]
  have height : "-sha256-".toList.length = 8 := rfl
  unfold isStableId
  rw [hsplit, digestOf_append digest.length_eq, beforeDigest_append digest.length_eq, digest.valid,
    List.length_append, height, Nat.add_sub_cancel, List.take_left, kind.valid, Bool.and_true,
    Bool.true_and, List.isSuffixOf_iff_suffix]
  exact List.suffix_append _ _

/-- `_identifier`. -/
def identifier (kind : Patterned isKind) (value : JsonValue String) :
    Except IdentityError StableId := do
  let digest ← canonicalSha256 platform value
  return ⟨kind.text ++ "-sha256-" ++ digest.text, isStableId_of_kind kind digest⟩

/-- `make_sequence_id`. -/
def makeSequenceId (identity : JsonValue String) : Except IdentityError StableId :=
  identifier platform ⟨"sequence", by decide⟩ identity

/-- `make_calibration_id`. -/
def makeCalibrationId (identity : JsonValue String) : Except IdentityError StableId :=
  identifier platform ⟨"calibration", by decide⟩ identity

/-- `re.sub(r"[^a-z0-9]+", "-", value)`, with whether the character before was replaced. -/
def dashed : Bool → List Char → List Char
  | _, [] => []
  | replaced, c :: rest =>
    if isLowerAlnum c then c :: dashed false rest
    else if replaced then dashed true rest
    else '-' :: dashed true rest

/-- `value.strip("-")`. -/
def stripped (text : List Char) : List Char :=
  (text.dropWhile (· == '-')).rdropWhile (· == '-')

/-- The slug of a text, before it is checked. -/
def slugText (value : String) : List Char :=
  (stripped (dashed false (platform.unicode.lowerFrom [] value.toList))).take 32

theorem all_dashed (replaced : Bool) (text : List Char) :
    (dashed replaced text).all (fun c => isLowerAlnum c || c == '-') = true := by
  induction text generalizing replaced with
  | nil => rfl
  | cons c rest ih =>
    unfold dashed
    split_ifs with hkept hreplaced
    · rw [List.all_cons, hkept, Bool.true_or, Bool.true_and]
      exact ih false
    · exact ih true
    · rw [List.all_cons, beq_self_eq_true, Bool.or_true, Bool.true_and]
      exact ih true

theorem isSlug_slugText {value : String} (h : slugText platform value ≠ []) :
    isSlug (String.ofList (slugText platform value)).toList = true := by
  rw [String.toList_ofList, isSlug, Bool.and_eq_true]
  constructor
  · cases htext : slugText platform value with
    | nil => exact absurd htext h
    | cons c rest => rfl
  · have hall := List.all_eq_true.mp
      (all_dashed false (platform.unicode.lowerFrom [] value.toList))
    apply List.all_eq_true.mpr
    intro c hc
    have hstripped := List.mem_of_mem_take hc
    have hfront := (List.rdropWhile_prefix (fun c => c == '-') _).subset hstripped
    exact hall c ((List.dropWhile_suffix _).subset hfront)

/-- `_slug`. -/
def slug (value : String) : Except IdentityError Slug :=
  if h : slugText platform value ≠ [] then
    .ok ⟨String.ofList (slugText platform value), isSlug_slugText platform h⟩
  else .error (.value "identifier component has no portable characters")

theorem isStreamId_of_slugs (modality sensor : Slug) (digest : Sha256) :
    isStreamId ("stream-" ++ modality.text ++ "-" ++ sensor.text ++ "-" ++ digest.text).toList =
      true := by
  have hsplit : ("stream-" ++ modality.text ++ "-" ++ sensor.text ++ "-" ++ digest.text).toList =
      ("stream-".toList ++ (modality.text.toList ++ '-' :: sensor.text.toList) ++ ['-']) ++
        digest.text.toList := by
    simp [String.toList_append]
  have hdrop : ("stream-".toList ++ (modality.text.toList ++ '-' :: sensor.text.toList) ++
      ['-']).drop 7 = (modality.text.toList ++ '-' :: sensor.text.toList) ++ ['-'] := rfl
  have hmodality := modality.valid
  have hsensor := sensor.valid
  rw [isSlug, Bool.and_eq_true, Bool.not_eq_true'] at hmodality hsensor
  obtain ⟨first, rest, hfirst⟩ : ∃ first rest, modality.text.toList = first :: rest := by
    cases htext : modality.text.toList with
    | nil => rw [htext] at hmodality; exact absurd hmodality.1 (by simp)
    | cons first rest => exact ⟨first, rest, rfl⟩
  obtain ⟨front, last, hlast⟩ : ∃ front last, sensor.text.toList = front ++ [last] := by
    rcases List.eq_nil_or_concat sensor.text.toList with hnil | ⟨front, last, htext⟩
    · rw [hnil] at hsensor; exact absurd hsensor.1 (by simp)
    · exact ⟨front, last, by rw [htext, List.concat_eq_append]⟩
  unfold isStreamId
  rw [hsplit, digestOf_append digest.length_eq, beforeDigest_append digest.length_eq, digest.valid,
    hdrop, List.dropLast_concat]
  simp only [Bool.and_eq_true, Bool.true_and, List.isPrefixOf_iff_prefix,
    List.isSuffixOf_iff_suffix, and_assoc]
  refine ⟨⟨_, by rw [List.append_assoc]⟩, List.suffix_append _ _, ?_, ?_⟩
  · rw [isSlug, List.all_append, List.all_cons, hmodality.2, hsensor.2, hfirst]
    simp
  · rw [hfirst, hlast, List.cons_append, List.drop_succ_cons, List.drop_zero,
      ← List.cons_append, ← List.append_assoc, List.dropLast_concat]
    simp

/-- The payload of `make_stream_id`. -/
def streamPayload (sequenceId : StableId) (modality sensorId : String) : JsonValue String :=
  .object [("modality", .string modality), ("sensor_id", .string sensorId),
    ("sequence_id", .string sequenceId.text)]

/-- `make_stream_id`. -/
def makeStreamId (sequenceId : StableId) (modality sensorId : String) :
    Except IdentityError StreamId := do
  let digest ← canonicalSha256 platform (streamPayload sequenceId modality sensorId)
  let modalitySlug ← slug platform modality
  let sensorSlug ← slug platform sensorId
  return ⟨"stream-" ++ modalitySlug.text ++ "-" ++ sensorSlug.text ++ "-" ++ digest.text,
    isStreamId_of_slugs modalitySlug sensorSlug digest⟩

end Canonical

end CartoSentry.Artifacts
