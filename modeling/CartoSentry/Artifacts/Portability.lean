import CartoSentry.Foundation.ByteText
import CartoSentry.Foundation.Json

set_option autoImplicit false

/-!
# Artifacts: the two portability checks

`assert_portable` of `identifiers.py`, which reads Python strings, and
`validate_portable` of `artifact_json.cpp`, which reads the bytes of their UTF-8.
-/

namespace CartoSentry.Artifacts

open Foundation (JsonValue)

/-- The keys that both checks forbid. -/
def forbiddenPortableKeys : List String :=
  ["absolute_path", "host_name", "hostname", "local_context", "local_path", "machine_id",
    "source_root", "source_roots"]

/-! ## Python -/

/-- The lower-casing of characters beyond ASCII. It may look at what stands around a
character, as it does for the final sigma, and only the Kelvin sign becomes ASCII. -/
structure UnicodeLower where
  lower : List Char → Char → List Char → List Char
  beyond : ∀ before character after, 128 ≤ character.toNat →
    lower before character after = ['k'] ∨
      ∃ lowered ∈ lower before character after, 128 ≤ lowered.toNat

/-- `str.lower`. -/
def UnicodeLower.lowerFrom (unicode : UnicodeLower) (before : List Char) :
    List Char → List Char
  | [] => []
  | character :: after =>
    (if character.toNat < 128 then [character.toLower]
      else unicode.lower before character after) ++
      unicode.lowerFrom (before ++ [character]) after

/-- `value.replace("\\", "/")`. -/
def normalized (value : String) : List Char :=
  value.toList.map fun character => if character = '\\' then '/' else character

/-- `_WINDOWS_ABSOLUTE.match`. -/
def windowsAbsolute : List Char → Bool
  | letter :: ':' :: separator :: _ =>
    letter.isAlpha && (separator == '\\' || separator == '/')
  | _ => false

/-- `_path_leak`. -/
def pathLeak (value : String) : Bool :=
  ["/", "~/", "//", "file://"].any (fun start => start.toList.isPrefixOf (normalized value)) ||
    windowsAbsolute value.toList || ((normalized value).splitOn '/').contains "..".toList

def forbiddenKey (unicode : UnicodeLower) (key : String) : Bool :=
  (forbiddenPortableKeys.map String.toList).contains (unicode.lowerFrom [] key.toList)

/-- What `assert_portable` raises, by the place it names. -/
inductive PortabilityError where
  | machineLocalField (location key : String)
  | localPath (location value : String)
  deriving DecidableEq, Repr

section AssertPortable

variable (unicode : UnicodeLower)

mutual

/-- `assert_portable`. -/
def assertPortable : JsonValue String → String → Except PortabilityError Unit
  | .object entries, location => assertPortableEntries entries location
  | .array items, location => assertPortableItems items location 0
  | .string text, location =>
    if pathLeak text then .error (.localPath location text) else .ok ()
  | .null, _ | .boolean _, _ | .integer _, _ | .real _, _ => .ok ()

def assertPortableItems : List (JsonValue String) → String → Nat → Except PortabilityError Unit
  | [], _, _ => .ok ()
  | item :: items, location, index => do
    assertPortable item s!"{location}[{index}]"
    assertPortableItems items location (index + 1)

def assertPortableEntries : List (String × JsonValue String) → String →
    Except PortabilityError Unit
  | [], _ => .ok ()
  | (key, item) :: entries, location => do
    if forbiddenKey unicode key then
      throw (.machineLocalField location key)
    assertPortable item s!"{location}.{key}"
    assertPortableEntries entries location

end

end AssertPortable

/-- `MAXIMUM_JSON_DEPTH`, the limit of the boundary that reads an artifact. -/
def maximumJsonDepth : Nat := 64

/-! ## C++ -/

/-- The bytes of a string. -/
def utf8Bytes (text : String) : List UInt8 :=
  text.toList.flatMap String.utf8EncodeChar

/-- A character literal of C++ as its byte. -/
def byteOf (character : Char) : UInt8 :=
  UInt8.ofNat character.toNat

/-- `std::isalpha` in the C locale. -/
def isAlpha (byte : UInt8) : Bool :=
  (65 ≤ byte && byte ≤ 90) || (97 ≤ byte && byte ≤ 122)

/-- `std::tolower` in the C locale. -/
def toLower (byte : UInt8) : UInt8 :=
  if 65 ≤ byte ∧ byte ≤ 90 then byte + 32 else byte

/-- The loop over the components, with what is left of the path. -/
def hasTraversal : Nat → List UInt8 → Bool
  | 0, _ => false
  | fuel + 1, path =>
    let component := path.takeWhile (· != byteOf '/')
    if component == utf8Bytes ".." then true
    else match path.drop component.length with
      | [] => false
      | _ :: after => hasTraversal fuel after

/-- The path starts with a drive. -/
def startsWithDrive : List UInt8 → Bool
  | letter :: colon :: separator :: _ =>
    isAlpha letter && colon == byteOf ':' && separator == byteOf '/'
  | _ => false

/-- `is_path_leak`. -/
def isPathLeak (value : List UInt8) : Bool :=
  let path := value.map fun byte => if byte = byteOf '\\' then byteOf '/' else byte
  if ["/", "~/", "//", "file://"].any (fun start => (utf8Bytes start).isPrefixOf path) then true
  else if startsWithDrive path then true
  else hasTraversal (path.length + 1) path

/-- `forbidden_portable_key`. -/
def forbiddenPortableKey (key : List UInt8) : Bool :=
  (forbiddenPortableKeys.map utf8Bytes).contains (key.map toLower)

def maximumArtifactDepth : Nat := 64

/-- What `validate_portable` throws. -/
inductive ArtifactError where
  | nestingExceedsDepth
  | machineLocalField (key : String)
  | localPath
  deriving DecidableEq, Repr

mutual

/-- `validate_portable`. -/
def validatePortable : JsonValue String → Nat → Except ArtifactError Unit
  | .object entries, depth =>
    if maximumArtifactDepth < depth then .error .nestingExceedsDepth
    else validatePortableEntries entries depth
  | .array items, depth =>
    if maximumArtifactDepth < depth then .error .nestingExceedsDepth
    else validatePortableItems items depth
  | .string text, depth =>
    if maximumArtifactDepth < depth then .error .nestingExceedsDepth
    else if isPathLeak (utf8Bytes text) then .error .localPath
    else .ok ()
  | .null, depth | .boolean _, depth | .integer _, depth | .real _, depth =>
    if maximumArtifactDepth < depth then .error .nestingExceedsDepth else .ok ()

def validatePortableItems : List (JsonValue String) → Nat → Except ArtifactError Unit
  | [], _ => .ok ()
  | item :: items, depth => do
    validatePortable item (depth + 1)
    validatePortableItems items depth

def validatePortableEntries : List (String × JsonValue String) → Nat →
    Except ArtifactError Unit
  | [], _ => .ok ()
  | (key, item) :: entries, depth => do
    if forbiddenPortableKey (utf8Bytes key) then
      throw (.machineLocalField key)
    validatePortable item (depth + 1)
    validatePortableEntries entries depth

end

end CartoSentry.Artifacts
