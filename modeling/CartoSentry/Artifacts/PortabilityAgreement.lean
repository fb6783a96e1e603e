import Mathlib
import CartoSentry.Artifacts.Portability
import CartoSentry.Foundation.Outcome

set_option autoImplicit false

/-!
# Artifacts: agreement of the two portability checks

Both checks find the same path forms in a string and the same forbidden keys, so they
accept the same portable values. They differ in the depth: the native one counts the
steps to a value and the Python boundary the containers around it.
-/

namespace CartoSentry.Artifacts

open Foundation (JsonValue asciiTransparent_utf8 splitOn_eq_takeWhile bind_unit_eq_ok_iff)

/-! ## Bytes and characters -/

theorem byteOf_toNat {character : Char} (h : character.toNat < 128) :
    (byteOf character).toNat = character.toNat := by
  rw [byteOf, UInt8.toNat_ofNat']
  omega

theorem byteOf_inj {left right : Char} (hleft : left.toNat < 128) (hright : right.toNat < 128) :
    byteOf left = byteOf right ↔ left = right := by
  constructor
  · intro heq
    apply Char.toNat_inj.mp
    rw [← byteOf_toNat hleft, ← byteOf_toNat hright, heq]
  · intro heq
    rw [heq]

/-- The separators are replaced alike. -/
theorem replaced_utf8Bytes (value : String) :
    ((utf8Bytes value).map fun byte => if byte = byteOf '\\' then byteOf '/' else byte) =
      (normalized value).flatMap String.utf8EncodeChar := by
  apply asciiTransparent_utf8.map_flatMap
  · intro character hcharacter
    by_cases hslash : character = '\\'
    · rw [hslash]
      decide
    · have hne : UInt8.ofNat character.toNat ≠ byteOf '\\' :=
        fun heq => hslash ((byteOf_inj hcharacter (by decide)).mp heq)
      rw [if_neg hslash, if_neg hne]
      exact ⟨hcharacter, rfl⟩
  · intro character hcharacter
    apply if_neg
    intro heq
    rw [heq] at hcharacter
    revert hcharacter
    decide
  · intro byte hbyte
    apply if_neg
    intro heq
    rw [heq] at hbyte
    revert hbyte
    decide

/-- The loop over the components finds what the split finds. -/
theorem hasTraversal_eq {fuel : Nat} {path : List UInt8} (hfuel : path.length < fuel) :
    hasTraversal fuel path = (path.splitOn (byteOf '/')).contains (utf8Bytes "..") := by
  induction fuel generalizing path with
  | zero => omega
  | succ fuel ih =>
    rw [splitOn_eq_takeWhile, List.contains_cons, hasTraversal]
    rw [Bool.beq_comm]
    cases hfound : utf8Bytes ".." == path.takeWhile (· != byteOf '/') with
    | true => simp
    | false =>
      rw [if_neg (by simp), Bool.false_or]
      have hlength := congrArg List.length
        (List.take_append_drop (path.takeWhile (· != byteOf '/')).length path)
      cases hrest : path.drop (path.takeWhile (· != byteOf '/')).length with
      | nil => rfl
      | cons separator after =>
        rw [hrest, List.length_append, List.length_cons] at hlength
        exact ih (by omega)

/-- What holds of all characters below 128 is checked on their numbers. -/
theorem ascii_induction {P : Char → Prop} (h : ∀ code < 128, P (Char.ofNat code))
    {character : Char} (hcharacter : character.toNat < 128) : P character := by
  have hofNat := h character.toNat hcharacter
  rwa [Char.ofNat_toNat] at hofNat

theorem isAlpha_byteOf {character : Char} (hcharacter : character.toNat < 128) :
    isAlpha (byteOf character) = character.isAlpha := by
  apply ascii_induction _ hcharacter
  decide +kernel

theorem lt_of_isAlpha {character : Char} (h : character.isAlpha = true) :
    character.toNat < 128 := by
  have hcode : character.toNat = character.val.toNat := rfl
  simp only [Char.isAlpha, Char.isUpper, Char.isLower, Bool.or_eq_true, decide_eq_true_eq,
    UInt32.le_iff_toNat_le, Bool.and_eq_true] at h
  have hupper : 'Z'.val.toNat = 90 := rfl
  have hlower : 'z'.val.toNat = 122 := rfl
  omega

theorem exists_of_isAlpha {byte : UInt8} (h : isAlpha byte = true) :
    ∃ letter : Char, letter.isAlpha = true ∧ byte = byteOf letter := by
  have hall : ∀ code < 256, isAlpha (UInt8.ofNat code) = true →
      (Char.ofNat code).isAlpha = true ∧ UInt8.ofNat code = byteOf (Char.ofNat code) := by
    decide +kernel
  have hbyte := hall byte.toNat byte.toNat_lt
  rw [UInt8.ofNat_toNat] at hbyte
  exact ⟨Char.ofNat byte.toNat, hbyte h⟩

/-- A drive is a letter, a colon and a separator in front. -/
theorem startsWithDrive_iff {path : List Char} :
    startsWithDrive (path.flatMap String.utf8EncodeChar) = true ↔
      ∃ letter : Char, letter.isAlpha = true ∧ [letter, ':', '/'] <+: path := by
  have hpattern : ∀ letter : Char, letter.isAlpha = true →
      ([letter, ':', '/'].flatMap String.utf8EncodeChar =
        [byteOf letter, byteOf ':', byteOf '/'] ∧
          ∀ character ∈ [letter, ':', '/'], character.toNat < 128) := by
    intro letter hletter
    have hcode := lt_of_isAlpha hletter
    constructor
    · rw [List.flatMap_cons, asciiTransparent_utf8.ascii letter hcode]
      rfl
    · simp only [List.forall_mem_cons]
      exact ⟨hcode, by decide, by decide, by simp⟩
  constructor
  · intro hdrive
    obtain ⟨first, colon, separator, rest, hpath⟩ : ∃ first colon separator rest,
        path.flatMap String.utf8EncodeChar = first :: colon :: separator :: rest := by
      unfold startsWithDrive at hdrive
      split at hdrive
      · exact ⟨_, _, _, _, ‹_›⟩
      · cases hdrive
    rw [hpath, startsWithDrive, Bool.and_eq_true, Bool.and_eq_true, beq_iff_eq, beq_iff_eq] at hdrive
    obtain ⟨⟨hfirst, rfl⟩, rfl⟩ := hdrive
    obtain ⟨letter, hletter, rfl⟩ := exists_of_isAlpha hfirst
    obtain ⟨hbytes, hascii⟩ := hpattern letter hletter
    refine ⟨letter, hletter, (asciiTransparent_utf8.isPrefix_iff hascii).mp ?_⟩
    rw [hbytes, hpath]
    exact ⟨rest, rfl⟩
  · intro ⟨letter, hletter, hprefix⟩
    obtain ⟨hbytes, hascii⟩ := hpattern letter hletter
    obtain ⟨rest, hpath⟩ := (asciiTransparent_utf8.isPrefix_iff hascii).mpr hprefix
    rw [← hpath, hbytes]
    simp [startsWithDrive, isAlpha_byteOf (lt_of_isAlpha hletter), hletter]

/-- Python looks for the drive before the separators are replaced. -/
theorem windowsAbsolute_iff {value : String} :
    windowsAbsolute value.toList = true ↔
      ∃ letter : Char, letter.isAlpha = true ∧ [letter, ':', '/'] <+: normalized value := by
  have hreplaced : ∀ character sought : Char, sought ≠ '/' →
      ((if character = '\\' then '/' else character) = sought ↔ character = sought ∧ sought ≠ '\\') := by
    intro character sought hsought
    by_cases hslash : character = '\\'
    · rw [if_pos hslash, hslash]
      constructor
      · exact fun h => absurd h.symm hsought
      · exact fun h => absurd h.1.symm h.2
    · rw [if_neg hslash]
      exact ⟨fun h => ⟨h, fun hback => hslash (h.trans hback)⟩, And.left⟩
  unfold normalized
  generalize value.toList = characters
  constructor
  · intro hdrive
    unfold windowsAbsolute at hdrive
    split at hdrive
    · rename_i letter separator rest
      rw [Bool.and_eq_true, Bool.or_eq_true, beq_iff_eq, beq_iff_eq] at hdrive
      obtain ⟨hletter, hseparator⟩ := hdrive
      refine ⟨letter, hletter, rest.map fun character =>
        if character = '\\' then '/' else character, ?_⟩
      have hslash : letter ≠ '\\' := by
        rintro rfl
        revert hletter
        decide
      rw [List.map_cons, if_neg hslash, List.map_cons, if_neg (by decide), List.map_cons]
      cases hseparator with
      | inl h => rw [h]; rfl
      | inr h => rw [h]; rfl
    · cases hdrive
  · intro ⟨letter, hletter, rest, hpath⟩
    have hletters : letter ≠ '/' ∧ letter ≠ '\\' := by
      constructor <;>
      · rintro rfl
        revert hletter
        decide
    obtain ⟨first, others, rfl, hfirst, hothers⟩ := List.map_eq_cons_iff.mp hpath.symm
    obtain ⟨colon, others, rfl, hcolon, hothers⟩ := List.map_eq_cons_iff.mp hothers
    obtain ⟨separator, others, rfl, hseparator, -⟩ := List.map_eq_cons_iff.mp hothers
    obtain ⟨rfl, -⟩ := (hreplaced _ _ hletters.1).mp hfirst
    obtain ⟨rfl, -⟩ := (hreplaced _ _ (by decide)).mp hcolon
    have hslash : separator = '\\' ∨ separator = '/' := by
      by_cases hback : separator = '\\'
      · exact Or.inl hback
      · rw [if_neg hback] at hseparator
        exact Or.inr hseparator
    simp [windowsAbsolute, hletter, hslash]

def isAscii (text : String) : Bool :=
  text.toList.all fun character => character.toNat < 128

theorem lt_of_isAscii {text : String} (h : isAscii text = true) :
    ∀ character ∈ text.toList, character.toNat < 128 :=
  fun character hcharacter => of_decide_eq_true (List.all_eq_true.mp h character hcharacter)

theorem isPrefixOf_utf8Bytes {start : String} {path : List Char}
    (hstart : ∀ character ∈ start.toList, character.toNat < 128) :
    (utf8Bytes start).isPrefixOf (path.flatMap String.utf8EncodeChar) =
      start.toList.isPrefixOf path := by
  rw [Bool.eq_iff_iff, List.isPrefixOf_iff_prefix, List.isPrefixOf_iff_prefix]
  exact asciiTransparent_utf8.isPrefix_iff hstart

theorem contains_utf8Bytes {parts : List (List Char)} {sought : String}
    (hsought : ∀ character ∈ sought.toList, character.toNat < 128) :
    (parts.map fun part => part.flatMap String.utf8EncodeChar).contains (utf8Bytes sought) =
      parts.contains sought.toList := by
  rw [Bool.eq_iff_iff, List.contains_iff_mem, List.contains_iff_mem, List.mem_map]
  constructor
  · intro ⟨part, hpart, hbytes⟩
    rw [← (asciiTransparent_utf8.flatMap_eq_iff hsought).mp hbytes]
    exact hpart
  · intro hmem
    exact ⟨_, hmem, rfl⟩

/-- Both checks find the same path forms. -/
theorem isPathLeak_utf8Bytes (value : String) : isPathLeak (utf8Bytes value) = pathLeak value := by
  have hstarts : ["/", "~/", "//", "file://"].any (fun start => (utf8Bytes start).isPrefixOf
      ((normalized value).flatMap String.utf8EncodeChar)) =
        ["/", "~/", "//", "file://"].any
          (fun start => start.toList.isPrefixOf (normalized value)) := by
    simp only [List.any_cons, List.any_nil]
    rw [isPrefixOf_utf8Bytes (lt_of_isAscii rfl), isPrefixOf_utf8Bytes (lt_of_isAscii rfl),
      isPrefixOf_utf8Bytes (lt_of_isAscii rfl), isPrefixOf_utf8Bytes (lt_of_isAscii rfl)]
  have hdrive : startsWithDrive ((normalized value).flatMap String.utf8EncodeChar) =
      windowsAbsolute value.toList := by
    rw [Bool.eq_iff_iff, startsWithDrive_iff, windowsAbsolute_iff]
  have htraversal : ((((normalized value).flatMap String.utf8EncodeChar).splitOn
      (byteOf '/')).contains (utf8Bytes "..")) =
        ((normalized value).splitOn '/').contains "..".toList := by
    rw [byteOf, asciiTransparent_utf8.splitOn_flatMap (by decide), contains_utf8Bytes (lt_of_isAscii rfl)]
  unfold isPathLeak pathLeak
  rw [replaced_utf8Bytes]
  dsimp only
  rw [hstarts, hdrive, hasTraversal_eq (Nat.lt_succ_self _), htraversal]
  cases ["/", "~/", "//", "file://"].any
    (fun start => start.toList.isPrefixOf (normalized value)) <;>
  cases windowsAbsolute value.toList <;> rfl

/-! ## Keys -/

theorem toLower_of_beyond {character : Char} (h : 128 ≤ character.toNat) :
    character.toLower = character := by
  have hcode : character.toNat = character.val.toNat := rfl
  have hupper : 'Z'.val.toNat = 90 := rfl
  apply dif_neg
  intro ⟨_, hletter⟩
  rw [UInt32.le_iff_toNat_le] at hletter
  omega

theorem toLower_utf8Bytes (key : String) :
    (utf8Bytes key).map toLower = (key.toList.map Char.toLower).flatMap String.utf8EncodeChar := by
  apply asciiTransparent_utf8.map_flatMap
  · intro character hcharacter
    apply ascii_induction (P := fun character => character.toLower.toNat < 128 ∧
      toLower (UInt8.ofNat character.toNat) = UInt8.ofNat character.toLower.toNat) _ hcharacter
    decide +kernel
  · intro character hcharacter
    exact toLower_of_beyond hcharacter
  · intro byte hbyte
    apply if_neg
    rw [UInt8.le_iff_toNat_le, UInt8.le_iff_toNat_le]
    have hbound : (90 : UInt8).toNat = 90 := rfl
    omega

/-- No character beyond ASCII lowers into a key without the letter k. -/
theorem lowerFrom_eq_iff (unicode : UnicodeLower) {pattern : List Char}
    (hascii : ∀ character ∈ pattern, character.toNat < 128) (hpattern : 'k' ∉ pattern)
    (before characters : List Char) :
    unicode.lowerFrom before characters = pattern ↔ characters.map Char.toLower = pattern := by
  induction characters generalizing before pattern with
  | nil => rfl
  | cons character after ih =>
    rw [UnicodeLower.lowerFrom, List.map_cons]
    by_cases hcharacter : character.toNat < 128
    · rw [if_pos hcharacter, List.singleton_append]
      cases pattern with
      | nil => simp
      | cons first pattern =>
        rw [List.cons.injEq, List.cons.injEq,
          ih (fun other hother => hascii other (List.mem_cons_of_mem _ hother))
            (fun hk => hpattern (List.mem_cons_of_mem _ hk))]
    · rw [if_neg hcharacter]
      have hlower : character.toLower = character := toLower_of_beyond (not_lt.mp hcharacter)
      constructor
      · intro heq
        have hmem : ∀ lowered ∈ unicode.lower before character after, lowered ∈ pattern := by
          intro lowered hlowered
          rw [← heq]
          exact List.mem_append_left _ hlowered
        cases unicode.beyond before character after (not_lt.mp hcharacter) with
        | inl hkelvin =>
          rw [hkelvin] at hmem
          exact absurd (hmem _ List.mem_cons_self) hpattern
        | inr hbeyond =>
          obtain ⟨lowered, hlowered, hcode⟩ := hbeyond
          exact absurd (hascii lowered (hmem lowered hlowered)) (not_lt.mpr hcode)
      · intro heq
        rw [hlower] at heq
        exact absurd (hascii character (heq ▸ List.mem_cons_self)) hcharacter

/-- Both checks forbid the same keys. -/
theorem forbiddenPortableKey_utf8Bytes (unicode : UnicodeLower) (key : String) :
    forbiddenPortableKey (utf8Bytes key) = forbiddenKey unicode key := by
  unfold forbiddenPortableKey forbiddenKey
  rw [toLower_utf8Bytes, Bool.eq_iff_iff, List.contains_iff_mem, List.contains_iff_mem,
    List.mem_map, List.mem_map]
  have hall : ∀ forbidden ∈ forbiddenPortableKeys,
      isAscii forbidden = true ∧ forbidden.toList.contains 'k' = false := by
    decide
  have hkeys : ∀ forbidden ∈ forbiddenPortableKeys,
      (∀ character ∈ forbidden.toList, character.toNat < 128) ∧ 'k' ∉ forbidden.toList := by
    intro forbidden hforbidden
    obtain ⟨hascii, hletters⟩ := hall forbidden hforbidden
    exact ⟨lt_of_isAscii hascii, fun hmem => by
      rw [List.contains_iff_mem.mpr hmem] at hletters
      cases hletters⟩
  apply exists_congr
  intro forbidden
  apply and_congr_right
  intro hforbidden
  obtain ⟨hascii, hletters⟩ := hkeys forbidden hforbidden
  rw [eq_comm, utf8Bytes, asciiTransparent_utf8.flatMap_eq_iff hascii]
  exact (lowerFrom_eq_iff unicode hascii hletters [] key.toList).symm.trans eq_comm

/-! ## Values -/

/-- No text of the value leaks a path and no key of it is forbidden. -/
inductive Portable (leaks forbidden : String → Bool) : JsonValue String → Prop where
  | null : Portable leaks forbidden .null
  | boolean (value : Bool) : Portable leaks forbidden (.boolean value)
  | integer (value : Int) : Portable leaks forbidden (.integer value)
  | real (value : Foundation.Double) : Portable leaks forbidden (.real value)
  | string (text : String) (h : leaks text = false) : Portable leaks forbidden (.string text)
  | array (items : List (JsonValue String)) (h : ∀ item ∈ items, Portable leaks forbidden item) :
    Portable leaks forbidden (.array items)
  | object (entries : List (String × JsonValue String))
      (hkeys : ∀ entry ∈ entries, forbidden entry.1 = false)
      (h : ∀ entry ∈ entries, Portable leaks forbidden entry.2) :
    Portable leaks forbidden (.object entries)

namespace Portable

variable {leaks forbidden : String → Bool}

@[simp] theorem string_iff {text : String} :
    Portable leaks forbidden (.string text) ↔ leaks text = false := by
  constructor
  · intro h
    cases h with
    | string text h => exact h
  · exact .string text

@[simp] theorem array_iff {items : List (JsonValue String)} :
    Portable leaks forbidden (.array items) ↔ ∀ item ∈ items, Portable leaks forbidden item := by
  constructor
  · intro h
    cases h with
    | array items h => exact h
  · exact .array items

@[simp] theorem object_iff {entries : List (String × JsonValue String)} :
    Portable leaks forbidden (.object entries) ↔
      ∀ entry ∈ entries, forbidden entry.1 = false ∧ Portable leaks forbidden entry.2 := by
  constructor
  · intro h
    cases h with
    | object entries hkeys h => exact fun entry hentry => ⟨hkeys entry hentry, h entry hentry⟩
  · intro h
    exact .object entries (fun entry hentry => (h entry hentry).1)
      fun entry hentry => (h entry hentry).2

end Portable

/-- `assert_portable` accepts the portable values. -/
theorem assertPortable_ok_iff (unicode : UnicodeLower) (value : JsonValue String)
    (location : String) : assertPortable unicode value location = .ok () ↔
      Portable pathLeak (forbiddenKey unicode) value := by
  induction value using JsonValue.induction generalizing location with
  | null => exact iff_of_true rfl .null
  | boolean value => exact iff_of_true rfl (.boolean value)
  | integer value => exact iff_of_true rfl (.integer value)
  | real value => exact iff_of_true rfl (.real value)
  | string text =>
    rw [assertPortable, Portable.string_iff]
    cases pathLeak text <;> simp
  | array items ih =>
    rw [assertPortable, Portable.array_iff]
    generalize 0 = index
    induction items generalizing index with
    | nil => simp [assertPortableItems]
    | cons item items ihs =>
      rw [assertPortableItems, bind_unit_eq_ok_iff, List.forall_mem_cons,
        ih item List.mem_cons_self,
        ihs fun other hother => ih other (List.mem_cons_of_mem _ hother)]
  | object entries ih =>
    rw [assertPortable, Portable.object_iff]
    induction entries with
    | nil => simp [assertPortableEntries]
    | cons entry entries ihs =>
      obtain ⟨key, item⟩ := entry
      have hitem := ih (key, item) List.mem_cons_self
      rw [assertPortableEntries, List.forall_mem_cons,
        ← ihs fun other hother => ih other (List.mem_cons_of_mem _ hother), and_assoc]
      cases hkey : forbiddenKey unicode key with
      | true => simp [throw, throwThe, MonadExceptOf.throw, bind, Except.bind]
      | false =>
        rw [if_neg (by simp), ← hitem, and_iff_right rfl, ← bind_unit_eq_ok_iff]

/-- `validate_portable` accepts the portable values whose deepest value is in reach. -/
theorem validatePortable_ok_iff (unicode : UnicodeLower) (value : JsonValue String)
    (depth : Nat) : validatePortable value depth = .ok () ↔
      Portable pathLeak (forbiddenKey unicode) value ∧
        depth + value.height ≤ maximumArtifactDepth := by
  induction value using JsonValue.induction generalizing depth with
  | null | boolean | integer | real =>
    rw [validatePortable, JsonValue.height, and_iff_right (by constructor), Nat.add_zero]
    by_cases hdepth : maximumArtifactDepth < depth
    · simp [hdepth]
    · simp [hdepth, not_lt.mp hdepth]
  | string text =>
    rw [validatePortable, JsonValue.height, Portable.string_iff, isPathLeak_utf8Bytes, Nat.add_zero]
    by_cases hdepth : maximumArtifactDepth < depth
    · simp [hdepth]
    · cases pathLeak text <;> simp [hdepth, not_lt.mp hdepth]
  | array items ih =>
    rw [validatePortable, JsonValue.height, Portable.array_iff]
    by_cases hdepth : maximumArtifactDepth < depth
    · rw [if_pos hdepth]
      exact iff_of_false (by simp) fun h => by omega
    · rw [if_neg hdepth]
      induction items with
      | nil => simp [validatePortableItems, JsonValue.heightItems, not_lt.mp hdepth]
      | cons item items ihs =>
        rw [validatePortableItems, bind_unit_eq_ok_iff, ih item List.mem_cons_self,
          ihs fun other hother => ih other (List.mem_cons_of_mem _ hother), List.forall_mem_cons,
          JsonValue.heightItems, and_and_and_comm]
        apply and_congr_right
        intro _
        omega
  | object entries ih =>
    rw [validatePortable, JsonValue.height, Portable.object_iff]
    by_cases hdepth : maximumArtifactDepth < depth
    · rw [if_pos hdepth]
      exact iff_of_false (by simp) fun h => by omega
    · rw [if_neg hdepth]
      induction entries with
      | nil => simp [validatePortableEntries, JsonValue.heightEntries, not_lt.mp hdepth]
      | cons entry entries ihs =>
        obtain ⟨key, item⟩ := entry
        have hitem := ih (key, item) List.mem_cons_self (depth + 1)
        have hrest := ihs fun other hother => ih other (List.mem_cons_of_mem _ hother)
        rw [validatePortableEntries, forbiddenPortableKey_utf8Bytes unicode, List.forall_mem_cons,
          JsonValue.heightEntries]
        cases hkey : forbiddenKey unicode key with
        | true => simp [throw, throwThe, MonadExceptOf.throw, bind, Except.bind]
        | false =>
          rw [if_neg (by simp), and_iff_right rfl, bind_unit_eq_ok_iff, hitem, hrest,
            and_and_and_comm]
          apply and_congr_right
          intro _
          dsimp only
          omega

/-! ## Agreement -/

/-- The native check says what the Python one and the limit on the nesting say of all
values but the portable ones with 65 containers open at once and nothing inside the
last of them. -/
theorem portability_agrees_iff (unicode : UnicodeLower) (value : JsonValue String) :
    (validatePortable value 0 = .ok () ↔
      assertPortable unicode value "artifact" = .ok () ∧
        value.nesting ≤ maximumJsonDepth) ↔
      ¬ (Portable pathLeak (forbiddenKey unicode) value ∧
        value.nesting = maximumJsonDepth + 1 ∧ value.height = maximumJsonDepth) := by
  have hlower := value.height_le_nesting
  have hupper := value.nesting_le_height_add_one
  rw [validatePortable_ok_iff unicode, assertPortable_ok_iff, Nat.zero_add, maximumArtifactDepth,
    maximumJsonDepth]
  by_cases hportable : Portable pathLeak (forbiddenKey unicode) value
  · simp only [hportable, true_and]
    omega
  · simp [hportable]

/-- Containers in one another. -/
def nested : Nat → JsonValue String
  | 0 => .array []
  | count + 1 => .array [nested count]

/-- The mapping of the Kelvin sign, and of nothing else. -/
def kelvinLower : UnicodeLower where
  lower _ character _ := if character = '\u212a' then ['k'] else [character]
  beyond before character after h := by
    split_ifs
    · exact Or.inl rfl
    · exact Or.inr ⟨character, List.mem_cons_self, h⟩

/-- 65 empty arrays in one another pass the native check. -/
theorem nested_accepted :
    ¬ ∀ (unicode : UnicodeLower) (value : JsonValue String), validatePortable value 0 = .ok () ↔
      assertPortable unicode value "artifact" = .ok () ∧ value.nesting ≤ maximumJsonDepth := by
  intro hagree
  have hnative : validatePortable (nested 64) 0 = .ok () := by decide +kernel
  have hnesting : ¬ (nested 64).nesting ≤ maximumJsonDepth := by decide +kernel
  exact hnesting ((hagree kelvinLower (nested 64)).mp hnative).2

end CartoSentry.Artifacts
