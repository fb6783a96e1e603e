import Mathlib.Data.List.Basic

set_option autoImplicit false

/-!
# Texts as bytes

An encoding that leaves the characters below 128 as single bytes of the same number and
uses none of these bytes for any other character. Searches for such characters then give
the same on a text and on its bytes.
-/

namespace CartoSentry.Foundation

universe u

variable {A : Type u}

/-- Characters below 128 are their own bytes and no other character has such a byte. -/
structure AsciiTransparent (code : A → Nat) (encode : A → List UInt8) : Prop where
  injective : Function.Injective code
  ascii : ∀ item, code item < 128 → encode item = [UInt8.ofNat (code item)]
  nonempty : ∀ item, 128 ≤ code item → encode item ≠ []
  beyond : ∀ item, 128 ≤ code item → ∀ byte ∈ encode item, 128 ≤ byte.toNat

namespace AsciiTransparent

variable {code : A → Nat} {encode : A → List UInt8} (h : AsciiTransparent code encode)

include h

theorem encode_ne_nil (item : A) : encode item ≠ [] := by
  cases Nat.lt_or_ge (code item) 128 with
  | inl hascii =>
    rw [h.ascii item hascii]
    exact List.cons_ne_nil _ _
  | inr hbeyond => exact h.nonempty item hbeyond

/-- The byte of a character below 128 is in no other encoding. -/
theorem eq_of_mem {item sought : A} (hsought : code sought < 128)
    (hmem : UInt8.ofNat (code sought) ∈ encode item) : item = sought := by
  have hbyte : (UInt8.ofNat (code sought)).toNat = code sought := by
    rw [UInt8.toNat_ofNat']
    omega
  cases Nat.lt_or_ge (code item) 128 with
  | inl hascii =>
    rw [h.ascii item hascii, List.mem_singleton] at hmem
    apply h.injective
    have hcodes := congrArg UInt8.toNat hmem
    rw [hbyte, UInt8.toNat_ofNat'] at hcodes
    omega
  | inr hbeyond =>
    have hle := h.beyond item hbeyond _ hmem
    omega

/-- A pattern of characters below 128 starts the bytes exactly where it starts the text. -/
theorem isPrefix_iff {pattern items : List A} (hpattern : ∀ item ∈ pattern, code item < 128) :
    pattern.flatMap encode <+: items.flatMap encode ↔ pattern <+: items := by
  induction pattern generalizing items with
  | nil => simp
  | cons sought pattern ih =>
    have hsought := hpattern sought List.mem_cons_self
    have hrest := fun item hitem => hpattern item (List.mem_cons_of_mem _ hitem)
    rw [List.flatMap_cons, h.ascii sought hsought]
    cases items with
    | nil => simp
    | cons item items =>
      rw [List.flatMap_cons]
      constructor
      · intro hprefix
        obtain ⟨first, others, hencode⟩ := List.exists_cons_of_ne_nil (h.encode_ne_nil item)
        rw [hencode, List.cons_append, List.cons_append, List.cons_prefix_cons] at hprefix
        obtain ⟨hfirst, hprefix⟩ := hprefix
        have hitem : item = sought := by
          apply h.eq_of_mem hsought
          rw [hencode, hfirst]
          exact List.mem_cons_self
        rw [hitem, h.ascii sought hsought] at hencode
        obtain ⟨-, rfl⟩ := List.cons.inj hencode
        exact List.cons_prefix_cons.mpr ⟨hitem.symm, (ih hrest).mp hprefix⟩
      · intro hprefix
        obtain ⟨rfl, hrestPrefix⟩ := List.cons_prefix_cons.mp hprefix
        rw [h.ascii sought hsought]
        exact List.cons_prefix_cons.mpr ⟨rfl, (ih hrest).mpr hrestPrefix⟩

/-- A text has the bytes of a pattern of characters below 128 exactly where it is it. -/
theorem flatMap_eq_iff {pattern items : List A} (hpattern : ∀ item ∈ pattern, code item < 128) :
    items.flatMap encode = pattern.flatMap encode ↔ items = pattern := by
  constructor
  · intro heq
    have hprefix : pattern.flatMap encode <+: items.flatMap encode := heq ▸ List.prefix_rfl
    obtain ⟨rest, rfl⟩ := (h.isPrefix_iff hpattern).mp hprefix
    cases rest with
    | nil => exact List.append_nil _
    | cons item rest =>
      have hnil : (item :: rest).flatMap encode = [] := by
        rwa [List.flatMap_append, List.append_right_eq_self] at heq
      exact absurd (List.append_eq_nil_iff.mp hnil).1 (h.encode_ne_nil item)
  · intro heq
    rw [heq]

omit h in
/-- A block without the separator goes in front of the first part. -/
theorem splitOn_append_of_notMem {separator : UInt8} {block : List UInt8}
    (hblock : separator ∉ block) (rest : List UInt8) :
    (block ++ rest).splitOn separator = (rest.splitOn separator).modifyHead (block ++ ·) := by
  induction block with
  | nil => cases hparts : rest.splitOn separator <;> simp [hparts]
  | cons byte block ih =>
    rw [List.mem_cons, not_or] at hblock
    obtain ⟨hbyte, hblock⟩ := hblock
    have hne : (byte == separator) = false := beq_eq_false_iff_ne.mpr (Ne.symm hbyte)
    rw [List.cons_append, List.splitOn_cons_eq_if_modifyHead, ih hblock, hne]
    cases hparts : rest.splitOn separator <;> simp

/-- Cutting the bytes at a character below 128 cuts the text there. -/
theorem splitOn_flatMap [DecidableEq A] {separator : A} (hseparator : code separator < 128)
    (items : List A) :
    (items.flatMap encode).splitOn (UInt8.ofNat (code separator)) =
      (items.splitOn separator).map fun part => part.flatMap encode := by
  induction items with
  | nil => simp
  | cons item items ih =>
    rw [List.flatMap_cons, List.splitOn_cons_eq_if_modifyHead]
    by_cases hitem : item = separator
    · rw [hitem, h.ascii separator hseparator, List.cons_append, List.nil_append,
        List.splitOn_cons_eq_if_modifyHead, ih]
      simp
    · have hnot : UInt8.ofNat (code separator) ∉ encode item :=
        fun hmem => hitem (h.eq_of_mem hseparator hmem)
      have hne : (item == separator) = false := beq_eq_false_iff_ne.mpr hitem
      rw [splitOn_append_of_notMem hnot, ih, hne]
      cases hparts : items.splitOn separator <;> simp

/-- A change of characters below 128 is one of their bytes. -/
theorem map_flatMap {change : UInt8 → UInt8} {replace : A → A}
    (hascii : ∀ item, code item < 128 → code (replace item) < 128 ∧
      change (UInt8.ofNat (code item)) = UInt8.ofNat (code (replace item)))
    (hbeyond : ∀ item, 128 ≤ code item → replace item = item)
    (hfixed : ∀ byte : UInt8, 128 ≤ byte.toNat → change byte = byte) (items : List A) :
    (items.flatMap encode).map change = (items.map replace).flatMap encode := by
  rw [List.map_flatMap, List.flatMap_map]
  apply List.flatMap_congr
  intro item _
  cases Nat.lt_or_ge (code item) 128 with
  | inl hitem =>
    obtain ⟨hreplace, hchange⟩ := hascii item hitem
    rw [h.ascii item hitem, h.ascii _ hreplace, List.map_singleton, hchange]
  | inr hitem =>
    rw [hbeyond item hitem]
    calc (encode item).map change = (encode item).map id :=
        List.map_congr_left fun byte hbyte => hfixed byte (h.beyond item hitem byte hbyte)
      _ = encode item := List.map_id _

end AsciiTransparent

/-- The first part ends at the first separator. -/
theorem splitOn_eq_takeWhile {B : Type u} [DecidableEq B] (separator : B) (items : List B) :
    items.splitOn separator = items.takeWhile (· != separator) ::
      match items.drop (items.takeWhile (· != separator)).length with
      | [] => []
      | _ :: after => after.splitOn separator := by
  induction items with
  | nil => simp
  | cons item items ih =>
    rw [List.splitOn_cons_eq_if_modifyHead]
    by_cases hitem : item = separator
    · simp [hitem]
    · have hne : (item == separator) = false := beq_eq_false_iff_ne.mpr hitem
      rw [hne, ih, List.takeWhile_cons_of_pos (by simpa using hitem)]
      simp

/-! ## UTF-8 -/

/-- UTF-8 of a code point, surrogates like any other. -/
def encodePoint (point : Nat) : List UInt8 :=
  if point ≤ 0x7f then [UInt8.ofNat point]
  else if point ≤ 0x7ff then
    [UInt8.ofNat (point / 64 % 0x20 + 0xc0), UInt8.ofNat (point % 0x40 + 0x80)]
  else if point ≤ 0xffff then
    [UInt8.ofNat (point / 4096 % 0x10 + 0xe0), UInt8.ofNat (point / 64 % 0x40 + 0x80),
      UInt8.ofNat (point % 0x40 + 0x80)]
  else
    [UInt8.ofNat (point / 262144 % 0x08 + 0xf0), UInt8.ofNat (point / 4096 % 0x40 + 0x80),
      UInt8.ofNat (point / 64 % 0x40 + 0x80), UInt8.ofNat (point % 0x40 + 0x80)]

/-- The characters of Lean are encoded as their code points. -/
theorem utf8EncodeChar_eq (character : Char) :
    String.utf8EncodeChar character = encodePoint character.toNat :=
  rfl

theorem le_toNat_of_mem_encodePoint {point : Nat} (hpoint : 128 ≤ point) {byte : UInt8}
    (hbyte : byte ∈ encodePoint point) : 128 ≤ byte.toNat := by
  have hlead : ∀ low high : Nat, 128 ≤ high → low + high < 256 →
      128 ≤ (UInt8.ofNat (low + high)).toNat := by
    intro low high hhigh hsum
    rw [UInt8.toNat_ofNat']
    omega
  unfold encodePoint at hbyte
  split_ifs at hbyte
  · omega
  all_goals
    simp only [List.mem_cons, List.not_mem_nil, or_false] at hbyte
    rcases hbyte with rfl | rfl | rfl | rfl
    all_goals exact hlead _ _ (by omega) (by omega)

theorem asciiTransparent_encodePoint : AsciiTransparent id encodePoint where
  injective := Function.injective_id
  ascii point hpoint := if_pos (Nat.le_of_lt_succ hpoint)
  nonempty point _ := by
    unfold encodePoint
    split_ifs <;> exact List.cons_ne_nil _ _
  beyond point hpoint byte hbyte := le_toNat_of_mem_encodePoint hpoint hbyte

theorem asciiTransparent_utf8 : AsciiTransparent Char.toNat String.utf8EncodeChar where
  injective _ _ heq := Char.toNat_inj.mp heq
  ascii item hitem := asciiTransparent_encodePoint.ascii item.toNat hitem
  nonempty item hitem := asciiTransparent_encodePoint.nonempty item.toNat hitem
  beyond item hitem := asciiTransparent_encodePoint.beyond item.toNat hitem

end CartoSentry.Foundation
