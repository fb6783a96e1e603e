import CartoSentry.Foundation.ByteText

set_option autoImplicit false

/-!
# Decoding JSON bytes

The detection of the encoding of a JSON text and the decoding of its bytes to code
points, surrogates like any other.
-/

namespace CartoSentry.Foundation

/-! ## Detection -/

inductive ByteOrder where
  | bigEndian
  | littleEndian
  deriving DecidableEq, Repr

/-- An encoding, and whether the bytes start with its mark. -/
inductive TextEncoding where
  | utf8 (marked : Bool)
  | utf16 (order : ByteOrder) (marked : Bool)
  | utf32 (order : ByteOrder) (marked : Bool)
  deriving DecidableEq, Repr

/-- The encoding of unmarked bytes, by the zeros among the first four. -/
def unmarkedEncoding : List UInt8 → TextEncoding
  | a :: b :: c :: d :: _ =>
    if a = 0 then if b ≠ 0 then .utf16 .bigEndian false else .utf32 .bigEndian false
    else if b = 0 then
      if c ≠ 0 ∨ d ≠ 0 then .utf16 .littleEndian false else .utf32 .littleEndian false
    else .utf8 false
  | [a, b] =>
    if a = 0 then .utf16 .bigEndian false
    else if b = 0 then .utf16 .littleEndian false
    else .utf8 false
  | _ => .utf8 false

/-- `json.detect_encoding`. -/
def detectEncoding (bytes : List UInt8) : TextEncoding :=
  if [0x00, 0x00, 0xfe, 0xff].isPrefixOf bytes then .utf32 .bigEndian true
  else if [0xff, 0xfe, 0x00, 0x00].isPrefixOf bytes then .utf32 .littleEndian true
  else if [0xfe, 0xff].isPrefixOf bytes then .utf16 .bigEndian true
  else if [0xff, 0xfe].isPrefixOf bytes then .utf16 .littleEndian true
  else if [0xef, 0xbb, 0xbf].isPrefixOf bytes then .utf8 true
  else unmarkedEncoding bytes

/-! ## UTF-8 -/

def maximumPoint : Nat := 0x10ffff

/-- The code point that bytes of this length may encode. -/
def pointOf : List UInt8 → Nat
  | [a] => a.toNat
  | [a, b] => (a.toNat - 0xc0) * 64 + (b.toNat - 0x80)
  | [a, b, c] => ((a.toNat - 0xe0) * 64 + (b.toNat - 0x80)) * 64 + (c.toNat - 0x80)
  | [a, b, c, d] =>
    (((a.toNat - 0xf0) * 64 + (b.toNat - 0x80)) * 64 + (c.toNat - 0x80)) * 64 + (d.toNat - 0x80)
  | _ => 0

/-- The code point of a sequence that is its encoding. -/
def decodePoint (bytes : List UInt8) : Option Nat :=
  if encodePoint (pointOf bytes) = bytes ∧ pointOf bytes ≤ maximumPoint then some (pointOf bytes)
  else none

/-- The length that the first byte announces. -/
def sequenceLength : List UInt8 → Nat
  | [] => 1
  | lead :: _ => if lead < 0xc0 then 1 else if lead < 0xe0 then 2 else if lead < 0xf0 then 3 else 4

/-- The code points of bytes, after those of a sequence that has begun. -/
def decodeUtf8From (begun : List UInt8) : List UInt8 → Option (List Nat)
  | [] => if begun = [] then some [] else none
  | byte :: rest =>
    if (begun ++ [byte]).length = sequenceLength (begun ++ [byte]) then do
      let point ← decodePoint (begun ++ [byte])
      let points ← decodeUtf8From [] rest
      return point :: points
    else decodeUtf8From (begun ++ [byte]) rest

def decodeUtf8 (bytes : List UInt8) : Option (List Nat) :=
  decodeUtf8From [] bytes

theorem decodePoint_eq_some {bytes : List UInt8} {point : Nat} (h : decodePoint bytes = some point) :
    encodePoint point = bytes := by
  unfold decodePoint at h
  split_ifs at h with hpoint
  cases h
  exact hpoint.1

theorem decodeUtf8From_eq_some {begun bytes : List UInt8} {points : List Nat}
    (h : decodeUtf8From begun bytes = some points) :
    begun ++ bytes = points.flatMap encodePoint := by
  induction bytes generalizing begun points with
  | nil =>
    unfold decodeUtf8From at h
    split_ifs at h with hbegun
    cases h
    rw [hbegun]
    rfl
  | cons byte rest ih =>
    unfold decodeUtf8From at h
    split_ifs at h
    · obtain ⟨point, hpoint, h⟩ := Option.bind_eq_some_iff.mp h
      obtain ⟨others, hothers, h⟩ := Option.bind_eq_some_iff.mp h
      cases h
      rw [List.flatMap_cons, decodePoint_eq_some hpoint, ← ih hothers, List.nil_append,
        List.append_assoc, List.singleton_append]
    · have hrest := ih h
      rwa [List.append_assoc, List.singleton_append] at hrest

/-- UTF-8 is decoded to the code points that it encodes. -/
theorem decodeUtf8_eq_some {bytes : List UInt8} {points : List Nat}
    (h : decodeUtf8 bytes = some points) : bytes = points.flatMap encodePoint :=
  decodeUtf8From_eq_some h

/-! ## UTF-16 and UTF-32 -/

def ByteOrder.number (order : ByteOrder) (bytes : List UInt8) : Nat :=
  match order with
  | .bigEndian => bytes.foldl (fun value byte => value * 256 + byte.toNat) 0
  | .littleEndian => bytes.foldr (fun byte value => value * 256 + byte.toNat) 0

def units16 (order : ByteOrder) : List UInt8 → Option (List Nat)
  | [] => some []
  | [_] => none
  | a :: b :: rest => do
    let units ← units16 order rest
    return order.number [a, b] :: units

def isHighSurrogate (unit : Nat) : Bool :=
  0xd800 ≤ unit && unit ≤ 0xdbff

def isLowSurrogate (unit : Nat) : Bool :=
  0xdc00 ≤ unit && unit ≤ 0xdfff

/-- The code point of two surrogates. -/
def joinSurrogates (high low : Nat) : Nat :=
  0x10000 + (high - 0xd800) * 0x400 + (low - 0xdc00)

/-- Pairs of surrogates as one code point, others as they are. -/
def joined : List Nat → List Nat
  | high :: low :: rest =>
    if isHighSurrogate high && isLowSurrogate low then joinSurrogates high low :: joined rest
    else high :: joined (low :: rest)
  | units => units

def decodeUtf16 (order : ByteOrder) (bytes : List UInt8) : Option (List Nat) :=
  (units16 order bytes).map joined

def decodeUtf32 (order : ByteOrder) : List UInt8 → Option (List Nat)
  | [] => some []
  | a :: b :: c :: d :: rest =>
    if order.number [a, b, c, d] ≤ maximumPoint then do
      let points ← decodeUtf32 order rest
      return order.number [a, b, c, d] :: points
    else none
  | _ => none

/-! ## The text -/

/-- The text of the bytes, without the mark. -/
def decodeText (bytes : List UInt8) : Option (List Nat) :=
  match detectEncoding bytes with
  | .utf8 marked => decodeUtf8 (bytes.drop (if marked then 3 else 0))
  | .utf16 order marked => decodeUtf16 order (bytes.drop (if marked then 2 else 0))
  | .utf32 order marked => decodeUtf32 order (bytes.drop (if marked then 4 else 0))

/-- Whether the bytes are taken for UTF-8. -/
def isUtf8 (bytes : List UInt8) : Bool :=
  match detectEncoding bytes with
  | .utf8 _ => true
  | _ => false

theorem unmarkedEncoding_ne (bytes : List UInt8) : unmarkedEncoding bytes ≠ .utf8 true := by
  unfold unmarkedEncoding
  split
  · split_ifs <;> decide
  · split_ifs <;> decide
  · decide

theorem detectEncoding_marked {bytes : List UInt8} (h : detectEncoding bytes = .utf8 true) :
    ∃ rest, bytes = 0xef :: 0xbb :: 0xbf :: rest := by
  unfold detectEncoding at h
  split_ifs at h with _ _ _ _ hmark
  · obtain ⟨rest, hrest⟩ := List.isPrefixOf_iff_prefix.mp hmark
    exact ⟨rest, hrest.symm⟩
  · exact absurd h (unmarkedEncoding_ne bytes)

/-- The bytes of UTF-8 encode the text, with the mark in front where there is one. -/
theorem decodeText_of_isUtf8 {bytes : List UInt8} {text : List Nat} (hutf8 : isUtf8 bytes = true)
    (h : decodeText bytes = some text) :
    bytes = text.flatMap encodePoint ∨ bytes = (0xfeff :: text).flatMap encodePoint := by
  unfold isUtf8 at hutf8
  unfold decodeText at h
  cases hencoding : detectEncoding bytes with
  | utf16 | utf32 =>
    rw [hencoding] at hutf8
    cases hutf8
  | utf8 marked =>
    rw [hencoding] at h
    cases marked with
    | false => exact Or.inl (decodeUtf8_eq_some h)
    | true =>
      obtain ⟨rest, rfl⟩ := detectEncoding_marked hencoding
      have hrest := decodeUtf8_eq_some h
      right
      rw [List.flatMap_cons, ← hrest]
      rfl

end CartoSentry.Foundation
