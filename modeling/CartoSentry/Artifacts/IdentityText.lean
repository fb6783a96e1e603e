import CartoSentry.Artifacts.PlainText
import Std.Data.String.ToInt

set_option autoImplicit false

/-!
# Artifacts: texts under a digest

The detectors name an event after the digest of its canonical text.  An integer ends at
the comma behind it, so the text of an event determines the integers in it.
-/

namespace CartoSentry.Artifacts

open Foundation (JsonValue)

/-! ## Integers in a text -/

theorem comma_notMem_toDigits (value : Nat) : ',' ∉ Nat.toDigits 10 value := by
  intro hmem
  have hdigit : ','.isDigit = true := Nat.isDigit_of_mem_toDigits (by omega) le_rfl hmem
  cases hdigit

theorem comma_notMem_toString (value : Int) : ',' ∉ (toString value).toList := by
  rw [Int.toString_eq_repr]
  cases value with
  | ofNat value =>
    rw [Int.repr, Nat.toList_repr]
    exact comma_notMem_toDigits value
  | negSucc value =>
    rw [Int.repr, String.toList_append, Nat.toList_repr, List.mem_append, not_or]
    exact ⟨by decide, comma_notMem_toDigits (value + 1)⟩

/-- A text ends at the first separator behind it. -/
theorem append_separator_inj {A : Type} {separator : A} {left right after after' : List A}
    (hleft : separator ∉ left) (hright : separator ∉ right)
    (h : left ++ separator :: after = right ++ separator :: after') :
    left = right ∧ after = after' := by
  rcases List.append_eq_append_iff.mp h with ⟨middle, rfl, htail⟩ | ⟨middle, rfl, htail⟩
  · cases middle with
    | nil => exact ⟨(List.append_nil left).symm, (List.cons.inj htail).2⟩
    | cons first middle =>
      obtain ⟨rfl, -⟩ := List.cons.inj htail
      exact absurd (List.mem_append_right left List.mem_cons_self) hright
  · cases middle with
    | nil => exact ⟨List.append_nil right, (List.cons.inj htail).2.symm⟩
    | cons first middle =>
      obtain ⟨rfl, -⟩ := List.cons.inj htail
      exact absurd (List.mem_append_right right List.mem_cons_self) hleft

/-- An integer with a comma behind it is read back. -/
theorem integer_append_inj {left right : Int} {after after' : List Char}
    (h : (toString left).toList ++ ',' :: after = (toString right).toList ++ ',' :: after') :
    left = right ∧ after = after' := by
  obtain ⟨htexts, hafter⟩ := append_separator_inj (comma_notMem_toString left)
    (comma_notMem_toString right) h
  refine ⟨?_, hafter⟩
  rw [String.toList_inj, Int.toString_eq_repr, Int.toString_eq_repr] at htexts
  exact Int.repr_inj.mp htexts

/-! ## Digests -/

theorem Patterned.eq_of_text {accepts : List Char → Bool} {left right : Patterned accepts}
    (h : left.text = right.text) : left = right := by
  cases left
  cases right
  cases h
  rfl

/-- No two of the values have one digest and different texts. -/
def DigestsApart (platform : Platform) (values : List (JsonValue String)) : Prop :=
  ∀ left ∈ values, ∀ right ∈ values, ∀ text text',
    jsonText platform left = .ok text → jsonText platform right = .ok text' →
      platform.sha256 (text.flatMap String.utf8EncodeChar) =
        platform.sha256 (text'.flatMap String.utf8EncodeChar) → text = text'

end CartoSentry.Artifacts
