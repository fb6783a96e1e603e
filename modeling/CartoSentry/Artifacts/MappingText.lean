import CartoSentry.Artifacts.IdentityText
import CartoSentry.Artifacts.SequenceIdentity

set_option autoImplicit false

/-!
# Artifacts: the text of a mapping

The canonical text of an object of arbitrary texts determines it: what stands for a character in
a JSON string can be read back, so a string ends at its closing quote.
-/

namespace CartoSentry.Artifacts

open Foundation (JsonValue)

/-! ## Escapes -/

/-- The number that a hexadecimal digit stands for. -/
def hexValue (c : Char) : Nat :=
  if c.isDigit then c.toNat - '0'.toNat else c.toNat - 'a'.toNat + 10

/-- The character at the front of the inside of a JSON string. -/
def unescape : List Char → Option (Char × List Char)
  | '\\' :: 'n' :: rest => some ('\n', rest)
  | '\\' :: 'r' :: rest => some ('\r', rest)
  | '\\' :: 't' :: rest => some ('\t', rest)
  | '\\' :: 'f' :: rest => some (Char.ofNat 12, rest)
  | '\\' :: 'b' :: rest => some (Char.ofNat 8, rest)
  | '\\' :: 'u' :: '0' :: '0' :: high :: low :: rest =>
    some (Char.ofNat (16 * hexValue high + hexValue low), rest)
  | '\\' :: c :: rest => some (c, rest)
  | c :: rest => some (c, rest)
  | [] => none

/-- A control character is read back from its two digits. -/
theorem ofNat_hexDigits {code : Nat} (h : code < 32) :
    Char.ofNat (16 * hexValue (Nat.digitChar (code / 16)) +
      hexValue (Nat.digitChar (code % 16))) = Char.ofNat code := by
  have hall : ∀ code : Fin 32, Char.ofNat (16 * hexValue (Nat.digitChar (code.val / 16)) +
      hexValue (Nat.digitChar (code.val % 16))) = Char.ofNat code.val := by decide
  exact hall ⟨code, h⟩

theorem unescape_of_ne {c : Char} (h : c ≠ '\\') (rest : List Char) :
    unescape (c :: rest) = some (c, rest) := by
  unfold unescape
  split <;> simp_all

/-- A character is read back from what stands for it. -/
theorem unescape_escaped (c : Char) (rest : List Char) :
    unescape (escaped c ++ rest) = some (c, rest) := by
  unfold escaped
  split_ifs with hquote hslash hline hreturn htab hfeed hback hcontrol
  · rw [hquote]; rfl
  · rw [hslash]; rfl
  · rw [hline]; rfl
  · rw [hreturn]; rfl
  · rw [htab]; rfl
  · rw [hfeed]; rfl
  · rw [hback]; rfl
  · change some (Char.ofNat _, rest) = _
    rw [ofNat_hexDigits hcontrol, Char.ofNat_toNat]
  · exact unescape_of_ne hslash rest

theorem escaped_append_inj {left right : Char} {after after' : List Char}
    (h : escaped left ++ after = escaped right ++ after') : left = right ∧ after = after' := by
  have hread := congrArg unescape h
  rw [unescape_escaped, unescape_escaped, Option.some_inj, Prod.mk.injEq] at hread
  exact hread

/-- What stands for a character is neither empty nor does it begin with a quote. -/
theorem escaped_eq_cons (c : Char) : ∃ first rest, escaped c = first :: rest ∧ first ≠ '"' := by
  unfold escaped
  split_ifs with hquote
  · exact ⟨_, _, rfl, by decide⟩
  · exact ⟨_, _, rfl, by decide⟩
  · exact ⟨_, _, rfl, by decide⟩
  · exact ⟨_, _, rfl, by decide⟩
  · exact ⟨_, _, rfl, by decide⟩
  · exact ⟨_, _, rfl, by decide⟩
  · exact ⟨_, _, rfl, by decide⟩
  · exact ⟨_, _, rfl, by decide⟩
  · exact ⟨_, _, rfl, hquote⟩

/-! ## Strings -/

theorem escaped_ne_quote (c : Char) (after after' : List Char) :
    escaped c ++ after ≠ '"' :: after' := by
  obtain ⟨first, rest, hescaped, hfirst⟩ := escaped_eq_cons c
  rw [hescaped]
  intro heq
  exact hfirst (List.cons.inj heq).1

/-- A string ends at its closing quote. -/
theorem flatMap_escaped_inj {left right after after' : List Char}
    (h : left.flatMap escaped ++ '"' :: after = right.flatMap escaped ++ '"' :: after') :
    left = right ∧ after = after' := by
  induction left generalizing right with
  | nil =>
    cases right with
    | nil => exact ⟨rfl, (List.cons.inj h).2⟩
    | cons c right =>
      rw [List.flatMap_cons, List.append_assoc] at h
      exact absurd h.symm (escaped_ne_quote c _ _)
  | cons c left ih =>
    rw [List.flatMap_cons, List.append_assoc] at h
    cases right with
    | nil => exact absurd h (escaped_ne_quote c _ _)
    | cons c' right =>
      rw [List.flatMap_cons, List.append_assoc] at h
      obtain ⟨rfl, htail⟩ := escaped_append_inj h
      obtain ⟨rfl, hafter⟩ := ih htail
      exact ⟨rfl, hafter⟩

theorem quoted_inj {left right : String} {after after' : List Char}
    (h : quoted left ++ after = quoted right ++ after') : left = right ∧ after = after' := by
  unfold quoted at h
  rw [List.cons_append, List.cons_append, List.append_assoc, List.append_assoc] at h
  obtain ⟨htexts, hafter⟩ := flatMap_escaped_inj (List.cons.inj h).2
  exact ⟨String.toList_inj.mp htexts, hafter⟩

/-! ## Mappings -/

/-- The text of a mapping whose keys are sorted. -/
def mappingText (entries : List (String × String)) : List Char :=
  '{' :: (separated (entries.map fieldText) ++ ['}'])

/-- The text of a mapping: its keys are sorted first. -/
theorem jsonText_mapping (platform : Platform) (entries : List (String × String)) :
    jsonText platform (textObject entries) = .ok (mappingText (sortedBy Prod.fst entries)) := by
  have hentries : jsonEntries platform
      (entries.map fun entry => (entry.1, JsonValue.string entry.2)) =
        .ok (entries.map fun entry => (entry.1, quoted entry.2)) := by
    induction entries with
    | nil => rfl
    | cons entry rest ih => rw [List.map_cons, jsonEntries, jsonText, ih]; rfl
  have hsorted : (sortedBy Prod.fst entries).map (fun entry => (entry.1, quoted entry.2)) =
      (entries.map fun entry => (entry.1, quoted entry.2)).insertionSort
        fun left right => left.1 ≤ right.1 :=
    List.map_insertionSort _ _ _ _ fun _ _ _ _ => Iff.rfl
  rw [textObject, jsonText, hentries, Foundation.ok_bind]
  dsimp only
  rw [← hsorted, List.map_map]
  rfl

theorem fieldText_inj {left right : String × String} {after after' : List Char}
    (h : fieldText left ++ after = fieldText right ++ after') : left = right ∧ after = after' := by
  unfold fieldText at h
  rw [List.append_assoc, List.append_assoc] at h
  obtain ⟨hkey, htail⟩ := quoted_inj h
  obtain ⟨hvalue, hafter⟩ := quoted_inj (List.cons.inj htail).2
  exact ⟨Prod.ext hkey hvalue, hafter⟩

theorem fieldText_ne_brace (field : String × String) (after after' : List Char) :
    fieldText field ++ after ≠ '}' :: after' := by
  intro h
  cases (List.cons.inj h).1

/-- The text of a mapping ends at its closing brace. -/
theorem separated_fields_inj {left right : List (String × String)} {after after' : List Char}
    (h : separated (left.map fieldText) ++ '}' :: after =
      separated (right.map fieldText) ++ '}' :: after') : left = right ∧ after = after' := by
  induction left generalizing right with
  | nil =>
    cases right with
    | nil => exact ⟨rfl, (List.cons.inj h).2⟩
    | cons field rest =>
      cases rest with
      | nil => exact absurd h.symm (fieldText_ne_brace field _ _)
      | cons second rest =>
        simp only [List.map_cons, separated, List.append_assoc] at h
        exact absurd h.symm (fieldText_ne_brace field _ _)
  | cons field rest ih =>
    cases right with
    | nil =>
      cases rest with
      | nil => exact absurd h (fieldText_ne_brace field _ _)
      | cons second rest =>
        simp only [List.map_cons, separated, List.append_assoc] at h
        exact absurd h (fieldText_ne_brace field _ _)
    | cons field' rest' =>
      cases rest with
      | nil =>
        cases rest' with
        | nil =>
          obtain ⟨rfl, hafter⟩ := fieldText_inj h
          exact ⟨rfl, (List.cons.inj hafter).2⟩
        | cons second' rest' =>
          simp only [List.map_cons, List.map_nil, separated, List.append_assoc] at h
          obtain ⟨-, hafter⟩ := fieldText_inj h
          cases (List.cons.inj hafter).1
      | cons second rest =>
        cases rest' with
        | nil =>
          simp only [List.map_cons, List.map_nil, separated, List.append_assoc] at h
          obtain ⟨-, hafter⟩ := fieldText_inj h
          cases (List.cons.inj hafter).1
        | cons second' rest' =>
          simp only [List.map_cons, separated, List.append_assoc, List.cons_append] at h
          obtain ⟨rfl, hafter⟩ := fieldText_inj h
          obtain ⟨hrest, hafter⟩ := @ih (second' :: rest') (List.cons.inj hafter).2
          rw [hrest]
          exact ⟨rfl, hafter⟩

theorem mappingText_inj {left right : List (String × String)} {after after' : List Char}
    (h : mappingText left ++ after = mappingText right ++ after') :
    left = right ∧ after = after' := by
  unfold mappingText at h
  rw [List.cons_append, List.cons_append, List.append_assoc, List.append_assoc] at h
  exact separated_fields_inj (List.cons.inj h).2

/-- Mappings with distinct keys have one text when they have the same entries. -/
theorem sortedBy_key_eq_iff {left right : List (String × String)}
    (hleft : (left.map Prod.fst).Nodup) (hright : (right.map Prod.fst).Nodup) :
    sortedBy Prod.fst left = sortedBy Prod.fst right ↔ ∀ entry, entry ∈ left ↔ entry ∈ right := by
  constructor
  · intro hsame entry
    rw [← (sortedBy_perm Prod.fst left).mem_iff, hsame, (sortedBy_perm Prod.fst right).mem_iff]
  · intro hentries
    have hperm : left.Perm right :=
      (List.perm_ext_iff_of_nodup hleft.of_map hright.of_map).mpr hentries
    exact sortedBy_eq_of_perm hright hperm

end CartoSentry.Artifacts
