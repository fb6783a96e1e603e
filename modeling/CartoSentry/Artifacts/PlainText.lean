import CartoSentry.Artifacts.Identifiers

set_option autoImplicit false

/-!
# Artifacts: the texts of identifiers

The patterns of `identifiers.py` admit plain characters only: none that JSON escapes and
none of a path. So such texts are portable, and the canonical bytes of an object of them
determine them.
-/

namespace CartoSentry.Artifacts

open Foundation (JsonValue bind_unit_eq_ok_iff bind_eq_ok_iff)

/-! ## Plain characters -/

/-- `[A-Za-z0-9_.:-]`. -/
def isPlain (c : Char) : Bool :=
  c.isAlphanum || c == '_' || c == '.' || c == ':' || c == '-'

theorem lt_of_isAlphanum {c : Char} (h : c.isAlphanum = true) : c.toNat < 128 := by
  rw [Char.isAlphanum, Bool.or_eq_true] at h
  cases h with
  | inl halpha => exact lt_of_isAlpha halpha
  | inr hdigit =>
    have hcode : c.toNat = c.val.toNat := rfl
    have hnine : '9'.val.toNat = 57 := rfl
    simp only [Char.isDigit, Bool.and_eq_true, decide_eq_true_eq, ge_iff_le,
      UInt32.le_iff_toNat_le] at hdigit
    omega

theorem lt_of_isPlain {c : Char} (h : isPlain c = true) : c.toNat < 128 := by
  simp only [isPlain, Bool.or_eq_true, beq_iff_eq] at h
  rcases h with (((halnum | rfl) | rfl) | rfl) | rfl
  · exact lt_of_isAlphanum halnum
  all_goals decide

/-- A plain character is written as it is, and is no quote and no separator. -/
theorem plain_facts {c : Char} (h : isPlain c = true) :
    escaped c = [c] ∧ c ≠ '"' ∧ c ≠ '/' ∧ c ≠ '\\' := by
  have hall : isPlain c = true → escaped c = [c] ∧ c ≠ '"' ∧ c ≠ '/' ∧ c ≠ '\\' := by
    apply ascii_induction _ (lt_of_isPlain h)
    decide +kernel
  exact hall h

/-- A text of plain characters. -/
def Plain (text : String) : Prop :=
  ∀ c ∈ text.toList, isPlain c = true

theorem Plain.append {left right : String} (hleft : Plain left) (hright : Plain right) :
    Plain (left ++ right) := by
  intro c hc
  rw [String.toList_append, List.mem_append] at hc
  exact hc.elim (hleft c) (hright c)

theorem plain_of_all (text : String) (h : text.toList.all isPlain = true) : Plain text :=
  List.all_eq_true.mp h

/-! ## The patterns -/

theorem isPlain_of_isLowerAlnum {c : Char} (h : (isLowerAlnum c || c == '-') = true) :
    isPlain c = true := by
  have hascii : c.toNat < 128 := by
    simp only [isLowerAlnum, Bool.or_eq_true, Bool.and_eq_true, decide_eq_true_eq, beq_iff_eq] at h
    rcases h with (⟨_, hle⟩ | hdigit) | rfl
    · have hcode : c.toNat ≤ 'z'.toNat := hle
      have hz : 'z'.toNat = 122 := rfl
      omega
    · exact lt_of_isAlphanum (by rw [Char.isAlphanum, hdigit, Bool.or_true])
    · decide
  have hall : (isLowerAlnum c || c == '-') = true → isPlain c = true := by
    apply ascii_induction _ hascii
    decide +kernel
  exact hall h

theorem Sha256.plain (digest : Sha256) : Plain digest.text := by
  have hvalid := digest.valid
  rw [isSha256, Bool.and_eq_true] at hvalid
  intro c hc
  have hhex := List.all_eq_true.mp hvalid.2 c hc
  apply isPlain_of_isLowerAlnum
  rw [isLowerAlnum]
  simp only [Bool.or_eq_true, Bool.and_eq_true, decide_eq_true_eq, beq_iff_eq] at hhex ⊢
  rcases hhex with hdigit | ⟨hle, hge⟩
  · exact Or.inl (Or.inr hdigit)
  · exact Or.inl (Or.inl ⟨hle, le_trans hge (by decide)⟩)

theorem FrameId.plain (frame : FrameId) : Plain frame.text := by
  have hvalid := frame.valid
  rw [isFrameId, Bool.and_eq_true] at hvalid
  exact List.all_eq_true.mp hvalid.2

theorem Identifier.plain (name : Identifier) : Plain name.text := by
  have hvalid := name.valid
  cases htext : name.text.toList with
  | nil =>
    intro c hc
    rw [htext] at hc
    cases hc
  | cons first rest =>
    rw [htext, isIdentifier, Bool.and_eq_true] at hvalid
    intro c hc
    rw [htext] at hc
    cases List.mem_cons.mp hc with
    | inl hfirst => rw [hfirst, isPlain, hvalid.1]; rfl
    | inr hrest => exact List.all_eq_true.mp hvalid.2 c hrest

theorem Slug.plain (slug : Slug) : Plain slug.text := by
  have hvalid := slug.valid
  rw [isSlug, Bool.and_eq_true] at hvalid
  intro c hc
  exact isPlain_of_isLowerAlnum (List.all_eq_true.mp hvalid.2 c hc)

/-- A text with a digest at its end is plain when what precedes the digest is. -/
theorem plain_of_digest {text : String} (hdigest : isSha256 (digestOf text.toList) = true)
    (hbefore : ∀ c ∈ beforeDigest text.toList, isPlain c = true) : Plain text := by
  have hdigestPlain : Plain (String.ofList (digestOf text.toList)) := by
    apply Sha256.plain ⟨String.ofList (digestOf text.toList), ?_⟩
    rw [String.toList_ofList]
    exact hdigest
  intro c hc
  have hsplit : text.toList = beforeDigest text.toList ++ digestOf text.toList :=
    (List.take_append_drop _ _).symm
  rw [hsplit, List.mem_append] at hc
  cases hc with
  | inl hmem => exact hbefore c hmem
  | inr hmem =>
    apply hdigestPlain c
    rw [String.toList_ofList]
    exact hmem

/-- What precedes a suffix, and the suffix. -/
theorem eq_append_of_isSuffixOf {suffix text : List Char} (h : suffix.isSuffixOf text = true) :
    text = text.take (text.length - suffix.length) ++ suffix := by
  obtain ⟨front, rfl⟩ := List.isSuffixOf_iff_suffix.mp h
  rw [List.length_append, Nat.add_sub_cancel, List.take_left]

theorem StableId.plain (id : StableId) : Plain id.text := by
  have hvalid := id.valid
  rw [isStableId, Bool.and_eq_true, Bool.and_eq_true] at hvalid
  obtain ⟨⟨hdigest, hsuffix⟩, hkind⟩ := hvalid
  apply plain_of_digest hdigest
  intro c hc
  have height : "-sha256-".toList.length = 8 := rfl
  have hfront := eq_append_of_isSuffixOf hsuffix
  rw [height] at hfront
  rw [hfront, List.mem_append] at hc
  cases hc with
  | inl hmem =>
    cases hkindText : (beforeDigest id.text.toList).take
        ((beforeDigest id.text.toList).length - 8) with
    | nil =>
      rw [hkindText] at hmem
      cases hmem
    | cons first rest =>
      rw [hkindText, isKind, Bool.and_eq_true] at hkind
      rw [hkindText] at hmem
      apply isPlain_of_isLowerAlnum
      cases List.mem_cons.mp hmem with
      | inl hfirst => rw [hfirst, isLowerAlnum, hkind.1]; rfl
      | inr hrest => exact List.all_eq_true.mp hkind.2 c hrest
  | inr hmem => exact plain_of_all "-sha256-" (by decide) c hmem

theorem StreamId.plain (id : StreamId) : Plain id.text := by
  have hvalid := id.valid
  rw [isStreamId] at hvalid
  simp only [Bool.and_eq_true] at hvalid
  obtain ⟨⟨⟨⟨hdigest, hprefix⟩, hsuffix⟩, hslug⟩, _⟩ := hvalid
  apply plain_of_digest hdigest
  intro c hc
  have hseven : "stream-".toList.length = 7 := rfl
  obtain ⟨after, hafter⟩ := List.isPrefixOf_iff_prefix.mp hprefix
  have hdrop : (beforeDigest id.text.toList).drop 7 = after := by
    rw [← hafter, ← hseven, List.drop_left]
  rw [hdrop, isSlug, Bool.and_eq_true] at hslug
  rw [← hafter, List.mem_append] at hc
  cases hc with
  | inl hmem => exact plain_of_all "stream-" (by decide) c hmem
  | inr hmem =>
    -- the last character is the dash in front of the digest
    obtain ⟨front, hfront⟩ := List.isSuffixOf_iff_suffix.mp hsuffix
    cases List.eq_nil_or_concat after with
    | inl hnil =>
      rw [hnil] at hmem
      cases hmem
    | inr hlast =>
      obtain ⟨init, last, rfl⟩ := hlast
      rw [List.concat_eq_append] at hafter hmem hslug
      rw [List.dropLast_concat] at hslug
      have hdash : last = '-' := by
        rw [← hfront, ← List.append_assoc] at hafter
        exact (List.append_inj' hafter rfl).2 |> List.singleton_inj.mp
      rw [List.mem_append, List.mem_singleton, hdash] at hmem
      cases hmem with
      | inl hinit => exact isPlain_of_isLowerAlnum (List.all_eq_true.mp hslug.2 c hinit)
      | inr hsame => rw [hsame]; decide

/-! ## Plain texts are portable -/

/-- A plain text that starts with a letter or a digit is no path. -/
theorem pathLeak_eq_false {text : String} (hplain : Plain text) {first : Char} {rest : List Char}
    (hfirst : text.toList = first :: rest) (halnum : first.isAlphanum = true) :
    pathLeak text = false := by
  have hslash : '/' ∉ text.toList := fun hmem => (plain_facts (hplain _ hmem)).2.2.1 rfl
  have hnormalized : normalized text = text.toList := by
    unfold normalized
    conv_rhs => rw [← List.map_id text.toList]
    apply List.map_congr_left
    intro c hc
    exact if_neg (plain_facts (hplain c hc)).2.2.2
  have hstart : ∀ start : String, '/' ∈ start.toList →
      start.toList.isPrefixOf text.toList = false := by
    intro start hmem
    rw [Bool.eq_false_iff, ne_eq, List.isPrefixOf_iff_prefix]
    intro hprefix
    exact hslash (List.IsPrefix.subset hprefix hmem)
  have hdrive : windowsAbsolute text.toList = false := by
    unfold windowsAbsolute
    split
    · rename_i letter separator after htext
      have hmem : separator ∈ text.toList := by rw [htext]; simp
      have hfacts := (plain_facts (hplain separator hmem)).2.2
      rw [Bool.and_eq_false_iff, Bool.or_eq_false_iff, beq_eq_false_iff_ne, beq_eq_false_iff_ne]
      exact Or.inr ⟨hfacts.2, hfacts.1⟩
    · rfl
  have hparts : text.toList.splitOn '/' = [text.toList] :=
    List.splitOn_eq_singleton hslash
  have hdots : ([text.toList]).contains "..".toList = false := by
    rw [List.contains_cons, Bool.or_eq_false_iff, beq_eq_false_iff_ne]
    refine ⟨fun heq => ?_, rfl⟩
    rw [hfirst] at heq
    have hdot : first = '.' := (List.cons.inj heq).1.symm
    rw [hdot] at halnum
    revert halnum
    decide
  unfold pathLeak
  rw [hnormalized, hparts, hdots, hdrive]
  simp only [List.any_cons, List.any_nil, Bool.or_false]
  rw [hstart _ (by decide), hstart _ (by decide), hstart _ (by decide), hstart _ (by decide)]
  rfl

theorem Identifier.pathLeak (name : Identifier) : pathLeak name.text = false := by
  have hvalid := name.valid
  cases htext : name.text.toList with
  | nil =>
    rw [htext] at hvalid
    cases hvalid
  | cons first rest =>
    rw [htext, isIdentifier, Bool.and_eq_true] at hvalid
    exact pathLeak_eq_false (Identifier.plain name) htext hvalid.1

theorem StableId.pathLeak (id : StableId) : pathLeak id.text = false := by
  have hvalid := id.valid
  rw [isStableId, Bool.and_eq_true] at hvalid
  have hprefix : (beforeDigest id.text.toList).take ((beforeDigest id.text.toList).length - 8) <+:
      id.text.toList := (List.take_prefix _ _).trans (List.take_prefix _ _)
  cases hkind : (beforeDigest id.text.toList).take
      ((beforeDigest id.text.toList).length - 8) with
  | nil =>
    rw [hkind] at hvalid
    cases hvalid.2
  | cons first rest =>
    rw [hkind] at hvalid hprefix
    obtain ⟨after, htext⟩ := hprefix
    rw [isKind, Bool.and_eq_true, Bool.and_eq_true] at hvalid
    apply pathLeak_eq_false (StableId.plain id) htext.symm
    have hletter := hvalid.2.1
    simp only [Char.isAlphanum, Char.isAlpha, Char.isLower, Bool.or_eq_true, Bool.and_eq_true,
      decide_eq_true_eq] at hletter ⊢
    exact Or.inl (Or.inr hletter)

theorem StreamId.pathLeak (id : StreamId) : pathLeak id.text = false := by
  have hvalid := id.valid
  rw [isStreamId] at hvalid
  simp only [Bool.and_eq_true, List.isPrefixOf_iff_prefix] at hvalid
  have hprefix : "stream-".toList <+: id.text.toList :=
    hvalid.1.1.1.2.trans (List.take_prefix _ _)
  obtain ⟨after, htext⟩ := hprefix
  exact pathLeak_eq_false (StreamId.plain id) htext.symm (by decide)

/-- A key of ASCII letters is judged by its bytes. -/
theorem forbiddenKey_eq_false {unicode : UnicodeLower} {key : String}
    (h : forbiddenPortableKey (utf8Bytes key) = false) : forbiddenKey unicode key = false := by
  rw [← forbiddenPortableKey_utf8Bytes unicode key]
  exact h

/-! ## The bytes of an object of plain texts -/

theorem quoted_of_plain {text : String} (h : Plain text) :
    quoted text = '"' :: (text.toList ++ ['"']) := by
  unfold quoted
  have hsingle : text.toList.flatMap escaped = text.toList.flatMap fun c => [c] :=
    List.flatMap_congr fun c hc => (plain_facts (h c hc)).1
  rw [hsingle, List.flatMap_singleton']

/-- A quoted text ends at its closing quote. -/
theorem quoted_append_inj {left right : String} (hleft : Plain left) (hright : Plain right)
    {after after' : List Char} (h : quoted left ++ after = quoted right ++ after') :
    left = right ∧ after = after' := by
  have hends : ∀ texts texts' : List Char, (∀ c ∈ texts, isPlain c = true) →
      (∀ c ∈ texts', isPlain c = true) → texts ++ '"' :: after = texts' ++ '"' :: after' →
        texts = texts' ∧ after = after' := by
    intro texts
    induction texts with
    | nil =>
      intro texts' _ hplain heq
      cases texts' with
      | nil => exact ⟨rfl, (List.cons.inj heq).2⟩
      | cons c rest =>
        have hquote : c = '"' := (List.cons.inj heq).1.symm
        exact absurd hquote (plain_facts (hplain c List.mem_cons_self)).2.1
    | cons c rest ih =>
      intro texts' hplain hplain' heq
      cases texts' with
      | nil =>
        have hquote : c = '"' := (List.cons.inj heq).1
        exact absurd hquote (plain_facts (hplain c List.mem_cons_self)).2.1
      | cons c' rest' =>
        obtain ⟨rfl, htail⟩ := List.cons.inj heq
        obtain ⟨rfl, hafter⟩ := ih rest' (fun c hc => hplain c (List.mem_cons_of_mem _ hc))
          (fun c hc => hplain' c (List.mem_cons_of_mem _ hc)) htail
        exact ⟨rfl, hafter⟩
  rw [quoted_of_plain hleft, quoted_of_plain hright, List.cons_append, List.cons_append,
    List.append_assoc, List.append_assoc] at h
  have htail := (List.cons.inj h).2
  obtain ⟨htexts, hafter⟩ := hends _ _ hleft hright htail
  exact ⟨String.toList_inj.mp htexts, hafter⟩

/-- An entry of an object with a text as its value. -/
def fieldText (field : String × String) : List Char :=
  quoted field.1 ++ ':' :: quoted field.2

theorem fieldText_append_inj {left right : String × String} (hkey : left.1 = right.1)
    (hleft : Plain left.2) (hright : Plain right.2) {after after' : List Char}
    (h : fieldText left ++ after = fieldText right ++ after') : left = right ∧ after = after' := by
  unfold fieldText at h
  rw [hkey, List.append_assoc, List.append_assoc] at h
  have hvalues := (List.cons.inj (List.append_cancel_left h)).2
  obtain ⟨hvalue, hafter⟩ := quoted_append_inj hleft hright hvalues
  exact ⟨Prod.ext hkey hvalue, hafter⟩

theorem separated_inj {left right : List (String × String)}
    (hkeys : left.map Prod.fst = right.map Prod.fst) (hleft : ∀ field ∈ left, Plain field.2)
    (hright : ∀ field ∈ right, Plain field.2)
    (h : separated (left.map fieldText) ++ ['}'] = separated (right.map fieldText) ++ ['}']) :
    left = right := by
  induction left generalizing right with
  | nil =>
    rw [List.map_nil, eq_comm, List.map_eq_nil_iff] at hkeys
    exact hkeys.symm
  | cons first rest ih =>
    cases right with
    | nil => cases hkeys
    | cons first' rest' =>
      obtain ⟨hkey, hrestKeys⟩ := List.cons.inj hkeys
      have hfirst := hleft first List.mem_cons_self
      have hfirst' := hright first' List.mem_cons_self
      cases rest with
      | nil =>
        cases rest' with
        | nil => rw [(fieldText_append_inj hkey hfirst hfirst' h).1]
        | cons _ _ => cases hrestKeys
      | cons second rest =>
        cases rest' with
        | nil => cases hrestKeys
        | cons second' rest' =>
          simp only [List.map_cons, separated, List.append_assoc, List.cons_append] at h
          obtain ⟨hsame, hafter⟩ := fieldText_append_inj hkey hfirst hfirst' h
          rw [hsame, ih hrestKeys (fun field hfield => hleft field (List.mem_cons_of_mem _ hfield))
            (fun field hfield => hright field (List.mem_cons_of_mem _ hfield))
            (List.cons.inj hafter).2]

/-- An object of texts. -/
def textObject (fields : List (String × String)) : JsonValue String :=
  .object (fields.map fun field => (field.1, .string field.2))

theorem jsonText_textObject {platform : Platform} {fields : List (String × String)}
    (hsorted : (fields.map Prod.fst).Pairwise (· ≤ ·)) :
    jsonText platform (textObject fields) =
      .ok ('{' :: (separated (fields.map fieldText) ++ ['}'])) := by
  have hentries : jsonEntries platform (fields.map fun field => (field.1, JsonValue.string field.2)) =
      .ok (fields.map fun field => (field.1, quoted field.2)) := by
    clear hsorted
    induction fields with
    | nil => rfl
    | cons field rest ih => rw [List.map_cons, jsonEntries, jsonText, ih]; rfl
  have hpairs : (fields.map fun field => (field.1, quoted field.2)).Pairwise
      fun left right => left.1 ≤ right.1 := by
    rw [List.pairwise_map] at hsorted ⊢
    exact hsorted
  rw [textObject, jsonText, hentries]
  change Except.ok _ = _
  rw [hpairs.insertionSort_eq, List.map_map]
  rfl

/-- UTF-8 determines the text. -/
theorem utf8_inj {left right : List Char}
    (h : left.flatMap String.utf8EncodeChar = right.flatMap String.utf8EncodeChar) :
    left = right := by
  apply String.ofList_inj.mp
  apply String.toByteArray_inj.mp
  rw [String.toByteArray_ofList, String.toByteArray_ofList, List.utf8Encode, List.utf8Encode, h]

/-- The canonical bytes of an object of plain texts determine the texts. -/
theorem textObject_inj {platform : Platform} {left right : List (String × String)}
    {bytes : List UInt8} (hkeys : left.map Prod.fst = right.map Prod.fst)
    (hsorted : (left.map Prod.fst).Pairwise (· ≤ ·)) (hleft : ∀ field ∈ left, Plain field.2)
    (hright : ∀ field ∈ right, Plain field.2)
    (hleftBytes : canonicalJsonBytes platform (textObject left) = .ok bytes)
    (hrightBytes : canonicalJsonBytes platform (textObject right) = .ok bytes) : left = right := by
  have hsorted' : (right.map Prod.fst).Pairwise (· ≤ ·) := hkeys ▸ hsorted
  unfold canonicalJsonBytes at hleftBytes hrightBytes
  rw [bind_unit_eq_ok_iff, jsonText_textObject hsorted] at hleftBytes
  rw [bind_unit_eq_ok_iff, jsonText_textObject hsorted'] at hrightBytes
  have hsame := Except.ok.inj (hleftBytes.2.trans hrightBytes.2.symm)
  exact separated_inj hkeys hleft hright (List.cons.inj (utf8_inj hsame)).2

end CartoSentry.Artifacts
