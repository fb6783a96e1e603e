import CartoSentry.Artifacts.JsonBoundary
import CartoSentry.Foundation.JsonSpelling
import CartoSentry.Foundation.Outcome

set_option autoImplicit false

/-!
# Artifacts: what passes the JSON boundary

The scan of the depth finds in the text of a value as many open containers as the value
nests, and in UTF-8 it finds in the bytes what it finds in the text. What the boundary
leaves to Python goes wrong in three ways: an integer may have too many digits, a real
may overflow, and the bytes of another encoding may hide brackets.
-/

namespace CartoSentry.Artifacts

open Foundation
open Foundation.JsonScanner

/-! ## Depth of a text -/

section Depth

variable {context : String}

/-- Outside strings the text opens so many containers and closes them again. -/
def Balanced (context : String) (text : Text) (nesting : Nat) : Prop :=
  ∀ depth ≤ maximumJsonDepth, text.foldlM (depthStep context) ⟨depth, false, false⟩ =
    if depth + nesting ≤ maximumJsonDepth then .ok ⟨depth, false, false⟩
    else .error (tooDeep context)

theorem Balanced.nil : Balanced context [] 0 := by
  intro depth hdepth
  rw [Nat.add_zero, if_pos hdepth]
  rfl

theorem Balanced.append {left right : Text} {leftNesting rightNesting : Nat}
    (hleft : Balanced context left leftNesting) (hright : Balanced context right rightNesting) :
    Balanced context (left ++ right) (max leftNesting rightNesting) := by
  intro depth hdepth
  rw [List.foldlM_append, hleft depth hdepth]
  split_ifs with hfits hboth hboth
  · exact (hright depth hdepth).trans (if_pos (by omega))
  · exact (hright depth hdepth).trans (if_neg (by omega))
  · omega
  · rfl

/-- A bracket opens one container around what it closes. -/
theorem Balanced.enclose {text : Text} {nesting start close : Nat}
    (hstart : start = '{'.toNat ∨ start = '['.toNat) (hclose : close = '}'.toNat ∨ close = ']'.toNat)
    (h : Balanced context text nesting) :
    Balanced context (start :: (text ++ [close])) (nesting + 1) := by
  have hopening : ∀ depth : Nat, depthStep context ⟨depth, false, false⟩ start =
      if maximumJsonDepth < depth + 1 then .error (tooDeep context)
      else .ok ⟨depth + 1, false, false⟩ := by
    intro depth
    rcases hstart with rfl | rfl
    all_goals rfl
  have hclosing : ∀ depth : Nat, depthStep context ⟨depth + 1, false, false⟩ close =
      .ok ⟨depth, false, false⟩ := by
    intro depth
    rcases hclose with rfl | rfl
    all_goals rfl
  intro depth hdepth
  rw [List.foldlM_cons, hopening]
  split_ifs with hover hfits hfits
  · omega
  · rfl
  · change List.foldlM (depthStep context) ⟨depth + 1, false, false⟩ (text ++ [close]) = _
    rw [List.foldlM_append, h (depth + 1) (by omega), if_pos (by omega)]
    change List.foldlM (depthStep context) ⟨depth + 1, false, false⟩ [close] = _
    rw [List.foldlM_cons, hclosing]
    rfl
  · change List.foldlM (depthStep context) ⟨depth + 1, false, false⟩ (text ++ [close]) = _
    rw [List.foldlM_append, h (depth + 1) (by omega), if_neg (by omega)]
    rfl

theorem balanced_quiet {text : Text} (h : Quiet text) : Balanced context text 0 := by
  induction text with
  | nil => exact Balanced.nil
  | cons point text ih =>
    obtain ⟨hpoint, hrest⟩ := List.forall_mem_cons.mp h
    have hstep : ∀ depth, depthStep context ⟨depth, false, false⟩ point =
        .ok ⟨depth, false, false⟩ := by
      intro depth
      obtain ⟨hquote, hbracket⟩ := hpoint
      simp only [brackets, List.mem_cons, List.not_mem_nil, or_false, not_or] at hbracket
      obtain ⟨hopening, hclosing, hbrace, hend⟩ := hbracket
      unfold quote at hquote
      unfold depthStep
      rw [if_neg Bool.false_ne_true, if_neg hquote, if_neg (not_or.mpr ⟨hbrace, hopening⟩),
        if_neg (fun h => h.1.elim hend hclosing)]
    intro depth hdepth
    rw [List.foldlM_cons, hstep]
    exact ih hrest depth hdepth

/-- Inside a string nothing is opened, and only its closing quote ends it. -/
theorem foldlM_stringBody {body : Text} (h : StringBody body) (depth : Nat) :
    body.foldlM (depthStep context) ⟨depth, true, false⟩ = .ok ⟨depth, true, false⟩ := by
  induction h with
  | nil => rfl
  | plain hquote hescape _ ih =>
    have hstep : depthStep context ⟨depth, true, false⟩ _ = .ok ⟨depth, true, false⟩ :=
      (if_pos rfl).trans ((if_neg Bool.false_ne_true).trans ((if_neg hescape).trans (if_neg hquote)))
    rw [List.foldlM_cons, hstep]
    exact ih
  | escape _ ih => exact ih

theorem balanced_string {body : Text} (h : StringBody body) :
    Balanced context (quote :: (body ++ [quote])) 0 := by
  intro depth hdepth
  rw [List.foldlM_cons]
  change List.foldlM (depthStep context) ⟨depth, true, false⟩ (body ++ [quote]) = _
  rw [List.foldlM_append, foldlM_stringBody h, Nat.add_zero, if_pos hdepth]
  rfl

theorem balanced_frame {text : Text} (h : Frame text) : Balanced context text 0 := by
  induction h with
  | quiet h => exact balanced_quiet h
  | string h => exact balanced_string h
  | append _ _ hleft hright => exact hleft.append hright

/-- What stands around an element opens nothing. -/
theorem Balanced.whole {piece : Piece} {nesting : Nat} (hfront : Frame piece.front)
    (hback : Frame piece.back) (h : Balanced context piece.text nesting) :
    Balanced context piece.whole nesting := by
  have hboth := (balanced_frame hfront).append (h.append (balanced_frame hback))
  rwa [Nat.max_zero, Nat.zero_max] at hboth

/-- The text of a value opens as many containers as the value nests. -/
theorem balanced_spelled {text : Text} {value : JsonValue Text} {calls : List Callback}
    (h : Spelled text value calls) : Balanced context text value.nesting := by
  induction h with
  | atom hframe hatom =>
    cases hatom with
    | null | boolean | integer | string | real | constant => exact balanced_frame hframe
  | array pieces hlead hframes hpieces ih =>
    have hall : Balanced context (pieces.flatMap Piece.whole)
        (JsonValue.nestingItems (pieces.map Piece.value)) := by
      clear hpieces
      induction pieces with
      | nil => exact Balanced.nil
      | cons piece pieces ihPieces =>
        rw [List.forall_mem_cons] at hframes ih
        exact (Balanced.whole hframes.1.1 hframes.1.2 ih.1).append (ihPieces hframes.2 ih.2)
    have hinside := ((balanced_quiet hlead).append hall).enclose (Or.inr rfl) (Or.inr rfl)
    rwa [Nat.zero_max, List.append_assoc] at hinside
  | object members hlead hframes hmembers ih =>
    have hall : Balanced context (members.flatMap fun member => member.2.whole)
        (JsonValue.nestingEntries (members.map fun member => (member.1, member.2.value))) := by
      clear hmembers
      induction members with
      | nil => exact Balanced.nil
      | cons member members ihMembers =>
        rw [List.forall_mem_cons] at hframes ih
        exact (Balanced.whole hframes.1.1 hframes.1.2 ih.1).append (ihMembers hframes.2 ih.2)
    have hinside := ((balanced_quiet hlead).append hall).enclose (Or.inl rfl) (Or.inl rfl)
    rwa [Nat.zero_max, List.append_assoc] at hinside

theorem checkJsonDepth_eq_ok_iff {text : Text} {nesting : Nat} (h : Balanced context text nesting) :
    checkJsonDepth context text = .ok () ↔ nesting ≤ maximumJsonDepth := by
  unfold checkJsonDepth
  rw [h 0 (Nat.zero_le _), Nat.zero_add]
  split_ifs with hfits
  · exact iff_of_true rfl hfits
  · exact iff_of_false (fun heq => nomatch heq) hfits

/-- The depth that the scan finds in the text of a document is that of its value. -/
theorem checkJsonDepth_document {levels : Nat} {text : Text} {value : JsonValue Text}
    {calls : List Callback} (h : (scanDocument levels text).Returns calls value) :
    checkJsonDepth context text = .ok () ↔ value.nesting ≤ maximumJsonDepth := by
  obtain ⟨before, spelling, after, hbefore, hafter, rfl, hspelled⟩ := scanDocument_returns h
  have hwhole : Balanced context (before ++ (spelling ++ after)) value.nesting := by
    have hstart : Balanced context before 0 := balanced_quiet hbefore
    have hall := hstart.append ((balanced_spelled hspelled).append (balanced_quiet hafter))
    rwa [Nat.max_zero, Nat.zero_max] at hall
  exact checkJsonDepth_eq_ok_iff hwhole

/-! ## Depth of bytes -/

/-- A character beyond ASCII ends an escape and does nothing else. -/
def DepthScan.settled (scan : DepthScan) : DepthScan :=
  { scan with escaped := scan.escaped && !scan.inString }

theorem depthStep_of_beyond {scan : DepthScan} {code : Nat} (h : 128 ≤ code) :
    depthStep context scan code = .ok scan.settled := by
  have hquote : code ≠ '"'.toNat := by
    rintro rfl
    exact absurd h (by decide)
  have hescape : code ≠ '\\'.toNat := by
    rintro rfl
    exact absurd h (by decide)
  have hopening : ¬ (code = '{'.toNat ∨ code = '['.toNat) := by
    rintro (rfl | rfl)
    all_goals exact absurd h (by decide)
  have hclosing : ¬ ((code = '}'.toNat ∨ code = ']'.toNat) ∧ 0 < scan.depth) := by
    rintro ⟨rfl | rfl, -⟩
    all_goals exact absurd h (by decide)
  unfold depthStep DepthScan.settled
  rw [if_neg hquote, if_neg hescape, if_neg hquote, if_neg hopening, if_neg hclosing]
  obtain ⟨depth, inString, escaped⟩ := scan
  cases inString with
  | false =>
    rw [if_neg Bool.false_ne_true]
    cases escaped with
    | false => rfl
    | true => rfl
  | true =>
    cases escaped with
    | false => rfl
    | true => rfl

theorem foldlM_beyond {scan : DepthScan} {codes : List Nat} (hcodes : codes ≠ [])
    (h : ∀ code ∈ codes, 128 ≤ code) :
    codes.foldlM (depthStep context) scan = .ok scan.settled := by
  induction codes generalizing scan with
  | nil => exact absurd rfl hcodes
  | cons code codes ih =>
    obtain ⟨hcode, hrest⟩ := List.forall_mem_cons.mp h
    rw [List.foldlM_cons, depthStep_of_beyond hcode]
    cases codes with
    | nil => rfl
    | cons next codes =>
      have hsettled : scan.settled.settled = scan.settled := by
        unfold DepthScan.settled
        obtain ⟨depth, inString, escaped⟩ := scan
        cases inString <;> cases escaped <;> rfl
      exact (ih (List.cons_ne_nil _ _) hrest).trans (congrArg Except.ok hsettled)

/-- The bytes of a character do to the scan what the character does. -/
theorem foldlM_encodePoint (scan : DepthScan) (point : Nat) :
    ((encodePoint point).map UInt8.toNat).foldlM (depthStep context) scan =
      depthStep context scan point := by
  cases Nat.lt_or_ge point 128 with
  | inl hascii =>
    have hbyte : (UInt8.ofNat point).toNat = point := by
      rw [UInt8.toNat_ofNat']
      omega
    have hencode : encodePoint point = [UInt8.ofNat point] :=
      asciiTransparent_encodePoint.ascii point hascii
    rw [hencode, List.map_singleton, hbyte, List.foldlM_cons]
    simp
  | inr hbeyond =>
    rw [depthStep_of_beyond hbeyond]
    apply foldlM_beyond
    · have hnonempty : encodePoint point ≠ [] := asciiTransparent_encodePoint.nonempty point hbeyond
      simpa using hnonempty
    · intro code hcode
      obtain ⟨byte, hbyte, rfl⟩ := List.mem_map.mp hcode
      exact le_toNat_of_mem_encodePoint hbeyond hbyte

theorem foldlM_utf8 (scan : DepthScan) (text : Text) :
    ((text.flatMap encodePoint).map UInt8.toNat).foldlM (depthStep context) scan =
      text.foldlM (depthStep context) scan := by
  induction text generalizing scan with
  | nil => rfl
  | cons point text ih =>
    rw [List.flatMap_cons, List.map_append, List.foldlM_append, foldlM_encodePoint,
      List.foldlM_cons]
    exact bind_congr fun next => ih next

/-- In UTF-8 the scan finds the same depth in the bytes as in the text. -/
theorem checkJsonDepth_utf8 {content : List UInt8} {text : Text} (hutf8 : isUtf8 content = true)
    (h : decodeText content = some text) :
    checkJsonDepth context (content.map UInt8.toNat) = checkJsonDepth context text := by
  unfold checkJsonDepth
  rcases decodeText_of_isUtf8 hutf8 h with rfl | rfl
  · rw [foldlM_utf8]
  · rw [foldlM_utf8]
    rfl

end Depth

/-! ## What is raised -/

section Raised

variable {context : String}

theorem callbackError_eq_none_iff {call : Callback} :
    callbackError context call = none ↔ isRefused call = false ∧ isOverlong call = false := by
  cases call with
  | integer digits => simp [callbackError, isRefused, isOverlong]
  | real value => simp [callbackError, isRefused, isOverlong]
  | constant name => simp [callbackError, isRefused]
  | object keys => simp [callbackError, isRefused, isOverlong]

/-- The first call that raises is an integer exactly when one with too many digits comes
before all that the hooks refuse. -/
theorem findSome?_callbackError (calls : List Callback) :
    (∃ message, calls.findSome? (callbackError context) = some (.value message)) ↔
      ∃ call ∈ calls.takeWhile (fun call => !isRefused call), isOverlong call = true := by
  induction calls with
  | nil => simp
  | cons call calls ih =>
    rw [List.findSome?_cons, List.takeWhile_cons]
    cases call with
    | integer digits =>
      cases hlong : decide (maximumIntegerDigits < digits) with
      | true => simp [callbackError, isRefused, isOverlong, of_decide_eq_true hlong]
      | false => simp [callbackError, isRefused, isOverlong, of_decide_eq_false hlong, ih]
    | real value => simp [callbackError, isRefused, isOverlong, ih]
    | constant name => simp [callbackError, isRefused]
    | object keys =>
      cases hkeys : decide keys.Nodup with
      | true => simp [callbackError, isRefused, isOverlong, of_decide_eq_true hkeys, ih]
      | false => simp [callbackError, isRefused, of_decide_eq_false hkeys]

theorem callbackError_cases {call : Callback} {error : DecodeError}
    (h : callbackError context call = some error) :
    (∃ message, error = .boundary message) ∨ ∃ message, error = .value message := by
  cases call with
  | integer digits =>
    unfold callbackError at h
    dsimp only at h
    split_ifs at h
    cases h
    exact Or.inr ⟨_, rfl⟩
  | real value => cases h
  | constant name =>
    cases h
    exact Or.inl ⟨_, rfl⟩
  | object keys =>
    unfold callbackError at h
    dsimp only at h
    split_ifs at h
    cases h
    exact Or.inl ⟨_, rfl⟩

theorem checkJsonDepth_eq_error {codes : List Nat} {error : DecodeError}
    (h : checkJsonDepth context codes = .error error) : error = tooDeep context := by
  have hfold : ∀ scan : DepthScan, ∀ failure,
      codes.foldlM (depthStep context) scan = .error failure → failure = tooDeep context := by
    clear h
    induction codes with
    | nil => exact fun _ _ heq => nomatch heq
    | cons code codes ih =>
      intro scan failure heq
      rw [List.foldlM_cons] at heq
      cases hstep : depthStep context scan code with
      | ok next =>
        rw [hstep] at heq
        exact ih next failure heq
      | error raised =>
        rw [hstep] at heq
        cases heq
        unfold depthStep at hstep
        split_ifs at hstep
        exact (Except.error.inj hstep).symm
  unfold checkJsonDepth at h
  cases hscan : codes.foldlM (depthStep context) ⟨0, false, false⟩ with
  | ok scan =>
    rw [hscan] at h
    cases h
  | error raised =>
    rw [hscan] at h
    cases h
    exact hfold _ _ hscan

end Raised

/-! ## The boundary -/

/-- What the boundary is to let through: its own error, or a value of bounded depth with
distinct keys and finite numbers. -/
def WithinBoundary : Except DecodeError (JsonValue Text) → Prop
  | .error error => ∃ message, error = .boundary message
  | .ok value => value.nesting ≤ maximumJsonDepth ∧
      (∀ entries, .object entries ∈ value.subvalues → (entries.map Prod.fst).Nodup) ∧
      ∀ number, .real number ∈ value.subvalues → number.isFinite = true

/-- What Python converts as the boundary expects: up to the first call that the hooks
refuse no integer has too many digits, and an accepted text has no real beyond the
doubles and, where its bytes are not UTF-8, no deeper nesting of its own. -/
structure Convertible (context : String) (levels : Nat) (content : List UInt8) (text : Text) :
    Prop where
  integers : ∀ call ∈ (scanDocument levels text).calls.takeWhile (fun call => !isRefused call),
    isOverlong call = false
  accepted : ∀ value, (scanDocument levels text).result = .ok value →
    (∀ call ∈ (scanDocument levels text).calls, isRefused call = false) →
      (∀ number, .real number ∈ (scanDocument levels text).calls → number.isFinite = true) ∧
        (isUtf8 content = false → checkJsonDepth context text = .ok ())

section Loads

variable {context : String} {levels : Nat} {content : List UInt8} {text : Text}

/-- An accepted value keeps the promises that the hooks and the scan of the depth make. -/
theorem withinBoundary_ok_iff {value : JsonValue Text}
    (hdepth : checkJsonDepth context (content.map UInt8.toNat) = .ok ())
    (htext : decodeText content = some text)
    (hresult : (scanDocument levels text).result = .ok value)
    (hcalls : ∀ call ∈ (scanDocument levels text).calls, isRefused call = false) :
    WithinBoundary (.ok value) ↔
      (∀ number, .real number ∈ (scanDocument levels text).calls → number.isFinite = true) ∧
        (isUtf8 content = false → checkJsonDepth context text = .ok ()) := by
  have hreturns : (scanDocument levels text).Returns (scanDocument levels text).calls value :=
    ⟨rfl, hresult⟩
  obtain ⟨_, spelling, _, _, _, _, hspelled⟩ := scanDocument_returns hreturns
  have hconstant : ∀ name, .constant name ∉ (scanDocument levels text).calls :=
    fun name hname => nomatch hcalls _ hname
  have hnesting : value.nesting ≤ maximumJsonDepth ↔
      (isUtf8 content = false → checkJsonDepth context text = .ok ()) := by
    have hdocument : checkJsonDepth context text = .ok () ↔ value.nesting ≤ maximumJsonDepth :=
      checkJsonDepth_document hreturns
    rw [← hdocument]
    cases hutf8 : isUtf8 content with
    | true =>
      rw [← checkJsonDepth_utf8 hutf8 htext]
      exact iff_of_true hdepth fun h => nomatch h
    | false => exact ⟨fun h _ => h, fun h => h rfl⟩
  have hunique : ∀ entries, .object entries ∈ value.subvalues →
      (entries.map Prod.fst).Nodup := by
    intro entries hentries
    have hrefused := hcalls _ (hspelled.object_mem hentries)
    simpa [isRefused] using hrefused
  have hreals : (∀ number, .real number ∈ value.subvalues → number.isFinite = true) ↔
      ∀ number, .real number ∈ (scanDocument levels text).calls → number.isFinite = true :=
    forall_congr' fun number => imp_congr_left (hspelled.real_mem hconstant number)
  unfold WithinBoundary
  dsimp only
  rw [hnesting, hreals]
  exact ⟨fun h => ⟨h.2.2, h.1⟩, fun h => ⟨h.2, hunique, h.1⟩⟩

theorem withinBoundary_loads_iff
    (hdepth : checkJsonDepth context (content.map UInt8.toNat) = .ok ())
    (htext : decodeText content = some text) :
    WithinBoundary (loads context levels text) ↔ Convertible context levels content text := by
  have hfirst : (∃ message, (scanDocument levels text).calls.findSome? (callbackError context) =
      some (.value message)) ↔ ∃ call ∈ (scanDocument levels text).calls.takeWhile
        (fun call => !isRefused call), isOverlong call = true := findSome?_callbackError _
  unfold loads
  cases hraised : (scanDocument levels text).calls.findSome? (callbackError context) with
  | some error =>
    rw [hraised] at hfirst
    obtain ⟨call, hcall, herror⟩ := List.exists_of_findSome?_eq_some hraised
    rcases callbackError_cases herror with ⟨message, rfl⟩ | ⟨message, rfl⟩
    · -- the hooks refuse something, and no integer before it is too long
      have hintegers : ∀ call ∈ (scanDocument levels text).calls.takeWhile
          (fun call => !isRefused call), isOverlong call = false := by
        intro other hother
        cases hlong : isOverlong other with
        | false => rfl
        | true =>
          obtain ⟨_, hvalue⟩ := hfirst.mpr ⟨other, hother, hlong⟩
          cases hvalue
      have hnotAll : ¬ ∀ call ∈ (scanDocument levels text).calls, isRefused call = false := by
        intro hcalls
        have hshort : isOverlong call = false := by
          apply hintegers
          rw [List.takeWhile_eq_self_iff.mpr fun other hother => by rw [hcalls other hother]; rfl]
          exact hcall
        rw [callbackError_eq_none_iff.mpr ⟨hcalls call hcall, hshort⟩] at herror
        cases herror
      exact iff_of_true ⟨message, rfl⟩ ⟨hintegers, fun _ _ hcalls => absurd hcalls hnotAll⟩
    · obtain ⟨other, hother, hlong⟩ := hfirst.mp ⟨message, rfl⟩
      apply iff_of_false
      · rintro ⟨_, heq⟩
        cases heq
      · intro hconvertible
        rw [hconvertible.integers other hother] at hlong
        cases hlong
  | none =>
    have hquiet : ∀ call ∈ (scanDocument levels text).calls,
        isRefused call = false ∧ isOverlong call = false := fun call hcall =>
      callbackError_eq_none_iff.mp (List.findSome?_eq_none_iff.mp hraised call hcall)
    have hcalls := fun call hcall => (hquiet call hcall).1
    have hintegers : ∀ call ∈ (scanDocument levels text).calls.takeWhile
        (fun call => !isRefused call), isOverlong call = false := fun call hcall =>
      (hquiet call ((List.takeWhile_prefix _).subset hcall)).2
    have hends := scanDocument_ends levels text
    unfold Scan.Ends at hends
    cases hresult : (scanDocument levels text).result with
    | ok value =>
      refine (withinBoundary_ok_iff hdepth htext hresult hcalls).trans ⟨fun h => ?_, fun h => ?_⟩
      · exact ⟨hintegers, fun _ _ _ => h⟩
      · exact h.accepted value hresult hcalls
    | error fault =>
      have hconvertible : Convertible context levels content text :=
        ⟨hintegers, fun value hvalue => by
          rw [hresult] at hvalue
          cases hvalue⟩
      cases fault with
      | exhausted => exact absurd hresult hends
      | malformed => exact iff_of_true ⟨_, rfl⟩ hconvertible
      | tooDeep => exact iff_of_true ⟨_, rfl⟩ hconvertible

end Loads

/-- The boundary raises its own error or returns a bounded, finite value without repeated
keys exactly when it refuses the bytes before it decodes them or Python converts the text
as it expects. -/
theorem decode_bounded_json_iff (context : String) (levels : Nat) (content : List UInt8)
    (maximumBytes : Int) :
    WithinBoundary (decodeBoundedJson context levels content maximumBytes) ↔
      content = [] ∨ maximumBytes < content.length ∨
        checkJsonDepth context (content.map UInt8.toNat) ≠ .ok () ∨
        ∀ text, decodeText content = some text → Convertible context levels content text := by
  unfold decodeBoundedJson
  by_cases hsize : content = [] ∨ maximumBytes < content.length
  · rw [if_pos hsize]
    exact iff_of_true ⟨_, rfl⟩ (hsize.imp id Or.inl)
  · rw [if_neg hsize]
    rw [not_or] at hsize
    cases hdepth : checkJsonDepth context (content.map UInt8.toNat) with
    | error error =>
      rw [checkJsonDepth_eq_error hdepth]
      have hrefused : Except.error (tooDeep context) ≠ .ok () := by
        intro hok
        cases hok
      exact iff_of_true ⟨_, rfl⟩ (Or.inr (Or.inr (Or.inl hrefused)))
    | ok result =>
      rw [Foundation.ok_bind, or_iff_right hsize.1, or_iff_right hsize.2, or_iff_right (not_not_intro rfl)]
      cases htext : decodeText content with
      | none =>
        refine iff_of_true ⟨_, rfl⟩ fun _ hnone => ?_
        cases hnone
      | some text =>
        refine (withinBoundary_loads_iff hdepth htext).trans ⟨fun h => ?_, fun h => h text rfl⟩
        intro other hother
        cases hother
        exact h

/-! ## Ways through -/

/-- The code points of a text as UTF-16. -/
def utf16 (text : Text) : List UInt8 :=
  text.flatMap fun point => [UInt8.ofNat (point % 256), UInt8.ofNat (point / 256)]

/-- A string whose first character looks like a quote in UTF-16, and 64 arrays behind it. -/
def hiddenArrays : List UInt8 :=
  utf16 (word "[\"" ++ 0x2200 :: word "\"," ++ List.replicate 64 '['.toNat ++
    List.replicate 65 ']'.toNat)

/-- Whether a value is a real without a finite value. -/
def isInfinite : JsonValue Text → Bool
  | .real number => !number.isFinite
  | _ => false

/-- 1e999 is returned as an infinite number, and brackets behind a hidden quote are not
counted. -/
theorem decode_bounded_json_violated :
    (decodeBoundedJson "artifact" 900 (utf8Bytes "1e999") 5000).map
        (fun value => value.subvalues.any isInfinite) = .ok true ∧
      (decodeBoundedJson "artifact" 900 hiddenArrays 5000).map JsonValue.nesting = .ok 65 := by
  constructor
  · decide +kernel
  · decide +kernel

end CartoSentry.Artifacts
