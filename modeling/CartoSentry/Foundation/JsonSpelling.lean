import CartoSentry.Foundation.JsonScanner
import Mathlib.Data.List.TakeWhile

set_option autoImplicit false

/-!
# The texts of JSON values

How brackets and quotes stand in the text of a scanned value, and what the scanner has
called out for when it returns the value. No scan runs out of steps.
-/

namespace CartoSentry.Foundation.JsonScanner

open Scan (Returns Ends)

/-! ## Texts without containers -/

/-- What may stand between quotes. -/
inductive StringBody : Text → Prop where
  | nil : StringBody []
  | plain {point : Nat} {text : Text} (hquote : point ≠ quote) (hescape : point ≠ backslash)
      (h : StringBody text) : StringBody (point :: text)
  | escape {point : Nat} {text : Text} (h : StringBody text) :
      StringBody (backslash :: point :: text)

def brackets : List Nat := ['['.toNat, ']'.toNat, '{'.toNat, '}'.toNat]

/-- Neither a quote nor a bracket. -/
def Quiet (text : Text) : Prop :=
  ∀ point ∈ text, point ≠ quote ∧ point ∉ brackets

/-- Strings and quiet text. -/
inductive Frame : Text → Prop where
  | quiet {text : Text} (h : Quiet text) : Frame text
  | string {body : Text} (h : StringBody body) : Frame (quote :: (body ++ [quote]))
  | append {left right : Text} (hleft : Frame left) (hright : Frame right) : Frame (left ++ right)

theorem Quiet.nil : Quiet [] :=
  fun _ h => nomatch h

theorem Quiet.append {left right : Text} (hleft : Quiet left) (hright : Quiet right) :
    Quiet (left ++ right) :=
  fun point hpoint => (List.mem_append.mp hpoint).elim (hleft point) (hright point)

theorem Quiet.cons {point : Nat} {text : Text} (hpoint : point ≠ quote ∧ point ∉ brackets)
    (h : Quiet text) : Quiet (point :: text) :=
  List.forall_mem_cons.mpr ⟨hpoint, h⟩

theorem quiet_of_isBlank {point : Nat} (h : isBlank point = true) :
    point ≠ quote ∧ point ∉ brackets := by
  simp only [isBlank, Bool.or_eq_true, beq_iff_eq] at h
  rcases h with ((rfl | rfl) | rfl) | rfl
  all_goals decide

theorem quiet_of_isDigit {point : Nat} (h : isDigit point = true) :
    point ≠ quote ∧ point ∉ brackets := by
  simp only [isDigit, Bool.and_eq_true, decide_eq_true_eq] at h
  have hzero : '0'.toNat = 48 := rfl
  have hnine : '9'.toNat = 57 := rfl
  have hquote : quote = 34 := rfl
  have hbrackets : brackets = [91, 93, 123, 125] := rfl
  rw [hquote, hbrackets]
  refine ⟨by omega, ?_⟩
  simp only [List.mem_cons, List.not_mem_nil, or_false]
  omega

theorem quiet_takeWhile {accepts : Nat → Bool}
    (haccepts : ∀ point, accepts point = true → point ≠ quote ∧ point ∉ brackets) (text : Text) :
    Quiet (text.takeWhile accepts) :=
  fun point hpoint => haccepts point (List.mem_takeWhile_imp hpoint)

theorem skipBlanks_spec (text : Text) : ∃ blanks, Quiet blanks ∧ text = blanks ++ skipBlanks text :=
  ⟨text.takeWhile isBlank, quiet_takeWhile (fun _ => quiet_of_isBlank) text,
    List.takeWhile_append_dropWhile.symm⟩

theorem afterWord_eq_some {text expected rest : Text} (h : afterWord text expected = some rest) :
    text = expected ++ rest := by
  unfold afterWord at h
  split_ifs at h with hstart
  cases h
  exact (List.prefix_iff_eq_append.mp (List.isPrefixOf_iff_prefix.mp hstart)).symm

/-! ## Strings -/

theorem hexDigit?_eq_some {point value : Nat} (h : hexDigit? point = some value) :
    point ≠ quote ∧ point ≠ backslash := by
  constructor
  · rintro rfl
    cases h
  · rintro rfl
    cases h

theorem hexUnit?_eq_some {a b c d unit : Nat} (h : hexUnit? a b c d = some unit) :
    ∀ point ∈ [a, b, c, d], point ≠ quote ∧ point ≠ backslash := by
  obtain ⟨_, hfirst, h⟩ := Option.bind_eq_some_iff.mp h
  obtain ⟨_, hsecond, h⟩ := Option.bind_eq_some_iff.mp h
  obtain ⟨_, hthird, h⟩ := Option.bind_eq_some_iff.mp h
  obtain ⟨_, hfourth, _⟩ := Option.bind_eq_some_iff.mp h
  simp only [List.forall_mem_cons]
  exact ⟨hexDigit?_eq_some hfirst, hexDigit?_eq_some hsecond, hexDigit?_eq_some hthird,
    hexDigit?_eq_some hfourth, List.forall_mem_nil _⟩

theorem scanUnits_eq_some {text rest : Text} {units : List (Nat × Bool)}
    (h : scanUnits text = some (units, rest)) :
    ∃ body, StringBody body ∧ text = body ++ quote :: rest := by
  fun_induction scanUnits text generalizing units rest with
  | case1 => cases h
  | case2 text =>
    cases h
    exact ⟨[], .nil, rfl⟩
  | case3 => cases h
  | case4 hquote a b c d text ih =>
    obtain ⟨unit, hunit, h⟩ := Option.bind_eq_some_iff.mp h
    obtain ⟨⟨others, after⟩, hothers, h⟩ := Option.bind_eq_some_iff.mp h
    cases h
    obtain ⟨body, hbody, rfl⟩ := ih hothers
    have hplain := hexUnit?_eq_some hunit
    simp only [List.forall_mem_cons] at hplain
    obtain ⟨ha, hb, hc, hd, -⟩ := hplain
    exact ⟨_, .escape (.plain ha.1 ha.2 (.plain hb.1 hb.2 (.plain hc.1 hc.2
      (.plain hd.1 hd.2 hbody)))), rfl⟩
  | case5 => cases h
  | case6 hquote escape text hu ih =>
    obtain ⟨unit, _, h⟩ := Option.bind_eq_some_iff.mp h
    obtain ⟨⟨others, after⟩, hothers, h⟩ := Option.bind_eq_some_iff.mp h
    cases h
    obtain ⟨body, hbody, rfl⟩ := ih hothers
    exact ⟨_, .escape hbody, rfl⟩
  | case7 => cases h
  | case8 point text hquote hescape hcontrol ih =>
    obtain ⟨⟨others, after⟩, hothers, h⟩ := Option.bind_eq_some_iff.mp h
    cases h
    obtain ⟨body, hbody, rfl⟩ := ih hothers
    exact ⟨_, .plain hquote hescape hbody, rfl⟩

theorem scanString_returns {text value rest : Text} {calls : List Callback}
    (h : (scanString text).Returns calls (value, rest)) :
    calls = [] ∧ ∃ body, StringBody body ∧ text = body ++ quote :: rest := by
  obtain ⟨⟨units, after⟩, hunits, hvalue⟩ := Scan.returns_bind_ofOption h
  obtain ⟨rfl, hsame⟩ := Scan.returns_pure hvalue
  cases hsame
  exact ⟨rfl, scanUnits_eq_some hunits⟩

/-! ## Numbers and words -/

/-- Digits that are taken, and what follows them. -/
theorem digits_spec (text : Text) :
    Quiet (text.takeWhile isDigit) ∧ text = text.takeWhile isDigit ++ text.dropWhile isDigit :=
  ⟨quiet_takeWhile (fun _ => quiet_of_isDigit) text, List.takeWhile_append_dropWhile.symm⟩

/-- What follows a quiet text. -/
def Follows (rest text : Text) : Prop :=
  ∃ front, Quiet front ∧ text = front ++ rest

theorem Follows.refl (text : Text) : Follows text text :=
  ⟨[], Quiet.nil, rfl⟩

theorem Follows.trans {first second third : Text} (h : Follows second first)
    (hnext : Follows third second) : Follows third first := by
  obtain ⟨front, hfront, rfl⟩ := h
  obtain ⟨middle, hmiddle, rfl⟩ := hnext
  exact ⟨front ++ middle, hfront.append hmiddle, (List.append_assoc _ _ _).symm⟩

theorem Follows.cons {point : Nat} {rest text : Text} (hpoint : point ≠ quote ∧ point ∉ brackets)
    (h : Follows rest text) : Follows rest (point :: text) := by
  obtain ⟨front, hfront, rfl⟩ := h
  exact ⟨point :: front, Quiet.cons hpoint hfront, rfl⟩

theorem follows_skipBlanks (text : Text) : Follows (skipBlanks text) text :=
  skipBlanks_spec text

theorem follows_digits (text : Text) : Follows (text.dropWhile isDigit) text :=
  ⟨_, digits_spec text⟩

theorem follows_scanSign (text : Text) : Follows (scanSign '-'.toNat text).2 text := by
  unfold scanSign
  split
  · exact Follows.refl _
  · split_ifs with hminus
    · exact (Follows.refl _).cons (hminus ▸ by decide)
    · exact Follows.refl _

theorem follows_scanWhole {text digits rest : Text} (h : scanWhole text = some (digits, rest)) :
    Follows rest text := by
  unfold scanWhole at h
  split at h
  · cases h
  · split_ifs at h with hzero hdigit
    · cases h
      exact (Follows.refl _).cons (hzero ▸ by decide)
    · cases h
      exact (follows_digits _).cons (quiet_of_isDigit hdigit)

theorem follows_scanFraction (text : Text) : Follows (scanFraction text).2 text := by
  unfold scanFraction
  split
  · split_ifs with hpoint
    · exact (follows_digits _).cons (hpoint.1 ▸ by decide)
    · exact Follows.refl _
  · exact Follows.refl _

theorem follows_scanExponentSign (text : Text) : Follows (scanExponentSign text).2 text := by
  unfold scanExponentSign
  split
  · split_ifs with hminus hplus
    · exact (Follows.refl _).cons (hminus ▸ by decide)
    · exact (Follows.refl _).cons (hplus ▸ by decide)
    · exact Follows.refl _
  · exact Follows.refl _

theorem follows_scanExponent (text : Text) : Follows (scanExponent text).2 text := by
  unfold scanExponent
  split
  · rename_i point text
    split_ifs with hexponent
    · have hletter : point ≠ quote ∧ point ∉ brackets := by
        rcases hexponent.1 with rfl | rfl
        all_goals decide
      exact ((follows_scanExponentSign text).trans (follows_digits _)).cons hletter
    · exact Follows.refl _
  · exact Follows.refl _

theorem follows_scanNumeral {text rest : Text} {numeral : Numeral}
    (h : scanNumeral text = some (numeral, rest)) : Follows rest text := by
  unfold scanNumeral at h
  obtain ⟨⟨whole, after⟩, hwhole, h⟩ := Option.bind_eq_some_iff.mp h
  cases h
  exact (((follows_scanSign text).trans (follows_scanWhole hwhole)).trans
    (follows_scanFraction after)).trans (follows_scanExponent _)

theorem follows_scanWord {text rest : Text} {entry : String × JsonValue Text × Option String}
    (h : scanWord text = some (entry, rest)) : entry ∈ wordValues ∧ Follows rest text := by
  obtain ⟨found, hfound, hentry⟩ := List.exists_of_findSome?_eq_some h
  obtain ⟨after, hafter, hpair⟩ := Option.map_eq_some_iff.mp hentry
  cases hpair
  refine ⟨hfound, word entry.1, ?_, afterWord_eq_some hafter⟩
  have hquiet : ∀ found ∈ wordValues, ∀ point ∈ word found.1, point ≠ quote ∧ point ∉ brackets := by
    simp only [wordValues, List.forall_mem_cons]
    decide +kernel
  exact hquiet entry hfound

/-! ## Spelled values -/

/-- What is called out for at a value that is no container. -/
inductive Atom : JsonValue Text → List Callback → Prop where
  | null : Atom .null []
  | boolean (value : Bool) : Atom (.boolean value) []
  | integer (value : Int) (digits : Nat) : Atom (.integer value) [.integer digits]
  | real (value : Double) : Atom (.real value) [.real value]
  | constant (value : Double) (name : String) : Atom (.real value) [.constant name]
  | string (text : Text) : Atom (.string text) []

/-- An element of a container with what stands around it. -/
structure Piece where
  front : Text
  text : Text
  back : Text
  value : JsonValue Text
  calls : List Callback

def Piece.whole (piece : Piece) : Text :=
  piece.front ++ (piece.text ++ piece.back)

/-- The text of a value, and what is called out for while it is scanned. -/
inductive Spelled : Text → JsonValue Text → List Callback → Prop where
  | atom {text : Text} {value : JsonValue Text} {calls : List Callback} (hframe : Frame text)
      (hatom : Atom value calls) : Spelled text value calls
  | array {lead : Text} (pieces : List Piece) (hlead : Quiet lead)
      (hframes : ∀ piece ∈ pieces, Frame piece.front ∧ Frame piece.back)
      (hpieces : ∀ piece ∈ pieces, Spelled piece.text piece.value piece.calls) :
      Spelled ('['.toNat :: (lead ++ (pieces.flatMap Piece.whole ++ [']'.toNat])))
        (.array (pieces.map Piece.value)) (pieces.flatMap Piece.calls)
  | object {lead : Text} (members : List (Text × Piece)) (hlead : Quiet lead)
      (hframes : ∀ member ∈ members, Frame member.2.front ∧ Frame member.2.back)
      (hmembers : ∀ member ∈ members,
        Spelled member.2.text member.2.value member.2.calls) :
      Spelled ('{'.toNat :: (lead ++ (members.flatMap (fun member => member.2.whole) ++
          ['}'.toNat])))
        (.object (members.map fun member => (member.1, member.2.value)))
        (members.flatMap (fun member => member.2.calls) ++ [.object (members.map Prod.fst)])

/-- The text of a scanned value stands in front of the rest. -/
def Spells (text rest : Text) (value : JsonValue Text) (calls : List Callback) : Prop :=
  ∃ spelling, text = spelling ++ rest ∧ Spelled spelling value calls

/-- What a scan returns is spelled in front of the rest. -/
def Sound (scan : Text → Scan (JsonValue Text × Text)) : Prop :=
  ∀ text calls value rest, (scan text).Returns calls (value, rest) → Spells text rest value calls

/-! ## Soundness -/

theorem scanDelimiter_eq_some {close : Nat} {text rest : Text} {closed : Bool}
    (h : scanDelimiter close text = some (closed, rest)) :
    ∃ front, Quiet front ∧ rest.length < text.length ∧
      text = front ++ (if closed then close :: rest else rest) := by
  obtain ⟨blanks, hblanks, hsplit⟩ := skipBlanks_spec text
  have hlength := congrArg List.length hsplit
  unfold scanDelimiter at h
  cases hskipped : skipBlanks text with
  | nil =>
    rw [hskipped] at h
    cases h
  | cons point after =>
    rw [hskipped] at h hsplit hlength
    rw [List.length_append, List.length_cons] at hlength
    dsimp only at h
    split_ifs at h with hclose hcomma
    · cases h
      exact ⟨blanks, hblanks, by omega, hclose ▸ hsplit⟩
    · cases h
      obtain ⟨more, hmore, hafter⟩ := skipBlanks_spec after
      have hlengths := congrArg List.length hafter
      rw [List.length_append] at hlengths
      refine ⟨blanks ++ (point :: more), hblanks.append (Quiet.cons (hcomma ▸ by decide) hmore),
        by omega, ?_⟩
      rw [hsplit]
      conv_lhs => rw [hafter]
      simp

theorem scanMark_eq_some {mark : Nat} {text rest : Text}
    (hmark : mark ≠ quote ∧ mark ∉ brackets) (h : scanMark mark text = some rest) :
    Follows rest text := by
  obtain ⟨blanks, hblanks, hsplit⟩ := skipBlanks_spec text
  unfold scanMark at h
  cases hskipped : skipBlanks text with
  | nil =>
    rw [hskipped] at h
    cases h
  | cons point after =>
    rw [hskipped] at h hsplit
    dsimp only at h
    split_ifs at h with hpoint
    cases h
    have hcons : Follows (skipBlanks after) (point :: after) :=
      (follows_skipBlanks after).cons (hpoint ▸ hmark)
    exact Follows.trans ⟨blanks, hblanks, hsplit⟩ hcons

theorem scanKey_returns {text key rest : Text} {calls : List Callback}
    (h : (scanKey text).Returns calls (key, rest)) :
    calls = [] ∧ ∃ front, Frame front ∧ text = front ++ rest := by
  obtain ⟨behind, hquote, hbehind⟩ := Scan.returns_bind_ofOption h
  obtain ⟨⟨found, after⟩, before, later, hstring, hlater, rfl⟩ := Scan.returns_bind hbehind
  obtain ⟨rfl, body, hbody, rfl⟩ := scanString_returns hstring
  obtain ⟨last, hmark, hpure⟩ := Scan.returns_bind_ofOption hlater
  obtain ⟨rfl, hpair⟩ := Scan.returns_pure hpure
  cases hpair
  obtain ⟨middle, hmiddle, rfl⟩ := scanMark_eq_some (by decide) hmark
  refine ⟨rfl, _, .append (.string hbody) (.quiet hmiddle), ?_⟩
  rw [afterWord_eq_some hquote]
  simp

theorem scanAtom_sound : Sound scanAtom := by
  intro text calls value rest h
  unfold scanAtom at h
  split at h
  · rename_i name found after hword
    obtain ⟨hentry, front, hfront, rfl⟩ := follows_scanWord hword
    obtain ⟨rfl, hpair⟩ := Scan.returns_pure h
    cases hpair
    refine ⟨front, rfl, .atom (.quiet hfront) ?_⟩
    simp only [wordValues, List.mem_cons, Prod.mk.injEq, reduceCtorEq, and_false, or_false,
      List.not_mem_nil] at hentry
    rcases hentry with ⟨-, rfl, -⟩ | ⟨-, rfl, -⟩ | ⟨-, rfl, -⟩
    · exact .null
    · exact .boolean true
    · exact .boolean false
  · rename_i found value' name after hword
    obtain ⟨hentry, front, hfront, rfl⟩ := follows_scanWord hword
    obtain ⟨later, hpure, rfl⟩ := Scan.returns_bind_call h
    obtain ⟨rfl, hpair⟩ := Scan.returns_pure hpure
    cases hpair
    refine ⟨front, rfl, .atom (.quiet hfront) ?_⟩
    simp only [wordValues, List.mem_cons, Prod.mk.injEq, reduceCtorEq, and_false, false_or,
      or_false, List.not_mem_nil] at hentry
    rcases hentry with ⟨-, rfl, -⟩ | ⟨-, rfl, -⟩ | ⟨-, rfl, -⟩
    all_goals exact .constant _ _
  · obtain ⟨⟨numeral, after⟩, hnumeral, hlater⟩ := Scan.returns_bind_ofOption h
    obtain ⟨front, hfront, rfl⟩ := follows_scanNumeral hnumeral
    dsimp only at hlater
    split_ifs at hlater
    · obtain ⟨last, hpure, rfl⟩ := Scan.returns_bind_call hlater
      obtain ⟨rfl, hpair⟩ := Scan.returns_pure hpure
      cases hpair
      exact ⟨front, rfl, .atom (.quiet hfront) (.real _)⟩
    · obtain ⟨last, hpure, rfl⟩ := Scan.returns_bind_call hlater
      obtain ⟨rfl, hpair⟩ := Scan.returns_pure hpure
      cases hpair
      exact ⟨front, rfl, .atom (.quiet hfront) (.integer _ _)⟩

/-! ### Containers -/

section Containers

variable {scanItem : Text → Scan (JsonValue Text × Text)}

/-- The elements of an array stand in front of its bracket. -/
theorem scanItems_returns (hitem : Sound scanItem) {steps : Nat} {text rest : Text}
    {items : List (JsonValue Text)} {calls : List Callback}
    (h : (scanItems scanItem steps text).Returns calls (items, rest)) :
    ∃ pieces : List Piece, items = pieces.map Piece.value ∧ calls = pieces.flatMap Piece.calls ∧
      text = pieces.flatMap Piece.whole ++ ']'.toNat :: rest ∧
      ∀ piece ∈ pieces, (Frame piece.front ∧ Frame piece.back) ∧
        Spelled piece.text piece.value piece.calls := by
  induction steps generalizing text items calls with
  | zero => exact absurd h Scan.not_returns_fail
  | succ steps ih =>
    obtain ⟨⟨item, behind⟩, before, later, hfirst, hlater, rfl⟩ := Scan.returns_bind h
    obtain ⟨spelling, rfl, hspelled⟩ := hitem _ _ _ _ hfirst
    obtain ⟨⟨closed, after⟩, hdelimiter, hnext⟩ := Scan.returns_bind_ofOption hlater
    obtain ⟨back, hback, -, rfl⟩ := scanDelimiter_eq_some hdelimiter
    dsimp only at hnext
    have hpiece : (Frame [] ∧ Frame back) ∧ Spelled spelling item before :=
      ⟨⟨.quiet Quiet.nil, .quiet hback⟩, hspelled⟩
    cases closed with
    | true =>
      obtain ⟨rfl, hpair⟩ := Scan.returns_pure hnext
      cases hpair
      refine ⟨[⟨[], spelling, back, item, before⟩], rfl, by simp, by simp [Piece.whole], ?_⟩
      intro piece hmem
      cases List.mem_singleton.mp hmem
      exact hpiece
    | false =>
      obtain ⟨⟨others, last⟩, middle, final, hrest, hpure, rfl⟩ := Scan.returns_bind hnext
      obtain ⟨rfl, hpair⟩ := Scan.returns_pure hpure
      cases hpair
      obtain ⟨pieces, rfl, rfl, htext, hpieces⟩ := ih hrest
      refine ⟨⟨[], spelling, back, item, before⟩ :: pieces, rfl, by simp, ?_, ?_⟩
      · rw [List.flatMap_cons, if_neg Bool.false_ne_true, htext]
        simp [Piece.whole]
      · exact List.forall_mem_cons.mpr ⟨hpiece, hpieces⟩

theorem scanArray_returns (hitem : Sound scanItem) {text rest : Text} {value : JsonValue Text}
    {calls : List Callback} (h : (scanArray scanItem text).Returns calls (value, rest)) :
    Spells ('['.toNat :: text) rest value calls := by
  obtain ⟨blanks, hblanks, hsplit⟩ := skipBlanks_spec text
  unfold scanArray at h
  split at h
  · rename_i after hclose
    obtain ⟨rfl, hpair⟩ := Scan.returns_pure h
    cases hpair
    rw [afterWord_eq_some hclose] at hsplit
    refine ⟨_, ?_, .array [] hblanks (List.forall_mem_nil _) (List.forall_mem_nil _)⟩
    rw [hsplit]
    simp
  · obtain ⟨⟨items, after⟩, before, later, hitems, hpure, rfl⟩ := Scan.returns_bind h
    obtain ⟨rfl, hpair⟩ := Scan.returns_pure hpure
    cases hpair
    obtain ⟨pieces, rfl, rfl, htext, hpieces⟩ := scanItems_returns hitem hitems
    rw [List.append_nil]
    refine ⟨_, ?_, .array pieces hblanks (fun piece hmem => (hpieces piece hmem).1)
      (fun piece hmem => (hpieces piece hmem).2)⟩
    rw [hsplit, htext]
    simp

/-- The members of an object stand in front of its brace. -/
theorem scanMembers_returns (hitem : Sound scanItem) {steps : Nat} {text rest : Text}
    {members : List (Text × JsonValue Text)} {calls : List Callback}
    (h : (scanMembers scanItem steps text).Returns calls (members, rest)) :
    ∃ pieces : List (Text × Piece), members = pieces.map (fun piece => (piece.1, piece.2.value)) ∧
      calls = pieces.flatMap (fun piece => piece.2.calls) ∧
      text = pieces.flatMap (fun piece => piece.2.whole) ++ '}'.toNat :: rest ∧
      ∀ piece ∈ pieces, (Frame piece.2.front ∧ Frame piece.2.back) ∧
        Spelled piece.2.text piece.2.value piece.2.calls := by
  induction steps generalizing text members calls with
  | zero => exact absurd h Scan.not_returns_fail
  | succ steps ih =>
    obtain ⟨⟨key, start⟩, keyCalls, _, hkey, hstart, rfl⟩ := Scan.returns_bind h
    obtain ⟨rfl, front, hfront, rfl⟩ := scanKey_returns hkey
    obtain ⟨⟨item, behind⟩, before, later, hfirst, hlater, rfl⟩ := Scan.returns_bind hstart
    obtain ⟨spelling, rfl, hspelled⟩ := hitem _ _ _ _ hfirst
    obtain ⟨⟨closed, after⟩, hdelimiter, hnext⟩ := Scan.returns_bind_ofOption hlater
    obtain ⟨back, hback, -, rfl⟩ := scanDelimiter_eq_some hdelimiter
    dsimp only at hnext
    have hpiece : (Frame front ∧ Frame back) ∧ Spelled spelling item before :=
      ⟨⟨hfront, .quiet hback⟩, hspelled⟩
    cases closed with
    | true =>
      obtain ⟨rfl, hpair⟩ := Scan.returns_pure hnext
      cases hpair
      refine ⟨[(key, ⟨front, spelling, back, item, before⟩)], rfl, by simp,
        by simp [Piece.whole], ?_⟩
      intro piece hmem
      cases List.mem_singleton.mp hmem
      exact hpiece
    | false =>
      obtain ⟨⟨others, last⟩, middle, final, hrest, hpure, rfl⟩ := Scan.returns_bind hnext
      obtain ⟨rfl, hpair⟩ := Scan.returns_pure hpure
      cases hpair
      obtain ⟨pieces, rfl, rfl, htext, hpieces⟩ := ih hrest
      refine ⟨(key, ⟨front, spelling, back, item, before⟩) :: pieces, rfl, by simp, ?_, ?_⟩
      · rw [List.flatMap_cons, if_neg Bool.false_ne_true, htext]
        simp [Piece.whole]
      · exact List.forall_mem_cons.mpr ⟨hpiece, hpieces⟩

theorem scanObject_returns (hitem : Sound scanItem) {text rest : Text} {value : JsonValue Text}
    {calls : List Callback} (h : (scanObject scanItem text).Returns calls (value, rest)) :
    Spells ('{'.toNat :: text) rest value calls := by
  obtain ⟨blanks, hblanks, hsplit⟩ := skipBlanks_spec text
  unfold scanObject at h
  split at h
  · rename_i after hclose
    obtain ⟨later, hpure, rfl⟩ := Scan.returns_bind_call h
    obtain ⟨rfl, hpair⟩ := Scan.returns_pure hpure
    cases hpair
    rw [afterWord_eq_some hclose] at hsplit
    refine ⟨_, ?_, .object [] hblanks (List.forall_mem_nil _) (List.forall_mem_nil _)⟩
    rw [hsplit]
    simp
  · obtain ⟨⟨members, after⟩, before, later, hmembers, hlater, rfl⟩ := Scan.returns_bind h
    obtain ⟨last, hpure, rfl⟩ := Scan.returns_bind_call hlater
    obtain ⟨rfl, hpair⟩ := Scan.returns_pure hpure
    cases hpair
    obtain ⟨pieces, rfl, rfl, htext, hpieces⟩ := scanMembers_returns hitem hmembers
    have hkeys : (pieces.map fun piece => (piece.1, piece.2.value)).map Prod.fst =
        pieces.map Prod.fst := by
      rw [List.map_map]
      rfl
    rw [hkeys]
    refine ⟨_, ?_, .object pieces hblanks (fun piece hmem => (hpieces piece hmem).1)
      (fun piece hmem => (hpieces piece hmem).2)⟩
    rw [hsplit, htext]
    simp

end Containers

theorem scanOnce_sound {scanObject scanArray : Text → Scan (JsonValue Text × Text)}
    (hobject : ∀ text calls value rest, (scanObject text).Returns calls (value, rest) →
      Spells ('{'.toNat :: text) rest value calls)
    (harray : ∀ text calls value rest, (scanArray text).Returns calls (value, rest) →
      Spells ('['.toNat :: text) rest value calls) : Sound (scanOnce scanObject scanArray) := by
  intro text calls value rest h
  cases text with
  | nil => exact absurd h Scan.not_returns_fail
  | cons point text =>
    unfold scanOnce at h
    dsimp only at h
    split_ifs at h with hquote hbrace hbracket
    · obtain ⟨⟨read, after⟩, before, later, hstring, hpure, rfl⟩ := Scan.returns_bind h
      obtain ⟨rfl, body, hbody, rfl⟩ := scanString_returns hstring
      obtain ⟨rfl, hpair⟩ := Scan.returns_pure hpure
      cases hpair
      refine ⟨quote :: (body ++ [quote]), ?_, .atom (.string hbody) (.string read)⟩
      rw [hquote]
      simp
    · rw [hbrace]
      exact hobject text calls value rest h
    · rw [hbracket]
      exact harray text calls value rest h
    · exact scanAtom_sound _ _ _ _ h

/-- A scanned value is spelled in front of the rest. -/
theorem scanValue_sound (levels : Nat) : Sound (scanValue levels) := by
  induction levels with
  | zero =>
    exact scanOnce_sound (fun _ _ _ _ h => absurd h Scan.not_returns_fail)
      (fun _ _ _ _ h => absurd h Scan.not_returns_fail)
  | succ levels ih =>
    exact scanOnce_sound (fun _ _ _ _ h => scanObject_returns ih h)
      (fun _ _ _ _ h => scanArray_returns ih h)

/-- A document is a spelled value between blanks. -/
theorem scanDocument_returns {levels : Nat} {text : Text} {value : JsonValue Text}
    {calls : List Callback} (h : (scanDocument levels text).Returns calls value) :
    ∃ before spelling after, Quiet before ∧ Quiet after ∧ text = before ++ (spelling ++ after) ∧
      Spelled spelling value calls := by
  obtain ⟨blanks, hblanks, hsplit⟩ := skipBlanks_spec text
  obtain ⟨⟨found, rest⟩, first, later, hvalue, hend, rfl⟩ := Scan.returns_bind h
  obtain ⟨spelling, hspelling, hspelled⟩ := scanValue_sound levels _ _ _ _ hvalue
  obtain ⟨after, hafter, hrest⟩ := skipBlanks_spec rest
  dsimp only at hend
  split_ifs at hend with hempty
  · obtain ⟨rfl, rfl⟩ := Scan.returns_pure hend
    rw [hempty, List.append_nil] at hrest
    rw [List.append_nil]
    exact ⟨blanks, spelling, after, hblanks, hafter, by rw [hsplit, hspelling, hrest], hspelled⟩
  · exact absurd hend Scan.not_returns_fail

/-! ## Termination -/

theorem Spells.length_le {text rest : Text} {value : JsonValue Text} {calls : List Callback}
    (h : Spells text rest value calls) : rest.length ≤ text.length := by
  obtain ⟨spelling, rfl, -⟩ := h
  rw [List.length_append]
  omega

section Termination

variable {scanItem : Text → Scan (JsonValue Text × Text)}

theorem scanString_ends (text : Text) : (scanString text).Ends :=
  Scan.ends_bind_ofOption fun _ _ => Scan.ends_pure _

theorem scanKey_ends (text : Text) : (scanKey text).Ends :=
  Scan.ends_bind_ofOption fun behind _ =>
    Scan.ends_bind (scanString_ends behind) fun _ _ _ =>
      Scan.ends_bind_ofOption fun _ _ => Scan.ends_pure _

/-- Each element uses up characters, so that as many steps as characters are enough. -/
theorem scanItems_ends (hitem : Sound scanItem) (hends : ∀ text, (scanItem text).Ends)
    {steps : Nat} {text : Text} (hsteps : text.length < steps) :
    (scanItems scanItem steps text).Ends := by
  induction steps generalizing text with
  | zero => omega
  | succ steps ih =>
    refine Scan.ends_bind (hends text) fun calls first hfirst => ?_
    have hlength := (hitem _ _ _ _ hfirst).length_le
    refine Scan.ends_bind_ofOption fun delimiter hdelimiter => ?_
    obtain ⟨closed, rest⟩ := delimiter
    obtain ⟨_, _, hshorter, _⟩ := scanDelimiter_eq_some hdelimiter
    cases closed with
    | true => exact Scan.ends_pure _
    | false => exact Scan.ends_bind (ih (by omega)) fun _ _ _ => Scan.ends_pure _

theorem scanMembers_ends (hitem : Sound scanItem) (hends : ∀ text, (scanItem text).Ends)
    {steps : Nat} {text : Text} (hsteps : text.length < steps) :
    (scanMembers scanItem steps text).Ends := by
  induction steps generalizing text with
  | zero => omega
  | succ steps ih =>
    refine Scan.ends_bind (scanKey_ends text) fun calls key hkey => ?_
    obtain ⟨_, front, _, hfront⟩ := scanKey_returns hkey
    have hkeyLength := congrArg List.length hfront
    rw [List.length_append] at hkeyLength
    refine Scan.ends_bind (hends _) fun calls first hfirst => ?_
    have hlength := (hitem _ _ _ _ hfirst).length_le
    refine Scan.ends_bind_ofOption fun delimiter hdelimiter => ?_
    obtain ⟨closed, rest⟩ := delimiter
    obtain ⟨_, _, hshorter, _⟩ := scanDelimiter_eq_some hdelimiter
    cases closed with
    | true => exact Scan.ends_pure _
    | false => exact Scan.ends_bind (ih (by omega)) fun _ _ _ => Scan.ends_pure _

theorem length_skipBlanks_le (text : Text) : (skipBlanks text).length ≤ text.length :=
  (List.dropWhile_suffix _).length_le

theorem scanArray_ends (hitem : Sound scanItem) (hends : ∀ text, (scanItem text).Ends)
    (text : Text) : (scanArray scanItem text).Ends := by
  have hlength := length_skipBlanks_le text
  unfold scanArray
  split
  · exact Scan.ends_pure _
  · exact Scan.ends_bind (scanItems_ends hitem hends (by omega)) fun _ _ _ => Scan.ends_pure _

theorem scanObject_ends (hitem : Sound scanItem) (hends : ∀ text, (scanItem text).Ends)
    (text : Text) : (scanObject scanItem text).Ends := by
  have hlength := length_skipBlanks_le text
  unfold scanObject
  split
  · exact Scan.ends_bind (Scan.ends_call _) fun _ _ _ => Scan.ends_pure _
  · exact Scan.ends_bind (scanMembers_ends hitem hends (by omega)) fun _ _ _ =>
      Scan.ends_bind (Scan.ends_call _) fun _ _ _ => Scan.ends_pure _

theorem scanAtom_ends (text : Text) : (scanAtom text).Ends := by
  unfold scanAtom
  split
  · exact Scan.ends_pure _
  · exact Scan.ends_bind (Scan.ends_call _) fun _ _ _ => Scan.ends_pure _
  · refine Scan.ends_bind_ofOption fun read _ => ?_
    dsimp only
    split_ifs
    · exact Scan.ends_bind (Scan.ends_call _) fun _ _ _ => Scan.ends_pure _
    · exact Scan.ends_bind (Scan.ends_call _) fun _ _ _ => Scan.ends_pure _

theorem scanOnce_ends {scanObject scanArray : Text → Scan (JsonValue Text × Text)}
    (hobject : ∀ text, (scanObject text).Ends) (harray : ∀ text, (scanArray text).Ends)
    (text : Text) : (scanOnce scanObject scanArray text).Ends := by
  cases text with
  | nil => exact Scan.ends_fail (by decide)
  | cons point text =>
    unfold scanOnce
    dsimp only
    split_ifs
    · exact Scan.ends_bind (scanString_ends text) fun _ _ _ => Scan.ends_pure _
    · exact hobject text
    · exact harray text
    · exact scanAtom_ends _

end Termination

theorem scanValue_ends (levels : Nat) (text : Text) : (scanValue levels text).Ends := by
  induction levels generalizing text with
  | zero =>
    exact scanOnce_ends (fun _ => Scan.ends_fail (by decide)) (fun _ => Scan.ends_fail (by decide))
      text
  | succ levels ih =>
    exact scanOnce_ends (scanObject_ends (scanValue_sound levels) ih)
      (scanArray_ends (scanValue_sound levels) ih) text

/-- No document is left for want of steps. -/
theorem scanDocument_ends (levels : Nat) (text : Text) : (scanDocument levels text).Ends := by
  refine Scan.ends_bind (scanValue_ends levels _) fun calls found _ => ?_
  dsimp only
  split_ifs
  · exact Scan.ends_pure _
  · exact Scan.ends_fail (by decide)

/-! ## What has been called out for -/

/-- Without constants the reals of a value are those called out for. -/
theorem Spelled.real_mem {text : Text} {value : JsonValue Text} {calls : List Callback}
    (h : Spelled text value calls) (hconstant : ∀ name, .constant name ∉ calls) (number : Double) :
    .real number ∈ value.subvalues ↔ .real number ∈ calls := by
  induction h with
  | atom hframe hatom =>
    cases hatom with
    | null | boolean | integer | string => simp [JsonValue.subvalues]
    | real value => simp [JsonValue.subvalues]
    | constant value name => exact absurd (List.mem_singleton_self _) (hconstant name)
  | array pieces hlead hframes hpieces ih =>
    have hpiece : ∀ piece ∈ pieces, (.real number ∈ piece.value.subvalues ↔
        .real number ∈ piece.calls) := fun piece hmem =>
      ih piece hmem fun name hname => hconstant name (List.mem_flatMap.mpr ⟨piece, hmem, hname⟩)
    rw [JsonValue.subvalues, List.mem_cons, JsonValue.mem_subvaluesItems, List.mem_flatMap,
      or_iff_right (fun heq => nomatch heq)]
    simp only [List.mem_map, exists_exists_and_eq_and]
    exact exists_congr fun piece => and_congr_right fun hmem => hpiece piece hmem
  | object members hlead hframes hmembers ih =>
    have hmember : ∀ member ∈ members, (.real number ∈ member.2.value.subvalues ↔
        .real number ∈ member.2.calls) := fun member hmem =>
      ih member hmem fun name hname => hconstant name
        (List.mem_append_left _ (List.mem_flatMap.mpr ⟨member, hmem, hname⟩))
    have hobject : .real number ∉ [Callback.object (members.map Prod.fst)] := by simp
    rw [JsonValue.subvalues, List.mem_cons, JsonValue.mem_subvaluesEntries, List.mem_append,
      List.mem_flatMap, or_iff_right (fun heq => nomatch heq), or_iff_left hobject]
    simp only [List.mem_map, exists_exists_and_eq_and]
    exact exists_congr fun member => and_congr_right fun hmem => hmember member hmem

/-- Every object of a value is called out for with its keys. -/
theorem Spelled.object_mem {text : Text} {value : JsonValue Text} {calls : List Callback}
    (h : Spelled text value calls) {entries : List (Text × JsonValue Text)}
    (hentries : .object entries ∈ value.subvalues) :
    .object (entries.map Prod.fst) ∈ calls := by
  induction h with
  | atom hframe hatom =>
    cases hatom with
    | null | boolean | integer | string | real | constant =>
      simp [JsonValue.subvalues] at hentries
  | array pieces hlead hframes hpieces ih =>
    rw [JsonValue.subvalues, List.mem_cons, JsonValue.mem_subvaluesItems] at hentries
    rcases hentries with heq | ⟨item, hitem, hmem⟩
    · cases heq
    · obtain ⟨piece, hpiece, rfl⟩ := List.mem_map.mp hitem
      exact List.mem_flatMap.mpr ⟨piece, hpiece, ih piece hpiece hmem⟩
  | object members hlead hframes hmembers ih =>
    rw [JsonValue.subvalues, List.mem_cons, JsonValue.mem_subvaluesEntries] at hentries
    rw [List.mem_append]
    rcases hentries with heq | ⟨entry, hentry, hmem⟩
    · cases heq
      right
      rw [List.map_map]
      exact List.mem_singleton_self _
    · obtain ⟨member, hmember, rfl⟩ := List.mem_map.mp hentry
      exact Or.inl (List.mem_flatMap.mpr ⟨member, hmember, ih member hmember hmem⟩)

end CartoSentry.Foundation.JsonScanner
