import Mathlib.Algebra.Order.Group.Int
import Mathlib.Data.List.Pairwise
import Mathlib.Logic.Relation
import Mathlib.Tactic.SplitIfs

set_option autoImplicit false

/-!
# Groups of intervals apart

Intervals in the order of their starts, numbered by a sweep that keeps the end reached so
far: the number goes up where an interval starts more than a gap after that end.  Equal
numbers are the connected components of the intervals that are near each other.
-/

namespace CartoSentry.Foundation

variable {A : Type} (gap : Int) (start finish : A → Int) (number : A → Nat)

/-- The numbers are those of a sweep that is in a group and has reached an end. -/
def SweptFrom : Nat → Int → List A → Prop
  | _, _, [] => True
  | group, reached, a :: rest =>
      number a = (if reached + gap < start a then group + 1 else group) ∧
        SweptFrom (number a) (max reached (finish a)) rest

/-- The numbers are those of a sweep from the first interval on. -/
def Swept : List A → Prop
  | [] => True
  | a :: rest => number a = 0 ∧ SweptFrom gap start finish number (number a) (finish a) rest

/-- The intervals overlap, or the gap between them is not exceeded. -/
def Near (a b : A) : Prop :=
  start a ≤ finish b + gap ∧ start b ≤ finish a + gap

/-- A chain of the items, each near the next one. -/
def Chained (items : List A) : A → A → Prop :=
  Relation.ReflTransGen fun a b => a ∈ items ∧ b ∈ items ∧ Near gap start finish a b

variable {gap start finish number} {items : List A}

theorem Chained.symm {a b : A} (h : Chained gap start finish items a b) :
    Chained gap start finish items b a := by
  induction h with
  | refl => exact .refl
  | tail _ hlink ih =>
    obtain ⟨hb, hc, hnear⟩ := hlink
    exact .head ⟨hc, hb, hnear.2, hnear.1⟩ ih

namespace SweptFrom

variable {group : Nat} {reached : Int} {rest : List A}

theorem le_number (h : SweptFrom gap start finish number group reached rest) :
    ∀ a ∈ rest, group ≤ number a := by
  induction rest generalizing group reached with
  | nil => exact fun a ha => nomatch ha
  | cons a rest ih =>
    obtain ⟨hnumber, hrest⟩ := h
    have hfirst : group ≤ number a := by
      rw [hnumber]
      split_ifs
      · exact Nat.le_succ group
      · exact le_rfl
    exact List.forall_mem_cons.mpr ⟨hfirst, fun b hb => hfirst.trans (ih hrest b hb)⟩

/-- A later group starts beyond the gap. -/
theorem lt_start (h : SweptFrom gap start finish number group reached rest)
    (hsorted : rest.Pairwise fun a b => start a ≤ start b) :
    ∀ a ∈ rest, group < number a → reached + gap < start a := by
  induction rest generalizing group reached with
  | nil => exact fun a ha => nomatch ha
  | cons a rest ih =>
    obtain ⟨hnumber, hrest⟩ := h
    obtain ⟨hfirst, hsorted⟩ := List.pairwise_cons.mp hsorted
    by_cases hapart : reached + gap < start a
    · exact List.forall_mem_cons.mpr
        ⟨fun _ => hapart, fun b hb _ => hapart.trans_le (hfirst b hb)⟩
    · rw [if_neg hapart] at hnumber
      refine List.forall_mem_cons.mpr ⟨fun hlater => absurd hlater (hnumber ▸ lt_irrefl _), ?_⟩
      intro b hb hlater
      have hbeyond := ih hrest hsorted b hb (hnumber.symm ▸ hlater)
      omega

/-- No number is left out. -/
theorem exists_number (h : SweptFrom gap start finish number group reached rest) :
    ∀ b ∈ rest, ∀ n, group < n → n ≤ number b → ∃ a ∈ rest, number a = n := by
  induction rest generalizing group reached with
  | nil => exact fun b hb => nomatch hb
  | cons a rest ih =>
    obtain ⟨hnumber, hrest⟩ := h
    intro b hb n hgroup hle
    by_cases hfirst : number a = n
    · exact ⟨a, List.mem_cons_self, hfirst⟩
    have hbefore : number a < n := by
      split_ifs at hnumber
      · omega
      · omega
    cases hb with
    | head => exact absurd hbefore (not_lt.mpr hle)
    | tail _ hb =>
      obtain ⟨c, hc, hcn⟩ := ih hrest b hb n hbefore hle
      exact ⟨c, List.mem_cons_of_mem _ hc, hcn⟩

/-- The rest of the group is chained to the interval that reaches its end, and every later
group is chained in itself. -/
theorem chained (h : SweptFrom gap start finish number group reached rest) (hgap : 0 ≤ gap)
    (hsorted : rest.Pairwise fun a b => start a ≤ start b)
    (hforward : ∀ a ∈ rest, start a ≤ finish a) (hrest : ∀ a ∈ rest, a ∈ items) {last : A}
    (hlast : last ∈ items) (hreached : finish last = reached)
    (hbefore : ∀ a ∈ rest, start last ≤ start a) :
    (∀ a ∈ rest, number a = group → Chained gap start finish items last a) ∧
      ∀ a ∈ rest, ∀ b ∈ rest, number a = number b → Chained gap start finish items a b := by
  induction rest generalizing group reached last with
  | nil => exact ⟨(fun a ha => nomatch ha), fun a ha => nomatch ha⟩
  | cons a rest ih =>
    obtain ⟨hnumber, hswept⟩ := h
    obtain ⟨hfirst, hsorted⟩ := List.pairwise_cons.mp hsorted
    obtain ⟨haForward, hforward⟩ := List.forall_mem_cons.mp hforward
    obtain ⟨ha, hrest⟩ := List.forall_mem_cons.mp hrest
    obtain ⟨haBefore, hbefore⟩ := List.forall_mem_cons.mp hbefore
    -- What is chained to the first interval decides both parts.
    have hjoin (hsame : ∀ b ∈ rest, number b = number a → Chained gap start finish items a b)
        (hpairs : ∀ b ∈ rest, ∀ c ∈ rest, number b = number c →
          Chained gap start finish items b c) :
        ∀ b ∈ a :: rest, ∀ c ∈ a :: rest, number b = number c →
          Chained gap start finish items b c := by
      rw [List.forall_mem_cons]
      refine ⟨List.forall_mem_cons.mpr ⟨fun _ => .refl, fun c hc heq => hsame c hc heq.symm⟩, ?_⟩
      intro b hb
      exact List.forall_mem_cons.mpr ⟨fun heq => (hsame b hb heq).symm, hpairs b hb⟩
    by_cases hapart : reached + gap < start a
    · rw [if_pos hapart] at hnumber
      have hend : finish a = max reached (finish a) := by omega
      obtain ⟨hsame, hpairs⟩ := ih hswept hsorted hforward hrest ha hend hfirst
      refine ⟨?_, hjoin hsame hpairs⟩
      intro b hb hgroup
      have hle : number a ≤ number b := by
        cases hb with
        | head => exact le_rfl
        | tail _ hb => exact hswept.le_number b hb
      omega
    · rw [if_neg hapart] at hnumber
      have hnear : Near gap start finish last a := ⟨by omega, by omega⟩
      have hlink : Chained gap start finish items last a := .single ⟨hlast, ha, hnear⟩
      rcases le_total (finish a) reached with hle | hge
      · have hend : finish last = max reached (finish a) := by omega
        obtain ⟨hsame, hpairs⟩ := ih hswept hsorted hforward hrest hlast hend hbefore
        have hfromFirst : ∀ b ∈ rest, number b = number a → Chained gap start finish items a b :=
          fun b hb heq => hlink.symm.trans (hsame b hb heq)
        refine ⟨List.forall_mem_cons.mpr ⟨fun _ => hlink, ?_⟩, hjoin hfromFirst hpairs⟩
        exact fun b hb heq => hsame b hb (heq.trans hnumber.symm)
      · have hend : finish a = max reached (finish a) := by omega
        obtain ⟨hsame, hpairs⟩ := ih hswept hsorted hforward hrest ha hend hfirst
        refine ⟨List.forall_mem_cons.mpr ⟨fun _ => hlink, ?_⟩, hjoin hsame hpairs⟩
        exact fun b hb heq => hlink.trans (hsame b hb (heq.trans hnumber.symm))

/-- Of two intervals in order, the later one has no lower number, and starts beyond the gap
where it has a higher one. -/
theorem pairwise (h : SweptFrom gap start finish number group reached rest)
    (hsorted : rest.Pairwise fun a b => start a ≤ start b) :
    rest.Pairwise fun a b =>
      number a ≤ number b ∧ (number a < number b → finish a + gap < start b) := by
  induction rest generalizing group reached with
  | nil => exact .nil
  | cons a rest ih =>
    obtain ⟨hnumber, hrest⟩ := h
    obtain ⟨hfirst, hsorted⟩ := List.pairwise_cons.mp hsorted
    refine List.pairwise_cons.mpr ⟨?_, ih hrest hsorted⟩
    intro b hb
    refine ⟨hrest.le_number b hb, ?_⟩
    intro hlater
    have hbeyond := hrest.lt_start hsorted b hb hlater
    omega

end SweptFrom

namespace Swept

variable (h : Swept gap start finish number items)
  (hsorted : items.Pairwise fun a b => start a ≤ start b)

include h hsorted

/-- A higher number starts beyond the gap. -/
theorem lt_start {a b : A} (ha : a ∈ items) (hb : b ∈ items) (hlt : number a < number b) :
    finish a + gap < start b := by
  have hpairs : items.Pairwise fun a b =>
      number a ≤ number b ∧ (number a < number b → finish a + gap < start b) := by
    cases items with
    | nil => exact .nil
    | cons first rest =>
      refine List.pairwise_cons.mpr ⟨?_, h.2.pairwise (List.pairwise_cons.mp hsorted).2⟩
      exact fun b hb => ⟨h.2.le_number b hb,
        fun hlater => h.2.lt_start (List.pairwise_cons.mp hsorted).2 b hb hlater⟩
  have hboth : items.Pairwise fun a b =>
      (number a < number b → finish a + gap < start b) ∧
        (number b < number a → finish b + gap < start a) :=
    hpairs.imp fun ⟨hle, hbeyond⟩ => ⟨hbeyond, fun hbelow => absurd hbelow (not_lt.mpr hle)⟩
  have hsymm : Std.Symm fun a b : A => (number a < number b → finish a + gap < start b) ∧
      (number b < number a → finish b + gap < start a) := ⟨fun _ _ hab => ⟨hab.2, hab.1⟩⟩
  refine (hboth.forall_of_forall ?_ ha hb).1 hlt
  exact fun a _ => ⟨fun hself => absurd hself (lt_irrefl _),
    fun hself => absurd hself (lt_irrefl _)⟩

/-- Two intervals have one number exactly when a chain leads from one to the other. -/
theorem number_eq_iff (hgap : 0 ≤ gap) (hforward : ∀ a ∈ items, start a ≤ finish a) {a b : A}
    (ha : a ∈ items) (hb : b ∈ items) :
    number a = number b ↔ Chained gap start finish items a b := by
  constructor
  · cases items with
    | nil => nomatch ha
    | cons first rest =>
      obtain ⟨hfirst, hsortedRest⟩ := List.pairwise_cons.mp hsorted
      obtain ⟨-, hforwardRest⟩ := List.forall_mem_cons.mp hforward
      obtain ⟨hsame, hpairs⟩ := h.2.chained hgap hsortedRest hforwardRest
        (fun a ha => List.mem_cons_of_mem _ ha) List.mem_cons_self rfl hfirst
      intro heq
      cases ha with
      | head =>
        cases hb with
        | head => exact .refl
        | tail _ hb => exact hsame b hb heq.symm
      | tail _ ha =>
        cases hb with
        | head => exact (hsame a ha heq).symm
        | tail _ hb => exact hpairs a ha b hb heq
  · intro hchain
    induction hchain with
    | refl => rfl
    | tail _ hlink ih =>
      obtain ⟨hb, hc, hnear⟩ := hlink
      refine (ih hb).trans ?_
      rcases lt_trichotomy (number _) (number _) with hlt | heq | hgt
      · have hbeyond := lt_start h hsorted hb hc hlt
        have hwithin := hnear.2
        omega
      · exact heq
      · have hbeyond := lt_start h hsorted hc hb hgt
        have hwithin := hnear.1
        omega

omit hsorted in
/-- The numbers start at zero and leave none out. -/
theorem exists_number {b : A} (hb : b ∈ items) {n : Nat} (hle : n ≤ number b) :
    ∃ a ∈ items, number a = n := by
  cases items with
  | nil => nomatch hb
  | cons first rest =>
    obtain ⟨hzero, hrest⟩ := h
    rcases Nat.eq_zero_or_pos n with rfl | hpositive
    · exact ⟨first, List.mem_cons_self, hzero⟩
    cases hb with
    | head => omega
    | tail _ hb =>
      obtain ⟨a, ha, heq⟩ := hrest.exists_number b hb n (hzero.symm ▸ hpositive) hle
      exact ⟨a, List.mem_cons_of_mem _ ha, heq⟩

end Swept

end CartoSentry.Foundation
