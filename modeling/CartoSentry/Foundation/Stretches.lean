import Mathlib.Data.List.SplitBy
import Mathlib.Order.Lattice

set_option autoImplicit false

/-!
# Stretches

The groups into which `List.splitBy` cuts a list: chains of neighbours, with no link
across their ends.  Numbers in order are grouped with what is at most a step away.
-/

namespace CartoSentry.Foundation

variable {A : Type} {linked : A → A → Bool} {items : List A}

/-- A chain of neighbours that neither side continues. -/
structure Stretch (linked : A → A → Bool) (items front group back : List A) : Prop where
  split : items = front ++ (group ++ back)
  nonempty : group ≠ []
  chain : group.IsChain fun a b => linked a b = true
  before : ∀ a ∈ front.getLast?, ∀ b ∈ group.head?, linked a b = false
  after : ∀ a ∈ group.getLast?, ∀ b ∈ back.head?, linked a b = false

theorem stretch_of_mem_splitBy {group : List A} (h : group ∈ items.splitBy linked) :
    ∃ front back, Stretch linked items front group back := by
  obtain ⟨earlier, later, hgroups⟩ := List.append_of_mem h
  have hnonempty : ∀ other ∈ items.splitBy linked, other ≠ [] := fun other hother =>
    List.ne_nil_of_mem_splitBy hother
  have hlinks := List.isChain_getLast_head_splitBy linked items
  have hflatten := List.flatten_splitBy linked items
  rw [hgroups] at hlinks hflatten hnonempty
  have hgroup : group ≠ [] := hnonempty group (List.mem_append_right _ List.mem_cons_self)
  refine ⟨earlier.flatten, later.flatten, ?_, hgroup, List.isChain_of_mem_splitBy h, ?_, ?_⟩
  · rw [← hflatten, List.flatten_append, List.flatten_cons]
  · intro a ha b hb
    rcases List.eq_nil_or_concat earlier with rfl | ⟨front, previous, rfl⟩
    · cases ha
    · rw [List.concat_eq_append] at ha hlinks hnonempty
      have hprevious : previous ≠ [] := hnonempty previous
        (List.mem_append_left _ (List.mem_append_right _ List.mem_cons_self))
      rw [List.append_assoc] at hlinks
      have hpair := (List.isChain_append.mp hlinks).2.1
      obtain ⟨hlast, hhead, hlink⟩ := (List.isChain_cons_cons.mp hpair).1
      rw [List.flatten_append, List.flatten_singleton,
        List.getLast?_append_of_ne_nil _ hprevious, List.getLast?_eq_some_getLast hprevious] at ha
      rw [List.head?_eq_some_head hgroup] at hb
      cases ha
      cases hb
      exact hlink
  · intro a ha b hb
    cases later with
    | nil => cases hb
    | cons next rest =>
      have hnext : next ≠ [] := hnonempty next
        (List.mem_append_right _ (List.mem_cons_of_mem _ List.mem_cons_self))
      have hpair := (List.isChain_append.mp hlinks).2.1
      obtain ⟨hlast, hhead, hlink⟩ := (List.isChain_cons_cons.mp hpair).1
      rw [List.flatten_cons, List.head?_append_of_ne_nil _ hnext,
        List.head?_eq_some_head hnext] at hb
      rw [List.getLast?_eq_some_getLast hgroup] at ha
      cases ha
      cases hb
      exact hlink

/-- Every item is in a stretch. -/
theorem exists_stretch_of_mem {a : A} (h : a ∈ items) :
    ∃ group ∈ items.splitBy linked, a ∈ group := by
  rw [← List.flatten_splitBy linked items] at h
  exact List.mem_flatten.mp h

theorem splitBy_congr {other : A → A → Bool}
    (h : ∀ a ∈ items, ∀ b ∈ items, linked a b = other a b) :
    items.splitBy linked = items.splitBy other := by
  have hmem : ∀ group ∈ items.splitBy other, ∀ a ∈ group, a ∈ items := by
    intro group hgroup a ha
    rw [← List.flatten_splitBy other items]
    exact List.mem_flatten.mpr ⟨group, hgroup, ha⟩
  refine List.splitBy_eq_iff.mpr
    ⟨(List.flatten_splitBy other items).symm, List.nil_notMem_splitBy other items, ?_, ?_⟩
  · intro group hgroup
    refine (List.isChain_of_mem_splitBy hgroup).imp_of_mem_imp fun a b ha hb hlink => ?_
    rw [h a (hmem group hgroup a ha) b (hmem group hgroup b hb)]
    exact hlink
  · refine (List.isChain_getLast_head_splitBy other items).imp_of_mem_imp ?_
    rintro left right hleftMem hrightMem ⟨hleft, hright, hlink⟩
    refine ⟨hleft, hright, ?_⟩
    rw [h _ (hmem left hleftMem _ (List.getLast_mem hleft)) _
      (hmem right hrightMem _ (List.head_mem hright))]
    exact hlink

/-! ## Numbers of several kinds -/

section Numbers

variable (rank : A → Nat) (key : A → Int) (step : Nat)

/-- One kind after the other, the numbers of a kind in order. -/
def InOrder (a b : A) : Prop :=
  rank a < rank b ∨ rank a = rank b ∧ key a ≤ key b

/-- The same kind, and the next number at most a step away. -/
def nextTo (a b : A) : Bool :=
  decide (rank a = rank b ∧ key b ≤ key a + step)

/-- The number is a step behind an item of this kind, or closer. -/
def Reached (items : List A) (kind : Nat) (number : Int) : Prop :=
  ∃ a ∈ items, rank a = kind ∧ key a ≤ number ∧ number < key a + step

variable {rank key step}

theorem InOrder.refl (a : A) : InOrder rank key a a :=
  Or.inr ⟨rfl, le_rfl⟩

theorem InOrder.trans {a b c : A} (hab : InOrder rank key a b) (hbc : InOrder rank key b c) :
    InOrder rank key a c := by
  unfold InOrder at hab hbc ⊢
  omega

theorem exists_first {group : List A} (h : group ≠ []) (hordered : group.Pairwise (InOrder rank key)) :
    ∃ first, group.head? = some first ∧ ∀ a ∈ group, InOrder rank key first a := by
  cases group with
  | nil => exact absurd rfl h
  | cons first rest =>
    exact ⟨first, rfl, List.forall_mem_cons.mpr
      ⟨.refl first, (List.pairwise_cons.mp hordered).1⟩⟩

theorem exists_last {group : List A} (h : group ≠ []) (hordered : group.Pairwise (InOrder rank key)) :
    ∃ last, group.getLast? = some last ∧ ∀ a ∈ group, InOrder rank key a last := by
  rcases List.eq_nil_or_concat group with rfl | ⟨rest, last, rfl⟩
  · exact absurd rfl h
  · rw [List.concat_eq_append] at hordered ⊢
    refine ⟨last, List.getLast?_concat, fun a ha => ?_⟩
    rcases List.mem_append.mp ha with hmem | hmem
    · exact (List.pairwise_append.mp hordered).2.2 a hmem last List.mem_cons_self
    · rw [List.mem_singleton.mp hmem]
      exact .refl last

/-- A chain reaches every number between its ends, and is of one kind. -/
theorem reached_of_isChain (hstep : 0 < step) {group : List A}
    (hchain : group.IsChain fun a b => nextTo rank key step a b = true) {first last : A}
    (hfirst : group.head? = some first) (hlast : group.getLast? = some last) :
    (∀ a ∈ group, rank a = rank first) ∧ ∀ number, key first ≤ number → number ≤ key last →
      Reached rank key step group (rank first) number := by
  induction group generalizing first with
  | nil => cases hfirst
  | cons own rest ih =>
    obtain rfl : own = first := Option.some.inj hfirst
    cases rest with
    | nil =>
      obtain rfl : own = last := Option.some.inj hlast
      refine ⟨fun a ha => by rw [List.mem_singleton.mp ha], fun number hle hge => ?_⟩
      exact ⟨own, List.mem_singleton.mpr rfl, rfl, hle, by omega⟩
    | cons next rest =>
      obtain ⟨hlink, hrest⟩ := List.isChain_cons_cons.mp hchain
      obtain ⟨hkind, hnear⟩ := of_decide_eq_true hlink
      rw [List.getLast?_cons_cons] at hlast
      obtain ⟨hsame, hreached⟩ := ih hrest rfl hlast
      refine ⟨List.forall_mem_cons.mpr ⟨rfl, fun a ha => (hsame a ha).trans hkind.symm⟩, ?_⟩
      intro number hle hge
      by_cases hnumber : key next ≤ number
      · obtain ⟨a, ha, harank, hreach⟩ := hreached number hnumber hge
        exact ⟨a, List.mem_cons_of_mem _ ha, harank.trans hkind.symm, hreach⟩
      · exact ⟨own, List.mem_cons_self, rfl, hle, by omega⟩

section Apart

variable {front group back : List A} (h : Stretch (nextTo rank key step) items front group back)
  (hordered : items.Pairwise (InOrder rank key))

include h hordered

/-- Between an item in front of a stretch and the stretch there is a number out of reach. -/
theorem Stretch.front_apart {a b : A} (ha : a ∈ front) (hb : b ∈ group) (hkind : rank a = rank b) :
    ∃ number, key a ≤ number ∧ number < key b ∧ ¬ Reached rank key step items (rank b) number := by
  rw [h.split] at hordered
  obtain ⟨hfront, hrest, hfrontRest⟩ := List.pairwise_append.mp hordered
  obtain ⟨hgroup, -, hgroupBack⟩ := List.pairwise_append.mp hrest
  obtain ⟨previous, hprevious, hlePrevious⟩ := exists_last (List.ne_nil_of_mem ha) hfront
  obtain ⟨first, hfirst, hfirstLe⟩ := exists_first h.nonempty hgroup
  have hfirstMem := List.mem_of_mem_head? hfirst
  have hlink := h.before previous hprevious first hfirst
  have haPrevious := hlePrevious a ha
  have hpreviousFirst := hfrontRest previous (List.mem_of_mem_getLast? hprevious) first
    (List.mem_append_left _ hfirstMem)
  have hfirstB := hfirstLe b hb
  rw [nextTo, decide_eq_false_iff_not] at hlink
  unfold InOrder at haPrevious hpreviousFirst hfirstB
  refine ⟨key first - 1, by omega, by omega, ?_⟩
  rintro ⟨c, hc, hcrank, hcle, hclt⟩
  rw [h.split] at hc
  have hbound : InOrder rank key c previous ∨ InOrder rank key first c := by
    rcases List.mem_append.mp hc with hcmem | hcmem
    · exact Or.inl (hlePrevious c hcmem)
    · rcases List.mem_append.mp hcmem with hcmem | hcmem
      · exact Or.inr (hfirstLe c hcmem)
      · exact Or.inr (hgroupBack first hfirstMem c hcmem)
  unfold InOrder at hbound
  omega

/-- Between a stretch and an item behind it there is a number out of reach. -/
theorem Stretch.back_apart {a b : A} (ha : a ∈ group) (hb : b ∈ back) (hkind : rank a = rank b) :
    ∃ number, key a ≤ number ∧ number < key b ∧ ¬ Reached rank key step items (rank a) number := by
  rw [h.split] at hordered
  obtain ⟨-, hrest, hfrontRest⟩ := List.pairwise_append.mp hordered
  obtain ⟨hgroup, hback, hgroupBack⟩ := List.pairwise_append.mp hrest
  obtain ⟨last, hlast, hleLast⟩ := exists_last h.nonempty hgroup
  obtain ⟨next, hnext, hnextLe⟩ := exists_first (List.ne_nil_of_mem hb) hback
  have hlastMem := List.mem_of_mem_getLast? hlast
  have hlink := h.after last hlast next hnext
  have haLast := hleLast a ha
  have hlastNext := hgroupBack last hlastMem next (List.mem_of_mem_head? hnext)
  have hnextB := hnextLe b hb
  rw [nextTo, decide_eq_false_iff_not] at hlink
  unfold InOrder at haLast hlastNext hnextB
  refine ⟨key last + step, by omega, by omega, ?_⟩
  rintro ⟨c, hc, hcrank, hcle, hclt⟩
  rw [h.split] at hc
  have hbound : InOrder rank key c last ∨ InOrder rank key next c := by
    rcases List.mem_append.mp hc with hcmem | hcmem
    · exact Or.inl (hfrontRest c hcmem last (List.mem_append_left _ hlastMem))
    · rcases List.mem_append.mp hcmem with hcmem | hcmem
      · exact Or.inl (hleLast c hcmem)
      · exact Or.inr (hnextLe c hcmem)
  unfold InOrder at hbound
  omega

/-- A stretch goes on as far as there are items of its kind within reach. -/
theorem Stretch.mem_of_reached {a b : A} (ha : a ∈ group) (hb : b ∈ items)
    (hkind : rank a = rank b) (hle : key a ≤ key b)
    (hreached : ∀ number, key a ≤ number → number < key b →
      Reached rank key step items (rank a) number) : b ∈ group := by
  rw [h.split] at hb
  rcases List.mem_append.mp hb with hmem | hmem
  · obtain ⟨number, hbegins, hends, -⟩ := h.front_apart hordered hmem ha hkind.symm
    omega
  · rcases List.mem_append.mp hmem with hmem | hmem
    · exact hmem
    · obtain ⟨number, hbegins, hends, hnot⟩ := h.back_apart hordered ha hmem hkind
      exact absurd (hreached number hbegins hends) hnot

end Apart

end Numbers

end CartoSentry.Foundation
