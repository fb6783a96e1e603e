import CartoSentry.Foundation.GapNumbering
import Mathlib.Data.List.Induction
import Mathlib.Data.Int.ConditionallyCompleteOrder

set_option autoImplicit false

/-!
# Groups of a sweep

Intervals in the order of their starts, put into groups by a sweep: an interval joins the
last group unless it starts more than a gap after all of that group.  The groups are the
connected components of the intervals that are near each other.
-/

namespace CartoSentry.Foundation

variable {A : Type} (gap : Int) (start finish : A → Int)

/-- The last end in a group that has an interval. -/
def reach : List A → Int
  | [] => 0
  | first :: rest => rest.foldl (fun reached a => max reached (finish a)) (finish first)

/-- The groups with one interval more. -/
def sweepStep (groups : List (List A)) (a : A) : List (List A) :=
  match groups.getLast? with
  | none => [[a]]
  | some last =>
    if reach finish last + gap < start a then groups ++ [[a]]
    else groups.dropLast ++ [last ++ [a]]

def sweepGroups (items : List A) : List (List A) :=
  items.foldl (sweepStep gap start finish) []

variable {gap start finish}

variable (finish) in
theorem foldl_max_spec (rest : List A) (reached : Int) :
    reached ≤ rest.foldl (fun reached a => max reached (finish a)) reached ∧
      (∀ a ∈ rest, finish a ≤ rest.foldl (fun reached a => max reached (finish a)) reached) ∧
      (rest.foldl (fun reached a => max reached (finish a)) reached = reached ∨
        ∃ a ∈ rest, finish a = rest.foldl (fun reached a => max reached (finish a)) reached) := by
  induction rest generalizing reached with
  | nil => exact ⟨le_rfl, fun a ha => absurd ha List.not_mem_nil, Or.inl rfl⟩
  | cons a rest ih =>
    obtain ⟨hle, hall, hattained⟩ := ih (max reached (finish a))
    refine ⟨(le_max_left _ _).trans hle,
      List.forall_mem_cons.mpr ⟨(le_max_right _ _).trans hle, hall⟩, ?_⟩
    rcases hattained with heq | ⟨b, hb, heq⟩
    · rw [List.foldl_cons, heq]
      rcases max_choice reached (finish a) with hfirst | hsecond
      · exact Or.inl hfirst
      · exact Or.inr ⟨a, List.mem_cons_self, hsecond.symm⟩
    · exact Or.inr ⟨b, List.mem_cons_of_mem _ hb, heq⟩

theorem le_reach {group : List A} : ∀ a ∈ group, finish a ≤ reach finish group := by
  cases group with
  | nil => exact fun a ha => absurd ha List.not_mem_nil
  | cons first rest =>
    obtain ⟨hle, hall, -⟩ := foldl_max_spec finish rest (finish first)
    exact List.forall_mem_cons.mpr ⟨hle, hall⟩

theorem exists_reach {group : List A} (h : group ≠ []) :
    ∃ a ∈ group, finish a = reach finish group := by
  cases group with
  | nil => exact absurd rfl h
  | cons first rest =>
    obtain ⟨-, -, hattained⟩ := foldl_max_spec finish rest (finish first)
    rcases hattained with heq | ⟨a, ha, heq⟩
    · exact ⟨first, List.mem_cons_self, heq.symm⟩
    · exact ⟨a, List.mem_cons_of_mem _ ha, heq⟩

theorem Chained.mono {items more : List A} {a b : A} (h : Chained gap start finish items a b)
    (hsubset : items ⊆ more) : Chained gap start finish more a b := by
  induction h with
  | refl => exact .refl
  | tail _ hlink ih => exact .tail ih ⟨hsubset hlink.1, hsubset hlink.2.1, hlink.2.2⟩

/-- The first group ends more than the gap before the second. -/
def Apart (gap : Int) (start finish : A → Int) (first second : List A) : Prop :=
  ∀ a ∈ first, ∀ b ∈ second, finish a + gap < start b

variable (gap start finish) in
/-- What a sweep over these intervals leaves: all of them in order, in groups that are
chained in themselves and apart from each other. -/
structure Grouped (items : List A) (groups : List (List A)) : Prop where
  flatten : groups.flatten = items
  nonempty : ∀ group ∈ groups, group ≠ []
  chained : ∀ group ∈ groups, ∀ a ∈ group, ∀ b ∈ group, Chained gap start finish items a b
  apart : groups.Pairwise (Apart gap start finish)

theorem Grouped.nil : Grouped gap start finish ([] : List A) [] where
  flatten := rfl
  nonempty := fun _ h => absurd h List.not_mem_nil
  chained := fun _ h => absurd h List.not_mem_nil
  apart := List.Pairwise.nil

theorem Grouped.mem {items : List A} {groups : List (List A)}
    (h : Grouped gap start finish items groups) {group : List A} (hgroup : group ∈ groups) {a : A}
    (ha : a ∈ group) : a ∈ items := by
  rw [← h.flatten]
  exact List.mem_flatten.mpr ⟨group, hgroup, ha⟩

/-- A group of its own, or a place in the last group. -/
theorem Grouped.step {items : List A} {groups : List (List A)} {a : A} (hgap : 0 ≤ gap)
    (h : Grouped gap start finish items groups) (hforward : start a ≤ finish a)
    (hsorted : ∀ b ∈ items, start b ≤ start a) :
    Grouped gap start finish (items ++ [a]) (sweepStep gap start finish groups a) := by
  have hmore : items ⊆ items ++ [a] := List.subset_append_left _ _
  rcases List.eq_nil_or_concat groups with rfl | ⟨front, last, hgroups⟩
  · have hitems : items = [] := h.flatten.symm
    rw [hitems]
    refine ⟨rfl, ?_, ?_, List.pairwise_singleton _ _⟩
    · intro group hgroup
      rw [List.mem_singleton.mp hgroup]
      exact List.cons_ne_nil _ _
    · intro group hgroup b hb c hc
      rw [List.mem_singleton.mp hgroup, List.mem_singleton] at hb hc
      rw [hb, hc]
      exact .refl
  rw [List.concat_eq_append] at hgroups
  subst hgroups
  have hlastMem : last ∈ front ++ [last] := List.mem_append_right _ List.mem_cons_self
  have hfrontMem : ∀ group ∈ front, group ∈ front ++ [last] := fun group hgroup =>
    List.mem_append_left _ hgroup
  have hlast := h.nonempty last hlastMem
  have happart := List.pairwise_append.mp h.apart
  obtain ⟨hfront, -, hbeforeLast⟩ := happart
  -- every earlier group stays apart from what starts behind the last one
  have hbefore : ∀ group ∈ front, ∀ c ∈ group, finish c + gap < start a := by
    intro group hgroup c hc
    obtain ⟨b, hb⟩ := List.exists_mem_of_ne_nil last hlast
    have hbound := hbeforeLast group hgroup last List.mem_cons_self c hc b hb
    have hle := hsorted b (h.mem hlastMem hb)
    omega
  have hold : ∀ group ∈ front ++ [last], ∀ b ∈ group, ∀ c ∈ group,
      Chained gap start finish (items ++ [a]) b c := fun group hgroup b hb c hc =>
    (h.chained group hgroup b hb c hc).mono hmore
  unfold sweepStep
  rw [List.getLast?_concat]
  dsimp only
  split_ifs with hbeyond
  · refine ⟨?_, ?_, ?_, ?_⟩
    · rw [List.flatten_append, h.flatten]
      rfl
    · intro group hgroup
      rcases List.mem_append.mp hgroup with hmem | hmem
      · exact h.nonempty group hmem
      · rw [List.mem_singleton.mp hmem]
        exact List.cons_ne_nil _ _
    · intro group hgroup b hb c hc
      rcases List.mem_append.mp hgroup with hmem | hmem
      · exact hold group hmem b hb c hc
      · rw [List.mem_singleton.mp hmem, List.mem_singleton] at hb hc
        rw [hb, hc]
        exact .refl
    · refine List.pairwise_append.mpr ⟨h.apart, List.pairwise_singleton _ _, ?_⟩
      intro group hgroup own hown c hc b hb
      rw [List.mem_singleton.mp hown, List.mem_singleton] at hb
      subst hb
      rcases List.mem_append.mp hgroup with hmem | hmem
      · exact hbefore group hmem c hc
      · rw [List.mem_singleton.mp hmem] at hc
        have hle : finish c ≤ reach finish last := le_reach c hc
        omega
  · obtain ⟨farthest, hfarthest, hreach⟩ : ∃ b ∈ last, finish b = reach finish last :=
      exists_reach hlast
    have hnear : Near gap start finish farthest a := by
      have hle := hsorted farthest (h.mem hlastMem hfarthest)
      exact ⟨by omega, by omega⟩
    have hlink : Chained gap start finish (items ++ [a]) farthest a :=
      .single ⟨hmore (h.mem hlastMem hfarthest), List.mem_append_right _ List.mem_cons_self, hnear⟩
    have hjoins : ∀ b ∈ last ++ [a], Chained gap start finish (items ++ [a]) farthest b := by
      intro b hb
      rcases List.mem_append.mp hb with hmem | hmem
      · exact hold last hlastMem farthest hfarthest b hmem
      · rw [List.mem_singleton.mp hmem]
        exact hlink
    rw [List.dropLast_concat]
    refine ⟨?_, ?_, ?_, ?_⟩
    · rw [← h.flatten]
      simp
    · intro group hgroup
      rcases List.mem_append.mp hgroup with hmem | hmem
      · exact h.nonempty group (hfrontMem group hmem)
      · rw [List.mem_singleton.mp hmem]
        exact List.append_ne_nil_of_right_ne_nil _ (List.cons_ne_nil _ _)
    · intro group hgroup b hb c hc
      rcases List.mem_append.mp hgroup with hmem | hmem
      · exact hold group (hfrontMem group hmem) b hb c hc
      · rw [List.mem_singleton.mp hmem] at hb hc
        exact (hjoins b hb).symm.trans (hjoins c hc)
    · refine List.pairwise_append.mpr ⟨hfront, List.pairwise_singleton _ _, ?_⟩
      intro group hgroup own hown c hc b hb
      rw [List.mem_singleton.mp hown] at hb
      rcases List.mem_append.mp hb with hmem | hmem
      · exact hbeforeLast group hgroup last List.mem_cons_self c hc b hmem
      · rw [List.mem_singleton.mp hmem]
        exact hbefore group hgroup c hc

theorem sweepGroups_grouped {items : List A} (hgap : 0 ≤ gap)
    (hforward : ∀ a ∈ items, start a ≤ finish a)
    (hsorted : items.Pairwise fun a b => start a ≤ start b) :
    Grouped gap start finish items (sweepGroups gap start finish items) := by
  induction items using List.reverseRecOn with
  | nil => exact Grouped.nil
  | append_singleton items a ih =>
    obtain ⟨hitems, -, hbefore⟩ := List.pairwise_append.mp hsorted
    unfold sweepGroups
    rw [List.foldl_append]
    refine Grouped.step hgap (ih (fun b hb => hforward b (List.mem_append_left _ hb)) hitems)
      (hforward a (List.mem_append_right _ List.mem_cons_self)) ?_
    exact fun b hb => hbefore b hb a List.mem_cons_self

/-- Two intervals are in one group exactly when a chain leads from one to the other. -/
theorem Grouped.same_iff {items : List A} {groups : List (List A)} (hgap : 0 ≤ gap)
    (hforward : ∀ a ∈ items, start a ≤ finish a) (h : Grouped gap start finish items groups)
    {i j : Nat} {group other : List A} (hi : groups[i]? = some group) (hj : groups[j]? = some other)
    {a b : A} (ha : a ∈ group) (hb : b ∈ other) :
    i = j ↔ Chained gap start finish items a b := by
  constructor
  · rintro rfl
    obtain rfl : group = other := Option.some.inj (hi.symm.trans hj)
    exact h.chained group (List.mem_of_getElem? hi) a ha b hb
  · have happart : ∀ {first second : Nat} {left right : List A}, groups[first]? = some left →
        groups[second]? = some right → first < second → Apart gap start finish left right := by
      intro first second left right hleft hright hlt
      obtain ⟨hfirst, rfl⟩ := List.getElem?_eq_some_iff.mp hleft
      obtain ⟨hsecond, rfl⟩ := List.getElem?_eq_some_iff.mp hright
      exact List.pairwise_iff_getElem.mp h.apart first second hfirst hsecond hlt
    intro hchain
    -- the chain cannot leave the group: the next group starts beyond the gap
    have hstays : ∀ c, Chained gap start finish items a c → ∀ k third, groups[k]? = some third →
        c ∈ third → i = k := by
      intro c hc
      induction hc with
      | refl =>
        intro k third hk hmem
        have hself := hforward a (h.mem (List.mem_of_getElem? hi) ha)
        rcases lt_trichotomy i k with hlt | heq | hgt
        · have hbound := happart hi hk hlt a ha a hmem
          omega
        · exact heq
        · have hbound := happart hk hi hgt a hmem a ha
          omega
      | @tail d e _ hlink ih =>
        intro k third hk hmem
        obtain ⟨hd, -, hnear⟩ := hlink
        rw [← h.flatten] at hd
        obtain ⟨middle, hmiddle, hdm⟩ := List.mem_flatten.mp hd
        obtain ⟨m, hm⟩ := List.getElem?_of_mem hmiddle
        have him := ih m middle hm hdm
        rcases lt_trichotomy m k with hlt | heq | hgt
        · have hbound := happart hm hk hlt d hdm e hmem
          have hwithin := hnear.2
          omega
        · exact him.trans heq
        · have hbound := happart hk hm hgt e hmem d hdm
          have hwithin := hnear.1
          omega
    exact hstays b hchain j other hj hb

end CartoSentry.Foundation
