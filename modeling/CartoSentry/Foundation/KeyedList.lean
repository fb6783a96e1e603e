import CartoSentry.Foundation.Outcome
import Mathlib.Data.List.Dedup
import Mathlib.Data.List.Nodup
import Mathlib.Data.List.Perm.Basic
import Mathlib.Data.List.Sort

set_option autoImplicit false

/-!
# Lists read through a key

The first member of every key, the groups of equal keys in ascending order, lists sorted by a
key, and a loop that collects items under keys that are new.
-/

namespace CartoSentry.Foundation

section First

variable {A K : Type} [DecidableEq K] {key : A → K}

/-- The members whose key was not seen before, the first one of each key. -/
def keepFirst (key : A → K) : List K → List A → List A
  | _, [] => []
  | seen, a :: rest =>
      if key a ∈ seen then keepFirst key seen rest
      else a :: keepFirst key (key a :: seen) rest

theorem keepFirst_sublist (seen : List K) (l : List A) : (keepFirst key seen l).Sublist l := by
  induction l generalizing seen with
  | nil => exact .slnil
  | cons a rest ih =>
    rw [keepFirst]
    split_ifs
    · exact (ih seen).cons a
    · exact (ih (key a :: seen)).cons_cons a

theorem mem_map_keepFirst {seen : List K} {l : List A} {k : K} :
    k ∈ (keepFirst key seen l).map key ↔ k ∈ l.map key ∧ k ∉ seen := by
  induction l generalizing seen with
  | nil => simp [keepFirst]
  | cons a rest ih =>
    rw [keepFirst]
    split_ifs with hseen
    · rw [ih, List.map_cons, List.mem_cons]
      constructor
      · intro ⟨hmem, hnot⟩
        exact ⟨.inr hmem, hnot⟩
      · intro ⟨hmem, hnot⟩
        rcases hmem with rfl | hmem
        · exact absurd hseen hnot
        · exact ⟨hmem, hnot⟩
    · rw [List.map_cons, List.mem_cons, ih, List.map_cons, List.mem_cons, List.mem_cons]
      constructor
      · rintro (rfl | ⟨hmem, hnot⟩)
        · exact ⟨.inl rfl, hseen⟩
        · exact ⟨.inr hmem, fun hk => hnot (.inr hk)⟩
      · intro ⟨hmem, hnot⟩
        by_cases hk : k = key a
        · exact .inl hk
        · exact .inr ⟨hmem.resolve_left hk, fun h => h.elim hk hnot⟩

theorem nodup_map_keepFirst (seen : List K) (l : List A) : ((keepFirst key seen l).map key).Nodup := by
  induction l generalizing seen with
  | nil => exact List.nodup_nil
  | cons a rest ih =>
    rw [keepFirst]
    split_ifs
    · exact ih seen
    · rw [List.map_cons, List.nodup_cons]
      refine ⟨?_, ih _⟩
      intro hmem
      exact (mem_map_keepFirst.mp hmem).2 List.mem_cons_self

/-- Lists with the same keys keep the same keys. -/
theorem keepFirst_perm {left right : List A}
    (hkeys : ∀ k, k ∈ left.map key ↔ k ∈ right.map key) :
    ((keepFirst key [] left).map key).Perm ((keepFirst key [] right).map key) := by
  apply (List.perm_ext_iff_of_nodup (nodup_map_keepFirst [] left)
    (nodup_map_keepFirst [] right)).mpr
  intro k
  rw [mem_map_keepFirst, mem_map_keepFirst, hkeys]

end First

theorem forall₂_of_map_eq {A B K : Type} {f : A → K} {g : B → K} {left : List A} {right : List B}
    (h : left.map f = right.map g) : List.Forall₂ (fun a b => f a = g b) left right := by
  have hkeys : List.Forall₂ (· = ·) (left.map f) (right.map g) := by
    rw [h]
    exact List.forall₂_refl _
  rwa [List.forall₂_map_left_iff, List.forall₂_map_right_iff] at hkeys

/-- Among distinct keys, a search by key finds the member that has it. -/
theorem find?_key_eq_some {A K : Type} [DecidableEq K] {key : A → K} {l : List A}
    (hkeys : (l.map key).Nodup) {a : A} (ha : a ∈ l) :
    l.find? (fun b => key b = key a) = some a := by
  cases hfound : l.find? (fun b => key b = key a) with
  | none => exact absurd (decide_eq_true rfl) (List.find?_eq_none.mp hfound a ha)
  | some b =>
    have hkey : key b = key a := by simpa using List.find?_some hfound
    rw [List.inj_on_of_nodup_map hkeys (List.mem_of_find?_eq_some hfound) ha hkey]

/-- Among distinct keys, a key has one member or none. -/
theorem filter_key_eq_find? {A K : Type} [DecidableEq K] {key : A → K} {l : List A}
    (hkeys : (l.map key).Nodup) (k : K) :
    l.filter (fun a => key a = k) = (l.find? fun a => key a = k).toList := by
  induction l with
  | nil => rfl
  | cons first rest ih =>
    rw [List.map_cons, List.nodup_cons] at hkeys
    by_cases hfirst : key first = k
    · have hrest : rest.filter (fun a => key a = k) = [] := by
        apply List.filter_eq_nil_iff.mpr
        intro a ha hkey
        apply hkeys.1
        rw [hfirst, ← of_decide_eq_true hkey]
        exact List.mem_map_of_mem ha
      rw [List.filter_cons, if_pos (decide_eq_true hfirst), hrest, List.find?_cons,
        decide_eq_true hfirst]
      rfl
    · rw [List.filter_cons, if_neg (by simpa using hfirst), ih hkeys.2, List.find?_cons,
        decide_eq_false hfirst]

/-- Lists that hold the same keys hold the same values, where a key decides its value. -/
theorem map_perm_of_map_perm {A B K L : Type} {f : A → K} {f' : B → K} {g : A → L} {g' : B → L}
    {left : List A} {right : List B} (h : (left.map f).Perm (right.map f'))
    (hvalue : ∀ a ∈ left, ∀ b ∈ right, f a = f' b → g a = g' b) :
    (left.map g).Perm (right.map g') := by
  have hright : List.Forall₂ (fun k b => k = f' b) (right.map f') right :=
    List.forall₂_map_left_iff.mpr (List.forall₂_same.mpr fun _ _ => rfl)
  obtain ⟨middle, hleft, hmiddle⟩ := List.perm_comp_forall₂ h hright
  rw [List.forall₂_map_left_iff] at hleft
  have hsame : left.map g = middle.map g' := by
    have hmem : ∀ b ∈ middle, b ∈ right := fun b => hmiddle.mem_iff.mp
    clear h hright hmiddle
    induction hleft with
    | nil => rfl
    | cons hhead _ ih =>
      rw [List.map_cons, List.map_cons,
        hvalue _ List.mem_cons_self _ (hmem _ List.mem_cons_self) hhead,
        ih (fun a ha => hvalue a (List.mem_cons_of_mem _ ha))
          fun b hb => hmem b (List.mem_cons_of_mem _ hb)]
  rw [hsame]
  exact hmiddle.map g'

section Sorted

variable {A B K : Type} [LinearOrder K]

/-- Lists sorted by a key hold the same keys in the same order when one is a
permutation of the other. -/
theorem map_eq_of_perm_of_sorted {key : A → K} {left right : List A}
    (hperm : (left.map key).Perm (right.map key))
    (hleft : left.Pairwise fun a b => key a ≤ key b)
    (hright : right.Pairwise fun a b => key a ≤ key b) : left.map key = right.map key := by
  apply hperm.eq_of_pairwise' (r := (· ≤ ·))
  · rwa [List.pairwise_map]
  · rwa [List.pairwise_map]

/-- A nonempty list: the members of one key. -/
structure KeyGroup (A : Type) where
  first : A
  later : List A
  deriving DecidableEq, Repr

def KeyGroup.members (group : KeyGroup A) : List A :=
  group.first :: group.later

/-- The members with a key, where there are any. -/
def groupOf (key : A → K) (l : List A) (k : K) : Option (KeyGroup A) :=
  match l.filter fun a => key a = k with
  | [] => none
  | first :: later => some ⟨first, later⟩

theorem groupOf_eq_none {key : A → K} {l : List A} {k : K} :
    groupOf key l k = none ↔ (l.filter fun a => key a = k) = [] := by
  rw [groupOf]
  split
  · rename_i hnil
    simp [hnil]
  · rename_i first later hcons
    simp [hcons]

theorem groupOf_eq_some {key : A → K} {l : List A} {k : K} {group : KeyGroup A} :
    groupOf key l k = some group ↔ (l.filter fun a => key a = k) = group.members := by
  rw [groupOf]
  split
  · rename_i hnil
    simp [hnil, KeyGroup.members]
  · rename_i first later hcons
    rw [hcons, Option.some.injEq]
    constructor
    · rintro rfl
      rfl
    · intro heq
      injection heq with hfirst hlater
      subst hfirst hlater
      rfl

/-- What iterating over a map from keys to lists sees in ascending order, after every
member was appended to the list of its key. -/
def groupAscending (key : A → K) (l : List A) : List (KeyGroup A) :=
  ((l.map key).dedup.insertionSort (· ≤ ·)).filterMap (groupOf key l)

/-- A group is all members of one key, in order. -/
theorem members_of_mem_groupAscending {key : A → K} {l : List A} {group : KeyGroup A}
    (hgroup : group ∈ groupAscending key l) :
    group.members = l.filter fun a => key a = key group.first := by
  obtain ⟨k, _, hk⟩ := List.mem_filterMap.mp hgroup
  have hmembers := groupOf_eq_some.mp hk
  have hfirst : group.first ∈ l.filter fun a => key a = k := by
    rw [hmembers]
    exact List.mem_cons_self
  have hkey : key group.first = k := by simpa using (List.mem_filter.mp hfirst).2
  rw [hkey, hmembers]

theorem mem_groupAscending_iff {key : A → K} {l : List A} {group : KeyGroup A} :
    group ∈ groupAscending key l ↔
      group.members = l.filter fun a => key a = key group.first := by
  constructor
  · exact members_of_mem_groupAscending
  · intro hmembers
    apply List.mem_filterMap.mpr
    refine ⟨key group.first, ?_, groupOf_eq_some.mpr hmembers.symm⟩
    rw [List.mem_insertionSort, List.mem_dedup]
    have hfirst : group.first ∈ l.filter fun a => key a = key group.first := by
      rw [← hmembers]
      exact List.mem_cons_self
    exact List.mem_map_of_mem (List.mem_filter.mp hfirst).1

/-- No two groups are of one key. -/
theorem nodup_keys_groupAscending (key : A → K) (l : List A) :
    ((groupAscending key l).map fun group => key group.first).Nodup := by
  have hkeys : ((l.map key).dedup.insertionSort (· ≤ ·)).Nodup :=
    (List.perm_insertionSort _ _).nodup_iff.mpr (List.nodup_dedup _)
  have hgroups : (groupAscending key l).Nodup := by
    apply hkeys.filterMap
    intro k k' group hk hk'
    have hmembers := groupOf_eq_some.mp (Option.mem_def.mp hk)
    have hmembers' := groupOf_eq_some.mp (Option.mem_def.mp hk')
    have hfirst : group.first ∈ group.members := List.mem_cons_self
    have hkey := hmembers ▸ hfirst
    have hkey' := hmembers' ▸ hfirst
    rw [List.mem_filter, decide_eq_true_eq] at hkey hkey'
    exact hkey.2.symm.trans hkey'.2
  apply hgroups.map_on
  intro group hgroup other hother hsame
  have hmembers : group.members = other.members := by
    rw [members_of_mem_groupAscending hgroup, hsame, members_of_mem_groupAscending hother]
  cases group
  cases other
  injection hmembers with hfirst hlater
  subst hfirst hlater
  rfl

/-- Every member lies in a group. -/
theorem exists_mem_groupAscending {key : A → K} {l : List A} {a : A} (ha : a ∈ l) :
    ∃ group ∈ groupAscending key l, key group.first = key a ∧ a ∈ group.members := by
  have hfilter : a ∈ l.filter fun b => key b = key a := by simp [ha]
  obtain ⟨first, later, hcons⟩ := List.exists_cons_of_ne_nil (List.ne_nil_of_mem hfilter)
  have hfirst : key first = key a := by
    have hmem : first ∈ l.filter fun b => key b = key a := by
      rw [hcons]
      exact List.mem_cons_self
    simpa using (List.mem_filter.mp hmem).2
  refine ⟨⟨first, later⟩, ?_, hfirst, ?_⟩
  · rw [mem_groupAscending_iff]
    simp only [hfirst]
    exact hcons.symm
  · rwa [KeyGroup.members, ← hcons]

/-- Lists that agree member by member, keys included, have groups that do, key by key. -/
theorem groupAscending_forall₂ {R : A → B → Prop} {key : A → K} {key' : B → K} {left : List A}
    {right : List B} (h : List.Forall₂ R left right) (hkey : ∀ a b, R a b → key a = key' b) :
    List.Forall₂ (fun group other => List.Forall₂ R group.members other.members ∧
        ∃ k, group.members = (left.filter fun a => key a = k) ∧
          other.members = right.filter fun b => key' b = k)
      (groupAscending key left) (groupAscending key' right) := by
  have hkeys : left.map key = right.map key' := by
    induction h with
    | nil => rfl
    | cons hhead _ ih => rw [List.map_cons, List.map_cons, hkey _ _ hhead, ih]
  rw [groupAscending, groupAscending, hkeys]
  apply List.rel_filterMap (R := Eq) _ (List.forall₂_refl _)
  rintro k _ rfl
  have hboth : List.Forall₂ R (left.filter fun a => key a = k)
      (right.filter fun b => key' b = k) := by
    apply List.rel_filter _ h
    intro a b hab
    simp [hkey a b hab]
  cases hgroup : groupOf key left k with
  | none =>
    rw [groupOf_eq_none.mp hgroup] at hboth
    rw [groupOf_eq_none.mpr (List.forall₂_nil_left_iff.mp hboth)]
    exact .none
  | some group =>
    have hmembers := groupOf_eq_some.mp hgroup
    cases hother : groupOf key' right k with
    | none =>
      rw [groupOf_eq_none.mp hother, List.forall₂_nil_right_iff, hmembers] at hboth
      cases hboth
    | some other =>
      have hothers := groupOf_eq_some.mp hother
      refine .some ⟨?_, k, hmembers.symm, hothers.symm⟩
      rwa [hmembers, hothers] at hboth

end Sorted

/-! ## Collecting

A loop that reads its items one after another and may refuse one for what it has collected so
far: a key that is there already, or a budget that is spent. -/

section Collecting

variable {E A B K : Type}

/-- Every item is read with what was collected before it. -/
def collect (read : List B → A → Except E B) : List B → List A → Except E (List B)
  | seen, [] => .ok seen
  | seen, a :: rest => do
    let b ← read seen a
    collect read (seen ++ [b]) rest

/-- What a reader accepts: what an item holds, under a new key and within a budget. -/
structure Reads (read : List B → A → Except E B) (holds : A → B → Prop) (key : B → K)
    (within : List B → Prop) : Prop where
  step : ∀ seen a b, read seen a = .ok b ↔
    holds a b ∧ key b ∉ seen.map key ∧ within (seen ++ [b])
  shorter : ∀ seen later, within (seen ++ later) → within seen

variable {read : List B → A → Except E B} {holds : A → B → Prop} {key : B → K}
  {within : List B → Prop}

theorem Reads.collect_from_iff (h : Reads read holds key within) {seen : List B} {as : List A}
    {result : List B} (hunique : (seen.map key).Nodup) (hwithin : within seen) :
    collect read seen as = .ok result ↔ ∃ bs, result = seen ++ bs ∧ List.Forall₂ holds as bs ∧
      (result.map key).Nodup ∧ within result := by
  induction as generalizing seen with
  | nil =>
    constructor
    · intro hok
      obtain rfl := Except.ok.inj hok
      exact ⟨[], (List.append_nil _).symm, .nil, hunique, hwithin⟩
    · rintro ⟨bs, rfl, htold, -, -⟩
      cases htold
      rw [List.append_nil]
      rfl
  | cons a rest ih =>
    have hnext : ∀ b, key b ∉ seen.map key → ((seen ++ [b]).map key).Nodup := by
      intro b hnew
      rw [List.map_append, List.map_singleton, ← List.concat_eq_append]
      exact hunique.concat hnew
    rw [collect, bind_eq_ok_iff]
    constructor
    · rintro ⟨b, hread, hrest⟩
      obtain ⟨htold, hnew, hbudget⟩ := (h.step _ _ _).mp hread
      obtain ⟨bs, rfl, hlater, hall, hspent⟩ := (ih (hnext b hnew) hbudget).mp hrest
      exact ⟨b :: bs, by simp, .cons htold hlater, hall, hspent⟩
    · rintro ⟨bs, rfl, htold, hall, hspent⟩
      cases htold with
      | @cons _ b _ bs hfirst hlater =>
        have hassoc : seen ++ b :: bs = (seen ++ [b]) ++ bs := by simp
        have hnew : key b ∉ seen.map key := by
          rw [List.map_append, List.map_cons] at hall
          exact fun hmem => (List.nodup_append.mp hall).2.2 _ hmem _ List.mem_cons_self rfl
        have hbudget := h.shorter (seen ++ [b]) bs (hassoc ▸ hspent)
        exact ⟨b, (h.step _ _ _).mpr ⟨hfirst, hnew, hbudget⟩,
          (ih (hnext b hnew) hbudget).mpr ⟨bs, hassoc, hlater, hall, hspent⟩⟩

/-- A collection is what the items say, without a key twice and within the budget. -/
theorem Reads.collect_eq_ok_iff (h : Reads read holds key within) (hempty : within [])
    {as : List A} {bs : List B} : collect read [] as = .ok bs ↔
      List.Forall₂ holds as bs ∧ (bs.map key).Nodup ∧ within bs := by
  have hunique : (([] : List B).map key).Nodup := List.nodup_nil
  rw [h.collect_from_iff hunique hempty]
  constructor
  · rintro ⟨found, rfl, htold, hunique, hspent⟩
    exact ⟨htold, hunique, hspent⟩
  · rintro ⟨htold, hunique, hspent⟩
    exact ⟨bs, rfl, htold, hunique, hspent⟩

end Collecting

end CartoSentry.Foundation
