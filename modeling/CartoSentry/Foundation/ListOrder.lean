import Mathlib.Data.List.Lex
import Mathlib.Data.List.Sort
import Mathlib.Order.Lattice

set_option autoImplicit false

/-!
# Orders of lists

The lexicographic order of lists of one length, read from the last member
backwards, and positions in a sorted list.
-/

namespace CartoSentry.Foundation

section Lex

variable {A : Type} [LinearOrder A]

/-- Among lists of one length, a last member counts only where the fronts agree. -/
theorem append_singleton_lt_iff {left right : List A} {a b : A}
    (hlength : left.length = right.length) :
    left ++ [a] < right ++ [b] ↔ left < right ∨ left = right ∧ a < b := by
  induction left generalizing right with
  | nil =>
    cases right with
    | nil => simp [List.cons_lt_cons_iff]
    | cons head tail => simp at hlength
  | cons head tail ih =>
    cases right with
    | nil => simp at hlength
    | cons other rest =>
      have htail : tail.length = rest.length := by simpa using hlength
      rw [List.cons_append, List.cons_append, List.cons_lt_cons_iff, List.cons_lt_cons_iff, ih htail]
      simp only [List.cons.injEq]
      tauto

theorem append_singleton_le_iff {left right : List A} {a b : A}
    (hlength : left.length = right.length) :
    left ++ [a] ≤ right ++ [b] ↔ left < right ∨ left = right ∧ a ≤ b := by
  rw [← not_lt, append_singleton_lt_iff hlength.symm]
  constructor
  · intro h
    rcases lt_trichotomy left right with hlt | rfl | hgt
    · exact Or.inl hlt
    · exact Or.inr ⟨rfl, not_lt.mp fun hba => h (Or.inr ⟨rfl, hba⟩)⟩
    · exact (h (Or.inl hgt)).elim
  · rintro (hlt | ⟨rfl, hle⟩) (hgt | ⟨heq, hba⟩)
    · exact lt_asymm hlt hgt
    · exact hlt.ne heq.symm
    · exact lt_irrefl _ hgt
    · exact not_lt.mpr hle hba

end Lex

section Least

variable {A B K : Type} [LinearOrder K]

/-- The item with the lesser key, and of two equal ones the first. -/
def lesser (key : A → K) (best : Option A) (item : A) : Option A :=
  match best with
  | none => some item
  | some kept => if key item < key kept then some item else some kept

/-- The first item with the least key. -/
def least (key : A → K) (items : List A) : Option A :=
  items.foldl (lesser key) none

variable {key : A → K}

theorem foldl_lesser_some (key : A → K) (items : List A) (start : A) :
    ∃ item, items.foldl (lesser key) (some start) = some item ∧
      (item = start ∨ item ∈ items) ∧ key item ≤ key start ∧
        ∀ other ∈ items, key item ≤ key other := by
  induction items generalizing start with
  | nil => exact ⟨start, rfl, Or.inl rfl, le_rfl, fun other hother => nomatch hother⟩
  | cons head rest ih =>
    rw [List.foldl_cons, lesser]
    split_ifs with hlt
    · obtain ⟨item, hitem, hmem, hle, hall⟩ := ih head
      refine ⟨item, hitem, Or.inr (List.mem_cons.mpr hmem), hle.trans hlt.le, ?_⟩
      exact List.forall_mem_cons.mpr ⟨hle, hall⟩
    · obtain ⟨item, hitem, hmem, hle, hall⟩ := ih start
      refine ⟨item, hitem, hmem.imp_right (List.mem_cons_of_mem _), hle, ?_⟩
      exact List.forall_mem_cons.mpr ⟨hle.trans (not_lt.mp hlt), hall⟩

theorem least_concat (key : A → K) (items : List A) (item : A) :
    least key (items ++ [item]) = lesser key (least key items) item := by
  rw [least, List.foldl_append]
  rfl

theorem least_eq_none_iff {items : List A} : least key items = none ↔ items = [] := by
  cases items with
  | nil => exact iff_of_true rfl rfl
  | cons head rest =>
    obtain ⟨item, hitem, -⟩ :=
      foldl_lesser_some key rest head
    exact iff_of_false (fun h => nomatch hitem.symm.trans h) (fun h => nomatch h)

theorem least_eq_some {items : List A} {item : A} (h : least key items = some item) :
    item ∈ items ∧ ∀ other ∈ items, key item ≤ key other := by
  cases items with
  | nil => cases h
  | cons head rest =>
    obtain ⟨found, hfound, hmem, hle, hall⟩ :=
      foldl_lesser_some key rest head
    have hsame : found = item := Option.some.inj (hfound.symm.trans h)
    subst hsame
    exact ⟨List.mem_cons.mpr hmem, List.forall_mem_cons.mpr ⟨hle, hall⟩⟩

/-- What the least item is does not depend on the order of the items, where the part of
them that counts has keys of its own. -/
theorem least_perm {key' : B → K} {C : Type} {f : A → C} {g : B → C} {items : List A}
    {items' : List B} (hperm : (items.map f).Perm (items'.map g))
    (hkeys : ∀ a ∈ items, ∀ b ∈ items', f a = g b ↔ key a = key' b) :
    (least key items).map f = (least key' items').map g := by
  cases hleft : least key items with
  | none =>
    rw [least_eq_none_iff.mp hleft] at hperm
    have hnone : items' = [] := List.map_eq_nil_iff.mp hperm.nil_eq.symm
    rw [least_eq_none_iff.mpr hnone]
    rfl
  | some item =>
    obtain ⟨hmem, hall⟩ := least_eq_some hleft
    cases hright : least key' items' with
    | none =>
      rw [least_eq_none_iff.mp hright] at hperm
      rw [List.map_eq_nil_iff.mp hperm.eq_nil] at hmem
      cases hmem
    | some other =>
      obtain ⟨hmem', hall'⟩ := least_eq_some hright
      apply congrArg some
      rw [hkeys item hmem other hmem']
      obtain ⟨twin, htwin, htwinSame⟩ :=
        List.mem_map.mp (hperm.subset (List.mem_map_of_mem hmem))
      obtain ⟨twin', htwin', htwinSame'⟩ :=
        List.mem_map.mp (hperm.symm.subset (List.mem_map_of_mem hmem'))
      have hkey := (hkeys item hmem twin htwin).mp htwinSame.symm
      have hkey' := (hkeys twin' htwin' other hmem').mp htwinSame'
      apply le_antisymm
      · rw [← hkey']
        exact hall twin' htwin'
      · rw [hkey]
        exact hall' twin htwin

end Least

section Positions

variable {A K : Type} [DecidableEq A] [LinearOrder K] {key : A → K} {sorted : List A}

/-- Positions in a strictly sorted list follow the keys. -/
theorem idxOf_lt_idxOf_iff (hsorted : sorted.Pairwise fun left right => key left < key right)
    {a b : A} (ha : a ∈ sorted) (hb : b ∈ sorted) :
    sorted.idxOf a < sorted.idxOf b ↔ key a < key b := by
  have hbefore {x y : A} (hx : x ∈ sorted) (hy : y ∈ sorted)
      (hlt : sorted.idxOf x < sorted.idxOf y) : key x < key y := by
    have hpair := List.pairwise_iff_getElem.mp hsorted (sorted.idxOf x) (sorted.idxOf y)
      (List.idxOf_lt_length_iff.mpr hx) (List.idxOf_lt_length_iff.mpr hy) hlt
    rwa [List.getElem_idxOf, List.getElem_idxOf] at hpair
  constructor
  · exact hbefore ha hb
  · intro hkey
    rcases lt_trichotomy (sorted.idxOf a) (sorted.idxOf b) with hlt | heq | hgt
    · exact hlt
    · obtain rfl := (List.idxOf_inj ha).mp heq
      exact absurd hkey (lt_irrefl _)
    · exact absurd (hbefore hb ha hgt) (lt_asymm hkey)

omit [DecidableEq A] in
/-- The first members of a strictly sorted list are those with few members before
them. -/
theorem mem_take_iff_countP (hsorted : sorted.Pairwise fun left right => key left < key right)
    {limit : Nat} {a : A} : a ∈ sorted.take limit ↔
      a ∈ sorted ∧ sorted.countP (fun other => key other < key a) < limit := by
  induction sorted generalizing limit with
  | nil => simp
  | cons head rest ih =>
    obtain ⟨hhead, hrest⟩ := List.pairwise_cons.mp hsorted
    cases limit with
    | zero => simp
    | succ limit =>
      rw [List.take_succ_cons, List.mem_cons, List.mem_cons, ih hrest, List.countP_cons]
      constructor
      · rintro (rfl | ⟨hmem, hcount⟩)
        · refine ⟨Or.inl rfl, ?_⟩
          have hnone : rest.countP (fun other => key other < key a) = 0 := by
            apply List.countP_eq_zero.mpr
            intro other hother
            simpa using (hhead other hother).le
          simp [hnone]
        · refine ⟨Or.inr hmem, ?_⟩
          split_ifs <;> omega
      · rintro ⟨rfl | hmem, hcount⟩
        · exact Or.inl rfl
        · have hbefore : decide (key head < key a) = true := decide_eq_true (hhead a hmem)
          rw [if_pos hbefore] at hcount
          exact Or.inr ⟨hmem, by omega⟩

end Positions

end CartoSentry.Foundation
