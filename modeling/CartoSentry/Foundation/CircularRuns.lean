import Mathlib.Data.List.Rotate

set_option autoImplicit false

/-!
# Runs on a circle

The longest run of items that pass a test, on a line by one scan and on a circle by a scan of
the items written twice.
-/

namespace CartoSentry.Foundation

universe u

variable {A : Type u} (test : A → Bool)

/-! ## Runs -/

/-- The items from a place on pass, as many as the length says. -/
def IsBlock (items : List A) (start length : Nat) : Prop :=
  ∀ k < length, (items[start + k]?).any test = true

/-- The same on the circle, which a run goes around at most once. -/
def IsCircularRun (items : List A) (start length : Nat) : Prop :=
  length ≤ items.length ∧ ∀ k < length, (items[(start + k) % items.length]?).any test = true

/-- The longest run on the circle. -/
structure IsLongest (items : List A) (length : Nat) : Prop where
  reached : ∃ start, IsCircularRun test items start length
  greatest : ∀ start other, IsCircularRun test items start other → other ≤ length

variable {test} {items : List A}

theorem IsLongest.unique {length other : Nat} (h : IsLongest test items length)
    (h' : IsLongest test items other) : length = other := by
  obtain ⟨start, hrun⟩ := h.reached
  obtain ⟨start', hrun'⟩ := h'.reached
  exact le_antisymm (h'.greatest start length hrun) (h.greatest start' other hrun')

theorem IsBlock.shorten {start length shorter : Nat} (h : IsBlock test items start length)
    (hle : shorter ≤ length) : IsBlock test items start shorter :=
  fun k hk => h k (hk.trans_le hle)

/-- A block that is not empty ends inside of the items. -/
theorem IsBlock.fits {start length : Nat} (h : IsBlock test items start length)
    (hlength : 0 < length) : start + length ≤ items.length := by
  have hlast := h (length - 1) (by omega)
  by_contra hover
  rw [List.getElem?_eq_none (by omega), Option.any_none] at hlast
  cases hlast

theorem IsBlock.append {start length : Nat} (h : IsBlock test items start length) (more : List A) :
    IsBlock test (items ++ more) start length := by
  intro k hk
  have hitem := h k hk
  have hfits := h.fits (by omega)
  rwa [List.getElem?_append_left (by omega)]

/-- Before the last item a block is one of the items before it. -/
theorem IsBlock.of_append {start length : Nat} {item : A}
    (h : IsBlock test (items ++ [item]) start length) (hend : start + length ≤ items.length) :
    IsBlock test items start length := by
  intro k hk
  have hitem := h k hk
  rwa [List.getElem?_append_left (by omega)] at hitem

/-! ## The scan -/

/-- The longest run so far and the run at hand. -/
def scanStep (test : A → Bool) (state : Nat × Nat) (item : A) : Nat × Nat :=
  if test item then (max state.1 (state.2 + 1), state.2 + 1) else (state.1, 0)

/-- What the scan knows of the items. -/
structure Scanned (test : A → Bool) (items : List A) (state : Nat × Nat) : Prop where
  reached : ∃ start, IsBlock test items start state.1
  greatest : ∀ start length, IsBlock test items start length → length ≤ state.1
  open_reached : state.2 ≤ items.length ∧ IsBlock test items (items.length - state.2) state.2
  open_greatest : ∀ start length, start + length = items.length →
    IsBlock test items start length → length ≤ state.2

theorem Scanned.nil : Scanned test [] (0, 0) where
  reached := ⟨0, fun _ hk => absurd hk (Nat.not_lt_zero _)⟩
  greatest start length h := by
    by_contra hpos
    have hfits := h.fits (by omega)
    rw [List.length_nil] at hfits
    omega
  open_reached := ⟨le_rfl, fun _ hk => absurd hk (Nat.not_lt_zero _)⟩
  open_greatest start length hend _ := by
    rw [List.length_nil] at hend
    omega

theorem Scanned.step {state : Nat × Nat} (h : Scanned test items state) (item : A) :
    Scanned test (items ++ [item]) (scanStep test state item) := by
  have hlength : (items ++ [item]).length = items.length + 1 := List.length_append
  have hlast : (items ++ [item])[items.length]? = some item := List.getElem?_concat_length
  obtain ⟨start, hstart⟩ := h.reached
  obtain ⟨hopenLength, hopen⟩ := h.open_reached
  unfold scanStep
  split_ifs with hpasses
  · have hlonger : IsBlock test (items ++ [item]) (items.length - state.2) (state.2 + 1) := by
      intro k hk
      obtain hbefore | rfl := Nat.lt_succ_iff_lt_or_eq.mp hk
      · exact hopen.append [item] k hbefore
      · rw [Nat.sub_add_cancel hopenLength, hlast, Option.any_some]
        exact hpasses
    -- a block is one of the items before, or it ends with the new item
    have hends : ∀ other length, IsBlock test (items ++ [item]) other length →
        other + length = items.length + 1 → length ≤ state.2 + 1 := by
      intro other length hblock hend
      cases length with
      | zero => exact Nat.zero_le _
      | succ length =>
        have hshorter := (hblock.shorten (Nat.le_succ length)).of_append (by omega)
        exact Nat.succ_le_succ (h.open_greatest other length (by omega) hshorter)
    refine ⟨?_, ?_, ⟨by dsimp only; omega, ?_⟩, ?_⟩
    · dsimp only
      obtain hmax | hmax := Nat.le_total (state.2 + 1) state.1
      · rw [Nat.max_eq_left hmax]
        exact ⟨start, hstart.append [item]⟩
      · rw [Nat.max_eq_right hmax]
        exact ⟨items.length - state.2, hlonger⟩
    · intro other length hblock
      by_cases hend : other + length ≤ items.length
      · exact (h.greatest other length (hblock.of_append hend)).trans (le_max_left _ _)
      · cases length with
        | zero => exact Nat.zero_le _
        | succ length =>
          have hinside := hblock.fits (Nat.succ_pos length)
          exact (hends other _ hblock (by omega)).trans (le_max_right _ _)
    · rw [hlength, Nat.add_sub_add_right]
      exact hlonger
    · intro other length hend hblock
      exact hends other length hblock (by omega)
  · have hends : ∀ other length, IsBlock test (items ++ [item]) other length →
        other + length = items.length + 1 → length = 0 := by
      intro other length hblock hend
      by_contra hpos
      have hitem := hblock (length - 1) (by omega)
      have hplace : other + (length - 1) = items.length := by omega
      rw [hplace, hlast, Option.any_some] at hitem
      exact hpasses hitem
    refine ⟨⟨start, hstart.append [item]⟩, ?_, ⟨Nat.zero_le _, ?_⟩, ?_⟩
    · intro other length hblock
      by_cases hend : other + length ≤ items.length
      · exact h.greatest other length (hblock.of_append hend)
      · by_cases hpos : length = 0
        · rw [hpos]
          exact Nat.zero_le _
        · have hinside := hblock.fits (by omega)
          exact absurd (hends other length hblock (by omega)) hpos
    · exact fun _ hk => absurd hk (Nat.not_lt_zero _)
    · intro other length hend hblock
      exact (hends other length hblock (by omega)).le

theorem scanned_foldl (items : List A) : Scanned test items (items.foldl (scanStep test) (0, 0)) := by
  induction items using List.reverseRecOn with
  | nil => exact .nil
  | append_singleton items item ih =>
    rw [List.foldl_append, List.foldl_cons, List.foldl_nil]
    exact ih.step item

/-! ## The circle -/

/-- The items written twice go once more around the circle. -/
theorem getElem?_append_self {place : Nat} (h : place < items.length + items.length) :
    (items ++ items)[place]? = items[place % items.length]? := by
  by_cases hfirst : place < items.length
  · rw [List.getElem?_append_left hfirst, Nat.mod_eq_of_lt hfirst]
  · rw [List.getElem?_append_right (by omega), Nat.mod_eq_sub_mod (by omega),
      Nat.mod_eq_of_lt (by omega)]

theorem isLongest_scan (items : List A) :
    IsLongest test items
      (min ((items ++ items).foldl (scanStep test) (0, 0)).1 items.length) := by
  have hscanned : Scanned test (items ++ items) _ := scanned_foldl (items ++ items)
  obtain ⟨start, hblock⟩ := hscanned.reached
  constructor
  · refine ⟨start, min_le_right _ _, fun k hk => ?_⟩
    have hitem := hblock k (hk.trans_le (min_le_left _ _))
    have hfits := hblock.fits (by omega)
    rw [List.length_append] at hfits
    rwa [getElem?_append_self (by omega)] at hitem
  · intro other length hrun
    refine le_min (hscanned.greatest (other % items.length) length fun k hk => ?_) hrun.1
    have hpos : 0 < items.length := (Nat.zero_le k).trans_lt (hk.trans_le hrun.1)
    have hmod := Nat.mod_lt other hpos
    have hlength := hrun.1
    have hitem := hrun.2 k hk
    rwa [getElem?_append_self (by omega), Nat.mod_add_mod]

/-- A rotation moves the runs along. -/
theorem IsCircularRun.of_rotate {start length turn : Nat}
    (h : IsCircularRun test (items.rotate turn) start length) :
    IsCircularRun test items (start + turn) length := by
  obtain ⟨hlength, hpasses⟩ := h
  rw [List.length_rotate] at hlength hpasses
  refine ⟨hlength, fun k hk => ?_⟩
  have hpos : 0 < items.length := by omega
  have hitem := hpasses k hk
  rw [List.getElem?_rotate (Nat.mod_lt _ hpos), Nat.mod_add_mod] at hitem
  rwa [Nat.add_right_comm]

/-- A rotation is undone by the rest of the turn around the circle. -/
theorem exists_rotate_rotate (items : List A) (turn : Nat) :
    ∃ back, (items.rotate turn).rotate back = items := by
  refine ⟨items.length - turn % items.length, ?_⟩
  rw [← List.rotate_mod items turn, List.rotate_rotate]
  by_cases hempty : items.length = 0
  · rw [List.length_eq_zero_iff.mp hempty, List.rotate_nil]
  · have hmod := Nat.mod_lt turn (Nat.pos_of_ne_zero hempty)
    rw [Nat.add_sub_cancel' hmod.le, List.rotate_length]

theorem IsLongest.rotate {length : Nat} (h : IsLongest test items length) (turn : Nat) :
    IsLongest test (items.rotate turn) length where
  reached := by
    obtain ⟨start, hrun⟩ := h.reached
    obtain ⟨back, hback⟩ := exists_rotate_rotate items turn
    rw [← hback] at hrun
    exact ⟨start + back, hrun.of_rotate⟩
  greatest start other hrun := h.greatest (start + turn) other hrun.of_rotate

end CartoSentry.Foundation
