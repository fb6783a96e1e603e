import Mathlib.Data.List.Sort

set_option autoImplicit false

/-!
# Binary search

The search of a sorted list by halving, with the half that is left as a place and a count.
-/

namespace CartoSentry.Foundation

variable {A : Type} [LinearOrder A]

/-- The first place, among as many from a place on, whose item is not below the one sought.
Each turn halves the count. -/
def lowerBound (items : List A) (sought : A) (first count : Nat) : Nat :=
  if hcount : count = 0 then first
  else
    let half := count / 2
    if ∃ item ∈ items[first + half]?, item < sought then
      lowerBound items sought (first + half + 1) (count - half - 1)
    else lowerBound items sought first half
termination_by count

/-- The item at the lower bound, if there is one, is the one sought. -/
def binarySearch (items : List A) (sought : A) : Bool :=
  decide (∃ item ∈ items[lowerBound items sought 0 items.length]?, ¬ sought < item)

theorem lowerBound_spec {items : List A} (hsorted : items.Pairwise (· ≤ ·)) (sought : A)
    {first count : Nat} (hwithin : first + count ≤ items.length)
    (hbelow : ∀ place < first, ∀ item ∈ items[place]?, item < sought)
    (hbeyond : ∀ place, first + count ≤ place → ∀ item ∈ items[place]?, sought ≤ item) :
    (∀ place < lowerBound items sought first count, ∀ item ∈ items[place]?, item < sought) ∧
      ∀ place, lowerBound items sought first count ≤ place →
        ∀ item ∈ items[place]?, sought ≤ item := by
  have hmono : ∀ {place later : Nat}, place ≤ later → ∀ item ∈ items[place]?,
      ∀ other ∈ items[later]?, item ≤ other := by
    intro place later hle item hitem other hother
    obtain ⟨hplace, rfl⟩ := List.getElem?_eq_some_iff.mp hitem
    obtain ⟨hlater, rfl⟩ := List.getElem?_eq_some_iff.mp hother
    rcases hle.eq_or_lt with rfl | hlt
    · exact le_refl _
    · exact List.pairwise_iff_getElem.mp hsorted place later hplace hlater hlt
  induction count using Nat.strong_induction_on generalizing first with
  | _ count ih =>
    rw [lowerBound]
    by_cases hcount : count = 0
    · rw [dif_pos hcount]
      exact ⟨hbelow, by rwa [hcount, Nat.add_zero] at hbeyond⟩
    rw [dif_neg hcount]
    dsimp only
    split_ifs with hless
    · obtain ⟨middle, hmiddle, hlt⟩ := hless
      apply ih _ (by omega) (by omega)
      · intro place hplace item hitem
        exact (hmono (by omega) item hitem middle hmiddle).trans_lt hlt
      · intro place hplace
        exact hbeyond place (by omega)
    · apply ih _ (by omega) (by omega) hbelow
      intro place hplace item hitem
      have hmiddle : items[first + count / 2]? = some items[first + count / 2] :=
        List.getElem?_eq_getElem (by omega)
      have hge : sought ≤ items[first + count / 2] :=
        not_lt.mp fun hlt => hless ⟨_, hmiddle, hlt⟩
      exact hge.trans (hmono hplace _ hmiddle item hitem)

/-- In a sorted list binary search finds exactly the members. -/
theorem binarySearch_iff {items : List A} (hsorted : items.Pairwise (· ≤ ·)) (sought : A) :
    binarySearch items sought = true ↔ sought ∈ items := by
  have hend : ∀ place, 0 + items.length ≤ place → ∀ item ∈ items[place]?, sought ≤ item := by
    intro place hplace item hitem
    rw [List.getElem?_eq_none (by omega)] at hitem
    nomatch hitem
  have hstart : ∀ place < 0, ∀ item ∈ items[place]?, item < sought :=
    fun place hplace => absurd hplace (Nat.not_lt_zero place)
  obtain ⟨hbelow, hbeyond⟩ := lowerBound_spec hsorted sought (by omega) hstart hend
  rw [binarySearch, decide_eq_true_eq]
  constructor
  · rintro ⟨item, hitem, hnot⟩
    rw [(not_lt.mp hnot).antisymm (hbeyond _ le_rfl item hitem)] at hitem
    exact List.mem_of_getElem? hitem
  · intro hmem
    obtain ⟨place, hplace⟩ := List.mem_iff_getElem?.mp hmem
    have hle : lowerBound items sought 0 items.length ≤ place := by
      by_contra hbefore
      exact lt_irrefl _ (hbelow place (not_le.mp hbefore) sought hplace)
    obtain ⟨hlength, rfl⟩ := List.getElem?_eq_some_iff.mp hplace
    refine ⟨_, List.getElem?_eq_getElem (hle.trans_lt hlength), not_lt.mpr ?_⟩
    rcases hle.eq_or_lt with heq | hlt
    · exact le_of_eq (getElem_congr_idx heq)
    · exact List.pairwise_iff_getElem.mp hsorted _ _ _ hlength hlt

end CartoSentry.Foundation
