import Mathlib.Data.Int.ConditionallyCompleteOrder
import Mathlib.Data.Int.Interval
import Mathlib.Tactic.Linarith

set_option autoImplicit false

/-!
# Unions of intervals

The integers that half-open intervals cover, and the length of the union that a scan of
sorted intervals adds up.
-/

namespace CartoSentry.Foundation

/-- The integers that the intervals cover. -/
noncomputable def covered : List (Int × Int) → Finset Int
  | [] => ∅
  | interval :: rest => Finset.Ico interval.1 interval.2 ∪ covered rest

theorem mem_covered {intervals : List (Int × Int)} {time : Int} :
    time ∈ covered intervals ↔
      ∃ interval ∈ intervals, interval.1 ≤ time ∧ time < interval.2 := by
  induction intervals with
  | nil => simp [covered]
  | cons interval rest ih =>
    rw [covered, Finset.mem_union, Finset.mem_Ico, ih, List.exists_mem_cons_iff]

theorem mem_covered_map {A : Type} {span : A → Int × Int} {items : List A} {time : Int} :
    time ∈ covered (items.map span) ↔ ∃ item ∈ items, (span item).1 ≤ time ∧ time < (span item).2 := by
  rw [mem_covered]
  constructor
  · rintro ⟨_, hinterval, hcover⟩
    obtain ⟨item, hitem, rfl⟩ := List.mem_map.mp hinterval
    exact ⟨item, hitem, hcover⟩
  · intro ⟨item, hitem, hcover⟩
    exact ⟨span item, List.mem_map_of_mem hitem, hcover⟩

theorem covered_subset {intervals others : List (Int × Int)}
    (h : ∀ interval ∈ intervals, interval ∈ others) : covered intervals ⊆ covered others := by
  intro time htime
  obtain ⟨interval, hinterval, hcover⟩ := mem_covered.mp htime
  exact mem_covered.mpr ⟨interval, h interval hinterval, hcover⟩

theorem covered_append (intervals others : List (Int × Int)) :
    covered (intervals ++ others) = covered intervals ∪ covered others := by
  ext time
  rw [Finset.mem_union, mem_covered, mem_covered, mem_covered]
  simp only [List.mem_append, or_and_right, exists_or]

/-- Intervals cover no more than they last. -/
theorem card_covered_le {intervals : List (Int × Int)}
    (hforward : ∀ interval ∈ intervals, interval.1 ≤ interval.2) :
    ((covered intervals).card : Int) ≤
      (intervals.map fun interval => interval.2 - interval.1).sum := by
  induction intervals with
  | nil => exact le_rfl
  | cons interval rest ih =>
    obtain ⟨hinterval, hrest⟩ := List.forall_mem_cons.mp hforward
    have hunion := Finset.card_union_le (Finset.Ico interval.1 interval.2) (covered rest)
    have hlength := Int.card_Ico interval.1 interval.2
    have hlater := ih hrest
    rw [covered, List.map_cons, List.sum_cons]
    omega

/-- The scan of sorted intervals, with the interval it is in. -/
def unionLength (start finish : Int) : List (Int × Int) → Int
  | [] => finish - start
  | interval :: rest =>
      if interval.1 ≤ finish then unionLength start (max finish interval.2) rest
      else (finish - start) + unionLength interval.1 interval.2 rest

/-- The scan counts the integers that are covered. -/
theorem unionLength_eq_card {start finish : Int} {intervals : List (Int × Int)}
    (hsorted : intervals.Pairwise fun left right => left.1 ≤ right.1)
    (hstart : ∀ interval ∈ intervals, start ≤ interval.1) (hfinish : start ≤ finish)
    (hforward : ∀ interval ∈ intervals, interval.1 ≤ interval.2) :
    unionLength start finish intervals =
      ((Finset.Ico start finish ∪ covered intervals).card : Int) := by
  induction intervals generalizing start finish with
  | nil =>
    rw [unionLength, covered, Finset.union_empty, Int.card_Ico]
    omega
  | cons interval rest ih =>
    obtain ⟨hnext, hrest⟩ := List.pairwise_cons.mp hsorted
    have hinterval := hforward interval List.mem_cons_self
    have hforwardRest : ∀ other ∈ rest, other.1 ≤ other.2 :=
      fun other hother => hforward other (List.mem_cons_of_mem _ hother)
    rw [unionLength]
    split_ifs with hoverlap
    · have hunion : Finset.Ico start finish ∪ covered (interval :: rest) =
          Finset.Ico start (max finish interval.2) ∪ covered rest := by
        have hfirst := hstart interval List.mem_cons_self
        ext time
        simp only [covered, Finset.mem_union, Finset.mem_Ico]
        constructor
        · rintro (hin | hin | hin)
          · left; omega
          · left; omega
          · exact Or.inr hin
        · rintro (hin | hin)
          · by_cases hbefore : time < finish
            · left; omega
            · right; left; omega
          · exact Or.inr (Or.inr hin)
      rw [hunion]
      apply ih hrest
      · exact fun other hother => hstart other (List.mem_cons_of_mem _ hother)
      · omega
      · exact hforwardRest
    · have hdisjoint : Disjoint (Finset.Ico start finish) (covered (interval :: rest)) := by
        rw [Finset.disjoint_left]
        intro time hin hcovered
        obtain ⟨other, hother, hle, _⟩ := mem_covered.mp hcovered
        have hafter : interval.1 ≤ other.1 := by
          cases hother with
          | head => exact le_rfl
          | tail _ hother => exact hnext other hother
        have hbefore := (Finset.mem_Ico.mp hin).2
        omega
      rw [Finset.card_union_of_disjoint hdisjoint, ih hrest hnext hinterval hforwardRest,
        covered, Int.card_Ico]
      push_cast
      omega

end CartoSentry.Foundation
