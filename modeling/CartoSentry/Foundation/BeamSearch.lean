import Mathlib.Data.List.Nodup
import Mathlib.Data.List.Sort
import Mathlib.Order.Monotone.Defs

set_option autoImplicit false

/-!
# Beam search over a trellis

Sequences that take one member of each layer are scored step by step; a beam
keeps some of the sequences that reach a layer.  Keeping the best few of each
terminal member loses none of the best few scores overall, as long as a step
never turns a lower score into a higher one.
-/

namespace CartoSentry.Foundation.BeamSearch

/-! ## Keeping the first members of each class -/

section Keep

variable {A κ : Type} [DecidableEq κ]

/-- How often a class was kept so far. -/
def tally (counts : List (κ × Nat)) (k : κ) : Nat :=
  (counts.lookup k).getD 0

/-- The members of which fewer than `limit` earlier ones of their class were kept. -/
def keepFirst (limit : Nat) (identity : A → κ) : List A → List (κ × Nat) → List A
  | [], _ => []
  | item :: rest, counts =>
      if limit ≤ tally counts (identity item) then keepFirst limit identity rest counts
      else item :: keepFirst limit identity rest
        ((identity item, tally counts (identity item) + 1) :: counts)

/-- The members of at least a threshold, up to a number of them. -/
def selectWithin {S : Type} [LinearOrder S] (width : Nat) (threshold : S) (score : A → S) :
    List A → Nat → List A
  | [], _ => []
  | item :: rest, size =>
      if score item < threshold then selectWithin width threshold score rest size
      else if size = width then []
      else item :: selectWithin width threshold score rest (size + 1)

theorem tally_cons (counts : List (κ × Nat)) (k other : κ) (count : Nat) :
    tally ((k, count) :: counts) other = if other = k then count else tally counts other := by
  unfold tally
  rw [List.lookup_cons]
  by_cases h : other = k
  · simp [h]
  · simp [h, beq_false_of_ne h]

variable {limit : Nat} {identity : A → κ}

theorem keepFirst_sublist (items : List A) (counts : List (κ × Nat)) :
    (keepFirst limit identity items counts).Sublist items := by
  induction items generalizing counts with
  | nil => exact List.Sublist.refl _
  | cons item rest ih =>
    unfold keepFirst
    split_ifs
    · exact (ih counts).cons item
    · exact (ih _).cons_cons item

theorem keepFirst_map {B : Type} (f : B → A) (items : List B) (counts : List (κ × Nat)) :
    keepFirst limit identity (items.map f) counts =
      (keepFirst limit (identity ∘ f) items counts).map f := by
  induction items generalizing counts with
  | nil => rfl
  | cons item rest ih =>
    simp only [List.map_cons, keepFirst, Function.comp_apply]
    split_ifs
    · exact ih counts
    · rw [List.map_cons, ih]

/-- Something is kept of a list whose first class is not yet full. -/
theorem keepFirst_ne_nil {items : List A} (hitems : items ≠ []) (hlimit : 0 < limit) :
    keepFirst limit identity items [] ≠ [] := by
  cases items with
  | nil => exact absurd rfl hitems
  | cons item rest =>
    have hempty : tally ([] : List (κ × Nat)) (identity item) = 0 := rfl
    unfold keepFirst
    rw [hempty, if_neg (by omega)]
    exact List.cons_ne_nil _ _

theorem head?_keepFirst {items : List A} (hlimit : 0 < limit) :
    (keepFirst limit identity items []).head? = items.head? := by
  cases items with
  | nil => rfl
  | cons item rest =>
    have hempty : tally ([] : List (κ × Nat)) (identity item) = 0 := rfl
    unfold keepFirst
    rw [hempty, if_neg (by omega)]
    rfl

/-- Where a member is dropped, its class is full of members kept before it. -/
theorem full_of_dropped {R : A → A → Prop} [DecidableRel R] {items : List A}
    {counts : List (κ × Nat)} (hordered : items.Pairwise R) {item : A} (hmem : item ∈ items)
    (hdropped : item ∉ keepFirst limit identity items counts) :
    limit ≤ tally counts (identity item) +
      (keepFirst limit identity items counts).countP
        fun kept => identity kept = identity item ∧ R kept item := by
  induction items generalizing counts with
  | nil => simp at hmem
  | cons head rest ih =>
    obtain ⟨hhead, hrest⟩ := List.pairwise_cons.mp hordered
    unfold keepFirst at hdropped ⊢
    split_ifs at hdropped ⊢ with hfull
    · rcases List.mem_cons.mp hmem with rfl | hlater
      · omega
      · exact ih hrest hlater hdropped
    · rw [List.mem_cons, not_or] at hdropped
      obtain ⟨hne, hlaterDropped⟩ := hdropped
      have hlater : item ∈ rest := by
        rcases List.mem_cons.mp hmem with heq | hlater
        · exact absurd heq hne
        · exact hlater
      have hcount := ih hrest hlater hlaterDropped
      rw [tally_cons] at hcount
      rw [List.countP_cons]
      have hbefore := hhead item hlater
      by_cases hclass : identity item = identity head
      · rw [if_pos hclass] at hcount
        rw [if_pos (by simp [hclass, hbefore])]
        rw [hclass] at hcount ⊢
        omega
      · rw [if_neg hclass] at hcount
        omega

variable {S : Type} [LinearOrder S] {width : Nat} {threshold : S} {score : A → S}

theorem selectWithin_sublist (items : List A) (size : Nat) :
    (selectWithin width threshold score items size).Sublist items := by
  induction items generalizing size with
  | nil => exact List.Sublist.refl _
  | cons item rest ih =>
    unfold selectWithin
    split_ifs
    · exact (ih size).cons item
    · exact List.nil_sublist _
    · exact (ih _).cons_cons item

theorem selectWithin_map {B : Type} (f : B → A) (items : List B) (size : Nat) :
    selectWithin width threshold score (items.map f) size =
      (selectWithin width threshold (score ∘ f) items size).map f := by
  induction items generalizing size with
  | nil => rfl
  | cons item rest ih =>
    simp only [List.map_cons, selectWithin, Function.comp_apply]
    split_ifs
    · exact ih size
    · rfl
    · rw [List.map_cons, ih]

/-- A first member of at least the threshold is selected. -/
theorem selectWithin_ne_nil {item : A} {rest : List A} (hwidth : 0 < width)
    (hscore : threshold ≤ score item) :
    selectWithin width threshold score (item :: rest) 0 ≠ [] := by
  unfold selectWithin
  rw [if_neg (not_lt.mpr hscore), if_neg (by omega)]
  exact List.cons_ne_nil _ _

end Keep

/-! ## Trellises -/

/-- A sequence with its last member and its score. -/
structure Entry (C S : Type) where
  path : List C
  terminal : C
  score : S

/-- The layers of a trellis, the scores of its first members, and how a step
between two members acts on a score, if it is possible at all. -/
structure Trellis (C S : Type) [LinearOrder S] where
  layer : Nat → List C
  start : C → S
  advance : Nat → C → C → Option (S → S)
  monotone : ∀ {t a b f}, advance t a b = some f → Monotone f

section Exact

variable {C S κ : Type} [LinearOrder S] [DecidableEq κ] (trellis : Trellis C S)

/-- The sequences that take possible steps only, with their scores. -/
inductive Feasible : Nat → Entry C S → Prop where
  | start {c : C} (hc : c ∈ trellis.layer 0) : Feasible 0 ⟨[c], c, trellis.start c⟩
  | step {t : Nat} {entry : Entry C S} {c : C} {f : S → S} (h : Feasible t entry)
      (hc : c ∈ trellis.layer (t + 1)) (hf : trellis.advance t entry.terminal c = some f) :
      Feasible (t + 1) ⟨entry.path ++ [c], c, f entry.score⟩

/-- Every possible extension of the beam by a member of the next layer. -/
def expand (t : Nat) (beam : List (Entry C S)) : List (Entry C S) :=
  beam.flatMap fun entry => (trellis.layer (t + 1)).filterMap fun c =>
    (trellis.advance t entry.terminal c).map fun f => ⟨entry.path ++ [c], c, f entry.score⟩

variable {trellis} {t : Nat} {beam : List (Entry C S)}

theorem Feasible.length {entry : Entry C S} (h : Feasible trellis t entry) :
    entry.path.length = t + 1 := by
  induction h with
  | start _ => rfl
  | step _ _ _ ih => simp [ih]

theorem Feasible.getLast? {entry : Entry C S} (h : Feasible trellis t entry) :
    entry.path.getLast? = some entry.terminal := by
  cases h with
  | start _ => rfl
  | step _ _ _ => simp

/-- The sequence determines its score. -/
theorem Feasible.unique {left right : Entry C S} (hleft : Feasible trellis t left)
    (hright : Feasible trellis t right) (hpath : left.path = right.path) : left = right := by
  induction hleft generalizing right with
  | start _ =>
    cases hright with
    | start _ =>
      obtain rfl := List.singleton_inj.mp hpath
      rfl
  | @step t entry c f h hc hf ih =>
    cases hright with
    | @step _ other d g hother hd hg =>
      obtain ⟨hfront, hlast⟩ := List.append_inj' hpath rfl
      obtain rfl := List.singleton_inj.mp hlast
      obtain rfl := ih hother hfront
      obtain rfl := Option.some.inj (hf.symm.trans hg)
      rfl

theorem Feasible.terminal_mem {entry : Entry C S} (h : Feasible trellis t entry) :
    entry.terminal ∈ trellis.layer t := by
  cases h with
  | start hc => exact hc
  | step _ hc _ => exact hc

theorem mem_expand {entry : Entry C S} :
    entry ∈ expand trellis t beam ↔
      ∃ previous ∈ beam, ∃ c ∈ trellis.layer (t + 1), ∃ f,
        trellis.advance t previous.terminal c = some f ∧
          entry = ⟨previous.path ++ [c], c, f previous.score⟩ := by
  simp only [expand, List.mem_flatMap, List.mem_filterMap, Option.map_eq_some_iff]
  grind

/-- The number of entries at a member whose score is at least a bound. -/
def countAtLeast (beam : List (Entry C S)) (identity : C → κ) (k : κ) (bound : S) : Nat :=
  beam.countP fun entry => identity entry.terminal = k ∧ bound ≤ entry.score

/-- A beam that lost nothing among the best `limit` of each terminal member: each
sequence it dropped has `limit` kept ones at its terminal that are no worse. -/
structure Lossless (trellis : Trellis C S) (identity : C → κ) (limit t : Nat)
    (beam : List (Entry C S)) : Prop where
  sound : ∀ entry ∈ beam, Feasible trellis t entry
  distinct : (beam.map Entry.path).Nodup
  covered : ∀ entry, Feasible trellis t entry → entry ∈ beam ∨
    limit ≤ countAtLeast beam identity (identity entry.terminal) entry.score

variable {identity : C → κ} {limit : Nat}

/-- Extending entries of one terminal by one member keeps their number. -/
theorem countAtLeast_expand (hbeam : ∀ entry ∈ beam, Feasible trellis t entry)
    {a c : C} {f : S → S} {bound : S} (hc : c ∈ trellis.layer (t + 1))
    (hf : trellis.advance t a c = some f)
    (hidentity : ∀ entry ∈ beam, identity entry.terminal = identity a → entry.terminal = a) :
    countAtLeast beam identity (identity a) bound ≤
      countAtLeast (expand trellis t beam) identity (identity c) (f bound) := by
  unfold countAtLeast expand
  rw [List.countP_flatMap]
  induction beam with
  | nil => exact Nat.le_refl _
  | cons entry rest ih =>
    have hrest := ih (fun other hother => hbeam other (List.mem_cons_of_mem _ hother))
      (fun other hother => hidentity other (List.mem_cons_of_mem _ hother))
    rw [List.countP_cons, List.map_cons, List.sum_cons]
    split_ifs with hcounted
    · simp only [decide_eq_true_eq] at hcounted
      have hterminal := hidentity entry List.mem_cons_self hcounted.1
      have hpos : 0 < ((trellis.layer (t + 1)).filterMap fun d =>
          (trellis.advance t entry.terminal d).map fun g =>
            (⟨entry.path ++ [d], d, g entry.score⟩ : Entry C S)).countP
              fun other => identity other.terminal = identity c ∧ f bound ≤ other.score := by
        apply List.countP_pos_iff.mpr
        refine ⟨⟨entry.path ++ [c], c, f entry.score⟩, ?_, ?_⟩
        · rw [List.mem_filterMap]
          exact ⟨c, hc, by rw [hterminal, hf]; rfl⟩
        · have hmono := trellis.monotone hf hcounted.2
          simpa using hmono
      simp only [Function.comp_apply]
      omega
    · omega

/-- Keeping the first `limit` of each terminal in the order of scores loses none of
the best `limit`. -/
theorem countAtLeast_keepFirst {entries : List (Entry C S)} (hnodup : entries.Nodup)
    (hordered : entries.Pairwise fun left right => right.score ≤ left.score)
    (k : κ) (bound : S) :
    min limit (countAtLeast entries identity k bound) ≤
      countAtLeast (keepFirst limit (fun entry => identity entry.terminal) entries [])
        identity k bound := by
  by_cases hkept : ∀ entry ∈ entries, identity entry.terminal = k → bound ≤ entry.score →
      entry ∈ keepFirst limit (fun entry => identity entry.terminal) entries []
  · apply (min_le_right _ _).trans
    unfold countAtLeast
    rw [List.countP_eq_length_filter, List.countP_eq_length_filter]
    apply (List.subperm_of_subset (hnodup.filter _) _).length_le
    intro entry hentry
    simp only [List.mem_filter, decide_eq_true_eq] at hentry ⊢
    exact ⟨hkept entry hentry.1 hentry.2.1 hentry.2.2, hentry.2⟩
  · push Not at hkept
    obtain ⟨entry, hmem, hclass, hbound, hdropped⟩ := hkept
    have hfull := full_of_dropped (R := fun left right => right.score ≤ left.score)
      hordered hmem hdropped
    have hempty : tally ([] : List (κ × Nat)) (identity entry.terminal) = 0 := rfl
    rw [hempty, Nat.zero_add] at hfull
    apply (min_le_left _ _).trans (hfull.trans _)
    unfold countAtLeast
    apply List.countP_mono_left
    intro other _ hother
    simp only [decide_eq_true_eq] at hother ⊢
    exact ⟨hother.1.trans hclass, hbound.trans hother.2⟩

theorem countAtLeast_perm {entries : List (Entry C S)} (h : beam.Perm entries) (k : κ)
    (bound : S) : countAtLeast beam identity k bound = countAtLeast entries identity k bound :=
  h.countP_eq _

/-- Extensions of distinct sequences by distinct members are distinct. -/
theorem expand_paths_nodup (hbeam : (beam.map Entry.path).Nodup)
    (hlayer : (trellis.layer (t + 1)).Nodup) :
    ((expand trellis t beam).map Entry.path).Nodup := by
  unfold expand
  rw [List.map_flatMap, List.nodup_flatMap]
  constructor
  · intro entry _
    rw [List.map_filterMap]
    apply hlayer.filterMap
    intro c d path hc hd
    simp only [Option.mem_def, Option.map_eq_some_iff] at hc hd
    obtain ⟨_, ⟨_, _, rfl⟩, rfl⟩ := hc
    obtain ⟨_, ⟨_, _, rfl⟩, hpath⟩ := hd
    exact (List.singleton_inj.mp (List.append_cancel_left hpath)).symm
  · rw [List.nodup_iff_pairwise_ne, List.pairwise_map] at hbeam
    apply hbeam.imp
    intro left right hne path hleft hright
    simp only [List.mem_map, List.mem_filterMap, Option.map_eq_some_iff] at hleft hright
    obtain ⟨_, ⟨_, _, _, _, rfl⟩, rfl⟩ := hleft
    obtain ⟨_, ⟨_, _, _, _, rfl⟩, hpath⟩ := hright
    exact hne (List.append_inj' hpath rfl).1.symm

/-- What a beam loses does not depend on its order. -/
theorem Lossless.perm {entries : List (Entry C S)} (h : Lossless trellis identity limit t beam)
    (hentries : entries.Perm beam) : Lossless trellis identity limit t entries where
  sound entry hentry := h.sound entry (hentries.subset hentry)
  distinct := (hentries.map _).nodup_iff.mpr h.distinct
  covered entry hentry := by
    rw [hentries.mem_iff, countAtLeast_perm hentries]
    exact h.covered entry hentry

/-- A beam without extensions that lost nothing has no feasible ones. -/
theorem Lossless.dead (h : Lossless trellis identity limit t beam) (hlimit : 0 < limit)
    (hinjective : ∀ a ∈ trellis.layer t, ∀ b ∈ trellis.layer t, identity a = identity b → a = b)
    (hempty : expand trellis t beam = []) (entry : Entry C S) : ¬ Feasible trellis (t + 1) entry := by
  intro hentry
  cases hentry with
  | @step _ front c f hfront hc hf =>
    have hextends : ∀ other ∈ beam, other.terminal ≠ front.terminal := by
      intro other hother hterminal
      have hexpanded : (⟨other.path ++ [c], c, f other.score⟩ : Entry C S) ∈
          expand trellis t beam :=
        mem_expand.mpr ⟨other, hother, c, hc, f, hterminal ▸ hf, rfl⟩
      rw [hempty] at hexpanded
      simp at hexpanded
    rcases h.covered front hfront with hmem | hfull
    · exact hextends front hmem rfl
    · obtain ⟨other, hother, hcounted⟩ := List.countP_pos_iff.mp (hlimit.trans_le hfull)
      simp only [decide_eq_true_eq] at hcounted
      exact hextends other hother (hinjective _ (h.sound other hother).terminal_mem _
        hfront.terminal_mem hcounted.1)

/-- The whole first layer loses nothing. -/
theorem Lossless.start {entries : List (Entry C S)} (hlayer : (trellis.layer 0).Nodup)
    (hentries : entries.Perm ((trellis.layer 0).map fun c => ⟨[c], c, trellis.start c⟩)) :
    Lossless trellis identity limit 0 entries where
  sound := by
    intro entry hentry
    obtain ⟨c, hc, rfl⟩ := List.mem_map.mp (hentries.mem_iff.mp hentry)
    exact .start hc
  distinct := by
    rw [(hentries.map Entry.path).nodup_iff, List.map_map]
    exact hlayer.map fun c d h => List.singleton_inj.mp h
  covered := by
    intro entry hentry
    cases hentry with
    | start hc => exact Or.inl (hentries.mem_iff.mpr (List.mem_map_of_mem hc))

/-- A step that keeps the best `limit` extensions of each terminal loses nothing
among them.  A sequence whose front was dropped is outdone by the extensions of
the `limit` fronts that outdid it. -/
theorem Lossless.step {entries : List (Entry C S)}
    (h : Lossless trellis identity limit t beam)
    (hlayer : (trellis.layer (t + 1)).Nodup)
    (hinjective : ∀ a ∈ trellis.layer t, ∀ b ∈ trellis.layer t, identity a = identity b → a = b)
    (hentries : entries.Perm (expand trellis t beam))
    (hordered : entries.Pairwise fun left right => right.score ≤ left.score) :
    Lossless trellis identity limit (t + 1)
      (keepFirst limit (fun entry => identity entry.terminal) entries []) := by
  have hpaths : (entries.map Entry.path).Nodup := by
    rw [(hentries.map Entry.path).nodup_iff]
    exact expand_paths_nodup h.distinct hlayer
  have hsublist : (keepFirst limit (fun entry => identity entry.terminal) entries []).Sublist
      entries := keepFirst_sublist entries []
  have hcount (k : κ) (bound : S) : min limit (countAtLeast entries identity k bound) ≤
      countAtLeast (keepFirst limit (fun entry => identity entry.terminal) entries [])
        identity k bound :=
    countAtLeast_keepFirst (List.Nodup.of_map Entry.path hpaths) hordered k bound
  constructor
  · intro entry hentry
    have hexpanded := hentries.mem_iff.mp (hsublist.subset hentry)
    obtain ⟨previous, hprevious, c, hc, f, hf, rfl⟩ := mem_expand.mp hexpanded
    exact .step (h.sound previous hprevious) hc hf
  · exact hpaths.sublist (hsublist.map Entry.path)
  · intro entry hentry
    cases hentry with
    | @step _ front c f hfront hc hf =>
      rcases h.covered front hfront with hmem | hfull
      · have hextended : (⟨front.path ++ [c], c, f front.score⟩ : Entry C S) ∈ entries :=
          hentries.mem_iff.mpr (mem_expand.mpr ⟨front, hmem, c, hc, f, hf, rfl⟩)
        by_cases hkept : (⟨front.path ++ [c], c, f front.score⟩ : Entry C S) ∈
            keepFirst limit (fun entry => identity entry.terminal) entries []
        · exact Or.inl hkept
        · have hdropped := full_of_dropped (R := fun left right => right.score ≤ left.score)
            hordered hextended hkept
          have hempty : tally ([] : List (κ × Nat)) (identity c) = 0 := rfl
          rw [hempty, Nat.zero_add] at hdropped
          exact Or.inr hdropped
      · have hextended : countAtLeast beam identity (identity front.terminal) front.score ≤
            countAtLeast (expand trellis t beam) identity (identity c) (f front.score) :=
          countAtLeast_expand h.sound hc hf fun entry hentry =>
            hinjective _ (h.sound entry hentry).terminal_mem _ hfront.terminal_mem
        rw [← countAtLeast_perm hentries] at hextended
        have hkept := hcount (identity c) (f front.score)
        rw [min_eq_left (hfull.trans hextended)] at hkept
        exact Or.inr hkept

section Best

variable {first : Entry C S} {rest : List (Entry C S)}
  (hordered : (first :: rest).Pairwise fun left right => right.score ≤ left.score)

include hordered

/-- The first of a beam that lost nothing has the greatest score of all. -/
theorem Lossless.best (h : Lossless trellis identity limit t (first :: rest))
    (hlimit : 0 < limit) {entry : Entry C S} (hentry : Feasible trellis t entry) :
    entry.score ≤ first.score := by
  have hfirst : ∀ other ∈ first :: rest, other.score ≤ first.score := by
    intro other hother
    rcases List.mem_cons.mp hother with rfl | hlater
    · exact le_rfl
    · exact (List.pairwise_cons.mp hordered).1 other hlater
  rcases h.covered entry hentry with hmem | hfull
  · exact hfirst entry hmem
  · obtain ⟨other, hother, hcounted⟩ := List.countP_pos_iff.mp (hlimit.trans_le hfull)
    simp only [decide_eq_true_eq] at hcounted
    exact hcounted.2.trans (hfirst other hother)

/-- A sequence other than the first is no better than some later one of the beam. -/
theorem Lossless.later (h : Lossless trellis identity limit t (first :: rest))
    (hlimit : 2 ≤ limit) {entry : Entry C S} (hentry : Feasible trellis t entry)
    (hpath : entry.path ≠ first.path) : ∃ other ∈ rest, entry.score ≤ other.score := by
  rcases h.covered entry hentry with hmem | hfull
  · rcases List.mem_cons.mp hmem with rfl | hlater
    · exact absurd rfl hpath
    · exact ⟨entry, hlater, le_rfl⟩
  · unfold countAtLeast at hfull
    rw [List.countP_cons] at hfull
    have hrest : 0 < rest.countP fun other =>
        identity other.terminal = identity entry.terminal ∧ entry.score ≤ other.score := by
      split_ifs at hfull <;> omega
    obtain ⟨other, hother, hcounted⟩ := List.countP_pos_iff.mp hrest
    simp only [decide_eq_true_eq] at hcounted
    exact ⟨other, hother, hcounted.2⟩

/-- The second of a beam that lost nothing has the greatest score of all others. -/
theorem Lossless.second {second : Entry C S} {others : List (Entry C S)}
    (hrest : rest = second :: others)
    (h : Lossless trellis identity limit t (first :: rest)) (hlimit : 2 ≤ limit)
    {entry : Entry C S} (hentry : Feasible trellis t entry) (hpath : entry.path ≠ first.path) :
    entry.score ≤ second.score := by
  obtain ⟨other, hother, hle⟩ := h.later hordered hlimit hentry hpath
  apply hle.trans
  rw [hrest] at hother hordered
  rcases List.mem_cons.mp hother with rfl | hlater
  · exact le_rfl
  · exact (List.pairwise_cons.mp (List.pairwise_cons.mp hordered).2).1 other hlater

end Best

/-- A beam of one sequence that lost nothing holds the only feasible one. -/
theorem Lossless.single {first : Entry C S} (h : Lossless trellis identity limit t [first])
    (hlimit : 2 ≤ limit) {entry : Entry C S} (hentry : Feasible trellis t entry) :
    entry.path = first.path := by
  by_contra hpath
  obtain ⟨other, hother, -⟩ := h.later (List.pairwise_singleton _ _) hlimit hentry hpath
  simp at hother

end Exact

end CartoSentry.Foundation.BeamSearch
