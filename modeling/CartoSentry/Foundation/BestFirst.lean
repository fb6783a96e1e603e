import Mathlib.Data.List.Chain
import Mathlib.Data.List.Nodup
import Mathlib.Order.Lattice

set_option autoImplicit false

/-!
# Best-first search over walks

A search that keeps a queue of whole walks, always takes the least one, settles
its last node on the first visit and pushes the walk's extensions.  The order of
walks is any linear key that grows along a walk and is preserved by a common
extension; walks beyond a budget are never pushed.

`Frontier` is the invariant of such a search.  Its consequences are that the
taken walk is least among all walks to unsettled nodes, and that an empty queue
leaves no node unsettled that a walk inside the budget reaches.
-/

namespace CartoSentry.Foundation.BestFirst

/-- A walk from `start`, with the node it ends at. -/
inductive Walk {A : Type} (next : A → A → Prop) (start : A) : List A → A → Prop where
  | single : Walk next start [start] start
  | snoc {walk : List A} {a b : A} (h : Walk next start walk a) (hnext : next a b) :
      Walk next start (walk ++ [b]) b

section Walks

variable {A : Type} {next : A → A → Prop} {start : A}

theorem Walk.getLast? {walk : List A} {a : A} (h : Walk next start walk a) :
    walk.getLast? = some a := by
  cases h with
  | single => rfl
  | snoc _ _ => simp

theorem Walk.head? {walk : List A} {a : A} (h : Walk next start walk a) :
    walk.head? = some start := by
  induction h with
  | single => rfl
  | snoc h _ ih =>
    rw [List.head?_append, ih]
    rfl

theorem Walk.ne_nil {walk : List A} {a : A} (h : Walk next start walk a) : walk ≠ [] := by
  intro hnil
  have hhead := h.head?
  simp [hnil] at hhead

theorem Walk.isChain {walk : List A} {a : A} (h : Walk next start walk a) :
    walk.IsChain next := by
  induction h with
  | single => exact List.isChain_singleton _
  | snoc h hnext ih =>
    apply ih.append (List.isChain_singleton _)
    intro last hlast first hfirst
    rw [h.getLast?, Option.mem_some_iff] at hlast
    rw [List.head?_singleton, Option.mem_some_iff] at hfirst
    rw [← hlast, ← hfirst]
    exact hnext

theorem Walk.end_unique {walk : List A} {a b : A} (ha : Walk next start walk a)
    (hb : Walk next start walk b) : a = b := by
  have hlast := ha.getLast?
  rw [hb.getLast?] at hlast
  exact (Option.some.inj hlast).symm

/-- Walks are the chains that begin at the start. -/
theorem walk_iff_isChain {walk : List A} {a : A} :
    Walk next start walk a ↔
      walk.head? = some start ∧ walk.getLast? = some a ∧ walk.IsChain next := by
  constructor
  · intro h
    exact ⟨h.head?, h.getLast?, h.isChain⟩
  · induction walk using List.reverseRecOn generalizing a with
    | nil => simp
    | append_singleton init last ih =>
      intro ⟨hhead, hlast, hchain⟩
      obtain rfl : last = a := by simpa using hlast
      rcases List.eq_nil_or_concat init with rfl | ⟨front, before, rfl⟩
      · obtain rfl : last = start := by simpa using hhead
        exact .single
      · rw [List.isChain_append] at hchain
        obtain ⟨hinit, -, hjoin⟩ := hchain
        have hbefore := ih (a := before) ⟨by simpa using hhead, by simp, hinit⟩
        exact .snoc hbefore (hjoin before (by simp) last (by simp))

end Walks

/-- A search problem: the order of walks and the budget they must respect. -/
structure Problem (A K : Type) [LinearOrder K] where
  next : A → A → Prop
  start : A
  key : List A → K
  within : List A → Prop
  /-- A walk is less than its extensions. -/
  key_extend : ∀ {walk a b}, Walk next start walk a → next a b → key walk < key (walk ++ [b])
  /-- A common extension keeps the order. -/
  key_append : ∀ {left right a b}, Walk next start left a → Walk next start right a →
    next a b → key left ≤ key right → key (left ++ [b]) ≤ key (right ++ [b])
  /-- A walk less than one inside the budget is inside it. -/
  within_of_le : ∀ {left right a b}, Walk next start left a → Walk next start right b →
    key left ≤ key right → within right → within left

section Search

variable {A K : Type} [LinearOrder K] (problem : Problem A K)

/-- A walk of the problem inside its budget. -/
def Problem.Reaches (walk : List A) (a : A) : Prop :=
  Walk problem.next problem.start walk a ∧ problem.within walk

variable {problem}

theorem Problem.Reaches.init {walk : List A} {a b : A}
    (hwalk : Walk problem.next problem.start walk a) (hnext : problem.next a b)
    (hwithin : problem.within (walk ++ [b])) : problem.Reaches walk a :=
  ⟨hwalk, problem.within_of_le hwalk (.snoc hwalk hnext) (problem.key_extend hwalk hnext).le hwithin⟩

variable (problem)

/-- The invariant of a best-first search with the given queue of walks and the
given settled nodes. -/
structure Frontier (queue : List (List A × A)) (settled : List (A × List A)) : Prop where
  queued : ∀ item ∈ queue, problem.Reaches item.1 item.2
  reached : ∀ label ∈ settled, problem.Reaches label.2 label.1
  /-- The nodes are settled in the order of their keys. -/
  before : ∀ label ∈ settled, ∀ item ∈ queue, problem.key label.2 ≤ problem.key item.1
  /-- A settled walk is least among the walks to its node. -/
  least : ∀ label ∈ settled, ∀ walk, problem.Reaches walk label.1 →
    problem.key label.2 ≤ problem.key walk
  /-- Every extension of a settled walk is settled or queued. -/
  expanded : ∀ label ∈ settled, ∀ b, problem.next label.1 b →
    problem.within (label.2 ++ [b]) →
      b ∈ settled.map Prod.fst ∨ (label.2 ++ [b], b) ∈ queue
  origin : problem.start ∈ settled.map Prod.fst ∨ ([problem.start], problem.start) ∈ queue
  distinct : (settled.map Prod.fst).Nodup

variable {problem} {queue : List (List A × A)} {settled : List (A × List A)}

theorem Frontier.initial (problem : Problem A K) (hwithin : problem.within [problem.start]) :
    Frontier problem [([problem.start], problem.start)] [] where
  queued := by
    intro item hitem
    rw [List.mem_singleton] at hitem
    rw [hitem]
    exact ⟨.single, hwithin⟩
  reached := by simp
  before := by simp
  least := by simp
  expanded := by simp
  origin := Or.inr (List.mem_singleton.mpr rfl)
  distinct := List.nodup_nil

/-- A walk to an unsettled node is no less than some queued walk to an unsettled
node.  By induction on the walk: its front is settled, and then the extension of
the settled walk is queued, or some queued walk is already no greater. -/
theorem Frontier.queued_le (h : Frontier problem queue settled) {walk : List A} {a : A}
    (hreach : problem.Reaches walk a) (hunsettled : a ∉ settled.map Prod.fst) :
    ∃ item ∈ queue, item.2 ∉ settled.map Prod.fst ∧ problem.key item.1 ≤ problem.key walk := by
  obtain ⟨hwalk, hwithin⟩ := hreach
  induction hwalk with
  | single =>
    cases h.origin with
    | inl hsettled => exact absurd hsettled hunsettled
    | inr hqueued => exact ⟨_, hqueued, hunsettled, le_rfl⟩
  | @snoc front before last hfront hnext ih =>
    have hinit := Problem.Reaches.init hfront hnext hwithin
    by_cases hbefore : before ∈ settled.map Prod.fst
    · obtain ⟨label, hlabel, hnode⟩ := List.mem_map.mp hbefore
      have hlabelWalk := (h.reached label hlabel).1
      rw [hnode] at hlabelWalk
      have hle := h.least label hlabel front (by rw [hnode]; exact hinit)
      have hext := problem.key_append hlabelWalk hfront hnext hle
      have hin : problem.within (label.2 ++ [last]) :=
        problem.within_of_le (.snoc hlabelWalk hnext) (.snoc hfront hnext) hext hwithin
      cases h.expanded label hlabel last (by rw [hnode]; exact hnext) hin with
      | inl hsettled => exact absurd hsettled hunsettled
      | inr hqueued => exact ⟨_, hqueued, hunsettled, hext⟩
    · obtain ⟨item, hitem, hfree, hle⟩ := ih hbefore hinit.2
      exact ⟨item, hitem, hfree, hle.trans (problem.key_extend hfront hnext).le⟩

/-- An empty queue leaves nothing inside the budget unsettled. -/
theorem Frontier.exhausted (h : Frontier problem [] settled) {walk : List A} {a : A}
    (hreach : problem.Reaches walk a) : a ∈ settled.map Prod.fst := by
  by_contra hunsettled
  obtain ⟨item, hitem, -⟩ := h.queued_le hreach hunsettled
  simp at hitem

section Take

variable {walk : List A} {a : A} {rest : List (List A × A)}
  (h : Frontier problem ((walk, a) :: rest) settled)
  (hleast : ∀ item ∈ rest, problem.key walk ≤ problem.key item.1)

include h hleast

/-- The least queued walk is no greater than any walk to an unsettled node. -/
theorem Frontier.taken_le {other : List A} {b : A} (hreach : problem.Reaches other b)
    (hunsettled : b ∉ settled.map Prod.fst) : problem.key walk ≤ problem.key other := by
  obtain ⟨item, hitem, -, hle⟩ := h.queued_le hreach hunsettled
  cases List.mem_cons.mp hitem with
  | inl heq => rwa [heq] at hle
  | inr hrest => exact (hleast item hrest).trans hle

/-- Settling the least walk and pushing its extensions keeps the invariant. -/
theorem Frontier.settle (hunsettled : a ∉ settled.map Prod.fst)
    {pushed : List (List A × A)}
    (hpushed : ∀ item, item ∈ pushed ↔ item ∈ rest ∨
      ∃ b, problem.next a b ∧ problem.within (walk ++ [b]) ∧ item = (walk ++ [b], b)) :
    Frontier problem pushed ((a, walk) :: settled) := by
  have htaken := h.queued (walk, a) List.mem_cons_self
  have hrest {item : List A × A} (hitem : item ∈ rest) : item ∈ (walk, a) :: rest :=
    List.mem_cons_of_mem _ hitem
  constructor
  · intro item hitem
    cases (hpushed item).mp hitem with
    | inl hold => exact h.queued item (hrest hold)
    | inr hnew =>
      obtain ⟨b, hnext, hwithin, rfl⟩ := hnew
      exact ⟨.snoc htaken.1 hnext, hwithin⟩
  · intro label hlabel
    cases List.mem_cons.mp hlabel with
    | inl heq => rw [heq]; exact htaken
    | inr hold => exact h.reached label hold
  · intro label hlabel item hitem
    have hwalk : problem.key walk ≤ problem.key item.1 := by
      cases (hpushed item).mp hitem with
      | inl hold => exact hleast item hold
      | inr hnew =>
        obtain ⟨b, hnext, -, rfl⟩ := hnew
        exact (problem.key_extend htaken.1 hnext).le
    cases List.mem_cons.mp hlabel with
    | inl heq => rw [heq]; exact hwalk
    | inr hold => exact (h.before label hold (walk, a) List.mem_cons_self).trans hwalk
  · intro label hlabel other hreach
    cases List.mem_cons.mp hlabel with
    | inl heq =>
      rw [heq] at hreach ⊢
      exact h.taken_le hleast hreach hunsettled
    | inr hold => exact h.least label hold other hreach
  · intro label hlabel b hnext hwithin
    rw [List.map_cons]
    cases List.mem_cons.mp hlabel with
    | inl heq =>
      rw [heq] at hnext hwithin ⊢
      exact Or.inr ((hpushed _).mpr (Or.inr ⟨b, hnext, hwithin, rfl⟩))
    | inr hold =>
      cases h.expanded label hold b hnext hwithin with
      | inl hsettled => exact Or.inl (List.mem_cons_of_mem _ hsettled)
      | inr hqueued =>
        cases List.mem_cons.mp hqueued with
        | inl heq =>
          obtain ⟨-, rfl⟩ := Prod.mk.inj heq
          exact Or.inl List.mem_cons_self
        | inr hitem => exact Or.inr ((hpushed _).mpr (Or.inl hitem))
  · rw [List.map_cons]
    cases h.origin with
    | inl hsettled => exact Or.inl (List.mem_cons_of_mem _ hsettled)
    | inr hqueued =>
      cases List.mem_cons.mp hqueued with
      | inl heq =>
        obtain ⟨-, hnode⟩ := Prod.mk.inj heq
        exact Or.inl (by rw [hnode]; exact List.mem_cons_self)
      | inr hitem => exact Or.inr ((hpushed _).mpr (Or.inl hitem))
  · rw [List.map_cons, List.nodup_cons]
    exact ⟨hunsettled, h.distinct⟩

end Take

/-- Dropping a queued walk whose node is settled keeps the invariant. -/
theorem Frontier.discard {walk : List A} {a : A} {rest : List (List A × A)}
    (h : Frontier problem ((walk, a) :: rest) settled) (hsettled : a ∈ settled.map Prod.fst) :
    Frontier problem rest settled where
  queued item hitem := h.queued item (List.mem_cons_of_mem _ hitem)
  reached := h.reached
  before label hlabel item hitem := h.before label hlabel item (List.mem_cons_of_mem _ hitem)
  least := h.least
  expanded := by
    intro label hlabel b hnext hwithin
    cases h.expanded label hlabel b hnext hwithin with
    | inl hold => exact Or.inl hold
    | inr hqueued =>
      cases List.mem_cons.mp hqueued with
      | inl heq =>
        obtain ⟨-, rfl⟩ := Prod.mk.inj heq
        exact Or.inl hsettled
      | inr hitem => exact Or.inr hitem
  origin := by
    cases h.origin with
    | inl hold => exact Or.inl hold
    | inr hqueued =>
      cases List.mem_cons.mp hqueued with
      | inl heq =>
        obtain ⟨-, hnode⟩ := Prod.mk.inj heq
        exact Or.inl (by rw [hnode]; exact hsettled)
      | inr hitem => exact Or.inr hitem
  distinct := h.distinct

end Search

end CartoSentry.Foundation.BestFirst
