import Mathlib.Data.List.Basic
import Mathlib.Data.List.Nodup

set_option autoImplicit false

/-!
# Graphs listed in dependency order

A dependency graph is a list of nodes, each with the nodes it depends on.  It is
ordered when every node is new and depends only on nodes listed before it, which
makes it acyclic.  `closure` adds to one node everything downstream of it by
passes over the list until a pass changes nothing, and it is exactly the set of
nodes reachable along dependencies.
-/

namespace CartoSentry.Foundation

variable {α : Type}

/-- With distinct keys, `lookup` finds every item of a list. -/
theorem lookup_of_mem {β : Type} [BEq α] [LawfulBEq α] : ∀ {items : List (α × β)} {item : α × β},
    (items.map Prod.fst).Nodup → item ∈ items → items.lookup item.1 = some item.2 := by
  intro items item
  induction items with
  | nil => intro _ hitem; simp at hitem
  | cons first rest ih =>
    intro hnodup hitem
    rw [List.map_cons, List.nodup_cons] at hnodup
    rw [List.lookup_cons]
    rcases List.mem_cons.mp hitem with rfl | hitem
    · simp
    · have hne : item.1 ≠ first.1 := fun heq => hnodup.1 (heq ▸ List.mem_map_of_mem hitem)
      rw [beq_false_of_ne hne]
      exact ih hnodup.2 hitem

/-- Nodes with what they depend on, in list order. -/
abbrev DependencyGraph (α : Type) : Type := List (α × List α)

/-- Every node is new and depends only on nodes in `seen` or earlier in the list. -/
def OrderedAfter : List α → DependencyGraph α → Prop
  | _, [] => True
  | seen, item :: rest =>
    item.1 ∉ seen ∧ (∀ u ∈ item.2, u ∈ seen) ∧ OrderedAfter (seen ++ [item.1]) rest

namespace DependencyGraph

/-- The graph is listed in dependency order. -/
def Ordered (graph : DependencyGraph α) : Prop := OrderedAfter [] graph

/-- The nodes, in list order. -/
def nodes (graph : DependencyGraph α) : List α := graph.map Prod.fst

@[simp] theorem nodes_nil : nodes ([] : DependencyGraph α) = [] := rfl

@[simp] theorem nodes_cons (item : α × List α) (rest : DependencyGraph α) :
    nodes (item :: rest) = item.1 :: nodes rest := rfl

@[simp] theorem nodes_append (left right : DependencyGraph α) :
    nodes (left ++ right) = nodes left ++ nodes right := by
  simp [nodes]

theorem mem_nodes {graph : DependencyGraph α} {item : α × List α} (h : item ∈ graph) :
    item.1 ∈ nodes graph :=
  List.mem_map_of_mem h

/-- `y` is `x` or depends on it through any number of nodes. -/
inductive Downstream (graph : DependencyGraph α) (x : α) : α → Prop
  | refl : Downstream graph x x
  | step {y : α} {item : α × List α} (h : Downstream graph x y) (hitem : item ∈ graph)
      (hdep : y ∈ item.2) : Downstream graph x item.1

end DependencyGraph

open DependencyGraph

/-! ## What the order says -/

theorem OrderedAfter.append_right : ∀ {seen : List α} {front back : DependencyGraph α},
    OrderedAfter seen (front ++ back) → OrderedAfter (seen ++ nodes front) back := by
  intro seen front
  induction front generalizing seen with
  | nil => intro back h; simpa using h
  | cons item front ih =>
    intro back h
    have := ih h.2.2
    simpa using this

theorem OrderedAfter.append_left : ∀ {seen : List α} {front back : DependencyGraph α},
    OrderedAfter seen (front ++ back) → OrderedAfter seen front := by
  intro seen front
  induction front generalizing seen with
  | nil => intro back _; trivial
  | cons item front ih =>
    intro back h
    exact ⟨h.1, h.2.1, ih h.2.2⟩

theorem OrderedAfter.not_mem_seen : ∀ {seen : List α} {graph : DependencyGraph α},
    OrderedAfter seen graph → ∀ x ∈ nodes graph, x ∉ seen := by
  intro seen graph
  induction graph generalizing seen with
  | nil => intro _ x hx; simp at hx
  | cons item rest ih =>
    intro h x hx hseen
    rcases List.mem_cons.mp hx with rfl | hx
    · exact h.1 hseen
    · exact ih h.2.2 x hx (List.mem_append_left _ hseen)

theorem OrderedAfter.nodup_nodes : ∀ {seen : List α} {graph : DependencyGraph α},
    OrderedAfter seen graph → (nodes graph).Nodup := by
  intro seen graph
  induction graph generalizing seen with
  | nil => intro _; simp
  | cons item rest ih =>
    intro h
    rw [nodes_cons, List.nodup_cons]
    refine ⟨fun hmem => ?_, ih h.2.2⟩
    exact h.2.2.not_mem_seen item.1 hmem (by simp)

/-- A node's dependencies were listed before it. -/
theorem OrderedAfter.dependency_seen : ∀ {seen : List α} {graph : DependencyGraph α},
    OrderedAfter seen graph → ∀ item ∈ graph, ∀ u ∈ item.2, u ∈ seen ++ nodes graph := by
  intro seen graph
  induction graph generalizing seen with
  | nil => intro _ item hitem; simp at hitem
  | cons first rest ih =>
    intro h item hitem u hu
    rcases List.mem_cons.mp hitem with rfl | hitem
    · exact List.mem_append_left _ (h.2.1 u hu)
    · have := ih h.2.2 item hitem u hu
      simpa using this

/-- Along the order one can solve for the nodes one by one, when the equation of a
node speaks of it and its dependencies only and can be solved for it. -/
theorem OrderedAfter.exists_solution {β γ : Type} [DecidableEq α] {node : γ → α}
    {dependencies : γ → List α} {R : (α → β) → γ → Prop}
    (hcongr : ∀ f g c, f (node c) = g (node c) → (∀ u ∈ dependencies c, f u = g u) →
      R f c → R g c) :
    ∀ {items : List γ} {seen : List α},
      OrderedAfter seen (items.map (fun c => (node c, dependencies c))) →
      (∀ c ∈ items, node c ∉ dependencies c → ∀ f : α → β, ∃ b,
        R (Function.update f (node c) b) c) →
      ∀ f : α → β, ∃ g, (∀ x ∈ seen, g x = f x) ∧ ∀ c ∈ items, R g c := by
  intro items
  induction items with
  | nil => intro seen _ _ f; exact ⟨f, fun _ _ => rfl, by simp⟩
  | cons c rest ih =>
    intro seen hordered hsolve f
    obtain ⟨hnew, hseen, hrest⟩ := hordered
    have hself : node c ∉ dependencies c := fun hdep => hnew (hseen _ hdep)
    obtain ⟨b, hb⟩ := hsolve c List.mem_cons_self hself f
    obtain ⟨g, hg, hR⟩ := ih hrest (fun d hd => hsolve d (List.mem_cons_of_mem _ hd))
      (Function.update f (node c) b)
    -- what was solved before is kept by the rest
    have hkept : ∀ x ∈ seen, g x = Function.update f (node c) b x :=
      fun x hx => hg x (List.mem_append_left _ hx)
    refine ⟨g, fun x hx => ?_, fun d hd => ?_⟩
    · have hne : x ≠ node c := by
        rintro rfl
        exact hnew hx
      rw [hkept x hx, Function.update_of_ne hne]
    · rcases List.mem_cons.mp hd with rfl | hd
      · refine hcongr _ g d (hg _ (by simp)).symm (fun u hu => (hkept u (hseen u hu)).symm) hb
      · exact hR d hd

namespace DependencyGraph.Ordered

variable {graph front back : DependencyGraph α} {item : α × List α}

theorem nodup (h : graph.Ordered) : (nodes graph).Nodup := OrderedAfter.nodup_nodes h

/-- The dependencies of a node come before it. -/
theorem dependency_mem_front (h : (front ++ item :: back).Ordered) :
    ∀ u ∈ item.2, u ∈ nodes front := by
  have hback : OrderedAfter (nodes front) (item :: back) := by
    simpa using OrderedAfter.append_right h
  exact hback.2.1

theorem not_mem_front (h : (front ++ item :: back).Ordered) : item.1 ∉ nodes front := by
  have hback : OrderedAfter (nodes front) (item :: back) := by
    simpa using OrderedAfter.append_right h
  exact hback.1

theorem dependency_mem (h : graph.Ordered) {item : α × List α} (hitem : item ∈ graph) {u : α}
    (hu : u ∈ item.2) : u ∈ nodes graph := by
  simpa using OrderedAfter.dependency_seen h item hitem u hu

/-- No node depends on itself. -/
theorem not_mem_dependencies (h : graph.Ordered) {item : α × List α} (hitem : item ∈ graph) :
    item.1 ∉ item.2 := by
  intro hself
  obtain ⟨front, back, rfl⟩ := List.append_of_mem hitem
  exact h.not_mem_front (h.dependency_mem_front item.1 hself)

/-- Nodes are listed once, so a node has one list of dependencies. -/
theorem eq_of_node_eq (h : graph.Ordered) {left right : α × List α} (hleft : left ∈ graph)
    (hright : right ∈ graph) (hnode : left.1 = right.1) : left = right :=
  List.inj_on_of_nodup_map h.nodup hleft hright hnode

/-- Everything downstream of a node is listed at or after it. -/
theorem downstream_not_mem_front (h : (front ++ item :: back).Ordered) {y : α}
    (hy : Downstream (front ++ item :: back) item.1 y) : y ∉ nodes front := by
  induction hy with
  | refl => exact h.not_mem_front
  | @step x next _ hnext hdep ih =>
    intro hmem
    obtain ⟨listed, hlisted, hnode⟩ := List.mem_map.mp hmem
    have hsame : listed = next :=
      h.eq_of_node_eq (List.mem_append_left _ hlisted) hnext hnode
    subst hsame
    have hfront : front.Ordered := OrderedAfter.append_left h
    exact ih (hfront.dependency_mem hlisted hdep)

end DependencyGraph.Ordered

/-! ## The downstream closure -/

section Closure

variable [DecidableEq α]

/-- One pass over the list, adding each node that depends on one already in. -/
def closurePass : DependencyGraph α → List α → List α
  | [], affected => affected
  | item :: rest, affected =>
    if item.1 ∈ affected then closurePass rest affected
    else if item.2.any (· ∈ affected) then closurePass rest (item.1 :: affected)
    else closurePass rest affected

/-- Passes until one changes nothing. -/
def closureLoop (graph : DependencyGraph α) : Nat → List α → List α
  | 0, affected => affected
  | fuel + 1, affected =>
    let next := closurePass graph affected
    if next.length = affected.length then next else closureLoop graph fuel next

/-- The node and everything downstream of it, in list order. -/
def closure (graph : DependencyGraph α) (x : α) : List α :=
  (nodes graph).filter (· ∈ closureLoop graph graph.length [x])

/-- No node outside `affected` depends on one inside. -/
def ClosedUnder (graph : DependencyGraph α) (affected : List α) : Prop :=
  ∀ item ∈ graph, ∀ u ∈ item.2, u ∈ affected → item.1 ∈ affected

theorem subset_closurePass : ∀ (graph : DependencyGraph α) (affected : List α),
    affected ⊆ closurePass graph affected := by
  intro graph
  induction graph with
  | nil => intro affected; exact List.Subset.refl _
  | cons item rest ih =>
    intro affected
    unfold closurePass
    split
    · exact ih affected
    · split
      · exact fun x hx => ih _ (List.mem_cons_of_mem _ hx)
      · exact ih affected

theorem length_le_closurePass : ∀ (graph : DependencyGraph α) (affected : List α),
    affected.length ≤ (closurePass graph affected).length := by
  intro graph
  induction graph with
  | nil => intro affected; exact Nat.le_refl _
  | cons item rest ih =>
    intro affected
    unfold closurePass
    split
    · exact ih affected
    · split
      · have := ih (item.1 :: affected)
        simp only [List.length_cons] at this
        omega
      · exact ih affected

/-- A pass that adds nothing has found a closed set. -/
theorem closed_of_closurePass_length : ∀ (graph : DependencyGraph α) (affected : List α),
    (closurePass graph affected).length = affected.length →
      closurePass graph affected = affected ∧ ClosedUnder graph affected := by
  intro graph
  induction graph with
  | nil => intro affected _; exact ⟨rfl, fun item hitem => by simp at hitem⟩
  | cons item rest ih =>
    intro affected hlength
    unfold closurePass at hlength ⊢
    by_cases hmem : item.1 ∈ affected
    · rw [if_pos hmem] at hlength ⊢
      obtain ⟨hsame, hclosed⟩ := ih affected hlength
      refine ⟨hsame, fun other hother u hu hua => ?_⟩
      rcases List.mem_cons.mp hother with rfl | hother
      · exact hmem
      · exact hclosed other hother u hu hua
    · rw [if_neg hmem] at hlength ⊢
      by_cases hdep : item.2.any (· ∈ affected) = true
      · rw [if_pos hdep] at hlength
        have := length_le_closurePass rest (item.1 :: affected)
        simp only [List.length_cons] at this
        omega
      · rw [if_neg hdep] at hlength ⊢
        obtain ⟨hsame, hclosed⟩ := ih affected hlength
        refine ⟨hsame, fun other hother u hu hua => ?_⟩
        rcases List.mem_cons.mp hother with rfl | hother
        · exact absurd (List.any_eq_true.mpr ⟨u, hu, by simpa using hua⟩) hdep
        · exact hclosed other hother u hu hua

/-- A pass adds only nodes downstream of what is already in. -/
theorem downstream_of_mem_closurePass {graph : DependencyGraph α} {x : α} :
    ∀ (rest : DependencyGraph α) (affected : List α), (∀ item ∈ rest, item ∈ graph) →
      (∀ y ∈ affected, Downstream graph x y) →
      ∀ y ∈ closurePass rest affected, Downstream graph x y := by
  intro rest
  induction rest with
  | nil => intro affected _ haffected; exact haffected
  | cons item rest ih =>
    intro affected hsub haffected
    have hrest : ∀ other ∈ rest, other ∈ graph :=
      fun other hother => hsub other (List.mem_cons_of_mem _ hother)
    unfold closurePass
    split
    · exact ih affected hrest haffected
    · split
      · rename_i hdep
        obtain ⟨u, hu, hua⟩ := List.any_eq_true.mp hdep
        refine ih (item.1 :: affected) hrest (fun y hy => ?_)
        rcases List.mem_cons.mp hy with rfl | hy
        · exact .step (haffected u (by simpa using hua)) (hsub item List.mem_cons_self) hu
        · exact haffected y hy
      · exact ih affected hrest haffected

theorem downstream_of_mem_closureLoop {graph : DependencyGraph α} {x : α} :
    ∀ (fuel : Nat) (affected : List α), (∀ y ∈ affected, Downstream graph x y) →
      ∀ y ∈ closureLoop graph fuel affected, Downstream graph x y := by
  intro fuel
  induction fuel with
  | zero => intro affected h; exact h
  | succ fuel ih =>
    intro affected h
    have hnext := downstream_of_mem_closurePass graph affected (fun _ hitem => hitem) h
    unfold closureLoop
    dsimp only
    split
    · exact hnext
    · exact ih _ hnext

theorem subset_closureLoop {graph : DependencyGraph α} : ∀ (fuel : Nat) (affected : List α),
    affected ⊆ closureLoop graph fuel affected := by
  intro fuel
  induction fuel with
  | zero => intro affected; exact List.Subset.refl _
  | succ fuel ih =>
    intro affected
    unfold closureLoop
    dsimp only
    split
    · exact subset_closurePass graph affected
    · exact fun x hx => ih _ (subset_closurePass graph affected hx)

/-- The nodes still outside `affected`, which bound the number of passes. -/
def outside (graph : DependencyGraph α) (affected : List α) : Nat :=
  graph.countP (fun item => item.1 ∉ affected)

theorem outside_closurePass_le : ∀ (rest graph : DependencyGraph α) (affected : List α),
    (∀ item ∈ rest, item ∈ graph) →
    outside graph (closurePass rest affected) +
      ((closurePass rest affected).length - affected.length) ≤ outside graph affected := by
  intro rest graph
  induction rest with
  | nil => intro affected _; simp [closurePass]
  | cons item rest ih =>
    intro affected hsub
    have hrest : ∀ other ∈ rest, other ∈ graph :=
      fun other hother => hsub other (List.mem_cons_of_mem _ hother)
    unfold closurePass
    split
    · exact ih affected hrest
    · rename_i hnew
      split
      · have hle := ih (item.1 :: affected) hrest
        have hlength := length_le_closurePass rest (item.1 :: affected)
        have hdrop : outside graph (item.1 :: affected) + 1 ≤ outside graph affected := by
          obtain ⟨front, back, rfl⟩ := List.append_of_mem (hsub item List.mem_cons_self)
          have hmono : ∀ part : DependencyGraph α,
              outside part (item.1 :: affected) ≤ outside part affected := by
            intro part
            refine List.countP_mono_left (fun other _ hother => ?_)
            simp only [decide_eq_true_eq, List.mem_cons, not_or] at hother ⊢
            exact hother.2
          have hfront := hmono front
          have hback := hmono back
          unfold outside at hfront hback ⊢
          simp only [List.countP_append, List.countP_cons, List.mem_cons, true_or,
            not_true_eq_false, decide_false, hnew, not_false_eq_true, decide_true]
          simp only [List.mem_cons] at hfront hback
          simp only [Bool.false_eq_true, if_false, if_true]
          omega
        simp only [List.length_cons] at hle hlength
        omega
      · exact ih affected hrest

theorem closureLoop_closed {graph : DependencyGraph α} : ∀ (fuel : Nat) (affected : List α),
    outside graph affected ≤ fuel → ClosedUnder graph (closureLoop graph fuel affected) := by
  intro fuel
  induction fuel with
  | zero =>
    intro affected hfuel item hitem u _ _
    have hzero : outside graph affected = 0 := Nat.le_zero.mp hfuel
    have hin := List.countP_eq_zero.mp hzero item hitem
    simpa [closureLoop] using hin
  | succ fuel ih =>
    intro affected hfuel
    unfold closureLoop
    dsimp only
    split
    · rename_i hlength
      obtain ⟨hsame, hclosed⟩ := closed_of_closurePass_length graph affected hlength
      rwa [hsame]
    · rename_i hlength
      have hle := outside_closurePass_le graph graph affected (fun _ hitem => hitem)
      have hgrow := length_le_closurePass graph affected
      exact ih _ (by omega)

theorem closureLoop_length_closed (graph : DependencyGraph α) (affected : List α) :
    ClosedUnder graph (closureLoop graph graph.length affected) :=
  closureLoop_closed graph.length affected List.countP_le_length

theorem mem_nodes_of_mem_closure {graph : DependencyGraph α} {x y : α}
    (h : y ∈ closure graph x) : y ∈ nodes graph :=
  List.mem_of_mem_filter h

theorem mem_closure_self {graph : DependencyGraph α} {x : α} (h : x ∈ nodes graph) :
    x ∈ closure graph x := by
  refine List.mem_filter.mpr ⟨h, ?_⟩
  exact decide_eq_true (subset_closureLoop graph.length [x] (by simp))

theorem downstream_of_mem_closure {graph : DependencyGraph α} {x y : α}
    (h : y ∈ closure graph x) : Downstream graph x y := by
  have hloop : y ∈ closureLoop graph graph.length [x] :=
    of_decide_eq_true (List.mem_filter.mp h).2
  refine downstream_of_mem_closureLoop graph.length [x] (fun z hz => ?_) y hloop
  rw [List.mem_singleton.mp hz]
  exact .refl

/-- The closure contains every node that depends on one of its own. -/
theorem closure_closed {graph : DependencyGraph α} {x : α} : ClosedUnder graph (closure graph x) := by
  intro item hitem u hu hmem
  have hloop : u ∈ closureLoop graph graph.length [x] :=
    of_decide_eq_true (List.mem_filter.mp hmem).2
  refine List.mem_filter.mpr ⟨mem_nodes hitem, decide_eq_true ?_⟩
  exact closureLoop_length_closed graph [x] item hitem u hu hloop

/-- The closure of a listed node is exactly what lies downstream of it. -/
theorem mem_closure_iff {graph : DependencyGraph α} {x : α} (hx : x ∈ nodes graph) {y : α} :
    y ∈ closure graph x ↔ Downstream graph x y := by
  refine ⟨downstream_of_mem_closure, fun h => ?_⟩
  induction h with
  | refl => exact mem_closure_self hx
  | step _ hitem hdep ih => exact closure_closed _ hitem _ hdep ih

end Closure

end CartoSentry.Foundation
