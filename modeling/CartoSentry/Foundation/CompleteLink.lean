import CartoSentry.Foundation.Outcome
import Mathlib.Data.List.Pairwise

set_option autoImplicit false

/-!
# Greedy complete-link clusters

Items are placed one after the other, each into the first cluster all of whose members
it is linked to, and into a cluster of its own where there is none.  The test of a link
may fail, and so may the opening of one cluster too many.
-/

namespace CartoSentry.Foundation

variable {A B E : Type}

/-! ## The placement of an item -/

/-- The item is linked to all members; the first that it is not linked to ends the
test. -/
def allLinked (link : A → A → Except E Bool) (item : A) : List A → Except E Bool
  | [] => .ok true
  | member :: rest => do
    if ← link item member then allLinked link item rest else pure false

/-- The clusters with the item in the first that takes it. -/
def assign (link : A → A → Except E Bool) (item : A) : List (List A) → Except E (Option (List (List A)))
  | [] => .ok none
  | members :: rest => do
    if ← allLinked link item members then pure (some ((members ++ [item]) :: rest))
    else
      let assigned ← assign link item rest
      pure (assigned.map fun updated => members :: updated)

def place (link : A → A → Except E Bool) (full : E) (maximum : Nat) (clusters : List (List A))
    (item : A) : Except E (List (List A)) := do
  match ← assign link item clusters with
  | some updated => pure updated
  | none => if maximum ≤ clusters.length then .error full else pure (clusters ++ [[item]])

def completeLink (link : A → A → Except E Bool) (full : E) (maximum : Nat) (items : List A) :
    Except E (List (List A)) :=
  items.foldlM (place link full maximum) []

variable {link : A → A → Except E Bool} {full : E} {maximum : Nat}

/-! ## What a placement does -/

theorem allLinked_true {item : A} {members : List A} (h : allLinked link item members = .ok true) :
    ∀ member ∈ members, link item member = .ok true := by
  induction members with
  | nil => exact fun member hmember => nomatch hmember
  | cons head rest ih =>
    obtain ⟨linked, hlinked, h⟩ := bind_eq_ok_iff.mp h
    cases linked with
    | false => cases h
    | true => exact List.forall_mem_cons.mpr ⟨hlinked, ih h⟩

theorem allLinked_false {item : A} {members : List A}
    (h : allLinked link item members = .ok false) :
    ∃ member ∈ members, link item member = .ok false := by
  induction members with
  | nil => cases h
  | cons head rest ih =>
    obtain ⟨linked, hlinked, h⟩ := bind_eq_ok_iff.mp h
    cases linked with
    | false => exact ⟨head, List.mem_cons_self, hlinked⟩
    | true =>
      obtain ⟨member, hmember, hrefused⟩ := ih h
      exact ⟨member, List.mem_cons_of_mem _ hmember, hrefused⟩

/-- The cluster has a member that the item is not linked to. -/
def Refused (link : A → A → Except E Bool) (item : A) (members : List A) : Prop :=
  ∃ member ∈ members, link item member = .ok false

/-- The item stands behind the members of a cluster, all of which it is linked to, and
the clusters before refuse it.  A cluster of its own had no members. -/
structure Placed (link : A → A → Except E Bool) (item : A) (clusters updated : List (List A)) :
    Prop where
  split : ∃ before members after, (clusters = before ++ members :: after ∨
      clusters = before ∧ members = [] ∧ after = []) ∧
    updated = before ++ (members ++ [item]) :: after ∧
    (∀ cluster ∈ before, Refused link item cluster) ∧
    ∀ member ∈ members, link item member = .ok true

theorem assign_some {item : A} {clusters updated : List (List A)}
    (h : assign link item clusters = .ok (some updated)) : Placed link item clusters updated := by
  induction clusters generalizing updated with
  | nil => cases h
  | cons members rest ih =>
    obtain ⟨linked, hlinked, h⟩ := bind_eq_ok_iff.mp h
    cases linked with
    | true =>
      cases h
      exact ⟨[], members, rest, Or.inl rfl, rfl, (fun _ hmem => nomatch hmem),
        allLinked_true hlinked⟩
    | false =>
      obtain ⟨assigned, hassigned, h⟩ := bind_eq_ok_iff.mp h
      cases assigned with
      | none => cases h
      | some assigned =>
        cases h
        obtain ⟨before, others, after, hsplit, rfl, hrefused, hothers⟩ := (ih hassigned).split
        refine ⟨members :: before, others, after, ?_, rfl,
          List.forall_mem_cons.mpr ⟨allLinked_false hlinked, hrefused⟩, hothers⟩
        rcases hsplit with rfl | ⟨rfl, rfl, rfl⟩
        · exact Or.inl rfl
        · exact Or.inr ⟨rfl, rfl, rfl⟩

theorem assign_none {item : A} {clusters : List (List A)}
    (h : assign link item clusters = .ok none) :
    ∀ cluster ∈ clusters, Refused link item cluster := by
  induction clusters with
  | nil => exact fun cluster hcluster => nomatch hcluster
  | cons members rest ih =>
    obtain ⟨linked, hlinked, h⟩ := bind_eq_ok_iff.mp h
    cases linked with
    | true => cases h
    | false =>
      obtain ⟨assigned, hassigned, h⟩ := bind_eq_ok_iff.mp h
      cases assigned with
      | none => exact List.forall_mem_cons.mpr ⟨allLinked_false hlinked, ih hassigned⟩
      | some assigned => cases h

theorem place_placed {item : A} {clusters updated : List (List A)}
    (h : place link full maximum clusters item = .ok updated) :
    Placed link item clusters updated := by
  obtain ⟨assigned, hassigned, h⟩ := bind_eq_ok_iff.mp h
  cases assigned with
  | some assigned =>
    cases h
    exact assign_some hassigned
  | none =>
    dsimp only at h
    split_ifs at h
    cases h
    exact ⟨clusters, [], [], Or.inr ⟨rfl, rfl, rfl⟩, rfl, assign_none hassigned,
      fun _ hmem => nomatch hmem⟩

/-! ## What holds of the clusters -/

/-- The clusters of items that were placed in this order. -/
structure Clustered (link : A → A → Except E Bool) (before : A → A → Prop) (items : List A)
    (clusters : List (List A)) : Prop where
  /-- Every item is in one cluster. -/
  partition : clusters.flatten.Perm items
  ordered : ∀ cluster ∈ clusters, cluster.Pairwise before
  linked : ∀ cluster ∈ clusters, cluster.Pairwise fun earlier later => link later earlier = .ok true
  /-- An item has been refused by the members that an earlier cluster had before it. -/
  greedy : clusters.Pairwise fun first later => ∀ item ∈ later, ∃ member ∈ first,
    before member item ∧ link item member = .ok false

theorem Clustered.nil {before : A → A → Prop} : Clustered link before [] [] where
  partition := List.Perm.nil
  ordered := fun _ hmem => nomatch hmem
  linked := fun _ hmem => nomatch hmem
  greedy := List.Pairwise.nil

theorem Clustered.placed {before : A → A → Prop} {items : List A} {item : A}
    {clusters updated : List (List A)} (h : Clustered link before items clusters)
    (hbefore : ∀ other ∈ items, before other item) (hplaced : Placed link item clusters updated) :
    Clustered link before (items ++ [item]) updated := by
  obtain ⟨front, members, after, hsplit, rfl, hrefused, hlinked⟩ := hplaced.split
  have hof : ∀ cluster ∈ clusters, ∀ other ∈ cluster, before other item := by
    intro cluster hcluster other hother
    exact hbefore other (h.partition.subset (List.mem_flatten.mpr ⟨cluster, hcluster, hother⟩))
  have hperm : (front ++ members :: after).flatten.Perm items := by
    rcases hsplit with rfl | ⟨rfl, rfl, rfl⟩
    · exact h.partition
    · simpa using h.partition
  have hfront : ∀ cluster ∈ front, cluster ∈ clusters := by
    rcases hsplit with rfl | ⟨rfl, rfl, rfl⟩
    · exact fun cluster hcluster => List.mem_append_left _ hcluster
    · exact fun cluster hcluster => hcluster
  have hafter : ∀ cluster ∈ after, cluster ∈ clusters := by
    rcases hsplit with rfl | ⟨rfl, rfl, rfl⟩
    · exact fun cluster hcluster => List.mem_append_right _ (List.mem_cons_of_mem _ hcluster)
    · exact fun cluster hcluster => nomatch hcluster
  have hmembers : members ∈ clusters ∨ members = [] := by
    rcases hsplit with rfl | ⟨rfl, rfl, rfl⟩
    · exact Or.inl (List.mem_append_right _ List.mem_cons_self)
    · exact Or.inr rfl
  have hpairwise {R : A → A → Prop} (hall : ∀ cluster ∈ clusters, cluster.Pairwise R)
      (hitem : ∀ member ∈ members, R member item) :
      ∀ cluster ∈ front ++ (members ++ [item]) :: after, cluster.Pairwise R := by
    intro cluster hcluster
    rcases List.mem_append.mp hcluster with hmem | hmem
    · exact hall cluster (hfront cluster hmem)
    rcases List.mem_cons.mp hmem with rfl | hmem
    · have hothers : members.Pairwise R := by
        rcases hmembers with hin | rfl
        · exact hall members hin
        · exact List.Pairwise.nil
      rw [List.pairwise_append]
      refine ⟨hothers, List.pairwise_singleton _ _, ?_⟩
      intro other hother last hlast
      rw [List.mem_singleton.mp hlast]
      exact hitem other hother
    · exact hall cluster (hafter cluster hmem)
  constructor
  · -- the item moves to the end past the clusters behind its own
    have hmoved : (front ++ (members ++ [item]) :: after).flatten.Perm
        ((front ++ members :: after).flatten ++ [item]) := by
      have hlast : ([item] ++ after.flatten).Perm (after.flatten ++ [item]) := List.perm_append_comm
      simp only [List.flatten_append, List.flatten_cons, List.append_assoc]
      exact (hlast.append_left members).append_left _
    exact hmoved.trans (hperm.append_right _)
  · refine hpairwise h.ordered fun member hmember => ?_
    rcases hmembers with hin | rfl
    · exact hof members hin member hmember
    · cases hmember
  · exact hpairwise h.linked hlinked
  · have hrefusing : ∀ first ∈ front, ∃ member ∈ first,
        before member item ∧ link item member = .ok false := by
      intro first hfirst
      obtain ⟨member, hmember, hlink⟩ := hrefused first hfirst
      exact ⟨member, hmember, hof first (hfront first hfirst) member hmember, hlink⟩
    rcases hsplit with rfl | ⟨rfl, rfl, rfl⟩
    · have hgreedy := h.greedy
      rw [List.pairwise_append, List.pairwise_cons] at hgreedy ⊢
      obtain ⟨hbetween, ⟨hown, hrest⟩, hacross⟩ := hgreedy
      refine ⟨hbetween, ⟨?_, hrest⟩, ?_⟩
      · intro later hlater other hother
        obtain ⟨member, hmember, hlink⟩ := hown later hlater other hother
        exact ⟨member, List.mem_append_left _ hmember, hlink⟩
      · intro first hfirst later hlater
        rcases List.mem_cons.mp hlater with rfl | hlater
        · intro other hother
          rcases List.mem_append.mp hother with hother | hother
          · exact hacross first hfirst members List.mem_cons_self other hother
          · rw [List.mem_singleton.mp hother]
            exact hrefusing first hfirst
        · exact hacross first hfirst later (List.mem_cons_of_mem _ hlater)
    · rw [List.pairwise_append]
      refine ⟨h.greedy, List.pairwise_singleton _ _, ?_⟩
      intro first hfirst later hlater other hother
      rw [List.mem_singleton.mp hlater] at hother
      rw [List.mem_singleton.mp hother]
      exact hrefusing first hfirst

/-- Items that are placed in their order end in clusters. -/
theorem completeLink_clustered {before : A → A → Prop} {items : List A}
    {clusters : List (List A)} (hordered : items.Pairwise before)
    (h : completeLink link full maximum items = .ok clusters) :
    Clustered link before items clusters := by
  have hrun : ∀ done rest start, (done ++ rest).Pairwise before →
      Clustered link before done start → rest.foldlM (place link full maximum) start = .ok clusters →
      Clustered link before (done ++ rest) clusters := by
    intro done rest
    induction rest generalizing done with
    | nil =>
      intro start _ hstart h
      cases h
      rwa [List.append_nil]
    | cons item rest ih =>
      intro start hpairs hstart h
      obtain ⟨updated, hplace, h⟩ := bind_eq_ok_iff.mp h
      have hdone : ∀ other ∈ done, before other item := fun other hother =>
        (List.pairwise_append.mp hpairs).2.2 other hother item List.mem_cons_self
      have hstep : Clustered link before ((done ++ [item]) ++ rest) clusters := by
        apply ih (done ++ [item]) updated _ (hstart.placed hdone (place_placed hplace)) h
        rwa [List.append_assoc]
      rwa [List.append_assoc] at hstep
  exact hrun [] items [] hordered Clustered.nil h

/-- A placement leaves no cluster without members. -/
theorem Placed.inhabited {item : A} {clusters updated : List (List A)}
    (h : Placed link item clusters updated) (hclusters : ∀ cluster ∈ clusters, cluster ≠ []) :
    ∀ cluster ∈ updated, cluster ≠ [] := by
  obtain ⟨front, members, after, hsplit, rfl, -, -⟩ := h.split
  intro cluster hcluster
  rcases List.mem_append.mp hcluster with hmem | hmem
  · rcases hsplit with rfl | ⟨rfl, -, -⟩
    · exact hclusters cluster (List.mem_append_left _ hmem)
    · exact hclusters cluster hmem
  rcases List.mem_cons.mp hmem with rfl | hmem
  · exact List.append_ne_nil_of_right_ne_nil members (List.cons_ne_nil item [])
  · rcases hsplit with rfl | ⟨-, -, rfl⟩
    · exact hclusters cluster (List.mem_append_right _ (List.mem_cons_of_mem _ hmem))
    · cases hmem

theorem completeLink_inhabited {items : List A} {clusters : List (List A)}
    (h : completeLink link full maximum items = .ok clusters) :
    ∀ cluster ∈ clusters, cluster ≠ [] := by
  have hrun : ∀ start, (∀ cluster ∈ start, cluster ≠ []) →
      items.foldlM (place link full maximum) start = .ok clusters →
      ∀ cluster ∈ clusters, cluster ≠ [] := by
    clear h
    induction items with
    | nil =>
      intro start hstart h
      cases h
      exact hstart
    | cons item rest ih =>
      intro start hstart h
      obtain ⟨updated, hplace, h⟩ := bind_eq_ok_iff.mp h
      exact ih updated ((place_placed hplace).inhabited hstart) h
  exact hrun [] (fun _ hmem => absurd hmem List.not_mem_nil) h

/-! ## Items by what their links depend on -/

section Map

variable {link' : B → B → Except E Bool} {f : A → B}

theorem allLinked_map (hlink : ∀ item member, link item member = link' (f item) (f member))
    (item : A) (members : List A) :
    allLinked link item members = allLinked link' (f item) (members.map f) := by
  induction members with
  | nil => rfl
  | cons head rest ih =>
    rw [List.map_cons, allLinked, allLinked, hlink, ih]

theorem assign_map (hlink : ∀ item member, link item member = link' (f item) (f member))
    (item : A) (clusters : List (List A)) :
    (assign link item clusters).map (Option.map (List.map (List.map f))) =
      assign link' (f item) (clusters.map (List.map f)) := by
  induction clusters with
  | nil => rfl
  | cons members rest ih =>
    rw [List.map_cons, assign, assign, ← allLinked_map hlink, ← ih]
    cases allLinked link item members with
    | error failure => rfl
    | ok linked =>
      cases linked with
      | true => simp [bind, Except.bind, pure, Except.pure, Except.map]
      | false =>
        cases assign link item rest with
        | error failure => rfl
        | ok assigned =>
          cases assigned with
          | none => rfl
          | some updated => rfl

theorem place_map (hlink : ∀ item member, link item member = link' (f item) (f member))
    (clusters : List (List A)) (item : A) :
    (place link full maximum clusters item).map (List.map (List.map f)) =
      place link' full maximum (clusters.map (List.map f)) (f item) := by
  rw [place, place, ← assign_map hlink]
  cases assign link item clusters with
  | error failure => rfl
  | ok assigned =>
    cases assigned with
    | some updated => rfl
    | none =>
      simp only [bind, Except.bind, Except.map, Option.map_none, List.length_map]
      split_ifs with hfull
      · rfl
      · simp [pure, Except.pure]

theorem completeLink_map (hlink : ∀ item member, link item member = link' (f item) (f member))
    (items : List A) : (completeLink link full maximum items).map (List.map (List.map f)) =
      completeLink link' full maximum (items.map f) := by
  have hrun : ∀ start, (items.foldlM (place link full maximum) start).map (List.map (List.map f)) =
      (items.map f).foldlM (place link' full maximum) (start.map (List.map f)) := by
    induction items with
    | nil => exact fun start => rfl
    | cons item rest ih =>
      intro start
      rw [List.map_cons, List.foldlM_cons, List.foldlM_cons, ← place_map hlink]
      cases place link full maximum start item with
      | error failure => rfl
      | ok updated => exact ih updated
  exact hrun []

end Map

end CartoSentry.Foundation
