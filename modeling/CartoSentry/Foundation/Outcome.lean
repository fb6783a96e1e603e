import Mathlib.Data.List.Forall2

set_option autoImplicit false

/-!
# Outcomes

Computations that may fail: what a successful one went through, and two computations
that fail together and return related values where they do not.
-/

namespace CartoSentry.Foundation

variable {E F A B C D : Type}

theorem ok_bind (value : A) (rest : A → Except E B) : (Except.ok value >>= rest) = rest value :=
  rfl

theorem bind_unit_eq_ok_iff {check : Except E Unit} {rest : Except E A} {result : A} :
    (check >>= fun _ => rest) = .ok result ↔ check = .ok () ∧ rest = .ok result := by
  cases check with
  | error failure => simp [bind, Except.bind]
  | ok value => simp [bind, Except.bind]

theorem bind_eq_ok_iff {first : Except E A} {rest : A → Except E B} {result : B} :
    (first >>= rest) = .ok result ↔ ∃ value, first = .ok value ∧ rest value = .ok result := by
  cases first with
  | error failure => simp [bind, Except.bind]
  | ok value => simp [bind, Except.bind]

theorem eq_ok_of_toOption {x : Except E A} {a : A} (h : x.toOption = some a) : x = .ok a := by
  cases x with
  | error failure => cases h
  | ok value =>
    cases h
    rfl

theorem mapM_eq_ok {f : A → Except E B} {g : A → B} {as : List A}
    (h : ∀ a ∈ as, f a = .ok (g a)) : as.mapM f = .ok (as.map g) := by
  induction as with
  | nil => rfl
  | cons a rest ih =>
    rw [List.mapM_cons, h a List.mem_cons_self,
      ih fun other hother => h other (List.mem_cons_of_mem _ hother)]
    rfl

theorem exists_mapM_eq_ok {f : A → Except E B} {as : List A} (h : ∀ a ∈ as, ∃ b, f a = .ok b) :
    ∃ bs, as.mapM f = .ok bs := by
  induction as with
  | nil => exact ⟨[], rfl⟩
  | cons a rest ih =>
    obtain ⟨b, hb⟩ := h a List.mem_cons_self
    obtain ⟨bs, hbs⟩ := ih fun other hother => h other (List.mem_cons_of_mem _ hother)
    refine ⟨b :: bs, ?_⟩
    rw [List.mapM_cons, hb, hbs]
    rfl

theorem forall₂_of_mapM_eq_ok {f : A → Except E B} {as : List A} {bs : List B}
    (h : as.mapM f = .ok bs) : List.Forall₂ (fun a b => f a = .ok b) as bs := by
  induction as generalizing bs with
  | nil =>
    cases h
    exact .nil
  | cons a rest ih =>
    rw [List.mapM_cons] at h
    cases hhead : f a with
    | error failure =>
      rw [hhead] at h
      cases h
    | ok b =>
      cases hrest : rest.mapM f with
      | error failure =>
        rw [hhead, hrest] at h
        cases h
      | ok results =>
        rw [hhead, hrest] at h
        cases h
        exact .cons hhead (ih hrest)

theorem exists_mapM_forall₂ {f : A → Except E B} {R : A → B → Prop} {as : List A}
    (h : ∀ a ∈ as, ∃ b, f a = .ok b ∧ R a b) : ∃ bs, as.mapM f = .ok bs ∧ List.Forall₂ R as bs := by
  obtain ⟨bs, hbs⟩ := exists_mapM_eq_ok fun a ha => (h a ha).imp fun _ hb => hb.1
  refine ⟨bs, hbs, ?_⟩
  have hall := forall₂_of_mapM_eq_ok hbs
  clear hbs
  induction hall with
  | nil => exact .nil
  | cons hhead _ ih =>
    obtain ⟨b, hb, hab⟩ := h _ List.mem_cons_self
    cases hhead.symm.trans hb
    exact .cons hab (ih fun a ha => h a (List.mem_cons_of_mem _ ha))

theorem exists_right_of_mem {R : A → B → Prop} {as : List A} {bs : List B}
    (h : List.Forall₂ R as bs) {a : A} (ha : a ∈ as) : ∃ b ∈ bs, R a b := by
  induction h with
  | nil => simp at ha
  | cons hhead _ ih =>
    cases ha with
    | head => exact ⟨_, List.mem_cons_self, hhead⟩
    | tail _ ha =>
      obtain ⟨b, hb, hab⟩ := ih ha
      exact ⟨b, List.mem_cons_of_mem _ hb, hab⟩

theorem exists_left_of_mem {R : A → B → Prop} {as : List A} {bs : List B}
    (h : List.Forall₂ R as bs) {b : B} (hb : b ∈ bs) : ∃ a ∈ as, R a b := by
  have hflip : List.Forall₂ (flip R) bs as := List.Forall₂.flip h
  exact exists_right_of_mem hflip hb

/-- Related lists are in order alike. -/
theorem pairwise_of_forall₂ {R : A → B → Prop} {S : A → A → Prop} {T : B → B → Prop}
    {as : List A} {bs : List B} (h : List.Forall₂ R as bs) (hordered : as.Pairwise S)
    (hstep : ∀ a a' b b', R a b → R a' b' → S a a' → T b b') : bs.Pairwise T := by
  induction h with
  | nil => exact List.Pairwise.nil
  | cons hhead hrest ih =>
    obtain ⟨hfirst, hordered⟩ := List.pairwise_cons.mp hordered
    refine List.pairwise_cons.mpr ⟨fun b hb => ?_, ih hordered⟩
    obtain ⟨a, ha, hab⟩ := exists_left_of_mem hrest hb
    exact hstep _ _ _ _ hhead hab (hfirst a ha)

theorem mem_of_mapM_eq_ok {f : A → Except E B} {as : List A} {bs : List B}
    (h : as.mapM f = .ok bs) {a : A} (ha : a ∈ as) : ∃ b ∈ bs, f a = .ok b :=
  exists_right_of_mem (forall₂_of_mapM_eq_ok h) ha

/-- What each result is computed from is what the inputs give. -/
theorem map_eq_of_mapM_eq_ok {f : A → Except E B} {g : B → C} {k : A → C} {as : List A}
    {bs : List B} (h : as.mapM f = .ok bs) (hsame : ∀ a b, f a = .ok b → g b = k a) :
    bs.map g = as.map k := by
  have hall := forall₂_of_mapM_eq_ok h
  clear h
  induction hall with
  | nil => rfl
  | cons hhead _ ih => rw [List.map_cons, List.map_cons, hsame _ _ hhead, ih]

/-- A computation whose results the results of another determine. -/
theorem mapM_eq_ok_map {f : A → Except E B} {g : A → Except F C} {k : B → C} {as : List A}
    {bs : List B} (h : as.mapM f = .ok bs) (hsame : ∀ a b, f a = .ok b → g a = .ok (k b)) :
    as.mapM g = .ok (bs.map k) := by
  have hall := forall₂_of_mapM_eq_ok h
  clear h
  induction hall with
  | nil => rfl
  | cons hhead _ ih =>
    rw [List.mapM_cons, hsame _ _ hhead, ih]
    rfl

/-- Inputs with distinct keys have results with distinct keys, where these determine
those. -/
theorem nodup_map_of_mapM_eq_ok {K L : Type} {f : A → Except E B} {key : A → K} {key' : B → L}
    {as : List A} {bs : List B} (h : as.mapM f = .ok bs) (hkeys : (as.map key).Nodup)
    (hdetermined : ∀ a ∈ as, ∀ a' ∈ as, ∀ b b', f a = .ok b → f a' = .ok b' → key' b = key' b' →
      key a = key a') : (bs.map key').Nodup := by
  have hall := forall₂_of_mapM_eq_ok h
  clear h
  induction hall with
  | nil => exact List.nodup_nil
  | @cons a b as bs hhead hrest ih =>
    rw [List.map_cons, List.nodup_cons] at hkeys ⊢
    constructor
    · intro hmem
      obtain ⟨b', hb', heq⟩ := List.mem_map.mp hmem
      obtain ⟨a', ha', hresult⟩ := exists_left_of_mem hrest hb'
      apply hkeys.1
      rw [hdetermined a List.mem_cons_self a' (List.mem_cons_of_mem _ ha') b b' hhead hresult
        heq.symm]
      exact List.mem_map_of_mem ha'
    · exact ih hkeys.2 fun a ha a' ha' =>
        hdetermined a (List.mem_cons_of_mem _ ha) a' (List.mem_cons_of_mem _ ha')

/-- Both computations fail, or both return and the values are related. -/
def Agree (R : A → B → Prop) : Except E A → Except F B → Prop
  | .ok a, .ok b => R a b
  | .error _, .error _ => True
  | _, _ => False

namespace Agree

@[simp]
theorem ok_ok {R : A → B → Prop} {a : A} {b : B} :
    Agree R (.ok a : Except E A) (.ok b : Except F B) ↔ R a b := Iff.rfl

@[simp]
theorem error_error {R : A → B → Prop} {e : E} {f : F} :
    Agree R (.error e : Except E A) (.error f : Except F B) := trivial

variable {R : A → B → Prop} {S : C → D → Prop} {x : Except E A} {y : Except F B}

theorem refl {R : A → A → Prop} (x : Except E A) (h : ∀ a, R a a) : Agree R x x := by
  cases x with
  | error e => exact error_error
  | ok a => exact h a

theorem mono {R' : A → B → Prop} (h : Agree R x y) (hsub : ∀ a b, R a b → R' a b) :
    Agree R' x y := by
  cases x with
  | error e =>
    cases y with
    | error f => exact error_error
    | ok b => exact h
  | ok a =>
    cases y with
    | error f => exact h
    | ok b => exact hsub a b h

/-- Related values, and computations that agree from related values on. -/
theorem bind {f : A → Except E C} {g : B → Except F D} (h : Agree R x y)
    (hnext : ∀ a b, x = .ok a → y = .ok b → R a b → Agree S (f a) (g b)) :
    Agree S (x >>= f) (y >>= g) := by
  cases x with
  | error e =>
    cases y with
    | error f => exact error_error
    | ok b => exact h.elim
  | ok a =>
    cases y with
    | error f => exact h.elim
    | ok b => exact hnext a b rfl rfl h

theorem mapM {f : A → Except E C} {g : B → Except F D} {as : List A} {bs : List B}
    (h : List.Forall₂ (fun a b => Agree S (f a) (g b)) as bs) :
    Agree (List.Forall₂ S) (as.mapM f) (bs.mapM g) := by
  induction h with
  | nil => simp [pure, Except.pure]
  | cons hhead hrest ih =>
    rw [List.mapM_cons, List.mapM_cons]
    apply hhead.bind
    intro c d _ _ hcd
    apply ih.bind
    intro cs ds _ _ hcds
    exact .cons hcd hcds

theorem foldlM {f : C → A → Except E C} {g : D → B → Except F D} {as : List A} {bs : List B}
    (h : List.Forall₂ R as bs)
    (hstep : ∀ c d a b, S c d → R a b → Agree S (f c a) (g d b)) {c : C} {d : D} (hcd : S c d) :
    Agree S (as.foldlM f c) (bs.foldlM g d) := by
  induction h generalizing c d with
  | nil => simpa [pure, Except.pure] using hcd
  | cons hhead hrest ih =>
    rw [List.foldlM_cons, List.foldlM_cons]
    apply (hstep c d _ _ hcd hhead).bind
    intro c' d' _ _ hcd'
    exact ih hcd'

/-- Computations with equal values where they return are one computation, up to the
failure. -/
theorem toOption_eq {x y : Except E A} (h : Agree (· = ·) x y) : x.toOption = y.toOption := by
  cases x with
  | error e =>
    cases y with
    | error f => rfl
    | ok b => exact h.elim
  | ok a =>
    cases y with
    | error f => exact h.elim
    | ok b => exact congrArg some h

theorem map_toOption_eq {C : Type} {f : A → C} {g : B → C}
    (h : Agree (fun a b => f a = g b) x y) : x.toOption.map f = y.toOption.map g := by
  cases x with
  | error e =>
    cases y with
    | error f => rfl
    | ok b => exact h.elim
  | ok a =>
    cases y with
    | error f => exact h.elim
    | ok b => exact congrArg some h

end Agree

end CartoSentry.Foundation
