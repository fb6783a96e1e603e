import CartoSentry.Foundation.DurableProc

set_option autoImplicit false

/-!
# Handlers

`try … except` and `try … finally` over processes, and a loop over a list.  Death skips
every handler.

The second half speaks of stores instead of machines: a condition that every store of the
history meets, and for each way of ending one that the last store meets.
-/

namespace CartoSentry.Foundation

variable {σ τ ε α β : Type}

namespace Proc

/-- `try … except`: the handler says for which errors it answers. -/
def tryExcept (body : Proc σ τ ε α) (handler : ε → Option (Proc σ τ ε α)) : Proc σ τ ε α := fun m =>
  match body m with
  | (.raised e, m') =>
    match handler e with
    | some answer => answer m'
    | none => (.raised e, m')
  | ended => ended

/-- `try … finally`: an error of the cleanup takes the place of how the body ended. -/
def tryFinally (body : Proc σ τ ε α) (cleanup : Proc σ τ ε Unit) : Proc σ τ ε α := fun m =>
  match body m with
  | (.returned a, m') => (cleanup >>= fun _ => pure a) m'
  | (.raised e, m') => (cleanup >>= fun _ => raise e) m'
  | (.died, m') => (.died, m')

/-- `if condition: …`. -/
def when (condition : Bool) (p : Proc σ τ ε Unit) : Proc σ τ ε Unit :=
  if condition then p else pure ()

/-- `for item in items`, with what the loop carries along. -/
def forEach (step : β → α → Proc σ τ ε β) (carried : β) : List α → Proc σ τ ε β
  | [] => pure carried
  | item :: items => do
    let next ← step carried item
    forEach step next items

end Proc

namespace Triple

variable {P : Machine σ τ → Prop} {Q : Post σ τ ε α}

/-- `E` is what holds when the body has raised. -/
theorem tryExcept {body : Proc σ τ ε α} {handler : ε → Option (Proc σ τ ε α)}
    {E : ε → Machine σ τ → Prop} (hbody : Triple P body ⟨Q.returned, E, Q.died⟩)
    (hanswered : ∀ e answer, handler e = some answer → Triple (E e) answer Q)
    (hpassed : ∀ e, handler e = none → ∀ m, E e m → Q.raised e m) :
    Triple P (Proc.tryExcept body handler) Q := by
  intro m hm
  have hb := hbody m hm
  unfold Proc.tryExcept
  generalize body m = ended at hb ⊢
  obtain ⟨outcome, m'⟩ := ended
  cases outcome with
  | returned a => exact hb
  | died => exact hb
  | raised e =>
    cases hhandler : handler e with
    | none =>
      simp only [hhandler]
      exact hpassed e hhandler m' hb
    | some answer =>
      simp only [hhandler]
      exact hanswered e answer hhandler m' hb

/-- The cleanup runs from how the body returned and from how it raised. -/
theorem tryFinally {body : Proc σ τ ε α} {cleanup : Proc σ τ ε Unit}
    {R : α → Machine σ τ → Prop} {E : ε → Machine σ τ → Prop}
    (hbody : Triple P body ⟨R, E, Q.died⟩)
    (hreturned : ∀ a, Triple (R a) cleanup ⟨fun _ => Q.returned a, Q.raised, Q.died⟩)
    (hraised : ∀ e, Triple (E e) cleanup ⟨fun _ => Q.raised e, Q.raised, Q.died⟩) :
    Triple P (Proc.tryFinally body cleanup) Q := by
  intro m hm
  have hb := hbody m hm
  unfold Proc.tryFinally
  generalize body m = ended at hb ⊢
  obtain ⟨outcome, m'⟩ := ended
  cases outcome with
  | died => exact hb
  | returned a =>
    have hpure : Triple (R a) (cleanup >>= fun _ => Pure.pure a) Q :=
      Triple.bind (hreturned a) (fun _ => Triple.pure fun _ h => h)
    exact hpure m' hb
  | raised e =>
    have hraise : Triple (E e) (cleanup >>= fun _ => Proc.raise e) Q :=
      Triple.bind (hraised e) (fun _ => Triple.raise fun _ h => h)
    exact hraise m' hb

/-- The rule of a loop: `I` says what holds after the items taken so far. -/
theorem forEach {step : β → α → Proc σ τ ε β} {items : List α} {carried : β}
    {I : List α → β → Machine σ τ → Prop} {raised : ε → Machine σ τ → Prop}
    {died : Machine σ τ → Prop} (taken : List α)
    (hstep : ∀ front item c, (∃ rest, taken ++ items = front ++ item :: rest) →
      Triple (I front c) (step c item) ⟨I (front ++ [item]), raised, died⟩) :
    Triple (I taken carried) (Proc.forEach step carried items)
      ⟨I (taken ++ items), raised, died⟩ := by
  induction items generalizing taken carried with
  | nil =>
    rw [List.append_nil]
    exact Triple.pure fun _ h => h
  | cons item items ih =>
    refine Triple.bind (hstep taken item carried ⟨items, rfl⟩) fun next => ?_
    have happend : taken ++ item :: items = taken ++ [item] ++ items := by
      rw [List.append_assoc, List.singleton_append]
    rw [happend] at hstep ⊢
    exact ih (taken ++ [item]) hstep

end Triple

/-! ## Conditions on every store of a history -/

/-- The store meets `S`, and so did every store before it. -/
def Machine.Throughout (S : σ → Prop) (m : Machine σ τ) : Prop :=
  S m.store ∧ ∀ effect ∈ m.log, S effect.before

theorem Machine.Throughout.after {S : σ → Prop} {m : Machine σ τ} (h : m.Throughout S) {store : σ}
    (hstore : S store) (label : τ) : (m.after label store).Throughout S := by
  refine ⟨hstore, fun effect heffect => ?_⟩
  rw [Machine.after_log, List.mem_append, List.mem_singleton] at heffect
  rcases heffect with hlog | rfl
  · exact h.2 effect hlog
  · exact h.1

/-- From a store with `D` the process keeps to `S`; it returns with `R` and raises with `E`. -/
def Guarded (S D : σ → Prop) (p : Proc σ τ ε α) (R : α → σ → Prop) (E : ε → σ → Prop) : Prop :=
  Triple (fun m => m.Throughout S ∧ D m.store) p
    ⟨fun a m => m.Throughout S ∧ R a m.store, fun e m => m.Throughout S ∧ E e m.store,
      Machine.Throughout S⟩

namespace Guarded

variable {S D D' : σ → Prop} {p : Proc σ τ ε α} {R R' : α → σ → Prop} {E E' : ε → σ → Prop}

theorem weaken (h : Guarded S D p R E) (hD : ∀ s, D' s → D s) (hR : ∀ a s, R a s → R' a s)
    (hE : ∀ e s, E e s → E' e s) : Guarded S D' p R' E' :=
  Triple.weaken h (fun _ hm => ⟨hm.1, hD _ hm.2⟩) (fun _ _ hm => ⟨hm.1, hR _ _ hm.2⟩)
    (fun _ _ hm => ⟨hm.1, hE _ _ hm.2⟩) (fun _ hm => hm)

theorem before (h : Guarded S D p R E) (hD : ∀ s, D' s → D s) : Guarded S D' p R E :=
  h.weaken hD (fun _ _ hR => hR) (fun _ _ hE => hE)

theorem raising (h : Guarded S D p R E) (hE : ∀ e s, E e s → E' e s) : Guarded S D p R E' :=
  h.weaken (fun _ hD => hD) (fun _ _ hR => hR) hE

theorem pure {a : α} (h : ∀ s, D s → R a s) : Guarded S D (Pure.pure a : Proc σ τ ε α) R E :=
  Triple.pure fun _ hm => ⟨hm.1, h _ hm.2⟩

theorem raise {e : ε} (h : ∀ s, D s → E e s) : Guarded S D (Proc.raise e : Proc σ τ ε α) R E :=
  Triple.raise fun _ hm => ⟨hm.1, h _ hm.2⟩

theorem ofExcept {x : Except ε α} (hok : ∀ a, x = .ok a → ∀ s, D s → R a s)
    (herror : ∀ e, x = .error e → ∀ s, D s → E e s) :
    Guarded S D (Proc.ofExcept x : Proc σ τ ε α) R E :=
  Triple.ofExcept (fun a ha _ hm => ⟨hm.1, hok a ha _ hm.2⟩)
    (fun e he _ hm => ⟨hm.1, herror e he _ hm.2⟩)

theorem bind {f : α → Proc σ τ ε β} {R' : β → σ → Prop} (hp : Guarded S D p R E)
    (hf : ∀ a, Guarded S (R a) (f a) R' E) : Guarded S D (p >>= f) R' E :=
  Triple.bind (R := fun a m => m.Throughout S ∧ R a m.store) hp hf

/-- Reading first names the store for the rest of the process. -/
theorem readBind {f : σ → Proc σ τ ε α} (h : ∀ s, D s → Guarded S (· = s) (f s) R E) :
    Guarded S D (Proc.read >>= f) R E :=
  fun m hm => h m.store hm.2 m ⟨hm.1, rfl⟩

/-- It is enough to treat each store the process may start from on its own. -/
theorem perStore (h : ∀ s, D s → Guarded S (· = s) p R E) : Guarded S D p R E :=
  fun m hm => h m.store hm.2 m ⟨hm.1, rfl⟩

theorem transact {f : σ → Except ε (Commit σ τ α)}
    (h : ∀ s, S s → D s → ∃ c, f s = .ok c ∧ S c.store ∧ R c.value c.store) :
    Guarded S D (Proc.transact f) R E := by
  refine Triple.transact (fun m hm _ => hm.1) ?_ ?_
  · intro m e hm herror
    obtain ⟨c, hc, -⟩ := h m.store hm.1.1 hm.2
    rw [hc] at herror
    cases herror
  · intro m c hm hok
    obtain ⟨found, hfound, hS, hR⟩ := h m.store hm.1.1 hm.2
    obtain rfl := Except.ok.inj (hfound.symm.trans hok)
    exact ⟨hm.1.after hS _, hR⟩

theorem ite {c : Prop} [Decidable c] {q : Proc σ τ ε α} (hthen : c → Guarded S D p R E)
    (helse : ¬ c → Guarded S D q R E) : Guarded S D (if c then p else q) R E :=
  Triple.ite hthen helse

theorem when {condition : Bool} {p : Proc σ τ ε Unit} {R : Unit → σ → Prop}
    (hthen : condition = true → Guarded S D p R E)
    (helse : condition = false → ∀ s, D s → R () s) : Guarded S D (Proc.when condition p) R E := by
  cases condition with
  | true => exact hthen rfl
  | false => exact Guarded.pure (helse rfl)

theorem tryExcept {G : ε → σ → Prop} {handler : ε → Option (Proc σ τ ε α)}
    (hbody : Guarded S D p R G)
    (hanswered : ∀ e answer, handler e = some answer → Guarded S (G e) answer R E)
    (hpassed : ∀ e, handler e = none → ∀ s, G e s → E e s) :
    Guarded S D (Proc.tryExcept p handler) R E :=
  Triple.tryExcept (E := fun e m => m.Throughout S ∧ G e m.store) hbody hanswered
    (fun e he _ hm => ⟨hm.1, hpassed e he _ hm.2⟩)

theorem tryFinally {Q : α → σ → Prop} {G : ε → σ → Prop} {cleanup : Proc σ τ ε Unit}
    (hbody : Guarded S D p Q G) (hreturned : ∀ a, Guarded S (Q a) cleanup (fun _ => R a) E)
    (hraised : ∀ e, Guarded S (G e) cleanup (fun _ => E e) E) :
    Guarded S D (Proc.tryFinally p cleanup) R E :=
  Triple.tryFinally (R := fun a m => m.Throughout S ∧ Q a m.store)
    (E := fun e m => m.Throughout S ∧ G e m.store) hbody hreturned hraised

/-- The rule of a loop: `I` says what holds after the items taken so far. -/
theorem forEach {step : β → α → Proc σ τ ε β} (items : List α) (carried : β)
    {I : List α → β → σ → Prop}
    (hstep : ∀ front item c, (∃ rest, items = front ++ item :: rest) →
      Guarded S (I front c) (step c item) (I (front ++ [item])) E) :
    Guarded S (I [] carried) (Proc.forEach step carried items) (I items) E :=
  Triple.forEach (I := fun front c m => m.Throughout S ∧ I front c m.store) [] hstep

/-- A loop whose steps keep a condition. -/
theorem forEachKeeps {step : β → α → Proc σ τ ε β} {items : List α} {carried : β}
    (hstep : ∀ c, ∀ item ∈ items, Guarded S D (step c item) (fun _ => D) E) :
    Guarded S D (Proc.forEach step carried items) (fun _ => D) E := by
  refine forEach _ _ (I := fun _ _ => D) fun front item c hitems => hstep c item ?_
  obtain ⟨rest, rfl⟩ := hitems
  exact List.mem_append_right _ List.mem_cons_self

end Guarded

end CartoSentry.Foundation
