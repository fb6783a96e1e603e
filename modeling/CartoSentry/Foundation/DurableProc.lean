import Mathlib.Logic.Basic
import Mathlib.Data.List.Basic

set_option autoImplicit false

/-!
# Processes over durable storage

A process reads and changes a durable store by atomic effects.  It ends in one
of three ways: it returns, it raises an error, or the machine it runs on dies.
Death is not an error: no handler sees it, and what it leaves behind is exactly
the store as the last atomic effect left it.

The lifespan of a machine is the number of durable effects it still survives
(`none` for a machine that never dies), so quantifying over lifespans
quantifies over every point at which the process can be killed.  Every effect
is logged with the store it started from, which makes a log a complete history.

The second half is a Hoare logic with three postconditions, one for each way of
ending.  Nothing here depends on what is stored.
-/

namespace CartoSentry.Foundation

/-- How a process ends. -/
inductive Outcome (ε α : Type) where
  | returned (value : α)
  | raised (error : ε)
  | died
  deriving DecidableEq, Repr

/-- The process returned. -/
def Outcome.isReturned {ε α : Type} : Outcome ε α → Bool
  | .returned _ => true
  | _ => false

theorem Outcome.isReturned_iff {ε α : Type} {outcome : Outcome ε α} :
    outcome.isReturned = true ↔ ∃ value, outcome = .returned value := by
  cases outcome <;> simp [Outcome.isReturned]

/-- One atomic effect, with the store it started from. -/
structure Effect (σ τ : Type) where
  before : σ
  label : τ

/-- The machine a process runs on. -/
structure Machine (σ τ : Type) where
  store : σ
  lifespan : Option Nat
  log : List (Effect σ τ)

namespace Machine

variable {σ τ : Type}

/-- The machine after one durable effect. -/
def after (m : Machine σ τ) (label : τ) (store : σ) : Machine σ τ where
  store := store
  lifespan := m.lifespan.map (· - 1)
  log := m.log ++ [⟨m.store, label⟩]

/-- The machine after an observation that changes nothing. -/
def noted (m : Machine σ τ) (label : τ) : Machine σ τ :=
  { m with log := m.log ++ [⟨m.store, label⟩] }

@[simp] theorem after_store (m : Machine σ τ) (label : τ) (store : σ) :
    (m.after label store).store = store := rfl

@[simp] theorem after_log (m : Machine σ τ) (label : τ) (store : σ) :
    (m.after label store).log = m.log ++ [⟨m.store, label⟩] := rfl

@[simp] theorem after_lifespan (m : Machine σ τ) (label : τ) (store : σ) :
    (m.after label store).lifespan = m.lifespan.map (· - 1) := rfl

@[simp] theorem noted_store (m : Machine σ τ) (label : τ) :
    (m.noted label).store = m.store := rfl

@[simp] theorem noted_log (m : Machine σ τ) (label : τ) :
    (m.noted label).log = m.log ++ [⟨m.store, label⟩] := rfl

@[simp] theorem noted_lifespan (m : Machine σ τ) (label : τ) :
    (m.noted label).lifespan = m.lifespan := rfl

end Machine

/-- A process that returns an `α` or raises an `ε`. -/
def Proc (σ τ ε α : Type) : Type :=
  Machine σ τ → Outcome ε α × Machine σ τ

/-- What an atomic effect commits: its result, the new store and its label. -/
structure Commit (σ τ α : Type) where
  value : α
  store : σ
  label : τ

/-- What a callback asks of the process that called it. -/
inductive Signal (ε : Type) where
  | proceed
  | raise (error : ε)
  | die
  deriving DecidableEq, Repr

/-- The same request, with the error it raises translated. -/
def Signal.mapError {δ ε : Type} (f : δ → ε) : Signal δ → Signal ε
  | .proceed => .proceed
  | .raise e => .raise (f e)
  | .die => .die

namespace Proc

variable {σ τ ε α β : Type}

/-- Sequencing: errors and death both skip the rest. -/
def bind (p : Proc σ τ ε α) (f : α → Proc σ τ ε β) : Proc σ τ ε β := fun m =>
  match p m with
  | (.returned a, m') => f a m'
  | (.raised e, m') => (.raised e, m')
  | (.died, m') => (.died, m')

instance : Monad (Proc σ τ ε) where
  pure a := fun m => (.returned a, m)
  bind := bind

/-- Raise an error. -/
def raise (e : ε) : Proc σ τ ε α := fun m => (.raised e, m)

/-- Lift a pure computation that may raise. -/
def ofExcept : Except ε α → Proc σ τ ε α
  | .ok a => fun m => (.returned a, m)
  | .error e => raise e

/-- Read the store. -/
def read : Proc σ τ ε σ := fun m => (.returned m.store, m)

/-- Log an observation. -/
def note (label : τ) : Proc σ τ ε Unit := fun m => (.returned (), m.noted label)

/-- One atomic durable effect.  It happens completely or, when it raises or the
machine dies first, not at all. -/
def transact (f : σ → Except ε (Commit σ τ α)) : Proc σ τ ε α := fun m =>
  if m.lifespan = some 0 then (.died, m)
  else
    match f m.store with
    | .error e => (.raised e, m)
    | .ok c => (.returned c.value, m.after c.label c.store)

/-- Obey a callback. -/
def obey : Signal ε → Proc σ τ ε Unit
  | .proceed => fun m => (.returned (), m)
  | .raise e => raise e
  | .die => fun m => (.died, m)

/-- Run `cleanup` when `body` raises, then raise the same error again.  Death
skips the cleanup. -/
def onRaise (body : Proc σ τ ε α) (cleanup : Proc σ τ ε Unit) : Proc σ τ ε α := fun m =>
  match body m with
  | (.raised e, m') => (cleanup >>= fun _ => raise e) m'
  | ended => ended

/-- What returned from a sequence returned from both of its parts. -/
theorem bind_eq_returned {p : Proc σ τ ε α} {f : α → Proc σ τ ε β} {m m' : Machine σ τ} {b : β}
    (h : (p >>= f) m = (.returned b, m')) :
    ∃ a mid, p m = (.returned a, mid) ∧ f a mid = (.returned b, m') := by
  change bind p f m = _ at h
  unfold bind at h
  split at h
  · rename_i a mid hp
    exact ⟨a, mid, hp, h⟩
  · cases h
  · cases h

theorem ofExcept_eq_returned {x : Except ε α} {m m' : Machine σ τ} {a : α}
    (h : ofExcept x m = (.returned a, m')) : x = .ok a ∧ m' = m := by
  cases x with
  | error e => cases h
  | ok b =>
    cases h
    exact ⟨rfl, rfl⟩

theorem read_eq_returned {m m' : Machine σ τ} {s : σ}
    (h : (read : Proc σ τ ε σ) m = (.returned s, m')) : s = m.store ∧ m' = m := by
  cases h
  exact ⟨rfl, rfl⟩

end Proc

/-! ## Triples -/

/-- A postcondition for each way of ending. -/
structure Post (σ τ ε α : Type) where
  returned : α → Machine σ τ → Prop
  raised : ε → Machine σ τ → Prop
  died : Machine σ τ → Prop

variable {σ τ ε α β : Type}

/-- The postcondition read off an ended process. -/
def Post.Holds (Q : Post σ τ ε α) : Outcome ε α × Machine σ τ → Prop
  | (.returned a, m) => Q.returned a m
  | (.raised e, m) => Q.raised e m
  | (.died, m) => Q.died m

/-- What every way of ending implies of the machine. -/
theorem Post.Holds.machine {Q : Post σ τ ε α} {F : Machine σ τ → Prop}
    {ended : Outcome ε α × Machine σ τ} (h : Q.Holds ended)
    (hreturned : ∀ a m, Q.returned a m → F m) (hraised : ∀ e m, Q.raised e m → F m)
    (hdied : ∀ m, Q.died m → F m) : F ended.2 := by
  obtain ⟨outcome, m⟩ := ended
  cases outcome with
  | returned a => exact hreturned a m h
  | raised e => exact hraised e m h
  | died => exact hdied m h

/-- From every machine that satisfies `P`, the process ends as `Q` says. -/
def Triple (P : Machine σ τ → Prop) (p : Proc σ τ ε α) (Q : Post σ τ ε α) : Prop :=
  ∀ m, P m → Q.Holds (p m)

/-- `I` holds however the process ends. -/
def Post.always (I : Machine σ τ → Prop) : Post σ τ ε α :=
  ⟨fun _ => I, fun _ => I, I⟩

/-- `I` holds however the process ends, and `R` when it returns. -/
def Post.ensuring (I : Machine σ τ → Prop) (R : α → Machine σ τ → Prop) : Post σ τ ε α :=
  ⟨fun a m => I m ∧ R a m, fun _ => I, I⟩

namespace Triple

variable {P P' : Machine σ τ → Prop} {Q Q' : Post σ τ ε α}

theorem weaken {p : Proc σ τ ε α} (h : Triple P p Q) (hP : ∀ m, P' m → P m)
    (hreturned : ∀ a m, Q.returned a m → Q'.returned a m)
    (hraised : ∀ e m, Q.raised e m → Q'.raised e m)
    (hdied : ∀ m, Q.died m → Q'.died m) : Triple P' p Q' := by
  intro m hm
  have hQ := h m (hP m hm)
  generalize p m = ended at hQ ⊢
  rcases ended with ⟨outcome, m'⟩
  cases outcome with
  | returned a => exact hreturned a m' hQ
  | raised e => exact hraised e m' hQ
  | died => exact hdied m' hQ

theorem strengthenPre {p : Proc σ τ ε α} (h : Triple P p Q) (hP : ∀ m, P' m → P m) :
    Triple P' p Q :=
  fun m hm => h m (hP m hm)

theorem and {R : Post σ τ ε α} {p : Proc σ τ ε α} (hQ : Triple P p Q) (hR : Triple P p R) :
    Triple P p ⟨fun a m => Q.returned a m ∧ R.returned a m,
      fun e m => Q.raised e m ∧ R.raised e m, fun m => Q.died m ∧ R.died m⟩ := by
  intro m hm
  have hq := hQ m hm
  have hr := hR m hm
  generalize p m = ended at hq hr ⊢
  rcases ended with ⟨outcome, m'⟩
  cases outcome with
  | returned a => exact ⟨hq, hr⟩
  | raised e => exact ⟨hq, hr⟩
  | died => exact ⟨hq, hr⟩

theorem pure {a : α} (h : ∀ m, P m → Q.returned a m) :
    Triple P (Pure.pure a : Proc σ τ ε α) Q := h

theorem bind {p : Proc σ τ ε α} {f : α → Proc σ τ ε β} {Q : Post σ τ ε β}
    {R : α → Machine σ τ → Prop}
    (hp : Triple P p ⟨R, Q.raised, Q.died⟩) (hf : ∀ a, Triple (R a) (f a) Q) :
    Triple P (p >>= f) Q := by
  intro m hm
  have hpm := hp m hm
  change Q.Holds (Proc.bind p f m)
  unfold Proc.bind
  generalize p m = ended at hpm ⊢
  rcases ended with ⟨outcome, m'⟩
  cases outcome with
  | returned a => exact hf a m' hpm
  | raised e => exact hpm
  | died => exact hpm

theorem raise {e : ε} (h : ∀ m, P m → Q.raised e m) :
    Triple P (Proc.raise e : Proc σ τ ε α) Q := h

theorem ofExcept {x : Except ε α}
    (hok : ∀ a, x = .ok a → ∀ m, P m → Q.returned a m)
    (herror : ∀ e, x = .error e → ∀ m, P m → Q.raised e m) :
    Triple P (Proc.ofExcept x : Proc σ τ ε α) Q := by
  cases x with
  | ok a => exact hok a rfl
  | error e => exact herror e rfl

/-- Reading first names the store for the rest of the process. -/
theorem readBind {f : σ → Proc σ τ ε α}
    (h : ∀ s, Triple (fun m => P m ∧ m.store = s) (f s) Q) :
    Triple P (Proc.read >>= f) Q :=
  fun m hm => h m.store m ⟨hm, rfl⟩

/-- Reading a store that the precondition already knows. -/
theorem readKnown {s : σ} {f : σ → Proc σ τ ε α} (hstore : ∀ m, P m → m.store = s)
    (h : Triple P (f s) Q) : Triple P (Proc.read >>= f) Q := by
  intro m hm
  have hread : (Proc.read >>= f) m = f m.store m := rfl
  rw [hread, hstore m hm]
  exact h m hm

/-- A pure computation that is known to succeed. -/
theorem ofExceptKnown {x : Except ε α} {a : α} {f : α → Proc σ τ ε β} {Q : Post σ τ ε β}
    (hok : x = .ok a) (h : Triple P (f a) Q) : Triple P (Proc.ofExcept x >>= f) Q := by
  rw [hok]
  exact h

theorem note {label : τ} {Q : Post σ τ ε Unit}
    (h : ∀ m, P m → Q.returned () (m.noted label)) :
    Triple P (Proc.note label : Proc σ τ ε Unit) Q := h

theorem transact {f : σ → Except ε (Commit σ τ α)}
    (hdied : ∀ m, P m → m.lifespan = some 0 → Q.died m)
    (herror : ∀ m e, P m → f m.store = .error e → Q.raised e m)
    (hok : ∀ m c, P m → f m.store = .ok c → Q.returned c.value (m.after c.label c.store)) :
    Triple P (Proc.transact f : Proc σ τ ε α) Q := by
  intro m hm
  unfold Proc.transact
  by_cases hlife : m.lifespan = some 0
  · rw [if_pos hlife]
    exact hdied m hm hlife
  · rw [if_neg hlife]
    cases hf : f m.store with
    | error e => exact herror m e hm hf
    | ok c => exact hok m c hm hf

theorem obey {signal : Signal ε} {Q : Post σ τ ε Unit}
    (hproceed : ∀ m, P m → Q.returned () m)
    (hraise : ∀ e, signal = .raise e → ∀ m, P m → Q.raised e m)
    (hdie : signal = .die → ∀ m, P m → Q.died m) :
    Triple P (Proc.obey signal : Proc σ τ ε Unit) Q := by
  cases signal with
  | proceed => exact hproceed
  | raise e => exact hraise e rfl
  | die => exact hdie rfl

/-- `E` is what holds when the body has raised and the cleanup begins. -/
theorem onRaise {body : Proc σ τ ε α} {cleanup : Proc σ τ ε Unit}
    {E : ε → Machine σ τ → Prop}
    (hbody : Triple P body ⟨Q.returned, E, Q.died⟩)
    (hcleanup : ∀ e, Triple (E e) cleanup ⟨fun _ => Q.raised e, Q.raised, Q.died⟩) :
    Triple P (Proc.onRaise body cleanup) Q := by
  intro m hm
  have hb := hbody m hm
  unfold Proc.onRaise
  generalize body m = ended at hb ⊢
  rcases ended with ⟨outcome, m'⟩
  cases outcome with
  | returned a => exact hb
  | died => exact hb
  | raised e =>
    have hraise : Triple (E e) (cleanup >>= fun _ => Proc.raise e) Q :=
      Triple.bind (hcleanup e) (fun _ => Triple.raise (fun _ h => h))
    exact hraise m' hb

theorem ite {c : Prop} [Decidable c] {p q : Proc σ τ ε α}
    (hthen : c → Triple P p Q) (helse : ¬ c → Triple P q Q) :
    Triple P (if c then p else q) Q := by
  by_cases hc : c
  · rw [if_pos hc]; exact hthen hc
  · rw [if_neg hc]; exact helse hc

/-- A fact that every machine of the precondition witnesses may be assumed. -/
theorem assume {F : Prop} {p : Proc σ τ ε α} (hF : ∀ m, P m → F) (h : F → Triple P p Q) :
    Triple P p Q :=
  fun m hm => h (hF m hm) m hm

/-- It is enough to treat each store the process may start from on its own. -/
theorem perStore {p : Proc σ τ ε α} (h : ∀ s, Triple (fun m => P m ∧ m.store = s) p Q) :
    Triple P p Q :=
  fun m hm => h m.store m ⟨hm, rfl⟩

end Triple

/-! ## Processes that do not die on a machine that never dies -/

/-- The process never dies of its own accord. -/
def Proc.Enduring (p : Proc σ τ ε α) : Prop :=
  ∀ m, m.lifespan = none → (p m).1 ≠ .died ∧ (p m).2.lifespan = none

namespace Proc.Enduring

theorem pure (a : α) : Enduring (Pure.pure a : Proc σ τ ε α) :=
  fun m hm => ⟨by simp [Pure.pure], hm⟩

theorem raise (e : ε) : Enduring (Proc.raise e : Proc σ τ ε α) :=
  fun m hm => ⟨by simp [Proc.raise], hm⟩

theorem read : Enduring (Proc.read : Proc σ τ ε σ) :=
  fun m hm => ⟨by simp [Proc.read], hm⟩

theorem note (label : τ) : Enduring (Proc.note label : Proc σ τ ε Unit) :=
  fun m hm => ⟨by simp [Proc.note], hm⟩

theorem ofExcept (x : Except ε α) : Enduring (Proc.ofExcept x : Proc σ τ ε α) := by
  cases x with
  | ok a => exact pure a
  | error e => exact raise e

theorem transact (f : σ → Except ε (Commit σ τ α)) : Enduring (Proc.transact f) := by
  intro m hm
  unfold Proc.transact
  rw [if_neg (by simp [hm])]
  cases f m.store with
  | error e => exact ⟨by simp, hm⟩
  | ok c => exact ⟨by simp, by simp [hm]⟩

theorem bind {p : Proc σ τ ε α} {f : α → Proc σ τ ε β} (hp : Enduring p)
    (hf : ∀ a, Enduring (f a)) : Enduring (p >>= f) := by
  intro m hm
  have hended := hp m hm
  change (Proc.bind p f m).1 ≠ .died ∧ (Proc.bind p f m).2.lifespan = none
  unfold Proc.bind
  generalize p m = ended at hended ⊢
  obtain ⟨outcome, m'⟩ := ended
  cases outcome with
  | returned a => exact hf a m' hended.2
  | raised e => exact ⟨by simp, hended.2⟩
  | died => exact absurd rfl hended.1

theorem ite {c : Prop} [Decidable c] {p q : Proc σ τ ε α} (hp : Enduring p) (hq : Enduring q) :
    Enduring (if c then p else q) := by
  split
  · exact hp
  · exact hq

end Proc.Enduring

end CartoSentry.Foundation
