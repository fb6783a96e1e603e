import CartoSentry.Foundation.DurableProc

set_option autoImplicit false

/-!
# Histories of a labelled transition system

A history is the list of effects that led from one store to another, each with
the store it started from.  A step may look at the effects before it, so a step
relation can say what an effect answers to.  Invariants are proved once over a
single step and carried to every store of a history by the rules below; the
conditional forms let a step use what a hypothesis says about the effects of the
history.
-/

namespace CartoSentry.Foundation

variable {σ τ : Type} {step : List (Effect σ τ) → σ → τ → σ → Prop}

/-- The effects that lead from `start` to a store. -/
inductive History (step : List (Effect σ τ) → σ → τ → σ → Prop) (start : σ) :
    List (Effect σ τ) → σ → Prop
  | nil : History step start [] start
  | snoc {log : List (Effect σ τ)} {s s' : σ} {label : τ} (h : History step start log s)
      (hstep : step log s label s') : History step start (log ++ [⟨s, label⟩]) s'

namespace History

variable {start s s' : σ} {log : List (Effect σ τ)}

/-- What holds of the empty history and is carried by every step holds of a history. -/
theorem induct {J : List (Effect σ τ) → σ → Prop} (hnil : J [] start)
    (hsnoc : ∀ (log : List (Effect σ τ)) (s : σ) (label : τ) (s' : σ), History step start log s →
      J log s → step log s label s' → J (log ++ [⟨s, label⟩]) s')
    (h : History step start log s) : J log s := by
  induction h with
  | nil => exact hnil
  | snoc h hstep ih => exact hsnoc _ _ _ _ h ih hstep

theorem invariant {I : σ → Prop} (hstart : I start)
    (hpreserved : ∀ log s label s', I s → step log s label s' → I s')
    (h : History step start log s) : I s :=
  h.induct (J := fun _ s => I s) hstart
    (fun log s label s' _ hI hstep => hpreserved log s label s' hI hstep)

/-- An invariant that holds after one effect and is carried by every effect since
holds of what comes later. -/
theorem since {earlier : List (Effect σ τ)} {effect : Effect σ τ}
    {J : List (Effect σ τ) → σ → Prop}
    (hfirst : ∀ s', History step start earlier effect.before →
      step earlier effect.before effect.label s' → J [] s')
    (hsnoc : ∀ (later : List (Effect σ τ)) (s : σ) (label : τ) (s' : σ),
      History step start (earlier ++ effect :: later) s → J later s →
      step (earlier ++ effect :: later) s label s' → J (later ++ [⟨s, label⟩]) s') :
    ∀ {later : List (Effect σ τ)} {s : σ},
      History step start (earlier ++ effect :: later) s → J later s := by
  intro later s h
  generalize hlog : earlier ++ effect :: later = log at h
  induction h generalizing later with
  | nil => simp at hlog
  | @snoc log s s' label h hstep ih =>
    rcases List.eq_nil_or_concat later with rfl | ⟨init, last, rfl⟩
    · obtain ⟨rfl, heffect⟩ := List.append_inj' hlog rfl
      cases heffect
      exact hfirst s' h hstep
    · rw [List.concat_eq_append, ← List.cons_append, ← List.append_assoc] at hlog
      obtain ⟨rfl, hlast⟩ := List.append_inj' hlog rfl
      cases hlast
      rw [List.concat_eq_append]
      exact hsnoc init s label s' h (ih rfl) hstep

theorem mono {step' : List (Effect σ τ) → σ → τ → σ → Prop} (h : History step start log s)
    (hstep : ∀ log s label s', step log s label s' → step' log s label s') :
    History step' start log s := by
  induction h with
  | nil => exact .nil
  | snoc _ hs ih => exact ih.snoc (hstep _ _ _ _ hs)

end History

/-- The log of the machine is a history that led from `start` to its store. -/
def Recorded (step : List (Effect σ τ) → σ → τ → σ → Prop) (start : σ) (m : Machine σ τ) : Prop :=
  History step start m.log m.store

namespace Recorded

variable {start : σ} {m : Machine σ τ} {label : τ} {store : σ}

theorem after (h : Recorded step start m) (hstep : step m.log m.store label store) :
    Recorded step start (m.after label store) :=
  History.snoc h hstep

theorem noted (h : Recorded step start m) (hstep : step m.log m.store label m.store) :
    Recorded step start (m.noted label) :=
  History.snoc h hstep

end Recorded

end CartoSentry.Foundation
