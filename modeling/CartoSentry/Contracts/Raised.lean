import CartoSentry.Foundation.Outcome
import Mathlib.Tactic.SplitIfs

set_option autoImplicit false

/-!
# Contracts: what Python raises

The exceptions of the Python side by their class.  A `ValidationError` of pydantic is a
`ValueError`.
-/

namespace CartoSentry.Contracts

inductive Raised where
  | valueError (message : String)
  | overflowError (message : String)
  | zeroDivisionError (message : String)
  | keyError (message : String)
  | indexError (message : String)
  deriving DecidableEq, Repr

/-- `if condition: raise ValueError(message)` -/
def raiseIf (condition : Prop) [Decidable condition] (message : String) : Except Raised Unit :=
  if condition then .error (.valueError message) else .ok ()

theorem raiseIf_eq_ok_iff {condition : Prop} [Decidable condition] {message : String} :
    raiseIf condition message = .ok () ↔ ¬ condition := by
  unfold raiseIf
  split_ifs with h
  · exact iff_of_false (fun hok => by cases hok) (fun hnot => hnot h)
  · exact iff_of_true rfl h

/-- A check that passes leaves the rest. -/
theorem raiseIf_bind {A : Type} {condition : Prop} [Decidable condition] {message : String}
    (h : ¬ condition) (rest : Except Raised A) :
    (raiseIf condition message >>= fun _ => rest) = rest := by
  rw [raiseIf_eq_ok_iff.mpr h, Foundation.ok_bind]

/-- The outcome is a result, or this failure. -/
def OnlyRaises {A : Type} (failure : Raised) (outcome : Except Raised A) : Prop :=
  (∃ result, outcome = .ok result) ∨ outcome = .error failure

namespace OnlyRaises

variable {A B : Type} {failure : Raised}

theorem ok (result : A) : OnlyRaises failure (.ok result) :=
  Or.inl ⟨result, rfl⟩

theorem of_exists {outcome : Except Raised A} (h : ∃ result, outcome = .ok result) :
    OnlyRaises failure outcome :=
  Or.inl h

theorem bind {first : Except Raised A} {rest : A → Except Raised B}
    (hfirst : OnlyRaises failure first)
    (hrest : ∀ result, first = .ok result → OnlyRaises failure (rest result)) :
    OnlyRaises failure (first >>= rest) := by
  rcases hfirst with ⟨result, hresult⟩ | herror
  · rw [hresult, Foundation.ok_bind]
    exact hrest result hresult
  · rw [herror]
    exact Or.inr rfl

theorem raiseIf {condition : Prop} [Decidable condition] {message : String} :
    OnlyRaises (.valueError message) (Contracts.raiseIf condition message) := by
  unfold Contracts.raiseIf
  split_ifs
  · exact Or.inr rfl
  · exact .ok ()

theorem foldlM {step : B → A → Except Raised B} {items : List A} {start : B}
    (h : ∀ item ∈ items, ∀ state, OnlyRaises failure (step state item)) :
    OnlyRaises failure (items.foldlM step start) := by
  induction items generalizing start with
  | nil => exact .ok start
  | cons item items ih =>
    obtain ⟨hitem, hitems⟩ := List.forall_mem_cons.mp h
    rw [List.foldlM_cons]
    exact (hitem start).bind fun next _ => ih hitems

end OnlyRaises

end CartoSentry.Contracts
