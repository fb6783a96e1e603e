import CartoSentry.TrajectoryIntegrity.Consolidation

set_option autoImplicit false

/-!
# Trajectory integrity: position steps

The pairing of position jumps takes every jump once, alone or with its successor, and
loses no measurement.
-/

namespace CartoSentry.TrajectoryIntegrity

open Foundation (Double)
open Trajectory (Vector3 FloatLibrary)

/-! ## Steps of the scan -/

/-- What the scan does at its cursor. -/
inductive JumpStep where
  | kept (jump : RawFailure)
  | merged (left right : RawFailure)

namespace JumpStep

/-- The jumps that the cursor moves over. -/
def consumed : JumpStep → List RawFailure
  | kept jump => [jump]
  | merged left right => [left, right]

def outcome : JumpStep → RawFailure
  | kept jump => jump
  | merged left right => pairedStep left right

theorem measurements_outcome (step : JumpStep) :
    step.outcome.measurements = step.consumed.flatMap RawFailure.measurements := by
  cases step with
  | kept jump => exact (List.flatMap_singleton _ _).symm
  | merged left right =>
    rw [consumed, List.flatMap_cons, List.flatMap_singleton]
    rfl

end JumpStep

section Scan

variable {library : FloatLibrary} {jumpThresholdM : Double} {maximumPairDurationNs : Int}

variable (library jumpThresholdM maximumPairDurationNs) in
/-- Two jumps that are merged: neither is their product at least zero, nor their sum beyond
the tolerance, nor the time between their ends beyond the ceiling. -/
structure Opposing (left right : RawFailure) (leftVector rightVector : Vector3) : Prop where
  hasLeft : left.vector = some leftVector
  hasRight : right.vector = some rightVector
  product : (Double.finite 0).le (library.sum
    [leftVector.x.mul rightVector.x, leftVector.y.mul rightVector.y,
      leftVector.z.mul rightVector.z]) = false
  cancellation : ((jumpThresholdM.mul (.finite (1 / 4))).max ((Double.finite (1 / 4)).mul
      ((norm library leftVector).max (norm library rightVector)))).lt
    (norm library ⟨leftVector.x.add rightVector.x, leftVector.y.add rightVector.y,
      leftVector.z.add rightVector.z⟩) = false
  duration : right.endTimeNs - left.endTimeNs ≤ maximumPairDurationNs

theorem opposing_of_opposes {left right : RawFailure}
    (h : opposes library jumpThresholdM maximumPairDurationNs left right = true) :
    ∃ leftVector rightVector,
      Opposing library jumpThresholdM maximumPairDurationNs left right leftVector rightVector := by
  unfold opposes at h
  cases hleft : left.vector with
  | none =>
    rw [hleft] at h
    cases h
  | some leftVector =>
    cases hright : right.vector with
    | none =>
      rw [hleft, hright] at h
      cases h
    | some rightVector =>
      rw [hleft, hright] at h
      simp only [Bool.not_eq_true', Bool.or_eq_false_iff, decide_eq_false_iff_not, not_lt] at h
      obtain ⟨⟨hproduct, hcancellation⟩, hduration⟩ := h
      exact ⟨leftVector, rightVector, hleft, hright, hproduct, hcancellation, hduration⟩

variable (library jumpThresholdM maximumPairDurationNs) in
/-- The steps of the scan over these jumps. -/
structure Scanned (jumps paired : List RawFailure) (steps : List JumpStep) : Prop where
  consumed : jumps = steps.flatMap JumpStep.consumed
  outcomes : paired = steps.map JumpStep.outcome
  opposing : ∀ left right, JumpStep.merged left right ∈ steps → ∃ leftVector rightVector,
    Opposing library jumpThresholdM maximumPairDurationNs left right leftVector rightVector

theorem Scanned.keep {jump : RawFailure} {jumps paired : List RawFailure} {steps : List JumpStep}
    (h : Scanned library jumpThresholdM maximumPairDurationNs jumps paired steps) :
    Scanned library jumpThresholdM maximumPairDurationNs (jump :: jumps) (jump :: paired)
      (.kept jump :: steps) where
  consumed := congrArg (jump :: ·) h.consumed
  outcomes := congrArg (jump :: ·) h.outcomes
  opposing := by
    intro left right hmem
    rcases List.mem_cons.mp hmem with heq | hmem
    · cases heq
    · exact h.opposing left right hmem

theorem Scanned.merge {left right : RawFailure} {jumps paired : List RawFailure}
    {steps : List JumpStep}
    (hopposes : opposes library jumpThresholdM maximumPairDurationNs left right = true)
    (h : Scanned library jumpThresholdM maximumPairDurationNs jumps paired steps) :
    Scanned library jumpThresholdM maximumPairDurationNs (left :: right :: jumps)
      (pairedStep left right :: paired) (.merged left right :: steps) where
  consumed := congrArg (left :: right :: ·) h.consumed
  outcomes := congrArg (pairedStep left right :: ·) h.outcomes
  opposing := by
    intro first second hmem
    rcases List.mem_cons.mp hmem with heq | hmem
    · cases heq
      exact opposing_of_opposes hopposes
    · exact h.opposing first second hmem

theorem pairJumps_scanned (jumps : List RawFailure) : ∃ steps,
    Scanned library jumpThresholdM maximumPairDurationNs jumps
      (pairJumps library jumpThresholdM maximumPairDurationNs jumps) steps := by
  induction jumps using pairJumps.induct library jumpThresholdM maximumPairDurationNs with
  | case1 => exact ⟨[], rfl, rfl, fun _ _ hmem => absurd hmem List.not_mem_nil⟩
  | case2 left =>
    refine ⟨[.kept left], rfl, rfl, fun _ _ hmem => ?_⟩
    rw [List.mem_singleton] at hmem
    cases hmem
  | case3 left right rest hopposes ih =>
    obtain ⟨steps, hsteps⟩ := ih
    rw [pairJumps, if_pos hopposes]
    exact ⟨_, hsteps.merge hopposes⟩
  | case4 left right rest hopposes ih =>
    obtain ⟨steps, hsteps⟩ := ih
    rw [pairJumps, if_neg hopposes]
    exact ⟨_, hsteps.keep⟩

/-- What the scan over jumps leaves are jumps. -/
theorem Scanned.outcome_rule {jumps paired : List RawFailure} {steps : List JumpStep}
    (h : Scanned library jumpThresholdM maximumPairDurationNs jumps paired steps)
    (hjumps : ∀ jump ∈ jumps, jump.rule = .positionJump) {step : JumpStep} (hstep : step ∈ steps) :
    step.outcome.rule = .positionJump := by
  cases step with
  | kept jump =>
    apply hjumps
    rw [h.consumed]
    exact List.mem_flatMap.mpr ⟨_, hstep, List.mem_singleton.mpr rfl⟩
  | merged left right => rfl

/-- What holds between any two jumps in their order holds between the two of a merged step. -/
theorem Scanned.merged_related {R : RawFailure → RawFailure → Prop}
    {jumps paired : List RawFailure} {steps : List JumpStep}
    (h : Scanned library jumpThresholdM maximumPairDurationNs jumps paired steps)
    (hrelated : jumps.Pairwise R) {left right : RawFailure}
    (hmem : JumpStep.merged left right ∈ steps) : R left right := by
  obtain ⟨front, back, rfl⟩ := List.append_of_mem hmem
  rw [h.consumed, List.flatMap_append, List.flatMap_cons] at hrelated
  have hpair := (List.pairwise_append.mp (List.pairwise_append.mp hrelated).2.1).1
  exact (List.pairwise_cons.mp hpair).1 right (List.mem_singleton.mpr rfl)

end Scan

/-! ## The pairing -/

/-- **Pairing conserves evidence.**  Failures of other rules stay as they are; the jumps are
taken once each, in their order, alone or two neighbours at a time, and a merged pair has
the measurements of both.  A merged range is nonempty where the second jump ends later. -/
theorem position_steps_conserved (library : FloatLibrary) (jumpThresholdM : Double)
    (maximumPairDurationNs : Int) (failures : List RawFailure) : ∃ steps : List JumpStep,
      pairPositionSteps library jumpThresholdM maximumPairDurationNs failures =
        (failures.filter fun item => item.rule ≠ .positionJump) ++ steps.map JumpStep.outcome ∧
      (failures.filter fun item => item.rule = .positionJump) =
        steps.flatMap JumpStep.consumed ∧
      (∀ step ∈ steps, step.outcome.rule = .positionJump ∧
        step.outcome.measurements = step.consumed.flatMap RawFailure.measurements) ∧
      (∀ left right, JumpStep.merged left right ∈ steps →
        (pairedStep left right).startTimeNs = left.endTimeNs ∧
        (pairedStep left right).endTimeNs = right.endTimeNs ∧
        ((pairedStep left right).startIndex < (pairedStep left right).endIndexExclusive ↔
          left.endIndexExclusive < right.endIndexExclusive) ∧
        ∃ leftVector rightVector, Opposing library jumpThresholdM maximumPairDurationNs left right
          leftVector rightVector) ∧
      ((failures.filter fun item => item.rule = .positionJump).Pairwise
          (fun left right => left.endIndexExclusive < right.endIndexExclusive) →
        ∀ left right, JumpStep.merged left right ∈ steps →
          (pairedStep left right).startIndex < (pairedStep left right).endIndexExclusive) := by
  obtain ⟨steps, hsteps⟩ : ∃ steps, Scanned library jumpThresholdM maximumPairDurationNs _ _ steps :=
    pairJumps_scanned (failures.filter fun item => item.rule = .positionJump)
  refine ⟨steps, ?_, hsteps.consumed, ?_, ?_, ?_⟩
  · rw [pairPositionSteps, hsteps.outcomes]
  · intro step hstep
    exact ⟨hsteps.outcome_rule (fun item hitem => of_decide_eq_true (List.mem_filter.mp hitem).2)
      hstep, step.measurements_outcome⟩
  · intro left right hmem
    exact ⟨rfl, rfl, Iff.rfl, hsteps.opposing left right hmem⟩
  · intro hascending left right hmem
    change left.endIndexExclusive < right.endIndexExclusive
    exact hsteps.merged_related hascending hmem

/-! ## Two jumps that end at one sample -/

/-- Sums that need no compensation, and the square roots of zero and one. -/
def exactFloats : FloatLibrary where
  sum := fun values => values.foldl Double.add (.finite 0)
  sqrt := id

def sampleJump (x : ℚ) : RawFailure where
  rule := .positionJump
  startTimeNs := 0
  endTimeNs := 1
  startIndex := 0
  endIndexExclusive := 1
  measurements := [⟨.positionJump, .finite 2, .meter, "trajectory.position_jump_residual_m",
    .finite 1, .maxLe⟩]
  severity := .critical
  vector := some ⟨.finite x, .finite 0, .finite 0⟩

/-- A pair of jumps that end at the same sample is merged over an empty range. -/
theorem merged_range_empty : ¬ ∀ failures : List RawFailure,
    ∀ failure ∈ pairPositionSteps exactFloats (.finite 1) 3000000000 failures,
      failure ∈ failures ∨ failure.startIndex < failure.endIndexExclusive := by
  intro h
  have hmerged := h [sampleJump 1, sampleJump (-1)]
    (pairedStep (sampleJump 1) (sampleJump (-1))) (by decide +kernel)
  revert hmerged
  decide +kernel

end CartoSentry.TrajectoryIntegrity
