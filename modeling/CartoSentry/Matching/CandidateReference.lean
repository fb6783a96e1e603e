import CartoSentry.Matching.CandidateAcceptance

set_option autoImplicit false

/-!
# Road matching: generated candidates as references

Which generated candidates `validate_candidate_reference` accepts.  The offset is
clamped to the length of its arc before it is rounded, so it passes the length
exactly where it lies in the last, incomplete unit of the arc and rounds up there.
-/

namespace CartoSentry.Matching

/-! ## Rounding against a bound -/

/-- The scaled value is rounded to the unit above it. -/
def RoundsUp (scaled : ℚ) : Prop :=
  isTie scaled ∧ ¬ Even ⌊scaled⌋ ∨ 1 / 2 + halfTieTolerance scaled < scaled - ⌊scaled⌋

instance (scaled : ℚ) : Decidable (RoundsUp scaled) :=
  inferInstanceAs (Decidable (_ ∨ _))

theorem roundScaled_eq_floor_add_one_iff {scaled : ℚ} :
    roundScaled scaled = ⌊scaled⌋ + 1 ↔ RoundsUp scaled := by
  constructor
  · exact rounds_up
  · intro hup
    apply (roundScaled_eq_or scaled).resolve_left
    intro hdown
    have htolerance := halfTieTolerance_pos scaled
    cases rounds_down hdown with
    | inl heven =>
      cases hup with
      | inl hodd => exact hodd.2 heven.2
      | inr hbeyond =>
        have hnear := (abs_le.mp heven.1).2
        linarith
    | inr hbefore =>
      cases hup with
      | inl hodd =>
        have hnear := (abs_le.mp hodd.1).1
        linarith
      | inr hbeyond => linarith

/-- The value lies in the last, incomplete unit below the bound and rounds up. -/
def PassesLastUnit (value bound : ℚ) (places : Nat) : Prop :=
  ⌊value * 10 ^ places⌋ = ⌊bound * 10 ^ places⌋ ∧ RoundsUp (value * 10 ^ places)

instance (value bound : ℚ) (places : Nat) : Decidable (PassesLastUnit value bound places) :=
  inferInstanceAs (Decidable (_ ∧ _))

/-- Rounding passes a bound of the value only in the last unit below the bound. -/
theorem roundTo_le_iff {value bound : ℚ} (hle : value ≤ bound) (places : Nat) :
    roundTo value places ≤ bound ↔ ¬ PassesLastUnit value bound places := by
  have hpower : (0 : ℚ) < 10 ^ places := by positivity
  have hscaled : roundTo value places ≤ bound ↔
      roundScaled (value * 10 ^ places) ≤ ⌊bound * 10 ^ places⌋ := by
    rw [roundTo, div_le_iff₀ hpower, Int.le_floor]
  have hfloor : ⌊value * 10 ^ places⌋ ≤ ⌊bound * 10 ^ places⌋ :=
    Int.floor_mono (mul_le_mul_of_nonneg_right hle hpower.le)
  rw [hscaled, PassesLastUnit, ← roundScaled_eq_floor_add_one_iff]
  cases roundScaled_eq_or (value * 10 ^ places) with
  | inl hdown =>
    rw [hdown]
    constructor
    · intro _ hpasses
      omega
    · intro _
      exact hfloor
  | inr hup =>
    rw [hup]
    constructor
    · intro hbelow hpasses
      omega
    · intro hstays
      have hunit : ⌊value * 10 ^ places⌋ ≠ ⌊bound * 10 ^ places⌋ := fun heq => hstays ⟨heq, rfl⟩
      omega

/-- A bound of whole units is never passed. -/
theorem not_passesLastUnit_of_int {value bound : ℚ} (hle : value ≤ bound) {places : Nat} {units : ℤ}
    (hunits : bound * 10 ^ places = units) : ¬ PassesLastUnit value bound places := by
  rw [← roundTo_le_iff hle]
  have hpower : (10 : ℚ) ^ places ≠ 0 := by positivity
  calc roundTo value places ≤ roundTo bound places := roundTo_mono places hle
    _ = bound := by
      rw [roundTo, hunits, roundScaled_intCast, ← hunits, mul_div_cancel_right₀ _ hpower]

/-! ## Candidates -/

/-- `along_offset` before it is rounded. -/
def alongPosition (arc : Arc) (projection : Projection) : ℚ :=
  min arc.length (projection.projectedGeometryDistance / projection.geometryLength * arc.length)

/-- No observation lies on a kept arc in the last, incomplete unit of the arc, where
it would round up. -/
def StaysOnArcs (math : NativeMath) (candidateParameters : CandidateParameters)
    (emissionParameters : EmissionParameters) (graph : Graph) (observations : List Observation) :
    Prop :=
  ∀ observationIndex observation, observations[observationIndex]? = some observation →
    ∀ arcIndex < graph.arcs.length,
      Keeps math candidateParameters emissionParameters graph observationIndex observation
        arcIndex →
      ∀ projection, project math (graph.arc arcIndex) observation.position = .ok projection →
        ¬ PassesLastUnit (alongPosition (graph.arc arcIndex) projection)
          (graph.arc arcIndex).length candidateParameters.places

/-- A graph whose lengths are whole units, as the import rounds them, is safe. -/
theorem staysOnArcs_of_whole_lengths {math : NativeMath}
    {candidateParameters : CandidateParameters} {emissionParameters : EmissionParameters}
    {graph : Graph} {observations : List Observation}
    (hwhole : ∀ arc ∈ graph.arcs, ∃ units : ℤ,
      arc.length * 10 ^ candidateParameters.places = units) :
    StaysOnArcs math candidateParameters emissionParameters graph observations := by
  intro _ _ _ arcIndex harc _ projection _
  obtain ⟨units, hunits⟩ := hwhole _ (Graph.arc_mem harc)
  exact not_passesLastUnit_of_int (min_le_left _ _) hunits

section Reference

variable {math : NativeMath} {candidateParameters : CandidateParameters}
  {emissionParameters : EmissionParameters} {graph : Graph}

theorem validateCandidateReference_onRoad_iff {candidate : Candidate} {id : String}
    {observationIndex arcIndex : Nat} {offset : ℚ} (hid : id ≠ "")
    (hindex : candidate.observationIndex = observationIndex)
    (harc : candidate.arcIndex = some arcIndex) (hoffset : candidate.alongArcOffset = some offset) :
    validateCandidateReference graph { candidate with candidateId := id } observationIndex =
        .ok () ↔
      arcIndex < graph.arcs.length ∧ 0 ≤ offset ∧ offset ≤ (graph.arc arcIndex).length := by
  unfold validateCandidateReference
  dsimp only
  rw [if_neg (by simp [hid, hindex]), harc, hoffset]
  dsimp only
  split_ifs with hinvalid
  · constructor
    · intro h
      cases h
    · intro ⟨hbound, hpos, hle⟩
      rcases hinvalid with h | h | h
      · omega
      · linarith
      · linarith
  · push Not at hinvalid
    simpa using hinvalid

/-- What validation says of a candidate depends on where the observation lies. -/
theorem makeOnRoadCandidate_reference
    (hparameters : validateParameters candidateParameters emissionParameters = .ok ())
    (hsqrt : math.SqrtNonneg) (hgraph : graph.Valid) {observationIndex arcIndex : Nat}
    {observation : Observation} (harc : arcIndex < graph.arcs.length) {projection : Projection}
    (hprojection : project math (graph.arc arcIndex) observation.position = .ok projection)
    {radius : ℚ} {candidate : Candidate}
    (hmade : makeOnRoadCandidate math candidateParameters emissionParameters observationIndex
      observation arcIndex (graph.arc arcIndex) radius = .ok (some candidate))
    {id : String} (hid : id ≠ "") :
    validateCandidateReference graph { candidate with candidateId := id } observationIndex =
        .ok () ↔
      ¬ PassesLastUnit (alongPosition (graph.arc arcIndex) projection)
        (graph.arc arcIndex).length candidateParameters.places := by
  obtain ⟨found, _, hfound, -, -, hindex, harcIndex, -, -, -, hoffset, -, -⟩ :=
    makeOnRoadCandidate_fields hparameters hmade
  obtain rfl := Except.ok.inj (hprojection.symm.trans hfound)
  obtain ⟨-, hdistance, hlength⟩ := project_nonneg hsqrt hprojection
  have harcLength : 0 < (graph.arc arcIndex).length := hgraph.length_pos (Graph.arc_mem harc)
  have hnonneg : 0 ≤ alongPosition (graph.arc arcIndex) projection :=
    le_min harcLength.le (mul_nonneg (div_nonneg hdistance hlength.le) harcLength.le)
  have hle : alongPosition (graph.arc arcIndex) projection ≤ (graph.arc arcIndex).length :=
    min_le_left _ _
  rw [validateCandidateReference_onRoad_iff hid hindex harcIndex hoffset,
    ← roundTo_le_iff hle]
  constructor
  · intro ⟨_, _, hbound⟩
    exact hbound
  · intro hbound
    exact ⟨harc, roundTo_nonneg hnonneg _, hbound⟩

end Reference

namespace FineRoad

/-- A road east whose length has seven decimal places. -/
def graph : Graph where
  arcs := [{ arcId := "fine", fromNodeId := "a", toNodeId := "b", sourceWayId := 1,
             direction := .forward, length := 500000007 / 10 ^ 7, geometry := [⟨0, 0⟩, ⟨50, 0⟩] }]
  transitionRules := []

def observations : List Observation :=
  [LoopRoad.observationAt "last" 0 50]

/-- The batches generated for one observation at the end of the road. -/
def generated : List (List Candidate) :=
  match generateCandidateBatches LoopRoad.math LoopRoad.candidateParameters
    LoopRoad.emissionParameters graph observations with
  | .ok batches => batches
  | .error _ => []

end FineRoad

end CartoSentry.Matching
