import CartoSentry.Matching.Candidates
import CartoSentry.Matching.DecoderExact

set_option autoImplicit false

/-!
# Road matching: decoding generated candidates

Every generated batch has a candidate off the map, and a transition to it is
possible from anywhere.  So some extension of every beam remains, and decoding
generated candidates returns.
-/

namespace CartoSentry.Matching

open Foundation (bind_unit_eq_ok_iff bind_eq_ok_iff)
open Foundation.BeamSearch

/-! ## Generated batches -/

section Generated

variable {math : NativeMath} {candidateParameters : CandidateParameters}
  {emissionParameters : EmissionParameters} {graph : Graph}

theorem candidateBatch_offMap {observationIndex : Nat} {observation : Observation}
    {batch : List Candidate}
    (h : candidateBatch math candidateParameters emissionParameters graph observationIndex
      observation = .ok batch) : ∃ candidate ∈ batch, candidate.offMap = true := by
  unfold candidateBatch at h
  rw [bind_eq_ok_iff] at h
  obtain ⟨onRoad, -, h⟩ := h
  cases h
  refine ⟨_, List.mem_append_right _ List.mem_cons_self, rfl⟩

theorem candidateBatchesFrom_offMap {observationIndex : Nat} {observations : List Observation}
    {batches : List (List Candidate)}
    (h : candidateBatchesFrom math candidateParameters emissionParameters graph observationIndex
      observations = .ok batches) :
    ∀ batch ∈ batches, ∃ candidate ∈ batch, candidate.offMap = true := by
  induction observations generalizing observationIndex batches with
  | nil =>
    cases h
    simp
  | cons observation rest ih =>
    unfold candidateBatchesFrom at h
    rw [bind_eq_ok_iff] at h
    obtain ⟨batch, hbatch, h⟩ := h
    rw [bind_eq_ok_iff] at h
    obtain ⟨others, hothers, h⟩ := h
    cases h
    rw [List.forall_mem_cons]
    exact ⟨candidateBatch_offMap hbatch, ih hothers⟩

theorem candidateBatchesFrom_length {observationIndex : Nat} {observations : List Observation}
    {batches : List (List Candidate)}
    (h : candidateBatchesFrom math candidateParameters emissionParameters graph observationIndex
      observations = .ok batches) : batches.length = observations.length := by
  induction observations generalizing observationIndex batches with
  | nil =>
    cases h
    rfl
  | cons observation rest ih =>
    unfold candidateBatchesFrom at h
    rw [bind_eq_ok_iff] at h
    obtain ⟨batch, -, h⟩ := h
    rw [bind_eq_ok_iff] at h
    obtain ⟨others, hothers, h⟩ := h
    cases h
    rw [List.length_cons, List.length_cons, ih hothers]

/-- The distance rounding of accepted parameters. -/
theorem validateParameters_places
    (h : validateParameters candidateParameters emissionParameters = .ok ()) :
    0 ≤ candidateParameters.distanceRoundingDecimalPlaces ∧
      candidateParameters.distanceRoundingDecimalPlaces ≤ 12 := by
  unfold validateParameters at h
  split_ifs at h with hinvalid
  push Not at hinvalid
  omega

theorem generateCandidateBatches_checks {observations : List Observation}
    {batches : List (List Candidate)}
    (h : generateCandidateBatches math candidateParameters emissionParameters graph observations =
      .ok batches) :
    graph.Valid ∧ validateObservations observations = .ok () ∧
      validateParameters candidateParameters emissionParameters = .ok () ∧
      candidateBatchesFrom math candidateParameters emissionParameters graph 0 observations =
        .ok batches := by
  unfold generateCandidateBatches at h
  rw [bind_unit_eq_ok_iff, bind_unit_eq_ok_iff, bind_unit_eq_ok_iff] at h
  exact h

end Generated

/-- The candidates of a batch with identities assigned to them. -/
def Identified (generated batch : List Candidate) : Prop :=
  List.Forall₂ (fun candidate identified =>
    ∃ candidateId, identified = { candidate with candidateId := candidateId }) generated batch

theorem Identified.offMap {generated batch : List Candidate} (h : Identified generated batch)
    (hoff : ∃ candidate ∈ generated, candidate.offMap = true) :
    ∃ candidate ∈ batch, candidate.offMap = true := by
  induction h with
  | nil => exact hoff
  | cons hhead _ ih =>
    obtain ⟨candidateId, rfl⟩ := hhead
    obtain ⟨candidate, hmem, hcandidate⟩ := hoff
    rcases List.mem_cons.mp hmem with rfl | hlater
    · exact ⟨_, List.mem_cons_self, hcandidate⟩
    · obtain ⟨other, hother, hotherOff⟩ := ih ⟨candidate, hlater, hcandidate⟩
      exact ⟨other, List.mem_cons_of_mem _ hother, hotherOff⟩

theorem batchAt_offMap {generated batches : List (List Candidate)}
    (h : List.Forall₂ Identified generated batches)
    (hoff : ∀ batch ∈ generated, ∃ candidate ∈ batch, candidate.offMap = true)
    {observationIndex : Nat} (hindex : observationIndex < batches.length) :
    ∃ candidate ∈ batchAt batches observationIndex, candidate.offMap = true := by
  induction h generalizing observationIndex with
  | nil => simp at hindex
  | cons hbatch _ ih =>
    rw [List.forall_mem_cons] at hoff
    cases observationIndex with
    | zero => exact hbatch.offMap hoff.1
    | succ observationIndex => exact ih hoff.2 (Nat.lt_of_succ_lt_succ hindex)

/-! ## Possible transitions -/

/-- Every two neighbours of the sequence have a possible transition. -/
def UsesPossibleTransitions (math : NativeMath) (input : DecoderInput)
    (path : List Candidate) : Prop :=
  ∀ observationIndex previous current, path[observationIndex]? = some previous →
    path[observationIndex + 1]? = some current →
      ∃ transition, scoreTransition math input.graph input.candidateParameters
        input.transitionParameters input.observations
        (stepQuery observationIndex previous current) = .ok transition ∧
          transition.possible = true

theorem possible_of_stepScore {math : NativeMath} {input : DecoderInput} {observationIndex : Nat}
    {previous current : Candidate} {f : ℚ → ℚ}
    (h : stepScore math input observationIndex previous current = some f) :
    ∃ transition, scoreTransition math input.graph input.candidateParameters
      input.transitionParameters input.observations
      (stepQuery observationIndex previous current) = .ok transition ∧
        transition.possible = true := by
  unfold stepScore at h
  split at h
  · next transition htransition =>
    split_ifs at h with hpossible
    exact ⟨transition, htransition, hpossible⟩
  · simp at h

theorem possible_of_feasible {math : NativeMath} {input : DecoderInput} {observationIndex : Nat}
    {entry : Entry Candidate ℚ}
    (h : Feasible (decoderTrellis math input) observationIndex entry) :
    UsesPossibleTransitions math input entry.path := by
  induction h with
  | start _ =>
    intro observationIndex previous current _ hcurrent
    simp at hcurrent
  | @step t front c f hfront _ hf ih =>
    intro observationIndex previous current hprevious hcurrent
    have hlength := hfront.length
    rcases Nat.lt_trichotomy (observationIndex + 1) front.path.length with hlt | heq | hgt
    · rw [List.getElem?_append_left (by omega)] at hprevious
      rw [List.getElem?_append_left hlt] at hcurrent
      exact ih observationIndex previous current hprevious hcurrent
    · obtain rfl : observationIndex = t := by omega
      rw [List.getElem?_append_left (by omega)] at hprevious
      rw [List.getElem?_append_right (by omega), heq, Nat.sub_self] at hcurrent
      have hlast := hfront.getLast?
      rw [List.getLast?_eq_getElem?, hlength, Nat.add_sub_cancel, hprevious] at hlast
      obtain rfl := Option.some.inj hlast
      obtain rfl := Option.some.inj hcurrent
      exact possible_of_stepScore hf
    · rw [List.getElem?_eq_none (by rw [List.length_append, List.length_singleton]; omega)]
        at hcurrent
      simp at hcurrent

/-! ## Leaving the map -/

/-- The times increase strictly, by differences of 64 bits. -/
def TimesFit (observations : List Observation) : Prop :=
  (observations.map Observation.timeNs).IsChain fun previous current =>
    previous < current ∧ current - previous ≤ int64Max

instance (observations : List Observation) : Decidable (TimesFit observations) :=
  inferInstanceAs (Decidable (List.IsChain _ _))

section Leaving

variable {math : NativeMath} {input : DecoderInput} {observationIndex : Nat}
  (hindex : observationIndex + 1 < input.observations.length)
  (htimes : TimesFit input.observations)
  (hdistance : 0 ≤ input.candidateParameters.distanceRoundingDecimalPlaces)
  (hdistance' : input.candidateParameters.distanceRoundingDecimalPlaces ≤ 12)

include hindex htimes

theorem TimesFit.step : ∃ previous current,
    input.observations[observationIndex]? = some previous ∧
      input.observations[observationIndex + 1]? = some current ∧
      previous.timeNs < current.timeNs ∧ ¬ elapsedOverflows previous.timeNs current.timeNs := by
  have hchain := List.isChain_iff_getElem.mp htimes observationIndex (by simpa using hindex)
  simp only [List.getElem_map] at hchain
  refine ⟨_, _, List.getElem?_eq_getElem (by omega), List.getElem?_eq_getElem hindex, hchain.1, ?_⟩
  unfold elapsedOverflows int64Min int64Max at *
  omega

include hdistance hdistance'

theorem stepFailure_eq_none : stepFailure input observationIndex = none := by
  obtain ⟨previous, current, hprevious, hcurrent, -, hoverflow⟩ := htimes.step hindex
  unfold stepFailure
  simp only [hprevious, hcurrent]
  rw [if_neg (by omega), if_neg hoverflow]

variable (math) in
/-- A transition off the map is possible from every candidate. -/
theorem stepScore_offMap (hvalid : input.Valid) {previous current : Candidate}
    (hprevious : previous ∈ batchAt input.batches observationIndex)
    (hcurrent : current ∈ batchAt input.batches (observationIndex + 1))
    (hoff : current.offMap = true) :
    ∃ f, stepScore math input observationIndex previous current = some f := by
  obtain ⟨previousObservation, currentObservation, hfirst, hsecond, hincreases, hoverflow⟩ :=
    htimes.step hindex
  have hreference := (hvalid.batchValid (Nat.lt_of_succ_lt hindex)).references previous hprevious
  have hreference' := (hvalid.batchValid hindex).references current hcurrent
  obtain ⟨hplaces, hplaces'⟩ := hvalid.transitionPlaces
  have hpositive : ¬ ((currentObservation.timeNs - previousObservation.timeNs : ℚ) /
      1000000000 ≤ 0) := by
    have hcast : (previousObservation.timeNs : ℚ) < currentObservation.timeNs := by
      exact_mod_cast hincreases
    rw [not_le]
    apply div_pos
    · linarith
    · norm_num
  obtain ⟨result, hresult, hpossible, -⟩ := offMapTransition_ok hplaces hplaces'
    ((currentObservation.timeNs - previousObservation.timeNs : ℚ) / 1000000000)
    (distanceBetween math previousObservation.position currentObservation.position)
    previous current
  unfold stepScore scoreTransition
  simp only [stepQuery, hfirst, hsecond]
  rw [throwIf, if_neg (by omega), hreference, hreference', throwIf, if_neg hoverflow]
  simp only [bind, Except.bind, if_neg hpositive]
  rw [timedTransition, if_pos (Or.inr hoff), hresult]
  simp only [hpossible, if_true]
  exact ⟨_, rfl⟩

end Leaving

/-! ## Decoding -/

section Decoding

variable {math : NativeMath} {input : DecoderInput} (hvalid : input.Valid)
  (htimes : TimesFit input.observations)
  (hdistance : 0 ≤ input.candidateParameters.distanceRoundingDecimalPlaces)
  (hdistance' : input.candidateParameters.distanceRoundingDecimalPlaces ≤ 12)
  (hoff : ∀ observationIndex < input.observations.length,
    ∃ candidate ∈ batchAt input.batches observationIndex, candidate.offMap = true)

include hvalid htimes hdistance hdistance' hoff

variable (math) in
/-- Some extension of every beam remains. -/
theorem entriesAfter_ok {observationIndex : Nat}
    (hindex : observationIndex < input.observations.length) :
    ∃ state, entriesAfter math input observationIndex = .ok state := by
  induction observationIndex with
  | zero => exact ⟨_, rfl⟩
  | succ observationIndex ih =>
    obtain ⟨state, hstate⟩ := ih (by omega)
    obtain ⟨hfeasible, -, hnonempty⟩ := entriesAfter_sound hvalid (by omega) hstate
    obtain ⟨entry, hentry⟩ := List.exists_mem_of_ne_nil _ hnonempty
    obtain ⟨current, hcurrent, hcurrentOff⟩ := hoff (observationIndex + 1) hindex
    obtain ⟨f, hf⟩ := stepScore_offMap math hindex htimes hdistance hdistance' hvalid
      (hfeasible entry hentry).terminal_mem hcurrent hcurrentOff
    have hextended : expand (decoderTrellis math input) observationIndex state.beam ≠ [] :=
      List.ne_nil_of_mem (mem_expand.mpr ⟨entry, hentry, current, hcurrent, f, hf, rfl⟩)
    rw [entriesAfter, hstate]
    simp only [bind, Except.bind]
    unfold entryStep
    rw [stepFailure_eq_none hindex htimes hdistance hdistance']
    simp only [List.isEmpty_iff, hextended, if_false]
    exact ⟨_, rfl⟩

theorem beamAfter_ok {observationIndex : Nat}
    (hindex : observationIndex < input.observations.length) :
    ∃ state, beamAfter math input observationIndex = .ok state ∧ state.beam ≠ [] := by
  obtain ⟨entries, hentries⟩ :=
    entriesAfter_ok math hvalid htimes hdistance hdistance' hoff hindex
  have hbeam := beamAfter_refines math hvalid hindex
  cases hstate : beamAfter math input observationIndex with
  | error failure =>
    rw [hstate, hentries] at hbeam
    exact absurd hbeam (by simp)
  | ok state =>
    rw [hstate] at hbeam
    exact ⟨state, rfl, hbeam.2.nonempty⟩

variable (math) in
/-- The decoder returns, and its sequences use possible transitions. -/
theorem decode_ok : ∃ result, decodeCandidateBatches math input = .ok result ∧
    (candidatesOf input.batches result.bestCandidateIndices).length =
      input.observations.length ∧
    UsesPossibleTransitions math input
      (candidatesOf input.batches result.bestCandidateIndices) ∧
    UsesPossibleTransitions math input
      (candidatesOf input.batches result.runnerUpCandidateIndices) := by
  have hindex : input.observations.length - 1 < input.observations.length := by
    have hpos := List.length_pos_of_ne_nil hvalid.observations_ne_nil
    omega
  obtain ⟨state, hstate⟩ :=
    entriesAfter_ok math hvalid htimes hdistance hdistance' hoff hindex
  obtain ⟨hfeasible, -, -⟩ := entriesAfter_sound hvalid hindex hstate
  obtain ⟨first, rest, result, hsorted, hdecode, hsequences⟩ := decode_of_entries hvalid hstate
  have hmem : ∀ entry ∈ first :: rest, UsesPossibleTransitions math input entry.path := by
    intro entry hentry
    rw [← hsorted] at hentry
    exact possible_of_feasible (hfeasible entry ((List.mem_insertionSort _).mp hentry))
  have hbest : candidatesOf input.batches result.bestCandidateIndices = first.path :=
    congrArg SequenceResult.best hsequences
  refine ⟨result, hdecode, ?_, ?_, ?_⟩
  · have hfirst := hfeasible first ((List.mem_insertionSort _).mp
      (show first ∈ sortEntries state.beam by rw [hsorted]; exact List.mem_cons_self))
    rw [hbest, hfirst.length]
    omega
  · rw [hbest]
    exact hmem first List.mem_cons_self
  · rcases runnerUp_of_sequences hsequences with ⟨-, hnone⟩ | ⟨second, others, hrest, hpath⟩
    · rw [hnone]
      intro observationIndex previous current hprevious
      simp [candidatesOf] at hprevious
    · rw [hpath]
      exact hmem second (by rw [hrest]; simp)

end Decoding

/-- Decoding candidates that were generated never ends without a hypothesis, whatever
the decoder's parameters: the beam keeps a hypothesis after every observation, and the
sequences returned use possible transitions only. -/
theorem decode_generated (math : NativeMath) {input : DecoderInput}
    {emissionParameters : EmissionParameters} {generated : List (List Candidate)}
    (hgenerated : generateCandidateBatches math input.candidateParameters emissionParameters
      input.graph input.observations = .ok generated)
    (hidentified : List.Forall₂ Identified generated input.batches)
    (hreferences : validateBatches input.graph 0 none input.observations input.batches = .ok ())
    (htimes : TimesFit input.observations)
    (htransition : validateTransitionParameters input.transitionParameters = .ok ())
    (hdecoder : validateDecoderParameters input.decoderParameters = .ok ()) :
    decodeCandidateBatches math input ≠
        .error ⟨"native map decoder has no graph-valid path hypothesis"⟩ ∧
      (input.observations.length ≤ input.decoderParameters.maximumSequenceObservations →
        (∀ observationIndex < input.observations.length, ∃ state,
          beamAfter math input observationIndex = .ok state ∧ state.beam ≠ []) ∧
        ∃ result, decodeCandidateBatches math input = .ok result ∧
          (candidatesOf input.batches result.bestCandidateIndices).length =
            input.observations.length ∧
          UsesPossibleTransitions math input
            (candidatesOf input.batches result.bestCandidateIndices) ∧
          UsesPossibleTransitions math input
            (candidatesOf input.batches result.runnerUpCandidateIndices)) := by
  obtain ⟨hgraph, hobservations, hparameters, hbatches⟩ :=
    generateCandidateBatches_checks hgenerated
  obtain ⟨hdistance, hdistance'⟩ := validateParameters_places hparameters
  have hcount : input.batches.length = input.observations.length := by
    rw [← hidentified.length_eq, candidateBatchesFrom_length hbatches]
  have hoff : ∀ observationIndex < input.observations.length,
      ∃ candidate ∈ batchAt input.batches observationIndex, candidate.offMap = true := by
    intro observationIndex hindex
    exact batchAt_offMap hidentified (candidateBatchesFrom_offMap hbatches)
      (by rw [hcount]; exact hindex)
  by_cases hbudget : input.observations.length ≤
      input.decoderParameters.maximumSequenceObservations
  · have hvalid : input.Valid :=
      ⟨hgraph, hobservations, htransition, hdecoder, hbudget, hcount, hreferences⟩
    have hdecode := decode_ok math hvalid htimes hdistance hdistance' hoff
    refine ⟨?_, fun _ => ⟨?_, hdecode⟩⟩
    · obtain ⟨result, hresult, -⟩ := hdecode
      rw [hresult]
      simp
    · exact fun observationIndex hindex =>
        beamAfter_ok hvalid htimes hdistance hdistance' hoff hindex
  · refine ⟨?_, fun h => absurd h hbudget⟩
    have hrejected : validateDecoderInput input =
        .error ⟨"native map decoder input exceeds its contract"⟩ := by
      unfold validateDecoderInput
      rw [show validateGraph input.graph = .ok () from hgraph, hobservations, htransition, hdecoder,
        throwIf, if_pos (Or.inl (not_le.mp hbudget))]
      rfl
    unfold decodeCandidateBatches
    rw [hrejected]
    simp [bind, Except.bind]

namespace LoopRoad

def emissionParameters : EmissionParameters where
  baseLateralSigma := 5
  maximumLateralSigma := 20
  headingSigma := 1
  headingDisabledBelowSpeed := 1
  headingFullWeightSpeed := 5
  offMapLogLikelihood := -6
  scoreRoundingDecimalPlaces := 12

/-- The candidates generated for the two observations, with identities. -/
def identifiedBatches : List (List Candidate) :=
  let identify := fun candidate : Candidate =>
    { candidate with candidateId := if candidate.offMap then "off-map" else "on-road" }
  match generateCandidateBatches math candidateParameters emissionParameters graph
    decoderInput.observations with
  | .ok batches => batches.map (List.map identify)
  | .error _ => []

theorem decode_generated_loop :
    ∃ result, decodeCandidateBatches math (decoderInput.withBatches identifiedBatches) =
      .ok result := by
  obtain ⟨generated, hgenerated⟩ : ∃ generated, generateCandidateBatches math candidateParameters
      emissionParameters graph decoderInput.observations = .ok generated := by
    cases hresult : generateCandidateBatches math candidateParameters emissionParameters graph
      decoderInput.observations with
    | ok generated => exact ⟨generated, rfl⟩
    | error failure =>
      have hok : (generateCandidateBatches math candidateParameters emissionParameters graph
        decoderInput.observations).isOk = true := by decide +kernel
      rw [hresult] at hok
      simp [Except.isOk, Except.toBool] at hok
  have hidentified : List.Forall₂ Identified generated identifiedBatches := by
    unfold identifiedBatches
    rw [hgenerated]
    simp only [List.forall₂_map_right_iff, Identified]
    exact List.forall₂_same.mpr fun batch _ =>
      List.forall₂_same.mpr fun candidate _ => ⟨_, rfl⟩
  obtain ⟨-, hdecode⟩ := @decode_generated math (decoderInput.withBatches identifiedBatches) _ _
    hgenerated hidentified (by decide +kernel) (by decide +kernel) (by decide +kernel)
    (by decide +kernel)
  obtain ⟨-, result, hresult, -⟩ := hdecode (by decide +kernel)
  exact ⟨result, hresult⟩

end LoopRoad

end CartoSentry.Matching
