import CartoSentry.Foundation.BeamSearch
import CartoSentry.Matching.Decoder
import CartoSentry.Matching.RouteExact

set_option autoImplicit false

/-!
# Road matching: the trellis a decoder input spans

What the checks of the decoder establish, when a transition throws, and the
trellis of candidates whose sequences the decoder scores.
-/

namespace CartoSentry.Matching

open Foundation (bind_unit_eq_ok_iff)
open Foundation.BeamSearch

/-! ## Validated input -/

/-- What `decode_candidate_batches` has checked before it decodes. -/
structure DecoderInput.Valid (input : DecoderInput) : Prop where
  graph : input.graph.Valid
  observations : validateObservations input.observations = .ok ()
  transition : validateTransitionParameters input.transitionParameters = .ok ()
  decoder : validateDecoderParameters input.decoderParameters = .ok ()
  budget : input.observations.length ≤ input.decoderParameters.maximumSequenceObservations
  count : input.batches.length = input.observations.length
  batches : validateBatches input.graph 0 none input.observations input.batches = .ok ()

theorem validateDecoderInput_eq_ok_iff {input : DecoderInput} :
    validateDecoderInput input = .ok () ↔ input.Valid := by
  unfold validateDecoderInput
  simp only [bind_unit_eq_ok_iff, throwIf_eq_ok_iff, not_or, not_lt, not_not, ne_eq]
  constructor
  · intro ⟨hgraph, hobservations, htransition, hdecoder, ⟨hbudget, hcount⟩, hbatches⟩
    exact ⟨hgraph, hobservations, htransition, hdecoder, hbudget, hcount, hbatches⟩
  · intro h
    exact ⟨h.graph, h.observations, h.transition, h.decoder, ⟨h.budget, h.count⟩, h.batches⟩

/-- A batch passes when every candidate does and no identity repeats. -/
theorem validateBatch_eq_ok_iff {graph : Graph} {observationIndex : Nat}
    {batch : List Candidate} {seen : List String} :
    validateBatch graph observationIndex batch seen = .ok () ↔
      (∀ candidate ∈ batch, validateCandidateReference graph candidate observationIndex = .ok () ∧
        candidate.candidateId ∉ seen) ∧ (batch.map Candidate.candidateId).Nodup := by
  induction batch generalizing seen with
  | nil => simp [validateBatch]
  | cons candidate rest ih =>
    unfold validateBatch
    rw [bind_unit_eq_ok_iff, bind_unit_eq_ok_iff, throwIf_eq_ok_iff, ih]
    rw [List.forall_mem_cons, List.map_cons, List.nodup_cons]
    constructor
    · intro ⟨hreference, hfresh, hrest, hnodup⟩
      refine ⟨⟨⟨hreference, hfresh⟩, fun other hother => ?_⟩, fun hmem => ?_, hnodup⟩
      · obtain ⟨hother, hnew⟩ := hrest other hother
        exact ⟨hother, fun hseen => hnew (List.mem_cons_of_mem _ hseen)⟩
      · obtain ⟨other, hother, hid⟩ := List.mem_map.mp hmem
        exact (hrest other hother).2 (by rw [hid]; exact List.mem_cons_self)
    · intro ⟨⟨⟨hreference, hfresh⟩, hrest⟩, hnew, hnodup⟩
      refine ⟨hreference, hfresh, fun other hother => ?_, hnodup⟩
      refine ⟨(hrest other hother).1, fun hseen => ?_⟩
      rcases List.mem_cons.mp hseen with hid | hseen
      · exact hnew (hid ▸ List.mem_map_of_mem hother)
      · exact (hrest other hother).2 hseen

/-- What the checks establish of one observation and its batch. -/
structure BatchValid (graph : Graph) (observationIndex : Nat) (batch : List Candidate) : Prop where
  nonempty : batch ≠ []
  references : ∀ candidate ∈ batch,
    validateCandidateReference graph candidate observationIndex = .ok ()
  identities : (batch.map Candidate.candidateId).Nodup

theorem validateBatches_eq_ok_iff {graph : Graph} {start : Nat} {previousTimeNs : Option Int}
    {observations : List Observation} {batches : List (List Candidate)}
    (hlength : batches.length = observations.length) :
    validateBatches graph start previousTimeNs observations batches = .ok () ↔
      (previousTimeNs.toList ++ observations.map Observation.timeNs).IsChain (· < ·) ∧
        ∀ index, (h : index < batches.length) → BatchValid graph (start + index) batches[index] := by
  induction observations generalizing start previousTimeNs batches with
  | nil =>
    obtain rfl : batches = [] := List.length_eq_zero_iff.mp hlength
    cases previousTimeNs <;> simp [validateBatches]
  | cons observation observations ih =>
    cases batches with
    | nil => simp at hlength
    | cons batch batches =>
      unfold validateBatches
      rw [bind_unit_eq_ok_iff, bind_unit_eq_ok_iff, bind_unit_eq_ok_iff, throwIf_eq_ok_iff,
        throwIf_eq_ok_iff, validateBatch_eq_ok_iff, ih (by simpa using hlength)]
      have hchain : (previousTimeNs.toList ++
          (observation :: observations).map Observation.timeNs).IsChain (· < ·) ↔
            (¬ ∃ time ∈ previousTimeNs, observation.timeNs ≤ time) ∧
              ((some observation.timeNs).toList ++
                observations.map Observation.timeNs).IsChain (· < ·) := by
        cases previousTimeNs with
        | none => simp
        | some time => simp [List.isChain_cons_cons]
      rw [hchain]
      constructor
      · intro ⟨htime, hnonempty, ⟨hreferences, hidentities⟩, htimes, hrest⟩
        refine ⟨⟨htime, htimes⟩, ?_⟩
        intro index hindex
        cases index with
        | zero => exact ⟨hnonempty, fun c hc => (hreferences c hc).1, hidentities⟩
        | succ index =>
          have hlater := hrest index (by simpa using hindex)
          rw [show start + 1 + index = start + (index + 1) by omega] at hlater
          exact hlater
      · intro ⟨⟨htime, htimes⟩, hall⟩
        have hfirst := hall 0 (by simp)
        refine ⟨htime, hfirst.nonempty, ⟨fun c hc => ⟨hfirst.references c hc, by simp⟩,
          hfirst.identities⟩, htimes, ?_⟩
        intro index hindex
        have hlater := hall (index + 1) (by simpa using hindex)
        rw [show start + (index + 1) = start + 1 + index by omega] at hlater
        exact hlater

section Checked

variable {input : DecoderInput} (hvalid : input.Valid)

include hvalid

theorem DecoderInput.Valid.batchValid {observationIndex : Nat}
    (h : observationIndex < input.observations.length) :
    BatchValid input.graph observationIndex (batchAt input.batches observationIndex) := by
  have hindex : observationIndex < input.batches.length := by rw [hvalid.count]; exact h
  have hbatches := ((validateBatches_eq_ok_iff hvalid.count).mp hvalid.batches).2
    observationIndex hindex
  rw [Nat.zero_add] at hbatches
  rw [batchAt, List.getD_eq_getElem _ _ hindex]
  exact hbatches

theorem DecoderInput.Valid.times_chain :
    (input.observations.map Observation.timeNs).IsChain (· < ·) :=
  ((validateBatches_eq_ok_iff hvalid.count).mp hvalid.batches).1

theorem DecoderInput.Valid.observations_ne_nil : input.observations ≠ [] := by
  have hobservations := hvalid.observations
  unfold validateObservations at hobservations
  split_ifs at hobservations with hempty
  exact hempty

theorem DecoderInput.Valid.transitionPlaces :
    0 ≤ input.transitionParameters.scoreRoundingDecimalPlaces ∧
      input.transitionParameters.scoreRoundingDecimalPlaces ≤ 15 := by
  have htransition := hvalid.transition
  unfold validateTransitionParameters at htransition
  split_ifs at htransition with hinvalid
  push Not at hinvalid
  omega

theorem DecoderInput.Valid.decoderBounds :
    0 < input.decoderParameters.beamWidth ∧
      0 < input.decoderParameters.hypothesesPerTerminalCandidate ∧
        0 ≤ input.decoderParameters.beamScoreDelta ∧
          0 ≤ input.decoderParameters.scoreRoundingDecimalPlaces ∧
            input.decoderParameters.scoreRoundingDecimalPlaces ≤ 15 := by
  have hdecoder := hvalid.decoder
  unfold validateDecoderParameters at hdecoder
  split_ifs at hdecoder with hinvalid
  push Not at hinvalid
  obtain ⟨hwidth, hlimit, hdelta, -, -, -, -, -, hplaces, hplaces'⟩ := hinvalid
  exact ⟨Nat.pos_of_ne_zero hwidth, Nat.pos_of_ne_zero hlimit, hdelta, hplaces, hplaces'⟩

/-- Candidates of one batch are told apart by their identities. -/
theorem DecoderInput.Valid.candidate_inj {observationIndex : Nat}
    (h : observationIndex < input.observations.length) {a b : Candidate}
    (ha : a ∈ batchAt input.batches observationIndex)
    (hb : b ∈ batchAt input.batches observationIndex) (hid : a.candidateId = b.candidateId) :
    a = b :=
  List.inj_on_of_nodup_map (hvalid.batchValid h).identities ha hb hid

end Checked

/-! ## When a transition throws -/

/-- The exception that every transition from one observation to the next throws, if
they throw: it does not depend on the candidates. -/
def stepFailure (input : DecoderInput) (observationIndex : Nat) : Option InvalidArgument :=
  match input.observations[observationIndex]?, input.observations[observationIndex + 1]? with
  | some previousObservation, some currentObservation =>
      if input.candidateParameters.distanceRoundingDecimalPlaces < 0 ∨
          12 < input.candidateParameters.distanceRoundingDecimalPlaces then
        some ⟨"native map transition query is invalid"⟩
      else if elapsedOverflows previousObservation.timeNs currentObservation.timeNs then
        some ⟨"native map transition elapsed time overflows"⟩
      else none
  | _, _ => some ⟨"native map transition query is invalid"⟩

/-- The query of one step. -/
def stepQuery (observationIndex : Nat) (previous current : Candidate) : TransitionQuery where
  previousObservationIndex := observationIndex
  previous := previous
  currentObservationIndex := observationIndex + 1
  current := current

/-- A validated on-road candidate has what `route` reads. -/
theorem routeQuery_ok {graph : Graph} {previous current : Candidate}
    {previousObservation currentObservation : Nat}
    (hprevious : validateCandidateReference graph previous previousObservation = .ok ())
    (hcurrent : validateCandidateReference graph current currentObservation = .ok ())
    (hroad : previous.offMap = false) (hroad' : current.offMap = false) :
    ∃ query, routeQuery graph previous current = .ok query := by
  obtain ⟨previousIndex, previousOffset, hindex, hoffset⟩ :=
    validateCandidateReference_offset hprevious hroad
  obtain ⟨currentIndex, currentOffset, hindex', hoffset'⟩ :=
    validateCandidateReference_offset hcurrent hroad'
  have hin := (validateCandidateReference_onRoad hprevious hindex hoffset).1
  have hin' := (validateCandidateReference_onRoad hcurrent hindex' hoffset').1
  unfold routeQuery
  rw [hindex, hindex', hoffset, hoffset']
  exact ⟨_, if_neg (by omega)⟩

/-- A result the decoder can use: a possible transition has a total. -/
def TransitionResult.Scored (result : TransitionResult) : Prop :=
  result.possible = true → result.totalLogLikelihood.isSome

section Total

variable {graph : Graph} {candidateParameters : CandidateParameters}
  {transitionParameters : TransitionParameters}
  (hdistance : ¬ (candidateParameters.distanceRoundingDecimalPlaces < 0 ∨
    12 < candidateParameters.distanceRoundingDecimalPlaces))
  (hplaces : 0 ≤ transitionParameters.scoreRoundingDecimalPlaces)
  (hplaces' : transitionParameters.scoreRoundingDecimalPlaces ≤ 15)

include hplaces hplaces' in
theorem offMapTransition_ok (elapsedSeconds observedDisplacement : ℚ)
    (previous current : Candidate) :
    ∃ result, offMapTransition transitionParameters elapsedSeconds observedDisplacement previous
      current = .ok result ∧ result.possible = true ∧ result.Scored := by
  unfold offMapTransition
  rw [checkedRound_of_valid hplaces hplaces']
  exact ⟨_, rfl, rfl, fun _ => rfl⟩

include hdistance hplaces hplaces' in
theorem routedTransition_ok (elapsedSeconds observedDisplacement : ℚ)
    (previousObservation currentObservation : Observation) (matched : RouteResult) :
    ∃ result, routedTransition graph candidateParameters transitionParameters elapsedSeconds
      observedDisplacement previousObservation currentObservation matched = .ok result ∧
        result.Scored := by
  unfold routedTransition
  simp only [checkedRound_of_valid hplaces hplaces']
  rw [checkedRound_of_valid (by omega) (by omega)]
  simp only [bind, Except.bind]
  split_ifs
  · exact ⟨_, rfl, fun h => absurd h (by simp [impossible])⟩
  · exact ⟨_, rfl, fun _ => rfl⟩

include hdistance hplaces hplaces' in
theorem timedTransition_ok (elapsedSeconds observedDisplacement : ℚ)
    (previousObservation currentObservation : Observation) {previous current : Candidate}
    {previousIndex currentIndex : Nat}
    (hprevious : validateCandidateReference graph previous previousIndex = .ok ())
    (hcurrent : validateCandidateReference graph current currentIndex = .ok ()) :
    ∃ result, timedTransition graph candidateParameters transitionParameters elapsedSeconds
      observedDisplacement previousObservation currentObservation previous current = .ok result ∧
        result.Scored := by
  unfold timedTransition
  split_ifs with hoff
  · obtain ⟨result, hresult, -, hscored⟩ := offMapTransition_ok hplaces hplaces' elapsedSeconds
      observedDisplacement previous current
    exact ⟨result, hresult, hscored⟩
  · rw [not_or, Bool.not_eq_true, Bool.not_eq_true] at hoff
    obtain ⟨query, hquery⟩ := routeQuery_ok hprevious hcurrent hoff.1 hoff.2
    rw [route_of_query transitionParameters hquery]
    simp only [bind, Except.bind]
    cases routeBetween graph transitionParameters query with
    | rejected reason => exact ⟨_, rfl, fun h => absurd h (by simp [impossible])⟩
    | found matched => exact routedTransition_ok hdistance hplaces hplaces' _ _ _ _ matched

end Total

section Step

variable {math : NativeMath} {input : DecoderInput} (hvalid : input.Valid)
  {observationIndex : Nat} {previous current : Candidate}

include hvalid

variable (math) in
/-- A transition of the decoder throws the failure of its step, or has a result. -/
theorem scoreTransition_step (hindex : observationIndex + 1 < input.observations.length)
    (hprevious : previous ∈ batchAt input.batches observationIndex)
    (hcurrent : current ∈ batchAt input.batches (observationIndex + 1)) :
    match stepFailure input observationIndex with
    | some failure => scoreTransition math input.graph input.candidateParameters
        input.transitionParameters input.observations
        (stepQuery observationIndex previous current) = .error failure
    | none => ∃ result, scoreTransition math input.graph input.candidateParameters
        input.transitionParameters input.observations
        (stepQuery observationIndex previous current) = .ok result ∧ result.Scored := by
  have hreference := (hvalid.batchValid (Nat.lt_of_succ_lt hindex)).references previous hprevious
  have hreference' := (hvalid.batchValid hindex).references current hcurrent
  obtain ⟨hplaces, hplaces'⟩ := hvalid.transitionPlaces
  obtain ⟨previousObservation, hfirst⟩ : ∃ observation,
      input.observations[observationIndex]? = some observation :=
    ⟨_, List.getElem?_eq_getElem (Nat.lt_of_succ_lt hindex)⟩
  obtain ⟨currentObservation, hsecond⟩ : ∃ observation,
      input.observations[observationIndex + 1]? = some observation :=
    ⟨_, List.getElem?_eq_getElem hindex⟩
  unfold stepFailure scoreTransition
  simp only [stepQuery, hfirst, hsecond]
  by_cases hdistance : input.candidateParameters.distanceRoundingDecimalPlaces < 0 ∨
      12 < input.candidateParameters.distanceRoundingDecimalPlaces
  · rw [if_pos hdistance, throwIf, if_pos hdistance]
    rfl
  · rw [if_neg hdistance, throwIf, if_neg hdistance, hreference, hreference']
    by_cases hoverflow : elapsedOverflows previousObservation.timeNs currentObservation.timeNs
    · rw [if_pos hoverflow, throwIf, if_pos hoverflow]
      rfl
    · rw [if_neg hoverflow, throwIf, if_neg hoverflow]
      simp only [bind, Except.bind]
      split_ifs
      · exact ⟨_, rfl, fun h => absurd h (by simp [impossible])⟩
      · exact timedTransition_ok hdistance hplaces hplaces' _ _ _ _ hreference hreference'

end Step

/-! ## The trellis -/

section Scores

variable (math : NativeMath) (input : DecoderInput)

/-- The rounding of the decoder's scores. -/
def roundScore (score : ℚ) : ℚ :=
  roundTo score input.decoderParameters.scoreRoundingDecimalPlaces.toNat

/-- What a step from a candidate to another makes of a score; none where the
transition is not possible. -/
def stepScore (observationIndex : Nat) (previous current : Candidate) : Option (ℚ → ℚ) :=
  match scoreTransition math input.graph input.candidateParameters input.transitionParameters
      input.observations (stepQuery observationIndex previous current) with
  | .ok transition =>
      if transition.possible then
        some fun score => roundScore input
          (score + transition.totalLogLikelihood.getD 0 + current.emission.totalLogLikelihood)
      else none
  | .error _ => none

/-- The candidates of each observation, with the scores the decoder gives them. -/
def decoderTrellis : Trellis Candidate ℚ where
  layer := batchAt input.batches
  start := fun candidate => roundScore input candidate.emission.totalLogLikelihood
  advance := stepScore math input
  monotone := by
    intro observationIndex previous current f hf
    unfold stepScore at hf
    split at hf
    · split_ifs at hf
      cases hf
      intro left right hle
      apply roundTo_mono
      gcongr
    · simp at hf

end Scores

/-! ## Extensions -/

section Extend

variable {math : NativeMath} {input : DecoderInput} (hvalid : input.Valid)
  {observationIndex : Nat}

theorem candidateAt_mem {batches : List (List Candidate)} {candidateIndex : Nat}
    (h : candidateIndex < (batchAt batches observationIndex).length) :
    candidateAt batches observationIndex candidateIndex ∈ batchAt batches observationIndex := by
  rw [candidateAt, List.getD_eq_getElem _ _ h]
  exact List.getElem_mem h

theorem map_candidateAt_range (batches : List (List Candidate)) (observationIndex : Nat) :
    (List.range (batchAt batches observationIndex).length).map
      (candidateAt batches observationIndex) = batchAt batches observationIndex := by
  apply List.ext_getElem
  · simp
  · intro index hleft hright
    rw [List.getElem_map, List.getElem_range, candidateAt, List.getD_eq_getElem _ _ hright]

include hvalid

variable (math) in
/-- An extension throws the failure of its step, or is what the trellis says. -/
theorem extendHypothesis_eq (hindex : observationIndex + 1 < input.observations.length)
    {pair : Hypothesis × Nat}
    (hprevious : candidateAt input.batches observationIndex pair.1.candidateIndex ∈
      batchAt input.batches observationIndex)
    (hcurrent : pair.2 < (batchAt input.batches (observationIndex + 1)).length) :
    extendHypothesis math input (observationIndex + 1) pair =
      match stepFailure input observationIndex with
      | some failure => .error failure
      | none => .ok ((stepScore math input observationIndex
          (candidateAt input.batches observationIndex pair.1.candidateIndex)
          (candidateAt input.batches (observationIndex + 1) pair.2)).map fun f =>
            .extended pair.1 pair.2 (f pair.1.totalScore) 0) := by
  have htransition := scoreTransition_step math hvalid hindex hprevious
    (candidateAt_mem hcurrent)
  obtain ⟨-, -, -, hplaces, hplaces'⟩ := hvalid.decoderBounds
  unfold extendHypothesis stepScore
  simp only [Nat.add_sub_cancel, stepQuery] at htransition ⊢
  cases hfailure : stepFailure input observationIndex with
  | some failure =>
    rw [hfailure] at htransition
    rw [htransition]
    rfl
  | none =>
    rw [hfailure] at htransition
    obtain ⟨result, hresult, -⟩ := htransition
    rw [hresult]
    simp only [bind, Except.bind, checkedRound_of_valid hplaces hplaces', roundScore]
    split_ifs <;> rfl

variable (math) in
/-- Where a step throws, no transition of it is possible. -/
theorem stepScore_of_failure {failure : InvalidArgument}
    (hfailure : stepFailure input observationIndex = some failure)
    (hindex : observationIndex + 1 < input.observations.length) {previous current : Candidate}
    (hprevious : previous ∈ batchAt input.batches observationIndex)
    (hcurrent : current ∈ batchAt input.batches (observationIndex + 1)) :
    stepScore math input observationIndex previous current = none := by
  have htransition := scoreTransition_step math hvalid hindex hprevious hcurrent
  rw [hfailure] at htransition
  unfold stepScore
  rw [htransition]

end Extend

end CartoSentry.Matching
