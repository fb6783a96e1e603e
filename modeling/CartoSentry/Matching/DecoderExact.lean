import CartoSentry.Matching.DecoderPermutation

set_option autoImplicit false

/-!
# Road matching: exact decoding

With two or more hypotheses per terminal candidate, a decoder that drops nothing by
width or by score returns the best and the second best score over all sequences of
possible transitions.
-/

namespace CartoSentry.Matching

open Foundation.BeamSearch

/-- No hypothesis is dropped by the beam width or by the score delta. -/
structure DropsNothing (math : NativeMath) (input : DecoderInput) : Prop where
  initial : (batchAt input.batches 0).length ≤ input.decoderParameters.beamWidth
  step : ∀ {observationIndex state results},
    observationIndex + 1 < input.observations.length →
      beamAfter math input observationIndex = .ok state →
        expandBeam math input state.beam (observationIndex + 1) = .ok results →
          keepBeam input (pruneExpanded input results.reduceOption) =
            pruneExpanded input results.reduceOption

/-- The result has the best and the second best score of the feasible sequences, and
no second one where there is only one sequence. -/
structure ExactDecoding (math : NativeMath) (input : DecoderInput) (result : DecodeResult) :
    Prop where
  best : ∃ best, Feasible (decoderTrellis math input) (input.observations.length - 1) best ∧
    best.path = candidatesOf input.batches result.bestCandidateIndices ∧
    best.score = result.bestTotalLogLikelihood ∧
    ∀ entry, Feasible (decoderTrellis math input) (input.observations.length - 1) entry →
      entry.score ≤ best.score
  runnerUp : match result.runnerUpTotalLogLikelihood with
    | none => ∀ left right,
        Feasible (decoderTrellis math input) (input.observations.length - 1) left →
          Feasible (decoderTrellis math input) (input.observations.length - 1) right →
            left.path = right.path
    | some second => ∃ best runner,
        Feasible (decoderTrellis math input) (input.observations.length - 1) best ∧
        Feasible (decoderTrellis math input) (input.observations.length - 1) runner ∧
        best.path = candidatesOf input.batches result.bestCandidateIndices ∧
        runner.path = candidatesOf input.batches result.runnerUpCandidateIndices ∧
        best.path ≠ runner.path ∧ best.score = result.bestTotalLogLikelihood ∧
        runner.score = second ∧
        ∀ entry, Feasible (decoderTrellis math input) (input.observations.length - 1) entry →
          entry.path ≠ best.path → entry.score ≤ second

section Exact

variable {math : NativeMath} {input : DecoderInput} (hvalid : input.Valid)
  (hkept : DropsNothing math input)

include hvalid

theorem DecoderInput.Valid.layer_inj {observationIndex : Nat}
    (hindex : observationIndex < input.observations.length) :
    ∀ a ∈ (decoderTrellis math input).layer observationIndex,
      ∀ b ∈ (decoderTrellis math input).layer observationIndex,
        a.candidateId = b.candidateId → a = b :=
  fun _ ha _ hb => hvalid.candidate_inj hindex ha hb

theorem DecoderInput.Valid.layer_nodup {observationIndex : Nat}
    (hindex : observationIndex < input.observations.length) :
    ((decoderTrellis math input).layer observationIndex).Nodup :=
  List.Nodup.of_map _ (hvalid.batchValid hindex).identities

include hkept

/-- The first beam is the whole first batch. -/
theorem entryStart_lossless :
    Lossless (decoderTrellis math input) Candidate.candidateId
      input.decoderParameters.hypothesesPerTerminalCandidate 0 (entryStart math input).beam := by
  have hindex := List.length_pos_of_ne_nil hvalid.observations_ne_nil
  have hsize : (startEntries math input).length ≤ input.decoderParameters.beamWidth := by
    unfold startEntries sortEntries
    rw [List.length_insertionSort, List.length_map]
    exact hkept.initial
  unfold entryStart
  rw [List.take_of_length_le hsize]
  exact .start (hvalid.layer_nodup hindex) (List.perm_insertionSort _ _)

/-- On entries, too, nothing is dropped. -/
theorem keepEntries_eq {observationIndex : Nat}
    (hindex : observationIndex + 1 < input.observations.length) {state : EntryState}
    (hstate : entriesAfter math input observationIndex = .ok state)
    (hfailure : stepFailure input observationIndex = none) :
    keepEntries input (pruneEntries input
        (expand (decoderTrellis math input) observationIndex state.beam)) =
      pruneEntries input (expand (decoderTrellis math input) observationIndex state.beam) := by
  have hbeam := beamAfter_refines math hvalid (Nat.lt_of_succ_lt hindex)
  cases hbefore : beamAfter math input observationIndex with
  | error failure =>
    rw [hbefore, hstate] at hbeam
    exact absurd hbeam (by simp)
  | ok before =>
    rw [hbefore, hstate] at hbeam
    obtain ⟨heq, hsound⟩ := hbeam
    obtain rfl := Except.ok.inj heq
    have hexpand := expandBeam_eq hvalid hindex hsound
    rw [hfailure] at hexpand
    have hentries : (extensions math input observationIndex before.beam).reduceOption.map
        (entryOf input.batches) = expand (decoderTrellis math input) observationIndex
          (before.entries input.batches).beam := extensions_entries math input hsound.sound.depth
    have hpruned := pruneExpanded_entries (extensions_sound hvalid hindex hsound.sound)
      (extensions_keyed math hsound.sound.depth hsound.ranked)
    rw [hentries] at hpruned
    rw [← hpruned, ← keepBeam_entries, hkept.step hindex hbefore hexpand]

/-- The beam of entries loses none of the best, or there is nothing to lose. -/
theorem entriesAfter_lossless {observationIndex : Nat}
    (hindex : observationIndex < input.observations.length) :
    match entriesAfter math input observationIndex with
    | .error _ => ∀ entry, ¬ Feasible (decoderTrellis math input) observationIndex entry
    | .ok state => Lossless (decoderTrellis math input) Candidate.candidateId
        input.decoderParameters.hypothesesPerTerminalCandidate observationIndex state.beam := by
  obtain ⟨-, hlimit, -⟩ := hvalid.decoderBounds
  induction observationIndex with
  | zero => exact entryStart_lossless hvalid hkept
  | succ observationIndex ih =>
    have hbefore := ih (by omega)
    rw [entriesAfter]
    cases hstate : entriesAfter math input observationIndex with
    | error failure =>
      rw [hstate] at hbefore
      intro entry hentry
      cases hentry with
      | step hfront _ _ => exact hbefore _ hfront
    | ok state =>
      rw [hstate] at hbefore
      simp only [bind, Except.bind]
      unfold entryStep
      cases hfailure : stepFailure input observationIndex with
      | some failure =>
        intro entry hentry
        cases hentry with
        | step hfront hc hf =>
          have hnone := stepScore_of_failure math hvalid hfailure hindex
            hfront.terminal_mem hc
          rw [show (decoderTrellis math input).advance = stepScore math input from rfl, hnone] at hf
          simp at hf
      | none =>
        by_cases hempty : expand (decoderTrellis math input) observationIndex state.beam = []
        · simp only [hempty, List.isEmpty_nil, if_true]
          exact hbefore.dead hlimit (hvalid.layer_inj (by omega)) hempty
        · simp only [List.isEmpty_iff, hempty, if_false]
          rw [keepEntries_eq hvalid hkept hindex hstate hfailure]
          exact hbefore.step (hvalid.layer_nodup hindex) (hvalid.layer_inj (by omega))
            (List.perm_insertionSort _ _) (sortEntries_ordered _)

omit hvalid hkept in
/-- The result read off a sorted beam that lost nothing is exact. -/
theorem exactDecoding_of_lossless {state : EntryState} {first : Entry Candidate ℚ}
    {rest : List (Entry Candidate ℚ)} {result : DecodeResult}
    (hlimit : 2 ≤ input.decoderParameters.hypothesesPerTerminalCandidate)
    (hordered : (first :: rest).Pairwise fun left right => right.score ≤ left.score)
    (hlossless : Lossless (decoderTrellis math input) Candidate.candidateId
      input.decoderParameters.hypothesesPerTerminalCandidate (input.observations.length - 1)
      (first :: rest))
    (hresult : result.sequences input.batches = resultOf math input state first rest.head?) :
    ExactDecoding math input result := by
  have hfirst := hlossless.sound first List.mem_cons_self
  have hbest : candidatesOf input.batches result.bestCandidateIndices = first.path :=
    congrArg SequenceResult.best hresult
  have htotal : result.bestTotalLogLikelihood = first.score :=
    congrArg SequenceResult.bestTotalLogLikelihood hresult
  have hsecond : result.runnerUpTotalLogLikelihood = rest.head?.map Entry.score :=
    congrArg SequenceResult.runnerUpTotalLogLikelihood hresult
  constructor
  · refine ⟨first, hfirst, hbest.symm, htotal.symm, ?_⟩
    exact fun entry hentry => hlossless.best hordered (by omega) hentry
  · rw [hsecond]
    rcases runnerUp_of_sequences hresult with ⟨hrest, -⟩ | ⟨second, others, hrest, hpath⟩
    · subst hrest
      intro left right hleft hright
      rw [hlossless.single hlimit hleft, hlossless.single hlimit hright]
    · subst hrest
      have hdistinct : first.path ≠ second.path := by
        have hpaths := hlossless.distinct
        rw [List.map_cons, List.map_cons, List.nodup_cons, List.mem_cons, not_or] at hpaths
        exact hpaths.1.1
      refine ⟨first, second, hfirst, hlossless.sound second (by simp), hbest.symm, hpath.symm,
        hdistinct, htotal.symm, rfl, ?_⟩
      intro entry hentry hne
      exact hlossless.second hordered rfl hlimit hentry hne

end Exact

/-- The decoder is exact where it drops nothing but beyond two hypotheses for each
terminal candidate; it throws where no sequence is feasible. -/
theorem decode_exact (math : NativeMath) {input : DecoderInput}
    (hvalid : validateDecoderInput input = .ok ())
    (hlimit : 2 ≤ input.decoderParameters.hypothesesPerTerminalCandidate)
    (hkept : DropsNothing math input) :
    match decodeCandidateBatches math input with
    | .error _ => ∀ entry,
        ¬ Feasible (decoderTrellis math input) (input.observations.length - 1) entry
    | .ok result => ExactDecoding math input result := by
  have hchecked := validateDecoderInput_eq_ok_iff.mp hvalid
  have hindex : input.observations.length - 1 < input.observations.length := by
    have hpos := List.length_pos_of_ne_nil hchecked.observations_ne_nil
    omega
  have hrefines := decode_refines math hchecked
  have hlossless := entriesAfter_lossless hchecked hkept hindex
  unfold decodeEntries at hrefines
  cases hstate : entriesAfter math input (input.observations.length - 1) with
  | error failure =>
    rw [hstate] at hrefines hlossless
    cases hdecode : decodeCandidateBatches math input with
    | error thrown => exact hlossless
    | ok result =>
      rw [hdecode] at hrefines
      simp [Except.map, bind, Except.bind] at hrefines
  | ok state =>
    rw [hstate] at hlossless
    obtain ⟨first, rest, result, hsorted, hdecode, hsequences⟩ := decode_of_entries hchecked hstate
    have hordered := sortEntries_ordered state.beam
    have hperm : (sortEntries state.beam).Perm state.beam := List.perm_insertionSort _ _
    rw [hsorted] at hordered hperm
    rw [hdecode]
    exact exactDecoding_of_lossless hlimit hordered (hlossless.perm hperm) hsequences

namespace LoopRoad

/-- Whether the step after an observation drops nothing. -/
def stepKeeps (observationIndex : Nat) : Bool :=
  match beamAfter math decoderInput observationIndex with
  | .error _ => true
  | .ok state =>
      match expandBeam math decoderInput state.beam (observationIndex + 1) with
      | .error _ => true
      | .ok results =>
          keepBeam decoderInput (pruneExpanded decoderInput results.reduceOption) =
            pruneExpanded decoderInput results.reduceOption

theorem dropsNothing : DropsNothing math decoderInput where
  initial := by decide +kernel
  step := by
    intro observationIndex state results hindex hstate hresults
    have hkeeps : ∀ observationIndex, observationIndex + 1 < decoderInput.observations.length →
        stepKeeps observationIndex = true := by
      intro observationIndex hindex
      obtain rfl : observationIndex = 0 := by
        have hlength : decoderInput.observations.length = 2 := rfl
        omega
      decide +kernel
    have hstep := hkeeps observationIndex hindex
    unfold stepKeeps at hstep
    rw [hstate] at hstep
    simp only [hresults] at hstep
    exact of_decide_eq_true hstep

theorem decode_exact_loop :
    match decodeCandidateBatches math decoderInput with
    | .error _ => ∀ entry, ¬ Feasible (decoderTrellis math decoderInput) 1 entry
    | .ok result => ExactDecoding math decoderInput result :=
  decode_exact math (by decide +kernel) (by decide +kernel) dropsNothing

end LoopRoad

end CartoSentry.Matching
