import CartoSentry.Matching.DecoderBeam

set_option autoImplicit false

/-!
# Road matching: the decoder refines a beam of entries

A decoder that keeps candidate sequences sorted by score and identities, without
ranks or indices, and the proof that `decode_candidate_batches` computes the same
sequences, counts and exceptions.
-/

namespace CartoSentry.Matching

open Foundation (mapM_eq_ok)
open Foundation.BeamSearch

/-! ## The beam of entries -/

/-- A `BeamState` with entries for hypotheses. -/
structure EntryState where
  beam : List (Entry Candidate ℚ)
  retained : List Nat
  rejected : List Nat
  pruned : List Nat

section Entries

variable (math : NativeMath) (input : DecoderInput)

/-- The first members of each terminal, in the order of entries. -/
def pruneEntries (expanded : List (Entry Candidate ℚ)) : List (Entry Candidate ℚ) :=
  keepFirst input.decoderParameters.hypothesesPerTerminalCandidate
    (fun entry => entry.terminal.candidateId) (sortEntries expanded) []

/-- The entries within the score delta of the first, up to the beam width. -/
def keepEntries (pruned : List (Entry Candidate ℚ)) : List (Entry Candidate ℚ) :=
  let bestScore := (pruned.head?.map Entry.score).getD 0
  selectWithin input.decoderParameters.beamWidth
    (bestScore - input.decoderParameters.beamScoreDelta) Entry.score pruned 0

def startEntries : List (Entry Candidate ℚ) :=
  sortEntries ((batchAt input.batches 0).map fun candidate =>
    ⟨[candidate], candidate, (decoderTrellis math input).start candidate⟩)

def entryStart : EntryState :=
  let beam := (startEntries math input).take input.decoderParameters.beamWidth
  { beam := beam, retained := [beam.length], rejected := [0],
    pruned := [(startEntries math input).length - beam.length] }

def entryStep (state : EntryState) (observationIndex : Nat) :
    Except InvalidArgument EntryState :=
  match stepFailure input observationIndex with
  | some failure => .error failure
  | none =>
      let expanded := expand (decoderTrellis math input) observationIndex state.beam
      if expanded.isEmpty then
        .error ⟨"native map decoder has no graph-valid path hypothesis"⟩
      else
        let beam := keepEntries input (pruneEntries input expanded)
        .ok { beam := beam, retained := state.retained ++ [beam.length],
              rejected := state.rejected ++
                [state.beam.length * (batchAt input.batches (observationIndex + 1)).length -
                  expanded.length],
              pruned := state.pruned ++ [expanded.length - beam.length] }

/-- The entries after a number of observations. -/
def entriesAfter : Nat → Except InvalidArgument EntryState
  | 0 => .ok (entryStart math input)
  | observationIndex + 1 => do
      let state ← entriesAfter observationIndex
      entryStep math input state observationIndex

end Entries

/-- The entries of a beam. -/
def BeamState.entries (batches : List (List Candidate)) (state : BeamState) : EntryState where
  beam := state.beam.map (entryOf batches)
  retained := state.retained
  rejected := state.rejected
  pruned := state.pruned

/-! ## Pruning -/

section Pruning

variable {math : NativeMath} {input : DecoderInput} {observationIndex : Nat}
  {beam : List Hypothesis}

theorem pruneExpanded_entries (hsound : SoundBeam math input observationIndex beam)
    (hkeyed : KeyedBeam input.batches beam) :
    (pruneExpanded input beam).map (entryOf input.batches) =
      pruneEntries input (beam.map (entryOf input.batches)) := by
  have hranked := hkeyed.assign_ranked hsound.distinct
  have hentries : (assignLexicographicRanks input.batches beam).map (entryOf input.batches) =
      beam.map (entryOf input.batches) :=
    map_assignLexicographicRanks (entryOf_withRank input.batches)
  unfold pruneExpanded pruneTerminals pruneEntries
  rw [← hentries, ← sortHypotheses_entries hranked, keepFirst_map]
  rfl

theorem keepBeam_entries : (keepBeam input beam).map (entryOf input.batches) =
    keepEntries input (beam.map (entryOf input.batches)) := by
  unfold keepBeam selectBeam keepEntries
  rw [selectWithin_map, List.head?_map, Option.map_map]
  rfl

theorem pruneExpanded_subset : ∀ hypothesis ∈ pruneExpanded input beam,
    hypothesis ∈ assignLexicographicRanks input.batches beam := by
  intro hypothesis hmem
  have hsorted := (keepFirst_sublist _ _).subset hmem
  exact (List.mem_insertionSort _).mp hsorted

theorem pruneExpanded_sound (hsound : SoundBeam math input observationIndex beam) :
    SoundBeam math input observationIndex (pruneExpanded input beam) :=
  hsound.assign.sort.sublist (keepFirst_sublist _ _)

theorem keepBeam_sublist : (keepBeam input beam).Sublist beam :=
  selectWithin_sublist _ _

theorem pruneExpanded_ne_nil (hlimit : 0 < input.decoderParameters.hypothesesPerTerminalCandidate)
    (hbeam : beam ≠ []) : pruneExpanded input beam ≠ [] := by
  apply keepFirst_ne_nil _ hlimit
  intro hempty
  apply hbeam
  have hlength := congrArg List.length hempty
  unfold sortHypotheses assignLexicographicRanks at hlength
  rw [List.length_insertionSort, List.length_map] at hlength
  exact List.length_eq_zero_iff.mp hlength

/-- The first hypothesis is within the score delta of itself. -/
theorem keepBeam_ne_nil (hwidth : 0 < input.decoderParameters.beamWidth)
    (hdelta : 0 ≤ input.decoderParameters.beamScoreDelta) (hbeam : beam ≠ []) :
    keepBeam input beam ≠ [] := by
  cases beam with
  | nil => exact absurd rfl hbeam
  | cons first rest =>
    apply selectWithin_ne_nil hwidth
    simpa using hdelta

end Pruning

/-! ## Refinement -/

/-- What holds of the beam after each observation. -/
structure BeamState.Sound (math : NativeMath) (input : DecoderInput) (observationIndex : Nat)
    (state : BeamState) : Prop where
  sound : SoundBeam math input observationIndex state.beam
  ranked : RankedBeam input.batches state.beam
  nonempty : state.beam ≠ []

section Refinement

variable {math : NativeMath} {input : DecoderInput} (hvalid : input.Valid)

include hvalid

theorem initialHypotheses_eq : initialHypotheses input =
    .ok ((List.range (batchAt input.batches 0).length).map fun candidateIndex =>
      .initial candidateIndex (roundScore input
        (candidateAt input.batches 0 candidateIndex).emission.totalLogLikelihood) 0) := by
  obtain ⟨-, -, -, hplaces, hplaces'⟩ := hvalid.decoderBounds
  apply mapM_eq_ok
  intro candidateIndex _
  rw [checkedRound_of_valid hplaces hplaces']
  rfl

variable (math) in
/-- The hypotheses of the first batch. -/
theorem initialHypotheses_spec : ∃ hypotheses, initialHypotheses input = .ok hypotheses ∧
    hypotheses.map (entryOf input.batches) = (batchAt input.batches 0).map (fun candidate =>
      ⟨[candidate], candidate, (decoderTrellis math input).start candidate⟩) ∧
    SoundBeam math input 0 hypotheses ∧ KeyedBeam input.batches hypotheses := by
  have hindex : 0 < input.observations.length :=
    List.length_pos_of_ne_nil hvalid.observations_ne_nil
  refine ⟨_, initialHypotheses_eq hvalid, ?_⟩
  set hypotheses := (List.range (batchAt input.batches 0).length).map fun candidateIndex =>
    Hypothesis.initial candidateIndex (roundScore input
      (candidateAt input.batches 0 candidateIndex).emission.totalLogLikelihood) 0
  have hmem : ∀ hypothesis ∈ hypotheses, ∃ candidateIndex,
      candidateAt input.batches 0 candidateIndex ∈ batchAt input.batches 0 ∧
        hypothesis = .initial candidateIndex (roundScore input
          (candidateAt input.batches 0 candidateIndex).emission.totalLogLikelihood) 0 := by
    intro hypothesis hhypothesis
    obtain ⟨candidateIndex, hrange, rfl⟩ := List.mem_map.mp hhypothesis
    exact ⟨candidateIndex, candidateAt_mem (List.mem_range.mp hrange), rfl⟩
  have hentries : hypotheses.map (entryOf input.batches) =
      (batchAt input.batches 0).map fun candidate =>
        ⟨[candidate], candidate, (decoderTrellis math input).start candidate⟩ := by
    rw [← map_candidateAt_range input.batches 0, List.map_map, List.map_map]
    rfl
  have hfeasible : ∀ hypothesis ∈ hypotheses,
      Feasible (decoderTrellis math input) 0 (entryOf input.batches hypothesis) := by
    intro hypothesis hhypothesis
    obtain ⟨candidateIndex, hcandidate, rfl⟩ := hmem hypothesis hhypothesis
    exact .start hcandidate
  refine ⟨hentries, ⟨?_, hfeasible, identities_nodup hvalid hindex hfeasible ?_⟩, ?_⟩
  · intro hypothesis hhypothesis
    obtain ⟨candidateIndex, -, rfl⟩ := hmem hypothesis hhypothesis
    rfl
  · rw [hentries, List.map_map]
    apply List.Nodup.map _ (List.Nodup.of_map _ (hvalid.batchValid hindex).identities)
    exact fun left right hpath => List.singleton_inj.mp hpath
  · intro first hfirst second hsecond
    obtain ⟨left, -, rfl⟩ := hmem first hfirst
    obtain ⟨right, -, rfl⟩ := hmem second hsecond
    rw [rankKey, rankKey, Prod.Lex.toLex_lt_toLex]
    simp [Hypothesis.previousRank, Hypothesis.identities, Hypothesis.trace, terminalOf,
      Hypothesis.observationIndex, Hypothesis.candidateIndex, List.cons_lt_cons_iff]

variable (math) in
theorem initialBeam_refines : ∃ state, initialBeam input = .ok state ∧
    state.entries input.batches = entryStart math input ∧ state.Sound math input 0 := by
  obtain ⟨hypotheses, hhypotheses, hentries, hsound, hkeyed⟩ :=
    initialHypotheses_spec math hvalid
  obtain ⟨hwidth, -⟩ := hvalid.decoderBounds
  have hindex : 0 < input.observations.length :=
    List.length_pos_of_ne_nil hvalid.observations_ne_nil
  have hranked := hkeyed.assign_ranked hsound.distinct
  have hassigned : (assignLexicographicRanks input.batches hypotheses).map
      (entryOf input.batches) = hypotheses.map (entryOf input.batches) :=
    map_assignLexicographicRanks (entryOf_withRank input.batches)
  have hsorted : (sortHypotheses (assignLexicographicRanks input.batches hypotheses)).map
      (entryOf input.batches) = startEntries math input := by
    rw [sortHypotheses_entries hranked, hassigned, hentries]
    rfl
  have hlength := congrArg List.length hsorted
  rw [List.length_map] at hlength
  unfold initialBeam
  rw [hhypotheses]
  refine ⟨_, rfl, ?_, ?_, ?_, ?_⟩
  · simp only [BeamState.entries, entryStart, List.map_take, hsorted, List.length_take, hlength]
  · exact hsound.assign.sort.sublist (List.take_sublist _ _)
  · apply hranked.subset
    intro hypothesis hmem
    exact (List.mem_insertionSort _).mp (List.mem_of_mem_take hmem)
  · have hnonempty := (hvalid.batchValid hindex).nonempty
    have hsize := List.length_pos_of_ne_nil hnonempty
    intro hempty
    have hzero := congrArg List.length hempty
    unfold startEntries sortEntries at hlength
    rw [List.length_insertionSort, List.length_map] at hlength
    simp only [List.length_take, List.length_nil] at hzero
    omega

section Step

variable {observationIndex : Nat} (hindex : observationIndex + 1 < input.observations.length)
  {state : BeamState} (hstate : state.Sound math input observationIndex)

include hindex hstate

theorem expandBeam_eq : expandBeam math input state.beam (observationIndex + 1) =
    match stepFailure input observationIndex with
    | some failure => .error failure
    | none => .ok (extensions math input observationIndex state.beam) := by
  have hextend : ∀ pair ∈ extensionPairs input state.beam (observationIndex + 1), _ :=
    fun pair hpair => extendHypothesis_eq math hvalid hindex
      (hstate.sound.terminal_mem (mem_extensionPairs.mp hpair).1) (mem_extensionPairs.mp hpair).2
  unfold expandBeam
  cases hfailure : stepFailure input observationIndex with
  | some failure =>
    rw [hfailure] at hextend
    apply mapM_eq_error _ hextend
    intro hempty
    have hlength := congrArg List.length hempty
    rw [length_extensionPairs, List.length_nil, Nat.mul_eq_zero] at hlength
    rcases hlength with hbeam | hbatch
    · exact hstate.nonempty (List.length_eq_zero_iff.mp hbeam)
    · exact (hvalid.batchValid hindex).nonempty (List.length_eq_zero_iff.mp hbatch)
  | none =>
    rw [hfailure] at hextend
    exact mapM_eq_ok hextend

/-- One iteration of the decoder does to the entries what a step of the entries
does, and keeps what holds of the beam. -/
theorem decodeStep_refines :
    match decodeStep math input state (observationIndex + 1) with
    | .error failure =>
        entryStep math input (state.entries input.batches) observationIndex = .error failure
    | .ok next => entryStep math input (state.entries input.batches) observationIndex =
        .ok (next.entries input.batches) ∧ next.Sound math input (observationIndex + 1) := by
  have hexpand := expandBeam_eq hvalid hindex hstate
  unfold decodeStep entryStep
  cases hfailure : stepFailure input observationIndex with
  | some failure =>
    rw [hfailure] at hexpand
    rw [hexpand]
    rfl
  | none =>
    rw [hfailure] at hexpand
    rw [hexpand]
    simp only [bind, Except.bind, throwIf]
    obtain ⟨hwidth, hlimit, hdelta, -⟩ := hvalid.decoderBounds
    have hentries : (extensions math input observationIndex state.beam).reduceOption.map
        (entryOf input.batches) = expand (decoderTrellis math input) observationIndex
          (state.entries input.batches).beam := extensions_entries math input hstate.sound.depth
    have hsound := extensions_sound hvalid hindex hstate.sound
    have hkeyed := extensions_keyed math hstate.sound.depth hstate.ranked
    have hrejected := extensions_rejected math input observationIndex state.beam
    have hcount := congrArg List.length hentries
    rw [List.length_map] at hcount
    set expanded := (extensions math input observationIndex state.beam).reduceOption
    by_cases hempty : expanded = []
    · have hnone : expand (decoderTrellis math input) observationIndex
          (state.entries input.batches).beam = [] := by
        rw [← hentries, hempty, List.map_nil]
      rw [if_pos hempty, hnone]
      rfl
    · have hsome : (expand (decoderTrellis math input) observationIndex
          (state.entries input.batches).beam).isEmpty = false := by
        rw [← hentries]
        simpa using hempty
      have hpruned := pruneExpanded_sound hsound
      have hkept : SoundBeam math input (observationIndex + 1)
          (keepBeam input (pruneExpanded input expanded)) := hpruned.sublist keepBeam_sublist
      have hkeptKeyed : KeyedBeam input.batches (keepBeam input (pruneExpanded input expanded)) :=
        hkeyed.assign.subset fun hypothesis hmem =>
          pruneExpanded_subset hypothesis (keepBeam_sublist.subset hmem)
      have hbeam : (assignLexicographicRanks input.batches
          (keepBeam input (pruneExpanded input expanded))).map (entryOf input.batches) =
            keepEntries input (pruneEntries input (expand (decoderTrellis math input)
              observationIndex (state.entries input.batches).beam)) := by
        rw [map_assignLexicographicRanks (entryOf_withRank input.batches), keepBeam_entries,
          pruneExpanded_entries hsound hkeyed, hentries]
      have hsize := congrArg List.length hbeam
      rw [List.length_map] at hsize
      have hbefore : (state.entries input.batches).beam.length = state.beam.length :=
        List.length_map _
      rw [if_neg hempty, hsome]
      refine ⟨?_, hkept.assign, hkeptKeyed.assign_ranked hkept.distinct, ?_⟩
      · rw [if_neg Bool.false_ne_true]
        simp only [BeamState.entries] at hbeam hsize hbefore hcount ⊢
        rw [hbeam, hsize, hrejected, hcount, hbefore]
      · have hsome := keepBeam_ne_nil hwidth hdelta (pruneExpanded_ne_nil hlimit hempty)
        unfold assignLexicographicRanks
        exact fun hnone => hsome (List.map_eq_nil_iff.mp hnone)

end Step

variable (math) in
/-- The decoder computes the beam of entries: the same entries and counts after
each observation, or the same exception. -/
theorem beamAfter_refines {observationIndex : Nat}
    (hindex : observationIndex < input.observations.length) :
    match beamAfter math input observationIndex with
    | .error failure => entriesAfter math input observationIndex = .error failure
    | .ok state => entriesAfter math input observationIndex = .ok (state.entries input.batches) ∧
        state.Sound math input observationIndex := by
  induction observationIndex with
  | zero =>
    obtain ⟨state, hstate, hentries, hsound⟩ := initialBeam_refines math hvalid
    rw [beamAfter, hstate]
    exact ⟨by rw [entriesAfter, hentries], hsound⟩
  | succ observationIndex ih =>
    have hbefore := ih (by omega)
    rw [beamAfter, entriesAfter]
    cases hstate : beamAfter math input observationIndex with
    | error failure =>
      rw [hstate] at hbefore
      rw [hbefore]
      rfl
    | ok state =>
      rw [hstate] at hbefore
      rw [hbefore.1]
      exact decodeStep_refines hvalid hindex hbefore.2

end Refinement

/-! ## Results -/

/-- What a result says, the positions of the candidates in their batches apart. -/
structure SequenceResult where
  best : List Candidate
  runnerUp : Option (List Candidate)
  bestTotalLogLikelihood : ℚ
  runnerUpTotalLogLikelihood : Option ℚ
  pathSeparation : Option ℚ
  ambiguous : Bool
  pointAmbiguous : List Bool
  stationary : List Bool
  intervals : List DecodedInterval
  diagnostics : DecoderDiagnostics

/-- The sequences of a result; there is a runner-up where its indices are not empty. -/
def DecodeResult.sequences (batches : List (List Candidate)) (result : DecodeResult) :
    SequenceResult where
  best := candidatesOf batches result.bestCandidateIndices
  runnerUp := if result.runnerUpCandidateIndices = [] then none
    else some (candidatesOf batches result.runnerUpCandidateIndices)
  bestTotalLogLikelihood := result.bestTotalLogLikelihood
  runnerUpTotalLogLikelihood := result.runnerUpTotalLogLikelihood
  pathSeparation := result.pathSeparation
  ambiguous := result.ambiguous
  pointAmbiguous := result.pointAmbiguous
  stationary := result.stationary
  intervals := result.intervals
  diagnostics := result.diagnostics

section Results

variable (math : NativeMath) (input : DecoderInput)

/-- The result of the first two entries. -/
def resultOf (state : EntryState) (best : Entry Candidate ℚ)
    (runner : Option (Entry Candidate ℚ)) : SequenceResult :=
  let pathSeparation := runner.map fun runner => roundScore input (best.score - runner.score)
  let ambiguous := pathSeparation.any fun separation =>
    separation ≤ input.decoderParameters.ambiguityPathSeparation
  let runners : List (Option Candidate) :=
    match runner with
    | some runner => runner.path.map some
    | none => input.batches.map fun _ => none
  let ambiguity := pointAmbiguity ambiguous best.path runners
  let stationary := stationaryFlags math input
  { best := best.path, runnerUp := runner.map Entry.path,
    bestTotalLogLikelihood := best.score,
    runnerUpTotalLogLikelihood := runner.map Entry.score, pathSeparation := pathSeparation,
    ambiguous := ambiguous, pointAmbiguous := ambiguity, stationary := stationary,
    intervals := intervalsFrom pathSeparation input.observations.length 0
      (decodedPoints best.path runners stationary ambiguity),
    diagnostics := { generatedCandidateCounts := input.batches.map List.length,
                     retainedHypothesisCounts := state.retained,
                     rejectedTransitionCounts := state.rejected,
                     prunedHypothesisCounts := state.pruned } }

/-- The decoder on entries. -/
def decodeEntries : Except InvalidArgument SequenceResult := do
  let state ← entriesAfter math input (input.observations.length - 1)
  let sorted := sortEntries state.beam
  return resultOf math input state (sorted.headD ⟨[], .absent, 0⟩) sorted[1]?

variable {math input}

/-- The runner-up of a result is its second entry. -/
theorem runnerUp_of_sequences {state : EntryState} {first : Entry Candidate ℚ}
    {rest : List (Entry Candidate ℚ)} {result : DecodeResult}
    (h : result.sequences input.batches = resultOf math input state first rest.head?) :
    rest = [] ∧ result.runnerUpCandidateIndices = [] ∨
      ∃ second others, rest = second :: others ∧
        candidatesOf input.batches result.runnerUpCandidateIndices = second.path := by
  have hrunner := congrArg SequenceResult.runnerUp h
  cases rest with
  | nil =>
    left
    simpa [DecodeResult.sequences, resultOf] using hrunner
  | cons second others =>
    right
    have hindices : result.runnerUpCandidateIndices ≠ [] := by
      intro hempty
      simp [DecodeResult.sequences, resultOf, hempty] at hrunner
    exact ⟨second, others, rfl, by simpa [DecodeResult.sequences, resultOf, hindices] using hrunner⟩

variable (hvalid : input.Valid)

include hvalid

theorem trace_of_sound {observationIndex : Nat} {beam : List Hypothesis}
    (hindex : observationIndex < input.observations.length)
    (hsound : SoundBeam math input observationIndex beam) {hypothesis : Hypothesis}
    (hmem : hypothesis ∈ beam) :
    candidatesOf input.batches hypothesis.reconstruct = hypothesis.trace input.batches := by
  apply candidatesOf_reconstruct
  rw [hsound.depth hypothesis hmem, hvalid.count]
  exact hindex

/-- The decoder's result is the one of the first two entries of its beam. -/
theorem decodeResult_refines {observationIndex : Nat} {state : BeamState}
    (hindex : observationIndex < input.observations.length)
    (hstate : state.Sound math input observationIndex) :
    ∃ first rest result, sortEntries (state.entries input.batches).beam = first :: rest ∧
      decodeResult math input state = .ok result ∧
      result.sequences input.batches =
        resultOf math input (state.entries input.batches) first rest.head? := by
  obtain ⟨-, -, -, hplaces, hplaces'⟩ := hvalid.decoderBounds
  have hsorted := sortHypotheses_entries hstate.ranked
  have hsound := hstate.sound.sort
  have htrace {hypothesis : Hypothesis} (hmem : hypothesis ∈ sortHypotheses state.beam) :=
    trace_of_sound hvalid hindex hsound hmem
  unfold decodeResult
  cases hbeam : sortHypotheses state.beam with
  | nil =>
    have hlength := (List.perm_insertionSort hypothesisOrder state.beam).length_eq
    rw [show state.beam.insertionSort hypothesisOrder = [] from hbeam] at hlength
    exact absurd (List.length_eq_zero_iff.mp hlength.symm) hstate.nonempty
  | cons best rest =>
    rw [hbeam] at hsorted htrace
    have hbest := htrace List.mem_cons_self
    refine ⟨entryOf input.batches best, rest.map (entryOf input.batches), ?_⟩
    cases rest with
    | nil =>
      refine ⟨_, hsorted.symm, rfl, ?_⟩
      simp [DecodeResult.sequences, resultOf, hbest, entryOf, runnersOf, BeamState.entries]
    | cons runner others =>
      have hrunner := htrace (List.mem_cons_of_mem _ List.mem_cons_self)
      have hindices : runner.reconstruct ≠ [] := by
        intro hempty
        have hlength := runner.length_reconstruct
        rw [hempty] at hlength
        simp at hlength
      have hseparation : (some runner).mapM (fun runner =>
          checkedRound (best.totalScore - runner.totalScore)
            input.decoderParameters.scoreRoundingDecimalPlaces) =
              .ok (some (roundScore input (best.totalScore - runner.totalScore))) := by
        simp only [Option.mapM_some, checkedRound_of_valid hplaces hplaces', roundScore]
        rfl
      simp only [List.getElem?_cons_succ, List.getElem?_cons_zero, List.headD_cons, hseparation]
      refine ⟨_, hsorted.symm, rfl, ?_⟩
      simp [DecodeResult.sequences, resultOf, hbest, hrunner, hindices, entryOf, runnersOf,
        BeamState.entries]

variable (math) in
/-- `decode_candidate_batches` returns what the decoder on entries does, or throws the
same exception. -/
theorem decode_refines :
    (decodeCandidateBatches math input).map (DecodeResult.sequences input.batches) =
      decodeEntries math input := by
  have hindex : input.observations.length - 1 < input.observations.length := by
    have hpos := List.length_pos_of_ne_nil hvalid.observations_ne_nil
    omega
  have hbeam := beamAfter_refines math hvalid hindex
  unfold decodeCandidateBatches decodeEntries
  rw [validateDecoderInput_eq_ok_iff.mpr hvalid]
  cases hstate : beamAfter math input (input.observations.length - 1) with
  | error failure =>
    rw [hstate] at hbeam
    rw [hbeam]
    rfl
  | ok state =>
    rw [hstate] at hbeam
    obtain ⟨first, rest, result, hsorted, hresult, hsequences⟩ :=
      decodeResult_refines hvalid hindex hbeam.2
    rw [hbeam.1]
    simp only [bind, Except.bind, hresult, hsorted, Except.map, hsequences, List.headD_cons,
      List.getElem?_cons_succ, List.head?_eq_getElem?]
    rfl

/-- Where the beam of entries gets through, the decoder returns its first two. -/
theorem decode_of_entries {state : EntryState}
    (hstate : entriesAfter math input (input.observations.length - 1) = .ok state) :
    ∃ first rest result, sortEntries state.beam = first :: rest ∧
      decodeCandidateBatches math input = .ok result ∧
      result.sequences input.batches = resultOf math input state first rest.head? := by
  have hindex : input.observations.length - 1 < input.observations.length := by
    have hpos := List.length_pos_of_ne_nil hvalid.observations_ne_nil
    omega
  have hbeam := beamAfter_refines math hvalid hindex
  unfold decodeCandidateBatches
  rw [validateDecoderInput_eq_ok_iff.mpr hvalid]
  cases hbefore : beamAfter math input (input.observations.length - 1) with
  | error failure =>
    rw [hbefore, hstate] at hbeam
    exact absurd hbeam (by simp)
  | ok before =>
    rw [hbefore, hstate] at hbeam
    obtain ⟨heq, hsound⟩ := hbeam
    obtain rfl := Except.ok.inj heq
    exact decodeResult_refines hvalid hindex hsound

/-- The beam of entries holds feasible sequences, once each, after every observation. -/
theorem entriesAfter_sound {observationIndex : Nat}
    (hindex : observationIndex < input.observations.length) {state : EntryState}
    (hstate : entriesAfter math input observationIndex = .ok state) :
    (∀ entry ∈ state.beam, Feasible (decoderTrellis math input) observationIndex entry) ∧
      (state.beam.map entryIdentities).Nodup ∧ state.beam ≠ [] := by
  have hbeam := beamAfter_refines math hvalid hindex
  cases hbefore : beamAfter math input observationIndex with
  | error failure =>
    rw [hbefore, hstate] at hbeam
    exact absurd hbeam (by simp)
  | ok before =>
    rw [hbefore, hstate] at hbeam
    obtain ⟨heq, hsound⟩ := hbeam
    obtain rfl := Except.ok.inj heq
    refine ⟨?_, ?_, ?_⟩
    · intro entry hentry
      obtain ⟨hypothesis, hhypothesis, rfl⟩ := List.mem_map.mp hentry
      exact hsound.sound.feasible hypothesis hhypothesis
    · unfold BeamState.entries
      rw [List.map_map]
      exact hsound.sound.distinct
    · unfold BeamState.entries
      exact fun hempty => hsound.nonempty (List.map_eq_nil_iff.mp hempty)

end Results

end CartoSentry.Matching
