import CartoSentry.Foundation.Runs
import CartoSentry.Matching.DecoderRefinement

set_option autoImplicit false

/-!
# Road matching: the intervals of a decoded path

The loop that cuts the decoded points into intervals yields their maximal runs, one
after another from the first observation to the last.
-/

namespace CartoSentry.Matching

open Foundation (IsRun Consecutive runFrom runRest runFrom_append_runRest isRun_runFrom
  opens_runRest bind_unit_eq_ok_iff bind_eq_ok_iff)
open Foundation.BeamSearch (Entry Feasible)

/-! ## Points -/

namespace DecodedPoint

/-- What the points of one interval have in common. -/
def key (point : DecodedPoint) : Option Nat × Bool × Bool :=
  (point.candidate.arcIndex, point.stationary, point.ambiguous)

/-- The point is off the map, stationary or ambiguous. -/
def addsNothing (point : DecodedPoint) : Bool :=
  point.candidate.offMap || point.stationary || point.ambiguous

theorem continues_iff {first point : DecodedPoint} :
    first.continues point = true ↔ point.key = first.key := by
  unfold continues key Candidate.offMap
  simp only [decide_eq_true_eq, Prod.mk.injEq]
  constructor
  · intro ⟨_, harc, hstationary, hambiguous⟩
    exact ⟨harc, hstationary, hambiguous⟩
  · intro ⟨harc, hstationary, hambiguous⟩
    exact ⟨by rw [harc], harc, hstationary, hambiguous⟩

theorem continues_eq (first : DecodedPoint) :
    first.continues = fun point => decide (point.key = first.key) := by
  funext point
  rw [Bool.eq_iff_iff, continues_iff, decide_eq_true_eq]

theorem addsNothing_eq_of_key {left right : DecodedPoint} (hkey : left.key = right.key) :
    left.addsNothing = right.addsNothing := by
  simp only [key, Prod.mk.injEq] at hkey
  obtain ⟨harc, hstationary, hambiguous⟩ := hkey
  rw [addsNothing, addsNothing, Candidate.offMap, Candidate.offMap, harc, hstationary, hambiguous]

end DecodedPoint

/-- The points of a result, read off its own arrays. -/
def DecodeResult.points (batches : List (List Candidate)) (result : DecodeResult) :
    List DecodedPoint :=
  decodedPoints (candidatesOf batches result.bestCandidateIndices)
    (runnersOf batches
      (if result.runnerUpCandidateIndices = [] then none
        else some result.runnerUpCandidateIndices))
    result.stationary result.pointAmbiguous

def DecodedInterval.range (interval : DecodedInterval) : Nat × Nat :=
  (interval.startObservationIndex, interval.endObservationIndexExclusive)

/-! ## The distance of an interval -/

theorem travelledAlong_nonneg (run : List DecodedPoint) : 0 ≤ travelledAlong run := by
  induction run with
  | nil => exact le_rfl
  | cons left rest ih =>
    cases rest with
    | nil => exact le_rfl
    | cons right rest => exact add_nonneg (abs_nonneg _) ih

theorem intervalOf_usableDistance {separation : Option ℚ} {cursor : Nat} {first : DecodedPoint}
    {run : List DecodedPoint} :
    (intervalOf separation cursor first run).usableDistance =
      if first.addsNothing then 0 else roundTo (travelledAlong run) 6 := by
  have hadds : (first.candidate.offMap ∨ first.stationary ∨ first.ambiguous) ↔
      first.addsNothing = true := by
    rw [DecodedPoint.addsNothing, Bool.or_eq_true, Bool.or_eq_true, or_assoc]
  have hfield : (intervalOf separation cursor first run).usableDistance =
      roundTo (if first.candidate.offMap ∨ first.stationary ∨ first.ambiguous then 0
        else travelledAlong run) 6 := rfl
  rw [hfield]
  by_cases hnothing : first.addsNothing = true
  · rw [if_pos hnothing, if_pos (hadds.mpr hnothing), roundTo_zero]
  · rw [if_neg hnothing, if_neg fun h => hnothing (hadds.mp h)]

/-! ## The loop -/

section Loop

variable {pathSeparation : Option ℚ} {points front rest : List DecodedPoint} {fuel : Nat}

theorem intervalsFrom_cons {cursor : Nat} {first : DecodedPoint} :
    intervalsFrom pathSeparation (fuel + 1) cursor (first :: rest) =
      intervalOf pathSeparation cursor first (runFrom DecodedPoint.key first rest) ::
        intervalsFrom pathSeparation fuel
          (cursor + (runFrom DecodedPoint.key first rest).length)
          (runRest DecodedPoint.key first rest) := by
  have hdrop : rest.drop (rest.takeWhile first.continues).length =
      runRest DecodedPoint.key first rest := by
    have hsplit := List.takeWhile_append_dropWhile (p := first.continues) (l := rest)
    conv_lhs => rw [← hsplit]
    rw [List.takeWhile_append_dropWhile, runRest, ← first.continues_eq]
    nth_rewrite 2 [← hsplit]
    rw [List.drop_left]
  rw [intervalsFrom, hdrop, runFrom, ← first.continues_eq]

theorem length_runRest_le (first : DecodedPoint) (rest : List DecodedPoint) :
    (runRest DecodedPoint.key first rest).length ≤ rest.length :=
  (List.dropWhile_sublist _).length_le

variable (pathSeparation) in
/-- The intervals lead from the first point left to the last. -/
theorem intervalsFrom_consecutive (cursor : Nat) (hfuel : rest.length ≤ fuel) :
    Consecutive cursor (cursor + rest.length)
      ((intervalsFrom pathSeparation fuel cursor rest).map DecodedInterval.range) := by
  induction fuel generalizing cursor rest with
  | zero =>
    obtain rfl := List.length_eq_zero_iff.mp (Nat.le_zero.mp hfuel)
    rfl
  | succ fuel ih =>
    cases rest with
    | nil => rfl
    | cons first rest =>
      have hlength := length_runRest_le first rest
      have hsplit := congrArg List.length (@runFrom_append_runRest _ _ _ DecodedPoint.key rest first)
      rw [List.length_append] at hsplit
      rw [List.length_cons] at hfuel hsplit
      have hlater := @ih (runRest DecodedPoint.key first rest)
        (cursor + (runFrom DecodedPoint.key first rest).length) (by omega)
      rw [intervalsFrom_cons, List.map_cons]
      refine ⟨rfl, ?_, ?_⟩
      · have hpos : 0 < (runFrom DecodedPoint.key first rest).length :=
          List.length_pos_of_ne_nil (List.cons_ne_nil _ _)
        show cursor < cursor + (runFrom DecodedPoint.key first rest).length
        omega
      · rw [List.length_cons, show cursor + (rest.length + 1) =
          cursor + (runFrom DecodedPoint.key first rest).length +
            (runRest DecodedPoint.key first rest).length by omega]
        exact hlater

/-- Every interval is the one of a maximal run. -/
theorem exists_run_of_mem (hpoints : points = front ++ rest)
    (hopens : ∀ neighbour ∈ front.getLast?, ∀ first ∈ rest.head?,
      neighbour.key ≠ first.key)
    {interval : DecodedInterval}
    (hinterval : interval ∈ intervalsFrom pathSeparation fuel front.length rest) :
    ∃ before first tail after, points = before ++ (first :: tail) ++ after ∧
      IsRun DecodedPoint.key before (first :: tail) after ∧
      interval = intervalOf pathSeparation before.length first (first :: tail) := by
  induction fuel generalizing front rest with
  | zero => cases hinterval
  | succ fuel ih =>
    cases rest with
    | nil => cases hinterval
    | cons first rest =>
      have hsplit : front ++ first :: rest =
          front ++ runFrom DecodedPoint.key first rest ++ runRest DecodedPoint.key first rest := by
        rw [List.append_assoc, runFrom_append_runRest]
      rw [intervalsFrom_cons] at hinterval
      cases List.mem_cons.mp hinterval with
      | inl heq =>
        refine ⟨front, first, _, runRest DecodedPoint.key first rest, hpoints.trans hsplit, ?_, heq⟩
        exact isRun_runFrom fun neighbour hneighbour => hopens neighbour hneighbour first rfl
      | inr hlater =>
        rw [← List.length_append] at hlater
        refine ih (hpoints.trans hsplit) ?_ hlater
        intro neighbour hneighbour next hnext
        obtain ⟨others, hrest⟩ : ∃ others, runRest DecodedPoint.key first rest = next :: others := by
          rw [Option.mem_def, List.head?_eq_some_iff] at hnext
          exact hnext
        exact opens_runRest hrest neighbour hneighbour

end Loop

/-! ## Lengths -/

section Result

variable {math : NativeMath} {input : DecoderInput} {result : DecodeResult}

theorem length_stationaryFrom {fuel : Nat} {observations : List Observation}
    (hfuel : observations.length ≤ fuel) :
    (stationaryFrom math input fuel observations).length = observations.length := by
  induction fuel generalizing observations with
  | zero =>
    obtain rfl := List.length_eq_zero_iff.mp (Nat.le_zero.mp hfuel)
    rfl
  | succ fuel ih =>
    cases observations with
    | nil => rfl
    | cons observation rest =>
      rw [List.length_cons] at hfuel
      rw [stationaryFrom]
      split_ifs with hslow
      · have hrun : 0 < ((observation :: rest).takeWhile (isSlow input)).length := by
          rw [List.takeWhile_cons_of_pos hslow, List.length_cons]
          omega
        have hle : ((observation :: rest).takeWhile (isSlow input)).length ≤
            (observation :: rest).length := (List.takeWhile_sublist _).length_le
        rw [List.length_cons] at hle
        rw [List.length_append, List.length_replicate, ih (by
          rw [List.length_drop, List.length_cons]
          omega), List.length_drop, List.length_cons]
        omega
      · rw [List.length_cons, List.length_cons, ih (by omega)]

theorem length_stationaryFlags :
    (stationaryFlags math input).length = input.observations.length :=
  length_stationaryFrom le_rfl

theorem length_decodedPoints {candidates : List Candidate} {runners : List (Option Candidate)}
    {flags ambiguity : List Bool} {count : Nat} (hcandidates : candidates.length = count)
    (hrunners : runners.length = count) (hflags : flags.length = count)
    (hambiguity : ambiguity.length = count) :
    (decodedPoints candidates runners flags ambiguity).length = count := by
  induction count generalizing candidates runners flags ambiguity with
  | zero =>
    obtain rfl := List.length_eq_zero_iff.mp hcandidates
    rfl
  | succ count ih =>
    obtain ⟨candidate, candidates, rfl⟩ := List.exists_cons_of_length_eq_add_one hcandidates
    obtain ⟨runner, runners, rfl⟩ := List.exists_cons_of_length_eq_add_one hrunners
    obtain ⟨flag, flags, rfl⟩ := List.exists_cons_of_length_eq_add_one hflags
    obtain ⟨ambiguous, ambiguity, rfl⟩ := List.exists_cons_of_length_eq_add_one hambiguity
    rw [decodedPoints, List.length_cons, ih (by simpa using hcandidates) (by simpa using hrunners)
      (by simpa using hflags) (by simpa using hambiguity)]

/-! ## Results -/

/-- The result read off the best hypothesis and its runner-up. -/
def resultOfHypotheses (math : NativeMath) (input : DecoderInput) (state : BeamState)
    (best : Hypothesis) (runner : Option Hypothesis) : DecodeResult :=
  let pathSeparation := runner.map fun runner =>
    roundScore input (best.totalScore - runner.totalScore)
  let ambiguous := pathSeparation.any fun separation =>
    separation ≤ input.decoderParameters.ambiguityPathSeparation
  let bestCandidates := candidatesOf input.batches best.reconstruct
  let runners := runnersOf input.batches (runner.map Hypothesis.reconstruct)
  let ambiguity := pointAmbiguity ambiguous bestCandidates runners
  let stationary := stationaryFlags math input
  { bestCandidateIndices := best.reconstruct,
    runnerUpCandidateIndices := (runner.map Hypothesis.reconstruct).getD [],
    bestTotalLogLikelihood := best.totalScore,
    runnerUpTotalLogLikelihood := runner.map Hypothesis.totalScore,
    pathSeparation := pathSeparation, ambiguous := ambiguous,
    pointAmbiguous := ambiguity, stationary := stationary,
    intervals := intervalsFrom pathSeparation input.observations.length 0
      (decodedPoints bestCandidates runners stationary ambiguity),
    diagnostics := { generatedCandidateCounts := input.batches.map List.length,
                     retainedHypothesisCounts := state.retained,
                     rejectedTransitionCounts := state.rejected,
                     prunedHypothesisCounts := state.pruned } }

/-- A beam whose hypotheses are sequences for all observations. -/
structure FullBeam (input : DecoderInput) (beam : List Hypothesis) : Prop where
  nonempty : beam ≠ []
  depth : ∀ hypothesis ∈ beam, hypothesis.observationIndex + 1 = input.observations.length

/-- The result of a full beam is the one of its first two hypotheses in order. -/
theorem decodeResult_eq (hvalid : input.Valid) {state : BeamState}
    (hfull : FullBeam input state.beam) (h : decodeResult math input state = .ok result) :
    ∃ best rest, (sortHypotheses state.beam) = best :: rest ∧
      result = resultOfHypotheses math input state best rest.head? ∧
      ∀ hypothesis ∈ best :: rest,
        hypothesis.observationIndex + 1 = input.observations.length := by
  obtain ⟨-, -, -, hplaces, hplaces'⟩ := hvalid.decoderBounds
  have hperm : (sortHypotheses state.beam).Perm state.beam := List.perm_insertionSort _ _
  unfold decodeResult at h
  cases hsorted : sortHypotheses state.beam with
  | nil =>
    rw [hsorted] at hperm
    exact absurd hperm.symm.eq_nil hfull.nonempty
  | cons best rest =>
    refine ⟨best, rest, rfl, ?_, ?_⟩
    · rw [hsorted] at h
      cases rest with
      | nil =>
        cases h
        rfl
      | cons runner others =>
        simp only [List.getElem?_cons_succ, List.getElem?_cons_zero, Option.mapM_some,
          checkedRound_of_valid hplaces hplaces'] at h
        cases h
        rfl
    · intro hypothesis hmem
      rw [← hsorted] at hmem
      exact hfull.depth hypothesis (hperm.mem_iff.mp hmem)

/-- A full beam with diagnostics for every observation. -/
structure FullState (input : DecoderInput) (state : BeamState) : Prop extends
    FullBeam input state.beam where
  retained : state.retained.length = input.observations.length
  rejected : state.rejected.length = input.observations.length
  pruned : state.pruned.length = input.observations.length

theorem beamAfter_diagnostics {observationIndex : Nat} {state : BeamState}
    (h : beamAfter math input observationIndex = .ok state) :
    state.retained.length = observationIndex + 1 ∧ state.rejected.length = observationIndex + 1 ∧
      state.pruned.length = observationIndex + 1 := by
  induction observationIndex generalizing state with
  | zero =>
    rw [beamAfter, initialBeam, bind_eq_ok_iff] at h
    obtain ⟨_, _, h⟩ := h
    cases h
    exact ⟨rfl, rfl, rfl⟩
  | succ observationIndex ih =>
    rw [beamAfter, bind_eq_ok_iff] at h
    obtain ⟨before, hbefore, h⟩ := h
    obtain ⟨hretained, hrejected, hpruned⟩ := ih hbefore
    rw [decodeStep, bind_eq_ok_iff] at h
    obtain ⟨_, _, h⟩ := h
    rw [bind_unit_eq_ok_iff] at h
    obtain ⟨_, h⟩ := h
    cases h
    simp [hretained, hrejected, hpruned]

/-- The decoder reads its result off such a state. -/
theorem fullState_of_decode (h : decodeCandidateBatches math input = .ok result) :
    input.Valid ∧ ∃ state, FullState input state ∧ decodeResult math input state = .ok result := by
  rw [decodeCandidateBatches, bind_unit_eq_ok_iff, bind_eq_ok_iff] at h
  obtain ⟨hchecked, state, hstate, hresult⟩ := h
  have hvalid := validateDecoderInput_eq_ok_iff.mp hchecked
  have hpos := List.length_pos_of_ne_nil hvalid.observations_ne_nil
  have hbeam := beamAfter_refines math hvalid
    (show input.observations.length - 1 < input.observations.length by omega)
  rw [hstate] at hbeam
  obtain ⟨hretained, hrejected, hpruned⟩ := beamAfter_diagnostics hstate
  refine ⟨hvalid, state, ⟨⟨hbeam.2.nonempty, ?_⟩, ?_, ?_, ?_⟩, hresult⟩
  · intro hypothesis hmem
    rw [hbeam.2.sound.depth hypothesis hmem]
    omega
  · omega
  · omega
  · omega

section Fields

variable {state : BeamState} {best : Hypothesis} {runner : Option Hypothesis}

theorem reconstruct_ne_nil (hypothesis : Hypothesis) : hypothesis.reconstruct ≠ [] := by
  intro hempty
  have hlength := hypothesis.length_reconstruct
  rw [hempty, List.length_nil] at hlength
  omega

/-- The result's points, whose runner-up is there where the runner-up hypothesis is. -/
theorem points_resultOfHypotheses :
    (resultOfHypotheses math input state best runner).points input.batches =
      decodedPoints (candidatesOf input.batches best.reconstruct)
        (runnersOf input.batches (runner.map Hypothesis.reconstruct)) (stationaryFlags math input)
        (resultOfHypotheses math input state best runner).pointAmbiguous := by
  cases runner with
  | none => rfl
  | some runner =>
    have hsome := reconstruct_ne_nil runner
    simp [DecodeResult.points, resultOfHypotheses, hsome]

theorem intervals_resultOfHypotheses :
    (resultOfHypotheses math input state best runner).intervals =
      intervalsFrom (resultOfHypotheses math input state best runner).pathSeparation
        input.observations.length 0
        ((resultOfHypotheses math input state best runner).points input.batches) := by
  rw [points_resultOfHypotheses]
  rfl

variable (hcount : input.batches.length = input.observations.length)

include hcount

theorem length_candidatesOf {hypothesis : Hypothesis}
    (hdepth : hypothesis.observationIndex + 1 = input.observations.length) :
    (candidatesOf input.batches hypothesis.reconstruct).length = input.observations.length := by
  rw [candidatesOf, List.length_zipWith, hcount, hypothesis.length_reconstruct, hdepth,
    Nat.min_self]

theorem length_runnersOf
    (hdepth : ∀ hypothesis ∈ runner, hypothesis.observationIndex + 1 = input.observations.length) :
    (runnersOf input.batches (runner.map Hypothesis.reconstruct)).length =
      input.observations.length := by
  cases runner with
  | none => rw [Option.map_none, runnersOf, List.length_map, hcount]
  | some runner =>
    rw [Option.map_some, runnersOf, List.length_map, length_candidatesOf hcount (hdepth runner rfl)]

theorem length_pointAmbiguous (hbest : best.observationIndex + 1 = input.observations.length)
    (hrunner : ∀ hypothesis ∈ runner,
      hypothesis.observationIndex + 1 = input.observations.length) :
    (resultOfHypotheses math input state best runner).pointAmbiguous.length =
      input.observations.length := by
  show (pointAmbiguity _ _ _).length = _
  rw [pointAmbiguity, List.length_zipWith, length_candidatesOf hcount hbest,
    length_runnersOf hcount hrunner, Nat.min_self]

/-- A result has a point for each observation. -/
theorem length_points (hbest : best.observationIndex + 1 = input.observations.length)
    (hrunner : ∀ hypothesis ∈ runner,
      hypothesis.observationIndex + 1 = input.observations.length) :
    ((resultOfHypotheses math input state best runner).points input.batches).length =
      input.observations.length := by
  rw [points_resultOfHypotheses]
  exact length_decodedPoints (length_candidatesOf hcount hbest) (length_runnersOf hcount hrunner)
    length_stationaryFlags (length_pointAmbiguous hcount hbest hrunner)

end Fields

end Result

end CartoSentry.Matching
