import CartoSentry.Matching.PathAcceptance

set_option autoImplicit false

/-!
# Road matching: agreement of the native decoder and the Python model

The intervals of a decoded path partition its observations into maximal runs, and both
sides say the same of them; the separation is where the two roundings can differ.
-/

namespace CartoSentry.Matching

open Foundation (IsRun Consecutive nearestDouble)

/-! ## Offsets in whole units -/

/-- Every offset of the batches has at most six decimal places. -/
def WholeOffsets (batches : List (List Candidate)) : Prop :=
  ∀ batch ∈ batches, ∀ candidate ∈ batch, ∀ offset ∈ candidate.alongArcOffset,
    ∃ units : ℤ, offset * 10 ^ 6 = units

theorem wholeOffset_of_mem_candidatesOf {batches : List (List Candidate)}
    (hwhole : WholeOffsets batches) {indices : List Nat} {candidate : Candidate}
    (hcandidate : candidate ∈ candidatesOf batches indices) :
    ∃ units : ℤ, candidate.alongArcOffset.getD 0 * 10 ^ 6 = units := by
  obtain ⟨position, hposition⟩ := List.getElem?_of_mem hcandidate
  obtain ⟨batch, index, hbatch, -, rfl⟩ := List.getElem?_zipWith_eq_some.mp hposition
  cases Nat.lt_or_ge index batch.length with
  | inl hindex =>
    rw [List.getD_eq_getElem _ _ hindex]
    cases hoffset : batch[index].alongArcOffset with
    | none => exact ⟨0, by simp⟩
    | some offset =>
      exact hwhole batch (List.mem_of_getElem? hbatch) _ (List.getElem_mem hindex) offset hoffset
  | inr hindex =>
    rw [List.getD_eq_default _ _ hindex]
    exact ⟨0, by simp [Candidate.absent]⟩

/-- The distance along whole offsets is whole. -/
theorem travelledAlong_whole {run : List DecodedPoint}
    (hwhole : ∀ point ∈ run, ∃ units : ℤ, point.candidate.alongArcOffset.getD 0 * 10 ^ 6 = units) :
    ∃ units : ℤ, travelledAlong run * 10 ^ 6 = units := by
  induction run with
  | nil => exact ⟨0, by simp [travelledAlong]⟩
  | cons left rest ih =>
    cases rest with
    | nil => exact ⟨0, by simp [travelledAlong]⟩
    | cons right rest =>
      obtain ⟨leftUnits, hleft⟩ := hwhole left List.mem_cons_self
      obtain ⟨rightUnits, hright⟩ := hwhole right (List.mem_cons_of_mem _ List.mem_cons_self)
      obtain ⟨units, hunits⟩ := ih fun point hpoint => hwhole point (List.mem_cons_of_mem _ hpoint)
      have hpower : (0 : ℚ) ≤ 10 ^ 6 := by positivity
      refine ⟨|rightUnits - leftUnits| + units, ?_⟩
      have hstep : |right.candidate.alongArcOffset.getD 0 - left.candidate.alongArcOffset.getD 0| *
          10 ^ 6 = |(rightUnits : ℚ) - leftUnits| := by
        rw [← hleft, ← hright, ← sub_mul, abs_mul, abs_of_nonneg hpower]
      rw [travelledAlong, add_mul, hunits, hstep]
      push_cast
      rfl

/-! ## The native intervals -/

/-- The interval of a maximal run of points, with the distance and the separation that
the run gives it. -/
structure IsIntervalOf (separation : Option ℚ) (front run back : List DecodedPoint)
    (interval : DecodedInterval) : Prop where
  maximal : IsRun DecodedPoint.key front run back
  start : interval.startObservationIndex = front.length
  stop : interval.endObservationIndexExclusive = front.length + run.length
  noDistance : (∃ point ∈ run, point.addsNothing = true) → interval.usableDistance = 0
  distance : (¬ ∃ point ∈ run, point.addsNothing = true) →
    interval.usableDistance = roundTo (travelledAlong run) 6
  carried : interval.pathSeparation =
    if ∃ point ∈ run, point.differs = true then separation else none
  separated : (∃ point ∈ run, point.differs = true) → separation.isSome = true

theorem isIntervalOf_intervalOf {separation : Option ℚ} {front back tail : List DecodedPoint}
    {first : DecodedPoint} (hrun : IsRun DecodedPoint.key front (first :: tail) back)
    (hseparated : ∀ point ∈ first :: tail, point.differs = true → separation.isSome = true) :
    IsIntervalOf separation front (first :: tail) back
      (intervalOf separation front.length first (first :: tail)) := by
  have hadds : (∃ point ∈ first :: tail, point.addsNothing = true) ↔ first.addsNothing = true := by
    constructor
    · intro ⟨point, hpoint, hadds⟩
      rwa [DecodedPoint.addsNothing_eq_of_key
        (hrun.constant point hpoint first List.mem_cons_self)] at hadds
    · intro hadds
      exact ⟨first, List.mem_cons_self, hadds⟩
  refine ⟨hrun, rfl, rfl, ?_, ?_, ?_, ?_⟩
  · intro hnothing
    rw [intervalOf_usableDistance, if_pos (hadds.mp hnothing)]
  · intro hsome
    rw [intervalOf_usableDistance, if_neg fun h => hsome (hadds.mpr h)]
  · show (if (first :: tail).any DecodedPoint.differs then separation else none) = _
    simp only [List.any_eq_true]
  · intro ⟨point, hpoint, hdiffers⟩
    exact hseparated point hpoint hdiffers

/-! ## Agreement -/

section Agreement

variable {math : NativeMath} {input : DecoderInput} {state : BeamState} {result : DecodeResult}

/-- Every interval of a result is the one of a maximal run of its points. -/
theorem exists_isIntervalOf (hsound : result.Sound input) {interval : DecodedInterval}
    (hinterval : interval ∈ result.intervals) :
    ∃ front run back, result.points input.batches = front ++ run ++ back ∧
      IsIntervalOf result.pathSeparation front run back interval := by
  rw [hsound.intervals] at hinterval
  have hopens : ∀ neighbour ∈ ([] : List DecodedPoint).getLast?,
      ∀ first ∈ (result.points input.batches).head?, neighbour.key ≠ first.key := by
    intro neighbour hneighbour
    cases hneighbour
  obtain ⟨front, first, tail, back, hpoints, hrun, rfl⟩ :=
    exists_run_of_mem (List.nil_append _).symm hopens hinterval
  refine ⟨front, first :: tail, back, hpoints, isIntervalOf_intervalOf hrun ?_⟩
  intro point hpoint
  apply (hsound.consistent point _).separated
  rw [hpoints]
  exact List.mem_append_left _ (List.mem_append_right _ hpoint)

/-- Rounding leaves the distance along every run alone. -/
def DecodeResult.ExactDistances (batches : List (List Candidate)) (result : DecodeResult) : Prop :=
  ∀ front run back, result.points batches = front ++ run ++ back →
    IsRun DecodedPoint.key front run back → roundTo (travelledAlong run) 6 = travelledAlong run

/-- Offsets in whole units make whole distances. -/
theorem exactDistances_of_whole (hwhole : WholeOffsets input.batches) :
    result.ExactDistances input.batches := by
  intro front run back hpoints _
  obtain ⟨units, hunits⟩ : ∃ units : ℤ, travelledAlong run * 10 ^ 6 = units := by
    apply travelledAlong_whole
    intro point hpoint
    have hmem : point ∈ result.points input.batches := by
      rw [hpoints]
      exact List.mem_append_left _ (List.mem_append_right _ hpoint)
    exact wholeOffset_of_mem_candidatesOf hwhole (mem_decodedPoints hmem).1
  exact roundTo_of_whole hunits

/-- Both roundings leave an exact distance alone. -/
theorem distances_agree (hsound : result.Sound input)
    (hexact : result.ExactDistances input.batches)
    {points : List DecodedMatchPoint} {intervals : List MatchedRoadInterval}
    (hwrapped : Wrapped input result points intervals) {native : DecodedInterval}
    (hnative : native ∈ result.intervals) :
    native.usableDistance = recomputedOf input.graph points native := by
  obtain ⟨front, run, first, support, hsupport, ⟨back, hpoints, hrun⟩, rfl⟩ :=
    fromRun_of_mem hwrapped.pairs (hsound.intervals ▸ hnative)
  obtain ⟨head, last, hhead, -, hfirst, -⟩ := hsupport.ends
  have hslice : supportOf points
      (intervalOf result.pathSeparation front.length first run).startObservationIndex
      (intervalOf result.pathSeparation front.length first run).endObservationIndexExclusive =
        support :=
    hsupport.slice.symm
  have hround : roundTo (travelledAlong run) 6 = pythonRound (travelledAlong run) 6 := by
    rw [roundTo_eq_pythonRound_iff]
    exact not_misjudgedTie_of_roundTo_eq (hexact front run back hpoints hrun)
  rw [recomputedOf, hslice, hhead, intervalOf_usableDistance, hround]
  exact (hsupport.recomputedDistance_eq hfirst).symm

/-- The separation is recomputed exactly where the difference of the totals is no
misjudged tie. -/
theorem separationRecomputed_iff (hvalid : input.Valid) (hfull : FullState input state)
    (h : decodeResult math input state = .ok result)
    (hplaces : input.decoderParameters.scoreRoundingDecimalPlaces = 12) :
    result.SeparationRecomputed ↔ ∀ runnerUp ∈ result.runnerUpTotalLogLikelihood,
      ¬ MisjudgedTie ((result.bestTotalLogLikelihood - runnerUp) * 10 ^ 12) := by
  obtain ⟨best, rest, -, rfl, -⟩ := decodeResult_eq hvalid hfull.toFullBeam h
  unfold DecodeResult.SeparationRecomputed
  cases rest with
  | nil => simp [resultOfHypotheses]
  | cons second others =>
    simp only [resultOfHypotheses, List.head?_cons, Option.map_some, Option.some.injEq,
      Option.mem_def, roundScore, hplaces, forall_eq', expectedSeparation]
    exact roundTo_eq_pythonRound_iff

/-- Separation and distances are those that the Python model recomputes, and it accepts
the result. -/
structure DecodeResult.RoundingsAgree (input : DecoderInput) (result : DecodeResult) : Prop where
  separation : result.SeparationRecomputed
  distances : ∃ points intervals, Wrapped input result points intervals ∧
    ∀ native ∈ result.intervals, native.usableDistance = recomputedOf input.graph points native
  accepted : ∃ path, decodeRoadPath input result = .ok path

/-- The totals are the doubles next to decimals of twelve places. -/
def DecodeResult.DecimalTotals (result : DecodeResult) : Prop :=
  ∀ total, total = result.bestTotalLogLikelihood ∨ total ∈ result.runnerUpTotalLogLikelihood →
    ∃ units : ℤ, total = nearestDouble (units / 10 ^ 12)

end Agreement

/-- The intervals of a decoded path partition its observations into maximal runs of
points of one arc, one motion and one confidence, each with the distance and the
separation of its run, and the checks of the Python model pass. -/
theorem intervals_partition (math : NativeMath) {input : DecoderInput} {result : DecodeResult}
    (h : decodeCandidateBatches math input = .ok result) :
    (result.points input.batches).length = input.observations.length ∧
      Consecutive 0 input.observations.length (result.intervals.map DecodedInterval.range) ∧
      (∀ position < input.observations.length, (result.intervals.map DecodedInterval.range).countP
        (fun range => range.1 ≤ position ∧ position < range.2) = 1) ∧
      (∀ interval ∈ result.intervals, ∃ front run back,
        result.points input.batches = front ++ run ++ back ∧
          IsIntervalOf result.pathSeparation front run back interval ∧
          (result.ExactDistances input.batches →
            (¬ ∃ point ∈ run, point.addsNothing = true) →
              interval.usableDistance = travelledAlong run)) ∧
      ∃ points intervals, Wrapped input result points intervals ∧
        (result.ExactDistances input.batches →
          checkIntervals input.graph points 0 intervals = .ok ()) := by
  obtain ⟨hvalid, state, hfull, hresult⟩ := fullState_of_decode h
  have hsound := sound_of_decodeResult hvalid hfull hresult
  refine ⟨hsound.length, hsound.consecutive, ?_, ?_, ?_⟩
  · intro position hposition
    exact hsound.consecutive.countP_eq_one (Nat.zero_le _) hposition
  · intro interval hinterval
    obtain ⟨front, run, back, hpoints, hrun⟩ := exists_isIntervalOf hsound hinterval
    refine ⟨front, run, back, hpoints, hrun, ?_⟩
    intro hexact hsome
    rw [hrun.distance hsome]
    exact hexact front run back hpoints hrun.maximal
  · obtain ⟨points, intervals, hwrapped⟩ := wrapped_of_sound hvalid hsound
    refine ⟨points, intervals, hwrapped, ?_⟩
    intro hexact
    exact hwrapped.checked.mpr fun native hnative =>
      distances_agree hsound hexact hwrapped hnative

namespace LoopRoad

theorem decoderInput_whole : WholeOffsets decoderInput.batches := by
  intro batch hbatch candidate hcandidate offset hoffset
  have hoffsets : offset = 10 ∨ offset = 30 := by
    simp only [decoderInput, List.mem_cons, List.not_mem_nil, or_false] at hbatch
    obtain rfl | rfl := hbatch
    all_goals
      simp only [List.mem_cons, List.not_mem_nil, or_false] at hcandidate
      obtain rfl | rfl := hcandidate
      all_goals simp_all [candidateAt, offRoad]
  cases hoffsets with
  | inl h => exact ⟨10 * 10 ^ 6, by rw [h]; norm_num⟩
  | inr h => exact ⟨30 * 10 ^ 6, by rw [h]; norm_num⟩

theorem decoderInput_valid : decoderInput.Valid :=
  validateDecoderInput_eq_ok_iff.mp (by decide +kernel)

/-- A beam of two sequences with the given totals. -/
def stateWith (bestTotal runnerTotal : ℚ) : BeamState where
  beam := [.extended (.initial 0 0 0) 0 bestTotal 0, .extended (.initial 1 0 0) 1 runnerTotal 1]
  retained := [2, 2]
  rejected := [0, 0]
  pruned := [0, 0]

theorem stateWith_full (bestTotal runnerTotal : ℚ) :
    FullState decoderInput (stateWith bestTotal runnerTotal) where
  nonempty := List.cons_ne_nil _ _
  depth := by simp [stateWith, Hypothesis.observationIndex, decoderInput]
  retained := rfl
  rejected := rfl
  pruned := rfl

def resultWith (bestTotal runnerTotal : ℚ) : DecodeResult :=
  resultOfHypotheses math decoderInput (stateWith bestTotal runnerTotal)
    (.extended (.initial 0 0 0) 0 bestTotal 0) (some (.extended (.initial 1 0 0) 1 runnerTotal 1))

/-- The totals of long sequences. -/
def longBest : ℚ := nearestDouble (-70000)

def longRunner : ℚ := nearestDouble (-70017718488265135 / 10 ^ 12)

/-- The intervals of the decoded road. -/
theorem intervals_partition_road :
    ∃ result, decodeCandidateBatches math decoderInput = .ok result ∧
      Consecutive 0 2 (result.intervals.map DecodedInterval.range) := by
  cases hresult : decodeCandidateBatches math decoderInput with
  | error failure =>
    have hok : (decodeCandidateBatches math decoderInput).isOk = true := by decide +kernel
    rw [hresult] at hok
    cases hok
  | ok result =>
    obtain ⟨-, hconsecutive, -⟩ := intervals_partition math hresult
    exact ⟨result, rfl, hconsecutive⟩

end LoopRoad

end CartoSentry.Matching
