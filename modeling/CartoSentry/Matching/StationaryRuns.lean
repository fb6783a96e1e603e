import CartoSentry.Foundation.MaximalRuns
import CartoSentry.Matching.DecodedIntervals

set_option autoImplicit false

/-!
# Road matching: stationary runs

The flags of `stationary_flags` mark the maximal runs of slow observations that are long
enough and stay near their first position.
-/

namespace CartoSentry.Matching

open Foundation (IsMaximalRun isMaximalRun_append_iff isMaximalRun_takeWhile any_head?_dropWhile
  lt_length_of_any)

/-- The observations of a range. -/
def observationsIn (observations : List Observation) (start stop : Nat) : List Observation :=
  (observations.take stop).drop start

variable (math : NativeMath) (input : DecoderInput)

/-- A maximal run of slow observations that is a stop: long enough, and near its first
position. -/
structure IsStop (observations : List Observation) (start stop : Nat) : Prop where
  slow : IsMaximalRun (fun observation => decide (observation.speed ≤
    input.decoderParameters.stationarySpeedThreshold)) observations start stop
  long : input.decoderParameters.stationaryMinimumObservations ≤ stop - start
  near : ∀ first ∈ observations[start]?, ∀ observation ∈ observationsIn observations start stop,
    distanceBetween math first.position observation.position ≤
      input.decoderParameters.stationaryPositionTolerance

variable {math input}

theorem observationsIn_append_add (front rest : List Observation) (start stop : Nat) :
    observationsIn (front ++ rest) (front.length + start) (front.length + stop) =
      observationsIn rest start stop := by
  unfold observationsIn
  rw [List.take_length_add_append, List.drop_length_add_append]

/-- A stop of the observations behind a cut is a stop of all of them. -/
theorem isStop_append_iff {front rest : List Observation} {start stop : Nat}
    (hcut : (front.getLast?).any (isSlow input) = false ∨
      (rest.head?).any (isSlow input) = false) :
    IsStop math input (front ++ rest) (front.length + start) (front.length + stop) ↔
      IsStop math input rest start stop := by
  have hslow : IsMaximalRun (isSlow input) (front ++ rest) (front.length + start)
      (front.length + stop) ↔ IsMaximalRun (isSlow input) rest start stop :=
    isMaximalRun_append_iff hcut
  constructor
  · intro h
    refine ⟨hslow.mp h.slow, by have := h.long; omega, ?_⟩
    have hnear := h.near
    rwa [observationsIn_append_add, Foundation.getElem?_append_add] at hnear
  · intro h
    refine ⟨hslow.mpr h.slow, by have := h.long; omega, ?_⟩
    rw [observationsIn_append_add, Foundation.getElem?_append_add]
    exact h.near

/-- The run that the loop takes is a stop where it is flagged. -/
theorem isStop_takeWhile_iff {observation : Observation} {rest : List Observation}
    (hslow : isSlow input observation = true) :
    IsStop math input (observation :: rest) 0
        ((observation :: rest).takeWhile (isSlow input)).length ↔
      stationaryRun math input ((observation :: rest).takeWhile (isSlow input)) = true := by
  have hin : observationsIn (observation :: rest) 0
      ((observation :: rest).takeWhile (isSlow input)).length =
        (observation :: rest).takeWhile (isSlow input) :=
    (List.prefix_iff_eq_take.mp (List.takeWhile_prefix (isSlow input))).symm
  have hmaximal : IsMaximalRun (isSlow input) (observation :: rest) 0
      ((observation :: rest).takeWhile (isSlow input)).length := isMaximalRun_takeWhile hslow
  have hrun : (observation :: rest).takeWhile (isSlow input) =
      observation :: rest.takeWhile (isSlow input) := List.takeWhile_cons_of_pos hslow
  constructor
  · intro h
    have hnear := h.near observation rfl
    rw [hin, hrun] at hnear
    have hlong := h.long
    rw [hrun] at hlong ⊢
    rw [stationaryRun, Bool.and_eq_true, List.all_eq_true, decide_eq_true_eq]
    exact ⟨fun other hmem => decide_eq_true (hnear other hmem), hlong⟩
  · intro h
    rw [hrun, stationaryRun, Bool.and_eq_true, List.all_eq_true, decide_eq_true_eq] at h
    refine ⟨hmaximal, ?_, fun first hfirst other hmem => ?_⟩
    · rw [hrun]
      exact h.2
    · obtain rfl := Option.some.inj hfirst
      rw [hin, hrun] at hmem
      exact of_decide_eq_true (h.1 other hmem)

theorem length_run_pos {observation : Observation} {rest : List Observation}
    (hslow : isSlow input observation = true) :
    0 < ((observation :: rest).takeWhile (isSlow input)).length := by
  rw [List.takeWhile_cons_of_pos hslow]
  exact Nat.zero_lt_succ _

/-- Where the stops around a place behind a cut start behind the cut, they are those of the
observations behind it. -/
theorem exists_stop_behind_iff {front rest : List Observation} {place index : Nat}
    (hcut : (front.getLast?).any (isSlow input) = false ∨
      (rest.head?).any (isSlow input) = false)
    (hindex : index = front.length + place) (hbehind : ∀ start stop, start ≤ index → index < stop →
      IsStop math input (front ++ rest) start stop → front.length ≤ start) :
    (∃ start stop, start ≤ place ∧ place < stop ∧ IsStop math input rest start stop) ↔
      ∃ start stop, start ≤ index ∧ index < stop ∧
        IsStop math input (front ++ rest) start stop := by
  constructor
  · rintro ⟨start, stop, hstart, hstop, h⟩
    exact ⟨front.length + start, front.length + stop, by omega, by omega,
      (isStop_append_iff hcut).mpr h⟩
  · rintro ⟨start, stop, hstart, hstop, h⟩
    have hle := hbehind start stop hstart hstop h
    obtain ⟨first, rfl⟩ := Nat.exists_eq_add_of_le hle
    obtain ⟨last, rfl⟩ := Nat.exists_eq_add_of_le (show front.length ≤ stop by omega)
    exact ⟨first, last, by omega, by omega, (isStop_append_iff hcut).mp h⟩

/-- The flags of a run, with those of the observations behind it given. -/
theorem flags_run_iff {observation : Observation} {rest : List Observation} {flags : List Bool}
    (hslow : isSlow input observation = true)
    (hflags : ∀ place, flags[place]? = some true ↔ ∃ start stop, start ≤ place ∧ place < stop ∧
      IsStop math input ((observation :: rest).drop
        ((observation :: rest).takeWhile (isSlow input)).length) start stop) (index : Nat) :
    (List.replicate ((observation :: rest).takeWhile (isSlow input)).length
        (stationaryRun math input ((observation :: rest).takeWhile (isSlow input))) ++
          flags)[index]? = some true ↔
      ∃ start stop, start ≤ index ∧ index < stop ∧
        IsStop math input (observation :: rest) start stop := by
  have hmaximal : IsMaximalRun (isSlow input) (observation :: rest) 0
      ((observation :: rest).takeWhile (isSlow input)).length := isMaximalRun_takeWhile hslow
  have hstop : IsStop math input (observation :: rest) 0 _ ↔ _ := isStop_takeWhile_iff hslow
  have hsplit := List.takeWhile_append_dropWhile (p := isSlow input) (l := observation :: rest)
  have hafter := any_head?_dropWhile (isSlow input) (observation :: rest)
  have hdrop : (observation :: rest).drop
      ((observation :: rest).takeWhile (isSlow input)).length =
        (observation :: rest).dropWhile (isSlow input) := by
    have hbehind := congrArg (List.drop
      ((observation :: rest).takeWhile (isSlow input)).length) hsplit
    rw [List.drop_left] at hbehind
    exact hbehind.symm
  rw [hdrop] at hflags
  generalize (observation :: rest).takeWhile (isSlow input) = run at *
  generalize (observation :: rest).dropWhile (isSlow input) = after at *
  by_cases hinside : index < run.length
  · rw [List.getElem?_append_left (by rwa [List.length_replicate]),
      List.getElem?_replicate_of_lt hinside, Option.some.injEq, ← hstop]
    constructor
    · intro h
      exact ⟨0, run.length, Nat.zero_le _, hinside, h⟩
    · rintro ⟨start, stop, hle, hlt, h⟩
      obtain ⟨rfl, rfl⟩ := h.slow.unique hmaximal ⟨hle, hlt⟩ ⟨Nat.zero_le _, hinside⟩
      exact h
  · obtain ⟨place, rfl⟩ := Nat.exists_eq_add_of_le (not_lt.mp hinside)
    have hlength : (List.replicate run.length (stationaryRun math input run)).length =
        run.length := List.length_replicate
    have hplace := Foundation.getElem?_append_add
      (List.replicate run.length (stationaryRun math input run)) flags place
    rw [hlength] at hplace
    rw [hplace, hflags place, ← hsplit]
    refine exists_stop_behind_iff (.inr hafter) rfl fun start stop hle hlt h => ?_
    by_contra hbefore
    rw [hsplit] at h
    obtain ⟨-, rfl⟩ := h.slow.unique hmaximal ⟨le_rfl, h.slow.nonempty⟩
      ⟨Nat.zero_le start, by omega⟩
    omega

/-- A flag is set inside of a stop. -/
theorem stationaryFrom_iff {fuel : Nat} {observations : List Observation}
    (hfuel : observations.length ≤ fuel) (index : Nat) :
    (stationaryFrom math input fuel observations)[index]? = some true ↔
      ∃ start stop, start ≤ index ∧ index < stop ∧ IsStop math input observations start stop := by
  induction fuel generalizing observations index with
  | zero =>
    obtain rfl := List.length_eq_zero_iff.mp (Nat.le_zero.mp hfuel)
    constructor
    · intro h
      cases h
    · rintro ⟨start, stop, hstart, hstop, h⟩
      exact absurd (lt_length_of_any (h.slow.passes index hstart hstop)) (Nat.not_lt_zero _)
  | succ fuel ih =>
    cases observations with
    | nil =>
      constructor
      · intro h
        cases h
      · rintro ⟨start, stop, hstart, hstop, h⟩
        exact absurd (lt_length_of_any (h.slow.passes index hstart hstop)) (Nat.not_lt_zero _)
    | cons observation rest =>
      rw [List.length_cons] at hfuel
      rw [stationaryFrom]
      split_ifs with hslow
      · have hpos : 0 < ((observation :: rest).takeWhile (isSlow input)).length :=
          length_run_pos hslow
        have hless : ((observation :: rest).drop
            ((observation :: rest).takeWhile (isSlow input)).length).length ≤ fuel := by
          rw [List.length_drop, List.length_cons]
          omega
        exact flags_run_iff hslow (ih hless) index
      · cases index with
        | zero =>
          constructor
          · intro h
            cases h
          · rintro ⟨start, stop, hstart, hstop, h⟩
            exact absurd (h.slow.passes 0 hstart hstop) hslow
        | succ place =>
          rw [List.getElem?_cons_succ, ih (by omega) place]
          have hcut : (([observation] : List Observation).getLast?).any (isSlow input) = false :=
            Bool.eq_false_iff.mpr hslow
          refine exists_stop_behind_iff (.inl hcut) (Nat.add_comm place 1) ?_
          intro start stop hstart hstop h
          refine Nat.pos_of_ne_zero fun hzero => ?_
          exact absurd (h.slow.passes 0 hzero.le (by omega)) hslow

/-- The flags mark the stops. -/
theorem stationary_flags_exact (math : NativeMath) (input : DecoderInput) :
    (stationaryFlags math input).length = input.observations.length ∧
      ∀ index, (stationaryFlags math input)[index]? = some true ↔
        ∃ start stop, start ≤ index ∧ index < stop ∧
          IsStop math input input.observations start stop :=
  ⟨length_stationaryFlags, fun index => stationaryFrom_iff le_rfl index⟩

end CartoSentry.Matching
