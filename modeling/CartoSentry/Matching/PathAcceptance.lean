import CartoSentry.Foundation.Outcome
import CartoSentry.Matching.DecodedRoadPath

set_option autoImplicit false

/-!
# Road matching: which native results the Python model accepts

The wrapper's points and intervals pass every check of the model but two: the
separation and the usable distances, which the model rounds in its own way.
-/

namespace CartoSentry.Matching

open Foundation (IsRun Consecutive bind_unit_eq_ok_iff bind_eq_ok_iff)

/-! ## Points -/

/-- The Python point says of an observation what the native point says. -/
structure DecodedMatchPoint.Matches (separation : Option ℚ) (point : DecodedPoint)
    (matched : DecodedMatchPoint) : Prop where
  candidate : matched.candidate = point.candidate
  stationary : matched.stationary = point.stationary
  confidence : matched.confidence = confidenceOf point.ambiguous
  runner : matched.runnerUpCandidateId =
    if point.differs then point.runner.map Candidate.candidateId else none
  separation : matched.pathSeparation = if point.differs then separation else none

/-- What the wrapper relies on at each point. -/
structure DecodedPoint.Consistent (separation : Option ℚ) (ambiguous : Bool)
    (point : DecodedPoint) : Prop where
  ambiguous : point.ambiguous = (ambiguous && point.differs)
  separated : point.differs = true → separation.isSome = true
  offset : point.candidate.arcIndex.isSome = true →
    ∃ offset, point.candidate.alongArcOffset = some offset ∧ 0 ≤ offset

theorem DecodedPoint.runner_of_differs {point : DecodedPoint} (h : point.differs = true) :
    ∃ runner, point.runner = some runner := by
  unfold differs at h
  cases hrunner : point.runner with
  | none =>
    rw [hrunner] at h
    cases h
  | some runner => exact ⟨runner, rfl⟩

theorem matchedPoint_matches (separation : Option ℚ) (index : Nat) (observation : Observation)
    (point : DecodedPoint) :
    (matchedPoint separation index observation point).Matches separation point :=
  ⟨rfl, rfl, rfl, rfl, rfl⟩

section Points

variable {separation : Option ℚ} {ambiguous : Bool}
  (hnonneg : ∀ value ∈ separation, 0 ≤ value)

include hnonneg

theorem matchPoint_ok {point : DecodedPoint} (hpoint : point.Consistent separation ambiguous)
    (index : Nat) (observation : Observation) :
    ∃ matched, matchPoint separation ambiguous index observation point = .ok matched ∧
      matched.Matches separation point ∧ matched.observation = observation ∧
        matched.observationIndex = index := by
  refine ⟨matchedPoint separation index observation point, ?_,
    matchedPoint_matches separation index observation point, rfl, rfl⟩
  have hmatches := matchedPoint_matches separation index observation point
  unfold matchPoint DecodedMatchPoint.validate
  rw [bind_unit_eq_ok_iff, raiseIf_eq_ok_iff, not_not]
  refine ⟨hpoint.ambiguous, ?_⟩
  rw [bind_unit_eq_ok_iff, bind_unit_eq_ok_iff, raiseIf_eq_ok_iff, raiseIf_eq_ok_iff]
  refine ⟨⟨?_, ?_⟩, rfl⟩
  · intro ⟨value, hvalue, hnegative⟩
    rw [hmatches.separation] at hvalue
    by_cases hdiffers : point.differs = true
    · rw [if_pos hdiffers] at hvalue
      have hpositive := hnonneg value hvalue
      linarith
    · rw [if_neg hdiffers] at hvalue
      cases hvalue
  · intro ⟨hconfidence, hmissing⟩
    have hambiguous : point.ambiguous = true := by
      by_contra hconfident
      rw [Bool.not_eq_true] at hconfident
      rw [hmatches.confidence, hconfident] at hconfidence
      cases hconfidence
    have hdiffers : point.differs = true := by
      rw [hpoint.ambiguous, Bool.and_eq_true] at hambiguous
      exact hambiguous.2
    obtain ⟨runner, hrunner⟩ := DecodedPoint.runner_of_differs hdiffers
    rw [hmatches.runner, hmatches.separation, if_pos hdiffers, if_pos hdiffers, hrunner] at hmissing
    have hseparated := hpoint.separated hdiffers
    cases hmissing with
    | inl hnone => cases hnone
    | inr hnone =>
      rw [hnone] at hseparated
      cases hseparated

theorem matchPoints_ok {observations : List Observation} {points : List DecodedPoint}
    (hlength : points.length = observations.length)
    (hpoints : ∀ point ∈ points, point.Consistent separation ambiguous) (index : Nat) :
    ∃ matched, matchPoints separation ambiguous index observations points = .ok matched ∧
      List.Forall₂ (DecodedMatchPoint.Matches separation) points matched ∧
      matched.map DecodedMatchPoint.observation = observations ∧
      matched.map DecodedMatchPoint.observationIndex = List.range' index points.length := by
  induction points generalizing observations index with
  | nil =>
    obtain rfl := List.length_eq_zero_iff.mp hlength.symm
    exact ⟨[], rfl, .nil, rfl, rfl⟩
  | cons point points ih =>
    obtain ⟨observation, observations, rfl⟩ :=
      List.exists_cons_of_length_eq_add_one hlength.symm
    obtain ⟨matched, hmatched, hmatches, hobservation, hindex⟩ :=
      matchPoint_ok hnonneg (hpoints point List.mem_cons_self) index observation
    obtain ⟨rest, hrest, hall, hobservations, hindices⟩ := ih (by simpa using hlength)
      (fun other hother => hpoints other (List.mem_cons_of_mem _ hother)) (index + 1)
    refine ⟨matched :: rest, ?_, .cons hmatches hall, ?_, ?_⟩
    · rw [matchPoints, hmatched, hrest]
      rfl
    · rw [List.map_cons, hobservation, hobservations]
    · rw [List.map_cons, hindex, hindices, List.length_cons, List.range'_succ]

end Points

/-! ## One interval -/

theorem DecodedMatchPoint.Matches.directedArcId {graph : Graph} {separation : Option ℚ}
    {point : DecodedPoint} {matched : DecodedMatchPoint} (h : matched.Matches separation point) :
    matched.directedArcId graph =
      point.candidate.arcIndex.map fun arcIndex => (graph.arc arcIndex).arcId := by
  unfold DecodedMatchPoint.directedArcId candidateToPython
  rw [h.candidate]
  cases point.candidate.arcIndex <;> rfl

theorem DecodedMatchPoint.Matches.alongArcOffset {graph : Graph} {separation : Option ℚ}
    {point : DecodedPoint} {matched : DecodedMatchPoint} (h : matched.Matches separation point) :
    matched.alongArcOffset graph =
      if point.candidate.arcIndex.isSome then point.candidate.alongArcOffset else none := by
  unfold DecodedMatchPoint.alongArcOffset candidateToPython
  rw [h.candidate]
  cases point.candidate.arcIndex <;> rfl

theorem DecodedMatchPoint.Matches.supportKey_eq {graph : Graph} {separation : Option ℚ}
    {left right : DecodedPoint} {first second : DecodedMatchPoint}
    (hleft : first.Matches separation left) (hright : second.Matches separation right)
    (hkey : left.key = right.key) : first.supportKey graph = second.supportKey graph := by
  simp only [DecodedPoint.key, Prod.mk.injEq] at hkey
  obtain ⟨harc, hstationary, hambiguous⟩ := hkey
  rw [DecodedMatchPoint.supportKey, DecodedMatchPoint.supportKey, hleft.directedArcId,
    hright.directedArcId, hleft.stationary, hright.stationary, hleft.confidence,
    hright.confidence, harc, hstationary, hambiguous]

section Support

variable {graph : Graph} {separation : Option ℚ} {run : List DecodedPoint}
  {support : List DecodedMatchPoint}
  (hmatches : List.Forall₂ (DecodedMatchPoint.Matches separation) run support)

include hmatches

/-- The changes of the offsets are those the native loop adds up. -/
theorem offsetChanges_eq (honRoad : ∀ point ∈ run, point.candidate.arcIndex.isSome = true) :
    offsetChanges graph support = travelledAlong run := by
  induction hmatches with
  | nil => rfl
  | cons hfirst hrest ih =>
    cases hrest with
    | nil => rfl
    | cons hsecond hrest =>
      have hleft := honRoad _ List.mem_cons_self
      have hright := honRoad _ (List.mem_cons_of_mem _ List.mem_cons_self)
      rw [offsetChanges, travelledAlong, ih fun point hpoint =>
        honRoad point (List.mem_cons_of_mem _ hpoint), hfirst.alongArcOffset,
        hsecond.alongArcOffset, if_pos hleft, if_pos hright]

/-- The least separation of the points is the one of the path, where points differ. -/
theorem separations_min?
    (hseparated : ∀ point ∈ run, point.differs = true → separation.isSome = true) :
    (support.filterMap DecodedMatchPoint.pathSeparation).min? =
      if run.any DecodedPoint.differs then separation else none := by
  have hall : ∀ value ∈ support.filterMap DecodedMatchPoint.pathSeparation,
      separation = some value := by
    intro value hvalue
    obtain ⟨matched, hmatched, hvalue⟩ := List.mem_filterMap.mp hvalue
    obtain ⟨point, _, hpoint⟩ := Foundation.exists_left_of_mem hmatches hmatched
    rw [hpoint.separation] at hvalue
    split_ifs at hvalue
    exact hvalue
  by_cases hany : run.any DecodedPoint.differs = true
  · obtain ⟨point, hpoint, hdiffers⟩ := List.any_eq_true.mp hany
    obtain ⟨value, hvalue⟩ := Option.isSome_iff_exists.mp (hseparated point hpoint hdiffers)
    obtain ⟨matched, hmatched, hmatch⟩ := Foundation.exists_right_of_mem hmatches hpoint
    rw [if_pos hany, hvalue, List.min?_eq_some_iff]
    constructor
    · apply List.mem_filterMap.mpr
      refine ⟨matched, hmatched, ?_⟩
      rw [hmatch.separation, if_pos hdiffers, hvalue]
    · intro other hother
      exact (Option.some.inj (hvalue.symm.trans (hall other hother))).le
  · rw [if_neg hany]
    have hnone : support.filterMap DecodedMatchPoint.pathSeparation = [] := by
      apply List.filterMap_eq_nil_iff.mpr
      intro matched hmatched
      obtain ⟨point, hpoint, hmatch⟩ := Foundation.exists_left_of_mem hmatches hmatched
      rw [hmatch.separation, if_neg]
      intro hdiffers
      exact hany (List.any_eq_true.mpr ⟨point, hpoint, hdiffers⟩)
    rw [hnone, List.min?_nil]

end Support

theorem DecodedMatchPoint.Matches.offset_nonneg {graph : Graph} {separation : Option ℚ}
    {ambiguous : Bool} {point : DecodedPoint} {matched : DecodedMatchPoint}
    (h : matched.Matches separation point) (hpoint : point.Consistent separation ambiguous) :
    ¬ ∃ offset ∈ matched.alongArcOffset graph, offset < 0 := by
  intro ⟨offset, hoffset, hnegative⟩
  rw [h.alongArcOffset] at hoffset
  split_ifs at hoffset with hroad
  · obtain ⟨value, hvalue, hpositive⟩ := hpoint.offset hroad
    rw [hvalue] at hoffset
    obtain rfl := Option.some.inj hoffset
    linarith
  · cases hoffset

/-- A point has an offset exactly where it has an arc. -/
theorem DecodedMatchPoint.Matches.offset_eq_none_iff {separation : Option ℚ} {ambiguous : Bool}
    {point : DecodedPoint} {matched : DecodedMatchPoint} (h : matched.Matches separation point)
    (graph : Graph) (hpoint : point.Consistent separation ambiguous) :
    matched.alongArcOffset graph = none ↔ matched.directedArcId graph = none := by
  rw [h.alongArcOffset, h.directedArcId, Option.map_eq_none_iff]
  split_ifs with hroad
  · obtain ⟨value, hvalue, _⟩ := hpoint.offset hroad
    rw [hvalue]
    constructor
    · intro hnone
      cases hnone
    · intro hnone
      rw [hnone] at hroad
      cases hroad
  · rw [Option.not_isSome_iff_eq_none] at hroad
    simp [hroad]

theorem intervalOf_usableDistance_nonneg (separation : Option ℚ) (cursor : Nat)
    (first : DecodedPoint) (run : List DecodedPoint) :
    0 ≤ (intervalOf separation cursor first run).usableDistance := by
  rw [intervalOf_usableDistance]
  split_ifs
  · exact le_rfl
  · exact roundTo_nonneg (travelledAlong_nonneg run) 6

theorem mem_of_intervalOf_pathSeparation {separation : Option ℚ} {cursor : Nat}
    {first : DecodedPoint} {run : List DecodedPoint} {value : ℚ}
    (h : value ∈ (intervalOf separation cursor first run).pathSeparation) :
    value ∈ separation := by
  unfold intervalOf at h
  dsimp only at h
  split_ifs at h with hany
  · exact h
  · cases h

theorem ambiguous_of_confidenceOf {ambiguous : Bool} (h : confidenceOf ambiguous = .ambiguous) :
    ambiguous = true := by
  cases ambiguous with
  | false => cases h
  | true => rfl

theorem head_le_getLast {times : List Int} (hsorted : times.Pairwise (· < ·)) {first last : Int}
    (hfirst : times.head? = some first) (hlast : times.getLast? = some last) : first ≤ last := by
  obtain ⟨rest, rfl⟩ := List.head?_eq_some_iff.mp hfirst
  have hmem := List.mem_of_getLast? hlast
  cases hmem with
  | head => exact le_rfl
  | tail _ hlater => exact ((List.pairwise_cons.mp hsorted).1 last hlater).le

/-! ## The interval of a run -/

/-- A run of the points of a path, with its Python points. -/
structure RunSupport (separation : Option ℚ) (points : List DecodedPoint)
    (matched : List DecodedMatchPoint) (front run : List DecodedPoint) (first : DecodedPoint)
    (support : List DecodedMatchPoint) : Prop where
  slice : support = supportOf matched front.length (front.length + run.length)
  bound : front.length + run.length ≤ matched.length
  head : run.head? = some first
  keys : ∀ point ∈ run, point.key = first.key
  pairs : List.Forall₂ (DecodedMatchPoint.Matches separation) run support

theorem runSupport_of_isRun {separation : Option ℚ} {points : List DecodedPoint}
    {matched : List DecodedMatchPoint}
    (hmatches : List.Forall₂ (DecodedMatchPoint.Matches separation) points matched)
    {front back tail : List DecodedPoint} {first : DecodedPoint}
    (hpoints : points = front ++ (first :: tail) ++ back)
    (hrun : IsRun DecodedPoint.key front (first :: tail) back) :
    RunSupport separation points matched front (first :: tail) first
      (supportOf matched front.length (front.length + (first :: tail).length)) where
  slice := rfl
  bound := by
    rw [← hmatches.length_eq, hpoints, List.length_append, List.length_append]
    omega
  head := rfl
  keys point hpoint := hrun.constant point hpoint first List.mem_cons_self
  pairs := by
    have hslice := (List.forall₂_take (first :: tail).length
      (List.forall₂_drop front.length hmatches))
    rw [hpoints, List.append_assoc, List.drop_left, List.take_left] at hslice
    rw [supportOf, Nat.add_sub_cancel_left]
    exact hslice

section Run

variable {graph : Graph} {separation : Option ℚ} {ambiguous : Bool} {points : List DecodedPoint}
  {matched : List DecodedMatchPoint} {front run : List DecodedPoint} {first : DecodedPoint}
  {support : List DecodedMatchPoint}
  (hsupport : RunSupport separation points matched front run first support)

include hsupport

/-- The ends of the support are Python points of the run. -/
theorem RunSupport.ends : ∃ head last, support.head? = some head ∧ support.getLast? = some last ∧
    head.Matches separation first ∧ ∃ point ∈ run, last.Matches separation point := by
  obtain ⟨tail, hrun⟩ := List.head?_eq_some_iff.mp hsupport.head
  have hpairs := hsupport.pairs
  rw [hrun] at hpairs
  cases hcase : support with
  | nil =>
    rw [hcase] at hpairs
    cases hpairs
  | cons head rest =>
    rw [hcase] at hpairs
    have hlast : (head :: rest).getLast (List.cons_ne_nil _ _) ∈ head :: rest :=
      List.getLast_mem _
    obtain ⟨point, hpoint, hmatch⟩ := Foundation.exists_left_of_mem hpairs hlast
    cases hpairs with
    | cons hhead hrest =>
      refine ⟨head, _, rfl, List.getLast?_eq_some_getLast (List.cons_ne_nil _ _), hhead, point, ?_,
        hmatch⟩
      rw [hrun]
      exact hpoint

theorem RunSupport.length_eq : support.length = run.length :=
  hsupport.pairs.length_eq.symm

theorem RunSupport.length_pos : 0 < run.length := by
  obtain ⟨tail, hrun⟩ := List.head?_eq_some_iff.mp hsupport.head
  rw [hrun, List.length_cons]
  omega

/-- Every point of the support has the key of the first. -/
theorem RunSupport.supportKey_eq {head : DecodedMatchPoint}
    (hhead : head.Matches separation first) {other : DecodedMatchPoint}
    (hother : other ∈ support) : other.supportKey graph = head.supportKey graph := by
  obtain ⟨point, hpoint, hmatch⟩ := Foundation.exists_left_of_mem hsupport.pairs hother
  exact hmatch.supportKey_eq hhead (hsupport.keys point hpoint)

theorem RunSupport.arcIndex_eq {point : DecodedPoint} (hpoint : point ∈ run) :
    point.candidate.arcIndex = first.candidate.arcIndex :=
  congrArg Prod.fst (hsupport.keys point hpoint)

/-- The Python distance is the rounding of the one the native loop adds up. -/
theorem RunSupport.recomputedDistance_eq {head : DecodedMatchPoint}
    (hhead : head.Matches separation first) :
    recomputedDistance graph head support =
      if first.addsNothing then 0 else pythonRound (travelledAlong run) 6 := by
  have hroad : head.directedArcId graph ≠ none ↔ first.candidate.offMap = false := by
    rw [hhead.directedArcId, Candidate.offMap]
    cases first.candidate.arcIndex <;> simp
  have hconfident : head.confidence = .confident ↔ first.ambiguous = false := by
    rw [hhead.confidence, confidenceOf]
    cases first.ambiguous <;> simp
  have hcounts : (head.directedArcId graph ≠ none ∧ head.stationary = false ∧
      head.confidence = .confident) ↔ first.addsNothing = false := by
    rw [hroad, hconfident, hhead.stationary, DecodedPoint.addsNothing, Bool.or_eq_false_iff,
      Bool.or_eq_false_iff, and_assoc]
  unfold recomputedDistance
  by_cases hadds : first.addsNothing = true
  · rw [if_pos hadds, if_neg]
    rw [hcounts, hadds]
    decide
  · rw [if_neg hadds]
    rw [Bool.not_eq_true] at hadds
    rw [if_pos (hcounts.mpr hadds), offsetChanges_eq hsupport.pairs]
    intro point hpoint
    rw [DecodedPoint.addsNothing, Bool.or_eq_false_iff, Bool.or_eq_false_iff, Candidate.offMap,
      Option.isNone_eq_false_iff] at hadds
    rw [hsupport.arcIndex_eq hpoint]
    exact hadds.1.1

/-- The interval of a run passes its own validation. -/
theorem validate_matchedInterval (hnonneg : ∀ value ∈ separation, 0 ≤ value)
    (hconsistent : ∀ point ∈ run, point.Consistent separation ambiguous)
    (htimes : (matched.map fun point => point.observation.timeNs).Pairwise (· < ·))
    {head last : DecodedMatchPoint} (hhead : support.head? = some head)
    (hlast : support.getLast? = some last) (hfirst : head.Matches separation first) :
    (matchedInterval graph (intervalOf separation front.length first run) head last
      support).validate = .ok () := by
  have hheadMem : head ∈ support := List.mem_of_head? hhead
  have hlastMem : last ∈ support := List.mem_of_getLast? hlast
  obtain ⟨start, hstart, hstartMatch⟩ := Foundation.exists_left_of_mem hsupport.pairs hheadMem
  obtain ⟨point, hpoint, hmatch⟩ := Foundation.exists_left_of_mem hsupport.pairs hlastMem
  have hsame : last.directedArcId graph = head.directedArcId graph :=
    congrArg Prod.fst (hsupport.supportKey_eq hfirst hlastMem)
  have hheadOffset := hstartMatch.offset_eq_none_iff graph (hconsistent start hstart)
  have hlastOffset := hmatch.offset_eq_none_iff graph (hconsistent point hpoint)
  rw [hsame] at hlastOffset
  have hsorted : (support.map fun point => point.observation.timeNs).Pairwise (· < ·) := by
    rw [hsupport.slice, supportOf]
    exact htimes.sublist (((List.take_sublist _ _).trans (List.drop_sublist _ _)).map _)
  unfold MatchedRoadInterval.validate
  rw [bind_unit_eq_ok_iff, bind_unit_eq_ok_iff, bind_unit_eq_ok_iff, bind_unit_eq_ok_iff]
  simp only [raiseIf_eq_ok_iff]
  refine ⟨?_, ?_, ?_, ?_, ?_⟩
  · rw [not_or, not_or, not_or, not_lt]
    refine ⟨hstartMatch.offset_nonneg (hconsistent start hstart),
      hmatch.offset_nonneg (hconsistent point hpoint), ?_,
      intervalOf_usableDistance_nonneg separation front.length first run⟩
    rintro ⟨value, hvalue, hnegative⟩
    have hcarried : value ∈ (intervalOf separation front.length first run).pathSeparation := hvalue
    have hpositive := hnonneg value (mem_of_intervalOf_pathSeparation hcarried)
    linarith
  · rw [not_or, not_or, not_not, not_not, not_lt]
    refine ⟨?_, ?_, ?_⟩
    · show front.length + run.length - front.length = support.length
      rw [hsupport.length_eq, Nat.add_sub_cancel_left]
    · exact List.length_map _
    · have hheadTime : (support.map fun point => point.observation.timeNs).head? =
          some head.observation.timeNs := by rw [List.head?_map, hhead, Option.map_some]
      have hlastTime : (support.map fun point => point.observation.timeNs).getLast? =
          some last.observation.timeNs := by rw [List.getLast?_map, hlast, Option.map_some]
      exact head_le_getLast hsorted hheadTime hlastTime
  · rintro ⟨hoff, hcoverage⟩
    have hnothing : first.addsNothing = true := by
      have hnone : head.directedArcId graph = none := hoff
      rw [hfirst.directedArcId, Option.map_eq_none_iff] at hnone
      rw [DecodedPoint.addsNothing, Candidate.offMap, hnone]
      rfl
    rcases hcoverage with h | h | h
    · exact h (hheadOffset.mpr hoff)
    · exact h (hlastOffset.mpr hoff)
    · apply h
      show (intervalOf separation front.length first run).usableDistance = 0
      rw [intervalOf_usableDistance, if_pos hnothing]
  · rintro ⟨hroad, hmissing⟩
    cases hmissing with
    | inl h => exact hroad (hheadOffset.mp h)
    | inr h => exact hroad (hlastOffset.mp h)
  · rintro ⟨hstill, hcoverage⟩
    apply hcoverage
    show (intervalOf separation front.length first run).usableDistance = 0
    rw [intervalOf_usableDistance, if_pos]
    have hflags : head.stationary = true ∨ head.confidence = .ambiguous := hstill
    rw [hfirst.stationary, hfirst.confidence] at hflags
    rw [DecodedPoint.addsNothing, Bool.or_eq_true, Bool.or_eq_true]
    cases hflags with
    | inl h => exact Or.inl (Or.inr h)
    | inr h => exact Or.inr (ambiguous_of_confidenceOf h)

variable (graph) in
/-- The wrapper makes the interval of a run. -/
theorem matchInterval_ok (hnonneg : ∀ value ∈ separation, 0 ≤ value)
    (hconsistent : ∀ point ∈ run, point.Consistent separation ambiguous)
    (htimes : (matched.map fun point => point.observation.timeNs).Pairwise (· < ·))
    {head last : DecodedMatchPoint} (hhead : support.head? = some head)
    (hlast : support.getLast? = some last) (hfirst : head.Matches separation first) :
    matchInterval graph matched (intervalOf separation front.length first run) =
      .ok (matchedInterval graph (intervalOf separation front.length first run) head last
        support) := by
  have hpos := hsupport.length_pos
  have hslice : supportOf matched
      (intervalOf separation front.length first run).startObservationIndex
      (intervalOf separation front.length first run).endObservationIndexExclusive = support :=
    hsupport.slice.symm
  unfold matchInterval
  rw [bind_unit_eq_ok_iff, raiseIf_eq_ok_iff, not_not]
  refine ⟨⟨?_, hsupport.bound⟩, ?_⟩
  · show front.length < front.length + run.length
    omega
  · rw [hslice]
    dsimp only
    rw [hhead, hlast]
    dsimp only
    rw [bind_unit_eq_ok_iff]
    exact ⟨validate_matchedInterval hsupport hnonneg hconsistent htimes hhead hlast hfirst, rfl⟩

variable (graph) in
/-- `validate_path` accepts the interval of a run exactly at its place and where the
roundings of its distance agree. -/
theorem checkInterval_ok_iff
    (hconsistent : ∀ point ∈ run, point.Consistent separation ambiguous)
    {head last : DecodedMatchPoint} (hhead : support.head? = some head)
    (hlast : support.getLast? = some last) (hfirst : head.Matches separation first)
    (cursor : Nat) :
    checkInterval graph matched cursor
        (matchedInterval graph (intervalOf separation front.length first run) head last
          support) = .ok () ↔
      cursor = front.length ∧
        (intervalOf separation front.length first run).usableDistance =
          recomputedDistance graph head support := by
  have hslice : supportOf matched
      (matchedInterval graph (intervalOf separation front.length first run) head last
        support).startObservationIndex
      (matchedInterval graph (intervalOf separation front.length first run) head last
        support).endObservationIndexExclusive = support :=
    hsupport.slice.symm
  have hkeys : (support.all fun point => point.supportKey graph = head.supportKey graph) = true := by
    rw [List.all_eq_true]
    intro point hpoint
    exact decide_eq_true (hsupport.supportKey_eq hfirst hpoint)
  have hseparation : (intervalOf separation front.length first run).pathSeparation =
      (support.filterMap DecodedMatchPoint.pathSeparation).min? :=
    (separations_min? hsupport.pairs fun point hpoint => (hconsistent point hpoint).separated).symm
  unfold checkInterval
  rw [bind_unit_eq_ok_iff, raiseIf_eq_ok_iff, hslice]
  dsimp only
  rw [hhead, hlast]
  dsimp only
  rw [raiseIf_eq_ok_iff]
  constructor
  · intro ⟨hplace, hevidence⟩
    rw [not_or, not_not] at hplace
    simp only [not_or, not_not] at hevidence
    obtain ⟨-, -, -, -, -, -, -, -, -, hdistance, -⟩ := hevidence
    exact ⟨hplace.1.symm, hdistance⟩
  · intro ⟨hcursor, hdistance⟩
    rw [not_or, not_not, not_lt]
    refine ⟨⟨hcursor.symm, hsupport.bound⟩, ?_⟩
    simp only [not_or, not_not]
    exact ⟨hkeys, rfl, rfl, rfl, rfl, rfl, rfl, rfl, rfl, hdistance, hseparation⟩

end Run

/-! ## All intervals -/

section Intervals

variable {graph : Graph} {separation : Option ℚ} {ambiguous : Bool} {points : List DecodedPoint}
  {matched : List DecodedMatchPoint}

/-- The native interval of some run of the points. -/
def FromRun (separation : Option ℚ) (points : List DecodedPoint)
    (matched : List DecodedMatchPoint) (native : DecodedInterval) : Prop :=
  ∃ front run first support, RunSupport separation points matched front run first support ∧
    (∃ back, points = front ++ run ++ back ∧ IsRun DecodedPoint.key front run back) ∧
      native = intervalOf separation front.length first run

theorem fromRun_of_mem (hmatches : List.Forall₂ (DecodedMatchPoint.Matches separation) points matched)
    {fuel : Nat} {native : DecodedInterval} (hnative : native ∈ intervalsFrom separation fuel 0 points) :
    FromRun separation points matched native := by
  have hopens : ∀ neighbour ∈ ([] : List DecodedPoint).getLast?, ∀ first ∈ points.head?,
      neighbour.key ≠ first.key := by
    intro neighbour hneighbour
    cases hneighbour
  obtain ⟨front, first, tail, back, hpoints, hrun, rfl⟩ :=
    exists_run_of_mem (List.nil_append points).symm hopens hnative
  exact ⟨front, first :: tail, first, _, runSupport_of_isRun hmatches hpoints hrun,
    ⟨back, hpoints, hrun⟩, rfl⟩

variable (graph) in
/-- The wrapper makes every interval, and `validate_path` accepts them exactly where the
roundings of all distances agree. -/
theorem checkIntervals_ok_iff (hnonneg : ∀ value ∈ separation, 0 ≤ value)
    (hconsistent : ∀ point ∈ points, point.Consistent separation ambiguous)
    (htimes : (matched.map fun point => point.observation.timeNs).Pairwise (· < ·))
    {natives : List DecodedInterval}
    (hnatives : ∀ native ∈ natives, FromRun separation points matched native) {cursor : Nat}
    (hconsecutive : Consecutive cursor matched.length (natives.map DecodedInterval.range)) :
    ∃ intervals, natives.mapM (matchInterval graph matched) = .ok intervals ∧
      (checkIntervals graph matched cursor intervals = .ok () ↔
        ∀ native ∈ natives, native.usableDistance = recomputedOf graph matched native) := by
  induction natives generalizing cursor with
  | nil =>
    refine ⟨[], rfl, ?_⟩
    have hend : cursor = matched.length := hconsecutive
    rw [checkIntervals, raiseIf_eq_ok_iff, not_not]
    simp [hend]
  | cons native natives ih =>
    obtain ⟨hstart, -, hlater⟩ := hconsecutive
    obtain ⟨intervals, hmade, hrest⟩ := ih
      (fun other hother => hnatives other (List.mem_cons_of_mem _ hother)) hlater
    obtain ⟨front, run, first, support, hsupport, ⟨back, hpoints, -⟩, rfl⟩ :=
      hnatives native List.mem_cons_self
    have hrunConsistent : ∀ point ∈ run, point.Consistent separation ambiguous := by
      intro point hpoint
      apply hconsistent
      rw [hpoints]
      exact List.mem_append_left _ (List.mem_append_right _ hpoint)
    obtain ⟨head, last, hhead, hlast, hfirst, -⟩ := hsupport.ends
    have hmatched := matchInterval_ok graph hsupport hnonneg hrunConsistent htimes hhead
      hlast hfirst
    have hcheck := checkInterval_ok_iff graph hsupport hrunConsistent hhead hlast hfirst cursor
    have hrecomputed : recomputedOf graph matched (intervalOf separation front.length first run) =
        recomputedDistance graph head support := by
      have hslice : supportOf matched
          (intervalOf separation front.length first run).startObservationIndex
          (intervalOf separation front.length first run).endObservationIndexExclusive = support :=
        hsupport.slice.symm
      rw [recomputedOf, hslice, hhead]
    refine ⟨matchedInterval graph (intervalOf separation front.length first run) head last support ::
      intervals, ?_, ?_⟩
    · rw [List.mapM_cons, hmatched, hmade]
      rfl
    · rw [checkIntervals, bind_unit_eq_ok_iff, hcheck, List.forall_mem_cons, hrecomputed]
      have hplace : cursor = front.length := hstart.symm
      rw [and_iff_right hplace]
      exact and_congr_right fun _ => hrest

end Intervals

/-! ## The points of a result -/

section Arrays

variable {separation : Option ℚ} {ambiguous : Bool} {candidates : List Candidate}
  {runners : List (Option Candidate)} {flags ambiguity : List Bool}

theorem mem_decodedPoints {point : DecodedPoint}
    (hpoint : point ∈ decodedPoints candidates runners flags ambiguity) :
    point.candidate ∈ candidates ∧ point.runner ∈ runners := by
  induction candidates generalizing runners flags ambiguity with
  | nil => cases hpoint
  | cons candidate candidates ih =>
    cases runners with
    | nil => cases hpoint
    | cons runner runners =>
      cases flags with
      | nil => cases hpoint
      | cons flag flags =>
        cases ambiguity with
        | nil => cases hpoint
        | cons mark ambiguity =>
          cases hpoint with
          | head => exact ⟨List.mem_cons_self, List.mem_cons_self⟩
          | tail _ hmem =>
            obtain ⟨hcandidate, hrunner⟩ := ih hmem
            exact ⟨List.mem_cons_of_mem _ hcandidate, List.mem_cons_of_mem _ hrunner⟩

/-- A point is ambiguous where the path is and its candidates differ. -/
theorem ambiguous_of_mem {point : DecodedPoint}
    (hpoint : point ∈ decodedPoints candidates runners flags
      (pointAmbiguity ambiguous candidates runners)) :
    point.ambiguous = (ambiguous && point.differs) := by
  induction candidates generalizing runners flags with
  | nil => cases hpoint
  | cons candidate candidates ih =>
    cases runners with
    | nil => cases hpoint
    | cons runner runners =>
      cases flags with
      | nil => cases hpoint
      | cons flag flags =>
        cases hpoint with
        | head => cases runner <;> simp [DecodedPoint.differs]
        | tail _ hmem => exact ih hmem

theorem map_runner_decodedPoints {count : Nat} (hcandidates : candidates.length = count)
    (hrunners : runners.length = count) (hflags : flags.length = count)
    (hambiguity : ambiguity.length = count) :
    (decodedPoints candidates runners flags ambiguity).map DecodedPoint.runner = runners := by
  induction count generalizing candidates runners flags ambiguity with
  | zero =>
    obtain rfl := List.length_eq_zero_iff.mp hcandidates
    exact (List.length_eq_zero_iff.mp hrunners).symm
  | succ count ih =>
    obtain ⟨candidate, candidates, rfl⟩ := List.exists_cons_of_length_eq_add_one hcandidates
    obtain ⟨runner, runners, rfl⟩ := List.exists_cons_of_length_eq_add_one hrunners
    obtain ⟨flag, flags, rfl⟩ := List.exists_cons_of_length_eq_add_one hflags
    obtain ⟨mark, ambiguity, rfl⟩ := List.exists_cons_of_length_eq_add_one hambiguity
    rw [decodedPoints, List.map_cons, ih (by simpa using hcandidates) (by simpa using hrunners)
      (by simpa using hflags) (by simpa using hambiguity)]

theorem checkRunnerUps_ok {confidence : MatchConfidence} {points : List DecodedPoint}
    {matched : List DecodedMatchPoint} {runnerUps : List Candidate}
    (hconfidence : confidence = confidenceOf ambiguous)
    (hmatches : List.Forall₂ (DecodedMatchPoint.Matches separation) points matched)
    (hconsistent : ∀ point ∈ points, point.ambiguous = (ambiguous && point.differs))
    (hrunners : points.map DecodedPoint.runner = runnerUps.map some) :
    checkRunnerUps separation confidence matched runnerUps = .ok () := by
  induction hmatches generalizing runnerUps with
  | nil =>
    cases runnerUps with
    | nil => rfl
    | cons runnerUp runnerUps => cases hrunners
  | @cons point matchedPoint points matched hmatch hrest ih =>
    cases runnerUps with
    | nil => cases hrunners
    | cons runnerUp runnerUps =>
      rw [List.map_cons, List.map_cons, List.cons.injEq] at hrunners
      obtain ⟨hrunner, hothers⟩ := hrunners
      have hdiffers : point.differs = decide (runnerUp.candidateId ≠ point.candidate.candidateId) := by
        rw [DecodedPoint.differs, hrunner]
        exact decide_eq_decide.mpr ne_comm
      rw [checkRunnerUps, bind_unit_eq_ok_iff, raiseIf_eq_ok_iff]
      refine ⟨?_, ih (fun other hother => hconsistent other (List.mem_cons_of_mem _ hother)) hothers⟩
      rw [hmatch.runner, hmatch.separation, hmatch.confidence, hmatch.candidate,
        hconsistent point List.mem_cons_self, hconfidence, hrunner, ← hdiffers]
      cases point.differs <;> cases ambiguous <;> simp [confidenceOf]

end Arrays

/-! ## Results -/

theorem hypothesisOrder_total (left right : Hypothesis) :
    hypothesisOrder left right ∨ hypothesisOrder right left := by
  unfold hypothesisOrder
  rcases lt_trichotomy left.totalScore right.totalScore with hlt | heq | hgt
  · exact Or.inr (Or.inl hlt)
  · cases Nat.le_total left.lexicographicRank right.lexicographicRank with
    | inl hle => exact Or.inl (Or.inr ⟨heq, hle⟩)
    | inr hle => exact Or.inr (Or.inr ⟨heq.symm, hle⟩)
  · exact Or.inl (Or.inl hgt)

theorem hypothesisOrder_trans {left middle right : Hypothesis} (h : hypothesisOrder left middle)
    (h' : hypothesisOrder middle right) : hypothesisOrder left right := by
  unfold hypothesisOrder at *
  rcases h with hlt | ⟨heq, hle⟩
  · rcases h' with hlt' | ⟨heq', -⟩
    · exact Or.inl (hlt'.trans hlt)
    · exact Or.inl (heq' ▸ hlt)
  · rcases h' with hlt' | ⟨heq', hle'⟩
    · exact Or.inl (heq ▸ hlt')
    · exact Or.inr ⟨heq.trans heq', hle.trans hle'⟩

/-- The best hypothesis of a sorted beam comes first. -/
theorem sortHypotheses_ordered (beam : List Hypothesis) :
    (sortHypotheses beam).Pairwise fun left right => right.totalScore ≤ left.totalScore := by
  have htotal : Std.Total hypothesisOrder := ⟨hypothesisOrder_total⟩
  have htrans : IsTrans Hypothesis hypothesisOrder :=
    ⟨fun _ _ _ => hypothesisOrder_trans⟩
  have hsorted : (sortHypotheses beam).Pairwise hypothesisOrder := List.pairwise_insertionSort _ _
  apply hsorted.imp
  intro left right hordered
  rcases hordered with hlt | ⟨heq, -⟩
  · exact hlt.le
  · exact heq.ge

section Consistent

variable {math : NativeMath} {input : DecoderInput} {state : BeamState} {best : Hypothesis}
  {runner : Option Hypothesis} (hvalid : input.Valid)

theorem separation_nonneg (hbest : ∀ second ∈ runner, second.totalScore ≤ best.totalScore) :
    ∀ value ∈ (resultOfHypotheses math input state best runner).pathSeparation, 0 ≤ value := by
  intro value hvalue
  obtain ⟨second, hsecond, rfl⟩ := Option.map_eq_some_iff.mp hvalue
  exact roundTo_nonneg (sub_nonneg.mpr (hbest second hsecond)) _

include hvalid

/-- A candidate of a sequence has an offset where it has an arc. -/
theorem offset_of_mem_candidatesOf {indices : List Nat} {candidate : Candidate}
    (hcandidate : candidate ∈ candidatesOf input.batches indices)
    (hroad : candidate.arcIndex.isSome = true) :
    ∃ offset, candidate.alongArcOffset = some offset ∧ 0 ≤ offset := by
  obtain ⟨position, hposition⟩ := List.getElem?_of_mem hcandidate
  obtain ⟨batch, index, hbatch, -, rfl⟩ := List.getElem?_zipWith_eq_some.mp hposition
  obtain ⟨hbound, rfl⟩ := List.getElem?_eq_some_iff.mp hbatch
  have hposition : position < input.observations.length := hvalid.count ▸ hbound
  have hreferences := (hvalid.batchValid hposition).references
  rw [batchAt, List.getD_eq_getElem _ _ hbound] at hreferences
  cases Nat.lt_or_ge index input.batches[position].length with
  | inl hindex =>
    rw [List.getD_eq_getElem _ _ hindex] at hroad ⊢
    obtain ⟨arcIndex, harc⟩ := Option.isSome_iff_exists.mp hroad
    have hreference := hreferences _ (List.getElem_mem hindex)
    cases hoffset : input.batches[position][index].alongArcOffset with
    | none =>
      unfold validateCandidateReference at hreference
      rw [harc, hoffset] at hreference
      split_ifs at hreference
    | some offset =>
      exact ⟨offset, rfl, (validateCandidateReference_onRoad hreference harc hoffset).2.1⟩
  | inr hindex =>
    rw [List.getD_eq_default _ _ hindex] at hroad
    cases hroad

/-- The points of a result are what the wrapper relies on. -/
theorem consistent_of_mem {point : DecodedPoint}
    (hpoint : point ∈ (resultOfHypotheses math input state best runner).points input.batches) :
    point.Consistent (resultOfHypotheses math input state best runner).pathSeparation
      (resultOfHypotheses math input state best runner).ambiguous := by
  rw [points_resultOfHypotheses] at hpoint
  obtain ⟨hcandidate, hrunner⟩ := mem_decodedPoints hpoint
  refine ⟨ambiguous_of_mem hpoint, ?_, offset_of_mem_candidatesOf hvalid hcandidate⟩
  intro hdiffers
  obtain ⟨second, hsecond⟩ := DecodedPoint.runner_of_differs hdiffers
  cases runner with
  | some hypothesis => rfl
  | none =>
    rw [hsecond] at hrunner
    obtain ⟨_, _, hnone⟩ := List.mem_map.mp hrunner
    cases hnone

end Consistent

/-! ## Acceptance -/

theorem observationsValid_nodup {observations : List Observation} {seen : List String}
    (h : observationsValid observations seen = true) :
    (∀ observation ∈ observations, observation.observationId ∉ seen) ∧
      (observations.map Observation.observationId).Nodup := by
  induction observations generalizing seen with
  | nil => simp
  | cons observation observations ih =>
    simp only [observationsValid, Bool.and_eq_true, decide_eq_true_eq] at h
    obtain ⟨⟨-, hfresh⟩, hrest⟩ := h
    obtain ⟨hnew, hnodup⟩ := ih hrest
    constructor
    · intro other hother
      cases hother with
      | head => exact hfresh
      | tail _ hmem => exact fun hseen => hnew other hmem (List.mem_cons_of_mem _ hseen)
    · rw [List.map_cons, List.nodup_cons]
      refine ⟨?_, hnodup⟩
      intro hmem
      obtain ⟨other, hother, hid⟩ := List.mem_map.mp hmem
      exact hnew other hother (hid ▸ List.mem_cons_self)

theorem pythonRound_nonneg {value : ℚ} (h : 0 ≤ value) (places : Nat) :
    0 ≤ pythonRound value places := by
  have hscaled : 0 ≤ value * 10 ^ places := by positivity
  have hunits : 0 ≤ Foundation.nearestEven (value * 10 ^ places) := by
    have hfloor := Int.floor_nonneg.mpr hscaled
    unfold Foundation.nearestEven
    split_ifs <;> omega
  exact div_nonneg (by exact_mod_cast hunits) (by positivity)

theorem DecoderInput.Valid.observationIds_nodup {input : DecoderInput} (hvalid : input.Valid) :
    (input.observations.map Observation.observationId).Nodup := by
  have hobservations := hvalid.observations
  unfold validateObservations at hobservations
  split_ifs at hobservations with hempty hchecked
  exact (observationsValid_nodup hchecked).2

section Accepted

variable {math : NativeMath} {input : DecoderInput} {state : BeamState} {best : Hypothesis}
  {runner : Option Hypothesis} {matched : List DecodedMatchPoint}

/-- The published separation is the one that `validate_path` recomputes. -/
def DecodeResult.SeparationRecomputed (result : DecodeResult) : Prop :=
  result.pathSeparation =
    result.runnerUpTotalLogLikelihood.map (expectedSeparation result.bestTotalLogLikelihood)

/-- The separation checks pass exactly where the separation is recomputed. -/
theorem checkSeparation_ok_iff (hlimit : input.decoderParameters.ambiguityPathSeparation = 1)
    (hbest : ∀ second ∈ runner, second.totalScore ≤ best.totalScore)
    (hcount : ∀ second ∈ runner,
      (candidatesOf input.batches second.reconstruct).length = matched.length)
    {path : DecodedRoadPath} {result : DecodeResult}
    (hresult : result = resultOfHypotheses math input state best runner)
    (htotal : path.bestTotalLogLikelihood = result.bestTotalLogLikelihood)
    (hrunnerTotal : path.runnerUpTotalLogLikelihood = result.runnerUpTotalLogLikelihood)
    (hseparation : path.pathSeparation = result.pathSeparation)
    (hconfidence : path.confidence = confidenceOf result.ambiguous)
    (hpoints : path.points = matched)
    (hrunners : path.runnerUpCandidates =
      candidatesOf input.batches result.runnerUpCandidateIndices) :
    path.checkSeparation = .ok () ↔ result.SeparationRecomputed := by
  unfold DecodedRoadPath.checkSeparation DecodeResult.SeparationRecomputed
  rw [htotal, hrunnerTotal, hseparation, hconfidence, hpoints, hrunners]
  subst hresult
  cases runner with
  | none =>
    have hnone : candidatesOf input.batches [] = [] := by
      rw [candidatesOf, List.zipWith_nil_right]
    simp [resultOfHypotheses, raiseIf_eq_ok_iff, hnone, confidenceOf]
  | some second =>
    have hdifference : 0 ≤ best.totalScore - second.totalScore :=
      sub_nonneg.mpr (hbest second rfl)
    have hnonneg : ¬ expectedSeparation best.totalScore second.totalScore < 0 :=
      not_lt.mpr (pythonRound_nonneg hdifference 12)
    simp only [resultOfHypotheses, Option.map_some, Option.getD_some, bind_unit_eq_ok_iff,
      raiseIf_eq_ok_iff, not_or, not_not, hcount second rfl, hnonneg, not_false_eq_true, and_true,
      Option.some.injEq, Option.any_some, hlimit]
    constructor
    · intro h
      exact h.1
    · intro h
      exact ⟨h, by rw [h]⟩

/-- The evidence of the points passes. -/
theorem checkPoints_ok {result : DecodeResult}
    (hresult : result = resultOfHypotheses math input state best runner)
    (hpoints : List.Forall₂ (DecodedMatchPoint.Matches result.pathSeparation)
      (result.points input.batches) matched)
    (hrunnerPoints : (result.points input.batches).map DecodedPoint.runner =
      runnersOf input.batches (runner.map Hypothesis.reconstruct))
    (hconsistent : ∀ point ∈ result.points input.batches,
      point.ambiguous = (result.ambiguous && point.differs))
    (hnonempty : ∀ second ∈ runner, candidatesOf input.batches second.reconstruct ≠ [])
    {path : DecodedRoadPath} (hseparation : path.pathSeparation = result.pathSeparation)
    (hconfidence : path.confidence = confidenceOf result.ambiguous)
    (hmatched : path.points = matched)
    (hrunners : path.runnerUpCandidates =
      candidatesOf input.batches result.runnerUpCandidateIndices) :
    path.checkPoints = .ok () := by
  unfold DecodedRoadPath.checkPoints
  rw [hseparation, hconfidence, hmatched, hrunners]
  subst hresult
  cases runner with
  | none =>
    have hnone : candidatesOf input.batches [] = [] := by
      rw [candidatesOf, List.zipWith_nil_right]
    rw [if_neg (by rw [not_not]; exact hnone), raiseIf_eq_ok_iff]
    rintro ⟨point, hpoint, hevidence⟩
    obtain ⟨native, hnative, hmatch⟩ := Foundation.exists_left_of_mem hpoints hpoint
    have hrunner : native.runner ∈ (input.batches.map fun _ => (none : Option Candidate)) := by
      have hmem := List.mem_map_of_mem (f := DecodedPoint.runner) hnative
      rwa [hrunnerPoints] at hmem
    obtain ⟨_, _, hrunner⟩ := List.mem_map.mp hrunner
    have hsame : native.differs = false := by
      rw [DecodedPoint.differs, ← hrunner]
    rw [hmatch.runner, hmatch.separation, hmatch.confidence, hconsistent native hnative, hsame,
      Bool.and_false] at hevidence
    simp [confidenceOf] at hevidence
  | some second =>
    have hindices : candidatesOf input.batches
        (resultOfHypotheses math input state best (some second)).runnerUpCandidateIndices =
          candidatesOf input.batches second.reconstruct := rfl
    have hchecked := checkRunnerUps_ok rfl hpoints hconsistent hrunnerPoints
    rw [hindices, if_pos (hnonempty second rfl)]
    exact hchecked

/-- The wrapper's points and intervals of a native result. -/
structure Wrapped (input : DecoderInput) (result : DecodeResult)
    (points : List DecodedMatchPoint) (intervals : List MatchedRoadInterval) : Prop where
  madePoints : matchPoints result.pathSeparation result.ambiguous 0 input.observations
    (result.points input.batches) = .ok points
  pairs : List.Forall₂ (DecodedMatchPoint.Matches result.pathSeparation)
    (result.points input.batches) points
  observations : points.map DecodedMatchPoint.observation = input.observations
  indices : points.map DecodedMatchPoint.observationIndex = List.range points.length
  madeIntervals : result.intervals.mapM (matchInterval input.graph points) = .ok intervals
  checked : checkIntervals input.graph points 0 intervals = .ok () ↔
    ∀ native ∈ result.intervals, native.usableDistance = recomputedOf input.graph points native

/-- What the wrapper relies on in a native result. -/
structure DecodeResult.Sound (input : DecoderInput) (result : DecodeResult) : Prop where
  length : (result.points input.batches).length = input.observations.length
  intervals : result.intervals = intervalsFrom result.pathSeparation
    input.observations.length 0 (result.points input.batches)
  consistent : ∀ point ∈ result.points input.batches,
    point.Consistent result.pathSeparation result.ambiguous
  nonneg : ∀ value ∈ result.pathSeparation, 0 ≤ value

theorem DecodeResult.Sound.consecutive {result : DecodeResult} (hsound : result.Sound input) :
    Consecutive 0 input.observations.length (result.intervals.map DecodedInterval.range) := by
  have hpartition := intervalsFrom_consecutive result.pathSeparation 0 hsound.length.le
  rwa [Nat.zero_add, hsound.length, ← hsound.intervals] at hpartition

variable (hvalid : input.Valid) {result : DecodeResult}

include hvalid

theorem wrapped_of_sound (hsound : result.Sound input) :
    ∃ points intervals, Wrapped input result points intervals := by
  obtain ⟨points, hmade, hpairs, hobservations, hindices⟩ :=
    matchPoints_ok hsound.nonneg hsound.length hsound.consistent 0
  have hlength : points.length = input.observations.length :=
    hpairs.length_eq.symm.trans hsound.length
  have htimes : (points.map fun point => point.observation.timeNs).Pairwise (· < ·) := by
    have hchain := List.isChain_iff_pairwise.mp hvalid.times_chain
    rwa [← hobservations, List.map_map] at hchain
  have hconsecutive := hsound.consecutive
  rw [← hlength] at hconsecutive
  obtain ⟨intervals, hintervals, hchecked⟩ := checkIntervals_ok_iff input.graph
    hsound.nonneg hsound.consistent htimes
    (fun native hnative => fromRun_of_mem hpairs (hsound.intervals ▸ hnative)) hconsecutive
  refine ⟨points, intervals, hmade, hpairs, hobservations, ?_, hintervals, hchecked⟩
  rw [hindices, hsound.length, hlength, List.range_eq_range']

variable (hfull : FullState input state) (h : decodeResult math input state = .ok result)

include hfull h

theorem sound_of_decodeResult : result.Sound input := by
  obtain ⟨best, rest, hsorted, rfl, hdepth⟩ := decodeResult_eq hvalid hfull.toFullBeam h
  have hordered : ∀ second ∈ rest.head?, second.totalScore ≤ best.totalScore := by
    have hpairs := sortHypotheses_ordered state.beam
    rw [hsorted, List.pairwise_cons] at hpairs
    exact fun second hsecond => hpairs.1 second (List.mem_of_head? hsecond)
  exact {
    length := length_points hvalid.count (hdepth best List.mem_cons_self) fun second hsecond =>
      hdepth second (List.mem_cons_of_mem _ (List.mem_of_head? hsecond))
    intervals := intervals_resultOfHypotheses
    consistent := fun point hpoint => consistent_of_mem hvalid hpoint
    nonneg := separation_nonneg hordered }

/-- The Python model accepts a native result exactly where it recomputes the separation
and every usable distance to what the result says. -/
theorem decodeRoadPath_ok_iff (hlimit : input.decoderParameters.ambiguityPathSeparation = 1)
    {matched : List DecodedMatchPoint} {intervals : List MatchedRoadInterval}
    (hwrapped : Wrapped input result matched intervals) :
    (∃ path, decodeRoadPath input result = .ok path) ↔ result.SeparationRecomputed ∧
      ∀ native ∈ result.intervals,
        native.usableDistance = recomputedOf input.graph matched native := by
  have hsound := sound_of_decodeResult hvalid hfull h
  obtain ⟨best, rest, hsorted, hresult, hdepth⟩ := decodeResult_eq hvalid hfull.toFullBeam h
  have hrunnerDepth : ∀ second ∈ rest.head?,
      second.observationIndex + 1 = input.observations.length :=
    fun second hsecond => hdepth second (List.mem_cons_of_mem _ (List.mem_of_head? hsecond))
  have hordered : ∀ second ∈ rest.head?, second.totalScore ≤ best.totalScore := by
    have hpairs := sortHypotheses_ordered state.beam
    rw [hsorted, List.pairwise_cons] at hpairs
    exact fun second hsecond => hpairs.1 second (List.mem_of_head? hsecond)
  have hbest := hdepth best List.mem_cons_self
  have hmatchedLength : matched.length = input.observations.length :=
    hwrapped.pairs.length_eq.symm.trans hsound.length
  have hambiguous : (result.pathSeparation.any fun separation =>
      separation ≤ input.decoderParameters.ambiguityPathSeparation) = result.ambiguous := by
    rw [hresult]
    rfl
  have hseparation := @checkSeparation_ok_iff math input state best rest.head? matched hlimit hordered
    (fun second hsecond => (length_candidatesOf hvalid.count (hrunnerDepth second hsecond)).trans
      hmatchedLength.symm) (decodedPath input result matched intervals) result hresult rfl rfl rfl rfl
    rfl rfl
  have hevidence : (decodedPath input result matched intervals).checkPoints = .ok () := by
    apply checkPoints_ok hresult hwrapped.pairs ?_
      (fun point hpoint => (hsound.consistent point hpoint).ambiguous)
      ?_ rfl rfl rfl rfl
    · rw [hresult, points_resultOfHypotheses]
      exact map_runner_decodedPoints (length_candidatesOf hvalid.count hbest)
        (length_runnersOf hvalid.count hrunnerDepth) length_stationaryFlags
        (length_pointAmbiguous hvalid.count hbest hrunnerDepth)
    · intro second hsecond hempty
      have hcount := length_candidatesOf hvalid.count (hrunnerDepth second hsecond)
      have hpos := List.length_pos_of_ne_nil hvalid.observations_ne_nil
      rw [hempty, List.length_nil] at hcount
      omega
  have hvalidated : (decodedPath input result matched intervals).validatePath input.graph = .ok () ↔
      result.SeparationRecomputed ∧
        checkIntervals input.graph matched 0 intervals = .ok () := by
    have hpos := List.length_pos_of_ne_nil hvalid.observations_ne_nil
    have hnonempty : matched ≠ [] := List.ne_nil_of_length_pos (hmatchedLength ▸ hpos)
    have hdiagnostics : result.diagnostics.generatedCandidateCounts.length = matched.length ∧
        result.diagnostics.retainedHypothesisCounts.length = matched.length ∧
        result.diagnostics.rejectedTransitionCounts.length = matched.length ∧
        result.diagnostics.prunedHypothesisCounts.length = matched.length := by
      rw [hresult, hmatchedLength]
      exact ⟨(List.length_map _).trans hvalid.count, hfull.retained, hfull.rejected, hfull.pruned⟩
    have hids : (matched.map fun point => point.observation.observationId).Nodup := by
      have hnodup := hvalid.observationIds_nodup
      rwa [← hwrapped.observations, List.map_map] at hnodup
    have hchain : (matched.map fun point => point.observation.timeNs).IsChain (· < ·) := by
      have htimes := hvalid.times_chain
      rwa [← hwrapped.observations, List.map_map] at htimes
    unfold DecodedRoadPath.validatePath
    simp only [bind_unit_eq_ok_iff, raiseIf_eq_ok_iff, hevidence, hseparation]
    constructor
    · intro ⟨_, _, _, _, hrecomputed, _, hpasses⟩
      exact ⟨hrecomputed, hpasses⟩
    · intro ⟨hrecomputed, hpasses⟩
      refine ⟨hnonempty, ?_, not_not.mpr hwrapped.indices, ?_, hrecomputed, trivial, hpasses⟩
      · simp only [not_or, not_not]
        exact hdiagnostics
      · simp only [not_or, not_not]
        exact ⟨hids, hchain⟩
  rw [← hwrapped.checked, ← hvalidated]
  unfold decodeRoadPath
  dsimp only
  rw [hambiguous]
  constructor
  · intro ⟨path, hpath⟩
    rw [bind_unit_eq_ok_iff, bind_eq_ok_iff] at hpath
    obtain ⟨-, points, hpoints, hpath⟩ := hpath
    obtain rfl := Except.ok.inj (hwrapped.madePoints.symm.trans hpoints)
    rw [bind_eq_ok_iff] at hpath
    obtain ⟨made, hmadeEq, hpath⟩ := hpath
    obtain rfl := Except.ok.inj (hwrapped.madeIntervals.symm.trans hmadeEq)
    rw [bind_unit_eq_ok_iff, bind_unit_eq_ok_iff] at hpath
    exact hpath.2.1
  · intro hpasses
    refine ⟨decodedPath input result matched intervals, ?_⟩
    rw [bind_unit_eq_ok_iff, bind_eq_ok_iff]
    refine ⟨raiseIf_eq_ok_iff.mpr (not_not.mpr rfl), matched, hwrapped.madePoints, ?_⟩
    rw [bind_eq_ok_iff]
    refine ⟨intervals, hwrapped.madeIntervals, ?_⟩
    rw [bind_unit_eq_ok_iff, bind_unit_eq_ok_iff, raiseIf_eq_ok_iff]
    refine ⟨?_, hpasses, rfl⟩
    intro ⟨value, hvalue, hnegative⟩
    have hpositive := hsound.nonneg value hvalue
    linarith

end Accepted

end CartoSentry.Matching
