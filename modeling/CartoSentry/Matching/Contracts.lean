import Mathlib.Algebra.Order.Ring.Rat
import Mathlib.Data.List.GetD
import Mathlib.Data.Rat.Defs
import Mathlib.Data.String.Basic
import CartoSentry.Foundation.Outcome

set_option autoImplicit false

/-!
# Road matching: native contracts

The values the native matcher reads and returns.  Every floating-point number is
an exact rational, so the source's finiteness checks hold of every value and are
left out.
-/

namespace CartoSentry.Matching

open Foundation (bind_eq_ok_iff)

/-- `std::invalid_argument`, the only exception the matcher throws. -/
structure InvalidArgument where
  message : String
  deriving DecidableEq, Repr

/-- A check that throws on its condition. -/
def throwIf (condition : Prop) [Decidable condition] (message : String) :
    Except InvalidArgument Unit :=
  if condition then .error ⟨message⟩ else .ok ()

theorem throwIf_eq_ok_iff {condition : Prop} [Decidable condition] {message : String} :
    throwIf condition message = .ok () ↔ ¬ condition := by
  unfold throwIf
  split_ifs with h <;> simp [h]

theorem mapM_eq_error {ε A B : Type} {f : A → Except ε B} {failure : ε} {items : List A}
    (hitems : items ≠ []) (h : ∀ item ∈ items, f item = .error failure) :
    items.mapM f = .error failure := by
  cases items with
  | nil => exact absurd rfl hitems
  | cons item rest =>
    rw [List.mapM_cons, h item List.mem_cons_self]
    rfl

/-- A loop that returns has computed a function of its items. -/
theorem mapM_eq_map {ε A B : Type} {f : A → Except ε B} {g : A → B} {items : List A}
    {results : List B} (h : items.mapM f = .ok results)
    (hg : ∀ item ∈ items, ∀ result, f item = .ok result → result = g item) :
    results = items.map g := by
  induction items generalizing results with
  | nil =>
    cases h
    rfl
  | cons item rest ih =>
    rw [List.mapM_cons, bind_eq_ok_iff] at h
    obtain ⟨value, hvalue, h⟩ := h
    rw [bind_eq_ok_iff] at h
    obtain ⟨others, hothers, h⟩ := h
    cases h
    rw [List.map_cons, hg item List.mem_cons_self value hvalue,
      ih hothers fun other hother => hg other (List.mem_cons_of_mem _ hother)]

/-- What a loop returns comes from its items. -/
theorem mapM_mem {ε A B : Type} {f : A → Except ε B} {items : List A} {results : List B}
    (h : items.mapM f = .ok results) {result : B} (hmem : result ∈ results) :
    ∃ item ∈ items, f item = .ok result := by
  induction items generalizing results with
  | nil =>
    cases h
    simp at hmem
  | cons item rest ih =>
    rw [List.mapM_cons, bind_eq_ok_iff] at h
    obtain ⟨value, hvalue, h⟩ := h
    rw [bind_eq_ok_iff] at h
    obtain ⟨others, hothers, h⟩ := h
    cases h
    rcases List.mem_cons.mp hmem with rfl | hlater
    · exact ⟨item, List.mem_cons_self, hvalue⟩
    · obtain ⟨other, hother, hresult⟩ := ih hothers hlater
      exact ⟨other, List.mem_cons_of_mem _ hother, hresult⟩

/-- The least and the greatest `std::int64_t`. -/
def int64Min : Int := -2 ^ 63
def int64Max : Int := 2 ^ 63 - 1

structure Point2 where
  x : ℚ
  y : ℚ
  deriving DecidableEq, Repr

/-! ## Graph -/

inductive ArcDirection where
  | forward
  | reverse
  deriving DecidableEq, Repr

inductive RuleState where
  | forbidden
  | unknownRestriction
  deriving DecidableEq, Repr

structure Arc where
  arcId : String
  fromNodeId : String
  toNodeId : String
  sourceWayId : Int
  direction : ArcDirection
  length : ℚ
  geometry : List Point2
  deriving DecidableEq, Repr

structure TransitionRule where
  fromArcId : String
  toArcId : String
  state : RuleState
  deriving DecidableEq, Repr

structure Graph where
  arcs : List Arc
  transitionRules : List TransitionRule
  deriving DecidableEq, Repr

/-! ## Observations and parameters -/

structure Observation where
  observationId : String
  timeNs : Int
  position : Point2
  headingRad : Option ℚ
  speed : ℚ
  horizontalUncertainty : Option ℚ
  deriving DecidableEq, Repr

structure CandidateParameters where
  minimumSearchRadius : ℚ
  defaultSearchRadius : ℚ
  maximumSearchRadius : ℚ
  uncertaintyRadiusMultiplier : ℚ
  maximumOnRoadCandidates : Nat
  distanceRoundingDecimalPlaces : Int
  deriving DecidableEq, Repr

structure EmissionParameters where
  baseLateralSigma : ℚ
  maximumLateralSigma : ℚ
  headingSigma : ℚ
  headingDisabledBelowSpeed : ℚ
  headingFullWeightSpeed : ℚ
  offMapLogLikelihood : ℚ
  scoreRoundingDecimalPlaces : Int
  deriving DecidableEq, Repr

structure TransitionParameters where
  pathDiscrepancyScale : ℚ
  maximumAbsoluteSpeed : ℚ
  observedSpeedExcessAllowance : ℚ
  speedExcessPenalty : ℚ
  turnPenalty : ℚ
  uTurnPenalty : ℚ
  offMapEnterLogLikelihood : ℚ
  offMapExitLogLikelihood : ℚ
  offMapStayLogLikelihood : ℚ
  maximumGraphSearchDistance : ℚ
  maximumGraphSearchStates : Nat
  scoreRoundingDecimalPlaces : Int
  deriving DecidableEq, Repr

structure DecoderParameters where
  beamWidth : Nat
  hypothesesPerTerminalCandidate : Nat
  beamScoreDelta : ℚ
  ambiguityPathSeparation : ℚ
  stationarySpeedThreshold : ℚ
  stationaryPositionTolerance : ℚ
  stationaryMinimumObservations : Nat
  maximumSequenceObservations : Nat
  scoreRoundingDecimalPlaces : Int
  deriving DecidableEq, Repr

/-! ## Candidates and transitions -/

structure EmissionResult where
  lateralSigma : Option ℚ
  lateralLogLikelihood : Option ℚ
  headingUsed : Bool
  headingWeight : ℚ
  headingDifference : Option ℚ
  headingLogLikelihood : Option ℚ
  offMapLogLikelihood : Option ℚ
  totalLogLikelihood : ℚ
  deriving DecidableEq, Repr

structure Candidate where
  candidateId : String
  observationIndex : Nat
  arcIndex : Option Nat
  projectedPosition : Option Point2
  lateralDistance : Option ℚ
  tangentHeading : Option ℚ
  alongArcOffset : Option ℚ
  searchRadius : ℚ
  emission : EmissionResult
  deriving DecidableEq, Repr

def Candidate.offMap (candidate : Candidate) : Bool :=
  candidate.arcIndex.isNone

inductive TransitionRejection where
  | nonPositiveElapsedTime
  | forbiddenTurn
  | unknownRestriction
  | noDirectedPath
  | graphSearchBudget
  | implausibleAbsoluteSpeed
  deriving DecidableEq, Repr

/-! ## Validation of a graph -/

/-- The checks `validate_graph` makes on one arc, its identity apart. -/
def Arc.wellFormed (arc : Arc) : Bool :=
  arc.arcId ≠ "" ∧ arc.fromNodeId ≠ "" ∧ arc.toNodeId ≠ "" ∧ 0 < arc.sourceWayId ∧
    0 < arc.length ∧ 2 ≤ arc.geometry.length

def arcsValid : List Arc → List String → Bool
  | [], _ => true
  | arc :: rest, seen =>
      arc.wellFormed && (arc.arcId ∉ seen) && arcsValid rest (arc.arcId :: seen)

/-- `validate_graph`. -/
def validateGraph (graph : Graph) : Except InvalidArgument Unit :=
  if graph.arcs = [] then .error ⟨"native map graph has no arcs"⟩
  else if ¬ arcsValid graph.arcs [] then .error ⟨"native map graph arc is invalid"⟩
  else if ¬ graph.transitionRules.all fun rule =>
      rule.fromArcId ∈ graph.arcs.map Arc.arcId ∧ rule.toArcId ∈ graph.arcs.map Arc.arcId then
    .error ⟨"native map transition rule has a foreign arc"⟩
  else .ok ()

/-- A graph that `validate_graph` accepts. -/
def Graph.Valid (graph : Graph) : Prop :=
  validateGraph graph = .ok ()

instance (graph : Graph) : Decidable graph.Valid :=
  inferInstanceAs (Decidable (validateGraph graph = .ok ()))

theorem arcsValid_spec {arcs : List Arc} {seen : List String} (h : arcsValid arcs seen = true) :
    (∀ arc ∈ arcs, arc.wellFormed = true ∧ arc.arcId ∉ seen) ∧ (arcs.map Arc.arcId).Nodup := by
  induction arcs generalizing seen with
  | nil => simp
  | cons arc rest ih =>
    simp only [arcsValid, Bool.and_eq_true, decide_eq_true_eq] at h
    obtain ⟨⟨hform, hfresh⟩, hrest⟩ := h
    obtain ⟨hall, hnodup⟩ := ih hrest
    constructor
    · intro other hother
      cases hother with
      | head => exact ⟨hform, hfresh⟩
      | tail _ hmem =>
        obtain ⟨hwell, hnew⟩ := hall other hmem
        exact ⟨hwell, fun hseen => hnew (List.mem_cons_of_mem _ hseen)⟩
    · rw [List.map_cons, List.nodup_cons]
      refine ⟨?_, hnodup⟩
      intro hmem
      obtain ⟨other, hother, hid⟩ := List.mem_map.mp hmem
      exact (hall other hother).2 (by rw [hid]; exact List.mem_cons_self)

section Valid

variable {graph : Graph} (hvalid : graph.Valid)

include hvalid

theorem Graph.Valid.arcs_valid : arcsValid graph.arcs [] = true := by
  unfold Graph.Valid validateGraph at hvalid
  split_ifs at hvalid with hempty harcs hrules
  simpa using harcs

theorem Graph.Valid.length_pos {arc : Arc} (harc : arc ∈ graph.arcs) : 0 < arc.length := by
  have hform := ((arcsValid_spec hvalid.arcs_valid).1 arc harc).1
  simp only [Arc.wellFormed, decide_eq_true_eq] at hform
  exact hform.2.2.2.2.1

theorem Graph.Valid.sourceWayId_pos {arc : Arc} (harc : arc ∈ graph.arcs) :
    0 < arc.sourceWayId := by
  have hform := ((arcsValid_spec hvalid.arcs_valid).1 arc harc).1
  simp only [Arc.wellFormed, decide_eq_true_eq] at hform
  exact hform.2.2.2.1

theorem Graph.Valid.arcIds_nodup : (graph.arcs.map Arc.arcId).Nodup :=
  (arcsValid_spec hvalid.arcs_valid).2

end Valid

/-! ## Validation of candidates and parameters -/

/-- `graph.arcs[index]`; outside the vector, where no modelled function reads, an
arc without content. -/
def Graph.arc (graph : Graph) (index : Nat) : Arc :=
  graph.arcs.getD index
    { arcId := "", fromNodeId := "", toNodeId := "", sourceWayId := 0, direction := .forward,
      length := 0, geometry := [] }

theorem Graph.arc_mem {graph : Graph} {index : Nat} (h : index < graph.arcs.length) :
    graph.arc index ∈ graph.arcs := by
  rw [Graph.arc, List.getD_eq_getElem _ _ h]
  exact List.getElem_mem h

/-- The identity of an arc tells its index. -/
theorem Graph.Valid.arcId_inj {graph : Graph} (hvalid : graph.Valid) {left right : Nat}
    (hleft : left < graph.arcs.length) (hright : right < graph.arcs.length)
    (hid : (graph.arc left).arcId = (graph.arc right).arcId) : left = right := by
  rw [Graph.arc, Graph.arc, List.getD_eq_getElem _ _ hleft, List.getD_eq_getElem _ _ hright] at hid
  apply (List.getElem?_inj (by simpa using hleft) hvalid.arcIds_nodup).mp
  rw [List.getElem?_map, List.getElem?_map, List.getElem?_eq_getElem hleft,
    List.getElem?_eq_getElem hright, Option.map_some, Option.map_some, hid]

theorem Graph.Valid.arc_length_pos {graph : Graph} (hvalid : graph.Valid) {index : Nat}
    (h : index < graph.arcs.length) : 0 < (graph.arc index).length :=
  hvalid.length_pos (Graph.arc_mem h)

/-- `validate_candidate_reference`. -/
def validateCandidateReference (graph : Graph) (candidate : Candidate) (observationIndex : Nat) :
    Except InvalidArgument Unit :=
  if candidate.candidateId = "" ∨ candidate.observationIndex ≠ observationIndex then
    .error ⟨"native map candidate reference is invalid"⟩
  else
    match candidate.arcIndex, candidate.alongArcOffset with
    | none, some _ => .error ⟨"native off-map candidate has an arc offset"⟩
    | none, none => .ok ()
    | some _, none => .error ⟨"native on-road candidate is invalid"⟩
    | some arcIndex, some offset =>
        if graph.arcs.length ≤ arcIndex ∨ offset < 0 ∨ (graph.arc arcIndex).length < offset then
          .error ⟨"native on-road candidate is invalid"⟩
        else .ok ()

theorem validateCandidateReference_onRoad {graph : Graph} {candidate : Candidate}
    {observationIndex arcIndex : Nat} {offset : ℚ}
    (h : validateCandidateReference graph candidate observationIndex = .ok ())
    (harc : candidate.arcIndex = some arcIndex) (hoffset : candidate.alongArcOffset = some offset) :
    arcIndex < graph.arcs.length ∧ 0 ≤ offset ∧ offset ≤ (graph.arc arcIndex).length := by
  unfold validateCandidateReference at h
  rw [harc, hoffset] at h
  by_cases href : candidate.candidateId = "" ∨ candidate.observationIndex ≠ observationIndex
  · simp [href] at h
  · by_cases hroad : graph.arcs.length ≤ arcIndex ∨ offset < 0 ∨
        (graph.arc arcIndex).length < offset
    · simp [href, hroad] at h
    · push Not at hroad
      exact hroad

theorem validateCandidateReference_offset {graph : Graph} {candidate : Candidate}
    {observationIndex : Nat}
    (h : validateCandidateReference graph candidate observationIndex = .ok ())
    (hroad : candidate.offMap = false) :
    ∃ arcIndex offset, candidate.arcIndex = some arcIndex ∧
      candidate.alongArcOffset = some offset := by
  unfold validateCandidateReference at h
  unfold Candidate.offMap at hroad
  cases harc : candidate.arcIndex with
  | none => simp [harc] at hroad
  | some arcIndex =>
    cases hoffset : candidate.alongArcOffset with
    | none =>
      rw [harc, hoffset] at h
      split_ifs at h
    | some offset => exact ⟨arcIndex, offset, rfl, rfl⟩

/-- `validate_transition_parameters`. -/
def validateTransitionParameters (parameters : TransitionParameters) :
    Except InvalidArgument Unit :=
  if parameters.pathDiscrepancyScale ≤ 0 ∨ parameters.maximumAbsoluteSpeed ≤ 0 ∨
      parameters.observedSpeedExcessAllowance < 0 ∨ parameters.speedExcessPenalty < 0 ∨
      parameters.turnPenalty < 0 ∨ parameters.uTurnPenalty < 0 ∨
      0 < parameters.offMapEnterLogLikelihood ∨ 0 < parameters.offMapExitLogLikelihood ∨
      0 < parameters.offMapStayLogLikelihood ∨ parameters.maximumGraphSearchDistance ≤ 0 ∨
      parameters.maximumGraphSearchStates = 0 ∨ parameters.scoreRoundingDecimalPlaces < 0 ∨
      15 < parameters.scoreRoundingDecimalPlaces then
    .error ⟨"native map transition parameters are invalid"⟩
  else .ok ()

theorem validateTransitionParameters_states {parameters : TransitionParameters}
    (h : validateTransitionParameters parameters = .ok ()) :
    0 < parameters.maximumGraphSearchStates := by
  unfold validateTransitionParameters at h
  split_ifs at h with hinvalid
  push Not at hinvalid
  omega

/-- `validate_decoder_parameters`. -/
def validateDecoderParameters (parameters : DecoderParameters) : Except InvalidArgument Unit :=
  if parameters.beamWidth = 0 ∨ parameters.hypothesesPerTerminalCandidate = 0 ∨
      parameters.beamScoreDelta < 0 ∨ parameters.ambiguityPathSeparation < 0 ∨
      parameters.stationarySpeedThreshold < 0 ∨ parameters.stationaryPositionTolerance < 0 ∨
      parameters.stationaryMinimumObservations < 2 ∨
      parameters.maximumSequenceObservations = 0 ∨ parameters.scoreRoundingDecimalPlaces < 0 ∨
      15 < parameters.scoreRoundingDecimalPlaces then
    .error ⟨"native map decoder parameters are invalid"⟩
  else .ok ()

/-- `std::numbers::pi`, the double nearest to the number. -/
def numbersPi : ℚ := 884279719003555 / 2 ^ 48

/-- `validate_parameters`. -/
def validateParameters (candidate : CandidateParameters) (emission : EmissionParameters) :
    Except InvalidArgument Unit :=
  if candidate.minimumSearchRadius ≤ 0 ∨
      candidate.defaultSearchRadius < candidate.minimumSearchRadius ∨
      candidate.maximumSearchRadius < candidate.defaultSearchRadius ∨
      candidate.uncertaintyRadiusMultiplier ≤ 0 ∨ candidate.maximumOnRoadCandidates = 0 ∨
      candidate.distanceRoundingDecimalPlaces < 0 ∨
      12 < candidate.distanceRoundingDecimalPlaces ∨ emission.baseLateralSigma ≤ 0 ∨
      emission.maximumLateralSigma < emission.baseLateralSigma ∨ emission.headingSigma ≤ 0 ∨
      numbersPi < emission.headingSigma ∨ emission.headingDisabledBelowSpeed < 0 ∨
      emission.headingFullWeightSpeed ≤ emission.headingDisabledBelowSpeed ∨
      0 < emission.offMapLogLikelihood ∨ emission.scoreRoundingDecimalPlaces < 0 ∨
      15 < emission.scoreRoundingDecimalPlaces then
    .error ⟨"native map emission parameters are invalid"⟩
  else .ok ()

/-- The checks `validate_observations` makes on one observation, its identity apart. -/
def Observation.wellFormed (observation : Observation) : Bool :=
  observation.observationId ≠ "" ∧ 0 ≤ observation.speed ∧
    (∀ heading ∈ observation.headingRad, -numbersPi ≤ heading ∧ heading ≤ numbersPi) ∧
      ∀ uncertainty ∈ observation.horizontalUncertainty, 0 < uncertainty

def observationsValid : List Observation → List String → Bool
  | [], _ => true
  | observation :: rest, seen =>
      observation.wellFormed && (observation.observationId ∉ seen) &&
        observationsValid rest (observation.observationId :: seen)

/-- `validate_observations`. -/
def validateObservations (observations : List Observation) : Except InvalidArgument Unit :=
  if observations = [] then .error ⟨"native map matching requires observations"⟩
  else if ¬ observationsValid observations [] then
    .error ⟨"native map observation is invalid"⟩
  else .ok ()

end CartoSentry.Matching
