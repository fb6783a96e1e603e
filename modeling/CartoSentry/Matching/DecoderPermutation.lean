import Mathlib.Data.List.Forall2
import CartoSentry.Matching.DecoderRefinement

set_option autoImplicit false

/-!
# Road matching: the order of candidates in a batch

Decoding does not depend on the order of the candidates inside the batches: a step
of the beam of entries reads a batch as a set, and the sorting that follows leaves
no choice, since no two entries have one key.
-/

namespace CartoSentry.Matching

open Foundation.BeamSearch

/-! ## Permuted batches -/

theorem batchAt_perm {batches other : List (List Candidate)}
    (h : List.Forall₂ List.Perm batches other) (observationIndex : Nat) :
    (batchAt other observationIndex).Perm (batchAt batches observationIndex) := by
  induction h generalizing observationIndex with
  | nil => exact List.Perm.refl _
  | cons hbatch _ ih =>
    cases observationIndex with
    | zero => exact hbatch.symm
    | succ observationIndex => exact ih observationIndex

theorem map_length_perm {batches other : List (List Candidate)}
    (h : List.Forall₂ List.Perm batches other) :
    other.map List.length = batches.map List.length := by
  induction h with
  | nil => rfl
  | cons hbatch _ ih => rw [List.map_cons, List.map_cons, hbatch.length_eq, ih]

theorem BatchValid.perm {graph : Graph} {observationIndex : Nat} {batch other : List Candidate}
    (h : BatchValid graph observationIndex batch) (hperm : other.Perm batch) :
    BatchValid graph observationIndex other where
  nonempty := fun hempty => h.nonempty (hempty ▸ hperm).nil_eq.symm
  references := fun candidate hcandidate => h.references candidate (hperm.subset hcandidate)
  identities := (hperm.map _).nodup_iff.mpr h.identities

/-- The input with other batches. -/
def DecoderInput.withBatches (input : DecoderInput) (batches : List (List Candidate)) :
    DecoderInput :=
  { input with batches := batches }

theorem stationaryFrom_withBatches (math : NativeMath) (input : DecoderInput)
    (batches : List (List Candidate)) (fuel : Nat) (observations : List Observation) :
    stationaryFrom math (input.withBatches batches) fuel observations =
      stationaryFrom math input fuel observations := by
  induction fuel generalizing observations with
  | zero => rfl
  | succ fuel ih =>
    cases observations with
    | nil => rfl
    | cons observation rest =>
      unfold stationaryFrom
      simp only [ih]
      rfl

section Permuted

variable {math : NativeMath} {input : DecoderInput} {batches : List (List Candidate)}
  (hvalid : input.Valid) (hperm : List.Forall₂ List.Perm input.batches batches)

include hvalid hperm

theorem DecoderInput.Valid.withBatches : (input.withBatches batches).Valid := by
  have hcount : batches.length = input.observations.length := by
    rw [← hperm.length_eq, hvalid.count]
  refine ⟨hvalid.graph, hvalid.observations, hvalid.transition, hvalid.decoder, hvalid.budget,
    hcount, (validateBatches_eq_ok_iff hcount).mpr ⟨hvalid.times_chain, ?_⟩⟩
  intro observationIndex hindex
  have hbatch := (hvalid.batchValid (by rw [← hcount]; exact hindex)).perm
    (batchAt_perm hperm observationIndex)
  rw [batchAt, List.getD_eq_getElem _ _ hindex] at hbatch
  rw [Nat.zero_add]
  exact hbatch

omit hvalid in
variable (math) in
theorem expand_perm (observationIndex : Nat) (beam : List (Entry Candidate ℚ)) :
    (expand (decoderTrellis math (input.withBatches batches)) observationIndex beam).Perm
      (expand (decoderTrellis math input) observationIndex beam) := by
  unfold expand
  apply List.Perm.flatMap_left
  intro entry _
  exact (batchAt_perm hperm (observationIndex + 1)).filterMap _

omit hperm in
variable (math) in
/-- A sorted list of feasible entries is determined by its members. -/
theorem sortEntries_perm {observationIndex : Nat}
    (hindex : observationIndex < input.observations.length)
    {left right : List (Entry Candidate ℚ)} (hmembers : left.Perm right)
    (hfeasible : ∀ entry ∈ right, Feasible (decoderTrellis math input) observationIndex entry) :
    sortEntries left = sortEntries right := by
  have hsorted (entries : List (Entry Candidate ℚ)) :
      (sortEntries entries).Perm entries := List.perm_insertionSort _ entries
  apply @List.Perm.eq_of_pairwise _ fun first second => entryKey first ≤ entryKey second
  · intro first second hfirst hsecond hle hge
    have hfirst' := hfeasible first (hmembers.subset ((hsorted left).subset hfirst))
    have hsecond' := hfeasible second ((hsorted right).subset hsecond)
    have hsame : entryKey first = entryKey second := le_antisymm hle hge
    have hkey : entryIdentities first = entryIdentities second :=
      congrArg (fun key => (ofLex key).2) hsame
    exact hfirst'.unique hsecond' (path_of_identities hvalid hindex hfirst' hsecond' hkey)
  · exact List.pairwise_insertionSort _ _
  · exact List.pairwise_insertionSort _ _
  · exact (hsorted left).trans (hmembers.trans (hsorted right).symm)

theorem startEntries_perm :
    startEntries math (input.withBatches batches) = startEntries math input := by
  have hindex := List.length_pos_of_ne_nil hvalid.observations_ne_nil
  apply sortEntries_perm math hvalid hindex ((batchAt_perm hperm 0).map _)
  intro entry hentry
  obtain ⟨candidate, hcandidate, rfl⟩ := List.mem_map.mp hentry
  exact .start hcandidate

variable (math) in
/-- The beam of entries is the same for permuted batches. -/
theorem entriesAfter_perm {observationIndex : Nat}
    (hindex : observationIndex < input.observations.length) :
    entriesAfter math (input.withBatches batches) observationIndex =
      entriesAfter math input observationIndex := by
  induction observationIndex with
  | zero =>
    rw [entriesAfter, entriesAfter, entryStart, startEntries_perm hvalid hperm]
    rfl
  | succ observationIndex ih =>
    rw [entriesAfter, entriesAfter, ih (by omega)]
    cases hstate : entriesAfter math input observationIndex with
    | error failure => rfl
    | ok state =>
      obtain ⟨hfeasible, -, -⟩ := entriesAfter_sound hvalid (by omega) hstate
      have hexpanded := expand_perm math hperm observationIndex state.beam
      have hsorted : sortEntries (expand (decoderTrellis math (input.withBatches batches))
          observationIndex state.beam) =
            sortEntries (expand (decoderTrellis math input) observationIndex state.beam) := by
        apply sortEntries_perm math hvalid hindex hexpanded
        intro entry hentry
        obtain ⟨previous, hprevious, c, hc, f, hf, rfl⟩ := mem_expand.mp hentry
        exact .step (hfeasible previous hprevious) hc hf
      have hpruned : pruneEntries (input.withBatches batches)
          (expand (decoderTrellis math (input.withBatches batches)) observationIndex state.beam) =
            pruneEntries input (expand (decoderTrellis math input) observationIndex state.beam) := by
        unfold pruneEntries
        rw [hsorted]
        rfl
      have hbatch : (batchAt (input.withBatches batches).batches (observationIndex + 1)).length =
          (batchAt input.batches (observationIndex + 1)).length :=
        (batchAt_perm hperm (observationIndex + 1)).length_eq
      have hempty : (expand (decoderTrellis math (input.withBatches batches))
          observationIndex state.beam).isEmpty =
            (expand (decoderTrellis math input) observationIndex state.beam).isEmpty := by
        rw [Bool.eq_iff_iff, List.isEmpty_iff_length_eq_zero, List.isEmpty_iff_length_eq_zero,
          hexpanded.length_eq]
      simp only [bind, Except.bind, entryStep, hpruned, hbatch, hempty, hexpanded.length_eq]
      rfl

theorem decodeEntries_perm :
    decodeEntries math (input.withBatches batches) = decodeEntries math input := by
  have hindex : input.observations.length - 1 < input.observations.length := by
    have hpos := List.length_pos_of_ne_nil hvalid.observations_ne_nil
    omega
  have hentries := entriesAfter_perm math hvalid hperm hindex
  have hcounts : batches.map List.length = input.batches.map List.length :=
    map_length_perm hperm
  have habsent : (batches.map fun _ => (none : Option Candidate)) =
      input.batches.map fun _ => none := by
    rw [List.map_const', List.map_const', hperm.length_eq]
  have hresult (state : EntryState) (best : Entry Candidate ℚ)
      (runner : Option (Entry Candidate ℚ)) :
      resultOf math (input.withBatches batches) state best runner =
        resultOf math input state best runner := by
    unfold resultOf stationaryFlags
    rw [stationaryFrom_withBatches]
    simp only [DecoderInput.withBatches, hcounts, habsent]
    rfl
  unfold decodeEntries
  simp only [hresult]
  rw [← hentries]
  rfl

end Permuted

/-- Decoding permuted batches returns the same sequences with the same scores, flags,
intervals and counts, or throws the same exception; and the ranks of the beam follow
the lexicographic order of its identity sequences after every observation. -/
theorem decode_permuted (math : NativeMath) {input : DecoderInput}
    (hvalid : validateDecoderInput input = .ok ()) :
    (∀ batches, List.Forall₂ List.Perm input.batches batches →
      (decodeCandidateBatches math (input.withBatches batches)).map
          (DecodeResult.sequences batches) =
        (decodeCandidateBatches math input).map (DecodeResult.sequences input.batches)) ∧
      ∀ observationIndex < input.observations.length, ∀ state,
        beamAfter math input observationIndex = .ok state →
          ∀ left ∈ state.beam, ∀ right ∈ state.beam,
            left.lexicographicRank < right.lexicographicRank ↔
              left.identities input.batches < right.identities input.batches := by
  have hchecked := validateDecoderInput_eq_ok_iff.mp hvalid
  constructor
  · intro batches hperm
    have hrefines := decode_refines math (hchecked.withBatches hperm)
    rw [decodeEntries_perm hchecked hperm, ← decode_refines math hchecked] at hrefines
    exact hrefines
  · intro observationIndex hindex state hstate
    have hbeam := beamAfter_refines math hchecked hindex
    rw [hstate] at hbeam
    exact hbeam.2.ranked

/-! ## Two observations on the loop road -/

namespace LoopRoad

/-- The values of the library's functions at the arguments that occur on the road: the
lengths of its two halves, and the doubles nearest to the square root of twice the
number pi and to the logarithm of five times that. -/
def math : NativeMath where
  hypot := fun x y => max |x| |y|
  sqrt := fun x =>
    if x = 0 then 0 else if x = 2500 then 50 else 5644425081792261 / 2 ^ 51
  log := fun _ => 5693397609215559 / 2 ^ 51
  atan2 := fun _ x => if 0 ≤ x then 0 else numbersPi

def observationAt (observationId : String) (seconds : Int) (x : ℚ) : Observation where
  observationId := observationId
  timeNs := seconds * 1000000000
  position := ⟨x, 0⟩
  headingRad := none
  speed := 20
  horizontalUncertainty := none

/-- The candidate that leaves the map. -/
def offRoad (observationIndex : Nat) : Candidate where
  candidateId := "off-map"
  observationIndex := observationIndex
  arcIndex := none
  projectedPosition := none
  lateralDistance := none
  tangentHeading := none
  alongArcOffset := none
  searchRadius := 20
  emission := { lateralSigma := none, lateralLogLikelihood := none, headingUsed := false,
                headingWeight := 0, headingDifference := none, headingLogLikelihood := none,
                offMapLogLikelihood := some (-6), totalLogLikelihood := -6 }

def candidateParameters : CandidateParameters where
  minimumSearchRadius := 5
  defaultSearchRadius := 20
  maximumSearchRadius := 50
  uncertaintyRadiusMultiplier := 3
  maximumOnRoadCandidates := 8
  distanceRoundingDecimalPlaces := 6

def decoderParameters : DecoderParameters where
  beamWidth := 8
  hypothesesPerTerminalCandidate := 2
  beamScoreDelta := 100
  ambiguityPathSeparation := 1
  stationarySpeedThreshold := 1
  stationaryPositionTolerance := 5
  stationaryMinimumObservations := 3
  maximumSequenceObservations := 100
  scoreRoundingDecimalPlaces := 12

/-- From 10 to 30 in one second, on the road or off the map at either end. -/
def decoderInput : DecoderInput where
  graph := graph
  observations := [observationAt "first" 0 10, observationAt "second" 1 30]
  batches := [[candidateAt 0 10, offRoad 0], [candidateAt 1 30, offRoad 1]]
  candidateParameters := candidateParameters
  transitionParameters := parameters
  decoderParameters := decoderParameters

/-- The batches with the candidates off the map first. -/
def swappedBatches : List (List Candidate) :=
  [[offRoad 0, candidateAt 0 10], [offRoad 1, candidateAt 1 30]]

theorem decode_swapped :
    (decodeCandidateBatches math (decoderInput.withBatches swappedBatches)).map
        (DecodeResult.sequences swappedBatches) =
      (decodeCandidateBatches math decoderInput).map
        (DecodeResult.sequences decoderInput.batches) := by
  apply (@decode_permuted math decoderInput (by decide +kernel)).1
  exact .cons (List.Perm.swap _ _ _) (.cons (List.Perm.swap _ _ _) .nil)

end LoopRoad

end CartoSentry.Matching
