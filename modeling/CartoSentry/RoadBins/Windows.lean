import CartoSentry.RoadBins.PieceOrder
import CartoSentry.RoadBins.TraversalSums

set_option autoImplicit false

/-!
# Road bins: overlapping windows

A window of a path that is already there adds no evidence.
-/

namespace CartoSentry.RoadBins

open Foundation
open Matching (InvalidArgument)

/-! ## Evidence -/

/-- What a traversal counts for, without the samples along it. -/
structure TraversalEvidence where
  arcIndex : Nat
  longitudinalBinIndex : Nat
  sequenceId : String
  traversalOrdinal : Nat
  firstTimeNs : Int
  lastTimeNs : Int
  usableDurationNs : Int
  usableDistance : ℚ
  modalities : List ModalityAggregate
  findingIds : List String
  criticalFindingIds : List String
  deriving DecidableEq, Repr

def TraversalCoverage.evidence (traversal : TraversalCoverage) : TraversalEvidence :=
  { arcIndex := traversal.arcIndex
    longitudinalBinIndex := traversal.longitudinalBinIndex
    sequenceId := traversal.sequenceId
    traversalOrdinal := traversal.traversalOrdinal
    firstTimeNs := traversal.firstTimeNs
    lastTimeNs := traversal.lastTimeNs
    usableDurationNs := traversal.usableDurationNs
    usableDistance := traversal.usableDistance
    modalities := traversal.modalities
    findingIds := traversal.findingIds
    criticalFindingIds := traversal.criticalFindingIds }

structure BinEvidence where
  arcIndex : Nat
  longitudinalBinIndex : Nat
  startOffset : ℚ
  endOffset : ℚ
  usableDurationNs : Int
  usableDistance : ℚ
  independentTraversalCount : Nat
  traversals : List TraversalEvidence
  modalities : List ModalityAggregate
  findingIds : List String
  criticalFindingIds : List String
  deriving DecidableEq, Repr

def BinCoverage.evidence (bin : BinCoverage) : BinEvidence :=
  { arcIndex := bin.arcIndex
    longitudinalBinIndex := bin.longitudinalBinIndex
    startOffset := bin.startOffset
    endOffset := bin.endOffset
    usableDurationNs := bin.usableDurationNs
    usableDistance := bin.usableDistance
    independentTraversalCount := bin.independentTraversalCount
    traversals := bin.traversals.map TraversalCoverage.evidence
    modalities := bin.modalities
    findingIds := bin.findingIds
    criticalFindingIds := bin.criticalFindingIds }

/-- The evidence of every bin, and the bins of every finding. -/
def AggregationResult.evidence (result : AggregationResult) :
    List BinEvidence × List FindingLocalization :=
  (result.bins.map BinCoverage.evidence, result.findingLocalizations)

/-! ## Groups -/

theorem Piece.SameKey.traversalKey_eq {piece other : Piece} (h : piece.SameKey other) :
    piece.traversalKey = other.traversalKey := by
  obtain ⟨hsequence, harc, _, _, hbin, _⟩ := Piece.sortKey_eq_iff.mp h.1
  simp only [traversalKey, hsequence, harc, hbin, h.2]

/-- The pieces of one traversal in one bin, up to the copies kept. -/
structure SameGroup (group other : KeyGroup Piece) : Prop where
  keys : List.Forall₂ Piece.SameKey group.members other.members
  distance : (group.members.map Piece.distance).sum = (other.members.map Piece.distance).sum

/-- The bin in a sort key. -/
def Piece.SortKey.binIndex (key : Piece.SortKey) : Nat :=
  (ofLex (ofLex (ofLex (ofLex (ofLex key).2).2).2).2).1

/-- The distance of a traversal in a bin, read from the places of all pieces. -/
theorem distance_of_filter (pieces : List Piece) (key : TraversalKey) :
    (pieces.filter fun piece => piece.traversalKey = key).map Piece.distance =
      (((pieces.map fun piece => (piece.identity, piece.sortKey, piece.traversalOrdinal)).filter
        fun place => toLex (place.1.2.1, toLex (place.2.1.binIndex,
          toLex (place.1.1, place.2.2))) = key).map
            fun place => place.1.2.2.2.2.2 - place.1.2.2.2.2.1) := by
  rw [List.filter_map, List.map_map]
  rfl

theorem SamePieces.groups {pieces others : List Piece} (h : SamePieces pieces others) :
    List.Forall₂ SameGroup (groupAscending Piece.traversalKey pieces)
      (groupAscending Piece.traversalKey others) := by
  apply (groupAscending_forall₂ h.keys fun piece other hkey =>
    Piece.SameKey.traversalKey_eq hkey).imp
  intro group other ⟨hkeys, key, hgroup, hother⟩
  refine ⟨hkeys, ?_⟩
  rw [hgroup, hother, distance_of_filter, distance_of_filter]
  exact ((h.perm.filter _).map _).sum_eq

/-! ## Traversals -/

section Overlaps

variable {pieces others : List Piece}

theorem Piece.SameKey.overlapInterval_eq {piece other : Piece} (h : piece.SameKey other)
    (startNs endNs : Int) :
    overlapInterval startNs endNs piece = overlapInterval startNs endNs other := by
  obtain ⟨_, _, hstart, hend, _, _⟩ := Piece.sortKey_eq_iff.mp h.1
  simp only [overlapInterval, hstart, hend]

theorem overlaps_eq (h : List.Forall₂ Piece.SameKey pieces others) (startNs endNs : Int) :
    pieces.filterMap (overlapInterval startNs endNs) =
      others.filterMap (overlapInterval startNs endNs) := by
  induction h with
  | nil => rfl
  | cons hhead _ ih =>
    rw [List.filterMap_cons, List.filterMap_cons, hhead.overlapInterval_eq, ih]

theorem addEvidence_eq (h : List.Forall₂ Piece.SameKey pieces others) (sequenceId : String) :
    addEvidence pieces sequenceId = addEvidence others sequenceId := by
  funext values evidence
  simp only [addEvidence, overlaps_eq h]

theorem affects_eq (h : List.Forall₂ Piece.SameKey pieces others) (sequenceId : String) :
    FindingInterval.affects pieces sequenceId = FindingInterval.affects others sequenceId := by
  funext finding
  have hany : (pieces.any fun piece =>
        (overlapInterval finding.startTimeNs finding.endTimeNs piece).isSome) =
      others.any fun other =>
        (overlapInterval finding.startTimeNs finding.endTimeNs other).isSome := by
    induction h with
    | nil => rfl
    | cons hhead _ ih =>
      rw [List.any_cons, List.any_cons, hhead.overlapInterval_eq, ih]
  rw [FindingInterval.affects, FindingInterval.affects, hany]

end Overlaps

/-- The progress has the same times and entry. -/
def TraversalProgress.SameTimes (progress other : TraversalProgress) : Prop :=
  progress.firstTimeNs = other.firstTimeNs ∧ progress.lastTimeNs = other.lastTimeNs ∧
    progress.usableDurationNs = other.usableDurationNs ∧ progress.entryOffset = other.entryOffset

theorem TraversalProgress.add_agree {first first' piece other : Piece}
    {progress progress' : TraversalProgress} (hfirst : first.SameKey first')
    (hprogress : progress.SameTimes progress') (hkey : piece.SameKey other) :
    Agree SameTimes (progress.add first piece) (progress'.add first' other) := by
  obtain ⟨hfirstTime, hlast, hduration, hentry⟩ := hprogress
  obtain ⟨_, _, hfirstStart, _⟩ := Piece.sortKey_eq_iff.mp hfirst.1
  obtain ⟨_, _, hstart, hend, _, hpieceEntry⟩ := Piece.sortKey_eq_iff.mp hkey.1
  rw [add, add, hstart, hend, hduration]
  apply (Agree.refl (R := Eq) _ fun _ => rfl).bind
  rintro durationNs _ _ _ rfl
  apply (Agree.refl (R := Eq) _ fun _ => rfl).bind
  rintro usableDurationNs _ _ _ rfl
  refine ⟨?_, ?_, rfl, ?_⟩
  · simp only [hfirstTime]
  · simp only [hlast]
  · simp only [hfirstStart, hpieceEntry, hentry]

/-- The loops over the pieces keep the times and the entry. -/
theorem foldlM_add_agree {group other : KeyGroup Piece}
    (hkeys : List.Forall₂ Piece.SameKey group.members other.members) :
    Agree TraversalProgress.SameTimes
      (group.members.foldlM (TraversalProgress.add group.first)
        (TraversalProgress.start group.first))
      (other.members.foldlM (TraversalProgress.add other.first)
        (TraversalProgress.start other.first)) := by
  have hfirst : group.first.SameKey other.first := by
    cases hkeys with
    | cons hfirst _ => exact hfirst
  obtain ⟨_, _, hstart, hend, _, hentry⟩ := Piece.sortKey_eq_iff.mp hfirst.1
  apply Agree.foldlM hkeys
  · intro progress progress' piece piece' hsame hkey
    exact TraversalProgress.add_agree hfirst hsame hkey
  · exact ⟨hstart, hend, rfl, hentry⟩

theorem makeTraversal_agree {group other : KeyGroup Piece} (h : SameGroup group other)
    (evidence : List ModalityEvidence) (findings : List FindingInterval) (decimalPlaces : Int) :
    Agree (fun traversal traversal' => traversal.evidence = traversal'.evidence)
      (makeTraversal evidence findings decimalPlaces group)
      (makeTraversal evidence findings decimalPlaces other) := by
  have hfirst : group.first.SameKey other.first := by
    cases h.keys with
    | cons hfirst _ => exact hfirst
  obtain ⟨hsequence, harc, _, _, hbin, _⟩ := Piece.sortKey_eq_iff.mp hfirst.1
  apply (foldlM_add_agree h.keys).bind
  intro progress progress' hpieces hothers ⟨hfirstTime, hlastTime, hduration, _⟩
  have hdistance : progress.usableDistance = progress'.usableDistance := by
    rw [(TraversalProgress.sums hpieces).distance, (TraversalProgress.sums hothers).distance,
      h.distance]
    rfl
  rw [addEvidence_eq h.keys, affects_eq h.keys, hsequence]
  apply (Agree.refl (R := Eq) _ fun _ => rfl).bind
  rintro values _ _ _ rfl
  apply (Agree.refl (R := Eq) _ fun _ => rfl).bind
  rintro modalities _ _ _ rfl
  simp only [Agree.ok_ok, TraversalCoverage.evidence, hfirstTime, hlastTime, hduration, hdistance,
    harc, hbin, hfirst.2]

/-! ## Bins -/

theorem BinCoverage.addTraversal_agree {bin bin' : BinCoverage}
    {traversal traversal' : TraversalCoverage} (hbin : bin.evidence = bin'.evidence)
    (htraversal : traversal.evidence = traversal'.evidence) :
    Agree (fun next next' => next.evidence = next'.evidence) (bin.addTraversal traversal)
      (bin'.addTraversal traversal') := by
  have hduration : traversal.usableDurationNs = traversal'.usableDurationNs :=
    congrArg TraversalEvidence.usableDurationNs htraversal
  have hdistance : traversal.usableDistance = traversal'.usableDistance :=
    congrArg TraversalEvidence.usableDistance htraversal
  simp only [evidence, BinEvidence.mk.injEq] at hbin
  obtain ⟨harc, hindex, hstart, hend, hbinDuration, hbinDistance, hcount, htraversals, hmodalities,
    hfindings, hcritical⟩ := hbin
  rw [addTraversal, addTraversal, hbinDuration, hduration]
  apply (Agree.refl (R := Eq) _ fun _ => rfl).bind
  rintro usableDurationNs _ _ _ rfl
  simp only [Agree.ok_ok, evidence, List.map_append, List.map_cons, List.map_nil, harc, hindex,
    hstart, hend, hbinDistance, hdistance, hcount, htraversals, htraversal, hmodalities, hfindings,
    hcritical]

theorem BinCoverage.owns_iff {bin bin' : BinCoverage} {traversal traversal' : TraversalCoverage}
    (hbin : bin.evidence = bin'.evidence) (htraversal : traversal.evidence = traversal'.evidence) :
    bin.owns traversal ↔ bin'.owns traversal' := by
  have harc : bin.arcIndex = bin'.arcIndex := congrArg BinEvidence.arcIndex hbin
  have hindex : bin.longitudinalBinIndex = bin'.longitudinalBinIndex :=
    congrArg BinEvidence.longitudinalBinIndex hbin
  have harc' : traversal.arcIndex = traversal'.arcIndex :=
    congrArg TraversalEvidence.arcIndex htraversal
  have hindex' : traversal.longitudinalBinIndex = traversal'.longitudinalBinIndex :=
    congrArg TraversalEvidence.longitudinalBinIndex htraversal
  rw [owns, owns, harc, hindex, harc', hindex']

/-- Bins with the same evidence, one by one. -/
abbrev SameBins (bins others : List BinCoverage) : Prop :=
  List.Forall₂ (fun bin other => bin.evidence = other.evidence) bins others

theorem SameBins.refl (bins : List BinCoverage) : SameBins bins bins :=
  List.forall₂_same.mpr fun _ _ => rfl

theorem addToBins_agree {bins others : List BinCoverage} {group other : KeyGroup Piece}
    (hbins : SameBins bins others) (hgroup : SameGroup group other)
    (evidence : List ModalityEvidence) (findings : List FindingInterval)
    (parameters : Parameters) :
    Agree SameBins (addToBins evidence findings parameters bins group)
      (addToBins evidence findings parameters others other) := by
  apply (makeTraversal_agree hgroup _ _ _).bind
  intro traversal traversal' _ _ htraversal
  apply Agree.mapM
  apply hbins.imp
  intro bin bin' hbin
  by_cases howns : bin.owns traversal
  · rw [if_pos howns, if_pos ((BinCoverage.owns_iff hbin htraversal).mp howns)]
    exact BinCoverage.addTraversal_agree hbin htraversal
  · rw [if_neg howns, if_neg fun h => howns ((BinCoverage.owns_iff hbin htraversal).mpr h)]
    exact hbin

/-- The evidence of the traversals decides what their modalities come to. -/
theorem binModality_eq {traversals others : List TraversalCoverage}
    (h : traversals.map TraversalCoverage.evidence = others.map TraversalCoverage.evidence)
    (parameters : Parameters) : binModality parameters traversals = binModality parameters others := by
  funext value
  rw [binModality, binModality]
  congr 1
  funext aggregate
  generalize { aggregate with validDurationNs := 0, timestampSupportedDurationNs := 0 } = start
  induction traversals generalizing others start with
  | nil =>
    rw [List.map_nil, eq_comm, List.map_eq_nil_iff] at h
    rw [h]
  | cons traversal rest ih =>
    cases others with
    | nil => cases h
    | cons other others =>
      obtain ⟨hfirst, hrest⟩ := List.cons.inj h
      have hmodalities : traversal.modalities = other.modalities :=
        congrArg TraversalEvidence.modalities hfirst
      rw [List.foldlM_cons, List.foldlM_cons, addDurations, addDurations, hmodalities]
      exact bind_congr fun next => ih hrest next

theorem BinCoverage.finalize_agree {bin other : BinCoverage} (h : bin.evidence = other.evidence)
    (parameters : Parameters) :
    Agree (fun next next' => next.evidence = next'.evidence) (bin.finalize parameters)
      (other.finalize parameters) := by
  simp only [evidence, BinEvidence.mk.injEq] at h
  obtain ⟨harc, hindex, hstart, hend, hduration, hdistance, hcount, htraversals, _, _, _⟩ := h
  have hflat {A : Type} (f : TraversalEvidence → List A) :
      bin.traversals.flatMap (fun traversal => f traversal.evidence) =
        other.traversals.flatMap fun traversal => f traversal.evidence := by
    have hmap := congrArg (List.flatMap f) htraversals
    rwa [List.flatMap_map, List.flatMap_map] at hmap
  have hmodalities : bin.traversals.flatMap TraversalCoverage.modalities =
      other.traversals.flatMap TraversalCoverage.modalities := hflat TraversalEvidence.modalities
  have hfindings : bin.traversals.flatMap TraversalCoverage.findingIds =
      other.traversals.flatMap TraversalCoverage.findingIds := hflat TraversalEvidence.findingIds
  have hcritical : bin.traversals.flatMap TraversalCoverage.criticalFindingIds =
      other.traversals.flatMap TraversalCoverage.criticalFindingIds :=
    hflat TraversalEvidence.criticalFindingIds
  rw [finalize, finalize, hmodalities, binModality_eq htraversals]
  apply (Agree.refl (R := Eq) _ fun _ => rfl).bind
  rintro values _ _ _ rfl
  apply (Agree.refl (R := Eq) _ fun _ => rfl).bind
  rintro modalities _ _ _ rfl
  simp only [Agree.ok_ok, evidence, harc, hindex, hstart, hend, hduration, hdistance, hcount,
    htraversals, hfindings, hcritical]

theorem SameBins.map_eq {bins others : List BinCoverage} (h : SameBins bins others) :
    bins.map BinCoverage.evidence = others.map BinCoverage.evidence := by
  induction h with
  | nil => rfl
  | cons hhead _ ih => rw [List.map_cons, List.map_cons, hhead, ih]

/-- The evidence of the bins decides where a finding is. -/
theorem localize_eq {bins others : List BinCoverage} (h : SameBins bins others) :
    localize bins = localize others := by
  funext finding
  have hlocalize (list : List BinCoverage) : localize list finding =
      { findingId := finding.findingId
        binResultIndices := ((list.map BinCoverage.evidence).zipIdx.filter fun entry =>
          finding.findingId ∈ entry.1.findingIds).map Prod.snd } := by
    rw [List.zipIdx_map, List.filter_map, List.map_map]
    rfl
  rw [hlocalize, hlocalize, h.map_eq]

/-- Pieces that are the same, up to the copies kept and ties, give the same evidence. -/
theorem aggregate_agree {pieces others : Except InvalidArgument (List Piece)}
    (h : Agree SamePieces pieces others) (arcs : List Arc) (evidence : List ModalityEvidence)
    (findings : List FindingInterval) (parameters : Parameters) :
    Agree (fun result other => result.evidence = other.evidence)
      (pieces >>= aggregatePieces arcs evidence findings parameters)
      (others >>= aggregatePieces arcs evidence findings parameters) := by
  apply h.bind
  intro pieces others _ _ hsame
  apply (Agree.refl (R := Eq) _ fun _ => rfl).bind
  rintro bins _ _ _ rfl
  have hbins : Agree SameBins
      ((groupAscending Piece.traversalKey pieces).foldlM (addToBins evidence findings parameters)
        bins)
      ((groupAscending Piece.traversalKey others).foldlM (addToBins evidence findings parameters)
        bins) := by
    apply Agree.foldlM hsame.groups
    · intro bins bins' group other hbins hgroup
      exact addToBins_agree hbins hgroup evidence findings parameters
    · exact SameBins.refl bins
  apply hbins.bind
  intro accumulated accumulated' _ _ haccumulated
  have hfinalized : Agree SameBins (accumulated.mapM (BinCoverage.finalize parameters))
      (accumulated'.mapM (BinCoverage.finalize parameters)) := by
    apply Agree.mapM
    apply haccumulated.imp
    intro bin other hbin
    exact BinCoverage.finalize_agree hbin parameters
  apply hfinalized.bind
  intro finalized finalized' _ _ hfinalized
  rw [localize_eq hfinalized]
  simp only [Agree.ok_ok, AggregationResult.evidence, hfinalized.map_eq]

/-! ## The result -/

namespace Crossing

def parameters : Parameters :=
  { binLength := 20
    independentTraversalMinimumGapNs := 300
    maximumPaths := 8
    maximumPointsPerPath := 8
    maximumTotalPoints := 32
    maximumGeneratedBins := 8
    maximumModalityEvidenceIntervals := 8
    maximumFindings := 8
    distanceRoundingDecimalPlaces := 6 }

def arcs : List Arc :=
  [{ arcId := "arc", length := 45 }]

def pointAt (timeNs : Int) (offset speed : ℚ) : MatchedPoint :=
  { timeNs := timeNs
    arcIndex := some 0
    alongArcOffset := some offset
    confident := true
    stationary := false
    speed := speed
    headingRad := none }

def drive : MatchedPath :=
  { roadMatchId := "drive"
    sequenceId := "sequence"
    sourceGroupId := "group"
    points := [pointAt 1000 5 2, pointAt 1010 15 4, pointAt 1020 30 5] }

/-- The last two points of the drive. -/
def window : MatchedPath :=
  { drive with
    roadMatchId := "window"
    points := [pointAt 1010 15 4, pointAt 1020 30 5] }

end Crossing

end CartoSentry.RoadBins
