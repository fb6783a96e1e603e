import CartoSentry.MotionAlignment.FrameScan

set_option autoImplicit false

/-!
# Motion alignment: the order of the points

Where sums do not depend on the order of their terms, an analysis depends on the points of each
frame only up to their order, the representative offsets apart.
-/

namespace CartoSentry.MotionAlignment

open Contracts (Raised raiseIf)
open Foundation (Agree bind_eq_ok_iff)

variable {K : Type}

/-- Terms can be added in any order. -/
def Arithmetic.Orderless (arithmetic : Arithmetic K) : Prop :=
  ∀ sum left right, arithmetic.add (arithmetic.add sum left) right =
    arithmetic.add (arithmetic.add sum right) left

/-! ## Without the offsets -/

def FrameAlignmentEvidence.anonymous (evidence : FrameAlignmentEvidence K) :
    FrameAlignmentEvidence K :=
  { evidence with representativeUnsupportedOffsets := [] }

def LidarAlignmentReport.anonymous (report : LidarAlignmentReport K) : LidarAlignmentReport K :=
  { report with frames := report.frames.map FrameAlignmentEvidence.anonymous }

/-- The same frame with its points in another order. -/
def SamePoints (frame other : AlignmentFrameInput K) : Prop :=
  frame.points.Perm other.points ∧ frame = { other with points := frame.points }

namespace LidarMotionAlignmentAnalyzer

def FrameTally.anonymous (tally : FrameTally K) : FrameTally K :=
  { tally with offsets := [] }

def ProcessedFrame.anonymous (processed : ProcessedFrame K) : ProcessedFrame K :=
  { processed with evidence := processed.evidence.anonymous }

/-! ## One frame -/

section Frame

variable {analyzer : LidarMotionAlignmentAnalyzer K}
  {outcomes outcomes' : List (PointOutcome K)} {tally tally' : FrameTally K}

/-- Points can be added to an accumulator in any order. -/
theorem add_right_comm (horder : analyzer.arithmetic.Orderless) (voxel : VoxelAccumulator K)
    (left right : Vector K) :
    (voxel.add analyzer.arithmetic left).add analyzer.arithmetic right =
      (voxel.add analyzer.arithmetic right).add analyzer.arithmetic left := by
  unfold VoxelAccumulator.add
  dsimp only
  rw [horder voxel.sumX, horder voxel.sumY, horder voxel.sumZ, horder voxel.sumX2,
    horder voxel.sumY2, horder voxel.sumZ2]

theorem accumulated_of_perm (horder : analyzer.arithmetic.Orderless)
    {points others : List (Vector K)} (h : points.Perm others) : analyzer.accumulated points = analyzer.accumulated others :=
  h.foldl_eq' (fun left _ right _ voxel => add_right_comm horder voxel left right) _

theorem cellsOf_of_perm (h : outcomes.Perm outcomes') : cellsOf outcomes = cellsOf outcomes' :=
  List.toFinset_eq_of_perm _ _ ((h.filterMap _).map _)

/-- The variables of a pass do not depend on the order of the outcomes. -/
theorem anonymous_of_perm (horder : analyzer.arithmetic.Orderless)
    (hscanned : Scanned analyzer outcomes tally) (hscanned' : Scanned analyzer outcomes' tally')
    (h : outcomes.Perm outcomes') : tally.anonymous = tally'.anonymous := by
  have hretained : tally.retained = tally'.retained := by
    rw [hscanned.retained, hscanned'.retained, h.countP_eq]
  have hunsupported : tally.unsupported = tally'.unsupported := by
    rw [hscanned.unsupported, hscanned'.unsupported, h.countP_eq]
  have hposes : tally.poseEvaluations = tally'.poseEvaluations := by
    rw [hscanned.poseEvaluations, hscanned'.poseEvaluations, hretained, hunsupported]
  have htruth := h.filterMap PointOutcome.truth?
  have herror : tally.truthSquaredError = tally'.truthSquaredError := by
    rw [hscanned.truthSquaredError, hscanned'.truthSquaredError]
    exact htruth.foldl_eq' (fun left _ right _ sum => horder sum left right) _
  have hvoxels : tally.voxels = tally'.voxels := by
    have hcells : tally.voxels.cells = tally'.voxels.cells := by
      rw [hscanned.cells, hscanned'.cells, cellsOf_of_perm h]
    have haccumulators : tally.voxels.accumulator = tally'.voxels.accumulator := by
      funext cell
      rw [hscanned.accumulator, hscanned'.accumulator]
      exact accumulated_of_perm horder ((h.filterMap _).filterMap _)
    exact VoxelMap.ext hcells haccumulators
  unfold FrameTally.anonymous
  rw [hretained, hunsupported, hposes, herror, hvoxels, hscanned.pointCount, hscanned'.pointCount,
    h.length_eq, hscanned.dynamic, hscanned'.dynamic, h.countP_eq, hscanned.nearEgo,
    hscanned'.nearEgo, h.countP_eq, hscanned.measurementTimes, hscanned'.measurementTimes,
    List.toFinset_eq_of_perm _ _ (h.filterMap PointOutcome.time?), hscanned.truthCount,
    hscanned'.truthCount, htruth.length_eq]

theorem Examined.of_perm {referenceTimeNs : Int} {points others : List (AlignmentPointInput K)}
    (h : Examined analyzer referenceTimeNs points outcomes) (hperm : others.Perm points) :
    ∃ outcomes', Examined analyzer referenceTimeNs others outcomes' ∧ outcomes'.Perm outcomes :=
  List.perm_comp_forall₂ hperm h

/-- The passes over the points of a frame agree. -/
theorem foldlM_agree (horder : analyzer.arithmetic.Orderless) (referenceTimeNs : Int)
    {points others : List (AlignmentPointInput K)} (hperm : points.Perm others) :
    Agree (fun tally tally' => tally.anonymous = tally'.anonymous)
      (points.foldlM (analyzer.processPoint referenceTimeNs) (FrameTally.start analyzer))
      (others.foldlM (analyzer.processPoint referenceTimeNs) (FrameTally.start analyzer)) := by
  have hreturns : ∀ {points others : List (AlignmentPointInput K)}, others.Perm points →
      (∃ tally, points.foldlM (analyzer.processPoint referenceTimeNs) (FrameTally.start analyzer) =
        .ok tally) →
      ∃ tally, others.foldlM (analyzer.processPoint referenceTimeNs) (FrameTally.start analyzer) =
        .ok tally := by
    intro points others hperm hpoints
    rw [scan_iff] at hpoints ⊢
    obtain ⟨outcomes, hexamined, hbudget⟩ := hpoints
    obtain ⟨outcomes', hexamined', hsame⟩ := hexamined.of_perm hperm
    refine ⟨outcomes', hexamined', ?_, ?_⟩
    · rw [hsame.length_eq]
      exact hbudget.points
    · rw [cellsOf_of_perm hsame]
      exact hbudget.voxels
  cases hpoints : points.foldlM (analyzer.processPoint referenceTimeNs)
      (FrameTally.start analyzer) with
  | error e =>
    cases hothers : others.foldlM (analyzer.processPoint referenceTimeNs)
        (FrameTally.start analyzer) with
    | error e' => exact Agree.error_error
    | ok tally' =>
      obtain ⟨tally, htally⟩ := hreturns hperm ⟨tally', hothers⟩
      rw [hpoints] at htally
      cases htally
  | ok tally =>
    obtain ⟨tally', htally'⟩ := hreturns hperm.symm ⟨tally, hpoints⟩
    rw [htally']
    obtain ⟨outcomes, hexamined, hscanned⟩ := scan_spec hpoints
    obtain ⟨outcomes', hexamined', hscanned'⟩ := scan_spec htally'
    obtain ⟨rearranged, hrearranged, hsame⟩ := hexamined.of_perm hperm.symm
    obtain rfl := Examined.unique hexamined' hrearranged
    exact anonymous_of_perm horder hscanned hscanned' hsame.symm

/-- The evidence of a frame but for its offsets. -/
theorem frameEvidence_anonymous {frame other : AlignmentFrameInput K}
    (hframe : frame = { other with points := frame.points })
    (htally : tally.anonymous = tally'.anonymous) (reference : Option (RigidTransform K)) :
    (analyzer.frameEvidence frame tally reference).anonymous =
      (analyzer.frameEvidence other tally' reference).anonymous := by
  have hforget : ∀ (item : AlignmentFrameInput K) (passed : FrameTally K),
      (analyzer.frameEvidence item passed reference).anonymous =
        analyzer.frameEvidence { item with points := [] } passed.anonymous reference :=
    fun _ _ => rfl
  rw [hforget, hforget, htally, hframe]

theorem validateFrameEvidence_congr {evidence other : FrameAlignmentEvidence K}
    (h : evidence.anonymous = other.anonymous) :
    analyzer.validateFrameEvidence evidence = analyzer.validateFrameEvidence other := by
  have hforget : ∀ item : FrameAlignmentEvidence K,
      analyzer.validateFrameEvidence item = analyzer.validateFrameEvidence item.anonymous :=
    fun _ => rfl
  rw [hforget, h, ← hforget]

theorem scanFrame_agree (horder : analyzer.arithmetic.Orderless)
    {frame other : AlignmentFrameInput K} (h : SamePoints frame other) :
    Agree (fun processed processed' => processed.anonymous = processed'.anonymous)
      (analyzer.scanFrame frame) (analyzer.scanFrame other) := by
  obtain ⟨hperm, hframe⟩ := h
  have htime : frame.referenceTimeNs = other.referenceTimeNs := by rw [hframe]
  unfold scanFrame
  rw [htime]
  refine (Agree.refl (R := Eq) (analyzer.referenceTransform other.referenceTimeNs)
    fun _ => rfl).bind ?_
  rintro reference _ _ _ rfl
  refine (foldlM_agree horder other.referenceTimeNs hperm).bind ?_
  intro tally tally' _ _ htally
  have hevidence : (analyzer.frameEvidence frame tally reference).anonymous =
      (analyzer.frameEvidence other tally' reference).anonymous :=
    frameEvidence_anonymous hframe htally reference
  have hvalid : analyzer.validateFrameEvidence _ = analyzer.validateFrameEvidence _ :=
    validateFrameEvidence_congr (congrArg ProcessedFrame.evidence hevidence)
  dsimp only
  rw [hvalid]
  exact (Agree.refl (R := Eq) (analyzer.validateFrameEvidence _) fun _ => rfl).bind
    fun _ _ _ _ _ => hevidence

end Frame

/-! ## Frames that follow each other -/

section Frames

variable {analyzer : LidarMotionAlignmentAnalyzer K}

/-- The evidence of a pair does not depend on the offsets. -/
theorem pair_congr {left left' right right' : ProcessedFrame K}
    (hleft : left.anonymous = left'.anonymous) (hright : right.anonymous = right'.anonymous) :
    analyzer.pair left right = analyzer.pair left' right' := by
  have hforget : ∀ first second : ProcessedFrame K,
      analyzer.pair first second = analyzer.pair first.anonymous second.anonymous :=
    fun _ _ => rfl
  rw [hforget, hleft, hright, ← hforget]

/-- Two checks of one condition. -/
theorem raiseIf_agree {condition condition' : Prop} [Decidable condition] [Decidable condition']
    {message : String} (h : condition ↔ condition') :
    Agree (fun _ _ => True) (raiseIf condition message) (raiseIf condition' message) := by
  by_cases hcondition : condition
  · rw [raiseIf, if_pos hcondition, raiseIf, if_pos (h.mp hcondition)]
    exact Agree.error_error
  · rw [raiseIf, if_neg hcondition, raiseIf, if_neg (mt h.mpr hcondition)]
    trivial

/-- The index of the last frame does not depend on the offsets. -/
theorem exists_last_anonymous (frames : List (FrameAlignmentEvidence K)) (index : Int) :
    (∃ last ∈ (frames.map FrameAlignmentEvidence.anonymous).getLast?, index ≤ last.frameIndex) ↔
      ∃ last ∈ frames.getLast?, index ≤ last.frameIndex := by
  rw [List.getLast?_map]
  constructor
  · rintro ⟨_, hmem, hle⟩
    obtain ⟨last, hlast, rfl⟩ := Option.mem_map.mp hmem
    exact ⟨last, hlast, hle⟩
  · rintro ⟨last, hlast, hle⟩
    exact ⟨last.anonymous, Option.mem_map_of_mem _ hlast, hle⟩

/-- The same progress but for the offsets. -/
structure SameProgress (progress progress' : Progress K) : Prop where
  frames : progress.frames.map FrameAlignmentEvidence.anonymous =
    progress'.frames.map FrameAlignmentEvidence.anonymous
  pairs : progress.pairs = progress'.pairs
  previous : progress.previous.map ProcessedFrame.anonymous =
    progress'.previous.map ProcessedFrame.anonymous

theorem SameProgress.length {progress progress' : Progress K}
    (h : SameProgress progress progress') :
    progress.frames.length = progress'.frames.length := by
  have hmapped := congrArg List.length h.frames
  rwa [List.length_map, List.length_map] at hmapped

/-- One more frame on both sides. -/
theorem SameProgress.append {progress progress' : Progress K} (h : SameProgress progress progress')
    {processed processed' : ProcessedFrame K}
    (hprocessed : processed.anonymous = processed'.anonymous)
    (pairs : List (PairAlignmentEvidence K)) :
    SameProgress ⟨progress.frames ++ [processed.evidence], pairs, some processed⟩
      ⟨progress'.frames ++ [processed'.evidence], pairs, some processed'⟩ where
  frames := by
    have hevidence : processed.evidence.anonymous = processed'.evidence.anonymous :=
      congrArg ProcessedFrame.evidence hprocessed
    rw [List.map_append, List.map_append, h.frames, List.map_singleton, List.map_singleton,
      hevidence]
  pairs := rfl
  previous := congrArg some hprocessed

theorem processFrame_agree (horder : analyzer.arithmetic.Orderless)
    {progress progress' : Progress K} (hprogress : SameProgress progress progress')
    {frame other : AlignmentFrameInput K} (h : SamePoints frame other) :
    Agree SameProgress (analyzer.processFrame progress frame)
      (analyzer.processFrame progress' other) := by
  have hindex : frame.frameIndex = other.frameIndex := by rw [h.2]
  unfold processFrame
  refine (raiseIf_agree (by rw [hprogress.length])).bind fun _ _ _ _ _ => ?_
  refine (raiseIf_agree ?_).bind fun _ _ _ _ _ => ?_
  · rw [← exists_last_anonymous progress.frames, ← exists_last_anonymous progress'.frames,
      hprogress.frames, hindex]
  refine (scanFrame_agree horder h).bind fun processed processed' _ _ hprocessed => ?_
  dsimp only
  have hprevious := hprogress.previous
  cases hslot : progress.previous with
  | none =>
    rw [hslot, Option.map_none, eq_comm, Option.map_eq_none_iff] at hprevious
    rw [hprevious, hprogress.pairs]
    exact hprogress.append hprocessed _
  | some previous =>
    rw [hslot, Option.map_some, eq_comm, Option.map_eq_some_iff] at hprevious
    obtain ⟨previous', hslot', hsame⟩ := hprevious
    rw [hslot', hprogress.pairs]
    refine (raiseIf_agree Iff.rfl).bind fun _ _ _ _ _ => ?_
    rw [pair_congr hsame.symm hprocessed]
    exact (Agree.refl (R := Eq) _ fun _ => rfl).bind fun _ _ _ _ hevidence => by
      rw [hevidence]
      exact hprogress.append hprocessed _

/-- The report on frames but for its offsets. -/
theorem finalize_agree {progress progress' : Progress K} (h : SameProgress progress progress') :
    Agree (fun report report' => report.anonymous = report'.anonymous)
      (analyzer.finalize progress) (analyzer.finalize progress') := by
  unfold finalize
  refine (raiseIf_agree (by rw [h.length])).bind fun _ _ _ _ _ => ?_
  have hkept : ∀ count : FrameAlignmentEvidence K → Nat,
      (∀ evidence, count evidence.anonymous = count evidence) →
        progress.frames.map count = progress'.frames.map count := by
    intro count hcount
    have hmapped := congrArg (List.map count) h.frames
    rw [List.map_map, List.map_map] at hmapped
    have hcounts : count ∘ FrameAlignmentEvidence.anonymous = count := funext hcount
    rwa [hcounts] at hmapped
  have hpoints := hkept FrameAlignmentEvidence.inputPointCount fun _ => rfl
  have hvoxels := hkept FrameAlignmentEvidence.occupiedVoxelCount fun _ => rfl
  rw [hpoints, hvoxels, h.pairs, h.length]
  unfold LidarAlignmentReport.anonymous
  exact congrArg (fun frames => LidarAlignmentReport.mk _ _ _ _ _ frames _) h.frames

/-- An analysis of the same points in other orders raises alike, and reports the same but for
the representative offsets. -/
theorem analyze_agree (horder : analyzer.arithmetic.Orderless)
    {frames others : List (AlignmentFrameInput K)} (h : List.Forall₂ SamePoints frames others) :
    Agree (fun report report' => report.anonymous = report'.anonymous)
      (analyzer.analyze frames) (analyzer.analyze others) := by
  unfold analyze
  refine (Agree.refl (R := Eq) analyzer.validate fun _ => rfl).bind fun _ _ _ _ _ => ?_
  refine (Agree.foldlM (S := SameProgress) h (fun _ _ _ _ hprogress hframe =>
    processFrame_agree horder hprogress hframe) ⟨rfl, rfl, rfl⟩).bind fun _ _ _ _ hprogress => ?_
  exact finalize_agree hprogress

end Frames

end LidarMotionAlignmentAnalyzer

end CartoSentry.MotionAlignment
