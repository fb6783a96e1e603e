import CartoSentry.MotionAlignment.FrameScan

set_option autoImplicit false

/-!
# Motion alignment: the report of a run

A report holds the evidence of its frames and of their consecutive pairs.  Its counters add up,
and it passes where every pair is observable and within its limits.
-/

namespace CartoSentry.MotionAlignment.LidarMotionAlignmentAnalyzer

open Contracts (Raised raiseIf raiseIf_eq_ok_iff)
open Foundation (bind_eq_ok_iff bind_unit_eq_ok_iff exists_left_of_mem exists_right_of_mem)

variable {K : Type}

/-! ## Consecutive pairs -/

/-- The pairs of neighbours in a list. -/
def neighbours {A : Type} : List A → List (A × A)
  | left :: right :: rest => (left, right) :: neighbours (right :: rest)
  | _ => []

theorem neighbours_concat {A : Type} {items : List A} {last : A} (h : items.getLast? = some last)
    (item : A) : neighbours (items ++ [item]) = neighbours items ++ [(last, item)] := by
  induction items with
  | nil => cases h
  | cons first rest ih =>
    cases rest with
    | nil =>
      obtain rfl := Option.some.inj h
      rfl
    | cons second rest =>
      rw [List.getLast?_cons_cons] at h
      exact congrArg (List.cons (first, second)) (ih h)

/-- In a list of two or more, everything has a neighbour. -/
theorem exists_neighbour {A : Type} {items : List A} (h : 2 ≤ items.length) {item : A}
    (hitem : item ∈ items) : ∃ two ∈ neighbours items, two.1 = item ∨ two.2 = item := by
  induction items with
  | nil => cases hitem
  | cons first rest ih =>
    cases rest with
    | nil => exact absurd h (by simp)
    | cons second rest =>
      rcases List.mem_cons.mp hitem with rfl | hitem
      · exact ⟨(item, second), List.mem_cons_self, .inl rfl⟩
      · cases rest with
        | nil =>
          obtain rfl := List.mem_singleton.mp hitem
          exact ⟨(first, item), List.mem_cons_self, .inr rfl⟩
        | cons third rest =>
          obtain ⟨two, htwo, hends⟩ := ih (by simp) hitem
          exact ⟨two, List.mem_cons_of_mem _ htwo, hends⟩

/-! ## A run -/

variable {analyzer : LidarMotionAlignmentAnalyzer K}

/-- The frames of a run, with the evidence of their neighbours. -/
structure Run (analyzer : LidarMotionAlignmentAnalyzer K) (frames : List (AlignmentFrameInput K))
    (processed : List (ProcessedFrame K)) (pairs : List (PairAlignmentEvidence K)) : Prop where
  scanned : List.Forall₂ (fun frame item => analyzer.scanFrame frame = .ok item) frames processed
  paired : List.Forall₂ (fun two evidence => analyzer.pair two.1 two.2 = .ok evidence)
    (neighbours processed) pairs

theorem Run.empty (analyzer : LidarMotionAlignmentAnalyzer K) : Run analyzer [] [] [] :=
  ⟨.nil, .nil⟩

/-- The analyzer after the frames of a run. -/
structure Reached (progress : Progress K) (processed : List (ProcessedFrame K))
    (pairs : List (PairAlignmentEvidence K)) : Prop where
  frames : progress.frames = processed.map ProcessedFrame.evidence
  pairs : progress.pairs = pairs
  previous : progress.previous = processed.getLast?

theorem processFrame_spec {frames : List (AlignmentFrameInput K)}
    {processed : List (ProcessedFrame K)} {pairs : List (PairAlignmentEvidence K)}
    {progress next : Progress K} (hrun : Run analyzer frames processed pairs)
    (hreached : Reached progress processed pairs) {frame : AlignmentFrameInput K}
    (h : analyzer.processFrame progress frame = .ok next) :
    ∃ item more, Run analyzer (frames ++ [frame]) (processed ++ [item]) more ∧
      Reached next (processed ++ [item]) more := by
  obtain ⟨-, h⟩ := bind_unit_eq_ok_iff.mp h
  obtain ⟨-, h⟩ := bind_unit_eq_ok_iff.mp h
  obtain ⟨item, hitem, h⟩ := bind_eq_ok_iff.mp h
  dsimp only at h
  have hscanned := List.rel_append hrun.scanned (List.Forall₂.cons hitem .nil)
  have hframes : progress.frames ++ [item.evidence] =
      (processed ++ [item]).map ProcessedFrame.evidence := by
    rw [List.map_append, hreached.frames, List.map_singleton]
  have hlast : some item = (processed ++ [item]).getLast? := List.getLast?_concat.symm
  cases hprevious : progress.previous with
  | none =>
    rw [hprevious] at h
    obtain rfl := Except.ok.inj h
    have hempty : processed = [] :=
      List.getLast?_eq_none_iff.mp (hreached.previous.symm.trans hprevious)
    refine ⟨item, pairs, ⟨hscanned, ?_⟩, hframes, hreached.pairs, hlast⟩
    have hpaired := hrun.paired
    rw [hempty] at hpaired ⊢
    exact hpaired
  | some previous =>
    rw [hprevious] at h
    obtain ⟨-, h⟩ := bind_unit_eq_ok_iff.mp h
    obtain ⟨evidence, hevidence, h⟩ := bind_eq_ok_iff.mp h
    obtain rfl := Except.ok.inj h
    refine ⟨item, pairs ++ [evidence], ⟨hscanned, ?_⟩, hframes, ?_, hlast⟩
    · rw [neighbours_concat (hreached.previous.symm.trans hprevious)]
      exact List.rel_append hrun.paired (.cons hevidence .nil)
    · rw [hreached.pairs]

/-- A run of frames. -/
theorem foldlM_processFrame_spec {frames more : List (AlignmentFrameInput K)}
    {processed : List (ProcessedFrame K)} {pairs : List (PairAlignmentEvidence K)}
    {progress next : Progress K} (hrun : Run analyzer frames processed pairs)
    (hreached : Reached progress processed pairs)
    (h : more.foldlM analyzer.processFrame progress = .ok next) :
    ∃ items evidence, Run analyzer (frames ++ more) items evidence ∧
      Reached next items evidence := by
  induction more generalizing frames processed pairs progress with
  | nil =>
    obtain rfl := Except.ok.inj h
    rw [List.append_nil]
    exact ⟨processed, pairs, hrun, hreached⟩
  | cons frame more ih =>
    rw [List.foldlM_cons] at h
    obtain ⟨middle, hmiddle, h⟩ := bind_eq_ok_iff.mp h
    obtain ⟨item, evidence, hitem, hnext⟩ := processFrame_spec hrun hreached hmiddle
    rw [List.append_cons]
    exact ih hitem hnext h

/-- A report passes where no pair fails and none is unknown. -/
theorem reportState_eq_pass_iff (pairs : List (PairAlignmentEvidence K)) :
    (if ∃ item ∈ pairs, item.state = .fail then AlignmentState.fail
      else if ∃ item ∈ pairs, item.state = .unknown then .unknown else .pass) = .pass ↔
      ∀ item ∈ pairs, item.state = .pass := by
  split_ifs with hfail hunknown
  · obtain ⟨item, hitem, hstate⟩ := hfail
    refine iff_of_false (fun h => by cases h) fun hall => ?_
    have hpass := hall item hitem
    rw [hstate] at hpass
    cases hpass
  · obtain ⟨item, hitem, hstate⟩ := hunknown
    refine iff_of_false (fun h => by cases h) fun hall => ?_
    have hpass := hall item hitem
    rw [hstate] at hpass
    cases hpass
  · refine iff_of_true rfl fun item hitem => ?_
    cases hstate : item.state with
    | pass => rfl
    | fail => exact absurd ⟨item, hitem, hstate⟩ hfail
    | unknown => exact absurd ⟨item, hitem, hstate⟩ hunknown

/-- A report is made of a run of two frames or more. -/
theorem analyze_spec {frames : List (AlignmentFrameInput K)} {report : LidarAlignmentReport K}
    (h : analyzer.analyze frames = .ok report) : ∃ processed,
      Run analyzer frames processed report.pairs ∧
      report.frames = processed.map ProcessedFrame.evidence ∧ 2 ≤ processed.length ∧
      (report.state = .pass ↔ ∀ item ∈ report.pairs, item.state = .pass) := by
  obtain ⟨-, h⟩ := bind_unit_eq_ok_iff.mp h
  obtain ⟨progress, hprogress, h⟩ := bind_eq_ok_iff.mp h
  obtain ⟨processed, pairs, hrun, hreached⟩ :=
    foldlM_processFrame_spec (Run.empty analyzer) ⟨rfl, rfl, rfl⟩ hprogress
  obtain ⟨hcount, h⟩ := bind_unit_eq_ok_iff.mp h
  rw [raiseIf_eq_ok_iff, not_lt, hreached.frames, List.length_map] at hcount
  obtain rfl := Except.ok.inj h
  refine ⟨processed, ?_, hreached.frames, hcount, ?_⟩
  · rw [hreached.pairs]
    exact hrun
  · dsimp only
    rw [reportState_eq_pass_iff]

/-! ## The verdict -/

/-- A pair that passes: observable, and within both limits. -/
structure Passes (analyzer : LidarMotionAlignmentAnalyzer K) (evidence : PairAlignmentEvidence K) :
    Prop where
  observable : evidence.observability = .observable
  overlap : ∃ jaccard ∈ evidence.occupancyJaccard,
    analyzer.arithmetic.le analyzer.profile.alignment.minimumOccupancyJaccard jaccard = true
  thickness : ∃ thickness ∈ evidence.sharedSurfaceThicknessM,
    analyzer.arithmetic.le thickness
      analyzer.profile.alignment.maximumSharedSurfaceThicknessM = true

theorem meetsLimits_iff {overlap : K} {thickness : Option K} :
    analyzer.meetsLimits overlap thickness = true ↔
      analyzer.arithmetic.le analyzer.profile.alignment.minimumOccupancyJaccard overlap = true ∧
        ∃ value ∈ thickness, analyzer.arithmetic.le value
          analyzer.profile.alignment.maximumSharedSurfaceThicknessM = true := by
  unfold meetsLimits
  rw [Bool.and_eq_true]
  refine and_congr_right fun _ => ?_
  cases thickness with
  | none => simp
  | some value => simp

/-- The pair of two supported frames, with its verdict. -/
theorem supportedPair_spec {left right : ProcessedFrame K} {leftPose rightPose : RigidTransform K}
    {evidence : PairAlignmentEvidence K}
    (h : analyzer.supportedPair left right leftPose rightPose = .ok evidence) :
    ∃ thickness, analyzer.sharedThickness left.voxels right.voxels = .ok thickness ∧
      evidence.occupancyJaccard = some (analyzer.overlap left.voxels.cells right.voxels.cells) ∧
      evidence.sharedSurfaceThicknessM = thickness ∧
      (evidence.state = .pass ↔ Passes analyzer evidence) := by
  obtain ⟨squared, -, h⟩ := bind_eq_ok_iff.mp h
  obtain ⟨thickness, hthickness, h⟩ := bind_eq_ok_iff.mp h
  obtain rfl := Except.ok.inj h
  refine ⟨thickness, hthickness, rfl, rfl, ?_⟩
  dsimp only
  generalize (analyzer.enoughStructure left right && analyzer.enoughMotion _ _) = observable
  generalize analyzer.overlap left.voxels.cells right.voxels.cells = overlap
  cases observable with
  | false => exact iff_of_false (fun h => by cases h) fun h => by cases h.observable
  | true =>
    have hverdict :
        (if analyzer.meetsLimits overlap thickness then AlignmentState.pass else .fail) = .pass ↔ analyzer.meetsLimits overlap thickness = true := by
      split_ifs with hlimits
      · exact iff_of_true rfl hlimits
      · exact iff_of_false (fun h => by cases h) hlimits
    refine hverdict.trans (meetsLimits_iff.trans ⟨fun h => ⟨rfl, ⟨_, rfl, h.1⟩, h.2⟩, fun h => ?_⟩)
    obtain ⟨jaccard, hjaccard, hoverlap⟩ := h.overlap
    obtain rfl := Option.some.inj hjaccard
    exact ⟨hoverlap, h.thickness⟩

/-- The verdict on a pair. -/
theorem pair_pass_iff {left right : ProcessedFrame K} {evidence : PairAlignmentEvidence K}
    (h : analyzer.pair left right = .ok evidence) :
    evidence.state = .pass ↔ Passes analyzer evidence := by
  obtain ⟨found, hfound, h⟩ := bind_eq_ok_iff.mp h
  obtain rfl := Except.ok.inj (bind_unit_eq_ok_iff.mp h).2
  unfold pairEvidence at hfound
  split at hfound
  · obtain rfl := Except.ok.inj hfound
    exact iff_of_false (fun h => by cases h) fun h => by cases h.observable
  · obtain ⟨-, -, -, -, hpass⟩ := supportedPair_spec hfound
    exact hpass

/-- A pair with a frame that is not supported is unknown. -/
theorem pair_of_unsupported {left right : ProcessedFrame K} {evidence : PairAlignmentEvidence K}
    (h : analyzer.pair left right = .ok evidence)
    (hunsupported : left.evidence.support ≠ .supported ∨ right.evidence.support ≠ .supported) :
    evidence.state = .unknown := by
  have hposes : supportedPoses left right = none := by
    unfold supportedPoses
    rw [if_neg (not_and_or.mpr hunsupported)]
  obtain ⟨found, hfound, h⟩ := bind_eq_ok_iff.mp h
  obtain rfl := Except.ok.inj (bind_unit_eq_ok_iff.mp h).2
  unfold pairEvidence at hfound
  rw [hposes] at hfound
  obtain rfl := Except.ok.inj hfound
  rfl

/-! ## Frames -/

/-- A frame that the trajectory supports: at its reference time, and at each unmasked point. -/
structure Supported (analyzer : LidarMotionAlignmentAnalyzer K) (frame : AlignmentFrameInput K) :
    Prop where
  reference : ∃ evaluation pose, analyzer.trajectory frame.referenceTimeNs = .ok evaluation ∧
    evaluation.supportedPose = some pose
  points : ∀ point ∈ frame.points, ∀ time,
    analyzer.examinePoint frame.referenceTimeNs point ≠ .ok (.unsupported time)

/-- The evidence of a frame counts each of its points once. -/
structure Counted (analyzer : LidarMotionAlignmentAnalyzer K) (frame : AlignmentFrameInput K)
    (evidence : FrameAlignmentEvidence K) (outcomes : List (PointOutcome K)) : Prop where
  examined : Examined analyzer frame.referenceTimeNs frame.points outcomes
  input : evidence.inputPointCount = frame.points.length
  retained : evidence.retainedStaticOrUnknownPointCount = outcomes.countP PointOutcome.isRetained
  dynamic : evidence.excludedDynamicPointCount = outcomes.countP PointOutcome.isDynamic
  nearEgo : evidence.excludedNearEgoPointCount = outcomes.countP PointOutcome.isNearEgo
  total : evidence.inputPointCount = evidence.retainedStaticOrUnknownPointCount +
    evidence.excludedDynamicPointCount + evidence.excludedNearEgoPointCount +
      outcomes.countP PointOutcome.isUnsupported
  poses : evidence.perPointPoseEvaluationCount = evidence.retainedStaticOrUnknownPointCount +
    outcomes.countP PointOutcome.isUnsupported

/-- Every outcome is of one of the four kinds. -/
theorem length_eq_counts (outcomes : List (PointOutcome K)) : outcomes.length =
    outcomes.countP PointOutcome.isRetained + outcomes.countP PointOutcome.isDynamic +
      outcomes.countP PointOutcome.isNearEgo + outcomes.countP PointOutcome.isUnsupported := by
  induction outcomes with
  | nil => rfl
  | cons outcome rest ih =>
    rw [List.length_cons, ih, List.countP_cons, List.countP_cons, List.countP_cons,
      List.countP_cons]
    cases outcome <;> simp [PointOutcome.isRetained, PointOutcome.isDynamic,
      PointOutcome.isNearEgo, PointOutcome.isUnsupported] <;> omega

/-- The transform at a reference time exists where the trajectory supports it. -/
theorem referenceTransform_isSome_iff {referenceTimeNs : Int}
    {reference : Option (RigidTransform K)}
    (h : analyzer.referenceTransform referenceTimeNs = .ok reference) :
    reference.isSome = true ↔ ∃ evaluation pose,
      analyzer.trajectory referenceTimeNs = .ok evaluation ∧
        evaluation.supportedPose = some pose := by
  obtain ⟨evaluation, hevaluation, h⟩ := bind_eq_ok_iff.mp h
  have hother : ∀ {other}, analyzer.trajectory referenceTimeNs = .ok other → other = evaluation :=
    fun hother => Except.ok.inj (hother.symm.trans hevaluation)
  cases hpose : evaluation.supportedPose with
  | none =>
    rw [hpose] at h
    obtain rfl := Except.ok.inj h
    refine iff_of_false Bool.false_ne_true ?_
    rintro ⟨other, pose, hresult, hsome⟩
    rw [hother hresult, hpose] at hsome
    cases hsome
  | some pose =>
    rw [hpose] at h
    obtain ⟨transform, -, h⟩ := bind_eq_ok_iff.mp h
    obtain rfl := Except.ok.inj h
    exact iff_of_true rfl ⟨evaluation, pose, hevaluation, hpose⟩

/-- No outcome is unsupported where no point is. -/
theorem countP_unsupported_eq_zero_iff {referenceTimeNs : Int}
    {points : List (AlignmentPointInput K)} {outcomes : List (PointOutcome K)}
    (h : Examined analyzer referenceTimeNs points outcomes) :
    outcomes.countP PointOutcome.isUnsupported = 0 ↔ ∀ point ∈ points, ∀ time,
      analyzer.examinePoint referenceTimeNs point ≠ .ok (.unsupported time) := by
  induction h with
  | nil => exact iff_of_true rfl (List.forall_mem_nil _)
  | @cons point outcome points outcomes houtcome _ ih =>
    rw [List.countP_cons, Nat.add_eq_zero_iff, ih, List.forall_mem_cons, and_comm]
    refine and_congr_left fun _ => ?_
    rw [houtcome]
    cases outcome with
    | unsupported time => exact iff_of_false Nat.one_ne_zero fun h => h time rfl
    | dynamic => exact iff_of_true rfl fun _ h => by cases h
    | nearEgo => exact iff_of_true rfl fun _ h => by cases h
    | retained => exact iff_of_true rfl fun _ h => by cases h

/-- What is known of a processed frame. -/
theorem scanFrame_spec {frame : AlignmentFrameInput K} {item : ProcessedFrame K}
    (h : analyzer.scanFrame frame = .ok item) : ∃ outcomes,
      Counted analyzer frame item.evidence outcomes ∧
      (item.evidence.support = .supported ↔ Supported analyzer frame) ∧
      (item.evidence.support = .supported → item.referenceWorldFromLidar.isSome = true ∧
        item.voxels = analyzer.voxelsOf outcomes) := by
  obtain ⟨reference, hreference, h⟩ := bind_eq_ok_iff.mp h
  obtain ⟨tally, htally, h⟩ := bind_eq_ok_iff.mp h
  obtain rfl := Except.ok.inj (bind_unit_eq_ok_iff.mp h).2
  obtain ⟨outcomes, hexamined, hscanned⟩ := scan_spec htally
  refine ⟨outcomes, ⟨hexamined, ?_, hscanned.retained, hscanned.dynamic, hscanned.nearEgo, ?_, ?_⟩,
    ?_, ?_⟩
  · exact hscanned.pointCount.trans hexamined.length_eq.symm
  · change tally.pointCount = tally.retained + tally.dynamic + tally.nearEgo + _
    rw [hscanned.pointCount, length_eq_counts, hscanned.retained, hscanned.dynamic,
      hscanned.nearEgo]
  · change tally.poseEvaluations = tally.retained + _
    rw [hscanned.poseEvaluations, hscanned.unsupported]
  · have hpoints := countP_unsupported_eq_zero_iff hexamined
    rw [← hscanned.unsupported] at hpoints
    have htime := referenceTransform_isSome_iff hreference
    unfold frameEvidence
    dsimp only
    split_ifs with hsupported
    · exact iff_of_true rfl ⟨htime.mp hsupported.1, hpoints.mp hsupported.2⟩
    · exact iff_of_false (fun h => by cases h) fun h =>
        hsupported ⟨htime.mpr h.reference, hpoints.mpr h.points⟩
  · unfold frameEvidence
    dsimp only
    intro hsupported
    rw [if_pos hsupported]
    refine ⟨?_, VoxelMap.ext hscanned.cells (funext hscanned.accumulator)⟩
    by_contra hnone
    rw [if_neg fun h => hnone h.1] at hsupported
    cases hsupported

/-! ## Pairs of frames -/

/-- The poses of two supported frames. -/
theorem exists_supportedPoses {left right : ProcessedFrame K}
    (hleft : left.evidence.support = .supported) (hright : right.evidence.support = .supported)
    (hleftPose : left.referenceWorldFromLidar.isSome = true)
    (hrightPose : right.referenceWorldFromLidar.isSome = true) :
    ∃ poses, supportedPoses left right = some poses := by
  obtain ⟨leftPose, hleftPose⟩ := Option.isSome_iff_exists.mp hleftPose
  obtain ⟨rightPose, hrightPose⟩ := Option.isSome_iff_exists.mp hrightPose
  unfold supportedPoses
  rw [if_pos ⟨hleft, hright⟩, hleftPose, hrightPose]
  exact ⟨_, rfl⟩

/-- The cells and the thickness of a pair of supported frames, from the outcomes of their points. -/
structure PairOf (analyzer : LidarMotionAlignmentAnalyzer K) (left right : AlignmentFrameInput K)
    (evidence : PairAlignmentEvidence K) (outcomes outcomes' : List (PointOutcome K)) : Prop where
  left : Examined analyzer left.referenceTimeNs left.points outcomes
  right : Examined analyzer right.referenceTimeNs right.points outcomes'
  overlap : evidence.occupancyJaccard =
    some (analyzer.overlap (cellsOf outcomes) (cellsOf outcomes'))
  thickness : analyzer.sharedThickness (analyzer.voxelsOf outcomes) (analyzer.voxelsOf outcomes') =
    .ok evidence.sharedSurfaceThicknessM

theorem pair_of_supported {left right : AlignmentFrameInput K} {item item' : ProcessedFrame K}
    {evidence : PairAlignmentEvidence K} (hitem : analyzer.scanFrame left = .ok item)
    (hitem' : analyzer.scanFrame right = .ok item') (h : analyzer.pair item item' = .ok evidence)
    (hleft : Supported analyzer left) (hright : Supported analyzer right) :
    ∃ outcomes outcomes', PairOf analyzer left right evidence outcomes outcomes' := by
  obtain ⟨outcomes, hcounted, hsupport, hvoxels⟩ := scanFrame_spec hitem
  obtain ⟨outcomes', hcounted', hsupport', hvoxels'⟩ := scanFrame_spec hitem'
  obtain ⟨hpose, hvoxels⟩ := hvoxels (hsupport.mpr hleft)
  obtain ⟨hpose', hvoxels'⟩ := hvoxels' (hsupport'.mpr hright)
  obtain ⟨poses, hposes⟩ :=
    exists_supportedPoses (hsupport.mpr hleft) (hsupport'.mpr hright) hpose hpose'
  obtain ⟨found, hfound, h⟩ := bind_eq_ok_iff.mp h
  obtain rfl := Except.ok.inj (bind_unit_eq_ok_iff.mp h).2
  unfold pairEvidence at hfound
  rw [hposes] at hfound
  obtain ⟨thickness, hthickness, hoverlap, hsame, -⟩ := supportedPair_spec hfound
  rw [hvoxels, hvoxels'] at hthickness hoverlap
  exact ⟨outcomes, outcomes', hcounted.examined, hcounted'.examined, hoverlap,
    hthickness.trans (congrArg _ hsame.symm)⟩

/-! ## Reports -/

theorem forall₂_neighbours {A B : Type} {R : A → B → Prop} {items : List A} {others : List B}
    (h : List.Forall₂ R items others) :
    List.Forall₂ (fun two two' => R two.1 two'.1 ∧ R two.2 two'.2) (neighbours items)
      (neighbours others) := by
  induction h with
  | nil => exact .nil
  | cons hfirst hrest ih =>
    cases hrest with
    | nil => exact .nil
    | cons hsecond hrest => exact .cons ⟨hfirst, hsecond⟩ ih

theorem forall₂_through {A B C : Type} {R : A → B → Prop} {S : B → C → Prop} {T : A → C → Prop}
    {items : List A} {middle : List B} {others : List C} (h : List.Forall₂ R items middle)
    (h' : List.Forall₂ S middle others) (hstep : ∀ a b c, R a b → S b c → T a c) :
    List.Forall₂ T items others := by
  induction h generalizing others with
  | nil =>
    cases h'
    exact .nil
  | cons hfirst _ ih =>
    obtain _ | ⟨hfirst', hrest'⟩ := h'
    exact .cons (hstep _ _ _ hfirst hfirst') (ih hrest')

/-- What a report says of its frames. -/
structure Reports (analyzer : LidarMotionAlignmentAnalyzer K)
    (frames : List (AlignmentFrameInput K)) (report : LidarAlignmentReport K) : Prop where
  counted : List.Forall₂ (fun frame evidence => ∃ outcomes,
    Counted analyzer frame evidence outcomes) frames report.frames
  paired : List.Forall₂ (fun two evidence =>
    Supported analyzer two.1 → Supported analyzer two.2 →
      ∃ outcomes outcomes', PairOf analyzer two.1 two.2 evidence outcomes outcomes')
    (neighbours frames) report.pairs
  pass_iff : report.state = .pass ↔ ∀ evidence ∈ report.pairs, Passes analyzer evidence
  unsupported : ∀ frame ∈ frames, ¬ Supported analyzer frame → report.state ≠ .pass

theorem analyze_reports {frames : List (AlignmentFrameInput K)} {report : LidarAlignmentReport K}
    (h : analyzer.analyze frames = .ok report) : Reports analyzer frames report := by
  obtain ⟨processed, hrun, hframes, hlength, hstate⟩ := analyze_spec h
  have hneighbours := forall₂_neighbours hrun.scanned
  refine ⟨?_, ?_, ?_, ?_⟩
  · rw [hframes, List.forall₂_map_right_iff]
    refine hrun.scanned.imp fun frame item hitem => ?_
    obtain ⟨outcomes, hcounted, -⟩ := scanFrame_spec hitem
    exact ⟨outcomes, hcounted⟩
  · exact forall₂_through hneighbours hrun.paired fun two two' evidence hitems hpair hleft hright =>
      pair_of_supported hitems.1 hitems.2 hpair hleft hright
  · rw [hstate]
    refine forall₂_congr fun evidence hevidence => ?_
    obtain ⟨two, -, hpair⟩ := exists_left_of_mem hrun.paired hevidence
    exact pair_pass_iff hpair
  · intro frame hframe hunsupported hpass
    obtain ⟨item, hitem, hscan⟩ := exists_right_of_mem hrun.scanned hframe
    obtain ⟨-, -, hsupport, -⟩ := scanFrame_spec hscan
    obtain ⟨two, htwo, hends⟩ := exists_neighbour hlength hitem
    obtain ⟨evidence, hevidence, hpair⟩ := exists_right_of_mem hrun.paired htwo
    have hunknown := pair_of_unsupported hpair (by
      rcases hends with rfl | rfl
      · exact .inl (mt hsupport.mp hunsupported)
      · exact .inr (mt hsupport.mp hunsupported))
    rw [hstate.mp hpass evidence hevidence] at hunknown
    cases hunknown

end CartoSentry.MotionAlignment.LidarMotionAlignmentAnalyzer
