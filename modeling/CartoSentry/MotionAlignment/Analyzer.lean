import CartoSentry.MotionAlignment.Contracts

set_option autoImplicit false

/-!
# Motion alignment: the analyzer

`LidarMotionAlignmentAnalyzer`: the pass over the points of a frame, the evidence of two frames
that follow each other, and the report.
-/

namespace CartoSentry.MotionAlignment

open Contracts (Raised raiseIf)
open TrajectoryIntegrity (Observability)

/-- What an analyzer is made with.  The geometry and the arithmetic stand for the libraries. -/
structure LidarMotionAlignmentAnalyzer (K : Type) where
  arithmetic : Arithmetic K
  geometry : Geometry K
  trajectory : TrajectoryEvaluator K
  rigFromLidar : RigidTransform K
  profile : LidarAlignmentProfile K
  profileFileSha256 : String
  sourceSha256 : String

namespace LidarMotionAlignmentAnalyzer

variable {K : Type} (analyzer : LidarMotionAlignmentAnalyzer K)

/-- The checks of `__init__`. -/
def validate : Except Raised Unit := do
  raiseIf (analyzer.rigFromLidar.targetFrame ≠ "rig" ∨
    analyzer.rigFromLidar.sourceFrame ≠ "lidar") "alignment calibration must be T_rig_lidar"
  raiseIf (analyzer.sourceSha256.toList.length ≠ 64 ∨
    analyzer.sourceSha256.toList.any (fun c => !"0123456789abcdef".toList.contains c) = true)
    "alignment source hash must be a lowercase SHA-256"

/-! ## One point -/

/-- `_cell` -/
def cell (point : Vector K) : Except Raised Cell := do
  let size := analyzer.profile.voxelSizeM
  let x ← analyzer.arithmetic.floor (analyzer.arithmetic.div point.x size)
  let y ← analyzer.arithmetic.floor (analyzer.arithmetic.div point.y size)
  let z ← analyzer.arithmetic.floor (analyzer.arithmetic.div point.z size)
  return toLex (x, toLex (y, z))

/-- What becomes of a point.  A retained one has its time, its place in the world with the cell
there, and its squared distance from the place it is expected at. -/
inductive PointOutcome (K : Type) where
  | dynamic
  | nearEgo
  | unsupported (measurementTimeNs : Int)
  | retained (measurementTimeNs : Int) (world : Vector K) (cell : Cell) (truth : Option K)

/-- The structural checks on a point. -/
def validatePoint (point : AlignmentPointInput K) : Except Raised Unit := do
  let time ← analyzer.arithmetic.ofInt point.relativeTimeNs
  let expected := (point.expectedWorldM.map Vector.toList).getD []
  raiseIf (¬ ∀ value ∈ point.positionLidarM.toList ++ time :: expected,
    analyzer.arithmetic.isFinite value = true)
    "alignment input must pass LiDAR structural validation"
  raiseIf (point.sourceOffset < 0) "alignment point source offsets must be nonnegative"

/-- The mask around the vehicle. -/
def isNearEgo (position : Vector K) : Bool :=
  let masks := analyzer.profile.masks
  analyzer.arithmetic.le (analyzer.arithmetic.hypot position.x position.y)
      masks.nearEgoHorizontalRadiusM &&
    analyzer.arithmetic.le (analyzer.arithmetic.abs position.z) masks.nearEgoMaximumAbsoluteHeightM

/-- A point at its own time in the world. -/
def retainPoint (measurementTimeNs : Int) (pose : RigidTransform K)
    (point : AlignmentPointInput K) : Except Raised (PointOutcome K) := do
  let worldFromLidar ← analyzer.geometry.compose pose analyzer.rigFromLidar
  let world ← analyzer.geometry.apply worldFromLidar point.positionLidarM
  let truth ← point.expectedWorldM.mapM fun expected =>
    Vector.squaredDistance analyzer.arithmetic world expected
  let cell ← analyzer.cell world
  return .retained measurementTimeNs world cell truth

/-- The masks, and the evaluation of the trajectory at the time of a point. -/
def examinePoint (referenceTimeNs : Int) (point : AlignmentPointInput K) :
    Except Raised (PointOutcome K) := do
  analyzer.validatePoint point
  if point.motionClass = .dynamic then return .dynamic
  else if analyzer.isNearEgo point.positionLidarM then return .nearEgo
  else
    let measurementTimeNs := referenceTimeNs + point.relativeTimeNs
    let evaluated ← analyzer.trajectory measurementTimeNs
    match evaluated.supportedPose with
    | none => return .unsupported measurementTimeNs
    | some pose => analyzer.retainPoint measurementTimeNs pose point

/-! ## The points of a frame -/

/-- The variables of the loop over the points. -/
structure FrameTally (K : Type) where
  pointCount : Nat
  retained : Nat
  dynamic : Nat
  nearEgo : Nat
  unsupported : Nat
  poseEvaluations : Nat
  measurementTimes : Finset Int
  offsets : List Int
  truthSquaredError : K
  truthCount : Nat
  voxels : VoxelMap K

def FrameTally.start : FrameTally K where
  pointCount := 0
  retained := 0
  dynamic := 0
  nearEgo := 0
  unsupported := 0
  poseEvaluations := 0
  measurementTimes := ∅
  offsets := []
  truthSquaredError := analyzer.arithmetic.zero
  truthCount := 0
  voxels := .empty analyzer.arithmetic

/-- What the loop does with an outcome.  A cell that is new needs room in the budget. -/
def record (tally : FrameTally K) (sourceOffset : Int) :
    PointOutcome K → Except Raised (FrameTally K)
  | .dynamic => .ok { tally with dynamic := tally.dynamic + 1 }
  | .nearEgo => .ok { tally with nearEgo := tally.nearEgo + 1 }
  | .unsupported time => .ok { tally with
      measurementTimes := insert time tally.measurementTimes
      poseEvaluations := tally.poseEvaluations + 1
      unsupported := tally.unsupported + 1
      offsets :=
        if tally.offsets.length < analyzer.profile.budgets.maximumRepresentativeOffsets then
          tally.offsets ++ [sourceOffset]
        else tally.offsets }
  | .retained time world cell truth => do
    raiseIf (cell ∉ tally.voxels.cells ∧
      analyzer.profile.budgets.maximumVoxelsPerFrame ≤ tally.voxels.cells.card)
      "alignment voxel count exceeds the frozen budget"
    return { tally with
      measurementTimes := insert time tally.measurementTimes
      poseEvaluations := tally.poseEvaluations + 1
      truthSquaredError := match truth with
        | none => tally.truthSquaredError
        | some error => analyzer.arithmetic.add tally.truthSquaredError error
      truthCount := if truth.isSome then tally.truthCount + 1 else tally.truthCount
      voxels := tally.voxels.addPoint analyzer.arithmetic cell world
      retained := tally.retained + 1 }

/-- The body of the loop over the points. -/
def processPoint (referenceTimeNs : Int) (tally : FrameTally K) (point : AlignmentPointInput K) :
    Except Raised (FrameTally K) := do
  let counted := { tally with pointCount := tally.pointCount + 1 }
  raiseIf (analyzer.profile.budgets.maximumPointsPerFrame < counted.pointCount)
    "alignment points per frame exceed the frozen budget"
  let outcome ← analyzer.examinePoint referenceTimeNs point
  analyzer.record counted point.sourceOffset outcome

/-! ## One frame -/

structure ProcessedFrame (K : Type) where
  evidence : FrameAlignmentEvidence K
  referenceWorldFromLidar : Option (RigidTransform K)
  voxels : VoxelMap K

/-- The fields that the model of the evidence restricts. -/
def validateFrameEvidence (evidence : FrameAlignmentEvidence K) : Except Raised Unit := do
  raiseIf (evidence.frameIndex < 0) "frame_index"
  raiseIf (evidence.sourceKey = "") "source_key"
  raiseIf (¬ (analyzer.arithmetic.le analyzer.arithmetic.zero
      evidence.analyticTruthCoverageFraction = true ∧
    analyzer.arithmetic.le evidence.analyticTruthCoverageFraction analyzer.arithmetic.one = true))
    "analytic_truth_coverage_fraction"
  raiseIf (∃ rmse ∈ evidence.analyticTruthRmseM,
    analyzer.arithmetic.le analyzer.arithmetic.zero rmse = false) "analytic_truth_rmse_m"

/-- The transform at the reference time of a frame, where the trajectory supports it. -/
def referenceTransform (referenceTimeNs : Int) : Except Raised (Option (RigidTransform K)) := do
  let reference ← analyzer.trajectory referenceTimeNs
  reference.supportedPose.mapM fun pose => analyzer.geometry.compose pose analyzer.rigFromLidar

/-- The evidence of a frame, from the variables of the loop. -/
def frameEvidence (frame : AlignmentFrameInput K) (tally : FrameTally K)
    (referenceWorldFromLidar : Option (RigidTransform K)) : ProcessedFrame K :=
  let support : AlignmentSupport :=
    if referenceWorldFromLidar.isSome ∧ tally.unsupported = 0 then .supported
    else .unknownTrajectory
  let voxels :=
    if support = .supported then tally.voxels else VoxelMap.empty analyzer.arithmetic
  { evidence := {
      frameIndex := frame.frameIndex
      sourceKey := frame.sourceKey
      referenceTimeNs := frame.referenceTimeNs
      support := support
      trajectorySupportFailures :=
        tally.unsupported + (if referenceWorldFromLidar.isNone then 1 else 0)
      inputPointCount := tally.pointCount
      retainedStaticOrUnknownPointCount := tally.retained
      excludedDynamicPointCount := tally.dynamic
      excludedNearEgoPointCount := tally.nearEgo
      occupiedVoxelCount := voxels.cells.card
      distinctMeasurementTimeCount := tally.measurementTimes.card
      perPointPoseEvaluationCount := tally.poseEvaluations
      analyticTruthPointCount := tally.truthCount
      analyticTruthCoverageFraction :=
        if tally.retained = 0 then analyzer.arithmetic.zero
        else analyzer.arithmetic.ratio tally.truthCount tally.retained
      analyticTruthRmseM :=
        if tally.truthCount = 0 then none
        else some (analyzer.arithmetic.sqrt (analyzer.arithmetic.div tally.truthSquaredError
          (analyzer.arithmetic.ofNat tally.truthCount)))
      representativeUnsupportedOffsets := tally.offsets }
    referenceWorldFromLidar := referenceWorldFromLidar
    voxels := voxels }

/-- The frame of `process_frame`, before it is put behind the others. -/
def scanFrame (frame : AlignmentFrameInput K) : Except Raised (ProcessedFrame K) := do
  let reference ← analyzer.referenceTransform frame.referenceTimeNs
  let tally ← frame.points.foldlM (analyzer.processPoint frame.referenceTimeNs)
    (FrameTally.start analyzer)
  let processed := analyzer.frameEvidence frame tally reference
  analyzer.validateFrameEvidence processed.evidence
  return processed

/-! ## Two frames -/

/-- `_rotation_distance` -/
def rotationDistance (left right : Quaternion K) : K :=
  let dot := analyzer.arithmetic.abs (analyzer.arithmetic.sum [
    analyzer.arithmetic.mul left.w right.w, analyzer.arithmetic.mul left.x right.x,
    analyzer.arithmetic.mul left.y right.y, analyzer.arithmetic.mul left.z right.z])
  analyzer.arithmetic.mul (analyzer.arithmetic.ofNat 2) (analyzer.arithmetic.acos
    (analyzer.arithmetic.min analyzer.arithmetic.one
      (analyzer.arithmetic.max (analyzer.arithmetic.sub analyzer.arithmetic.zero
        analyzer.arithmetic.one) dot)))

/-- The evidence of a pair where a frame or its reference is not supported. -/
def unsupportedPair (left right : ProcessedFrame K) : PairAlignmentEvidence K where
  leftFrameIndex := left.evidence.frameIndex
  rightFrameIndex := right.evidence.frameIndex
  startTimeNs := left.evidence.referenceTimeNs
  endTimeNs := right.evidence.referenceTimeNs
  support := .unknownTrajectory
  observability := .notApplicable
  state := .unknown
  translationExcitationM := analyzer.arithmetic.zero
  rotationExcitationRad := analyzer.arithmetic.zero
  leftOccupiedVoxels := left.voxels.cells.card
  rightOccupiedVoxels := right.voxels.cells.card
  sharedVoxels := 0
  occupancyJaccard := none
  sharedSurfaceThicknessM := none
  compatibleCauses := ["unsupported trajectory gap"]

/-- The share of the cells that both frames occupy. -/
def overlap (left right : Finset Cell) : K :=
  if left ∪ right = ∅ then analyzer.arithmetic.zero
  else analyzer.arithmetic.ratio (left ∩ right).card (left ∪ right).card

/-- The mean thickness of the shared cells. -/
def sharedThickness (left right : VoxelMap K) : Except Raised (Option K) := do
  let thicknesses ← ((left.cells ∩ right.cells).sort (· ≤ ·)).mapM fun cell =>
    ((left.accumulator cell).combine analyzer.arithmetic (right.accumulator cell)).thickness
      analyzer.arithmetic
  return if thicknesses = [] then none
    else some (analyzer.arithmetic.div (analyzer.arithmetic.sum thicknesses)
      (analyzer.arithmetic.ofNat thicknesses.length))

def enoughStructure (left right : ProcessedFrame K) : Bool :=
  let observability := analyzer.profile.observability
  decide (observability.minimumValidPointsPerFrame ≤
      left.evidence.retainedStaticOrUnknownPointCount) &&
    decide (observability.minimumValidPointsPerFrame ≤
      right.evidence.retainedStaticOrUnknownPointCount) &&
    decide (observability.minimumOccupiedVoxelsPerFrame ≤ left.voxels.cells.card) &&
    decide (observability.minimumOccupiedVoxelsPerFrame ≤ right.voxels.cells.card) &&
    decide (observability.minimumSharedVoxelsPerPair ≤
      (left.voxels.cells ∩ right.voxels.cells).card)

def enoughMotion (translation rotation : K) : Bool :=
  analyzer.arithmetic.le analyzer.profile.observability.minimumTranslationM translation ||
    analyzer.arithmetic.le analyzer.profile.observability.minimumRotationRad rotation

/-- Whether the limits on an observable pair are met. -/
def meetsLimits (overlap : K) (thickness : Option K) : Bool :=
  analyzer.arithmetic.le analyzer.profile.alignment.minimumOccupancyJaccard overlap &&
    match thickness with
    | none => false
    | some value =>
      analyzer.arithmetic.le value analyzer.profile.alignment.maximumSharedSurfaceThicknessM

/-- The fields that the model of the evidence restricts. -/
def validatePairEvidence (evidence : PairAlignmentEvidence K) : Except Raised Unit := do
  raiseIf (evidence.leftFrameIndex < 0) "left_frame_index"
  raiseIf (evidence.rightFrameIndex < 0) "right_frame_index"
  raiseIf (analyzer.arithmetic.le analyzer.arithmetic.zero evidence.translationExcitationM = false)
    "translation_excitation_m"
  raiseIf (analyzer.arithmetic.le analyzer.arithmetic.zero evidence.rotationExcitationRad = false)
    "rotation_excitation_rad"
  raiseIf (∃ jaccard ∈ evidence.occupancyJaccard,
    ¬ (analyzer.arithmetic.le analyzer.arithmetic.zero jaccard = true ∧
      analyzer.arithmetic.le jaccard analyzer.arithmetic.one = true)) "occupancy_jaccard"
  raiseIf (∃ thickness ∈ evidence.sharedSurfaceThicknessM,
    analyzer.arithmetic.le analyzer.arithmetic.zero thickness = false) "shared_surface_thickness_m"

/-- The evidence of a pair of supported frames. -/
def supportedPair (left right : ProcessedFrame K) (leftPose rightPose : RigidTransform K) :
    Except Raised (PairAlignmentEvidence K) := do
  let squared ← Vector.squaredDistance analyzer.arithmetic leftPose.translationM
    rightPose.translationM
  let translation := analyzer.arithmetic.sqrt squared
  let rotation := analyzer.rotationDistance leftPose.rotation rightPose.rotation
  let overlap := analyzer.overlap left.voxels.cells right.voxels.cells
  let thickness ← analyzer.sharedThickness left.voxels right.voxels
  let observable :=
    analyzer.enoughStructure left right && analyzer.enoughMotion translation rotation
  return {
    leftFrameIndex := left.evidence.frameIndex
    rightFrameIndex := right.evidence.frameIndex
    startTimeNs := left.evidence.referenceTimeNs
    endTimeNs := right.evidence.referenceTimeNs
    support := if observable then .supported else .unknownObservability
    observability := if observable then .observable else .notObservable
    state := if observable then
        if analyzer.meetsLimits overlap thickness then .pass else .fail
      else .unknown
    translationExcitationM := translation
    rotationExcitationRad := rotation
    leftOccupiedVoxels := left.voxels.cells.card
    rightOccupiedVoxels := right.voxels.cells.card
    sharedVoxels := (left.voxels.cells ∩ right.voxels.cells).card
    occupancyJaccard := some overlap
    sharedSurfaceThicknessM := thickness
    compatibleCauses := ["trajectory error", "point-time error", "extrinsic calibration error",
      "dynamic scene", "insufficient static overlap"] }

/-- The poses of a pair whose frames are supported. -/
def supportedPoses (left right : ProcessedFrame K) :
    Option (RigidTransform K × RigidTransform K) :=
  if left.evidence.support = .supported ∧ right.evidence.support = .supported then
    match left.referenceWorldFromLidar, right.referenceWorldFromLidar with
    | some leftPose, some rightPose => some (leftPose, rightPose)
    | _, _ => none
  else none

/-- The evidence of `_pair`, before its fields are checked. -/
def pairEvidence (left right : ProcessedFrame K) : Except Raised (PairAlignmentEvidence K) :=
  match supportedPoses left right with
  | none => .ok (analyzer.unsupportedPair left right)
  | some (leftPose, rightPose) => analyzer.supportedPair left right leftPose rightPose

/-- `_pair` -/
def pair (left right : ProcessedFrame K) : Except Raised (PairAlignmentEvidence K) := do
  let evidence ← analyzer.pairEvidence left right
  analyzer.validatePairEvidence evidence
  return evidence

/-! ## A sequence of frames -/

/-- The lists of the analyzer, and the frame in its slot. -/
structure Progress (K : Type) where
  frames : List (FrameAlignmentEvidence K)
  pairs : List (PairAlignmentEvidence K)
  previous : Option (ProcessedFrame K)

/-- `process_frame` -/
def processFrame (progress : Progress K) (frame : AlignmentFrameInput K) :
    Except Raised (Progress K) := do
  raiseIf (analyzer.profile.budgets.maximumFrames ≤ progress.frames.length)
    "alignment frame count exceeds the frozen budget"
  raiseIf (∃ last ∈ progress.frames.getLast?, frame.frameIndex ≤ last.frameIndex)
    "alignment frame indices must increase"
  let processed ← analyzer.scanFrame frame
  let frames := progress.frames ++ [processed.evidence]
  match progress.previous with
  | none => return ⟨frames, progress.pairs, some processed⟩
  | some previous => do
    raiseIf (analyzer.profile.budgets.maximumPairs ≤ progress.pairs.length)
      "alignment pair count exceeds the frozen budget"
    let evidence ← analyzer.pair previous processed
    return ⟨frames, progress.pairs ++ [evidence], some processed⟩

/-- `finalize` -/
def finalize (progress : Progress K) : Except Raised (LidarAlignmentReport K) := do
  raiseIf (progress.frames.length < 2) "alignment analysis requires at least two frames"
  return {
    profileImmutableSha256 := analyzer.profile.immutableSha256
    profileFileSha256 := analyzer.profileFileSha256
    sourceSha256 := analyzer.sourceSha256
    state :=
      if ∃ item ∈ progress.pairs, item.state = .fail then .fail
      else if ∃ item ∈ progress.pairs, item.state = .unknown then .unknown
      else .pass
    statistics := {
      frameCount := progress.frames.length
      pairCount := progress.pairs.length
      maximumInputPointsPerFrame :=
        (progress.frames.map FrameAlignmentEvidence.inputPointCount).foldl Nat.max 0
      maximumOccupiedVoxelsPerFrame :=
        (progress.frames.map FrameAlignmentEvidence.occupiedVoxelCount).foldl Nat.max 0 }
    frames := progress.frames
    pairs := progress.pairs }

/-- `analyze_motion_compensated_alignment` -/
def analyze (frames : List (AlignmentFrameInput K)) : Except Raised (LidarAlignmentReport K) := do
  analyzer.validate
  let progress ← frames.foldlM analyzer.processFrame ⟨[], [], none⟩
  analyzer.finalize progress

end LidarMotionAlignmentAnalyzer

end CartoSentry.MotionAlignment
