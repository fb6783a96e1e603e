import CartoSentry.MotionAlignment.Analyzer
import Mathlib.Data.List.Forall2

set_option autoImplicit false

/-!
# Motion alignment: what a pass over points leaves

The variables of the loop over the points of a frame are those of the outcomes of its points: how
many there are of each kind, their times, and the points in each cell.
-/

namespace CartoSentry.MotionAlignment.LidarMotionAlignmentAnalyzer

open Contracts (Raised raiseIf raiseIf_eq_ok_iff raiseIf_bind)
open Foundation (bind_eq_ok_iff bind_unit_eq_ok_iff ok_bind)

variable {K : Type}

/-! ## Outcomes -/

namespace PointOutcome

def isDynamic : PointOutcome K → Bool
  | .dynamic => true
  | _ => false

def isNearEgo : PointOutcome K → Bool
  | .nearEgo => true
  | _ => false

def isUnsupported : PointOutcome K → Bool
  | .unsupported _ => true
  | _ => false

def isRetained : PointOutcome K → Bool
  | .retained .. => true
  | _ => false

/-- The time at which the trajectory was evaluated. -/
def time? : PointOutcome K → Option Int
  | .unsupported time => some time
  | .retained time .. => some time
  | _ => none

/-- The place of a retained point, with its cell. -/
def placed? : PointOutcome K → Option (Cell × Vector K)
  | .retained _ world cell _ => some (cell, world)
  | _ => none

/-- The squared error of a retained point whose place is known. -/
def truth? : PointOutcome K → Option K
  | .retained _ _ _ truth => truth
  | _ => none

end PointOutcome

/-- The points placed in a cell. -/
def worldsIn (outcomes : List (PointOutcome K)) (cell : Cell) : List (Vector K) :=
  (outcomes.filterMap PointOutcome.placed?).filterMap fun placed =>
    if placed.1 = cell then some placed.2 else none

/-- The cells with a point in them. -/
def cellsOf (outcomes : List (PointOutcome K)) : Finset Cell :=
  ((outcomes.filterMap PointOutcome.placed?).map Prod.fst).toFinset

theorem mem_cellsOf {outcomes : List (PointOutcome K)} {cell : Cell} :
    cell ∈ cellsOf outcomes ↔ worldsIn outcomes cell ≠ [] := by
  unfold cellsOf worldsIn
  rw [List.mem_toFinset, List.mem_map, ne_eq, List.filterMap_eq_nil_iff]
  constructor
  · rintro ⟨placed, hmem, rfl⟩ hnone
    have hplaced := hnone placed hmem
    rw [if_pos rfl] at hplaced
    cases hplaced
  · intro hsome
    by_contra hnone
    refine hsome fun placed hmem => if_neg fun hcell => ?_
    exact hnone ⟨placed, hmem, hcell⟩

theorem cellsOf_append (outcomes more : List (PointOutcome K)) :
    cellsOf (outcomes ++ more) = cellsOf outcomes ∪ cellsOf more := by
  unfold cellsOf
  rw [List.filterMap_append, List.map_append, List.toFinset_append]

theorem worldsIn_append (outcomes more : List (PointOutcome K)) (cell : Cell) :
    worldsIn (outcomes ++ more) cell = worldsIn outcomes cell ++ worldsIn more cell := by
  unfold worldsIn
  rw [List.filterMap_append, List.filterMap_append]

/-! ## The variables -/

variable (analyzer : LidarMotionAlignmentAnalyzer K)

/-- The accumulator of points. -/
def accumulated (points : List (Vector K)) : VoxelAccumulator K :=
  points.foldl (VoxelAccumulator.add analyzer.arithmetic) (.empty analyzer.arithmetic)

/-- The cells of outcomes with their accumulators. -/
def voxelsOf (outcomes : List (PointOutcome K)) : VoxelMap K where
  cells := cellsOf outcomes
  accumulator cell := analyzer.accumulated (worldsIn outcomes cell)

/-- The variables of the loop are those of the outcomes so far. -/
structure Scanned (outcomes : List (PointOutcome K)) (tally : FrameTally K) : Prop where
  pointCount : tally.pointCount = outcomes.length
  retained : tally.retained = outcomes.countP PointOutcome.isRetained
  dynamic : tally.dynamic = outcomes.countP PointOutcome.isDynamic
  nearEgo : tally.nearEgo = outcomes.countP PointOutcome.isNearEgo
  unsupported : tally.unsupported = outcomes.countP PointOutcome.isUnsupported
  poseEvaluations : tally.poseEvaluations = tally.retained + tally.unsupported
  measurementTimes : tally.measurementTimes = (outcomes.filterMap PointOutcome.time?).toFinset
  truthSquaredError : tally.truthSquaredError =
    (outcomes.filterMap PointOutcome.truth?).foldl analyzer.arithmetic.add analyzer.arithmetic.zero
  truthCount : tally.truthCount = (outcomes.filterMap PointOutcome.truth?).length
  cells : tally.voxels.cells = cellsOf outcomes
  accumulator : ∀ cell, tally.voxels.accumulator cell =
    analyzer.accumulated (worldsIn outcomes cell)

/-- The budgets on the points and on the cells of a frame. -/
structure WithinBudget (outcomes : List (PointOutcome K)) : Prop where
  points : outcomes.length ≤ analyzer.profile.budgets.maximumPointsPerFrame
  voxels : (cellsOf outcomes).card ≤ analyzer.profile.budgets.maximumVoxelsPerFrame

variable {analyzer} {outcomes : List (PointOutcome K)} {tally next : FrameTally K}

theorem scanned_start : Scanned analyzer [] (FrameTally.start analyzer) where
  pointCount := rfl
  retained := rfl
  dynamic := rfl
  nearEgo := rfl
  unsupported := rfl
  poseEvaluations := rfl
  measurementTimes := rfl
  truthSquaredError := rfl
  truthCount := rfl
  cells := rfl
  accumulator _ := rfl

/-- What one more outcome changes. -/
structure Recorded (analyzer : LidarMotionAlignmentAnalyzer K) (tally : FrameTally K)
    (outcome : PointOutcome K) (next : FrameTally K) : Prop where
  pointCount : next.pointCount = tally.pointCount + 1
  retained : next.retained = tally.retained + [outcome].countP PointOutcome.isRetained
  dynamic : next.dynamic = tally.dynamic + [outcome].countP PointOutcome.isDynamic
  nearEgo : next.nearEgo = tally.nearEgo + [outcome].countP PointOutcome.isNearEgo
  unsupported : next.unsupported = tally.unsupported + [outcome].countP PointOutcome.isUnsupported
  poseEvaluations : next.poseEvaluations = tally.poseEvaluations +
    ([outcome].countP PointOutcome.isRetained + [outcome].countP PointOutcome.isUnsupported)
  measurementTimes : next.measurementTimes =
    tally.measurementTimes ∪ ([outcome].filterMap PointOutcome.time?).toFinset
  truthSquaredError : next.truthSquaredError =
    ([outcome].filterMap PointOutcome.truth?).foldl analyzer.arithmetic.add tally.truthSquaredError
  truthCount : next.truthCount =
    tally.truthCount + ([outcome].filterMap PointOutcome.truth?).length
  cells : next.voxels.cells = tally.voxels.cells ∪ cellsOf [outcome]
  accumulator : ∀ cell, next.voxels.accumulator cell =
    (worldsIn [outcome] cell).foldl (VoxelAccumulator.add analyzer.arithmetic)
      (tally.voxels.accumulator cell)

theorem union_singleton_eq_insert {A : Type} [DecidableEq A] (items : Finset A) (item : A) :
    items ∪ {item} = insert item items := by
  rw [Finset.insert_eq, Finset.union_comm]

/-- Outcomes without a place change a counter, and at most a time and an offset. -/
theorem recorded_unplaced {outcome : PointOutcome K} (hplaced : outcome.placed? = none)
    (htruth : outcome.truth? = none) (hretained : outcome.isRetained = false)
    (hpoints : next.pointCount = tally.pointCount + 1)
    (hretainedCount : next.retained = tally.retained)
    (hdynamic : next.dynamic = tally.dynamic + [outcome].countP PointOutcome.isDynamic)
    (hnearEgo : next.nearEgo = tally.nearEgo + [outcome].countP PointOutcome.isNearEgo)
    (hunsupported : next.unsupported =
      tally.unsupported + [outcome].countP PointOutcome.isUnsupported)
    (hposes : next.poseEvaluations =
      tally.poseEvaluations + [outcome].countP PointOutcome.isUnsupported)
    (htimes : next.measurementTimes =
      tally.measurementTimes ∪ ([outcome].filterMap PointOutcome.time?).toFinset)
    (herror : next.truthSquaredError = tally.truthSquaredError)
    (hcount : next.truthCount = tally.truthCount) (hvoxels : next.voxels = tally.voxels) :
    Recorded analyzer tally outcome next := by
  have hnoPlace : [outcome].filterMap PointOutcome.placed? = [] :=
    List.filterMap_eq_nil_iff.mpr (List.forall_mem_singleton.mpr hplaced)
  have hnoTruth : [outcome].filterMap PointOutcome.truth? = [] :=
    List.filterMap_eq_nil_iff.mpr (List.forall_mem_singleton.mpr htruth)
  have hnone : [outcome].countP PointOutcome.isRetained = 0 :=
    List.countP_eq_zero.mpr (List.forall_mem_singleton.mpr (by rw [hretained]; decide))
  exact {
    pointCount := hpoints
    retained := by rw [hnone, hretainedCount, Nat.add_zero]
    dynamic := hdynamic
    nearEgo := hnearEgo
    unsupported := hunsupported
    poseEvaluations := by rw [hnone, hposes, Nat.zero_add]
    measurementTimes := htimes
    truthSquaredError := by rw [hnoTruth, herror]; rfl
    truthCount := by rw [hnoTruth, hcount]; rfl
    cells := by
      unfold cellsOf
      rw [hnoPlace, hvoxels, List.map_nil, List.toFinset_nil, Finset.union_empty]
    accumulator := fun cell => by
      unfold worldsIn
      rw [hnoPlace, hvoxels]
      rfl }

theorem record_spec {sourceOffset : Int} {outcome : PointOutcome K}
    (h : analyzer.record { tally with pointCount := tally.pointCount + 1 } sourceOffset outcome =
      .ok next) : Recorded analyzer tally outcome next := by
  cases outcome with
  | dynamic =>
    obtain rfl := Except.ok.inj h
    exact recorded_unplaced rfl rfl rfl rfl rfl rfl rfl rfl rfl (Finset.union_empty _).symm rfl rfl
      rfl
  | nearEgo =>
    obtain rfl := Except.ok.inj h
    exact recorded_unplaced rfl rfl rfl rfl rfl rfl rfl rfl rfl (Finset.union_empty _).symm rfl rfl
      rfl
  | unsupported time =>
    obtain rfl := Except.ok.inj h
    exact recorded_unplaced rfl rfl rfl rfl rfl rfl rfl rfl rfl
      (union_singleton_eq_insert _ time).symm rfl rfl rfl
  | retained time world cell truth =>
    obtain rfl := Except.ok.inj (bind_unit_eq_ok_iff.mp h).2
    exact {
      pointCount := rfl
      retained := rfl
      dynamic := rfl
      nearEgo := rfl
      unsupported := rfl
      poseEvaluations := rfl
      measurementTimes := (union_singleton_eq_insert _ time).symm
      truthSquaredError := by cases truth <;> rfl
      truthCount := by cases truth <;> rfl
      cells := (union_singleton_eq_insert _ cell).symm
      accumulator := fun other => by
        unfold VoxelMap.addPoint worldsIn
        dsimp only
        by_cases hcell : cell = other
        · rw [hcell, Function.update_self]
          simp [PointOutcome.placed?]
        · rw [Function.update_of_ne (Ne.symm hcell)]
          simp [PointOutcome.placed?, hcell] }

/-- One more outcome. -/
theorem Scanned.append (h : Scanned analyzer outcomes tally) {outcome : PointOutcome K}
    (hnext : Recorded analyzer tally outcome next) :
    Scanned analyzer (outcomes ++ [outcome]) next where
  pointCount := by rw [hnext.pointCount, h.pointCount, List.length_append, List.length_singleton]
  retained := by rw [hnext.retained, h.retained, List.countP_append]
  dynamic := by rw [hnext.dynamic, h.dynamic, List.countP_append]
  nearEgo := by rw [hnext.nearEgo, h.nearEgo, List.countP_append]
  unsupported := by rw [hnext.unsupported, h.unsupported, List.countP_append]
  poseEvaluations := by
    rw [hnext.poseEvaluations, h.poseEvaluations, hnext.retained, hnext.unsupported]
    omega
  measurementTimes := by
    rw [hnext.measurementTimes, h.measurementTimes, List.filterMap_append, List.toFinset_append]
  truthSquaredError := by
    rw [hnext.truthSquaredError, h.truthSquaredError, List.filterMap_append, List.foldl_append]
  truthCount := by
    rw [hnext.truthCount, h.truthCount, List.filterMap_append, List.length_append]
  cells := by rw [hnext.cells, h.cells, cellsOf_append]
  accumulator cell := by
    rw [hnext.accumulator, h.accumulator, worldsIn_append]
    unfold accumulated
    rw [List.foldl_append]

/-! ## The budgets -/

/-- A new cell is recorded only where there is room for it. -/
theorem record_fits {sourceOffset : Int} {outcome : PointOutcome K}
    (h : analyzer.record tally sourceOffset outcome = .ok next)
    (hfits : tally.voxels.cells.card ≤ analyzer.profile.budgets.maximumVoxelsPerFrame) :
    next.voxels.cells.card ≤ analyzer.profile.budgets.maximumVoxelsPerFrame := by
  cases outcome with
  | dynamic =>
    obtain rfl := Except.ok.inj h
    exact hfits
  | nearEgo =>
    obtain rfl := Except.ok.inj h
    exact hfits
  | unsupported time =>
    obtain rfl := Except.ok.inj h
    exact hfits
  | retained time world cell truth =>
    obtain ⟨hroom, h⟩ := bind_unit_eq_ok_iff.mp h
    obtain rfl := Except.ok.inj h
    rw [raiseIf_eq_ok_iff, not_and_or, not_not, not_le] at hroom
    change (insert cell tally.voxels.cells).card ≤ _
    rcases hroom with hold | hroom
    · rw [Finset.insert_eq_of_mem hold]
      exact hfits
    · exact (Finset.card_insert_le cell _).trans hroom

/-- Where there is room for its cell, an outcome is recorded. -/
theorem record_returns {sourceOffset : Int} {outcome : PointOutcome K}
    (hroom : (tally.voxels.cells ∪ cellsOf [outcome]).card ≤
      analyzer.profile.budgets.maximumVoxelsPerFrame) :
    ∃ next, analyzer.record tally sourceOffset outcome = .ok next := by
  cases outcome with
  | dynamic => exact ⟨_, rfl⟩
  | nearEgo => exact ⟨_, rfl⟩
  | unsupported time => exact ⟨_, rfl⟩
  | retained time world cell truth =>
    have hfree : ¬ (cell ∉ tally.voxels.cells ∧
        analyzer.profile.budgets.maximumVoxelsPerFrame ≤ tally.voxels.cells.card) := by
      rintro ⟨hnew, hfull⟩
      have hcells : tally.voxels.cells ∪ cellsOf [.retained time world cell truth] =
          insert cell tally.voxels.cells := union_singleton_eq_insert _ cell
      rw [hcells, Finset.card_insert_of_notMem hnew] at hroom
      omega
    unfold record
    dsimp only
    rw [raiseIf_bind hfree]
    exact ⟨_, rfl⟩

/-! ## The loop -/

/-- A point is processed where the budgets allow it and it can be examined. -/
theorem processPoint_spec {referenceTimeNs : Int} {point : AlignmentPointInput K}
    (h : Scanned analyzer outcomes tally) (hbudget : WithinBudget analyzer outcomes)
    (hprocess : analyzer.processPoint referenceTimeNs tally point = .ok next) :
    ∃ outcome, analyzer.examinePoint referenceTimeNs point = .ok outcome ∧
      Scanned analyzer (outcomes ++ [outcome]) next ∧
      WithinBudget analyzer (outcomes ++ [outcome]) := by
  obtain ⟨hcount, hprocess⟩ := bind_unit_eq_ok_iff.mp hprocess
  obtain ⟨outcome, houtcome, hrecord⟩ := bind_eq_ok_iff.mp hprocess
  rw [raiseIf_eq_ok_iff, not_lt] at hcount
  have hnext := h.append (record_spec hrecord)
  refine ⟨outcome, houtcome, hnext, ?_, ?_⟩
  · rw [List.length_append, List.length_singleton, ← h.pointCount]
    exact hcount
  · rw [← hnext.cells]
    refine record_fits hrecord ?_
    dsimp only
    rw [h.cells]
    exact hbudget.voxels

/-- A point that can be examined is processed where the budgets allow it. -/
theorem processPoint_returns {referenceTimeNs : Int} {point : AlignmentPointInput K}
    {outcome : PointOutcome K} (h : Scanned analyzer outcomes tally)
    (houtcome : analyzer.examinePoint referenceTimeNs point = .ok outcome)
    (hbudget : WithinBudget analyzer (outcomes ++ [outcome])) :
    ∃ next, analyzer.processPoint referenceTimeNs tally point = .ok next := by
  have hcount : ¬ analyzer.profile.budgets.maximumPointsPerFrame < tally.pointCount + 1 := by
    have hpoints := hbudget.points
    rw [List.length_append, List.length_singleton, ← h.pointCount] at hpoints
    exact not_lt.mpr hpoints
  have hvoxels := hbudget.voxels
  rw [cellsOf_append, ← h.cells] at hvoxels
  unfold processPoint
  dsimp only
  rw [raiseIf_bind hcount, houtcome, ok_bind]
  exact record_returns hvoxels

/-- The outcomes of points. -/
def Examined (analyzer : LidarMotionAlignmentAnalyzer K) (referenceTimeNs : Int)
    (points : List (AlignmentPointInput K)) (outcomes : List (PointOutcome K)) : Prop :=
  List.Forall₂ (fun point outcome => analyzer.examinePoint referenceTimeNs point = .ok outcome)
    points outcomes

theorem Examined.unique {referenceTimeNs : Int} {points : List (AlignmentPointInput K)}
    {others : List (PointOutcome K)} (h : Examined analyzer referenceTimeNs points outcomes)
    (hothers : Examined analyzer referenceTimeNs points others) : outcomes = others := by
  induction h generalizing others with
  | nil =>
    cases hothers
    rfl
  | cons houtcome _ ih =>
    obtain _ | ⟨hother, hothers⟩ := hothers
    rw [Except.ok.inj (houtcome.symm.trans hother), ih hothers]

theorem WithinBudget.of_append {more : List (PointOutcome K)}
    (h : WithinBudget analyzer (outcomes ++ more)) : WithinBudget analyzer outcomes where
  points := by
    have hpoints := h.points
    rw [List.length_append] at hpoints
    omega
  voxels := by
    refine le_trans (Finset.card_le_card ?_) h.voxels
    rw [cellsOf_append]
    exact Finset.subset_union_left

/-- A pass over points leaves the variables of their outcomes. -/
theorem foldlM_spec {referenceTimeNs : Int} {points : List (AlignmentPointInput K)}
    (h : Scanned analyzer outcomes tally) (hbudget : WithinBudget analyzer outcomes)
    (hpass : points.foldlM (analyzer.processPoint referenceTimeNs) tally = .ok next) :
    ∃ more, Examined analyzer referenceTimeNs points more ∧
      Scanned analyzer (outcomes ++ more) next ∧ WithinBudget analyzer (outcomes ++ more) := by
  induction points generalizing outcomes tally with
  | nil =>
    obtain rfl := Except.ok.inj hpass
    exact ⟨[], .nil, by rwa [List.append_nil], by rwa [List.append_nil]⟩
  | cons point points ih =>
    rw [List.foldlM_cons] at hpass
    obtain ⟨middle, hmiddle, hpass⟩ := bind_eq_ok_iff.mp hpass
    obtain ⟨outcome, houtcome, hscanned, hwithin⟩ := processPoint_spec h hbudget hmiddle
    obtain ⟨more, hmore, hnext, hnextBudget⟩ := ih hscanned hwithin hpass
    rw [← List.append_cons] at hnext hnextBudget
    exact ⟨outcome :: more, .cons houtcome hmore, hnext, hnextBudget⟩

/-- A pass over points that can be examined returns where their outcomes keep to the budgets. -/
theorem foldlM_returns {referenceTimeNs : Int} {points : List (AlignmentPointInput K)}
    {more : List (PointOutcome K)} (h : Scanned analyzer outcomes tally)
    (hexamined : Examined analyzer referenceTimeNs points more)
    (hbudget : WithinBudget analyzer (outcomes ++ more)) :
    ∃ next, points.foldlM (analyzer.processPoint referenceTimeNs) tally = .ok next := by
  induction hexamined generalizing outcomes tally with
  | nil => exact ⟨tally, rfl⟩
  | @cons point outcome points more houtcome _ ih =>
    rw [List.append_cons] at hbudget
    obtain ⟨middle, hmiddle⟩ := processPoint_returns h houtcome hbudget.of_append
    obtain ⟨other, hother, hscanned, -⟩ := processPoint_spec h hbudget.of_append.of_append hmiddle
    obtain rfl := Except.ok.inj (houtcome.symm.trans hother)
    rw [List.foldlM_cons, hmiddle, ok_bind]
    exact ih hscanned hbudget

/-- The pass over the points of a frame. -/
theorem scan_iff (referenceTimeNs : Int) (points : List (AlignmentPointInput K)) :
    (∃ tally, points.foldlM (analyzer.processPoint referenceTimeNs) (FrameTally.start analyzer) =
      .ok tally) ↔
    ∃ outcomes, Examined analyzer referenceTimeNs points outcomes ∧
      WithinBudget analyzer outcomes := by
  have hstart : WithinBudget analyzer [] := ⟨Nat.zero_le _, Nat.zero_le _⟩
  constructor
  · rintro ⟨tally, htally⟩
    obtain ⟨outcomes, hexamined, -, hbudget⟩ := foldlM_spec scanned_start hstart htally
    exact ⟨outcomes, hexamined, hbudget⟩
  · rintro ⟨outcomes, hexamined, hbudget⟩
    exact foldlM_returns scanned_start hexamined hbudget

theorem scan_spec {referenceTimeNs : Int} {points : List (AlignmentPointInput K)}
    (h : points.foldlM (analyzer.processPoint referenceTimeNs) (FrameTally.start analyzer) =
      .ok tally) : ∃ outcomes, Examined analyzer referenceTimeNs points outcomes ∧
        Scanned analyzer outcomes tally := by
  obtain ⟨outcomes, hexamined, hscanned, -⟩ :=
    foldlM_spec scanned_start ⟨Nat.zero_le _, Nat.zero_le _⟩ h
  exact ⟨outcomes, hexamined, hscanned⟩

end CartoSentry.MotionAlignment.LidarMotionAlignmentAnalyzer
