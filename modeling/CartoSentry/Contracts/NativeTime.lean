import CartoSentry.Artifacts.SequenceManifest
import CartoSentry.Contracts.MachineInteger
import CartoSentry.Matching.Transition

set_option autoImplicit false

/-!
# Contracts: checked time arithmetic

`checked_add` and `checked_difference` of `time.cpp`, and the guard of
`score_transition_impl` against an elapsed time beyond 64 bits.
-/

namespace CartoSentry.Contracts

open Artifacts (TimeEpoch TimeReference)
open Matching (elapsedOverflows int64Min int64Max)

/-! ## Time points -/

namespace Native

structure TimePoint where
  valueNs : Int64Value
  epoch : TimeEpoch
  clockId : String
  reference : TimeReference
  deriving DecidableEq

structure Duration where
  valueNs : Int64Value
  deriving DecidableEq

end Native

open Native

/-- `require_clock_id` -/
def requireClockId (point : TimePoint) : Except Fault Unit :=
  if point.clockId = "" then .error (.invalidArgument "time point clock_id must be nonempty")
  else .ok ()

/-- `comparable` -/
def comparable (left right : TimePoint) : Except Fault Bool := do
  requireClockId left
  requireClockId right
  pure (left.epoch = right.epoch && left.clockId = right.clockId)

/-- The guard of `checked_add`: each half computes its bound only behind its sign test. -/
def additionGuard (point duration : Int64Value) : Except Fault Bool := do
  let above ←
    if 0 < duration.value then do
      let bound ← Int64Value.max.sub duration
      pure (decide (bound.value < point.value))
    else pure false
  let below ←
    if above = false ∧ duration.value < 0 then do
      let bound ← Int64Value.min.sub duration
      pure (decide (point.value < bound.value))
    else pure false
  pure (above || below)

/-- `checked_add` -/
def checkedAdd (point : TimePoint) (duration : Duration) : Except Fault TimePoint := do
  requireClockId point
  let beyond ← additionGuard point.valueNs duration.valueNs
  if beyond then .error (.overflowError "nanosecond timestamp addition is out of range")
  else
    let sum ← point.valueNs.add duration.valueNs
    pure { point with valueNs := sum }

/-- The guard that `checked_difference` and `score_transition_impl` have in common. -/
def differenceGuard (finish start : Int64Value) : Except Fault Bool := do
  let above ←
    if start.value < 0 then do
      let bound ← Int64Value.max.add start
      pure (decide (bound.value < finish.value))
    else pure false
  let below ←
    if above = false ∧ 0 < start.value then do
      let bound ← Int64Value.min.add start
      pure (decide (finish.value < bound.value))
    else pure false
  pure (above || below)

/-- `checked_difference` -/
def checkedDifference (finish start : TimePoint) : Except Fault Duration := do
  let same ← comparable finish start
  if same = false then
    .error (.invalidArgument "time points have incomparable epochs or clocks")
  else
    let beyond ← differenceGuard finish.valueNs start.valueNs
    if beyond then .error (.overflowError "nanosecond duration is out of range")
    else
      let difference ← finish.valueNs.sub start.valueNs
      pure ⟨difference⟩

/-! ## One clock domain -/

/-- Points with one named clock and one epoch. -/
structure SameDomain (left right : TimePoint) : Prop where
  named : left.clockId ≠ ""
  epoch : left.epoch = right.epoch
  clockId : left.clockId = right.clockId

theorem SameDomain.symm {left right : TimePoint} (h : SameDomain left right) :
    SameDomain right left :=
  ⟨h.clockId ▸ h.named, h.epoch.symm, h.clockId.symm⟩

theorem requireClockId_eq {point : TimePoint} (h : point.clockId ≠ "") :
    requireClockId point = .ok () :=
  if_neg h

theorem comparable_eq {left right : TimePoint} (h : SameDomain left right) :
    comparable left right = .ok true := by
  unfold comparable
  rw [requireClockId_eq h.named, requireClockId_eq h.symm.named, h.epoch, h.clockId]
  simp [bind, Except.bind, pure, Except.pure]

/-! ## What the guards decide -/

/-- The guard of an addition stays within its type and tells whether the sum does. -/
theorem additionGuard_eq (point duration : Int64Value) :
    additionGuard point duration = .ok (decide ¬ Representable (point.value + duration.value)) := by
  obtain ⟨hlow, hhigh⟩ := point.representable
  obtain ⟨hlow', hhigh'⟩ := duration.representable
  unfold additionGuard
  rcases lt_trichotomy duration.value 0 with hneg | hzero | hpos
  · have hbound : Representable (Int64Value.min.value - duration.value) := by
      unfold Representable Int64Value.min
      dsimp only
      omega
    have hdecides : point.value < Int64Value.min.value - duration.value ↔
        ¬ Representable (point.value + duration.value) := by
      unfold Representable Int64Value.min
      dsimp only
      omega
    rw [if_neg hneg.not_gt, Int64Value.sub, Int64Value.ofInt_eq hbound]
    simp [bind, Except.bind, pure, Except.pure, hneg, hdecides]
  · simp [bind, Except.bind, pure, Except.pure, hzero, point.representable]
  · have hbound : Representable (Int64Value.max.value - duration.value) := by
      unfold Representable Int64Value.max
      dsimp only
      omega
    have hdecides : Int64Value.max.value - duration.value < point.value ↔
        ¬ Representable (point.value + duration.value) := by
      unfold Representable Int64Value.max
      dsimp only
      omega
    rw [if_pos hpos, Int64Value.sub, Int64Value.ofInt_eq hbound]
    simp [bind, Except.bind, pure, Except.pure, hpos.not_gt, hdecides]

/-- The guard of a difference stays within its type and tells whether the difference does. -/
theorem differenceGuard_eq (finish start : Int64Value) :
    differenceGuard finish start = .ok (decide ¬ Representable (finish.value - start.value)) := by
  obtain ⟨hlow, hhigh⟩ := finish.representable
  obtain ⟨hlow', hhigh'⟩ := start.representable
  unfold differenceGuard
  rcases lt_trichotomy start.value 0 with hneg | hzero | hpos
  · have hbound : Representable (Int64Value.max.value + start.value) := by
      unfold Representable Int64Value.max
      dsimp only
      omega
    have hdecides : Int64Value.max.value + start.value < finish.value ↔
        ¬ Representable (finish.value - start.value) := by
      unfold Representable Int64Value.max
      dsimp only
      omega
    rw [if_pos hneg, Int64Value.add, Int64Value.ofInt_eq hbound]
    simp [bind, Except.bind, pure, Except.pure, hneg.not_gt, hdecides]
  · simp [bind, Except.bind, pure, Except.pure, hzero, finish.representable]
  · have hbound : Representable (Int64Value.min.value + start.value) := by
      unfold Representable Int64Value.min
      dsimp only
      omega
    have hdecides : finish.value < Int64Value.min.value + start.value ↔
        ¬ Representable (finish.value - start.value) := by
      unfold Representable Int64Value.min
      dsimp only
      omega
    rw [if_neg hpos.not_gt, Int64Value.add, Int64Value.ofInt_eq hbound]
    simp [bind, Except.bind, pure, Except.pure, hpos, hdecides]

/-! ## Exactness -/

theorem checkedAdd_eq {point : TimePoint} (hclock : point.clockId ≠ "") (duration : Duration) :
    checkedAdd point duration =
      if h : Representable (point.valueNs.value + duration.valueNs.value) then
        .ok { point with valueNs := ⟨_, h⟩ }
      else .error (.overflowError "nanosecond timestamp addition is out of range") := by
  unfold checkedAdd
  rw [requireClockId_eq hclock, additionGuard_eq]
  split_ifs with h
  · simp [bind, Except.bind, pure, Except.pure, h, Int64Value.add, Int64Value.ofInt_eq h]
  · simp [bind, Except.bind, h]

theorem checkedDifference_eq {finish start : TimePoint} (hdomain : SameDomain finish start) :
    checkedDifference finish start =
      if h : Representable (finish.valueNs.value - start.valueNs.value) then .ok ⟨⟨_, h⟩⟩
      else .error (.overflowError "nanosecond duration is out of range") := by
  unfold checkedDifference
  rw [comparable_eq hdomain, differenceGuard_eq]
  split_ifs with h
  · simp [bind, Except.bind, pure, Except.pure, h, Int64Value.sub, Int64Value.ofInt_eq h]
  · simp [bind, Except.bind, h]

/-- The third formulation, in `road_matching.cpp`, decides the same. -/
theorem elapsedOverflows_iff (current previous : Int64Value) :
    elapsedOverflows previous.value current.value ↔
      ¬ Representable (current.value - previous.value) := by
  obtain ⟨hlow, hhigh⟩ := current.representable
  obtain ⟨hlow', hhigh'⟩ := previous.representable
  unfold elapsedOverflows Representable int64Max int64Min
  omega

/-- The last and the first representable time on one clock. -/
def lastTime : TimePoint :=
  ⟨Int64Value.max, .gps, "gps", .sample⟩

def firstTime : TimePoint :=
  ⟨Int64Value.min, .gps, "gps", .sample⟩

end CartoSentry.Contracts
