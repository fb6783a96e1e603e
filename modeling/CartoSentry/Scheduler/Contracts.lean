import Mathlib.Data.String.Basic

set_option autoImplicit false

/-!
# Work units, outcomes and metrics of the bounded scheduler

The value types of `bounded_scheduler.hpp`.  The counters are natural numbers: what is
added to them is bounded by the byte budget or by the number of units in memory.  What is
subtracted is checked, since a `size_t` below zero wraps around.
-/

namespace CartoSentry.Scheduler

/-- What the code's types do not exclude and no path may reach. -/
inductive Fault where
  /-- a `size_t` subtraction below zero -/
  | underflow
  /-- `stage_metrics_.at` of a stage that was never entered -/
  | unknownStage
  /-- an index beyond the queues -/
  | queueIndex
  /-- "scheduler selected from an empty queue set" -/
  | emptyQueues
  deriving DecidableEq, Repr

/-- Subtraction of `std::size_t`. -/
def subtractSize (value amount : Nat) : Except Fault Nat :=
  if amount ≤ value then .ok (value - amount) else .error .underflow

theorem subtractSize_add (value amount : Nat) :
    subtractSize (amount + value) amount = .ok value := by
  rw [subtractSize, if_pos (Nat.le_add_right _ _), Nat.add_sub_cancel_left]

/-- A `Modality`: any value of its underlying byte. -/
structure Modality where
  code : UInt8
  deriving DecidableEq, Repr

namespace Modality

def metadata : Modality := ⟨0⟩
def imu : Modality := ⟨1⟩
def trajectory : Modality := ⟨2⟩
def lidar : Modality := ⟨3⟩
def camera : Modality := ⟨4⟩
def radar : Modality := ⟨5⟩

end Modality

abbrev modalityCount : Nat := 6

def modalityIndex (modality : Modality) : Nat :=
  modality.code.toNat

inductive WorkState where
  | completed
  | failed
  | cancelled
  deriving DecidableEq, Repr

inductive WorkErrorCode where
  | taskFailure
  | unhandledException
  | cancelled
  | schedulerClosed
  | invalidEstimatedBytes
  deriving DecidableEq, Repr

structure WorkError where
  unitId : String
  stageId : String
  code : WorkErrorCode
  retryable : Bool
  detail : String
  deriving DecidableEq, Repr

/-- `execute` says whether the unit holds a callable.  What running it gives is not known
before and is an input of the step that completes the unit. -/
structure WorkUnit where
  unitId : String
  stageId : String
  modality : Modality
  estimatedBytes : Nat
  execute : Bool
  deriving DecidableEq, Repr

/-- What running a unit's callable came to. -/
inductive Executed where
  | value (error : Option WorkError)
  | exception
  | nonstandardException
  deriving DecidableEq, Repr

structure QueuedUnit where
  submissionOrder : Nat
  unit : WorkUnit
  deriving DecidableEq, Repr

structure WorkOutcome where
  submissionOrder : Nat
  unitId : String
  stageId : String
  modality : Modality
  state : WorkState
  error : Option WorkError
  deriving DecidableEq, Repr

/-- The fields that `StageMetrics` and `SchedulerMetrics` share. -/
structure WorkMetrics where
  queueDepth : Nat := 0
  queuedBytes : Nat := 0
  activeUnits : Nat := 0
  activeBytes : Nat := 0
  peakQueueDepth : Nat := 0
  peakQueuedBytes : Nat := 0
  peakActiveBytes : Nat := 0
  completedUnits : Nat := 0
  failedUnits : Nat := 0
  cancelledUnits : Nat := 0
  backpressureTime : Nat := 0
  deriving DecidableEq, Repr

structure StageMetrics extends WorkMetrics where
  stageId : String
  deriving DecidableEq, Repr

structure SchedulerMetrics extends WorkMetrics where
  residentBytes : Nat := 0
  peakResidentBytes : Nat := 0
  completedByModality : Fin modalityCount → Nat := fun _ => 0
  stages : List StageMetrics := []

structure SchedulerConfig where
  workerCount : Nat
  residentByteBudget : Nat
  deterministic : Bool
  deriving DecidableEq, Repr

structure SubmitResult where
  accepted : Bool
  error : Option WorkError
  deriving DecidableEq, Repr

structure SchedulerResult where
  cancellationRequested : Bool
  metrics : SchedulerMetrics
  outcomes : List WorkOutcome

/-! ## What the critical sections do to the shared fields -/

namespace WorkMetrics

def waited (metrics : WorkMetrics) (backpressure : Nat) : WorkMetrics :=
  { metrics with backpressureTime := metrics.backpressureTime + backpressure }

/-- A unit enters its queue. -/
def queued (metrics : WorkMetrics) (bytes : Nat) : WorkMetrics :=
  { metrics with
    queueDepth := metrics.queueDepth + 1
    queuedBytes := metrics.queuedBytes + bytes
    peakQueueDepth := max metrics.peakQueueDepth (metrics.queueDepth + 1)
    peakQueuedBytes := max metrics.peakQueuedBytes (metrics.queuedBytes + bytes) }

/-- A unit leaves its queue for a worker. -/
def selected (metrics : WorkMetrics) (bytes : Nat) : Except Fault WorkMetrics := do
  let queueDepth ← subtractSize metrics.queueDepth 1
  let queuedBytes ← subtractSize metrics.queuedBytes bytes
  return { metrics with
    queueDepth, queuedBytes
    activeUnits := metrics.activeUnits + 1
    activeBytes := metrics.activeBytes + bytes
    peakActiveBytes := max metrics.peakActiveBytes (metrics.activeBytes + bytes) }

/-- One more unit ended in the given state. -/
def ended (metrics : WorkMetrics) : WorkState → WorkMetrics
  | .completed => { metrics with completedUnits := metrics.completedUnits + 1 }
  | .failed => { metrics with failedUnits := metrics.failedUnits + 1 }
  | .cancelled => { metrics with cancelledUnits := metrics.cancelledUnits + 1 }

/-- A unit leaves its worker. -/
def completed (metrics : WorkMetrics) (bytes : Nat) (state : WorkState) : Except Fault WorkMetrics := do
  let activeUnits ← subtractSize metrics.activeUnits 1
  let activeBytes ← subtractSize metrics.activeBytes bytes
  return { metrics with activeUnits, activeBytes }.ended state

/-- A unit leaves its queue without having run. -/
def dropped (metrics : WorkMetrics) (bytes : Nat) : Except Fault WorkMetrics := do
  let queueDepth ← subtractSize metrics.queueDepth 1
  let queuedBytes ← subtractSize metrics.queuedBytes bytes
  return { metrics with queueDepth, queuedBytes }.ended .cancelled

end WorkMetrics

/-! ## The map of the stages -/

/-- `stage_metrics_`, in the order of its keys. -/
abbrev StageTable := List StageMetrics

namespace StageTable

/-- What is done to `stage_metrics_[stage_id]`.  A new key is entered where it belongs. -/
def enter (stageId : String) (change : WorkMetrics → WorkMetrics) : StageTable → StageTable
  | [] => [{ stageId, toWorkMetrics := change {} }]
  | stage :: rest =>
      if stageId = stage.stageId then
        { stage with toWorkMetrics := change stage.toWorkMetrics } :: rest
      else if stageId < stage.stageId then { stageId, toWorkMetrics := change {} } :: stage :: rest
      else stage :: enter stageId change rest

/-- What is done to `stage_metrics_.at(stage_id)`. -/
def changeAt (stageId : String) (change : WorkMetrics → Except Fault WorkMetrics) :
    StageTable → Except Fault StageTable
  | [] => .error .unknownStage
  | stage :: rest =>
      if stageId = stage.stageId then do
        let changed ← change stage.toWorkMetrics
        return { stage with toWorkMetrics := changed } :: rest
      else do
        let others ← changeAt stageId change rest
        return stage :: others

end StageTable

end CartoSentry.Scheduler
