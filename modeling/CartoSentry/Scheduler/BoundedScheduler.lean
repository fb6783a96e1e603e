import CartoSentry.Foundation.History
import CartoSentry.Foundation.RoundRobin
import CartoSentry.Scheduler.Contracts

set_option autoImplicit false

/-!
# The bounded scheduler

The monitor of `bounded_scheduler.cpp`.  Every critical section is one function of the
shared fields; the callers blocked in `submit` and `wait` and the worker threads are part
of the state, so that a run is any sequence of critical sections that these threads can
enter.  A thread that wakes and finds its condition false goes back to sleep, which covers
notifications as well as spurious wakeups.
-/

namespace CartoSentry.Scheduler

open CartoSentry.Foundation

def rejection (unit : WorkUnit) (code : WorkErrorCode) (detail : String) : WorkError where
  unitId := unit.unitId
  stageId := unit.stageId
  code := code
  retryable := false
  detail := detail

/-- Where a thread of `worker_loop` stands. -/
inductive Worker where
  | waiting
  | running (queued : QueuedUnit)
  | returned
  deriving DecidableEq, Repr

/-- Where a caller of `wait` stands. -/
inductive Waiter where
  /-- until nothing is queued or active -/
  | draining
  /-- until every worker has returned -/
  | joining
  deriving DecidableEq, Repr

namespace SchedulerConfig

def threadCount (config : SchedulerConfig) : Nat :=
  if config.deterministic then 1 else config.workerCount

/-- The checks of `submit` before it takes the lock. -/
def unitError (config : SchedulerConfig) (unit : WorkUnit) : Option WorkError :=
  if unit.unitId.isEmpty || unit.stageId.isEmpty || !unit.execute then
    some (rejection unit .taskFailure "work unit identity and callable are required")
  else if unit.estimatedBytes = 0 ∨ unit.estimatedBytes > config.residentByteBudget then
    some (rejection unit .invalidEstimatedBytes "estimated bytes must fit the scheduler byte budget")
  else if modalityIndex unit.modality ≥ modalityCount then
    some (rejection unit .taskFailure "work unit modality is invalid")
  else none

end SchedulerConfig

structure BoundedScheduler (config : SchedulerConfig) where
  queues : Fin modalityCount → List QueuedUnit := fun _ => []
  workers : Fin config.threadCount → Worker := fun _ => .waiting
  /-- `request_stop` was called on every worker. -/
  stopRequested : Bool := false
  outcomes : List WorkOutcome := []
  stageMetrics : StageTable := []
  metrics : SchedulerMetrics := {}
  residentBytes : Nat := 0
  nextSubmissionOrder : Nat := 0
  nextModality : Fin modalityCount := 0
  accepting : Bool := true
  cancellationRequested : Bool := false
  joined : Bool := false
  /-- The units of the callers blocked in `submit`. -/
  submitters : List WorkUnit := []
  /-- The callers blocked in `wait`. -/
  waiters : List Waiter := []

/-- The constructor. -/
def construct (config : SchedulerConfig) : Except String (BoundedScheduler config) :=
  if config.workerCount = 0 then .error "scheduler worker count must be positive"
  else if config.residentByteBudget = 0 then .error "scheduler byte budget must be positive"
  else .ok {}

/-- What a critical section did. -/
inductive Event where
  /-- the thread goes (back) to sleep -/
  | blocked
  /-- `submit` returned without having taken the unit -/
  | rejected (error : WorkError)
  /-- `submit` returned having taken the unit -/
  | accepted (queued : QueuedUnit)
  | closed
  | cancelRequested
  | observed (metrics : SchedulerMetrics)
  /-- a worker took the unit -/
  | selected (queued : QueuedUnit)
  | workerReturned
  | completed (outcome : WorkOutcome)
  | drained
  /-- `wait` returned -/
  | returned (result : SchedulerResult)

namespace BoundedScheduler

variable {config : SchedulerConfig}

/-! ## Submission -/

/-- `resident_bytes_ <= config_.resident_byte_budget - unit.estimated_bytes` -/
def hasRoom (s : BoundedScheduler config) (unit : WorkUnit) : Except Fault Bool := do
  let room ← subtractSize config.residentByteBudget unit.estimatedBytes
  return decide (s.residentBytes ≤ room)

/-- The batch of deterministic mode has no room for the unit. -/
def exceedsBatch (s : BoundedScheduler config) (unit : WorkUnit) : Except Fault Bool :=
  if config.deterministic && s.accepting && !s.cancellationRequested then do
    let room ← s.hasRoom unit
    return !room
  else return false

/-- The condition `submit` waits for. -/
def mayProceed (s : BoundedScheduler config) (unit : WorkUnit) : Except Fault Bool :=
  if s.cancellationRequested || !s.accepting then return true else s.hasRoom unit

/-- Both the global metrics and those of one stage change, the stage being entered first. -/
def enterStage (s : BoundedScheduler config) (stageId : String) (change : WorkMetrics → WorkMetrics) :
    BoundedScheduler config :=
  { s with
    metrics := { s.metrics with toWorkMetrics := change s.metrics.toWorkMetrics }
    stageMetrics := s.stageMetrics.enter stageId change }

/-- The unit goes to the end of this queue. -/
def push (s : BoundedScheduler config) (index : Fin modalityCount) (queued : QueuedUnit) :
    BoundedScheduler config :=
  let residentBytes := s.residentBytes + queued.unit.estimatedBytes
  let entered := s.enterStage queued.unit.stageId (·.queued queued.unit.estimatedBytes)
  { entered with
    queues := Function.update s.queues index (s.queues index ++ [queued])
    nextSubmissionOrder := s.nextSubmissionOrder + 1
    residentBytes
    metrics := { entered.metrics with
      residentBytes
      peakResidentBytes := max s.metrics.peakResidentBytes residentBytes } }

/-- The unit goes to the queue of its modality. -/
def enqueue (s : BoundedScheduler config) (unit : WorkUnit) :
    Except Fault (BoundedScheduler config × Event) :=
  if h : modalityIndex unit.modality < modalityCount then
    let queued : QueuedUnit := { submissionOrder := s.nextSubmissionOrder, unit }
    .ok (s.push ⟨modalityIndex unit.modality, h⟩ queued, .accepted queued)
  else .error .queueIndex

/-- The rest of `submit`, once its condition holds. -/
def admitUnit (s : BoundedScheduler config) (unit : WorkUnit) (backpressure : Nat) :
    Except Fault (BoundedScheduler config × Event) :=
  let waited := s.enterStage unit.stageId (·.waited backpressure)
  if s.cancellationRequested then
    .ok (waited, .rejected (rejection unit .cancelled "scheduler cancellation was requested"))
  else if !s.accepting then
    .ok (waited, .rejected (rejection unit .schedulerClosed "scheduler is closed to new work"))
  else waited.enqueue unit

/-- The caller goes on or blocks with its unit. -/
def awaitRoom (s : BoundedScheduler config) (unit : WorkUnit) (backpressure : Nat)
    (blocked : BoundedScheduler config) : Except Fault (BoundedScheduler config × Event) := do
  let proceed ← s.mayProceed unit
  if proceed then s.admitUnit unit backpressure else return (blocked, .blocked)

/-- `submit`, until it returns or blocks. -/
def submit (s : BoundedScheduler config) (unit : WorkUnit) (backpressure : Nat) :
    Except Fault (BoundedScheduler config × Event) :=
  match config.unitError unit with
  | some error => .ok (s, .rejected error)
  | none => do
    let exceeds ← s.exceedsBatch unit
    if exceeds then
      return (s, .rejected
        (rejection unit .invalidEstimatedBytes "deterministic batch exceeds the scheduler byte budget"))
    else s.awaitRoom unit backpressure { s with submitters := s.submitters ++ [unit] }

/-- A caller blocked in `submit` wakes. -/
def resume (s : BoundedScheduler config) (position : Nat) (unit : WorkUnit) (backpressure : Nat) :
    Except Fault (BoundedScheduler config × Event) :=
  { s with submitters := s.submitters.eraseIdx position }.awaitRoom unit backpressure s

/-! ## Closing and cancellation -/

def close (s : BoundedScheduler config) : BoundedScheduler config :=
  { s with accepting := false }

def outcomeOfDropped (queued : QueuedUnit) : WorkOutcome where
  submissionOrder := queued.submissionOrder
  unitId := queued.unit.unitId
  stageId := queued.unit.stageId
  modality := queued.unit.modality
  state := .cancelled
  error := some {
    unitId := queued.unit.unitId
    stageId := queued.unit.stageId
    code := .cancelled
    retryable := true
    detail := "queued work was cancelled before execution" }

/-- Both the global metrics and those of the unit's stage, which has been entered, change. -/
def changeStage (s : BoundedScheduler config) (stageId : String)
    (change : WorkMetrics → Except Fault WorkMetrics) : Except Fault (BoundedScheduler config) := do
  let metrics ← change s.metrics.toWorkMetrics
  let stageMetrics ← s.stageMetrics.changeAt stageId change
  return { s with metrics := { s.metrics with toWorkMetrics := metrics }, stageMetrics }

/-- One unit leaves the front of its queue and is recorded as cancelled. -/
def cancelFront (s : BoundedScheduler config) (index : Fin modalityCount) (queued : QueuedUnit)
    (rest : List QueuedUnit) : Except Fault (BoundedScheduler config) := do
  let changed ← s.changeStage queued.unit.stageId (·.dropped queued.unit.estimatedBytes)
  let residentBytes ← subtractSize s.residentBytes queued.unit.estimatedBytes
  return { changed with
    queues := Function.update s.queues index rest
    residentBytes
    outcomes := s.outcomes ++ [outcomeOfDropped queued] }

/-- The queue, which holds `units`, is emptied. -/
def cancelQueue (index : Fin modalityCount) :
    List QueuedUnit → BoundedScheduler config → Except Fault (BoundedScheduler config)
  | [], s => .ok s
  | queued :: rest, s => do
    let dropped ← s.cancelFront index queued rest
    cancelQueue index rest dropped

def cancelQueuedLocked (s : BoundedScheduler config) : Except Fault (BoundedScheduler config) := do
  let emptied ← (List.finRange modalityCount).foldlM
    (fun state index => cancelQueue index (state.queues index) state) s
  return { emptied with metrics := { emptied.metrics with residentBytes := emptied.residentBytes } }

def requestCancel (s : BoundedScheduler config) : Except Fault (BoundedScheduler config) :=
  if s.cancellationRequested then .ok s
  else do
    let emptied ← { s with cancellationRequested := true, accepting := false }.cancelQueuedLocked
    return { emptied with stopRequested := true }

/-! ## Workers -/

def hasQueuedLocked (s : BoundedScheduler config) : Bool :=
  (List.finRange modalityCount).any fun index => !(s.queues index).isEmpty

/-- The condition a worker waits for. -/
def workerMayProceed (s : BoundedScheduler config) : Bool :=
  s.stopRequested || !s.accepting || (!config.deterministic && s.hasQueuedLocked)

/-- The front of the first queue that is not empty, from `next_modality_` on. -/
def selectNextLocked (s : BoundedScheduler config) :
    Except Fault (BoundedScheduler config × QueuedUnit) :=
  match Rotation.nextTurn (fun index => !(s.queues index).isEmpty) s.nextModality with
  | none => .error .emptyQueues
  | some index =>
    match s.queues index with
    | [] => .error .emptyQueues
    | selected :: rest =>
      .ok ({ s with
        queues := Function.update s.queues index rest
        nextModality := index + 1 }, selected)

/-- The worker takes the next unit. -/
def workerSelect (s : BoundedScheduler config) (worker : Fin config.threadCount) :
    Except Fault (BoundedScheduler config × Event) := do
  let (taken, queued) ← s.selectNextLocked
  let changed ← taken.changeStage queued.unit.stageId (·.selected queued.unit.estimatedBytes)
  return ({ changed with workers := Function.update s.workers worker (.running queued) },
    .selected queued)

/-- The first critical section of `worker_loop`. -/
def workerTurn (s : BoundedScheduler config) (worker : Fin config.threadCount) :
    Except Fault (BoundedScheduler config × Event) :=
  if !s.workerMayProceed then .ok (s, .blocked)
  else if !s.hasQueuedLocked then
    if !s.accepting || s.stopRequested then
      .ok ({ s with workers := Function.update s.workers worker .returned }, .workerReturned)
    else .ok (s, .blocked)
  else s.workerSelect worker

/-- What `worker_loop` hands to `complete_locked`. -/
def executionError (queued : QueuedUnit) : Executed → Option WorkError
  | .value error => error
  | .exception => some (rejection queued.unit .unhandledException "work function raised an exception")
  | .nonstandardException =>
      some (rejection queued.unit .unhandledException "work function raised a nonstandard exception")

/-- The outcome `complete_locked` records. -/
def outcomeOfExecuted (queued : QueuedUnit) (error : Option WorkError) (stopRequested : Bool) :
    WorkOutcome :=
  let attributed := error.map fun error =>
    { error with unitId := queued.unit.unitId, stageId := queued.unit.stageId }
  let outcome (state : WorkState) (error : Option WorkError) : WorkOutcome := {
    submissionOrder := queued.submissionOrder
    unitId := queued.unit.unitId
    stageId := queued.unit.stageId
    modality := queued.unit.modality
    state, error }
  if stopRequested || attributed.any (·.code = .cancelled) then
    outcome .cancelled (attributed.or (some {
      unitId := queued.unit.unitId
      stageId := queued.unit.stageId
      code := .cancelled
      retryable := true
      detail := "work stopped after cooperative cancellation" }))
  else if attributed.isSome then outcome .failed attributed
  else outcome .completed none

/-- `++metrics_.completed_by_modality[...]`, for a unit that completed. -/
def countModality (counts : Fin modalityCount → Nat) (modality : Modality) (state : WorkState) :
    Except Fault (Fin modalityCount → Nat) :=
  if state = .completed then
    if h : modalityIndex modality < modalityCount then
      let index : Fin modalityCount := ⟨modalityIndex modality, h⟩
      .ok (Function.update counts index (counts index + 1))
    else .error .queueIndex
  else .ok counts

def completeLocked (s : BoundedScheduler config) (queued : QueuedUnit) (error : Option WorkError)
    (stopRequested : Bool) : Except Fault (BoundedScheduler config × WorkOutcome) := do
  let outcome := outcomeOfExecuted queued error stopRequested
  let changed ← s.changeStage queued.unit.stageId
    (·.completed queued.unit.estimatedBytes outcome.state)
  let residentBytes ← subtractSize s.residentBytes queued.unit.estimatedBytes
  let completedByModality ←
    countModality s.metrics.completedByModality queued.unit.modality outcome.state
  return ({ changed with
    residentBytes
    metrics := { changed.metrics with residentBytes, completedByModality }
    outcomes := s.outcomes ++ [outcome] }, outcome)

/-- The second critical section of `worker_loop`. -/
def workerComplete (s : BoundedScheduler config) (worker : Fin config.threadCount)
    (queued : QueuedUnit) (executed : Executed) : Except Fault (BoundedScheduler config × Event) := do
  let (completed, outcome) ← s.completeLocked queued (executionError queued executed) s.stopRequested
  return ({ completed with workers := Function.update s.workers worker .waiting }, .completed outcome)

/-! ## Waiting for the end -/

def snapshotMetricsLocked (s : BoundedScheduler config) : SchedulerMetrics :=
  { s.metrics with residentBytes := s.residentBytes, stages := s.stageMetrics }

/-- A caller enters `wait`, which closes the scheduler. -/
def enterWait (s : BoundedScheduler config) : BoundedScheduler config :=
  { s.close with waiters := s.waiters ++ [.draining] }

/-- A caller of `wait` looks whether anything is queued or active. -/
def drain (s : BoundedScheduler config) (position : Nat) : BoundedScheduler config × Event :=
  if s.metrics.queueDepth = 0 ∧ s.metrics.activeUnits = 0 then
    ({ s with waiters := s.waiters.set position .joining }, .drained)
  else (s, .blocked)

/-- Every worker has been joined. -/
def workersJoined (s : BoundedScheduler config) : Bool :=
  s.joined || (List.finRange config.threadCount).all fun worker => s.workers worker = .returned

/-- The last critical section of `wait`. -/
def finishWait (s : BoundedScheduler config) (position : Nat) : BoundedScheduler config × Event :=
  let outcomes := s.outcomes.mergeSort fun left right => left.submissionOrder ≤ right.submissionOrder
  ({ s with joined := true, outcomes, waiters := s.waiters.eraseIdx position },
    .returned {
      cancellationRequested := s.cancellationRequested
      metrics := s.snapshotMetricsLocked
      outcomes })

end BoundedScheduler

/-! ## Runs -/

/-- The next critical section, with what it reads from outside. -/
inductive Action (config : SchedulerConfig) where
  | submit (unit : WorkUnit) (backpressure : Nat)
  | resume (position : Nat) (backpressure : Nat)
  | close
  | requestCancel
  | metrics
  | workerTurn (worker : Fin config.threadCount)
  | workerComplete (worker : Fin config.threadCount) (executed : Executed)
  | enterWait
  | drain (position : Nat)
  | finishWait (position : Nat)

namespace BoundedScheduler

variable {config : SchedulerConfig}

/-- What an action comes to, `none` where no thread can take it. -/
def perform (s : BoundedScheduler config) :
    Action config → Option (Except Fault (BoundedScheduler config × Event))
  | .submit unit backpressure => some (s.submit unit backpressure)
  | .resume position backpressure =>
      (s.submitters[position]?).map fun unit => s.resume position unit backpressure
  | .close => some (.ok (s.close, .closed))
  | .requestCancel => some do
      let cancelled ← s.requestCancel
      return (cancelled, .cancelRequested)
  | .metrics => some (.ok (s, .observed s.snapshotMetricsLocked))
  | .workerTurn worker =>
      if s.workers worker = .waiting then some (s.workerTurn worker) else none
  | .workerComplete worker executed =>
      match s.workers worker with
      | .running queued => some (s.workerComplete worker queued executed)
      | _ => none
  | .enterWait => some (.ok (s.enterWait, .closed))
  | .drain position =>
      if s.waiters[position]? = some .draining then some (.ok (s.drain position)) else none
  | .finishWait position =>
      if s.waiters[position]? = some .joining ∧ s.workersJoined then
        some (.ok (s.finishWait position))
      else none

/-- One critical section of some thread. -/
def Step (s : BoundedScheduler config) (event : Event) (s' : BoundedScheduler config) : Prop :=
  ∃ action, s.perform action = some (.ok (s', event))

/-- A run of the scheduler: its critical sections in the order in which they had the lock. -/
def Run (config : SchedulerConfig) (log : List (Effect (BoundedScheduler config) Event))
    (s : BoundedScheduler config) : Prop :=
  ∃ start, construct config = .ok start ∧ History (fun _ => Step) start log s

end BoundedScheduler

end CartoSentry.Scheduler
