import Pullbox.Search.Dict

/-!
# Runs of scheduled tasks

What the wrapper around a task does between two awaits: a run is deferred or asks for the admission
lock, is admitted or skipped, waits for the other tasks if it is exclusive, executes the body,
records how it ended and gives its reservation back. When a job is due is left open: it may be at
any time.
-/

namespace Pullbox.Scheduler

open Search (Dict)

/-- The registered tasks, and which of them are exclusive. -/
structure TaskRegistry where
  taskIds : List String
  exclusive : String → Bool

/-- What a run was started for. -/
inductive Job where
  | scheduled (taskId : String)
  | continuation (taskId : String)
  | manual (taskId : String)
deriving DecidableEq

def Job.taskId : Job → String
  | .scheduled taskId | .continuation taskId | .manual taskId => taskId

/-- How a run of a task ends. -/
inductive TaskStatus where
  | completed
  | cancelled
  | failed
deriving DecidableEq

/-- The await at which a run is suspended. -/
inductive Phase where
  /-- `_defer_task_for_import`. -/
  | deferring
  /-- The admission lock, before the run is admitted. -/
  | admitting
  /-- The record of a skipped run, under the lock. -/
  | skipping
  /-- The sleep of an exclusive run while other tasks run. -/
  | polling
  /-- The body of the task. -/
  | executing
  /-- The record of how the body ended. -/
  | recording (status : TaskStatus)
  /-- The admission lock, to give the reservation back; then the wrapper returns or raises. -/
  | releasing (raises : Bool)
deriving DecidableEq

/-- One call of a wrapper. -/
structure Run where
  job : Job
  phase : Phase := .deferring
  reservedExclusive : Bool := false

def Run.taskId (run : Run) : String :=
  run.job.taskId

/-- How the await of a run ends. Import protection can end the first one with `deferred`. -/
inductive Wake where
  | done
  | deferred
  | failed
  | cancelled
deriving DecidableEq

/-- What the wrappers share. The lock goes to its waiters in the order in which they came. -/
structure Shared where
  runningCounts : Dict String Nat
  exclusiveActiveTaskId : Option String
  lockHeld : Bool
  lockWaiters : List Nat

/-- What a step of a run comes to: the run is suspended again, or its wrapper ends. -/
inductive Progress where
  | suspended (run : Run)
  | returned
  | raised

def Progress.run? : Progress → Option Run
  | .suspended run => some run
  | .returned | .raised => none

def Progress.ended (raises : Bool) : Progress :=
  if raises then .raised else .returned

namespace Shared

def idle : Shared where
  runningCounts := .empty
  exclusiveActiveTaskId := none
  lockHeld := false
  lockWaiters := []

def runningCount (shared : Shared) (taskId : String) : Nat :=
  (shared.runningCounts.get taskId).getD 0

/-! ### The lock -/

/-- Whether the lock can be taken without waiting. -/
def lockFree (shared : Shared) : Bool :=
  !shared.lockHeld && shared.lockWaiters = []

def wait (shared : Shared) (id : Nat) : Shared :=
  { shared with lockWaiters := shared.lockWaiters ++ [id] }

/-- Whether the lock is handed to this waiter. -/
def lockGranted (shared : Shared) (id : Nat) : Bool :=
  !shared.lockHeld && shared.lockWaiters.head? = some id

def leaveQueue (shared : Shared) (id : Nat) : Shared :=
  { shared with lockWaiters := shared.lockWaiters.erase id }

def unlock (shared : Shared) : Shared :=
  { shared with lockHeld := false }

/-! ### Admission -/

/-- The run is counted and its body starts. -/
def beginBody (shared : Shared) (run : Run) : Shared × Progress :=
  ({ shared with
      runningCounts := shared.runningCounts.set run.taskId (shared.runningCount run.taskId + 1) },
    .suspended { run with phase := .executing })

/-- `any(running_task_id != task_id and count > 0 …)`. -/
def othersRunning (shared : Shared) (taskId : String) : Bool :=
  shared.runningCounts.entries.any fun entry => entry.1 ≠ taskId && 0 < entry.2

/-- The polling loop of an exclusive run, up to its next sleep. -/
def poll (shared : Shared) (run : Run) : Shared × Progress :=
  if shared.othersRunning run.taskId then (shared, .suspended { run with phase := .polling })
  else shared.beginBody run

/-- The run is skipped, and keeps the lock until that is recorded. -/
def skip (shared : Shared) (run : Run) : Shared × Progress :=
  ({ shared with lockHeld := true }, .suspended { run with phase := .skipping })

/-- Whether the reservation of another task blocks this one. -/
def blocked (shared : Shared) (taskId : String) : Bool :=
  shared.exclusiveActiveTaskId.any (· ≠ taskId)

def reserve (shared : Shared) (taskId : String) : Shared :=
  { shared with exclusiveActiveTaskId := some taskId }

/-- The admission under the lock. -/
def admitRun (tasks : TaskRegistry) (shared : Shared) (run : Run) : Shared × Progress :=
  if shared.blocked run.taskId then shared.skip run
  else if 0 < shared.runningCount run.taskId then shared.skip run
  else if tasks.exclusive run.taskId then
    (shared.reserve run.taskId).poll { run with reservedExclusive := true }
  else shared.beginBody run

/-- The run asks for the admission lock. -/
def enter (tasks : TaskRegistry) (shared : Shared) (id : Nat) (run : Run) : Shared × Progress :=
  if shared.lockFree then shared.admitRun tasks run
  else (shared.wait id, .suspended { run with phase := .admitting })

/-! ### The end of a run -/

/-- The run is no longer counted. -/
def uncount (shared : Shared) (taskId : String) : Shared :=
  let current := shared.runningCount taskId
  { shared with
    runningCounts :=
      if current ≤ 1 then shared.runningCounts.erase taskId
      else shared.runningCounts.set taskId (current - 1) }

/-- The reservation is given back, unless it belongs to another task by now. -/
def release (shared : Shared) (taskId : String) : Shared :=
  if shared.exclusiveActiveTaskId = some taskId then
    { shared with exclusiveActiveTaskId := none }
  else shared

/-- The `finally` of a run. -/
def finish (shared : Shared) (id : Nat) (run : Run) (raises : Bool) : Shared × Progress :=
  let uncounted := shared.uncount run.taskId
  if run.reservedExclusive then
    if uncounted.lockFree then (uncounted.release run.taskId, .ended raises)
    else (uncounted.wait id, .suspended { run with phase := .releasing raises })
  else (uncounted, .ended raises)

/-- How the record of a status goes on when its await ends. -/
def recorded (shared : Shared) (id : Nat) (run : Run) :
    TaskStatus → Wake → Option (Shared × Progress)
  | .completed, .done | .failed, .done => some (shared.finish id run false)
  | .completed, .failed => some (shared, .suspended { run with phase := .recording .failed })
  | .completed, .cancelled => some (shared, .suspended { run with phase := .recording .cancelled })
  | .cancelled, .done | .cancelled, .failed | .cancelled, .cancelled | .failed, .failed
  | .failed, .cancelled => some (shared.finish id run true)
  | _, .deferred => none

/-- The body ends, and how it ended is recorded. -/
def bodyEnds (shared : Shared) (run : Run) (status : TaskStatus) : Shared × Progress :=
  (shared, .suspended { run with phase := .recording status })

/-- What a run does when its await ends, up to its next await. -/
def advance (tasks : TaskRegistry) (shared : Shared) (id : Nat) (run : Run) (outcome : Wake) :
    Option (Shared × Progress) :=
  match run.phase, outcome with
  | .deferring, .done => some (shared.enter tasks id run)
  | .deferring, .deferred => some (shared, .returned)
  | .deferring, _ => some (shared, .raised)
  | .admitting, .done =>
    if shared.lockGranted id then some ((shared.leaveQueue id).admitRun tasks run) else none
  | .admitting, .cancelled => some (shared.leaveQueue id, .raised)
  | .skipping, .done => some (shared.unlock, .returned)
  | .skipping, .failed | .skipping, .cancelled => some (shared.unlock, .raised)
  | .polling, .done => some (shared.poll run)
  | .polling, .cancelled => some (shared, .raised)
  | .executing, .done => some (shared.bodyEnds run .completed)
  | .executing, .failed => some (shared.bodyEnds run .failed)
  | .executing, .cancelled => some (shared.bodyEnds run .cancelled)
  | .recording status, outcome => shared.recorded id run status outcome
  | .releasing raises, .done =>
    if shared.lockGranted id then
      some ((shared.leaveQueue id).release run.taskId, .ended raises)
    else none
  | .releasing _, .cancelled => some (shared.leaveQueue id, .raised)
  | _, _ => none

end Shared

/-! ### All runs -/

/-- The runs in progress, by the order in which they were started. -/
structure Execution where
  shared : Shared
  runs : Nat → Option Run
  started : Nat

namespace Execution

def idle : Execution where
  shared := .idle
  runs _ := none
  started := 0

/-- A wrapper is called. -/
def start (execution : Execution) (job : Job) : Execution :=
  { execution with
    runs := Function.update execution.runs execution.started (some { job })
    started := execution.started + 1 }

/-- The await of a run ends, and the run goes on to its next one. -/
def wake (tasks : TaskRegistry) (execution : Execution) (id : Nat) (outcome : Wake) :
    Option (Execution × Progress) :=
  match execution.runs id with
  | none => none
  | some run =>
    (execution.shared.advance tasks id run outcome).map fun (shared, progress) =>
      ({ execution with shared, runs := Function.update execution.runs id progress.run? },
        progress)

end Execution

end Pullbox.Scheduler
