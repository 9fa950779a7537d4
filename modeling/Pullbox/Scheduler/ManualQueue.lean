import Mathlib.Data.Finset.Basic
import Pullbox.Scheduler.Execution

/-!
# The manual queue

Tasks that are asked for by hand wait in a queue that one worker drains: it calls the wrapper of
the first request, and when that returns goes on with the next one. The worker is started by a
request that finds none.
-/

namespace Pullbox.Scheduler

/-- A queued request; the ticket counts the requests that were queued before. -/
structure ManualTaskRequest where
  taskId : String
  triggerRequestId : Option String
  ticket : Nat

/-- Where the worker of the queue stands. -/
inductive Worker where
  /-- The worker has not run yet. -/
  | starting
  /-- The worker awaits the wrapper of this run. -/
  | draining (run : Nat)
deriving DecidableEq

/-- The scheduler. `answered` lists the requests that were answered with `queued`, and `taken`
those that the worker took. -/
structure PullboxScheduler where
  execution : Execution
  registeredTasks : List String
  manualQueue : List ManualTaskRequest
  manualQueueSet : Finset String
  manualWorker : Option Worker
  manualCurrentTaskId : Option String
  answered : List ManualTaskRequest
  taken : List ManualTaskRequest

/-- What a request to run a task is told. -/
inductive QueueAnswer where
  | alreadyRunning
  | alreadyQueued
  | queued

def manualQueueDeferredTaskIds : List String := ["run_health_checks"]

/-- `rebalance_manual_queue`. -/
def rebalanceManualQueue (queue : List ManualTaskRequest) : List ManualTaskRequest :=
  queue.filter (·.taskId ∉ manualQueueDeferredTaskIds) ++
    queue.filter (·.taskId ∈ manualQueueDeferredTaskIds)

namespace PullboxScheduler

/-- A scheduler whose tasks are registered. -/
def started (tasks : TaskRegistry) : PullboxScheduler where
  execution := .idle
  registeredTasks := tasks.taskIds
  manualQueue := []
  manualQueueSet := ∅
  manualWorker := none
  manualCurrentTaskId := none
  answered := []
  taken := []

/-- `_rebalance_manual_queue`. -/
def rebalance (scheduler : PullboxScheduler) : PullboxScheduler :=
  if scheduler.manualQueue.length < 2 then scheduler
  else { scheduler with manualQueue := rebalanceManualQueue scheduler.manualQueue }

/-- `_ensure_manual_worker`. A worker that has ended is none. -/
def ensureManualWorker (scheduler : PullboxScheduler) : PullboxScheduler :=
  match scheduler.manualWorker with
  | some _ => scheduler
  | none => { scheduler with manualWorker := some .starting }

/-- The request is queued behind the others. -/
def enqueue (scheduler : PullboxScheduler) (request : ManualTaskRequest) : PullboxScheduler :=
  { scheduler with
    manualQueue := scheduler.manualQueue ++ [request]
    manualQueueSet := insert request.taskId scheduler.manualQueueSet
    answered := scheduler.answered ++ [request] }

/-- The task of a request is registered if it is known at all. -/
def register (tasks : TaskRegistry) (scheduler : PullboxScheduler) (taskId : String) :
    Option PullboxScheduler :=
  if taskId ∈ scheduler.registeredTasks then some scheduler
  else if taskId ∈ tasks.taskIds then
    some { scheduler with registeredTasks := scheduler.registeredTasks ++ [taskId] }
  else none

/-- `run_task_now`. -/
def runTaskNow (tasks : TaskRegistry) (scheduler : PullboxScheduler) (taskId : String)
    (triggerRequestId : Option String) : PullboxScheduler × Option QueueAnswer :=
  match scheduler.register tasks taskId with
  | none => (scheduler, none)
  | some scheduler =>
    if 0 < scheduler.execution.shared.runningCount taskId ∨
        scheduler.manualCurrentTaskId = some taskId then
      (scheduler, some .alreadyRunning)
    else if taskId ∈ scheduler.manualQueueSet then (scheduler, some .alreadyQueued)
    else
      let request : ManualTaskRequest :=
        { taskId, triggerRequestId, ticket := scheduler.answered.length }
      ((scheduler.enqueue request).rebalance.ensureManualWorker, some .queued)

/-- The worker takes the first request off the queue. -/
def take (scheduler : PullboxScheduler) (request : ManualTaskRequest)
    (rest : List ManualTaskRequest) : PullboxScheduler :=
  { scheduler with
    manualQueue := rest
    manualQueueSet := scheduler.manualQueueSet.erase request.taskId
    taken := scheduler.taken ++ [request] }

/-- The worker calls the wrapper of a request and awaits it. -/
def callWrapper (scheduler : PullboxScheduler) (taskId : String) : PullboxScheduler :=
  { scheduler with
    manualCurrentTaskId := some taskId
    manualWorker := some (.draining scheduler.execution.started)
    execution := scheduler.execution.start (.manual taskId) }

/-- The `finally` of the worker. -/
def retire (scheduler : PullboxScheduler) : PullboxScheduler :=
  { scheduler with manualWorker := none, manualCurrentTaskId := none }

/-- The loop of the worker up to its next await. -/
def drainFrom (scheduler : PullboxScheduler) : List ManualTaskRequest → PullboxScheduler
  | [] => scheduler.retire
  | request :: rest =>
    if request.taskId ∈ scheduler.registeredTasks then
      (scheduler.take request rest).callWrapper request.taskId
    else (scheduler.take request rest).drainFrom rest

def drain (scheduler : PullboxScheduler) : PullboxScheduler :=
  scheduler.drainFrom scheduler.manualQueue

/-- The worker goes on after a step of the run that it awaits. -/
def resume (scheduler : PullboxScheduler) : Progress → PullboxScheduler
  | .suspended _ => scheduler
  | .returned => { scheduler with manualCurrentTaskId := none }.drain
  | .raised => scheduler.retire

/-- Whether a run of the job is in progress. The scheduler does not start another one then. -/
def inProgress (scheduler : PullboxScheduler) (job : Job) : Bool :=
  (List.range scheduler.execution.started).any fun id =>
    (scheduler.execution.runs id).any (·.job = job)

end PullboxScheduler

/-- What happens next: a job is due, a task is asked for, the await of a run ends, or the worker
runs for the first time. -/
inductive Event where
  | fire (job : Job)
  | request (taskId : String) (triggerRequestId : Option String)
  | wake (run : Nat) (outcome : Wake)
  | work

namespace PullboxScheduler

def fire (scheduler : PullboxScheduler) : Job → Option PullboxScheduler
  | .manual _ => none
  | job =>
    if scheduler.inProgress job then none
    else some { scheduler with execution := scheduler.execution.start job }

def wake (tasks : TaskRegistry) (scheduler : PullboxScheduler) (id : Nat) (outcome : Wake) :
    Option PullboxScheduler :=
  match scheduler.execution.wake tasks id outcome with
  | none => none
  | some (execution, progress) =>
    if scheduler.manualWorker = some (.draining id) then
      some ({ scheduler with execution }.resume progress)
    else some { scheduler with execution }

def step (tasks : TaskRegistry) (scheduler : PullboxScheduler) :
    Event → Option PullboxScheduler
  | .fire job => scheduler.fire job
  | .request taskId triggerRequestId => some (scheduler.runTaskNow tasks taskId triggerRequestId).1
  | .wake id outcome => scheduler.wake tasks id outcome
  | .work => if scheduler.manualWorker = some .starting then some scheduler.drain else none

/-- A run of the scheduler over the events. -/
def after (tasks : TaskRegistry) (events : List Event) : Option PullboxScheduler :=
  events.foldlM (step tasks) (started tasks)

end PullboxScheduler

end Pullbox.Scheduler
