import Pullbox.Direct.Executor
import Pullbox.Durable.Reachable
import Pullbox.Search.Dict
import Pullbox.Sql.Table

/-!
# The runner's calls and workers

The calls of the runner that have not returned, the workers it started and the lock, with a step for
each place where one of them goes on after it awaited something. A worker that is done leaves the
registry at once: `_finish` runs before a call goes on that awaited the database. What a worker
writes is arbitrary rows.
-/

namespace Pullbox.Direct

open Durable Search

/-- What the runner reads of an artifact's row. -/
structure ArtifactRecord where
  id : Nat
  isSelected : Bool

/-- What the runner reads of an acquisition's rows. -/
structure AcquisitionRecord where
  id : Nat
  state : DirectAcquisitionState
  nextRetryAt : Option Instant
  artifacts : List ArtifactRecord

namespace AcquisitionRecord

def selected (record : AcquisitionRecord) : List Nat :=
  (record.artifacts.filter (·.isSelected)).map (·.id)

/-- The selected artifact, where there is exactly one. -/
def onlySelected (record : AcquisitionRecord) : Option Nat :=
  match record.selected with
  | [artifact] => some artifact
  | _ => none

/-- `due_retry`. -/
def dueRetry (record : AcquisitionRecord) (now : Instant) : Bool :=
  decide (record.state = .retryPending) && record.nextRetryAt.all (· ≤ now)

/-- Another artifact is selected in the place of one, a new one if there is none with its id. -/
def reselect (record : AcquisitionRecord) (current replacement : Nat) : AcquisitionRecord :=
  let deselected := record.artifacts.map fun artifact =>
    if artifact.id = current then { artifact with isSelected := false } else artifact
  { record with
    state := .queued
    nextRetryAt := none
    artifacts :=
      if deselected.any (·.id = replacement) then
        deselected.map fun artifact =>
          if artifact.id = replacement then { artifact with isSelected := true } else artifact
      else deselected ++ [⟨replacement, true⟩] }

end AcquisitionRecord

abbrev AcquisitionRecords :=
  Sql.Table AcquisitionRecord (·.id)

/-- `_RUNNABLE_STATES`. -/
def runnableStates : List DirectAcquisitionState :=
  [.planned, .queued, .resolving, .downloading, .validating, .postProcessing]

/-- The selected artifacts of the first acquisitions that a condition holds of. -/
def selectedPairs (records : AcquisitionRecords) (condition : AcquisitionRecord → Bool)
    (limit : Nat) : List (Nat × Nat) :=
  let listed := (records.rows.filter condition).insertionSort fun first second =>
    first.id ≤ second.id
  (listed.take limit).flatMap fun record => record.selected.map fun artifact =>
    (record.id, artifact)

/-- `load_recoverable_acquisitions`. -/
def loadRecoverableAcquisitions (records : AcquisitionRecords) (now : Instant) (limit : Nat) :
    List (Nat × Nat) :=
  selectedPairs records (fun record => decide (record.state ∈ runnableStates) ||
    record.dueRetry now) limit

/-- `load_due_retry_acquisitions`. -/
def loadDueRetryAcquisitions (records : AcquisitionRecords) (now : Instant) (limit : Nat) :
    List (Nat × Nat) :=
  selectedPairs records (·.dueRetry now) limit

/-- What a worker does. -/
inductive WorkerPhase where
  | executing (artifact : Nat)
  /-- It awaits its own dispatch of another acquisition, the call of this number. -/
  | handingOver (number : Nat)
deriving DecidableEq

/-- `_ActiveRun`. -/
structure ActiveRun where
  phase : WorkerPhase
  cancelRequested : Bool
deriving DecidableEq

def ActiveRun.executing (run : ActiveRun) : Bool :=
  match run.phase with
  | .executing _ => true
  | .handingOver _ => false

/-- A call that has not returned, by what it does next. -/
inductive Call where
  /-- `dispatch` takes the lock; the pairs after it are dispatched in turn. -/
  | dispatch (acquisition artifact : Nat) (remaining : List (Nat × Nat))
  /-- `_dispatch_locked` queues the acquisition and starts its worker. -/
  | markQueued (acquisition artifact : Nat) (remaining : List (Nat × Nat))
  | retry (acquisition : Nat)
  /-- `retry` loads the rows. -/
  | reopen (acquisition : Nat)
  /-- `retry` commits the rows, reopened or after an intervention. -/
  | requeue (acquisition artifact : Nat) (reopened : Bool)
  | cancel (acquisition : Nat)
  /-- `cancel` of an acquisition without a worker. -/
  | cancelInactive (acquisition : Nat)
  | switchSource (acquisition : Nat)
  /-- `switch_source` looks for another route. -/
  | listOptions (acquisition : Nat)
  /-- `switch_source` waits for the workers it stopped. -/
  | stopWorkers (acquisition : Nat) (stopped : List (Nat × Nat))
  | cancelRoute (acquisition : Nat)
  | queueSwitch (acquisition current : Nat)
  /-- `switch_source` dispatches the new route. -/
  | restart (acquisition artifact : Nat)
  /-- `recover_and_dispatch` and `dispatch_due_retries` load what they dispatch. -/
  | poll (recovers : Bool) (now : Instant) (limit : Nat)
deriving DecidableEq

/-- What a call learns when it goes on. -/
inductive Answer where
  | proceeds
  /-- The call raises. -/
  | fails
  /-- There is no other route. -/
  | refused
  /-- A route is queued as this artifact. -/
  | selects (artifact : Nat)

/-- The rows, the workers, the lock and the calls under way. -/
structure RunnerState where
  records : AcquisitionRecords
  /-- `_active`, without the workers that are done. -/
  active : Dict (Nat × Nat) ActiveRun
  /-- `_lock`: the call that holds it. -/
  lock : Option Nat
  calls : Nat → Option Call
  /-- The number of the next call. -/
  nextCall : Nat

namespace RunnerState

/-- A call goes on with what it does next. -/
def goOn (runner : RunnerState) (number : Nat) (call : Call) : RunnerState :=
  { runner with calls := fun other => if other = number then some call else runner.calls other }

/-- A call returns or raises. -/
def leave (runner : RunnerState) (number : Nat) : RunnerState :=
  { runner with calls := fun other => if other = number then none else runner.calls other }

def release (runner : RunnerState) : RunnerState :=
  { runner with lock := none }

/-- A new call. -/
def start (runner : RunnerState) (call : Call) : RunnerState :=
  { runner.goOn runner.nextCall call with nextCall := runner.nextCall + 1 }

/-- The next pair is dispatched. -/
def dispatchNext (runner : RunnerState) (number : Nat) : List (Nat × Nat) → RunnerState
  | [] => runner.leave number
  | (acquisition, artifact) :: remaining =>
    runner.goOn number (.dispatch acquisition artifact remaining)

/-- The rows of an acquisition are written. -/
def write (runner : RunnerState) (acquisition : Nat)
    (change : AcquisitionRecord → AcquisitionRecord) : RunnerState :=
  { runner with
    records := runner.records.modify acquisition
      (fun record => { change record with id := record.id }) fun _ => rfl }

/-- The workers of an acquisition. -/
def workers (runner : RunnerState) (acquisition : Nat) : List (Nat × Nat) :=
  (runner.active.entries.map Prod.fst).filter (·.1 = acquisition)

/-- The workers of an acquisition are asked to stop. -/
def signal (runner : RunnerState) (acquisition : Nat) : RunnerState :=
  { runner with
    active := runner.active.each fun key run =>
      if key.1 = acquisition then { run with cancelRequested := true } else run }

/-- The rows of an acquisition and its only selected artifact. -/
def currentRoute (runner : RunnerState) (acquisition : Nat) : Option (AcquisitionRecord × Nat) := do
  let record ← runner.records.find acquisition
  let artifact ← record.onlySelected
  return (record, artifact)

/-- `dispatch` once it can take the lock. -/
def takeDispatch (runner : RunnerState) (number acquisition artifact : Nat)
    (remaining : List (Nat × Nat)) : RunnerState :=
  if (runner.active.get (acquisition, artifact)).isSome then runner.dispatchNext number remaining
  else
    { runner.goOn number (.markQueued acquisition artifact remaining) with lock := some number }

/-- `_mark_queued`, and the worker. -/
def startWorker (runner : RunnerState) (number acquisition artifact : Nat)
    (remaining : List (Nat × Nat)) : RunnerState :=
  match runner.records.find acquisition with
  | none => (runner.release).leave number
  | some record =>
    if record.artifacts.any (·.id = artifact) then
      let queued := runner.write acquisition fun record =>
        if record.state = .planned then { record with state := .queued } else record
      { queued.release.dispatchNext number remaining with
        active := queued.active.set (acquisition, artifact) ⟨.executing artifact, false⟩ }
    else (runner.release).leave number

/-- What `retry` finds. -/
def loadRetry (runner : RunnerState) (number acquisition : Nat) : RunnerState :=
  match runner.currentRoute acquisition with
  | none => runner.leave number
  | some (record, artifact) =>
    if record.state = .failed ∨ record.state = .cancelled then
      runner.goOn number (.requeue acquisition artifact true)
    else if record.state = .intervention then
      runner.goOn number (.requeue acquisition artifact false)
    else runner.leave number

/-- `executor.cancel`. -/
def cancelRow (runner : RunnerState) (acquisition : Nat) : RunnerState :=
  runner.write acquisition fun record => { record with state := .cancelled }

/-- `switch_source` without workers. -/
def cancelForSwitch (runner : RunnerState) (number acquisition : Nat) : RunnerState :=
  match runner.currentRoute acquisition with
  | none => (runner.release).leave number
  | some (record, artifact) =>
    if record.state = .cancelled then runner.goOn number (.queueSwitch acquisition artifact)
    else if record.state ∈ uncancellableStates then (runner.release).leave number
    else (runner.cancelRow acquisition).goOn number (.queueSwitch acquisition artifact)

/-- `recover_and_dispatch` or `dispatch_due_retries`, to the first dispatch. -/
def pollDue (runner : RunnerState) (number : Nat) (recovers : Bool) (now : Instant)
    (limit : Nat) : RunnerState :=
  if 1 ≤ limit ∧ limit ≤ 500 then
    runner.dispatchNext number
      (if recovers then loadRecoverableAcquisitions runner.records now limit
      else loadDueRetryAcquisitions runner.records now limit)
  else runner.leave number

/-- One call goes on, if it can. -/
def proceed (runner : RunnerState) (number : Nat) (answer : Answer) : Call → Option RunnerState
  | .dispatch acquisition artifact remaining =>
    if runner.lock = none then some (runner.takeDispatch number acquisition artifact remaining)
    else none
  | .markQueued acquisition artifact remaining =>
    match answer with
    | .proceeds => some (runner.startWorker number acquisition artifact remaining)
    | _ => some ((runner.release).leave number)
  | .retry acquisition =>
    if runner.lock = none then
      if runner.workers acquisition = [] then some (runner.goOn number (.reopen acquisition))
      else some (runner.leave number)
    else none
  | .reopen acquisition =>
    match answer with
    | .proceeds => some (runner.loadRetry number acquisition)
    | _ => some (runner.leave number)
  | .requeue acquisition artifact reopened =>
    match answer with
    | .proceeds =>
      let written :=
        if reopened then runner.write acquisition fun record =>
          { record with state := .retryPending, nextRetryAt := none }
        else runner
      some (written.goOn number (.dispatch acquisition artifact []))
    | .selects replacement =>
      some ((runner.write acquisition (·.reselect artifact replacement)).goOn number
        (.dispatch acquisition replacement []))
    | _ => some (runner.leave number)
  | .cancel acquisition =>
    if runner.lock = none then
      if runner.workers acquisition = [] then
        some (runner.goOn number (.cancelInactive acquisition))
      else some ((runner.signal acquisition).leave number)
    else none
  | .cancelInactive acquisition =>
    match answer, runner.currentRoute acquisition with
    | .proceeds, some (record, _) =>
      if record.state ∈ uncancellableStates then some (runner.leave number)
      else some ((runner.cancelRow acquisition).leave number)
    | _, _ => some (runner.leave number)
  | .switchSource acquisition =>
    if runner.lock = none then
      some { runner.goOn number (.listOptions acquisition) with lock := some number }
    else none
  | .listOptions acquisition =>
    match answer, runner.currentRoute acquisition with
    | .proceeds, some _ =>
      some ((runner.signal acquisition).goOn number
        (.stopWorkers acquisition (runner.workers acquisition)))
    | _, _ => some ((runner.release).leave number)
  | .stopWorkers acquisition stopped =>
    if ∀ key ∈ stopped, runner.active.get key = none then
      some (runner.goOn number (.cancelRoute acquisition))
    else none
  | .cancelRoute acquisition =>
    match answer with
    | .proceeds => some (runner.cancelForSwitch number acquisition)
    | _ => some ((runner.release).leave number)
  | .queueSwitch acquisition current =>
    match answer with
    | .selects replacement =>
      some ((runner.write acquisition (·.reselect current replacement)).goOn number
        (.restart acquisition replacement))
    | _ => some ((runner.release).leave number)
  | .restart acquisition artifact =>
    if (runner.active.get (acquisition, artifact)).isSome then
      some ((runner.release).leave number)
    else some (runner.goOn number (.markQueued acquisition artifact []))
  | .poll recovers now limit =>
    match answer with
    | .proceeds => some (runner.pollDue number recovers now limit)
    | _ => some (runner.leave number)

/-- A worker is done. -/
def finish (runner : RunnerState) (key : Nat × Nat) : RunnerState :=
  { runner with active := runner.active.erase key }

/-- A worker goes on with something else. -/
def turn (runner : RunnerState) (key : Nat × Nat) (run : ActiveRun) (phase : WorkerPhase) :
    RunnerState :=
  { runner with active := runner.active.set key { run with phase := phase } }

/-- `_run` once its executor returned; `alternate` is what the provider fallback planned. -/
def afterExecution (runner : RunnerState) (key : Nat × Nat) (run : ActiveRun) (artifact : Nat)
    (alternate : Option (Nat × Nat)) : RunnerState :=
  match runner.records.find key.1 with
  | none => runner.finish key
  | some record =>
    match record.state, alternate with
    | .failed, some (acquisition, other) =>
      (runner.turn key run (.handingOver runner.nextCall)).start
        (.dispatch acquisition other [])
    | .queued, _ =>
      match record.onlySelected with
      | none => runner.finish key
      | some next =>
        if next = artifact then runner.finish key
        else runner.turn key run (.executing next)
    | _, _ => runner.finish key

end RunnerState

/-- A call of the runner's interface. -/
inductive Request where
  | dispatch (acquisition artifact : Nat)
  | retry (acquisition : Nat)
  | cancel (acquisition : Nat)
  | switchSource (acquisition : Nat)
  | recoverAndDispatch (now : Instant) (limit : Nat)
  | dispatchDueRetries (now : Instant) (limit : Nat)

def Request.call : Request → Call
  | .dispatch acquisition artifact => .dispatch acquisition artifact []
  | .retry acquisition => .retry acquisition
  | .cancel acquisition => .cancel acquisition
  | .switchSource acquisition => .switchSource acquisition
  | .recoverAndDispatch now limit => .poll true now limit
  | .dispatchDueRetries now limit => .poll false now limit

/-- One step of a call or of a worker. -/
inductive RunnerEvent where
  | request (request : Request)
  /-- A call goes on. -/
  | proceed (number : Nat) (answer : Answer)
  /-- The executor of a worker commits the rows of its acquisition. -/
  | commit (key : Nat × Nat) (record : AcquisitionRecord)
  /-- The executor of a worker returns. -/
  | executed (key : Nat × Nat) (alternate : Option (Nat × Nat))
  /-- A worker raises or is cancelled. -/
  | raised (key : Nat × Nat)
  /-- The dispatch that a worker awaits returned. -/
  | handedOver (key : Nat × Nat)
  /-- The rows of an acquisition are written elsewhere. -/
  | write (record : AcquisitionRecord)
  /-- The process starts again. -/
  | restarted

/-- One step of the runner, where it can be taken. -/
def RunnerState.step (runner : RunnerState) : RunnerEvent → Option RunnerState
  | .request request => some (runner.start request.call)
  | .proceed number answer => do
      let call ← runner.calls number
      runner.proceed number answer call
  | .commit key record => do
      let run ← runner.active.get key
      if run.executing then some (runner.write key.1 fun _ => record) else none
  | .executed key alternate => do
      let run ← runner.active.get key
      match run.phase with
      | .executing artifact => some (runner.afterExecution key run artifact alternate)
      | .handingOver _ => none
  | .raised key => do
      let _ ← runner.active.get key
      some (runner.finish key)
  | .handedOver key => do
      let run ← runner.active.get key
      match run.phase with
      | .executing _ => none
      | .handingOver number =>
        if runner.calls number = none then some (runner.finish key) else none
  | .write record => some (runner.write record.id fun _ => record)
  | .restarted =>
    some { runner with active := .empty, lock := none, calls := fun _ => none }

/-- A runner without calls and workers. -/
structure RunnerState.Fresh (runner : RunnerState) : Prop where
  active : runner.active = .empty
  lock : runner.lock = none
  calls : ∀ number, runner.calls number = none

end Pullbox.Direct
