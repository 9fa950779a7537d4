import Pullbox.Durable.Reachable
import Pullbox.Utility.Dispatcher

/-!
# Runs of the utility queue

Requests, the transactions of the dispatcher, crashes and the recovery at startup, in any
order. The dispatcher holds one job at a time; every other step may fall between two of its
transactions. An error that no handler catches ends `dispatch_next` and leaves the table as
the last transaction left it.

A transaction is one step, and a reading of the clock any number. Logs and broadcasts are left out.
-/

namespace Pullbox.Utility

open Durable

/-- The table, the dispatcher and what a run showed. -/
structure System where
  jobs : Jobs
  phase : Phase
  /-- The process started and its recovery has not run. -/
  recovering : Bool
  /-- The identifiers drawn for jobs. -/
  issued : List RowId
  /-- The transitions the dispatcher asked for. -/
  requested : List (JobState × JobState)
  /-- The states of its jobs when the dispatcher was done with them. -/
  left : List JobState
  /-- The jobs whose cancel was accepted. -/
  cancelled : List RowId
  /-- When a job last entered the queue, in turns. -/
  arrived : RowId → Nat
  turn : Nat
  /-- The jobs that were resumed. -/
  resumed : List RowId

/-- The requests, and the steps of the dispatcher. -/
inductive Event where
  | create (id : RowId) (jobType : JobType) (displayName : String) (now : Timestamp)
  | pause (id : RowId) (now : Timestamp)
  | resume (id : RowId)
  | cancel (id : RowId) (rollback : Option RowId) (now : Timestamp)
  | queueRollback (id child : RowId) (now : Timestamp)
  | delete (id : RowId)
  | clearHistory
  /-- `dispatch_next` takes the lock. -/
  | dispatch
  /-- The next job starts, if an executor is registered for its type. -/
  | start (registered : Bool) (now : Timestamp)
  | load
  /-- The items are prepared; `generated` are the identifiers drawn for new items. -/
  | prepare (generated : List RowId) (batchSize : Nat)
  | failPreparation (error : String) (now : Timestamp)
  | checkpoint (now : Timestamp)
  | lease (now : Timestamp)
  /-- The stream yields a result, and its transaction commits. -/
  | persist (processed : ProcessedItem) (applied : ApplyResult) (now : Timestamp)
  /-- The stream yields a result, and its transaction fails. -/
  | failPersist (processed : ProcessedItem) (error : String)
  | persistFailure (now : Timestamp)
  /-- The stream, a hook or a transaction of the batch raises. -/
  | failBatch (error : String)
  | failItem (now : Timestamp)
  | endBatch
  | finalize (message : Option String) (now : Timestamp)
  /-- An error ends `dispatch_next`. -/
  | fault
  | crash
  | recover (now : Timestamp)

namespace System

/-! ### Requests -/

/-- The identifier is drawn, and its job enters the queue. -/
def enqueue (system : System) (id : RowId) : System :=
  { system with
    arrived := fun other => if other = id then system.turn else system.arrived other
    turn := system.turn + 1 }

def issue (system : System) (id : RowId) : System :=
  { system with issued := id :: system.issued }

/-- A paused job enters the queue again. -/
def acceptResume (id : RowId) (system : System) : System :=
  { system.enqueue id with resumed := id :: system.resumed }

/-- A refused request leaves everything as it was. -/
def answer (system : System) (result : Except ValueError Jobs) (accepted : System → System) :
    System :=
  match result with
  | .ok jobs => accepted { system with jobs := jobs }
  | .error _ => system

/-- A cancel, and the rollback job it may queue. -/
def acceptCancel (id : RowId) (rollback : Option RowId) (system : System) : System :=
  let system := { system with cancelled := id :: system.cancelled }
  match rollback with
  | none => system
  | some child => (system.issue child).enqueue child

/-! ### The dispatcher -/

/-- The dispatcher is done with a job and goes on. -/
def leave (system : System) (state : Option JobState) (phase : Phase) : System :=
  { system with phase := phase, left := state.toList ++ system.left }

/-- The dispatcher asks for a transition. -/
def request (system : System) (job : UtilityJob) (target : JobState) : System :=
  { system with requested := (job.state, target) :: system.requested }

/-- `mark_job_without_executor`. -/
def markJobWithoutExecutor (job : UtilityJob) (now : Timestamp) : UtilityJob :=
  { job with
    state := .failed
    errorMessage := some s!"No executor registered for job type: {job.jobType.value}"
    completedAt := some now }

/-- `mark_job_started`. -/
def markJobStarted (job : UtilityJob) (now : Timestamp) : Except ValueError UtilityJob := do
  let job ← transitionJobState job .running now
  return { job with startedAt := some now, queuePosition := none }

/-- `load_next_dispatch_candidate`. -/
def loadNextDispatchCandidate (jobs : Jobs) : Option UtilityJob :=
  if jobs.any (fun job => job.state = .running) then none else (queuedJobsInOrder jobs).head?

/-- `start_next_dispatch_job`. -/
def startNext (system : System) (registered : Bool) (now : Timestamp) : System :=
  match loadNextDispatchCandidate system.jobs with
  | none => { system with phase := .idle }
  | some job =>
    if registered then
      match markJobStarted job now with
      | .ok started =>
        { system.request job .running with
          jobs := system.jobs.save started
          phase := .started job.id job.jobType }
      | .error _ => { system.request job .running with phase := .idle }
    else
      let failed := markJobWithoutExecutor job now
      { system with jobs := system.jobs.save failed }.leave (some failed.state) .selecting

/-- `load_dispatch_runtime_state`. -/
def load (system : System) (jobId : RowId) (jobType : JobType) : System :=
  let summary := (system.jobs.get jobId).elim ⟨0, 0, 0, 0⟩ UtilityJob.summary
  { system with phase := .preparing jobId jobType summary }

/-- The row with its generated items, if it had none. -/
def generateItems (job : UtilityJob) (generated : List RowId) : UtilityJob :=
  if job.items = [] then
    { job with items := buildGeneratedJobItems generated, totalItems := generated.length }
  else
    job

/-- The items still to process, in the order of their index. -/
def pendingItems (job : UtilityJob) : List RowId :=
  (job.items.filter fun item => item.state = .pending).map UtilityJobItem.id

/-- `prepare_dispatch_items`. -/
def prepare (system : System) (jobId : RowId) (jobType : JobType) (summary : JobRunSummary)
    (generated : List RowId) (batchSize : Nat) : System :=
  match system.jobs.get jobId with
  | none => system.leave none .selecting
  | some job =>
    let job := generateItems job generated
    { system with
      jobs := system.jobs.save job
      phase := .checking
        { jobId := jobId
          jobType := jobType
          summary := summary
          batchSize := batchSize
          pendingItems := pendingItems job } }

/-- `mark_item_generation_failed`. -/
def failPreparation (system : System) (jobId : RowId) (error : String) (now : Timestamp) :
    System :=
  match system.jobs.get jobId with
  | none => system.leave none .selecting
  | some job =>
    match transitionJobState job .failed now with
    | .ok failed =>
      let failed := { failed with errorMessage := some s!"Item generation failed: {error}" }
      { system.request job .failed with
        jobs := system.jobs.save failed }.leave (some failed.state) .selecting
    | .error _ => (system.request job .failed).leave (some job.state) .idle

/-- The next batch passed its checkpoint. -/
def nextBatch (system : System) (run : DispatchRun) : System :=
  { system with
    phase := .leasing { run with pendingItems := run.pendingItems.drop run.batchSize }
      (run.pendingItems.take run.batchSize) }

/-- `prepare_batch_checkpoint`, or the end of the batches. -/
def checkpoint (system : System) (run : DispatchRun) (now : Timestamp) : System :=
  let stop := { system with phase := .finalizing run }
  if run.pendingItems = [] then
    stop
  else
    match system.jobs.get run.jobId with
    | none => system.nextBatch run
    | some job =>
      if job.state = .pausing then
        match transitionJobState job .paused now with
        | .ok paused => { stop.request job .paused with jobs := system.jobs.save paused }
        | .error _ => (system.request job .paused).leave (some job.state) .idle
      else if job.state = .cancelling ∨ job.state = .cancelled then
        stop
      else
        system.nextBatch run

/-- `lease_dispatch_batch`. -/
def lease (system : System) (run : DispatchRun) (items : List RowId) (now : Timestamp) :
    System :=
  { system with
    jobs := match system.jobs.get run.jobId with
      | some job => system.jobs.save (job.leaseItems items now)
      | none => system.jobs
    phase := .processing run ⟨items, items, []⟩ }

/-- The row of a job, if it still has the item. -/
def rowWithItem (system : System) (jobId itemId : RowId) : Option UtilityJob :=
  (system.jobs.get jobId).filter fun job => (job.item itemId).isSome

/-- The next result of the stream is saved. A result for an item outside the batch is only
logged. -/
def persist (system : System) (run : DispatchRun) (batch : Batch) (processed : ProcessedItem)
    (applied : ApplyResult) (now : Timestamp) : System :=
  let batch := batch.yielded processed.itemId
  match system.rowWithItem run.jobId processed.itemId with
  | none => { system with phase := .processing run batch }
  | some job =>
    let delta := buildProcessedItemCounterDelta processed applied.warningIncrement
    { system with
      jobs := system.jobs.save
        (persistProcessedItemResult job processed applied run.summary now)
      phase := .processing { run with summary := run.summary.add delta }
        (batch.done processed.itemId) }

/-- An item whose result could not be saved is saved as failed. -/
def persistFailure (system : System) (run : DispatchRun) (batch : Batch)
    (processed : ProcessedItem) (error : String) (now : Timestamp) : System :=
  match system.rowWithItem run.jobId processed.itemId with
  | none => { system with phase := .processing run batch }
  | some job =>
    { system with
      jobs := system.jobs.save
        (persistProcessedItemFailure job processed error run.summary now)
      phase := .processing { run with summary := run.summary.failedToPersist processed }
        (batch.done processed.itemId) }

/-- The next item of a failed batch is saved as failed. -/
def failItem (system : System) (run : DispatchRun) (id : RowId) (remaining : List RowId)
    (error : String) (now : Timestamp) : System :=
  match system.rowWithItem run.jobId id with
  | none => { system with phase := .failing run remaining error }
  | some job =>
    { system with
      jobs := system.jobs.save
        (persistBatchDispatchFailureItem job id error run.summary now)
      phase := .failing { run with summary := run.summary.batchFailed } remaining error }

/-- `finalize_dispatch_job`, with the commit. -/
def finalize (system : System) (run : DispatchRun) (message : Option String)
    (now : Timestamp) : System :=
  match system.jobs.get run.jobId with
  | none => system.leave none .selecting
  | some job =>
    let target := finalTarget job run.jobType run.summary
    match finalizeDispatchJob job run.jobType run.summary message now with
    | .paused paused =>
      { system with jobs := system.jobs.save paused }.leave (some paused.state) .selecting
    | .completed completed =>
      { system.request job target with
        jobs := finishRollback (system.jobs.save completed) completed now
      }.leave (some completed.state) .selecting
    | .refused _ => (system.request job target).leave (some job.state) .idle

/-- The state of the job the dispatcher holds. -/
def heldState (system : System) : Option JobState :=
  (system.phase.held.bind system.jobs.get).map UtilityJob.state

/-- The steps of the dispatcher. -/
def dispatched (system : System) : Phase → Event → Option System
  | .idle, .dispatch =>
    if system.recovering then none else some { system with phase := .selecting }
  | .selecting, .start registered now => some (system.startNext registered now)
  | .started jobId jobType, .load => some (system.load jobId jobType)
  | .preparing jobId jobType summary, .prepare generated batchSize =>
    if generated.Nodup ∧ 0 < batchSize then
      some (system.prepare jobId jobType summary generated batchSize)
    else
      none
  | .preparing jobId _ _, .failPreparation error now =>
    some (system.failPreparation jobId error now)
  | .checking run, .checkpoint now => some (system.checkpoint run now)
  | .leasing run items, .lease now => some (system.lease run items now)
  | .processing run batch, .persist processed applied now =>
    if processed.itemId ∉ batch.items then
      some system
    else if processed.itemId ∈ batch.awaited then
      some (system.persist run batch processed applied now)
    else
      none
  | .processing run batch, .failPersist processed error =>
    if processed.itemId ∈ batch.awaited then
      some { system with
        phase := .persisting run (batch.yielded processed.itemId) processed error }
    else
      none
  | .persisting run batch processed error, .persistFailure now =>
    some (system.persistFailure run batch processed error now)
  | .processing run batch, .failBatch error
  | .persisting run batch _ _, .failBatch error =>
    some { system with phase := .failing run batch.remaining error }
  | .failing run (id :: remaining) error, .failItem now =>
    some (system.failItem run id remaining error now)
  | .processing run batch, .endBatch =>
    if batch.awaited = [] then some { system with phase := .checking run } else none
  | .failing run [] _, .endBatch => some { system with phase := .checking run }
  | .finalizing run, .finalize message now => some (system.finalize run message now)
  | .idle, .fault => none
  | _, .fault => some (system.leave system.heldState .idle)
  | _, _ => none

/-! ### Crash and recovery -/

/-- `recover_interrupted_jobs` on one row. -/
def recoverJob (job : UtilityJob) (now : Timestamp) : UtilityJob :=
  let job := job.releaseItems
  if job.state = .running ∨ job.state = .pausing then
    { job with state := .paused, pausedAt := some now }
  else
    job

/-- `recover_interrupted_jobs`. -/
def recoverInterruptedJobs (jobs : Jobs) (now : Timestamp) : Jobs :=
  jobs.map fun job => recoverJob job now

/-- One step of the system. Identifiers are drawn afresh, and the recovery runs before the
dispatcher. -/
def apply (system : System) : Event → Option System
  | .create id jobType displayName now =>
    if id ∈ system.issued then none
    else
      let jobs := createJob system.jobs id jobType displayName now
      some (({ system with jobs := jobs }.issue id).enqueue id)
  | .pause id now => some (system.answer (pauseJob system.jobs id now) fun after => after)
  | .resume id => some (system.answer (resumeJob system.jobs id) (acceptResume id))
  | .cancel id rollback now =>
    if rollback.any (fun child => child ∈ system.issued) then none
    else some (system.answer (cancelJob system.jobs id rollback now) (acceptCancel id rollback))
  | .queueRollback id child now =>
    if child ∈ system.issued then none
    else
      some (system.answer (queueRollbackJob system.jobs id child now)
        fun after => (after.issue child).enqueue child)
  | .delete id => some (system.answer (deleteJob system.jobs id) fun after => after)
  | .clearHistory => some { system with jobs := Utility.clearHistory system.jobs }
  | .crash => some { system with phase := .idle, recovering := true }
  | .recover now =>
    if system.recovering then
      some { system with
        jobs := recoverInterruptedJobs system.jobs now
        recovering := false }
    else
      none
  | event => system.dispatched system.phase event

end System

/-- The steps of the system. -/
def Step (event : Event) (system after : System) : Prop :=
  system.apply event = some after

/-- An empty queue, before its first recovery. -/
def Fresh (system : System) : Prop :=
  system.jobs = [] ∧ system.phase = .idle ∧ system.issued = [] ∧ system.requested = [] ∧
    system.left = [] ∧ system.cancelled = [] ∧ system.resumed = []

end Pullbox.Utility
