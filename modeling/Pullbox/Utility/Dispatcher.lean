import Pullbox.Utility.Queue

/-!
# The dispatcher of the utility queue

`dispatch_next` holds a lock and drains the queue: it starts the next queued job, prepares its
items, leases and processes them in batches with a checkpoint before each, and finalizes the
job. Each transaction is one function on the table. What the dispatcher keeps in memory
between two transactions is its `Phase`; the answers of workers, executors and the database
are arguments.
-/

namespace Pullbox.Utility

/-- `JobRunSummary`, without the metadata of the executors. -/
structure JobRunSummary where
  completed : Nat
  failed : Nat
  skipped : Nat
  warnings : Nat

/-- `ProcessedItem`, without log entries and rollback snapshots. -/
structure ProcessedItem where
  itemId : RowId
  result : ItemResult
  durationMs : Nat
  errorMessage : Option String
  warningMessage : Option String
  workerId : Option Nat

/-- `ApplyResult`, without log entries and the payload for the hooks of the executor. -/
structure ApplyResult where
  warningIncrement : Nat
  warningMessage : Option String

/-! ### Rows -/

/-- `item_result_to_state`. -/
def itemResultToState : ItemResult → ItemState
  | .completed => .completed
  | .failed => .failed
  | .skipped => .skipped

/-- `apply_processed_item_snapshot`. -/
def applyProcessedItemSnapshot (item : UtilityJobItem) (processed : ProcessedItem)
    (completedAt : Timestamp) (state : ItemState) (errorMessage : Option String) :
    UtilityJobItem :=
  { item with
    state := state
    durationMs := some processed.durationMs
    errorMessage := errorMessage
    warningMessage := processed.warningMessage
    workerId := processed.workerId
    completedAt := some completedAt }

/-- `build_processed_item_counter_delta`. -/
def buildProcessedItemCounterDelta (processed : ProcessedItem) (warningIncrement : Nat) :
    JobRunSummary where
  completed := if processed.result = .completed then 1 else 0
  failed := if processed.result = .failed then 1 else 0
  skipped := if processed.result = .skipped then 1 else 0
  warnings := warningIncrement + if processed.warningMessage.isSome then 1 else 0

def JobRunSummary.add (summary delta : JobRunSummary) : JobRunSummary where
  completed := summary.completed + delta.completed
  failed := summary.failed + delta.failed
  skipped := summary.skipped + delta.skipped
  warnings := summary.warnings + delta.warnings

/-- The counters of a row. -/
def UtilityJob.summary (job : UtilityJob) : JobRunSummary where
  completed := job.completedItems
  failed := job.failedItems
  skipped := job.skippedItems
  warnings := job.warningCount

/-- `apply_job_counter_snapshot`. -/
def applyJobCounterSnapshot (job : UtilityJob) (summary : JobRunSummary) : UtilityJob :=
  { job with
    completedItems := summary.completed
    failedItems := summary.failed
    skippedItems := summary.skipped
    warningCount := summary.warnings }

/-- `session.get(UtilityJobItem, item_id)`, for an item of the job. -/
def UtilityJob.item (job : UtilityJob) (id : RowId) : Option UtilityJobItem :=
  job.items.find? fun item => item.id = id

/-- Writes the rows of the items with an identifier. -/
def UtilityJob.mapItem (job : UtilityJob) (id : RowId)
    (write : UtilityJobItem → UtilityJobItem) : UtilityJob :=
  { job with items := job.items.map fun item => if item.id = id then write item else item }

/-- `mark_batch_items_in_progress`. -/
def UtilityJob.leaseItems (job : UtilityJob) (ids : List RowId) (now : Timestamp) :
    UtilityJob :=
  { job with
    items := job.items.map fun item =>
      if item.id ∈ ids then
        { item with
          state := .inProgress
          startedAt := some now
          completedAt := none
          workerId := none }
      else
        item }

/-- The items the recovery takes back from the workers. -/
def UtilityJob.releaseItems (job : UtilityJob) : UtilityJob :=
  { job with
    items := job.items.map fun item =>
      if item.state = .inProgress then
        { item with
          state := .pending
          startedAt := none
          completedAt := none
          workerId := none }
      else
        item }

/-- `build_generated_job_items`. -/
def buildGeneratedJobItems (ids : List RowId) : List UtilityJobItem :=
  ids.map fun id =>
    { id := id
      state := .pending
      startedAt := none
      completedAt := none
      durationMs := none
      errorMessage := none
      warningMessage := none
      workerId := none }

/-! ### Transactions of a batch -/

/-- `persist_processed_item_result`: the item, and the counters with its outcome added. -/
def persistProcessedItemResult (job : UtilityJob) (processed : ProcessedItem)
    (applied : ApplyResult) (summary : JobRunSummary) (now : Timestamp) : UtilityJob :=
  let write (item : UtilityJobItem) :=
    let item := applyProcessedItemSnapshot item processed now
      (itemResultToState processed.result) processed.errorMessage
    if applied.warningMessage.isSome ∧ item.warningMessage.isNone then
      { item with warningMessage := applied.warningMessage }
    else
      item
  applyJobCounterSnapshot (job.mapItem processed.itemId write)
    (summary.add (buildProcessedItemCounterDelta processed applied.warningIncrement))

/-- The counters after an item whose result could not be saved. -/
def JobRunSummary.failedToPersist (summary : JobRunSummary) (processed : ProcessedItem) :
    JobRunSummary :=
  { summary with
    failed := summary.failed + 1
    warnings := summary.warnings + if processed.warningMessage.isSome then 1 else 0 }

/-- `persist_processed_item_failure`: the item failed, whatever the worker said. -/
def persistProcessedItemFailure (job : UtilityJob) (processed : ProcessedItem)
    (error : String) (summary : JobRunSummary) (now : Timestamp) : UtilityJob :=
  let write (item : UtilityJobItem) :=
    applyProcessedItemSnapshot item processed now .failed
      (some s!"Result persistence failed: {error}")
  applyJobCounterSnapshot (job.mapItem processed.itemId write)
    (summary.failedToPersist processed)

/-- `build_batch_dispatch_failure_item`. -/
def buildBatchDispatchFailureItem (id : RowId) (error : String) : ProcessedItem where
  itemId := id
  result := .failed
  durationMs := 0
  errorMessage := some s!"Batch dispatch failed: {error}"
  warningMessage := none
  workerId := none

/-- The counters after an item that fails with its batch. -/
def JobRunSummary.batchFailed (summary : JobRunSummary) : JobRunSummary :=
  { summary with failed := summary.failed + 1 }

/-- `persist_batch_dispatch_failure_item`. -/
def persistBatchDispatchFailureItem (job : UtilityJob) (id : RowId) (error : String)
    (summary : JobRunSummary) (now : Timestamp) : UtilityJob :=
  let processed := buildBatchDispatchFailureItem id error
  let write (item : UtilityJobItem) :=
    applyProcessedItemSnapshot item processed now (itemResultToState processed.result)
      processed.errorMessage
  applyJobCounterSnapshot (job.mapItem id write) summary.batchFailed

/-! ### Completion -/

/-- `CompletionDecision`, without its log line. -/
structure CompletionDecision where
  targetState : JobState
  errorMessage : Option String

/-- `build_completion_decision`. -/
def buildCompletionDecision (current : JobState) (jobType : JobType)
    (summary : JobRunSummary) : CompletionDecision :=
  if current = .cancelling then
    ⟨.cancelled, none⟩
  else if summary.failed > 0 ∧ summary.completed = 0 then
    ⟨.failed, some s!"All {summary.failed} items failed"⟩
  else if jobType = .rollback ∧ summary.failed > 0 then
    ⟨.failed, some (s!"Rollback failed. {summary.completed} items rolled back, " ++
      s!"{summary.failed} failed.")⟩
  else
    ⟨.completed, none⟩

/-- `RollbackExecutor.finalize_job` on the parent of a completed rollback job. -/
def finishRollback (jobs : Jobs) (job : UtilityJob) (now : Timestamp) : Jobs :=
  match job.parentJobId.bind jobs.get with
  | some parent =>
    if job.jobType = .rollback ∧ job.state = .completed then
      jobs.save { parent with state := .rolledBack, completedAt := some now }
    else
      jobs
  | none => jobs

/-- What `finalize_dispatch_job` does with the row it finds. -/
inductive Finalization where
  /-- The job is paused; only the counters are saved. -/
  | paused (job : UtilityJob)
  | completed (job : UtilityJob)
  /-- The transition is refused, and the transaction rolled back. -/
  | refused (error : ValueError)

/-- The target `finalize_dispatch_job` asks for, unless the job is paused. -/
def finalTarget (job : UtilityJob) (jobType : JobType) (summary : JobRunSummary) : JobState :=
  (buildCompletionDecision job.state jobType summary).targetState

/-- `finalize_dispatch_job`; `message` is the error message of the executor's hook. -/
def finalizeDispatchJob (job : UtilityJob) (jobType : JobType) (summary : JobRunSummary)
    (message : Option String) (now : Timestamp) : Finalization :=
  let job := applyJobCounterSnapshot job summary
  if job.state = .paused then
    .paused job
  else
    let completion := buildCompletionDecision job.state jobType summary
    match transitionJobState job completion.targetState now with
    | .error error => .refused error
    | .ok job =>
      let job := { job with errorMessage := completion.errorMessage.or job.errorMessage }
      .completed { job with errorMessage := message.or job.errorMessage }

/-! ### Phases -/

/-- What the dispatcher knows of the job it holds. -/
structure DispatchRun where
  jobId : RowId
  jobType : JobType
  summary : JobRunSummary
  batchSize : Nat
  /-- The items no batch has leased. -/
  pendingItems : List RowId

/-- A leased batch. -/
structure Batch where
  items : List RowId
  /-- The payloads whose result the stream has not yielded. -/
  awaited : List RowId
  seen : List RowId

namespace Batch

/-- The stream yielded the result of an item. -/
def yielded (batch : Batch) (id : RowId) : Batch :=
  { batch with awaited := batch.awaited.erase id }

/-- The outcome of an item is saved. -/
def done (batch : Batch) (id : RowId) : Batch :=
  { batch with seen := id :: batch.seen }

/-- `remaining_batch_item_ids`. -/
def remaining (batch : Batch) : List RowId :=
  batch.items.filter fun id => id ∉ batch.seen

end Batch

/-- Where the dispatcher stands. -/
inductive Phase where
  /-- `dispatch_next` does not run. -/
  | idle
  /-- It looks for the next job. -/
  | selecting
  /-- The start of a job is committed. -/
  | started (jobId : RowId) (jobType : JobType)
  /-- The counters of the job are loaded. -/
  | preparing (jobId : RowId) (jobType : JobType) (summary : JobRunSummary)
  /-- Before the checkpoint of the next batch, or at the end of the batches. -/
  | checking (run : DispatchRun)
  /-- The checkpoint let the batch through, which is not leased yet. -/
  | leasing (run : DispatchRun) (items : List RowId)
  | processing (run : DispatchRun) (batch : Batch)
  /-- The result of an item could not be saved. -/
  | persisting (run : DispatchRun) (batch : Batch) (processed : ProcessedItem)
      (error : String)
  /-- The batch failed with these items left. -/
  | failing (run : DispatchRun) (remaining : List RowId) (error : String)
  | finalizing (run : DispatchRun)

/-- The job the dispatcher holds. -/
def Phase.held : Phase → Option RowId
  | .idle | .selecting => none
  | .started jobId _ | .preparing jobId _ _ => some jobId
  | .checking run | .leasing run _ | .processing run _ | .persisting run _ _ _
  | .failing run _ _ | .finalizing run => some run.jobId

end Pullbox.Utility
