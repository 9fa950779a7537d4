import Mathlib.Data.List.Sort
import Mathlib.Data.Prod.Lex
import Mathlib.Order.Nat
import Pullbox.Durable.Results
import Pullbox.Utility.Job

/-!
# The utility queue

The table of utility jobs, the order in which queued jobs are dispatched, and the requests
that reach the table: creation, pause, resume, cancel, rollback and deletion.
-/

namespace Pullbox.Utility

open Durable

/-- The rows of `utility_jobs`, with their items. -/
abbrev Jobs := List UtilityJob

namespace Jobs

/-- `session.get(UtilityJob, job_id)`. -/
def get (jobs : Jobs) (id : RowId) : Option UtilityJob :=
  jobs.find? fun job => job.id = id

/-- Writes a row back under its identifier. -/
def save (jobs : Jobs) (job : UtilityJob) : Jobs :=
  jobs.map fun row => if row.id = job.id then job else row

/-- The rows in state `QUEUED`. -/
def queued (jobs : Jobs) : Jobs :=
  jobs.filter fun job => job.state = .queued

end Jobs

/-- The sort key of the queue: no position comes first. -/
def UtilityJob.dispatchKey (job : UtilityJob) : ℕ ×ₗ ℕ ×ₗ ℕ :=
  toLex (job.queuePosition.elim 0 (· + 1), toLex (job.createdAt, job.id))

/-- `queued_jobs_in_order`. -/
def queuedJobsInOrder (jobs : Jobs) : Jobs :=
  jobs.queued.insertionSort fun left right => left.dispatchKey ≤ right.dispatchKey

/-- `next_queue_position`. -/
def nextQueuePosition (jobs : Jobs) : Nat :=
  match (jobs.queued.filterMap UtilityJob.queuePosition).max? with
  | some position => position + 1
  | none => 0

/-- `resequence_queued_jobs`. -/
def resequenceQueuedJobs (jobs ordered : Jobs) : Jobs :=
  jobs.map fun row =>
    if row.id ∈ ordered.map UtilityJob.id then
      { row with queuePosition := some ((ordered.map UtilityJob.id).idxOf row.id) }
    else
      row

/-- `build_resume_queue_order`. -/
def buildResumeQueueOrder (resumed : UtilityJob) (queued : Jobs) : Jobs :=
  queued.filter (fun job => job.startedAt.isSome) ++
    resumed :: queued.filter fun job => job.startedAt.isNone

/-- `build_queued_job`. -/
def buildQueuedJob (id : RowId) (jobType : JobType) (displayName : String)
    (queuePosition : Nat) (now : Timestamp) : UtilityJob where
  id := id
  jobType := jobType
  displayName := displayName
  state := .queued
  totalItems := 0
  completedItems := 0
  failedItems := 0
  skippedItems := 0
  warningCount := 0
  queuePosition := some queuePosition
  createdAt := now
  startedAt := none
  pausedAt := none
  completedAt := none
  errorMessage := none
  parentJobId := none
  items := []

/-- `build_rollback_job`. -/
def buildRollbackJob (parent : UtilityJob) (id : RowId) (queuePosition : Nat)
    (now : Timestamp) : UtilityJob :=
  { buildQueuedJob id .rollback s!"Rollback: {parent.displayName}" queuePosition now with
    parentJobId := some parent.id }

/-- `JobQueueManager.create_job`. -/
def createJob (jobs : Jobs) (id : RowId) (jobType : JobType) (displayName : String)
    (now : Timestamp) : Jobs :=
  jobs ++ [buildQueuedJob id jobType displayName (nextQueuePosition jobs) now]

/-- The last rollback job of a parent. -/
def latestRollback (jobs : Jobs) (parent : RowId) : Option UtilityJob :=
  ((jobs.filter fun job => job.parentJobId = some parent ∧ job.jobType = .rollback).insertionSort
    fun left right => toLex (right.createdAt, right.id) ≤ toLex (left.createdAt, left.id)).head?

/-- `JobQueueManager._create_rollback_job`. -/
def createRollbackJob (jobs : Jobs) (parent : UtilityJob) (id : RowId) (now : Timestamp) :
    Except ValueError Jobs :=
  let existing := latestRollback jobs parent.id
  if existing.any (fun job => job.state ∉ [JobState.failed, JobState.cancelled]) then
    .error ⟨"Rollback already queued or completed for this job. " ++
      "Delete the existing rollback entry before retrying."⟩
  else
    .ok (jobs ++ [buildRollbackJob parent id (nextQueuePosition jobs) now])

/-- The row a request names, or the request's refusal. -/
def requireJob (jobs : Jobs) (id : RowId) : Except ValueError UtilityJob :=
  match jobs.get id with
  | some job => .ok job
  | none => .error ⟨s!"Job not found: {id}"⟩

/-- `JobQueueManager.pause_job`. -/
def pauseJob (jobs : Jobs) (id : RowId) (now : Timestamp) : Except ValueError Jobs := do
  let job ← requireJob jobs id
  let job ← transitionJobState job .pausing now
  return jobs.save job

/-- A paused job goes back to the queue, past the transition table. -/
def UtilityJob.requeued (job : UtilityJob) : UtilityJob :=
  { job with state := .queued }

@[simp]
theorem UtilityJob.requeued_id (job : UtilityJob) : job.requeued.id = job.id :=
  rfl

/-- The order in which a resume numbers the queued jobs. -/
def resumeOrder (jobs : Jobs) (job : UtilityJob) : Jobs :=
  buildResumeQueueOrder job.requeued (queuedJobsInOrder jobs)

/-- `JobQueueManager.resume_job`. -/
def resumeJob (jobs : Jobs) (id : RowId) : Except ValueError Jobs := do
  let job ← requireJob jobs id
  if job.state ≠ .paused then
    .error ⟨s!"Can only resume PAUSED jobs, got: {job.state.value}"⟩
  else
    .ok (resequenceQueuedJobs (jobs.save job.requeued) (resumeOrder jobs job))

/-- The row a cancel leaves: a running job is left to its dispatcher, a job that rests is
cancelled at once. -/
def cancelledRow (job : UtilityJob) (now : Timestamp) : Except ValueError UtilityJob :=
  if job.state = .running then
    transitionJobState job .cancelling now
  else do
    let job ← transitionJobState job .cancelling now
    transitionJobState job .cancelled now

/-- `JobQueueManager.cancel_job`; `rollback` is the identifier of the rollback job, if one is
asked for. -/
def cancelJob (jobs : Jobs) (id : RowId) (rollback : Option RowId) (now : Timestamp) :
    Except ValueError Jobs := do
  let job ← requireJob jobs id
  if job.state ∉ cancellableStates then
    .error ⟨s!"Cannot cancel job in state {job.state.value}. " ++
      "Cancellable states: " ++ ", ".intercalate (cancellableStates.map JobState.value)⟩
  else
    let job ← cancelledRow job now
    match rollback with
    | none => .ok (jobs.save job)
    | some child => createRollbackJob (jobs.save job) job child now

/-- `JobQueueManager.queue_rollback_job`. -/
def queueRollbackJob (jobs : Jobs) (id child : RowId) (now : Timestamp) :
    Except ValueError Jobs := do
  let job ← requireJob jobs id
  if job.jobType = .rollback then
    .error ⟨"Cannot queue rollback for a rollback job"⟩
  else if job.state ∉ rollbackableStates then
    .error ⟨s!"Can only rollback COMPLETED or CANCELLED jobs, got: {job.state.value}"⟩
  else
    createRollbackJob jobs job child now

/-- `ON DELETE SET NULL` of the reference to the parent. -/
def Jobs.without (jobs : Jobs) (removed : UtilityJob → Bool) : Jobs :=
  (jobs.filter fun job => !removed job).map fun job =>
    if job.parentJobId ∈ (jobs.filter removed).map (fun parent => some parent.id) then
      { job with parentJobId := none }
    else
      job

/-- `delete_job` of the router. -/
def deleteJob (jobs : Jobs) (id : RowId) : Except ValueError Jobs := do
  let job ← requireJob jobs id
  if job.state ∉ terminalStates then
    .error ⟨s!"Cannot delete job in state {job.state.value}. " ++
      "Only completed, failed, cancelled, or rolled-back jobs can be deleted."⟩
  else
    .ok (jobs.without fun row => row.id = id)

/-- `clear_history` of the router. -/
def clearHistory (jobs : Jobs) : Jobs :=
  jobs.without fun row => row.state ∈ terminalStates

/-! ### Rows of the table -/

namespace Jobs

variable {jobs : Jobs} {job row : UtilityJob} {id : RowId}

theorem mem_of_get (found : jobs.get id = some job) : job ∈ jobs ∧ job.id = id := by
  have named := List.find?_some found
  exact ⟨List.mem_of_find?_eq_some found, by simpa using named⟩

/-- Rows have distinct identifiers. -/
def Distinct (jobs : Jobs) : Prop :=
  (jobs.map UtilityJob.id).Nodup

theorem Distinct.get (distinct : jobs.Distinct) (member : job ∈ jobs) :
    jobs.get job.id = some job := by
  induction jobs with
  | nil => cases member
  | cons head rest ih =>
    obtain ⟨absent, distinct⟩ := List.nodup_cons.1 distinct
    rcases List.mem_cons.1 member with rfl | member
    · simp [Jobs.get]
    · have other : head.id ≠ job.id := by
        intro same
        exact absent (same ▸ List.mem_map_of_mem member)
      simpa [Jobs.get, other] using ih distinct member

theorem Distinct.eq (distinct : jobs.Distinct) (left : job ∈ jobs) (right : row ∈ jobs)
    (same : job.id = row.id) : job = row := by
  have first := distinct.get left
  have second := distinct.get right
  rw [same, second] at first
  exact (Option.some.inj first).symm

theorem mem_save : row ∈ jobs.save job ↔
    (row ∈ jobs ∧ row.id ≠ job.id) ∨ (row = job ∧ ∃ old ∈ jobs, old.id = job.id) := by
  simp only [save, List.mem_map]
  constructor
  · rintro ⟨old, member, rfl⟩
    by_cases same : old.id = job.id
    · exact .inr ⟨by simp [same], old, member, same⟩
    · exact .inl (by simpa [same] using member)
  · rintro (⟨member, other⟩ | ⟨rfl, old, member, same⟩)
    · exact ⟨row, member, by simp [other]⟩
    · exact ⟨old, member, by simp [same]⟩

@[simp]
theorem map_id_save : (jobs.save job).map UtilityJob.id = jobs.map UtilityJob.id := by
  simp only [save, List.map_map]
  apply List.map_congr_left
  intro row _
  by_cases same : row.id = job.id <;> simp [same]

end Jobs
/-! ### What an accepted request does -/

section Accepted

variable {jobs after : Jobs} {id child : RowId} {now : Timestamp}

theorem requireJob_eq_ok {job : UtilityJob} :
    requireJob jobs id = .ok job ↔ jobs.get id = some job := by
  unfold requireJob
  cases jobs.get id <;> simp

theorem createRollbackJob_ok {parent : UtilityJob}
    (accepted : createRollbackJob jobs parent child now = .ok after) :
    after = jobs ++ [buildRollbackJob parent child (nextQueuePosition jobs) now] := by
  unfold createRollbackJob at accepted
  simp only at accepted
  split_ifs at accepted
  exact (Except.ok.inj accepted).symm

/-- A pause reaches running jobs only. -/
theorem pauseJob_ok (accepted : pauseJob jobs id now = .ok after) :
    ∃ job, jobs.get id = some job ∧ job.state = .running ∧
      after = jobs.save (job.moveTo .pausing now) := by
  obtain ⟨job, found, accepted⟩ := bind_eq_ok.1 accepted
  obtain ⟨paused, moved, accepted⟩ := bind_eq_ok.1 accepted
  obtain ⟨allowed, rfl⟩ := transitionJobState_eq_ok.1 moved
  refine ⟨job, requireJob_eq_ok.1 found, ?_, (Except.ok.inj accepted).symm⟩
  cases state : job.state <;> simp [state, validTransitions] at allowed ⊢

/-- A resume reaches paused jobs only. -/
theorem resumeJob_ok (accepted : resumeJob jobs id = .ok after) :
    ∃ job, jobs.get id = some job ∧ job.state = .paused ∧
      after = resequenceQueuedJobs (jobs.save job.requeued) (resumeOrder jobs job) := by
  obtain ⟨job, found, accepted⟩ := bind_eq_ok.1 accepted
  split_ifs at accepted with paused
  exact ⟨job, requireJob_eq_ok.1 found, not_not.1 paused, (Except.ok.inj accepted).symm⟩

/-- What a cancel does to the row. -/
inductive CancelledRow (job : UtilityJob) (now : Timestamp) : UtilityJob → Prop where
  | running (state : job.state = .running) : CancelledRow job now (job.moveTo .cancelling now)
  | resting (state : job.state = .queued ∨ job.state = .paused) :
      CancelledRow job now ((job.moveTo .cancelling now).moveTo .cancelled now)

theorem cancelledRow_ok {job row : UtilityJob} (cancellable : job.state ∈ cancellableStates)
    (cancelled : cancelledRow job now = .ok row) : CancelledRow job now row := by
  unfold cancelledRow at cancelled
  split_ifs at cancelled with running
  · obtain ⟨_, rfl⟩ := transitionJobState_eq_ok.1 cancelled
    exact .running running
  · obtain ⟨between, first, second⟩ := bind_eq_ok.1 cancelled
    obtain ⟨_, rfl⟩ := transitionJobState_eq_ok.1 first
    obtain ⟨_, rfl⟩ := transitionJobState_eq_ok.1 second
    refine .resting ?_
    simpa [cancellableStates, running] using cancellable

/-- A cancel reaches queued, running and paused jobs only. -/
theorem cancelJob_ok {rollback : Option RowId}
    (accepted : cancelJob jobs id rollback now = .ok after) :
    ∃ job row, jobs.get id = some job ∧ CancelledRow job now row ∧
      after = jobs.save row ++ rollback.toList.map fun child =>
        buildRollbackJob row child (nextQueuePosition (jobs.save row)) now := by
  obtain ⟨job, found, accepted⟩ := bind_eq_ok.1 accepted
  split_ifs at accepted with cancellable
  obtain ⟨row, cancelled, accepted⟩ := bind_eq_ok.1 accepted
  refine ⟨job, row, requireJob_eq_ok.1 found,
    cancelledRow_ok cancellable cancelled, ?_⟩
  cases rollback with
  | none => simpa using (Except.ok.inj accepted).symm
  | some child => exact createRollbackJob_ok accepted

/-- A rollback is queued for completed and cancelled jobs only. -/
theorem queueRollbackJob_ok (accepted : queueRollbackJob jobs id child now = .ok after) :
    ∃ job, jobs.get id = some job ∧ job.state ∈ rollbackableStates ∧
      after = jobs ++ [buildRollbackJob job child (nextQueuePosition jobs) now] := by
  obtain ⟨job, found, accepted⟩ := bind_eq_ok.1 accepted
  split_ifs at accepted with rollback resting
  exact ⟨job, requireJob_eq_ok.1 found, resting, createRollbackJob_ok accepted⟩

/-- Only jobs in a terminal state are deleted. -/
theorem deleteJob_ok (accepted : deleteJob jobs id = .ok after) :
    ∃ job, jobs.get id = some job ∧ job.state ∈ terminalStates ∧
      after = jobs.without fun row => row.id = id := by
  obtain ⟨job, found, accepted⟩ := bind_eq_ok.1 accepted
  split_ifs at accepted with terminal
  exact ⟨job, requireJob_eq_ok.1 found, terminal, (Except.ok.inj accepted).symm⟩

/-- A deletion leaves rows as they are, but for references to deleted parents. -/
theorem Jobs.mem_without {removed : UtilityJob → Bool} {row : UtilityJob}
    (member : row ∈ jobs.without removed) :
    ∃ old ∈ jobs, removed old = false ∧
      ∃ parent, row = { old with parentJobId := parent } ∧
        (parent = old.parentJobId ∨ parent = none) := by
  obtain ⟨old, kept, rfl⟩ := List.mem_map.1 member
  obtain ⟨present, stays⟩ := List.mem_filter.1 kept
  refine ⟨old, present, by simpa using stays, ?_⟩
  split_ifs
  · exact ⟨none, rfl, .inr rfl⟩
  · exact ⟨old.parentJobId, rfl, .inl rfl⟩

end Accepted

end Pullbox.Utility
