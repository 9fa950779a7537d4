import Mathlib.Data.List.Basic

/-!
# Utility jobs

The rows of the utility queue, the table of their transitions and the operation that
checks it. A job carries the rows of its own items, in the order of their index.
-/

namespace Pullbox.Utility

/-- Identifiers are 128 random bits in hexadecimal; their text is ordered like the numbers. -/
abbrev RowId := Nat

/-- ISO timestamps; their text is ordered like the instants. -/
abbrev Timestamp := Nat

inductive JobType where
  | fileConvert | massConvertPipeline | massRename | dbCheckCleanup | exportLibrary
  | integrityCheck | libraryPermissions | rollback
deriving DecidableEq

/-- The states of a job. -/
inductive JobState where
  | queued | running | pausing | paused | cancelling | cancelled | completed | failed
  | rollingBack | rolledBack
deriving DecidableEq

inductive ItemState where
  | pending | inProgress | completed | failed | skipped | rolledBack | rollbackFailed
deriving DecidableEq

inductive ItemResult where
  | completed | failed | skipped
deriving DecidableEq

/-- The values stored in the database, as they appear in messages. -/
def JobState.value : JobState → String
  | .queued => "QUEUED"
  | .running => "RUNNING"
  | .pausing => "PAUSING"
  | .paused => "PAUSED"
  | .cancelling => "CANCELLING"
  | .cancelled => "CANCELLED"
  | .completed => "COMPLETED"
  | .failed => "FAILED"
  | .rollingBack => "ROLLING_BACK"
  | .rolledBack => "ROLLED_BACK"

/-- The values stored in the database, as they appear in messages. -/
def JobType.value : JobType → String
  | .fileConvert => "file_convert"
  | .massConvertPipeline => "mass_convert_pipeline"
  | .massRename => "mass_rename"
  | .dbCheckCleanup => "db_check_cleanup"
  | .exportLibrary => "export_library"
  | .integrityCheck => "integrity_check"
  | .libraryPermissions => "library_permissions"
  | .rollback => "rollback"

/-- `VALID_TRANSITIONS`. -/
def validTransitions : JobState → List JobState
  | .queued => [.running, .cancelling, .failed]
  | .running => [.completed, .pausing, .cancelling, .failed]
  | .pausing => [.paused, .failed]
  | .paused => [.running, .cancelling]
  | .cancelling => [.cancelled, .failed]
  | .cancelled => [.rollingBack]
  | .completed => [.rollingBack]
  | .failed => []
  | .rollingBack => [.rolledBack, .failed]
  | .rolledBack => []

/-- `TERMINAL_STATES`. -/
def terminalStates : List JobState :=
  [.completed, .failed, .cancelled, .rolledBack]

/-- `CANCELLABLE_STATES`. -/
def cancellableStates : List JobState :=
  [.queued, .running, .paused]

/-- `ROLLBACKABLE_STATES`. -/
def rollbackableStates : List JobState :=
  [.completed, .cancelled]

/-- An item of a job. -/
structure UtilityJobItem where
  id : RowId
  state : ItemState
  startedAt : Option Timestamp
  completedAt : Option Timestamp
  durationMs : Option Nat
  errorMessage : Option String
  warningMessage : Option String
  workerId : Option Nat

/-- A job with its items. -/
structure UtilityJob where
  id : RowId
  jobType : JobType
  displayName : String
  state : JobState
  totalItems : Nat
  completedItems : Nat
  failedItems : Nat
  skippedItems : Nat
  warningCount : Nat
  queuePosition : Option Nat
  createdAt : Timestamp
  startedAt : Option Timestamp
  pausedAt : Option Timestamp
  completedAt : Option Timestamp
  errorMessage : Option String
  parentJobId : Option RowId
  items : List UtilityJobItem

/-- A refused operation, with the message of its `ValueError`. -/
structure ValueError where
  message : String

/-- The states a message lists as allowed. -/
def allowedText : List JobState → String
  | [] => "none (terminal)"
  | allowed => ", ".intercalate (allowed.map JobState.value)

/-- The assignments of a transition: the new state and its timestamps. -/
def UtilityJob.moveTo (job : UtilityJob) (newState : JobState) (now : Timestamp) : UtilityJob :=
  let job := { job with state := newState }
  if newState = .running then
    { job with startedAt := some now }
  else if newState = .paused then
    { job with pausedAt := some now }
  else if newState ∈ terminalStates then
    { job with completedAt := some now, queuePosition := none }
  else
    job

/-- `transition_job_state`. -/
def transitionJobState (job : UtilityJob) (newState : JobState) (now : Timestamp) :
    Except ValueError UtilityJob :=
  if newState ∉ validTransitions job.state then
    .error ⟨s!"Invalid transition: {job.state.value} → {newState.value}. Allowed: " ++
      allowedText (validTransitions job.state)⟩
  else
    .ok (job.moveTo newState now)

theorem transitionJobState_eq_ok {job after : UtilityJob} {newState : JobState}
    {now : Timestamp} :
    transitionJobState job newState now = .ok after ↔
      newState ∈ validTransitions job.state ∧ job.moveTo newState now = after := by
  unfold transitionJobState
  split_ifs with allowed <;> simp [allowed]

namespace UtilityJob

variable (job : UtilityJob) (newState : JobState) (now : Timestamp)

@[simp]
theorem moveTo_state : (job.moveTo newState now).state = newState := by
  unfold moveTo
  split_ifs <;> rfl

@[simp]
theorem moveTo_id : (job.moveTo newState now).id = job.id := by
  unfold moveTo
  split_ifs <;> rfl

@[simp]
theorem moveTo_items : (job.moveTo newState now).items = job.items := by
  unfold moveTo
  split_ifs <;> rfl

@[simp]
theorem moveTo_completedItems :
    (job.moveTo newState now).completedItems = job.completedItems := by
  unfold moveTo
  split_ifs <;> rfl

@[simp]
theorem moveTo_failedItems : (job.moveTo newState now).failedItems = job.failedItems := by
  unfold moveTo
  split_ifs <;> rfl

@[simp]
theorem moveTo_skippedItems : (job.moveTo newState now).skippedItems = job.skippedItems := by
  unfold moveTo
  split_ifs <;> rfl

@[simp]
theorem moveTo_warningCount : (job.moveTo newState now).warningCount = job.warningCount := by
  unfold moveTo
  split_ifs <;> rfl

@[simp]
theorem moveTo_parentJobId : (job.moveTo newState now).parentJobId = job.parentJobId := by
  unfold moveTo
  split_ifs <;> rfl

/-- A terminal state gives up the queue position, no other state does. -/
theorem moveTo_queuePosition :
    (job.moveTo newState now).queuePosition =
      if newState ∈ terminalStates then none else job.queuePosition := by
  unfold moveTo
  by_cases running : newState = .running
  · subst running
    rfl
  by_cases paused : newState = .paused
  · subst paused
    rfl
  simp only [if_neg running, if_neg paused]
  split_ifs <;> rfl

/-- A start sets the start time, no other transition changes it. -/
theorem moveTo_startedAt :
    (job.moveTo newState now).startedAt =
      if newState = .running then some now else job.startedAt := by
  unfold moveTo
  split_ifs <;> rfl

end UtilityJob

end Pullbox.Utility
