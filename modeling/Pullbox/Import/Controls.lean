import Mathlib.Data.List.Basic

/-!
# Import jobs and their control requests

The fields of an import job that pause, resume and cancel requests, the worker's checkpoints and the
recovery paths read and write. Each request handler is a function of the job row; `none` in place of
a row is a deleted job. Each commits as one step. Progress numbers, details and log events are left
out.
-/

namespace Pullbox.Import

inductive ImportJobStatus where
  | pending | scanning | pausing | paused | analyzing | matching | fileMatching | review
  | importing | stalled | cancelling | rollingBack | rolledBack | completed | failed | cancelled
deriving DecidableEq

/-- The values stored in the database, as they appear in messages. -/
def ImportJobStatus.value : ImportJobStatus → String
  | .pending => "pending"
  | .scanning => "scanning"
  | .pausing => "pausing"
  | .paused => "paused"
  | .analyzing => "analyzing"
  | .matching => "matching"
  | .fileMatching => "file_matching"
  | .review => "review"
  | .importing => "importing"
  | .stalled => "stalled"
  | .cancelling => "cancelling"
  | .rollingBack => "rolling_back"
  | .rolledBack => "rolled_back"
  | .completed => "completed"
  | .failed => "failed"
  | .cancelled => "cancelled"

/-- What a user asked of a running job. -/
inductive ImportControlRequest where
  | none | pause | cancel
deriving DecidableEq

inductive ImportProgressMode where
  | scan | import | rollback
deriving DecidableEq

/-- The phases a progress snapshot names; `empty` is the empty string. -/
inductive ImportPhase where
  | empty | inventory | scanning | analyzing | matching | fileMatching | review | queued
  | cleanLibraryPreparing | importing | storyArcs | storyArcPlacements | rollback
  | rollbackIncomplete | done
deriving DecidableEq

/-- The state of a deferred recovery. -/
inductive RecoveryState where
  | queued | catalogs | prepared | completed | cancelled
deriving DecidableEq

/-- The keys of `progress_snapshot` that decide something. A key that is missing is `none`;
the recovery survives every rebuilt snapshot, the startup marks do not. -/
structure ProgressSnapshot where
  mode : Option ImportProgressMode := none
  phase : Option ImportPhase := none
  message : String := ""
  deferredRecovery : Option RecoveryState := none
  /-- `pause_reason` is the startup recovery's. -/
  startupPause : Bool := false
  recoveredStatus : Option ImportJobStatus := none
  dispatchPending : Bool := false

/-- What the controls read and write of a job's row. -/
structure ImportJob where
  status : ImportJobStatus
  controlRequest : ImportControlRequest
  /-- `import_started_at` is set. -/
  importStarted : Bool
  errorMessage : Option String
  progressSnapshot : ProgressSnapshot

/-- The statuses a pause accepts. -/
def pausableStatuses : List ImportJobStatus :=
  [.scanning, .analyzing, .matching, .fileMatching, .importing]

/-- `_TERMINAL_STATES` of the runner. -/
def terminalStates : List ImportJobStatus :=
  [.review, .completed, .failed, .cancelled, .rolledBack]

/-- `_RECOVERABLE_STATES` of the runner. -/
def recoverableStates : List ImportJobStatus :=
  [.scanning, .pausing, .analyzing, .matching, .fileMatching, .importing, .cancelling,
    .rollingBack]

/-- A recovery that has not run to its end. -/
def ImportJob.recovering (job : ImportJob) : Bool :=
  job.progressSnapshot.deferredRecovery.any fun state =>
    decide (state ∈ [RecoveryState.queued, .catalogs, .prepared])

/-- `_is_story_arc_placement_wait`. -/
def ImportJob.placementWait (job : ImportJob) : Bool :=
  decide (job.status = .importing) && job.importStarted &&
    decide (job.progressSnapshot.phase = some .storyArcPlacements)

/-- `snapshot_mode_for_job`. -/
def ImportJob.snapshotMode (job : ImportJob) : ImportProgressMode :=
  if job.status = .rollingBack then
    .rollback
  else if job.status ∈ [ImportJobStatus.importing, .completed, .cancelled, .failed] ∧
      job.importStarted = true then
    .import
  else
    job.progressSnapshot.mode.getD .scan

/-- `runtime_snapshot_payload` stored on the job: a rebuilt snapshot. -/
def ImportJob.syncSnapshot (job : ImportJob) (mode : ImportProgressMode) (phase : ImportPhase)
    (message : String) : ImportJob :=
  { job with
    progressSnapshot :=
      { mode := some mode
        phase := some phase
        message := message
        deferredRecovery := job.progressSnapshot.deferredRecovery } }

/-- `str(snapshot.get("phase") or default)`. -/
def ProgressSnapshot.phaseOr (snapshot : ProgressSnapshot) (default : ImportPhase) :
    ImportPhase :=
  match snapshot.phase with
  | none => default
  | some .empty => default
  | some phase => phase

/-- `paused_message_for_mode`. -/
def pausedMessageForMode : ImportProgressMode → String
  | .import => "Import is paused."
  | .rollback => "Rollback is paused."
  | .scan => "Scan is paused."

/-- The phase a mode starts with. -/
def defaultPhase : ImportProgressMode → ImportPhase
  | .import => .importing
  | .rollback => .rollback
  | .scan => .inventory

/-- `sync_paused_job_state`. -/
def ImportJob.syncPaused (job : ImportJob) : ImportJob :=
  let mode := job.snapshotMode
  let message := (job.errorMessage.filter (· ≠ "")).getD (pausedMessageForMode mode)
  { job with status := .paused, controlRequest := .none }.syncSnapshot mode
    (job.progressSnapshot.phaseOr (defaultPhase mode)) message

/-- `stalled_message`. -/
def stalledMessage : String :=
  "Import stalled because the database was busy. Resume when ready."

/-- `sync_stalled_job_state`. -/
def ImportJob.syncStalled (job : ImportJob) : ImportJob :=
  let mode := job.snapshotMode
  { job with
    status := .stalled
    controlRequest := .none
    errorMessage := some stalledMessage }.syncSnapshot mode
      (job.progressSnapshot.phaseOr (defaultPhase mode)) stalledMessage

/-- What a request handler refuses. -/
inductive ControlError where
  | cannotPause (status : ImportJobStatus)
  | placementsFinishing
  | cannotResume (status : ImportJobStatus)
  | placementsFailed
  | cannotCancel (status : ImportJobStatus)
  | cannotRollBack (status : ImportJobStatus)
  | rollbackUnavailable
  | cannotDelete (status : ImportJobStatus)

/-- The text of the `ValidationError`. -/
def ControlError.message : ControlError → String
  | .cannotPause status => s!"Cannot pause job in {status.value} state"
  | .placementsFinishing => "Import cannot be paused while story arc placements are finishing"
  | .cannotResume status => s!"Cannot resume job in {status.value} state"
  | .placementsFailed =>
    "Retry the failed Story Arc placement work or cancel the import; " ++
      "the completed canonical import must not be replayed."
  | .cannotCancel status => s!"Cannot cancel job in {status.value} state"
  | .cannotRollBack status => s!"Cannot roll back job in {status.value} state"
  | .rollbackUnavailable => "Rollback is only available after import execution has started"
  | .cannotDelete status =>
    s!"Job in {status.value} state must use pause/cancel/rollback controls"

/-- `pause_job`. -/
def ImportJob.pause (job : ImportJob) : Except ControlError ImportJob :=
  if job.status ∉ pausableStatuses then
    .error (.cannotPause job.status)
  else if job.placementWait then
    .error .placementsFinishing
  else if job.status = .scanning ∧ job.importStarted = false then
    .ok ({ job with controlRequest := .pause }.syncSnapshot .scan
      (job.progressSnapshot.phaseOr .scanning)
      "Finishing the current scan checkpoint before pausing.")
  else
    .ok job.syncPaused

/-- The mode a stopped job goes on in: the snapshot's, corrected by the phase. -/
def ImportJob.resumedMode (job : ImportJob) (phase : ImportPhase) : ImportProgressMode :=
  if job.snapshotMode = .scan ∧ job.importStarted = true then
    match phase with
    | .importing => .import
    | .rollback => .rollback
    | _ => .scan
  else
    job.snapshotMode

/-- The status a mode and a phase are resumed in. -/
def resumedStatus : ImportProgressMode → ImportPhase → ImportJobStatus
  | .import, _ => .importing
  | .rollback, _ => .rollingBack
  | .scan, .matching => .matching
  | .scan, .analyzing => .analyzing
  | .scan, .fileMatching => .fileMatching
  | .scan, _ => .scanning

/-- `resume_job`. -/
def ImportJob.resume (job : ImportJob) : Except ControlError ImportJob :=
  let phase := job.progressSnapshot.phaseOr .empty
  let mode := job.resumedMode phase
  if job.status ≠ .paused ∧ job.status ≠ .stalled then
    .error (.cannotResume job.status)
  else if job.status = .stalled ∧ job.importStarted = true ∧ phase = .storyArcPlacements then
    .error .placementsFailed
  else
    .ok ({ job with
      status := resumedStatus mode phase
      controlRequest := .none
      errorMessage := none }.syncSnapshot mode (job.progressSnapshot.phaseOr .scanning)
        "Import resume requested.")

/-- A stopped job no import has touched: cancelling it discards it. -/
def ImportJob.discardable (job : ImportJob) : Bool :=
  decide (job.status = .paused ∨ job.status = .stalled) && !job.importStarted && !job.recovering

/-- The status and request an accepted cancel records. -/
def ImportJob.applyCancel (job : ImportJob) : Except ControlError ImportJob :=
  if job.recovering then
    .ok { job with status := .cancelling, controlRequest := .cancel }
  else if job.placementWait = true ∨
      ((job.status = .paused ∨ job.status = .stalled) ∧ job.importStarted = true) then
    .ok { job with status := .rollingBack, controlRequest := .cancel }
  else if job.status ∈ pausableStatuses then
    .ok { job with
      status := if job.importStarted then .cancelling else job.status
      controlRequest := .cancel }
  else
    .error (.cannotCancel job.status)

/-- The snapshot and message of a queued cancellation rollback. -/
def ImportJob.queueRollback (job : ImportJob) : ImportJob :=
  job.syncSnapshot .rollback .queued "Cancelling import and rolling back changes..."

/-- `request_cancel`; `none` is a deleted job. -/
def ImportJob.requestCancel (job : ImportJob) : Except ControlError (Option ImportJob) :=
  if job.discardable then
    .ok none
  else
    match job.applyCancel with
    | .error error => .error error
    | .ok target =>
      let cancelled := { target with errorMessage := some "Import cancelled by user." }
      if cancelled.status = .rollingBack then
        .ok (some cancelled.queueRollback)
      else
        .ok (some (cancelled.syncSnapshot (if job.importStarted then .import else .scan)
          (job.progressSnapshot.phaseOr .inventory)
          "Finishing the current safe step before cancelling."))

/-- `cancel_job`, the deletion of a stopped or finished job. -/
def ImportJob.delete (job : ImportJob) : Except ControlError (Option ImportJob) :=
  if job.discardable = true ∨ job.status = .pending ∨ job.status ∈ terminalStates then
    .ok none
  else
    .error (.cannotDelete job.status)

/-- `request_rollback`. -/
def ImportJob.requestRollback (job : ImportJob) : Except ControlError ImportJob :=
  if job.importStarted = false then
    .error .rollbackUnavailable
  else if job.status ≠ .completed ∧ job.status ≠ .failed then
    .error (.cannotRollBack job.status)
  else
    .ok ({ job with status := .rollingBack, controlRequest := .none }.syncSnapshot .rollback
      .queued "Rolling back import actions...")

/-- What a worker's checkpoint tells it to do; only the final fence refuses. -/
inductive Verdict where
  | proceed | paused | cancelled | refused

/-- `raise_if_job_cancelled`. -/
def raiseIfJobCancelled : Option ImportJob → Verdict
  | none => .cancelled
  | some job =>
    if job.controlRequest = .cancel then .cancelled
    else if job.controlRequest = .pause then .paused
    else if job.status = .cancelling ∨ job.status = .cancelled then .cancelled
    else if job.status = .pausing ∨ job.status = .paused then .paused
    else .proceed

/-- The fence of `seal_import_story_arc_placement_origin` before an import finishes. -/
def sealFence : Option ImportJob → Verdict
  | none => .cancelled
  | some job =>
    if job.status = .importing ∧ job.controlRequest = .none ∧
        job.progressSnapshot.phase = some .storyArcs then
      .proceed
    else if job.controlRequest = .cancel ∨
        job.status ∈ [ImportJobStatus.cancelling, .cancelled, .rollingBack, .rolledBack] then
      .cancelled
    else if job.controlRequest = .pause ∨ job.status = .pausing ∨ job.status = .paused then
      .paused
    else
      .refused

/-- `_mark_paused`. -/
def ImportJob.markPaused (job : ImportJob) : ImportJob :=
  if job.status = .cancelled then job else job.syncPaused

/-- `_mark_stalled`. -/
def ImportJob.markStalled (job : ImportJob) : ImportJob :=
  if job.status ∈ terminalStates then job else job.syncStalled

/-- `_mark_failed`. -/
def ImportJob.markFailed (job : ImportJob) : ImportJob :=
  if job.status ∈ terminalStates then
    job
  else
    { job with
      status := .failed
      errorMessage := some ((job.errorMessage.filter (· ≠ "")).getD
        "Import worker failed. Check logs for details.") }

/-- `cancel_deferred_preparation` where it applies. -/
def ImportJob.cancelRecovery (job : ImportJob) : ImportJob :=
  { job with
    status := .completed
    controlRequest := .none
    errorMessage := none
    progressSnapshot := { job.progressSnapshot with
      phase := some .done
      message := "Recovery stopped. Completed imports and source files were preserved."
      deferredRecovery := some .cancelled } }

/-- `_finalize_cancel`; `none` is a deleted job. -/
def ImportJob.finalizeCancel (job : ImportJob) : Option ImportJob :=
  if job.recovering then
    some job.cancelRecovery
  else if job.importStarted = false then
    none
  else
    some { job with
      status := .rollingBack
      controlRequest := .cancel
      errorMessage := some ((job.errorMessage.filter (· ≠ "")).getD
        "Import cancelled by user.") }.queueRollback

/-- The end of a rollback whose every action was rolled back. -/
def ImportJob.rollbackFinished (job : ImportJob) : ImportJob :=
  let cancelled := job.controlRequest = .cancel
  { job with
    status := if cancelled then .cancelled else .rolledBack
    controlRequest := .none
    errorMessage := if cancelled then some "Import cancelled by user." else none
    progressSnapshot := {} }

/-- The end of a rollback with actions left for manual recovery. -/
def ImportJob.rollbackIncomplete (job : ImportJob) (message : String) : ImportJob :=
  { job with
    status := .failed
    controlRequest := .none
    errorMessage := some message }.syncSnapshot .rollback .rollbackIncomplete message

/-- `_RECOVERED_SCAN_PHASE_BY_STATUS`. -/
def recoveredScanPhase : ImportJobStatus → Option ImportPhase
  | .scanning => some .scanning
  | .analyzing => some .analyzing
  | .matching => some .matching
  | .fileMatching => some .fileMatching
  | _ => none

/-- The snapshot of a job the startup recovery pauses. -/
def ImportJob.recoveredSnapshot (job : ImportJob) : ProgressSnapshot :=
  let snapshot := job.progressSnapshot
  if job.status = .rollingBack then
    { snapshot with phase := some .rollback }
  else if job.status = .importing then
    { snapshot with phase := snapshot.phase.orElse fun _ => some .importing, mode := some .import }
  else
    { snapshot with
      phase := snapshot.phase.orElse fun _ => recoveredScanPhase job.status
      mode := some .scan }

/-- `recover_stuck_import_jobs` of one job. -/
def ImportJob.recoverStuck (job : ImportJob) : ImportJob :=
  if job.status ∉ recoverableStates then
    job
  else if job.controlRequest = .cancel ∨ job.status = .cancelling then
    let queued := { job with
      status := .rollingBack
      controlRequest := .cancel
      errorMessage := some ((job.errorMessage.filter (· ≠ "")).getD
        "Import cancelled by user.") }.queueRollback
    { queued with
      progressSnapshot := { queued.progressSnapshot with
        dispatchPending := true, recoveredStatus := some job.status } }
  else if job.controlRequest = .pause ∨ job.status = .pausing then
    job.syncPaused
  else
    let paused := { job with progressSnapshot := job.recoveredSnapshot }.syncPaused
    { paused with
      progressSnapshot := { paused.progressSnapshot with
        startupPause := true
        recoveredStatus := some job.status
        message := "Import was interrupted by restart and will resume automatically." } }

/-- `_resume_startup_recovered_job`. -/
def ImportJob.resumeRecovered (job : ImportJob) : ImportJob :=
  let snapshot := job.progressSnapshot
  let phase :=
    match snapshot.phaseOr .empty with
    | .empty => (snapshot.recoveredStatus.bind recoveredScanPhase).getD .empty
    | .inventory => (snapshot.recoveredStatus.bind recoveredScanPhase).getD .inventory
    | phase => phase
  let mode := job.resumedMode phase
  { job with
    status := resumedStatus mode phase
    controlRequest := .none
    errorMessage := none
    progressSnapshot := { snapshot with
      mode := some mode
      phase := some (if phase = .empty then .scanning else phase)
      message := "Import recovered after restart; resuming automatically."
      startupPause := false
      recoveredStatus := none } }

/-- `_resume_stalled_job`. -/
def ImportJob.resumeStalled (job : ImportJob) : ImportJob :=
  let snapshot := job.progressSnapshot
  let phase := snapshot.phaseOr .empty
  let mode := job.resumedMode phase
  { job with
    status := resumedStatus mode phase
    controlRequest := .none
    errorMessage := none
    progressSnapshot := { snapshot with
      mode := some mode
      phase := some (if phase = .empty then .scanning else phase)
      message := "Import resumed after database contention." } }

/-- One turn of `_resume_next_recovered_job` for a job; `none` where it does not start. -/
def ImportJob.dispatchRecovered (job : ImportJob) : Option ImportJob :=
  if job.status = .paused ∧ job.progressSnapshot.startupPause = true then
    some job.resumeRecovered
  else if job.status = .rollingBack ∧ job.progressSnapshot.dispatchPending = true then
    some { job with
      progressSnapshot := { job.progressSnapshot with
        dispatchPending := false, recoveredStatus := none } }
  else
    none

end Pullbox.Import
