import Pullbox.Durable.Reachable
import Pullbox.Import.Controls

/-!
# Control requests against the worker

One import job, the worker that runs it and the requests that reach it, in any order. A
checkpoint and the transaction that acts on its verdict are two steps, as they are two
transactions; the worker moves the status from phase to phase without reading the row
again. `cancelPending` remembers an accepted cancel until it is carried out, the job is over,
or a request other than pause and resume starts the job over.
-/

namespace Pullbox.Import

open Durable

/-- Where the worker is. -/
inductive Worker where
  | idle
  /-- It runs the phase of the status it last wrote or read. -/
  | running (seen : ImportJobStatus)
  /-- A checkpoint raised the pause, which is not recorded yet. -/
  | pausing
  /-- A checkpoint raised the cancel, which is not recorded yet. -/
  | cancelling
  | rollingBack
deriving DecidableEq

/-- The job, its worker, and whether a cancel was accepted. -/
structure ControlSystem where
  job : Option ImportJob
  worker : Worker
  cancelPending : Bool

/-- How the placements a finished import waits for end. -/
inductive PlacementEnd where
  | completed | stalled | retried

/-- The requests of users, and the steps of the runner. -/
inductive ControlEvent where
  | pause | resume | cancel | delete | rollback
  /-- The runner takes up the job. -/
  | start
  | checkpoint
  /-- The worker enters the next phase. -/
  | advance (next : ImportJobStatus)
  /-- The worker reports its phase in the snapshot. -/
  | report (mode : ImportProgressMode) (phase : ImportPhase)
  | beginImport
  | recovery (state : RecoveryState)
  /-- The import reaches its final fence. -/
  | finishImport (placements : Bool)
  | finishRecovery
  | reopenReview (message : String)
  | placements (outcome : PlacementEnd)
  | markPaused | finalizeCancel
  | finishRollback (incomplete : Option String)
  | fail | stall | restart | dispatch
  /-- Another service starts a job over that is at an end. -/
  | reopen (job : ImportJob)

/-- The phases a worker enters from the one it is in. -/
def nextStatuses : ImportJobStatus → List ImportJobStatus
  | .pending => [.scanning]
  | .scanning => [.analyzing]
  | .analyzing => [.matching]
  | .matching => [.fileMatching]
  | .fileMatching => [.review]
  | _ => []

/-- `_run_job` dispatches on these statuses. -/
def scanStates : List ImportJobStatus :=
  [.pending, .scanning, .analyzing, .matching, .fileMatching]

/-- The worker `_run_job` starts on a job. -/
def ImportJob.startedWorker (job : ImportJob) : Worker :=
  if job.status ∈ scanStates ∨ job.status = .importing then
    .running job.status
  else if job.status = .rollingBack then
    .rollingBack
  else
    .idle

/-- A job whose cancel is done with: cancelled, rolled back, or finished before. -/
def ImportJob.Over (job : ImportJob) : Prop :=
  job.status ∈ [ImportJobStatus.completed, .cancelled, .rolledBack]

instance (job : ImportJob) : Decidable job.Over :=
  inferInstanceAs (Decidable (_ ∈ _))

/-- A pending cancel ends with the job. -/
def pendingFor (pending : Bool) (job : Option ImportJob) : Bool :=
  pending && job.any fun job => !decide job.Over

/-- The next system state, a pending cancel going on. -/
def ControlSystem.become (system : ControlSystem) (job : Option ImportJob) (worker : Worker) :
    ControlSystem where
  job := job
  worker := worker
  cancelPending := pendingFor system.cancelPending job

/-- What a request that was accepted or refused leaves. -/
def ControlSystem.request (system : ControlSystem)
    (answer : Except ControlError (Option ImportJob)) (pending : Bool) : ControlSystem :=
  match answer with
  | .ok job => ⟨job, system.worker, pendingFor pending job⟩
  | .error _ => system

/-- The job once its placements ended, where nothing controls it. -/
def ImportJob.endPlacements (job : ImportJob) : PlacementEnd → ImportJob
  | .completed => { job with
      status := .completed
      progressSnapshot := { job.progressSnapshot with phase := some .done } }
  | .stalled => { job with status := .stalled }
  | .retried => { job with
      status := .importing
      errorMessage := none
      progressSnapshot := { job.progressSnapshot with
        mode := some .import
        phase := some .storyArcPlacements
        message := "Creating the approved story-arc copies and links..." } }

/-- The job an import leaves behind its final fence. -/
def ImportJob.importFinished (job : ImportJob) (placements : Bool) : ImportJob :=
  if placements then
    { job with
      progressSnapshot := { job.progressSnapshot with
        mode := some .import
        phase := some .storyArcPlacements
        message := "Creating the approved story-arc copies and links after the import " ++
          "transaction commits..." } }
  else
    { job with status := .completed }

/-- What a worker does after a verdict. -/
def ControlSystem.obey (system : ControlSystem) : Verdict → ControlSystem
  | .paused => system.become system.job .pausing
  | .cancelled => system.become system.job .cancelling
  | .proceed | .refused => system

/-- The effect of one event on a job that exists; `none` where it cannot happen. -/
def ControlSystem.onJob (system : ControlSystem) (job : ImportJob) :
    ControlEvent → Option ControlSystem
  | .pause => some (system.request (job.pause.map some) system.cancelPending)
  | .resume => some (system.request (job.resume.map some) system.cancelPending)
  | .cancel => some (system.request job.requestCancel true)
  | .delete => some (system.request job.delete system.cancelPending)
  | .rollback => some (system.request (job.requestRollback.map some) false)
  | .start =>
    if system.worker = .idle then
      let resumed := if job.status = .stalled then job.resumeStalled else job
      some (system.become (some resumed) resumed.startedWorker)
    else
      none
  | .checkpoint =>
    match system.worker with
    | .running _ => some (system.obey (raiseIfJobCancelled (some job)))
    | _ => none
  | .advance next =>
    match system.worker with
    | .running seen =>
      if next ∈ nextStatuses seen then
        some (system.become (some { job with status := next })
          (if next = .review then .idle else .running next))
      else
        none
    | _ => none
  | .report mode phase =>
    match system.worker with
    | .running _ => some (system.become (some { job with
        progressSnapshot := { job.progressSnapshot with
          mode := some mode, phase := some phase } }) system.worker)
    | _ => none
  | .beginImport =>
    if system.worker = .running .importing then
      some (system.become (some { job with importStarted := true }) system.worker)
    else
      none
  | .recovery state =>
    if system.worker = .running .importing then
      some (system.become (some { job with
        progressSnapshot := { job.progressSnapshot with
          deferredRecovery := some state } }) system.worker)
    else
      none
  | .finishImport placements =>
    if system.worker = .running .importing then
      match sealFence (some job) with
      | .proceed => some (system.become (some (job.importFinished placements)) .idle)
      | verdict => some (system.obey verdict)
    else
      none
  | .finishRecovery =>
    if system.worker = .running .importing then
      some (system.become (some { job with
        status := .completed
        progressSnapshot := { job.progressSnapshot with
          phase := some .done
          message :=
            "Deferred file recovery completed. Remaining decisions are in Follow-up."
          deferredRecovery := some .completed } }) .idle)
    else
      none
  | .reopenReview message =>
    if system.worker = .running .importing then
      some (system.become (some { job with
        status := .review
        controlRequest := .none
        importStarted := false
        errorMessage := some message
        progressSnapshot := { job.progressSnapshot with
          mode := some .scan, phase := some .review, message := message } }) .idle)
    else
      none
  | .placements outcome =>
    if job.controlRequest = .none ∧ job.importStarted = true ∧
        (job.status = .importing ∨ job.status = .stalled) ∧
        job.progressSnapshot.phase = some .storyArcPlacements then
      some (system.become (some (job.endPlacements outcome)) system.worker)
    else
      none
  | .markPaused =>
    if system.worker = .pausing then
      some (system.become (some job.markPaused) .idle)
    else
      none
  | .finalizeCancel =>
    if system.worker = .cancelling then
      some (system.become job.finalizeCancel
        (if (job.finalizeCancel.any fun job => decide (job.status = .rollingBack)) then
          .rollingBack
        else
          .idle))
    else
      none
  | .finishRollback incomplete =>
    if system.worker = .rollingBack then
      some ⟨some (incomplete.elim job.rollbackFinished job.rollbackIncomplete), .idle, false⟩
    else
      none
  | .fail =>
    if system.worker = .idle then none
    else some (system.become (some job.markFailed) .idle)
  | .stall =>
    if system.worker = .idle then none
    else some (system.become (some job.markStalled) .idle)
  | .restart => some (system.become (some job.recoverStuck) .idle)
  | .dispatch =>
    if system.worker = .idle then
      job.dispatchRecovered.map fun resumed =>
        system.become (some resumed) resumed.startedWorker
    else
      none
  | .reopen other =>
    if job.status ∈ terminalStates then some ⟨some other, system.worker, false⟩ else none

/-- One event. On a deleted job only the worker moves: its checkpoints raise the cancel. -/
def ControlSystem.apply (system : ControlSystem) (event : ControlEvent) :
    Option ControlSystem :=
  match system.job with
  | some job => system.onJob job event
  | none =>
    match event, system.worker with
    | .checkpoint, .running _ => some { system with worker := .cancelling }
    | .markPaused, .pausing => some { system with worker := .idle }
    | .finalizeCancel, .cancelling => some { system with worker := .idle }
    | .restart, _ => some { system with worker := .idle }
    | _, _ => none

/-- The step relation of the system. -/
def ControlStep (event : ControlEvent) (system after : ControlSystem) : Prop :=
  system.apply event = some after

end Pullbox.Import
