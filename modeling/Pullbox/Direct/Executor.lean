import Mathlib.Algebra.Group.Nat.Defs
import Pullbox.Direct.Fallback

/-!
# The direct acquisition coordinator

`execute` runs or recovers one selected artifact: it resumes post-processing or validation from a
recorded final file, or resolves the source, downloads, finalizes, validates and ingests. Every
exception of that body reaches one of the handlers, each of which records an outcome through the
table-checked transitions. What the body awaits (a slot, the source, the host, the transfer, the
checks, the import) is an answer of the environment. A commit, a rename and a removal are single
steps, between which the process may die.
-/

namespace Pullbox.Direct

open Durable

/-- `_raise_if_cancelled` when the pass starts. -/
def raiseIfCancelled (inputs : ExecutionInputs) : Exec PUnit :=
  if inputs.cancelRequested then Program.raise .cancelled else pure ⟨⟩

/-- Raise a quarantine error as the failure handler sees it. -/
def raiseValidation {α : Type} (error : DirectArtifactValidationError) : Exec α :=
  Program.raise (.classified error.classified)

/-- `_recover_final_path`: the recorded final file, which must be there. -/
def recoverFinalPath : Exec (Option ComicSuffix) := do
  let rows ← Exec.rows
  let store ← Program.inspect
  match rows.artifact.quarantinePath with
  | none => pure none
  | some .payloadPart => pure none
  | some (.artifact suffix) =>
    if (store.workspaces.file rows.artifact.id (.artifact suffix)).isSome then
      pure (some suffix)
    else
      raiseValidation missingQuarantineError

/-- The provider and host limiter slots. -/
def acquireSlots (inputs : ExecutionInputs) : Exec PUnit :=
  match inputs.slots with
  | .acquired => pure ⟨⟩
  | .cancelled => Program.raise .cancelled
  | .unexpected => Program.raise .unexpected
  | .interrupted => Program.raise .interrupted

/-- The transitions of `_enter_resolving`: a paused or interrupted download resumes. -/
def resumeStates (inputs : ExecutionInputs) : Exec PUnit := do
  let rows ← Exec.rows
  if rows.attempt.state = .paused then do
    Exec.transitionAcquisition inputs .downloading
    Exec.transitionArtifact inputs .transferring
  else if rows.attempt.state = .downloading then
    if rows.artifact.state ≠ .transferring then raiseValidation missingQuarantineError
    else pure ⟨⟩
  else if rows.attempt.state = .resolving then
    if rows.artifact.state ≠ .resolving then raiseValidation missingQuarantineError
    else pure ⟨⟩
  else do
    Exec.transitionAcquisition inputs .resolving
    Exec.transitionArtifact inputs .resolving

/-- `_enter_resolving`. -/
def enterResolving (inputs : ExecutionInputs) : Exec PUnit := do
  resumeStates inputs
  Exec.modifyAttempt fun attempt => { attempt.clearFailure with nextRetryAt := none }
  Exec.modifyArtifact fun artifact => { artifact.clearFailure with nextRetryAt := none }
  Exec.write (inputs.signal .resolving) .resolving .resolving

/-- Await the source factory. -/
def awaitSource (inputs : ExecutionInputs) : Exec HostResolutionRequest :=
  match inputs.source with
  | .request request => pure request
  | .planning error => Program.raise (.planning error)
  | .cancelled => Program.raise .cancelled
  | .unexpected => Program.raise .unexpected
  | .interrupted => Program.raise .interrupted

/-- `_validate_source_request`. -/
def validateSourceRequest (request : HostResolutionRequest) : Exec PUnit := do
  let rows ← Exec.rows
  if request.artifactIdentity ≠ rows.artifact.artifactIdentity ∨
      request.hostKind ≠ rows.artifact.hostKind then
    Program.raise <| .classified
      { failureClass := .candidateInvalid
        code := "artifact_identity_mismatch"
        message := "The refreshed artifact no longer matches the selected plan."
        retryable := false
        intervention := true }
  else
    pure ⟨⟩

/-- `_load_host_credentials`: refuses a disabled host, commits otherwise. -/
def loadHostCredentials (inputs : ExecutionInputs) : Exec PUnit := do
  let rows ← Exec.rows
  Exec.await (inputs.signal .credentials)
  match inputs.hostConfig with
  | none => Exec.commit .credentials
  | some (_, enabled) =>
    if enabled = false ∧
        ¬ (rows.attempt.internalGenericHttps ∧ rows.artifact.hostKind = .genericHttps) then
      Program.raise <| .classified
        { failureClass := .userAction
          code := "artifact_host_disabled"
          message := "The selected artifact host is disabled."
          retryable := false
          intervention := true }
    else
      Exec.commit .credentials

/-- `publish_resolver_attempt`. -/
def publishResolverAttempt (saved : Signal) : Exec PUnit :=
  Exec.write saved .resolver .resolver

/-- `_resolve_host`: any number of published resolver attempts, then the answer. -/
def resolveHost (inputs : ExecutionInputs) : Exec ResolvedTransfer := do
  Program.each publishResolverAttempt inputs.resolverAttempts
  match inputs.resolution with
  | .resolved resolved => pure resolved
  | .refused error => Program.raise (.classified error)
  | .cancelled => Program.raise .cancelled
  | .unexpected => Program.raise .unexpected
  | .interrupted => Program.raise .interrupted

/-- The transitions of `_enter_downloading`: only a resolving row moves. -/
def downloadingStates (inputs : ExecutionInputs) : Exec PUnit := do
  let rows ← Exec.rows
  if rows.attempt.state = .resolving then do
    Exec.transitionAcquisition inputs .downloading
    if rows.artifact.state = .resolving then Exec.transitionArtifact inputs .transferring
    else pure ⟨⟩
  else if rows.artifact.state = .resolving then Exec.transitionArtifact inputs .transferring
  else pure ⟨⟩

/-- `_enter_downloading`. -/
def enterDownloading (inputs : ExecutionInputs) (resolved : ResolvedTransfer) : Exec PUnit := do
  downloadingStates inputs
  Exec.modifyArtifact fun artifact => artifact.enterDownloading inputs.dates resolved
  Exec.write (inputs.signal .downloading) .downloading .downloading

/-- One thing that happens while bytes move. -/
def transferEvent : TransferEvent → Exec PUnit
  | .partialFile content =>
    Exec.quarantine .partialChanged fun workspaces id => workspaces.put id .payloadPart content
  | .progress bytesTransferred total saved => do
      Exec.modifyArtifact fun artifact =>
        { artifact with bytesTransferred := bytesTransferred, expectedSize := total }
      match saved with
      | none => pure ⟨⟩
      | some signal => Exec.write signal .transferring .downloading
  | .resolverAttempt saved => publishResolverAttempt saved

/-- `remove_quarantine_file(partial)`. -/
def removePartial : Exec PUnit :=
  Exec.quarantine .partialChanged fun workspaces id => workspaces.put id .payloadPart none

/-- The checkpoint `_transfer` recovers before an HTTP transfer. -/
def recoverCheckpoint (inputs : ExecutionInputs) (resolved : ResolvedTransfer) :
    Exec PUnit := do
  let rows ← Exec.rows
  let store ← Program.inspect
  let recovered := recoverHttpCheckpoint inputs.dates
    (store.workspaces.file rows.artifact.id .payloadPart) rows.artifact resolved
  Exec.modifyArtifact fun artifact =>
    { artifact with bytesTransferred := recovered.bytesTransferred }
  if recovered.removePartial then removePartial else pure ⟨⟩

/-- The MEGA bridge always starts over. -/
def resetBridge (inputs : ExecutionInputs) : Exec PUnit := do
  removePartial
  Exec.modifyArtifact fun artifact => artifact.clearTransfer
  Exec.await (inputs.signal .bridgeReset)
  Exec.commit .bridgeReset

/-- The state a transfer starts from. -/
def prepareTransfer (inputs : ExecutionInputs) (resolved : ResolvedTransfer) : Exec PUnit :=
  match resolved.transportProtocol with
  | .megaBridge => resetBridge inputs
  | .https => recoverCheckpoint inputs resolved

/-- `_transfer`. -/
def transfer (inputs : ExecutionInputs) (resolved : ResolvedTransfer) :
    Exec ArtifactTransferResult := do
  prepareTransfer inputs resolved
  Program.each transferEvent inputs.transferEvents
  match inputs.transfer with
  | .transferred result => do
      Exec.write (inputs.signal .transferred) .transferred .downloading
      pure result
  | .paused checkpoint => Program.raise (.paused checkpoint)
  | .refused error => Program.raise (.classified error)
  | .planning error => Program.raise (.planning error)
  | .cancelled => Program.raise .cancelled
  | .unexpected => Program.raise .unexpected
  | .interrupted => Program.raise .interrupted

/-- Resolve the source and bring its bytes into the partial file. -/
def download (inputs : ExecutionInputs) : Exec ArtifactTransferResult := do
  Exec.write (inputs.signal .providerQueue) .providerQueue .providerQueue
  acquireSlots inputs
  enterResolving inputs
  let request ← awaitSource inputs
  validateSourceRequest request
  loadHostCredentials inputs
  let resolved ← resolveHost inputs
  enterDownloading inputs resolved
  let result ← transfer inputs resolved
  Exec.await (inputs.signal .hostSucceeded)
  pure result

/-- `DirectArtifactQuarantine.finalize`: rename, then restrict the file mode. -/
def finalize (inputs : ExecutionInputs) (filenameHint : Option String) : Exec ComicSuffix := do
  let rows ← Exec.rows
  let store ← Program.inspect
  match finalizeTarget (store.workspaces rows.artifact.id) filenameHint inputs.finalizeIo with
  | .error error => raiseValidation error
  | .ok suffix => do
      Exec.quarantine .finalized fun workspaces id => workspaces.rename id suffix
      if inputs.finalizeIo.chmodable then pure suffix
      else raiseValidation unwritableQuarantineError

/-- The validator. -/
def validateArtifact (inputs : ExecutionInputs) : Exec PUnit :=
  match inputs.validation with
  | .checked checks =>
    match validateDirectArtifact checks with
    | .ok _ => pure ⟨⟩
    | .error error => raiseValidation error
  | .unexpected => Program.raise .unexpected
  | .interrupted => Program.raise .interrupted

/-- Record a post-processing failure on both rows. -/
def recordPostProcessFailure (code message : String) : Exec PUnit := do
  Exec.modifyAttempt fun attempt =>
    { attempt with
      failureClass := some .postProcess, failureCode := some code, errorMessage := some message }
  Exec.modifyArtifact fun artifact =>
    { artifact with
      failureClass := some .postProcess, failureCode := some code, errorMessage := some message }

/-- `_result` of the rows the session holds. -/
def sessionResult : Exec DirectExecutionResult := do
  let rows ← Exec.rows
  pure (executionResult rows.attempt rows.artifact)

/-- Move both rows to intervention and open the review. -/
def intervene (inputs : ExecutionInputs) : Exec DirectExecutionResult := do
  Exec.transitionArtifact inputs .intervention
  Exec.transitionAcquisition inputs .intervention
  Exec.await (inputs.signal .intervention)
  Exec.write (inputs.signal .failure) .failure .intervention
  sessionResult

/-- `_post_process` once the download history record exists. -/
def postProcess (inputs : ExecutionInputs) : Exec DirectExecutionResult :=
  match inputs.postProcess with
  | .interrupted => Program.raise .interrupted
  | .packError code message => do
      Exec.rollback
      recordPostProcessFailure code message
      Exec.transitionArtifact inputs .failed
      Exec.transitionAcquisition inputs .failed
      Exec.cleanup inputs
      Exec.write (inputs.signal .failure) .failure .failed
      sessionResult
  | .raised => do
      Exec.rollback
      recordPostProcessFailure "direct_post_processing_failed"
        "Direct artifact post-processing failed."
      intervene inputs
  | .processed libraryFileId => do
      Exec.modifyAttempt fun attempt =>
        { attempt.clearFailure with libraryFileId := libraryFileId }
      Exec.modifyArtifact fun artifact =>
        { artifact.clearFailure with quarantinePath := none }
      Exec.transitionArtifact inputs .completed
      Exec.transitionAcquisition inputs .completed
      Exec.cleanup inputs
      Exec.write (inputs.signal .completed) .completed .completed
      sessionResult

/-- `_validate_and_post_process`. -/
def validateAndPostProcess (inputs : ExecutionInputs) : Exec DirectExecutionResult := do
  validateArtifact inputs
  Exec.transitionAcquisition inputs .postProcessing
  Exec.write (inputs.signal .postProcessing) .postProcessing .postProcessing
  postProcess inputs

/-- Finalize the downloaded payload and record it before validating it. -/
def finalizeDownload (inputs : ExecutionInputs) (result : ArtifactTransferResult) :
    Exec DirectExecutionResult := do
  let suffix ← finalize inputs result.filenameHint
  Exec.modifyArtifact fun artifact => artifact.finalized inputs.dates suffix result
  Exec.transitionAcquisition inputs .validating
  Exec.transitionArtifact inputs .validating
  Exec.write (inputs.signal .validating) .validating .validating
  validateAndPostProcess inputs

/-- Where a pass resumes, from the row and its recorded final file. -/
inductive Resumption where
  | reviewedPostProcess | postProcess | validate | missing | download

/-- The dispatch at the start of `execute`. -/
def Rows.resumption (rows : Rows) (finalPath : Option ComicSuffix) : Resumption :=
  if rows.attempt.state = .intervention ∧ rows.attempt.failureClass = some .postProcess ∧
      finalPath ≠ none then
    .reviewedPostProcess
  else if rows.attempt.state = .postProcessing then
    if finalPath = none then .missing else .postProcess
  else if rows.attempt.state = .validating then
    if finalPath = none then .missing else .validate
  else
    .download

/-- The body of `execute`. -/
def executeBody (inputs : ExecutionInputs) : Exec DirectExecutionResult := do
  raiseIfCancelled inputs
  let finalPath ← recoverFinalPath
  let rows ← Exec.rows
  match rows.resumption finalPath with
  | .reviewedPostProcess => do
      Exec.transitionAcquisition inputs .postProcessing
      Exec.transitionArtifact inputs .validating
      Exec.write (inputs.signal .postProcessing) .postProcessing .postProcessing
      postProcess inputs
  | .missing => raiseValidation missingQuarantineError
  | .postProcess => do
      Exec.write (inputs.signal .postProcessing) .postProcessing .postProcessing
      postProcess inputs
  | .validate => validateAndPostProcess inputs
  | .download => do
      let result ← download inputs
      finalizeDownload inputs result

/-- What a pause keeps of the transfer: the HTTP checkpoint, or nothing. -/
def keepCheckpoint (inputs : ExecutionInputs) : Option HttpTransferCheckpoint → Exec PUnit
  | some checkpoint =>
    Exec.modifyArtifact fun artifact =>
      { artifact with
        bytesTransferred := checkpoint.bytesTransferred
        expectedSize := checkpoint.expectedSize
        etag := checkpoint.etag
        lastModifiedAt := inputs.dates.parseLastModified checkpoint.lastModified }
  | none => do
      removePartial
      Exec.modifyArtifact fun artifact => artifact.clearTransfer

/-- `_pause`. -/
def pause (inputs : ExecutionInputs) (checkpoint : Option HttpTransferCheckpoint) :
    Exec DirectExecutionResult := do
  keepCheckpoint inputs checkpoint
  Exec.transitionArtifact inputs .paused
  Exec.transitionAcquisition inputs .paused
  Exec.write (inputs.signal .paused) .paused .paused
  sessionResult

/-- Forget where a removed payload was. -/
def DirectArtifactAttempt.forgetPayload (artifact : DirectArtifactAttempt) :
    DirectArtifactAttempt :=
  { artifact with quarantinePath := none, bytesTransferred := 0 }

@[simp] theorem DirectArtifactAttempt.forgetPayload_id (artifact : DirectArtifactAttempt) :
    artifact.forgetPayload.id = artifact.id := rfl

/-- The cancellation handler of `execute`. -/
def handleCancelled (inputs : ExecutionInputs) : Exec DirectExecutionResult := do
  Exec.cleanup inputs
  Exec.modifyArtifact fun artifact => artifact.forgetPayload
  Exec.transitionArtifact inputs .cancelled
  Exec.transitionAcquisition inputs .cancelled
  Exec.write (inputs.signal .cancelled) .cancelled .cancelled
  sessionResult

/-- Seconds before the next automatic retry. -/
def retryDelay (retryCount : Nat) : Nat :=
  min 3600 (60 * 2 ^ (retryCount - 1))

/-- The plan with the safety review of a blocked artifact. -/
def PlanSnapshot.review (snapshot : PlanSnapshot) (safetyBlock : Option SafetyReview) :
    PlanSnapshot :=
  match safetyBlock with
  | none => snapshot
  | some block => { snapshot with safetyReview := some block }

/-- A classified failure recorded on both rows, with its safety block. -/
def Rows.recordFailure (rows : Rows) (error : ClassifiedError) : Rows :=
  { rows with
    attempt := { rows.attempt with
      failureClass := some error.failureClass
      failureCode := some error.code
      errorMessage := some error.message
      planSnapshot := rows.attempt.planSnapshot.review error.safetyBlock }
    artifact := { rows.artifact with
      failureClass := some error.failureClass
      failureCode := some error.code
      errorMessage := some error.message } }

/-- Move both rows to failed. -/
def fail (inputs : ExecutionInputs) : Exec DirectExecutionResult := do
  Exec.transitionArtifact inputs .failed
  Exec.transitionAcquisition inputs .failed
  Exec.write (inputs.signal .failure) .failure .failed
  sessionResult

/-- Both rows with one more retry used and its deadline set. -/
def Rows.countRetry (rows : Rows) (now : Instant) : Rows :=
  let retryAt := now + retryDelay (rows.attempt.retryCount + 1)
  { rows with
    attempt := { rows.attempt with
      retryCount := rows.attempt.retryCount + 1, nextRetryAt := some retryAt }
    artifact := { rows.artifact with
      retryCount := rows.artifact.retryCount + 1, nextRetryAt := some retryAt } }

/-- Schedule an automatic retry. -/
def scheduleRetry (inputs : ExecutionInputs) : Exec DirectExecutionResult := do
  Program.remember fun rows => rows.countRetry inputs.now
  Exec.transitionArtifact inputs .retryPending
  Exec.transitionAcquisition inputs .retryPending
  Exec.write (inputs.signal .failure) .failure .retryPending
  sessionResult

/-- `_classified_failure`. -/
def classifiedFailure (inputs : ExecutionInputs) (error : ClassifiedError) :
    Exec DirectExecutionResult := do
  Program.remember fun rows => rows.recordFailure error
  let rows ← Exec.rows
  if error.retryable ∧ rows.retryBudget.Left then
    scheduleRetry inputs
  else if supportsRouteFallback error.failureClass then do
    Exec.cleanup inputs
    Exec.modifyArtifact fun artifact => { artifact with quarantinePath := none }
    let queued ← queueNextArtifactRoute inputs
    if queued then do
      let after ← Exec.rows
      pure (executionResult after.attempt ((after.retired.head?).getD after.artifact))
    else if error.intervention then intervene inputs
    else fail inputs
  else if error.intervention then intervene inputs
  else fail inputs

/-- `_route_source_failure`. -/
def routeSourceFailure (error : DirectAcquisitionPlanningError) : ClassifiedError :=
  if error.code = "provider_artifact_changed" ∨ error.code = "provider_mirror_changed" then
    { failureClass := .resolver
      code := error.code
      message := "The provider response temporarily omitted the selected source."
      retryable := false
      intervention := true }
  else if error.code = "provider_host_kind_mismatch" then
    { failureClass := .permanentMirror
      code := error.code
      message := "The selected artifact route is no longer offered by the provider."
      retryable := false
      intervention := true }
  else
    { failureClass := error.failureClass
      code := error.code
      message := error.message
      retryable := error.retryable
      intervention := error.intervention }

/-- The exception handlers of `execute`. -/
def handleFailure (inputs : ExecutionInputs) : Failure → Exec DirectExecutionResult
  | .paused checkpoint => pause inputs checkpoint
  | .cancelled => handleCancelled inputs
  | .planning error => classifiedFailure inputs (routeSourceFailure error)
  | .classified error => do
      Exec.await (inputs.signal .hostFailed)
      classifiedFailure inputs error
  | .interrupted => do
      Exec.commit .failure
      Program.raise .interrupted
  | other => Program.raise other

/-- `_validate_runnable`. -/
def validateRunnable : Exec PUnit := do
  let rows ← Exec.rows
  if rows.artifact.routeKind ≠ .direct then
    Program.raise (.notRunnable "Only direct artifact routes use the native transfer executor.")
  else if rows.attempt.state ∈ acquisitionTerminalStates then
    Program.raise (.notRunnable "Direct acquisition attempt is terminal.")
  else
    pure ⟨⟩

/-- `DirectArtifactQuarantine.prepare`. -/
def prepareWorkspace (inputs : ExecutionInputs) : Exec PUnit :=
  if inputs.prepares then
    Exec.quarantine .prepared fun workspaces id => workspaces.prepare id
  else
    raiseValidation unsafeQuarantineError

/-- `DirectAcquisitionExecutor.execute`. -/
def execute (inputs : ExecutionInputs) : Exec DirectExecutionResult := do
  Exec.rollback
  validateRunnable
  prepareWorkspace inputs
  Program.handle (executeBody inputs) (handleFailure inputs)

/-- The states `cancel` declines. -/
def uncancellableStates : List DirectAcquisitionState :=
  [.completed, .cancelled, .failed, .postProcessing]

/-- Both rows of an acquisition the user cancelled, before their transitions. -/
def Rows.cancelledByUser (rows : Rows) : Rows :=
  { rows with
    attempt := { rows.attempt with
      failureClass := some .userAction
      failureCode := some "user_cancelled"
      errorMessage := some "Cancelled by user" }
    artifact := { rows.artifact.forgetPayload with
      failureClass := some .userAction
      failureCode := some "user_cancelled"
      errorMessage := some "Cancelled by user" } }

@[simp] theorem Rows.cancelledByUser_artifact_id (rows : Rows) :
    rows.cancelledByUser.artifact.id = rows.artifact.id := rfl

/-- `DirectAcquisitionExecutor.cancel`. -/
def cancel (inputs : ExecutionInputs) : Exec Bool := do
  Exec.rollback
  let rows ← Exec.rows
  if rows.attempt.state ∈ uncancellableStates then
    pure false
  else do
    prepareWorkspace inputs
    Exec.cleanup inputs
    Program.remember fun rows => rows.cancelledByUser
    Exec.transitionArtifact inputs .cancelled
    Exec.transitionAcquisition inputs .cancelled
    Exec.write (inputs.signal .cancelled) .cancelled .cancelled
    pure true

end Pullbox.Direct
