import Pullbox.Durable.Program
import Pullbox.Direct.Transfer

/-!
# The coordinator's session

The coordinator works on rows held by its database session and changes two durable
things: the committed rows and the quarantine. Everything it awaits is an answer in
`ExecutionInputs`, so that a pass is a function of the durable state and those answers.
-/

namespace Pullbox.Direct

open Durable

/-- The rows of one acquisition: the attempt, its selected artifact and the others. -/
structure Rows where
  attempt : DirectAcquisitionAttempt
  artifact : DirectArtifactAttempt
  retired : List DirectArtifactAttempt
  nextArtifactId : Nat

/-- The automatic retries of both rows: used and allowed. -/
structure RetryBudget where
  attemptUsed : Nat
  attemptAllowed : Nat
  artifactUsed : Nat
  artifactAllowed : Nat

/-- Both rows may retry once more. -/
def RetryBudget.Left (budget : RetryBudget) : Prop :=
  budget.attemptUsed < budget.attemptAllowed ∧ budget.artifactUsed < budget.artifactAllowed

instance (budget : RetryBudget) : Decidable budget.Left :=
  inferInstanceAs (Decidable (_ ∧ _))

def Rows.retryBudget (rows : Rows) : RetryBudget :=
  ⟨rows.attempt.retryCount, rows.attempt.maxRetries, rows.artifact.retryCount,
    rows.artifact.maxRetries⟩

/-- Both rows after an accepted pair of transitions. -/
def Rows.entered (rows : Rows) (acquisition : DirectAcquisitionState)
    (artifact : DirectArtifactState) (timestamp : Instant) : Rows :=
  { rows with
    attempt := rows.attempt.entered acquisition timestamp
    artifact := rows.artifact.entered artifact timestamp }

/-- Committed rows next to the quarantine. -/
structure Store where
  rows : Rows
  workspaces : Workspaces

/-- A classified host, transfer or validation failure. -/
structure ClassifiedError where
  failureClass : DirectArtifactFailureClass
  code : String
  message : String
  retryable : Bool
  intervention : Bool
  safetyBlock : Option SafetyReview := none
deriving DecidableEq

/-- A validation error seen by the failure handler: its class is always `safety`. -/
def DirectArtifactValidationError.classified (error : DirectArtifactValidationError) :
    ClassifiedError where
  failureClass := .safety
  code := error.code
  message := error.message
  retryable := error.retryable
  intervention := error.intervention
  safetyBlock := error.safetyBlock

/-- A failure to re-resolve the planned source. -/
structure DirectAcquisitionPlanningError where
  code : String
  message : String
  failureClass : DirectArtifactFailureClass
  retryable : Bool
  intervention : Bool
deriving DecidableEq

/-- Everything that can leave the coordinator as an exception. -/
inductive Failure where
  /-- The transport paused; the MEGA bridge pauses without a checkpoint. -/
  | paused (checkpoint : Option HttpTransferCheckpoint)
  | cancelled
  | planning (error : DirectAcquisitionPlanningError)
  | classified (error : ClassifiedError)
  /-- The worker task was cancelled (shutdown). -/
  | interrupted
  | unexpected
  | invalidTransition (error : TransitionError)
  | notRunnable (message : String)
deriving DecidableEq

/-- The places where a pass awaits its database session. -/
inductive Checkpoint where
  | providerQueue | resolving | credentials | resolver | downloading | bridgeReset | transferring
  | transferred | hostSucceeded | validating | postProcessing | completed | paused
  | cancelled | hostFailed | fallbackLookup | fallbackQueued | intervention | failure
  | dispatched | workerFailed | retried | approved | rejected | abandoned | switched
deriving DecidableEq

/-- How one await of the session ends. -/
inductive Signal where
  | proceeds | unexpected | interrupted

/-- The durable steps of a pass. -/
inductive DurableStep where
  | committed (checkpoint : Checkpoint)
  | prepared
  | partialChanged
  | finalized
  | cleanedUp
deriving DecidableEq

/-- How waiting for a slot ends. -/
inductive SlotAnswer where
  | acquired | cancelled | unexpected | interrupted

/-- The identity a source factory hands to the host adapter. -/
structure HostResolutionRequest where
  artifactIdentity : String
  hostKind : DirectArtifactHostKind

/-- What the source factory answers. -/
inductive SourceAnswer where
  | request (request : HostResolutionRequest)
  | planning (error : DirectAcquisitionPlanningError)
  | cancelled | unexpected | interrupted

/-- What the host adapter answers. -/
inductive HostAnswer where
  | resolved (resolved : ResolvedTransfer)
  | refused (error : ClassifiedError)
  | cancelled | unexpected | interrupted

/-- What happens while bytes move: the partial file changes, progress is reported (and
saved when it is due), or a refreshed source is being resolved. -/
inductive TransferEvent where
  | partialFile (content : Option Content)
  | progress (bytesTransferred : Nat) (total : Option Nat) (saved : Option Signal)
  | resolverAttempt (saved : Signal)

/-- How a transfer ends. -/
inductive TransferAnswer where
  | transferred (result : ArtifactTransferResult)
  | paused (checkpoint : Option HttpTransferCheckpoint)
  | refused (error : ClassifiedError)
  | planning (error : DirectAcquisitionPlanningError)
  | cancelled | unexpected | interrupted

/-- How the checks of a file end. -/
inductive ValidationAnswer where
  | checked (checks : ValidationChecks)
  | unexpected | interrupted

/-- How the post-processing ends. -/
inductive PostProcessAnswer where
  | processed (libraryFileId : Option Nat)
  | packError (code message : String)
  | raised | interrupted

/-- Everything one call of the coordinator learns from outside. -/
structure ExecutionInputs where
  now : Instant
  prepares : Bool
  cancelRequested : Bool
  slots : SlotAnswer
  source : SourceAnswer
  hostConfig : Option (Nat × Bool)
  resolverAttempts : List Signal
  resolution : HostAnswer
  transferEvents : List TransferEvent
  transfer : TransferAnswer
  finalizeIo : FinalizeIo
  validation : ValidationAnswer
  postProcess : PostProcessAnswer
  cleanup : RemovalOutcome
  blockedRoutes : String → Bool
  signal : Checkpoint → Signal
  dates : HttpDates

/-- Redacted durable outcome of one pass. -/
structure DirectExecutionResult where
  acquisitionId : Nat
  artifactId : Nat
  state : DirectAcquisitionState
  artifactState : DirectArtifactState
  libraryFileId : Option Nat

abbrev Exec := Program Rows Store DurableStep Failure

/-- `_result`. -/
def executionResult (attempt : DirectAcquisitionAttempt) (artifact : DirectArtifactAttempt) :
    DirectExecutionResult :=
  ⟨attempt.id, artifact.id, attempt.state, artifact.state, attempt.libraryFileId⟩

namespace Exec

/-- The rows the session holds. -/
def rows : Exec Rows := Program.peek

def modifyAttempt (change : DirectAcquisitionAttempt → DirectAcquisitionAttempt) : Exec PUnit :=
  Program.remember fun rows => { rows with attempt := change rows.attempt }

def modifyArtifact (change : DirectArtifactAttempt → DirectArtifactAttempt) : Exec PUnit :=
  Program.remember fun rows => { rows with artifact := change rows.artifact }

/-- `session.commit()`. -/
def commit (checkpoint : Checkpoint) : Exec PUnit :=
  Program.persist (.committed checkpoint) fun rows store => { store with rows := rows }

/-- `session.rollback()` followed by loading the rows again. -/
def rollback : Exec PUnit :=
  Program.reload fun store _ => store.rows

/-- Wait for the session. -/
def await (signal : Signal) : Exec PUnit :=
  match signal with
  | .proceeds => pure ⟨⟩
  | .unexpected => Program.raise .unexpected
  | .interrupted => Program.raise .interrupted

/-- Change the quarantine of the selected artifact. -/
def quarantine (step : DurableStep) (change : Workspaces → Nat → Workspaces) : Exec PUnit :=
  Program.persist step fun rows store =>
    { store with workspaces := change store.workspaces rows.artifact.id }

/-- `transition_acquisition` on the session's attempt. -/
def transitionAcquisition (inputs : ExecutionInputs) (newState : DirectAcquisitionState) :
    Exec PUnit := do
  let rows ← Exec.rows
  match Direct.transitionAcquisition rows.attempt newState inputs.now with
  | .ok attempt => modifyAttempt fun _ => attempt
  | .error error => Program.raise (.invalidTransition error)

/-- `transition_artifact` on the session's artifact. -/
def transitionArtifact (inputs : ExecutionInputs) (newState : DirectArtifactState) :
    Exec PUnit := do
  let rows ← Exec.rows
  match Direct.transitionArtifact rows.artifact newState inputs.now with
  | .ok artifact => modifyArtifact fun _ => artifact
  | .error error => Program.raise (.invalidTransition error)

/-- A forced `_ProgressWriter.write`: advance the progress, project it, commit. -/
def write (signal : Signal) (checkpoint : Checkpoint) (stage : ProgressStage) : Exec PUnit := do
  let rows ← Exec.rows
  modifyAttempt fun attempt => attempt.progressed stage (some rows.artifact.id)
  await signal
  commit checkpoint

/-- `DirectArtifactQuarantine.cleanup` of the selected artifact's workspace. -/
def cleanup (inputs : ExecutionInputs) : Exec PUnit :=
  quarantine .cleanedUp fun workspaces id => workspaces.cleanup id inputs.cleanup

section Rules

variable {returns : PUnit → Frame Rows Store → Prop} {raises : Failure → Frame Rows Store → Prop}
  {crashes : DurableStep → Store → Prop} {frame : Frame Rows Store}

@[simp] theorem wp_rows {returns : Rows → Frame Rows Store → Prop} :
    Program.wp rows returns raises crashes frame ↔ returns frame.memory frame :=
  Program.wp_peek

@[simp] theorem wp_modifyAttempt {change : DirectAcquisitionAttempt → DirectAcquisitionAttempt} :
    Program.wp (modifyAttempt change) returns raises crashes frame ↔
      returns ⟨⟩
        { frame with memory := { frame.memory with attempt := change frame.memory.attempt } } :=
  Program.wp_remember

@[simp] theorem wp_modifyArtifact {change : DirectArtifactAttempt → DirectArtifactAttempt} :
    Program.wp (modifyArtifact change) returns raises crashes frame ↔
      returns ⟨⟩
        { frame with memory := { frame.memory with artifact := change frame.memory.artifact } } :=
  Program.wp_remember

@[simp] theorem wp_commit {checkpoint : Checkpoint} :
    Program.wp (commit checkpoint) returns raises crashes frame ↔
      crashes (.committed checkpoint) { frame.durable with rows := frame.memory } ∧
        returns ⟨⟩ { frame with durable := { frame.durable with rows := frame.memory } } :=
  Program.wp_persist

@[simp] theorem wp_rollback :
    Program.wp rollback returns raises crashes frame ↔
      returns ⟨⟩ { frame with memory := frame.durable.rows } :=
  Program.wp_reload

@[simp] theorem wp_await {signal : Signal} :
    Program.wp (await signal) returns raises crashes frame ↔
      (signal = .proceeds → returns ⟨⟩ frame) ∧
        (signal = .unexpected → raises .unexpected frame) ∧
          (signal = .interrupted → raises .interrupted frame) := by
  cases signal <;> simp [await]

@[simp] theorem wp_quarantine {step : DurableStep} {change : Workspaces → Nat → Workspaces} :
    Program.wp (quarantine step change) returns raises crashes frame ↔
      crashes step { frame.durable with
          workspaces := change frame.durable.workspaces frame.memory.artifact.id } ∧
        returns ⟨⟩ { frame with
          durable := { frame.durable with
            workspaces := change frame.durable.workspaces frame.memory.artifact.id } } :=
  Program.wp_persist

/-- An accepted transition continues with the entered state; any other raises. -/
@[simp] theorem wp_transitionAcquisition {inputs : ExecutionInputs}
    {newState : DirectAcquisitionState} :
    Program.wp (transitionAcquisition inputs newState) returns raises crashes frame ↔
      (frame.memory.attempt.state.Accepts newState →
        returns ⟨⟩ { frame with
          memory := { frame.memory with
            attempt := frame.memory.attempt.entered newState inputs.now } }) ∧
      (¬ frame.memory.attempt.state.Accepts newState →
        ∀ error, Direct.transitionAcquisition frame.memory.attempt newState inputs.now =
          .error error → raises (.invalidTransition error) frame) := by
  unfold transitionAcquisition
  by_cases accepts : frame.memory.attempt.state.Accepts newState
  · simp [transitionAcquisition_accepted inputs.now accepts, accepts]
  · simp [transitionAcquisition_refused inputs.now accepts, accepts]

/-- An accepted transition continues with the entered state; any other raises. -/
@[simp] theorem wp_transitionArtifact {inputs : ExecutionInputs}
    {newState : DirectArtifactState} :
    Program.wp (transitionArtifact inputs newState) returns raises crashes frame ↔
      (frame.memory.artifact.state.Accepts newState →
        returns ⟨⟩ { frame with
          memory := { frame.memory with
            artifact := frame.memory.artifact.entered newState inputs.now } }) ∧
      (¬ frame.memory.artifact.state.Accepts newState →
        ∀ error, Direct.transitionArtifact frame.memory.artifact newState inputs.now =
          .error error → raises (.invalidTransition error) frame) := by
  unfold transitionArtifact
  by_cases accepts : frame.memory.artifact.state.Accepts newState
  · simp [transitionArtifact_accepted inputs.now accepts, accepts]
  · simp [transitionArtifact_refused inputs.now accepts, accepts]

/-- The session's rows after a progress write. -/
def progressed (rows : Rows) (stage : ProgressStage) : Rows :=
  { rows with attempt := rows.attempt.progressed stage (some rows.artifact.id) }

@[simp] theorem wp_write {signal : Signal} {checkpoint : Checkpoint} {stage : ProgressStage} :
    Program.wp (write signal checkpoint stage) returns raises crashes frame ↔
      (signal = .proceeds →
        crashes (.committed checkpoint)
            { frame.durable with rows := progressed frame.memory stage } ∧
          returns ⟨⟩
            { memory := progressed frame.memory stage
              durable := { frame.durable with rows := progressed frame.memory stage } }) ∧
      (signal = .unexpected →
        raises .unexpected { frame with memory := progressed frame.memory stage }) ∧
      (signal = .interrupted →
        raises .interrupted { frame with memory := progressed frame.memory stage }) := by
  simp [write, progressed]

@[simp] theorem wp_cleanup {inputs : ExecutionInputs} :
    Program.wp (cleanup inputs) returns raises crashes frame ↔
      crashes .cleanedUp { frame.durable with
          workspaces :=
            frame.durable.workspaces.cleanup frame.memory.artifact.id inputs.cleanup } ∧
        returns ⟨⟩ { frame with
          durable := { frame.durable with
            workspaces :=
              frame.durable.workspaces.cleanup frame.memory.artifact.id inputs.cleanup } } :=
  wp_quarantine

end Rules

end Exec

end Pullbox.Direct
