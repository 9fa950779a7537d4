import Pullbox.Durable.Reachable
import Pullbox.Direct.Executor

/-!
# Everything that moves one acquisition

The runner dispatches a pass and records a worker that died; the user cancels, retries,
approves, rejects or switches the source; the router abandons a plan it never submitted.
`Step` collects them as the steps of one acquisition, each of which may end in a crash
after any of its durable steps.

A commit or a change of a file is one durable step. Logs are left out.
-/

namespace Pullbox.Direct

open Durable

/-- `_mark_queued`. -/
def markQueued (inputs : ExecutionInputs) : Exec PUnit := do
  Exec.rollback
  let rows ← Exec.rows
  if rows.attempt.state = .planned then do
    Exec.transitionAcquisition inputs .queued
    Exec.commit .dispatched
  else
    pure ⟨⟩

/-- Both rows of a worker that stopped unexpectedly. -/
def workerFailure : ClassifiedError where
  failureClass := .transientSource
  code := "direct_acquisition_worker_failed"
  message := "Direct acquisition stopped unexpectedly."
  retryable := false
  intervention := false

/-- `_mark_unexpected_failure`. -/
def markUnexpectedFailure (inputs : ExecutionInputs) : Exec PUnit := do
  let rows ← Exec.rows
  if rows.attempt.state ∈ acquisitionTerminalStates then
    pure ⟨⟩
  else do
    Program.remember fun rows => rows.recordFailure workerFailure
    Exec.transitionArtifact inputs .failed
    Exec.transitionAcquisition inputs .failed
    Exec.write .proceeds .workerFailed .failed

/-- What `_run` does with an exception of the executor. -/
def superviseFailure (inputs : ExecutionInputs) (failure : Failure) :
    Exec DirectExecutionResult :=
  if failure = .interrupted then
    Program.raise .interrupted
  else do
    Exec.rollback
    markUnexpectedFailure inputs
    Program.raise failure

/-- One dispatched pass: `_mark_queued`, then one turn of `_run`. -/
def runPass (inputs : ExecutionInputs) : Exec DirectExecutionResult := do
  markQueued inputs
  Program.handle (execute inputs) (superviseFailure inputs)

/-- The rows an explicit retry starts over with; `none` where it is refused. -/
def Rows.reopened (rows : Rows) : Option Rows :=
  if rows.attempt.state = .failed ∨ rows.attempt.state = .cancelled then
    (reopenTerminalAcquisitionForRetry rows.attempt rows.artifact).map fun reopened =>
      { rows with attempt := reopened.1, artifact := reopened.2 }
  else if rows.attempt.state = .intervention then
    some (Exec.progressed rows .retryRequested)
  else
    none

/-- `DirectAcquisitionRunner.retry` before it dispatches. -/
def retry (inputs : ExecutionInputs) : Exec Bool := do
  Exec.rollback
  let rows ← Exec.rows
  match rows.reopened with
  | none => pure false
  | some reopened => do
      Program.remember fun _ => reopened
      if inputs.blockedRoutes rows.artifact.artifactIdentity then
        queueNextArtifactRoute inputs
      else do
        Exec.commit .retried
        pure true

/-- The safety override of `approve_direct`: once, for a resource review with a file. -/
def Rows.overridable (rows : Rows) : Prop :=
  rows.attempt.state = .intervention ∧ rows.attempt.failureClass = some .safety ∧
    rows.attempt.failureCode = some "artifact_resource_safety_review" ∧
    (rows.attempt.planSnapshot.safetyReview.any (·.overrideable)) = true ∧
    rows.artifact.quarantinePath.isSome = true

instance (rows : Rows) : Decidable rows.overridable :=
  inferInstanceAs (Decidable (_ ∧ _))

/-- The plan once its safety review was allowed. -/
def PlanSnapshot.allowOnce (snapshot : PlanSnapshot) : PlanSnapshot :=
  { snapshot with
    safetyReview := snapshot.safetyReview.map fun review => { review with allowedOnce := true } }

/-- `approve_direct` before it dispatches. -/
def approveDirect (inputs : ExecutionInputs) : Exec Bool := do
  Exec.rollback
  let rows ← Exec.rows
  if rows.overridable then do
    Exec.transitionAcquisition inputs .postProcessing
    Exec.transitionArtifact inputs .validating
    Exec.modifyAttempt fun attempt =>
      { attempt with planSnapshot := attempt.planSnapshot.allowOnce }
    Exec.commit .approved
    pure true
  else
    pure false

/-- `reject_match` of a direct attempt: only the acquisition moves. -/
def rejectMatch (inputs : ExecutionInputs) : Exec Bool := do
  Exec.rollback
  let rows ← Exec.rows
  if rows.attempt.state ∈ acquisitionTerminalStates then
    pure false
  else do
    Exec.transitionAcquisition inputs .cancelled
    Exec.modifyAttempt fun attempt =>
      { attempt.progressed .cancelled none with
        failureClass := some .userAction
        failureCode := some "user_rejected"
        errorMessage := some "The direct result was rejected by the user." }
    Exec.commit .rejected
    pure true

/-- An artifact of an abandoned plan. -/
def DirectArtifactAttempt.abandoned (artifact : DirectArtifactAttempt) (now : Instant) :
    DirectArtifactAttempt :=
  if artifact.state = .planned ∨ artifact.state = .intervention then
    { artifact.moved .cancelled now with
      failureClass := some .userAction
      failureCode := some "no_longer_eligible"
      errorMessage := some "Search scope changed before acquisition could be submitted."
      nextRetryAt := none }
  else
    artifact

/-- `_cancel_unsubmitted_attempt`. -/
def cancelUnsubmittedAttempt (inputs : ExecutionInputs) : Exec Bool := do
  Exec.rollback
  let rows ← Exec.rows
  if rows.attempt.state ∉ [DirectAcquisitionState.discovered, .planned, .intervention] then
    pure false
  else do
    Exec.transitionAcquisition inputs .cancelled
    Program.remember fun rows =>
      { rows with
        attempt := { rows.attempt.progressed .cancelled none with
          failureClass := some .userAction
          failureCode := some "no_longer_eligible"
          errorMessage := some "Search scope changed before acquisition could be submitted."
          nextRetryAt := none }
        artifact := rows.artifact.abandoned inputs.now
        retired := rows.retired.map (·.abandoned inputs.now) }
    Exec.commit .abandoned
    pure true

/-- `_MANUALLY_RESELECTABLE_FAILURES`. -/
def manuallyReselectableFailures : List DirectArtifactFailureClass :=
  [.transientHost, .artifactHostAuthRequired, .artifactHostChallenge, .hostQuota, .resolver,
    .userAction]

/-- `_is_manually_reselectable`. -/
def DirectArtifactAttempt.manuallyReselectable (artifact : DirectArtifactAttempt) : Bool :=
  decide (artifact.state = .cancelled ∨ artifact.state = .failed ∨
    artifact.state = .intervention) &&
    artifact.failureClass.any fun failureClass =>
      decide (failureClass ∈ manuallyReselectableFailures)

/-- One available route equivalent to the selected artifact. -/
structure DirectSourceSwitchOption where
  artifactIdentity : String
  hostKind : DirectArtifactHostKind
  expectedSize : Option Nat

/-- The option a route of the plan offers, if it does. -/
def Rows.switchOption (rows : Rows) (blocked : String → Bool) (fallbackIdentity : String)
    (route : PlanRoute) : Option DirectSourceSwitchOption := do
  let identity ← route.artifactIdentity
  let previous := (rows.artifact :: rows.retired).find? (·.artifactIdentity = identity)
  let reselectable := previous.any (·.manuallyReselectable)
  let hostKind ← route.hostKind
  if identity = rows.artifact.artifactIdentity ∨ (route.eligible = false ∧ reselectable = false) ∨
      (previous.isSome ∧ reselectable = false) ∨ blocked identity ∨
      route.snapshotFallbackIdentity ≠ some fallbackIdentity ∨ route.routeKind ≠ some .direct then
    none
  else
    some ⟨identity, hostKind, route.expectedSize⟩

/-- `list_source_switch_options`. -/
def Rows.sourceSwitchOptions (rows : Rows) (blocked : String → Bool) :
    List DirectSourceSwitchOption :=
  let routes := rows.attempt.planSnapshot.artifacts.getD []
  match routeFallbackIdentity routes rows.artifact.artifactIdentity with
  | none => []
  | some fallbackIdentity => routes.filterMap (rows.switchOption blocked fallbackIdentity)

/-- A row selected again by a source switch. -/
def DirectArtifactAttempt.reselected (artifact : DirectArtifactAttempt)
    (expectedSize : Option Nat) : DirectArtifactAttempt :=
  { artifact.clearFailure.clearTransfer with
    state := .planned
    expectedSize := expectedSize
    quarantinePath := none
    retryCount := 0
    nextRetryAt := none
    completedAt := none }

/-- A row retired by a source switch. -/
def DirectArtifactAttempt.switchedAway (artifact : DirectArtifactAttempt) :
    DirectArtifactAttempt :=
  { artifact with
    nextRetryAt := none
    failureClass := some .userAction
    failureCode := some "source_switched_by_user"
    errorMessage := some "Switched to another source by user." }

/-- The plan once the user switched from one route to another. -/
def PlanSnapshot.switched (snapshot : PlanSnapshot) (current replacement : DirectArtifactAttempt)
    (blockCurrent : Bool) : PlanSnapshot :=
  { snapshot with
    artifacts := some <| (snapshot.artifacts.getD []).map fun route =>
      if route.artifactIdentity = some current.artifactIdentity then
        { route with eligible := false, eligibilityCode := "source_switched" }
      else if route.artifactIdentity = some replacement.artifactIdentity then
        { route with eligible := true, eligibilityCode := "eligible" }
      else
        route
    routeSwitches := snapshot.routeSwitches ++
      [⟨current.artifactIdentity, current.hostKind, replacement.artifactIdentity,
        replacement.hostKind, blockCurrent, current.sequenceNo⟩]
    selectedArtifactIdentity := some replacement.artifactIdentity }

/-- The replacement row of a source switch: an earlier artifact of that route, or a new one. -/
def Rows.replacement (rows : Rows) (option : DirectSourceSwitchOption) : DirectArtifactAttempt :=
  match rows.retired.find? (·.artifactIdentity = option.artifactIdentity) with
  | some artifact => artifact.reselected option.expectedSize
  | none => plannedArtifact rows.nextArtifactId rows.nextSequenceNo option.artifactIdentity
      option.hostKind option.expectedSize

/-- The rows after a source switch. -/
def Rows.switched (rows : Rows) (option : DirectSourceSwitchOption) (blockCurrent : Bool) :
    Rows :=
  let replacement := rows.replacement option
  { attempt :=
      { (rows.attempt.clearFailure.planned
          (rows.attempt.planSnapshot.switched rows.artifact replacement blockCurrent)).progressed
            .sourceSwitchQueued (some replacement.id) with
        state := .queued
        cancelledAt := none
        completedAt := none
        retryCount := 0
        nextRetryAt := none }
    artifact := replacement
    retired := rows.artifact.switchedAway ::
      rows.retired.filter (·.artifactIdentity ≠ option.artifactIdentity)
    nextArtifactId := max rows.nextArtifactId (replacement.id + 1) }

/-- The option `queue_source_switch` takes, where it takes one. -/
def Rows.selectedOption (rows : Rows) (blocked : String → Bool) (target : Option String) :
    Option DirectSourceSwitchOption :=
  if rows.attempt.state = .cancelled ∧ rows.artifact.state = .cancelled then
    match target with
    | none => (rows.sourceSwitchOptions blocked).head?
    | some identity => (rows.sourceSwitchOptions blocked).find? (·.artifactIdentity = identity)
  else
    none

/-- `queue_source_switch` of a cooperatively cancelled route. -/
def queueSourceSwitch (inputs : ExecutionInputs) (target : Option String) (blockCurrent : Bool) :
    Exec Bool := do
  Exec.rollback
  let rows ← Exec.rows
  match rows.selectedOption inputs.blockedRoutes target with
  | none => pure false
  | some option => do
      Program.remember fun rows => rows.switched option blockCurrent
      Exec.commit .switched
      pure true

/-- What can happen to one acquisition; a crash names the last durable step it followed. -/
inductive Event where
  | pass (inputs : ExecutionInputs) (crash : Option DurableStep)
  | cancel (inputs : ExecutionInputs) (crash : Option DurableStep)
  | retry (inputs : ExecutionInputs) (crash : Option DurableStep)
  | approve (inputs : ExecutionInputs) (crash : Option DurableStep)
  | reject (inputs : ExecutionInputs) (crash : Option DurableStep)
  | abandon (inputs : ExecutionInputs) (crash : Option DurableStep)
  | switchSource (inputs : ExecutionInputs) (target : Option String) (blockCurrent : Bool)
      (crash : Option DurableStep)
  /-- A quarantined file disappears from the disk. -/
  | lose (artifactId : Nat) (entry : QuarantineEntry)

/-- A program run by a fresh session on the committed rows. -/
def Exec.Leaves {α : Type} (program : Exec α) (store : Store) (crash : Option DurableStep)
    (after : Store) : Prop :=
  Program.Leaves program ⟨store.rows, store⟩ crash after

/-- One step of an acquisition. -/
def Step : Event → Store → Store → Prop
  | .pass inputs crash, store, after => (runPass inputs).Leaves store crash after
  | .cancel inputs crash, store, after => (cancel inputs).Leaves store crash after
  | .retry inputs crash, store, after => (retry inputs).Leaves store crash after
  | .approve inputs crash, store, after => (approveDirect inputs).Leaves store crash after
  | .reject inputs crash, store, after => (rejectMatch inputs).Leaves store crash after
  | .abandon inputs crash, store, after =>
    (cancelUnsubmittedAttempt inputs).Leaves store crash after
  | .switchSource inputs target blockCurrent crash, store, after =>
    (queueSourceSwitch inputs target blockCurrent).Leaves store crash after
  | .lose artifactId entry, store, after =>
    after = { store with workspaces := store.workspaces.put artifactId entry none }

/-- A freshly planned acquisition: one planned artifact. The quarantine may hold whatever
earlier acquisitions left there. -/
structure Planned (store : Store) : Prop where
  attempt : store.rows.attempt.state = .planned
  artifact : store.rows.artifact.state = .planned
  path : store.rows.artifact.quarantinePath = none
  retired : store.rows.retired = []
  numbered : store.rows.artifact.id < store.rows.nextArtifactId

end Pullbox.Direct
