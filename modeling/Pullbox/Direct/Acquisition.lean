import Pullbox.Direct.Runner
import Pullbox.Durable.Results
import Pullbox.Durable.Revised

/-!
# The rows of an acquisition with all its artifacts

The attempt with its two snapshots and their revisions, and every artifact with its selection
flag. The snapshots are JSON objects up to Python's equality; `Plan` and `Progress` stand for
them.
-/

namespace Pullbox.Direct.Acquisition

open Durable

/-- The row of an acquisition. -/
structure AttemptRow (Plan Progress : Type) where
  state : DirectAcquisitionState
  plan : Revised Plan
  progress : Revised Progress
  retryCount : Nat
  nextRetryAt : Option Instant
  failureClass : Option DirectArtifactFailureClass
  failureCode : Option String
  errorMessage : Option String
  startedAt : Option Instant
  completedAt : Option Instant
  cancelledAt : Option Instant

/-- The row of an artifact, selected or not. -/
structure ArtifactRow extends DirectArtifactAttempt where
  isSelected : Bool

/-- An acquisition with its artifacts. -/
structure AcquisitionRows (Plan Progress : Type) where
  attempt : AttemptRow Plan Progress
  artifacts : List ArtifactRow
  /-- The identifier of the next artifact row. -/
  nextArtifactId : Nat

/-- What the operations refuse. -/
inductive RecordError where
  | planRevision
  | planData
  | planDiffers (revision : Int)
  | planOld (current : Nat)
  | progressDiffers (revision : Int)
  | progressOld (current : Nat)
  | transition (error : TransitionError)
  | notTerminal
  | switchNotCancelled
  | switchArtifactNotCancelled
  | routeUnavailable
  | notCancellable
  | notDiscovered
  | noArtifact

/-- The texts of the errors; a row that the caller does not have raises none of these. -/
def RecordError.message : RecordError → String
  | .planRevision => "Plan revision must be at least 1."
  | .planData => "Direct acquisition plans must contain valid JSON data."
  | .planDiffers revision => s!"Plan revision {revision} already has different data."
  | .planOld current => s!"Plan revision must be greater than {current}."
  | .progressDiffers revision => s!"Progress revision {revision} already has different data."
  | .progressOld current => s!"Progress revision must be greater than {current}."
  | .transition error => error.message
  | .notTerminal => "Only a terminal direct attempt can be explicitly retried."
  | .switchNotCancelled =>
    "The current transfer did not stop cleanly, so its source was not changed."
  | .switchArtifactNotCancelled =>
    "The current artifact did not stop cleanly, so its source was not changed."
  | .routeUnavailable =>
    "The requested replacement source is not available for this download."
  | .notCancellable => "This direct download can no longer change sources."
  | .notDiscovered => "Only a discovered or pre-plan reviewed direct result can be planned."
  | .noArtifact => ""

variable {Plan Progress : Type} [DecidableEq Plan] [DecidableEq Progress]

namespace AttemptRow

/-- `record_acquisition_plan`; data that JSON cannot hold is none. -/
def recordAcquisitionPlan (attempt : AttemptRow Plan Progress) (revision : Int)
    (snapshot : Option Plan) : Except RecordError (AttemptRow Plan Progress) :=
  if revision < 1 then .error .planRevision
  else
    match snapshot with
    | none => .error .planData
    | some proposed =>
      match attempt.plan.offer revision proposed with
      | .ok plan => .ok { attempt with plan := plan }
      | .error .differs => .error (.planDiffers revision)
      | .error .old => .error (.planOld attempt.plan.revision)

/-- `advance_acquisition_progress`. -/
def advanceAcquisitionProgress (attempt : AttemptRow Plan Progress) (revision : Int)
    (snapshot : Progress) : Except RecordError (AttemptRow Plan Progress) :=
  match attempt.progress.offer revision snapshot with
  | .ok progress => .ok { attempt with progress := progress }
  | .error .differs => .error (.progressDiffers revision)
  | .error .old => .error (.progressOld attempt.progress.revision)

/-- The attempt after an accepted transition. -/
def moved (attempt : AttemptRow Plan Progress) (newState : DirectAcquisitionState)
    (timestamp : Instant) : AttemptRow Plan Progress :=
  { attempt with
    state := newState
    startedAt :=
      if newState = .resolving ∧ attempt.startedAt = none then some timestamp
      else attempt.startedAt
    cancelledAt := if newState = .cancelled then some timestamp else attempt.cancelledAt
    completedAt :=
      if newState ∈ acquisitionTerminalStates then some timestamp else attempt.completedAt }

/-- `transition_acquisition`. -/
def transition (attempt : AttemptRow Plan Progress) (newState : DirectAcquisitionState)
    (timestamp : Instant) : Except RecordError (AttemptRow Plan Progress) :=
  if attempt.state = newState then .ok attempt
  else if newState ∈ acquisitionTransitions attempt.state then .ok (attempt.moved newState timestamp)
  else
    .error (.transition ⟨"acquisition", attempt.state.value, newState.value,
      (acquisitionTransitions attempt.state).map (·.value)⟩)

/-- `record_acquisition_plan` with the next revision. -/
def planned (attempt : AttemptRow Plan Progress) (snapshot : Plan) : AttemptRow Plan Progress :=
  { attempt with plan := ⟨attempt.plan.revision + 1, snapshot⟩ }

/-- `advance_acquisition_progress` with the next revision. -/
def progressed (attempt : AttemptRow Plan Progress) (snapshot : Progress) :
    AttemptRow Plan Progress :=
  { attempt with progress := ⟨attempt.progress.revision + 1, snapshot⟩ }

def clearFailure (attempt : AttemptRow Plan Progress) : AttemptRow Plan Progress :=
  { attempt with failureClass := none, failureCode := none, errorMessage := none }

variable {attempt after : AttemptRow Plan Progress} {revision : Int}
  {newState : DirectAcquisitionState} {timestamp : Instant}

omit [DecidableEq Progress] in
/-- What a plan that is accepted changes. -/
theorem recordAcquisitionPlan_accepted {snapshot : Option Plan}
    (accepted : attempt.recordAcquisitionPlan revision snapshot = .ok after) :
    ∃ proposed plan, snapshot = some proposed ∧ 1 ≤ revision ∧
      attempt.plan.offer revision proposed = .ok plan ∧ after = { attempt with plan := plan } := by
  unfold recordAcquisitionPlan at accepted
  split_ifs at accepted with invalid
  cases snapshot with
  | none => cases accepted
  | some proposed =>
    simp only at accepted
    split at accepted
    · rename_i plan offered
      exact ⟨proposed, plan, rfl, by omega, offered, (Except.ok.inj accepted).symm⟩
    · cases accepted
    · cases accepted

omit [DecidableEq Plan] in
/-- What progress that is accepted changes. -/
theorem advanceAcquisitionProgress_accepted {snapshot : Progress}
    (accepted : attempt.advanceAcquisitionProgress revision snapshot = .ok after) :
    ∃ progress, attempt.progress.offer revision snapshot = .ok progress ∧
      after = { attempt with progress := progress } := by
  unfold advanceAcquisitionProgress at accepted
  split at accepted
  · rename_i progress offered
    exact ⟨progress, offered, (Except.ok.inj accepted).symm⟩
  · cases accepted
  · cases accepted

omit [DecidableEq Plan] [DecidableEq Progress] in
/-- What a transition that is accepted changes. -/
theorem transition_accepted (accepted : attempt.transition newState timestamp = .ok after) :
    (after = attempt ∧ attempt.state = newState) ∨ after = attempt.moved newState timestamp := by
  unfold transition at accepted
  split_ifs at accepted with same
  · exact .inl ⟨(Except.ok.inj accepted).symm, same⟩
  · exact .inr (Except.ok.inj accepted).symm

omit [DecidableEq Plan] [DecidableEq Progress] in
theorem transition_state
    (accepted : attempt.transition newState timestamp = .ok after) : after.state = newState := by
  rcases transition_accepted accepted with ⟨rfl, same⟩ | rfl
  · exact same
  · rfl

omit [DecidableEq Plan] [DecidableEq Progress] in
theorem transition_plan
    (accepted : attempt.transition newState timestamp = .ok after) : after.plan = attempt.plan := by
  rcases transition_accepted accepted with ⟨rfl, _⟩ | rfl
  · rfl
  · rfl

end AttemptRow

/-- `transition_artifact`. -/
def ArtifactRow.transition (artifact : ArtifactRow) (newState : DirectArtifactState)
    (timestamp : Instant) : Except RecordError ArtifactRow :=
  match transitionArtifact artifact.toDirectArtifactAttempt newState timestamp with
  | .ok moved => .ok { artifact with toDirectArtifactAttempt := moved }
  | .error error => .error (.transition error)

/-- An artifact that is switched away from. -/
def ArtifactRow.switchedAway (artifact : ArtifactRow) : ArtifactRow :=
  { artifact with
    toDirectArtifactAttempt := artifact.toDirectArtifactAttempt.switchedAway
    isSelected := false }

namespace AcquisitionRows

def find (rows : AcquisitionRows Plan Progress) (id : Nat) : Option ArtifactRow :=
  rows.artifacts.find? (·.id = id)

/-- One artifact row is written. -/
def write (rows : AcquisitionRows Plan Progress) (row : ArtifactRow) :
    AcquisitionRows Plan Progress :=
  { rows with
    artifacts := rows.artifacts.map fun other => if other.id = row.id then row else other }

/-- One more than the greatest sequence number. -/
def nextSequenceNo (rows : AcquisitionRows Plan Progress) : Nat :=
  (rows.artifacts.map (·.sequenceNo)).foldl max 0 + 1

/-- `transition_artifact`, of one of the artifacts. -/
def transitionArtifact (rows : AcquisitionRows Plan Progress) (id : Nat)
    (newState : DirectArtifactState) (timestamp : Instant) :
    Except RecordError (AcquisitionRows Plan Progress) :=
  match rows.find id with
  | none => .error .noArtifact
  | some artifact => (artifact.transition newState timestamp).map rows.write

/-- `reopen_terminal_acquisition_for_retry`, with the snapshot of its progress. -/
def reopenTerminalAcquisitionForRetry (rows : AcquisitionRows Plan Progress) (id : Nat)
    (progress : Progress) : Except RecordError (AcquisitionRows Plan Progress) :=
  match rows.find id with
  | none => .error .noArtifact
  | some artifact =>
    if (rows.attempt.state = .failed ∨ rows.attempt.state = .cancelled) ∧
        (artifact.state = .failed ∨ artifact.state = .cancelled) then
      .ok { (rows.write { artifact with
              state := .retryPending
              retryCount := 0
              nextRetryAt := none
              completedAt := none }) with
            attempt := { rows.attempt.progressed progress with
              state := .retryPending
              retryCount := 0
              nextRetryAt := none
              completedAt := none
              cancelledAt := none } }
    else .error .notTerminal

/-- A new artifact row, planned and selected. -/
def addArtifact (rows : AcquisitionRows Plan Progress) (sequenceNo : Nat) (identity : String)
    (hostKind : DirectArtifactHostKind) (expectedSize : Option Nat) :
    AcquisitionRows Plan Progress :=
  { rows with
    artifacts := rows.artifacts ++
      [{ plannedArtifact rows.nextArtifactId sequenceNo identity hostKind expectedSize with
          isSelected := true }]
    nextArtifactId := rows.nextArtifactId + 1 }

/-- The row of a route that is switched to. -/
def replacement (rows : AcquisitionRows Plan Progress) (option : DirectSourceSwitchOption) :
    ArtifactRow :=
  match rows.artifacts.find? (·.artifactIdentity = option.artifactIdentity) with
  | some artifact =>
    { artifact.toDirectArtifactAttempt.reselected option.expectedSize with isSelected := true }
  | none =>
    { plannedArtifact rows.nextArtifactId rows.nextSequenceNo option.artifactIdentity
        option.hostKind option.expectedSize with isSelected := true }

/-- A row is written, or appended where there is none with its identifier. -/
def enter (rows : AcquisitionRows Plan Progress) (row : ArtifactRow) :
    AcquisitionRows Plan Progress :=
  if rows.artifacts.any (·.id = row.id) then rows.write row
  else
    { rows with
      artifacts := rows.artifacts ++ [row]
      nextArtifactId := max rows.nextArtifactId (row.id + 1) }

/-- `queue_source_switch` with the route it takes, the plan it records and the snapshot of its
progress. -/
def switchTo (rows : AcquisitionRows Plan Progress) (current : Nat)
    (option : DirectSourceSwitchOption) (plan : Plan) (progress : Progress) :
    Except RecordError (AcquisitionRows Plan Progress) :=
  match rows.find current with
  | none => .error .noArtifact
  | some artifact =>
    if rows.attempt.state ≠ .cancelled then .error .switchNotCancelled
    else if artifact.state ≠ .cancelled ∨ artifact.isSelected = false then
      .error .switchArtifactNotCancelled
    else
      let attempt := (rows.attempt.planned plan).clearFailure.progressed progress
      .ok { ((rows.write artifact.switchedAway).enter (rows.replacement option)) with
            attempt := { attempt with
              state := .queued
              cancelledAt := none
              completedAt := none
              retryCount := 0
              nextRetryAt := none } }

end AcquisitionRows

end Pullbox.Direct.Acquisition
