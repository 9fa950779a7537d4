import Mathlib.Data.List.Sort

/-!
# Direct acquisition rows and their transition tables

The two rows of one direct acquisition (the attempt and its selected artifact), the
two transition tables, and the table-checked operations that move the rows. A joint
state is `Coherent` when the artifact state is the one the acquisition state implies;
terminal acquisitions may keep any artifact state behind them.
-/

namespace Pullbox.Direct

/-- Wall-clock instants, in seconds. -/
abbrev Instant := Nat

/-- The states of an acquisition. -/
inductive DirectAcquisitionState where
  | discovered | resolving | planned | queued | downloading | validating | postProcessing
  | completed | retryPending | paused | cancelled | failed | intervention
deriving DecidableEq

/-- The states of an artifact. -/
inductive DirectArtifactState where
  | planned | resolving | transferring | validating | completed | retryPending | paused
  | cancelled | failed | intervention
deriving DecidableEq

inductive DirectArtifactRouteKind where
  | direct | torrentFile | magnet
deriving DecidableEq

inductive DirectArtifactHostKind where
  | genericHttps | pixeldrain | mega | rootz | mediafire | terabox | datanodes
deriving DecidableEq

/-- The classes of failures. -/
inductive DirectArtifactFailureClass where
  | providerUnavailable | transientSource | transientHost | permanentMirror
  | unsupportedArtifactHost | artifactHostAuthRequired | artifactHostChallenge | hostQuota
  | candidateInvalid | resolver | unsafeRoute | safety | postProcess | userAction
deriving DecidableEq

/-- The values stored in the database, as they appear in messages. -/
def DirectAcquisitionState.value : DirectAcquisitionState → String
  | .discovered => "discovered"
  | .resolving => "resolving"
  | .planned => "planned"
  | .queued => "queued"
  | .downloading => "downloading"
  | .validating => "validating"
  | .postProcessing => "post_processing"
  | .completed => "completed"
  | .retryPending => "retry_pending"
  | .paused => "paused"
  | .cancelled => "cancelled"
  | .failed => "failed"
  | .intervention => "intervention"

/-- The values stored in the database, as they appear in messages. -/
def DirectArtifactState.value : DirectArtifactState → String
  | .planned => "planned"
  | .resolving => "resolving"
  | .transferring => "transferring"
  | .validating => "validating"
  | .completed => "completed"
  | .retryPending => "retry_pending"
  | .paused => "paused"
  | .cancelled => "cancelled"
  | .failed => "failed"
  | .intervention => "intervention"

/-- `ACQUISITION_TRANSITIONS`. -/
def acquisitionTransitions : DirectAcquisitionState → List DirectAcquisitionState
  | .discovered => [.planned, .intervention, .cancelled, .failed]
  | .planned => [.queued, .resolving, .cancelled, .failed]
  | .queued => [.resolving, .cancelled, .failed]
  | .resolving => [.queued, .downloading, .retryPending, .intervention, .cancelled, .failed]
  | .downloading =>
    [.queued, .paused, .validating, .retryPending, .intervention, .cancelled, .failed]
  | .paused => [.downloading, .cancelled, .failed]
  | .validating =>
    [.queued, .postProcessing, .retryPending, .intervention, .cancelled, .failed]
  | .postProcessing => [.completed, .intervention, .failed]
  | .retryPending => [.queued, .resolving, .cancelled, .failed]
  | .intervention => [.planned, .queued, .resolving, .postProcessing, .cancelled, .failed]
  | .completed => []
  | .cancelled => []
  | .failed => []

/-- `ARTIFACT_TRANSITIONS`. -/
def artifactTransitions : DirectArtifactState → List DirectArtifactState
  | .planned => [.resolving, .cancelled, .failed]
  | .resolving => [.transferring, .retryPending, .intervention, .cancelled, .failed]
  | .transferring =>
    [.paused, .validating, .retryPending, .intervention, .cancelled, .failed]
  | .paused => [.transferring, .cancelled, .failed]
  | .validating => [.completed, .intervention, .failed]
  | .retryPending => [.resolving, .cancelled, .failed]
  | .intervention => [.resolving, .validating, .cancelled, .failed]
  | .completed => []
  | .cancelled => []
  | .failed => []

/-- `_ACQUISITION_TERMINAL_STATES`. -/
def acquisitionTerminalStates : List DirectAcquisitionState :=
  [.completed, .cancelled, .failed]

/-- `_ARTIFACT_TERMINAL_STATES`. -/
def artifactTerminalStates : List DirectArtifactState :=
  [.completed, .cancelled, .failed]

/-- The stage label of a progress snapshot. -/
inductive ProgressStage where
  | planned | providerQueue | resolving | resolver | downloading | validating | postProcessing
  | completed | paused | cancelled | retryPending | intervention | failed | fallbackQueued
  | sourceSwitchQueued | retryRequested
deriving DecidableEq

/-- The part of a progress snapshot the coordinator itself decides. -/
structure ProgressSnapshot where
  stage : ProgressStage
  artifactAttemptId : Option Nat
deriving DecidableEq

/-- The persisted diagnostics of a resource-safety block. -/
structure SafetyReview where
  kind : String
  reason : String
  overrideable : Bool
  allowedOnce : Bool := false
deriving DecidableEq

/-- One route of the persisted plan. `none` stands for a missing or ill-typed value. -/
structure PlanRoute where
  artifactIdentity : Option String
  eligible : Bool
  eligibilityCode : String
  fallbackIdentity : Option String
  contentIdentity : Option String
  hostKind : Option DirectArtifactHostKind
  routeKind : Option DirectArtifactRouteKind
  expectedSize : Option Nat
deriving DecidableEq

/-- One entry of `route_failures`. -/
structure RouteFailure where
  artifactIdentity : String
  failureClass : DirectArtifactFailureClass
  failureCode : String
  hostKind : DirectArtifactHostKind
  sequenceNo : Nat
deriving DecidableEq

/-- One entry of `route_switches`. -/
structure RouteSwitch where
  fromArtifactIdentity : String
  fromHostKind : DirectArtifactHostKind
  toArtifactIdentity : String
  toHostKind : DirectArtifactHostKind
  blocklisted : Bool
  sequenceNo : Nat
deriving DecidableEq

/-- The redacted plan stored on the attempt. -/
structure PlanSnapshot where
  artifacts : Option (List PlanRoute)
  routeFailures : List RouteFailure := []
  routeSwitches : List RouteSwitch := []
  selectedArtifactIdentity : Option String := none
  safetyReview : Option SafetyReview := none
deriving DecidableEq

/-- Comic suffixes a finalized artifact can carry. -/
inductive ComicSuffix where
  | cbz | cbr | cb7 | pdf | cbt | epub
deriving DecidableEq

/-- The names inside one artifact's quarantine directory: `payload.part` and
`artifact-<id><suffix>`. A recorded quarantine path is always one of them. -/
inductive QuarantineEntry where
  | payloadPart
  | artifact (suffix : ComicSuffix)
deriving DecidableEq

/-- What a pass reads and writes of an acquisition's row. -/
structure DirectAcquisitionAttempt where
  id : Nat
  state : DirectAcquisitionState
  internalGenericHttps : Bool
  planSnapshot : PlanSnapshot
  planRevision : Nat
  progressSnapshot : ProgressSnapshot
  progressRevision : Nat
  retryCount : Nat
  maxRetries : Nat
  nextRetryAt : Option Instant
  failureClass : Option DirectArtifactFailureClass
  failureCode : Option String
  errorMessage : Option String
  startedAt : Option Instant
  completedAt : Option Instant
  cancelledAt : Option Instant
  libraryFileId : Option Nat

/-- What a pass reads and writes of an artifact's row. -/
structure DirectArtifactAttempt where
  id : Nat
  sequenceNo : Nat
  artifactIdentity : String
  routeKind : DirectArtifactRouteKind
  hostKind : DirectArtifactHostKind
  state : DirectArtifactState
  expectedSize : Option Nat
  bytesTransferred : Nat
  etag : Option String
  lastModifiedAt : Option Instant
  quarantinePath : Option QuarantineEntry
  retryCount : Nat
  maxRetries : Nat
  nextRetryAt : Option Instant
  failureClass : Option DirectArtifactFailureClass
  failureCode : Option String
  errorMessage : Option String
  completedAt : Option Instant

/-- Reset the failure fields of a row. -/
def DirectAcquisitionAttempt.clearFailure (attempt : DirectAcquisitionAttempt) :
    DirectAcquisitionAttempt :=
  { attempt with failureClass := none, failureCode := none, errorMessage := none }

/-- Reset the failure fields of a row. -/
def DirectArtifactAttempt.clearFailure (artifact : DirectArtifactAttempt) :
    DirectArtifactAttempt :=
  { artifact with failureClass := none, failureCode := none, errorMessage := none }

/-- Forget every byte and validator of the transfer. -/
def DirectArtifactAttempt.clearTransfer (artifact : DirectArtifactAttempt) :
    DirectArtifactAttempt :=
  { artifact with bytesTransferred := 0, etag := none, lastModifiedAt := none }

/-- A refused transition, with what its message is built from. -/
structure TransitionError where
  kind : String
  current : String
  newState : String
  allowed : List String
deriving DecidableEq

/-- The text of the `ValidationError` raised by `_validate_transition`. -/
def TransitionError.message (error : TransitionError) : String :=
  let sorted := error.allowed.mergeSort (fun first second => decide (first ≤ second))
  let allowedText := if sorted.isEmpty then "none" else ", ".intercalate sorted
  s!"Invalid direct {error.kind} transition from {error.current} to {error.newState}. " ++
    s!"Allowed: {allowedText}."

/-- The row update of an accepted acquisition transition. -/
def DirectAcquisitionAttempt.moved (attempt : DirectAcquisitionAttempt)
    (newState : DirectAcquisitionState) (timestamp : Instant) : DirectAcquisitionAttempt :=
  { attempt with
    state := newState
    startedAt :=
      if newState = .resolving ∧ attempt.startedAt = none then some timestamp
      else attempt.startedAt
    cancelledAt := if newState = .cancelled then some timestamp else attempt.cancelledAt
    completedAt :=
      if newState ∈ acquisitionTerminalStates then some timestamp else attempt.completedAt }

/-- The row update of an accepted artifact transition. -/
def DirectArtifactAttempt.moved (artifact : DirectArtifactAttempt)
    (newState : DirectArtifactState) (timestamp : Instant) : DirectArtifactAttempt :=
  { artifact with
    state := newState
    completedAt :=
      if newState ∈ artifactTerminalStates then some timestamp else artifact.completedAt }

/-- `transition_acquisition`: requesting the current state is accepted and changes nothing. -/
def transitionAcquisition (attempt : DirectAcquisitionAttempt)
    (newState : DirectAcquisitionState) (timestamp : Instant) :
    Except TransitionError DirectAcquisitionAttempt :=
  if attempt.state = newState then
    .ok attempt
  else if newState ∈ acquisitionTransitions attempt.state then
    .ok (attempt.moved newState timestamp)
  else
    .error ⟨"acquisition", attempt.state.value, newState.value,
      (acquisitionTransitions attempt.state).map (·.value)⟩

/-- `transition_artifact`: requesting the current state is accepted and changes nothing. -/
def transitionArtifact (artifact : DirectArtifactAttempt)
    (newState : DirectArtifactState) (timestamp : Instant) :
    Except TransitionError DirectArtifactAttempt :=
  if artifact.state = newState then
    .ok artifact
  else if newState ∈ artifactTransitions artifact.state then
    .ok (artifact.moved newState timestamp)
  else
    .error ⟨"artifact", artifact.state.value, newState.value,
      (artifactTransitions artifact.state).map (·.value)⟩

/-- The requests `transition_acquisition` accepts. -/
def DirectAcquisitionState.Accepts (current newState : DirectAcquisitionState) : Prop :=
  current = newState ∨ newState ∈ acquisitionTransitions current

instance (current newState : DirectAcquisitionState) : Decidable (current.Accepts newState) :=
  inferInstanceAs (Decidable (_ ∨ _))

/-- The requests `transition_artifact` accepts. -/
def DirectArtifactState.Accepts (current newState : DirectArtifactState) : Prop :=
  current = newState ∨ newState ∈ artifactTransitions current

instance (current newState : DirectArtifactState) : Decidable (current.Accepts newState) :=
  inferInstanceAs (Decidable (_ ∨ _))

/-- The attempt after an accepted request. -/
def DirectAcquisitionAttempt.entered (attempt : DirectAcquisitionAttempt)
    (newState : DirectAcquisitionState) (timestamp : Instant) : DirectAcquisitionAttempt :=
  if attempt.state = newState then attempt else attempt.moved newState timestamp

/-- The artifact after an accepted request. -/
def DirectArtifactAttempt.entered (artifact : DirectArtifactAttempt)
    (newState : DirectArtifactState) (timestamp : Instant) : DirectArtifactAttempt :=
  if artifact.state = newState then artifact else artifact.moved newState timestamp

theorem transitionAcquisition_accepted {attempt : DirectAcquisitionAttempt}
    {newState : DirectAcquisitionState} (timestamp : Instant)
    (accepts : attempt.state.Accepts newState) :
    transitionAcquisition attempt newState timestamp =
      .ok (attempt.entered newState timestamp) := by
  unfold transitionAcquisition DirectAcquisitionAttempt.entered
  split
  · rfl
  · rename_i different
    rw [if_pos (accepts.resolve_left different)]

theorem transitionArtifact_accepted {artifact : DirectArtifactAttempt}
    {newState : DirectArtifactState} (timestamp : Instant)
    (accepts : artifact.state.Accepts newState) :
    transitionArtifact artifact newState timestamp =
      .ok (artifact.entered newState timestamp) := by
  unfold transitionArtifact DirectArtifactAttempt.entered
  split
  · rfl
  · rename_i different
    rw [if_pos (accepts.resolve_left different)]

/-- A request outside the table is refused with the current state and its alternatives. -/
theorem transitionAcquisition_refused {attempt : DirectAcquisitionAttempt}
    {newState : DirectAcquisitionState} (timestamp : Instant)
    (refuses : ¬ attempt.state.Accepts newState) :
    transitionAcquisition attempt newState timestamp =
      .error ⟨"acquisition", attempt.state.value, newState.value,
        (acquisitionTransitions attempt.state).map (·.value)⟩ := by
  obtain ⟨different, missing⟩ := not_or.1 refuses
  simp [transitionAcquisition, different, missing]

/-- A request outside the table is refused with the current state and its alternatives. -/
theorem transitionArtifact_refused {artifact : DirectArtifactAttempt}
    {newState : DirectArtifactState} (timestamp : Instant)
    (refuses : ¬ artifact.state.Accepts newState) :
    transitionArtifact artifact newState timestamp =
      .error ⟨"artifact", artifact.state.value, newState.value,
        (artifactTransitions artifact.state).map (·.value)⟩ := by
  obtain ⟨different, missing⟩ := not_or.1 refuses
  simp [transitionArtifact, different, missing]

section

variable (attempt : DirectAcquisitionAttempt) (newState : DirectAcquisitionState)
  (artifact : DirectArtifactAttempt) (newArtifactState : DirectArtifactState)
  (timestamp : Instant)

@[simp] theorem DirectAcquisitionAttempt.entered_state :
    (attempt.entered newState timestamp).state = newState := by
  unfold entered
  split <;> simp_all [moved]

@[simp] theorem DirectAcquisitionAttempt.entered_failureClass :
    (attempt.entered newState timestamp).failureClass = attempt.failureClass := by
  unfold entered
  split <;> simp [moved]

@[simp] theorem DirectAcquisitionAttempt.entered_cancelledAt
    (running : attempt.state ≠ .cancelled) :
    (attempt.entered .cancelled timestamp).cancelledAt = some timestamp := by
  simp [entered, moved, running]

@[simp] theorem DirectAcquisitionAttempt.entered_retryCount :
    (attempt.entered newState timestamp).retryCount = attempt.retryCount := by
  unfold entered
  split <;> simp [moved]

@[simp] theorem DirectAcquisitionAttempt.entered_maxRetries :
    (attempt.entered newState timestamp).maxRetries = attempt.maxRetries := by
  unfold entered
  split <;> simp [moved]

@[simp] theorem DirectArtifactAttempt.entered_retryCount :
    (artifact.entered newArtifactState timestamp).retryCount = artifact.retryCount := by
  unfold entered
  split <;> simp [moved]

@[simp] theorem DirectArtifactAttempt.entered_maxRetries :
    (artifact.entered newArtifactState timestamp).maxRetries = artifact.maxRetries := by
  unfold entered
  split <;> simp [moved]

@[simp] theorem DirectArtifactAttempt.entered_failureClass :
    (artifact.entered newArtifactState timestamp).failureClass = artifact.failureClass := by
  unfold entered
  split <;> simp [moved]

@[simp] theorem DirectArtifactAttempt.entered_state :
    (artifact.entered newArtifactState timestamp).state = newArtifactState := by
  unfold entered
  split <;> simp_all [moved]

@[simp] theorem DirectArtifactAttempt.entered_id :
    (artifact.entered newArtifactState timestamp).id = artifact.id := by
  unfold entered
  split <;> simp [moved]

@[simp] theorem DirectArtifactAttempt.entered_quarantinePath :
    (artifact.entered newArtifactState timestamp).quarantinePath = artifact.quarantinePath := by
  unfold entered
  split <;> simp [moved]

end

/-- The one way the coordinator advances progress: to the next revision. -/
def DirectAcquisitionAttempt.progressed (attempt : DirectAcquisitionAttempt)
    (stage : ProgressStage) (artifactId : Option Nat) : DirectAcquisitionAttempt :=
  { attempt with
    progressRevision := attempt.progressRevision + 1
    progressSnapshot := ⟨stage, artifactId⟩ }

/-- `record_acquisition_plan` at the next plan revision. -/
def DirectAcquisitionAttempt.planned (attempt : DirectAcquisitionAttempt)
    (snapshot : PlanSnapshot) : DirectAcquisitionAttempt :=
  { attempt with planRevision := attempt.planRevision + 1, planSnapshot := snapshot }

/-- The explicit retry applies to rows that are both failed or cancelled. -/
def CanReopen (attempt : DirectAcquisitionAttempt) (artifact : DirectArtifactAttempt) : Prop :=
  (attempt.state = .failed ∨ attempt.state = .cancelled) ∧
    (artifact.state = .failed ∨ artifact.state = .cancelled)

instance (attempt : DirectAcquisitionAttempt) (artifact : DirectArtifactAttempt) :
    Decidable (CanReopen attempt artifact) :=
  inferInstanceAs (Decidable (_ ∧ _))

/-- `reopen_terminal_acquisition_for_retry`; `none` is its `ValidationError`. -/
def reopenTerminalAcquisitionForRetry (attempt : DirectAcquisitionAttempt)
    (artifact : DirectArtifactAttempt) :
    Option (DirectAcquisitionAttempt × DirectArtifactAttempt) :=
  if CanReopen attempt artifact then
    some
      ({ attempt.progressed .retryRequested (some artifact.id) with
          state := .retryPending
          retryCount := 0
          nextRetryAt := none
          completedAt := none
          cancelledAt := none },
        { artifact with
          state := .retryPending
          retryCount := 0
          nextRetryAt := none
          completedAt := none })
  else
    none

/-- The artifact state a running acquisition state goes with. -/
def DirectAcquisitionState.artifactState : DirectAcquisitionState → Option DirectArtifactState
  | .planned => some .planned
  | .queued => some .planned
  | .resolving => some .resolving
  | .downloading => some .transferring
  | .paused => some .paused
  | .validating => some .validating
  | .postProcessing => some .validating
  | .retryPending => some .retryPending
  | .intervention => some .intervention
  | .discovered | .completed | .cancelled | .failed => none

/-- The joint invariant of the two rows. -/
def Coherent (acquisition : DirectAcquisitionState) (artifact : DirectArtifactState) : Prop :=
  acquisition ∈ acquisitionTerminalStates ∨ acquisition.artifactState = some artifact

instance (acquisition : DirectAcquisitionState) (artifact : DirectArtifactState) :
    Decidable (Coherent acquisition artifact) :=
  inferInstanceAs (Decidable (_ ∨ _))

/-- An acquisition that is neither completed, cancelled nor failed. -/
def DirectAcquisitionState.Running (state : DirectAcquisitionState) : Prop :=
  state ∉ acquisitionTerminalStates

instance (state : DirectAcquisitionState) : Decidable state.Running :=
  inferInstanceAs (Decidable (¬ _))

theorem DirectAcquisitionState.Running.ne_completed {state : DirectAcquisitionState}
    (running : state.Running) : state ≠ .completed := by
  rintro rfl
  exact running (by decide)

variable {acquisition : DirectAcquisitionState} {artifact : DirectArtifactState}

/-- A running pair can always be recorded as failed. -/
theorem Coherent.accepts_failed (coherent : Coherent acquisition artifact)
    (running : acquisition.Running) :
    acquisition.Accepts .failed ∧ artifact.Accepts .failed := by
  revert coherent running
  cases acquisition <;> cases artifact <;> decide

/-- A running pair can be cancelled exactly until its payload is being validated. -/
theorem Coherent.accepts_cancelled_iff (coherent : Coherent acquisition artifact)
    (running : acquisition.Running) :
    (acquisition.Accepts .cancelled ∧ artifact.Accepts .cancelled) ↔
      acquisition ≠ .validating ∧ acquisition ≠ .postProcessing := by
  revert coherent running
  cases acquisition <;> cases artifact <;> decide

/-- Rows past the download, or reviewed, can be handed to the user, except while a retry
is pending. -/
theorem Coherent.accepts_intervention (coherent : Coherent acquisition artifact)
    (active : acquisition = .resolving ∨ acquisition = .downloading ∨
      acquisition = .validating ∨ acquisition = .postProcessing ∨ acquisition = .intervention) :
    acquisition.Accepts .intervention ∧ artifact.Accepts .intervention := by
  revert coherent active
  cases acquisition <;> cases artifact <;> decide

end Pullbox.Direct
