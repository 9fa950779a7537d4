import Pullbox.Direct.Executor

/-!
# What one pass of the coordinator keeps

The joint states stay coherent, only rows past the download carry a final path, and
(where the pass is `careful`) a final file in a workspace is always the one its row
records, whether the artifact is selected or was retired. Each function of the coordinator
has one specification over these facts; the claims about legality, cancellation and
restarts read them off. Nothing is assumed of workspaces of other acquisitions.
-/

namespace Pullbox.Direct

open Durable Program Exec

/-- The part of the rows the invariants speak about. -/
structure RowsView where
  acquisition : DirectAcquisitionState
  artifact : DirectArtifactState
  path : Option QuarantineEntry
  artifactId : Nat
  nextArtifactId : Nat
  /-- The other artifacts, each with its recorded path. -/
  retired : List (Nat × Option QuarantineEntry)
  budget : RetryBudget

def Rows.view (rows : Rows) : RowsView :=
  ⟨rows.attempt.state, rows.artifact.state, rows.artifact.quarantinePath, rows.artifact.id,
    rows.nextArtifactId,
    rows.retired.map fun artifact => (artifact.id, artifact.quarantinePath), rows.retryBudget⟩

/-- The identifiers of all artifacts, the selected one first. -/
def RowsView.ids (view : RowsView) : List Nat :=
  view.artifactId :: view.retired.map Prod.fst

@[simp] theorem Rows.view_acquisition (rows : Rows) :
    rows.view.acquisition = rows.attempt.state := rfl

@[simp] theorem Rows.view_artifact (rows : Rows) : rows.view.artifact = rows.artifact.state := rfl

@[simp] theorem Rows.view_path (rows : Rows) :
    rows.view.path = rows.artifact.quarantinePath := rfl

@[simp] theorem Rows.view_artifactId (rows : Rows) : rows.view.artifactId = rows.artifact.id := rfl

@[simp] theorem Rows.view_entered (rows : Rows) (acquisition : DirectAcquisitionState)
    (artifact : DirectArtifactState) (timestamp : Instant) :
    (rows.entered acquisition artifact timestamp).view =
      { rows.view with acquisition := acquisition, artifact := artifact } := by
  simp [Rows.view, Rows.entered, Rows.retryBudget]

/-- States a recorded path of which is never a final file. -/
def unfinalizedStates : List DirectAcquisitionState :=
  [.planned, .queued, .paused, .downloading]

/-- States that legitimately hold a recorded final file. -/
def finalizedStates : List DirectAcquisitionState :=
  [.validating, .postProcessing, .intervention, .cancelled, .failed]

/-- The rows agree with one another and with what is on the disk. -/
structure Sound (view : RowsView) : Prop where
  coherent : Coherent view.acquisition view.artifact
  unfinalized : view.acquisition ∈ unfinalizedStates →
    ∀ suffix, view.path ≠ some (.artifact suffix)
  numbered : ∀ id ∈ view.ids, id < view.nextArtifactId
  distinct : view.ids.Nodup

/-- Every final file of the selected workspace is the recorded one. -/
def Claimed (view : RowsView) (workspaces : Workspaces) : Prop :=
  ∀ suffix, (workspaces.file view.artifactId (.artifact suffix)).isSome →
    view.path = some (.artifact suffix)

/-- Every final file of a retired artifact is the one its row records, and an artifact that
is still to come finds none. -/
structure Others (view : RowsView) (workspaces : Workspaces) : Prop where
  retired : ∀ row ∈ view.retired, ∀ suffix,
    (workspaces.file row.1 (.artifact suffix)).isSome → row.2 = some (.artifact suffix)
  fresh : ∀ id, view.nextArtifactId ≤ id → ¬ workspaces.HasFinal id

/-- Every final file is recorded by the row of its artifact, unless the acquisition is
completed. -/
structure Recorded (view : RowsView) (workspaces : Workspaces) : Prop where
  selected : ∀ suffix, (workspaces.file view.artifactId (.artifact suffix)).isSome →
    view.acquisition = .completed ∨
      (view.acquisition ∈ finalizedStates ∧ view.path = some (.artifact suffix))
  others : Others view workspaces

/-- Only the retired rows and the next identifier matter to the other artifacts. -/
theorem Others.of_eq {view other : RowsView} {workspaces : Workspaces}
    (others : Others view workspaces) (retired : other.retired = view.retired)
    (next : other.nextArtifactId = view.nextArtifactId) : Others other workspaces where
  retired row listed := others.retired row (retired ▸ listed)
  fresh id unused := others.fresh id (next ▸ unused)

variable {view : RowsView} {acquisition : DirectAcquisitionState} {artifact : DirectArtifactState}

/-- A quarantine without new final files keeps what the other artifacts record. -/
theorem Others.workspaces {workspaces changed : Workspaces}
    (others : Others view workspaces) (kept : workspaces.AddsNoFinal changed) :
    Others view changed where
  retired row listed suffix present := others.retired row listed suffix (kept _ _ present)
  fresh id unused := fun ⟨suffix, present⟩ => others.fresh id unused ⟨suffix, kept _ _ present⟩

/-- A quarantine without new final files keeps them recorded. -/
theorem Recorded.workspaces {workspaces changed : Workspaces}
    (recorded : Recorded view workspaces) (kept : workspaces.AddsNoFinal changed) :
    Recorded view changed where
  selected suffix present := recorded.selected suffix (kept _ _ present)
  others := recorded.others.workspaces kept

theorem Recorded.claimed {workspaces : Workspaces}
    (recorded : Recorded view workspaces) (running : view.acquisition ≠ .completed) :
    Claimed view workspaces :=
  fun suffix present => ((recorded.selected suffix present).resolve_left running).2

/-- A running acquisition determines the state of its artifact. -/
theorem Sound.artifact_eq (sound : Sound view) (state : view.acquisition = acquisition)
    (paired : acquisition.artifactState = some artifact) : view.artifact = artifact := by
  have running : acquisition ∉ acquisitionTerminalStates := by
    intro terminal
    cases acquisition <;>
      simp [acquisitionTerminalStates, DirectAcquisitionState.artifactState] at terminal paired
  have coherent := sound.coherent
  rw [state] at coherent
  simpa [paired, eq_comm] using coherent.resolve_left running

/-- Moving both rows to a matching pair keeps the rows sound, unless the new state denies
a final path the old one may have. -/
theorem Sound.moved (sound : Sound view)
    (acquisition : DirectAcquisitionState) (artifact : DirectArtifactState)
    (coherent : Coherent acquisition artifact)
    (path : acquisition ∈ unfinalizedStates → view.acquisition ∈ unfinalizedStates) :
    Sound { view with acquisition := acquisition, artifact := artifact } where
  coherent := coherent
  unfinalized listed := sound.unfinalized (path listed)
  numbered := sound.numbered
  distinct := sound.distinct

/-- The retry budget plays no part in soundness. -/
theorem Sound.budget (sound : Sound view) (budget : RetryBudget) :
    Sound { view with budget := budget } :=
  ⟨sound.coherent, sound.unfinalized, sound.numbered, sound.distinct⟩

/-- Forgetting the recorded path keeps the rows sound. -/
theorem Sound.pathless (sound : Sound view) :
    Sound { view with path := none } :=
  ⟨sound.coherent, fun _ _ => nofun, sound.numbered, sound.distinct⟩

/-- What the committed rows and the quarantine satisfy between two durable steps. -/
structure StoreSound (careful : Prop) (store : Store) : Prop where
  sound : Sound store.rows.view
  recorded : careful → Recorded store.rows.view store.workspaces

/-- A frame while the source is resolved and downloaded: no final file is in the way. -/
structure Fetching (careful : Prop) (start : Store) (frame : Frame Rows Store) : Prop where
  memory : Sound frame.memory.view
  durable : Sound frame.durable.rows.view
  same : frame.durable.rows.artifact.id = frame.memory.artifact.id
  budget : frame.memory.retryBudget = start.rows.retryBudget
  running : frame.memory.attempt.state.Running
  alive : frame.durable.rows.attempt.state.Running
  clear : careful → ∀ suffix,
    frame.durable.workspaces.file frame.memory.artifact.id (.artifact suffix) = none
  others : careful → Others frame.memory.view frame.durable.workspaces
  stored : careful → Others frame.durable.rows.view frame.durable.workspaces

/-- The row records a final file that is not there. -/
def Store.MissingFinal (store : Store) : Prop :=
  ∃ suffix, store.rows.artifact.quarantinePath = some (.artifact suffix) ∧
    store.workspaces.file store.rows.artifact.id (.artifact suffix) = none

/-- What a failure of the body says about the session's rows at that moment, against the
store the pass started from. -/
def Raised (inputs : ExecutionInputs) (start : Store) (view : RowsView) : Failure → Prop
  | .paused _ => view.acquisition = .downloading
  | .planning _ => view.acquisition = .resolving ∨ view.acquisition = .downloading
  | .cancelled => view.acquisition.Running ∧
      ((inputs.cancelRequested = true ∧ view.acquisition = start.rows.attempt.state) ∨
        view.acquisition ≠ .validating ∧ view.acquisition ≠ .postProcessing)
  | .classified error =>
    view.acquisition = .resolving ∨ view.acquisition = .downloading ∨
      (view.acquisition.Running ∧ view.acquisition ∉ unfinalizedStates ∧
        (view.acquisition = .retryPending →
          start.rows.attempt.state = .retryPending ∧ start.MissingFinal) ∧
        error = missingQuarantineError.classified) ∨
      (view.acquisition = .validating ∧ view.budget = start.rows.retryBudget ∧
        ∃ checks rejection, inputs.validation = .checked checks ∧
          validateDirectArtifact checks = .error rejection ∧ error = rejection.classified)
  | .interrupted | .unexpected => True
  | .invalidTransition _ | .notRunnable _ => False

variable {careful : Prop} {start : Store} {frame : Frame Rows Store} {inputs : ExecutionInputs}
  {raises : Failure → Frame Rows Store → Prop} {crashes : DurableStep → Store → Prop}
  {checkpoint : Checkpoint} {stage : ProgressStage} {signal : Signal}

theorem Recorded.of_clear {workspaces : Workspaces}
    (clear : ∀ suffix, workspaces.file view.artifactId (.artifact suffix) = none)
    (others : Others view workspaces) : Recorded view workspaces where
  selected suffix present := by simp [clear suffix] at present
  others := others

theorem Fetching.store (fetching : Fetching careful start frame) :
    StoreSound careful frame.durable where
  sound := fetching.durable
  recorded holds := .of_clear (fun suffix => by
    simpa [Rows.view, fetching.same] using fetching.clear holds suffix) (fetching.stored holds)

/-- Changing the session's rows keeps a frame that is still sound. -/
theorem Fetching.remember (fetching : Fetching careful start frame) {rows : Rows}
    (sound : Sound rows.view)
    (same : rows.artifact.id = frame.memory.artifact.id)
    (retired : rows.view.retired = frame.memory.view.retired)
    (next : rows.nextArtifactId = frame.memory.nextArtifactId)
    (budget : rows.retryBudget = frame.memory.retryBudget)
    (running : rows.attempt.state.Running) :
    Fetching careful start { frame with memory := rows } where
  memory := sound
  durable := fetching.durable
  same := fetching.same.trans same.symm
  budget := budget.trans fetching.budget
  running := running
  alive := fetching.alive
  clear holds suffix := same ▸ fetching.clear holds suffix
  others holds := (fetching.others holds).of_eq retired next
  stored := fetching.stored

/-- Committing the session's rows keeps the frame. -/
theorem Fetching.commit (fetching : Fetching careful start frame) :
    Fetching careful start
      { frame with durable := { frame.durable with rows := frame.memory } } where
  memory := fetching.memory
  durable := fetching.memory
  same := rfl
  budget := fetching.budget
  running := fetching.running
  alive := fetching.running
  clear := fetching.clear
  others := fetching.others
  stored := fetching.others

/-- Changing the quarantine without adding a final file keeps the frame. -/
theorem Fetching.partialChanged (fetching : Fetching careful start frame)
    (content : Option Content) :
    Fetching careful start
      { frame with
        durable := { frame.durable with
          workspaces :=
            frame.durable.workspaces.put frame.memory.artifact.id .payloadPart content } } where
  memory := fetching.memory
  durable := fetching.durable
  same := fetching.same
  budget := fetching.budget
  running := fetching.running
  alive := fetching.alive
  clear holds suffix := by
    simpa [Workspaces.file_put] using fetching.clear holds suffix
  others holds :=
    (fetching.others holds).workspaces (Workspaces.addsNoFinal_put _ _ _ _ (.inl rfl))
  stored holds :=
    (fetching.stored holds).workspaces (Workspaces.addsNoFinal_put _ _ _ _ (.inl rfl))

/-- A failure while fetching. -/
def FetchingFailed (careful : Prop) (inputs : ExecutionInputs) (start : Store)
    (failure : Failure) (after : Frame Rows Store) : Prop :=
  Fetching careful start after ∧ Raised inputs start after.memory.view failure

theorem write_fetching (fetching : Fetching careful start frame) :
    wp (Exec.write signal checkpoint stage)
      (fun _ after => Fetching careful start after ∧ after.memory.view = frame.memory.view)
      (FetchingFailed careful inputs start) (fun _ => StoreSound careful) frame := by
  have moved : Fetching careful start { frame with memory := Exec.progressed frame.memory stage } :=
    fetching.remember fetching.memory rfl rfl rfl rfl fetching.running
  rw [wp_write]
  refine ⟨fun _ => ⟨moved.commit.store, moved.commit, rfl⟩, fun _ => ?_, fun _ => ?_⟩
  · exact ⟨moved, trivial⟩
  · exact ⟨moved, trivial⟩

theorem Fetching.entered (fetching : Fetching careful start frame)
    (acquisition : DirectAcquisitionState) (artifact : DirectArtifactState) (now : Instant)
    (running : acquisition.Running) (coherent : Coherent acquisition artifact)
    (path : acquisition ∈ unfinalizedStates →
      frame.memory.view.acquisition ∈ unfinalizedStates) :
    Fetching careful start { frame with memory := frame.memory.entered acquisition artifact now } :=
  fetching.remember
    (by simpa using fetching.memory.moved acquisition artifact coherent path)
    (by simp [Rows.entered]) rfl rfl (by simp [Rows.entered, Rows.retryBudget])
    (by simpa [Rows.entered] using running)

/-- A frame between entering resolution and finalizing. -/
def Active (careful : Prop) (start : Store) (frame : Frame Rows Store) : Prop :=
  Fetching careful start frame ∧
    (frame.memory.attempt.state = .resolving ∨ frame.memory.attempt.state = .downloading)

/-- A frame whose row is downloading into the partial file. -/
def Downloading (careful : Prop) (start : Store) (frame : Frame Rows Store) : Prop :=
  Fetching careful start frame ∧ frame.memory.attempt.state = .downloading

theorem Active.classified (active : Active careful start frame) (error : ClassifiedError) :
    FetchingFailed careful inputs start (.classified error) frame := by
  refine ⟨active.1, ?_⟩
  rcases active.2 with state | state
  · exact .inl state
  · exact .inr (.inl state)

theorem Active.cancelled (active : Active careful start frame) :
    Raised inputs start frame.memory.view .cancelled := by
  rcases active.2 with state | state <;>
    simp [Raised, state, DirectAcquisitionState.Running, acquisitionTerminalStates]

theorem write_active (active : Active careful start frame) :
    wp (Exec.write signal checkpoint stage) (fun _ => Active careful start)
      (FetchingFailed careful inputs start) (fun _ => StoreSound careful) frame := by
  refine wp_weaken (write_fetching active.1) ?_
  intro _ after ⟨saved, same⟩
  have state : after.memory.attempt.state = frame.memory.attempt.state :=
    congrArg RowsView.acquisition same
  exact ⟨saved, state ▸ active.2⟩

/-- Two accepted transitions in a row, acquisition first. -/
theorem wp_enterBoth
    {returns : PUnit → Frame Rows Store → Prop}
    (acquisitionAccepts : frame.memory.attempt.state.Accepts acquisition)
    (artifactAccepts : frame.memory.artifact.state.Accepts artifact)
    (holds : returns ⟨⟩
      { frame with memory := frame.memory.entered acquisition artifact inputs.now }) :
    wp (do
      Exec.transitionAcquisition inputs acquisition
      Exec.transitionArtifact inputs artifact) returns raises crashes frame := by
  simpa [acquisitionAccepts, artifactAccepts, Rows.entered] using holds

/-- Two accepted transitions in a row, followed by the rest. -/
theorem wp_enterBothThen {α : Type} {rest : Exec α} {returns : α → Frame Rows Store → Prop}
    (acquisitionAccepts : frame.memory.attempt.state.Accepts acquisition)
    (artifactAccepts : frame.memory.artifact.state.Accepts artifact)
    (holds : wp rest returns raises crashes
      { frame with memory := frame.memory.entered acquisition artifact inputs.now }) :
    wp (Exec.transitionAcquisition inputs acquisition >>= fun _ =>
      Exec.transitionArtifact inputs artifact >>= fun _ => rest)
      returns raises crashes frame := by
  rw [wp_bind, wp_transitionAcquisition]
  refine ⟨fun _ => ?_, fun refuses => absurd acquisitionAccepts refuses⟩
  rw [wp_bind, wp_transitionArtifact]
  exact ⟨fun _ => holds, fun refuses => absurd artifactAccepts refuses⟩

theorem resumeStates_fetching (fetching : Fetching careful start frame)
    (running : frame.memory.attempt.state.Running)
    (notValidating : frame.memory.attempt.state ≠ .validating)
    (notPostProcessing : frame.memory.attempt.state ≠ .postProcessing) :
    wp (resumeStates inputs) (fun _ => Active careful start)
      (FetchingFailed careful inputs start) (fun _ => StoreSound careful) frame := by
  have resolving := fetching.entered .resolving .resolving inputs.now (by decide) (by decide) (by simp [unfinalizedStates])
  have paired {state : DirectAcquisitionState} {artifact : DirectArtifactState}
      (current : frame.memory.attempt.state = state)
      (pair : state.artifactState = some artifact) : frame.memory.artifact.state = artifact :=
    fetching.memory.artifact_eq current pair
  simp only [resumeStates, wp_bind, wp_rows]
  cases state : frame.memory.attempt.state
  case discovered => simpa [Coherent, state, acquisitionTerminalStates,
    DirectAcquisitionState.artifactState] using fetching.memory.coherent
  case validating => exact absurd state notValidating
  case postProcessing => exact absurd state notPostProcessing
  case completed | cancelled | failed =>
    exact absurd running (by simp [state, DirectAcquisitionState.Running,
      acquisitionTerminalStates])
  case resolving =>
    have active : Active careful start frame := ⟨fetching, .inl state⟩
    simpa [paired state rfl] using active
  case downloading =>
    have active : Active careful start frame := ⟨fetching, .inr state⟩
    simpa [paired state rfl] using active
  case paused =>
    rw [if_pos rfl]
    refine wp_enterBoth (by rw [state]; decide) (by rw [paired state rfl]; decide) ?_
    exact ⟨fetching.entered _ _ inputs.now (by decide) (by decide)
      (by simp [state, unfinalizedStates]), .inr (by simp [Rows.entered])⟩
  all_goals
    simp only [reduceCtorEq, if_false]
    refine wp_enterBoth (by rw [state]; decide) (by rw [paired state rfl]; decide) ?_
    exact ⟨resolving, .inl (by simp [Rows.entered])⟩

theorem enterResolving_fetching (fetching : Fetching careful start frame)
    (running : frame.memory.attempt.state.Running)
    (notValidating : frame.memory.attempt.state ≠ .validating)
    (notPostProcessing : frame.memory.attempt.state ≠ .postProcessing) :
    wp (enterResolving inputs)
      (fun _ => Active careful start)
      (FetchingFailed careful inputs start) (fun _ => StoreSound careful) frame := by
  refine wp_bind_of _
    (resumeStates_fetching fetching running notValidating notPostProcessing) ?_
  intro _ resumed active
  simp only [wp_bind, wp_modifyAttempt, wp_modifyArtifact]
  exact write_active ⟨active.1.remember active.1.memory rfl rfl rfl rfl active.1.running, active.2⟩

theorem awaitSource_active (active : Active careful start frame) :
    wp (awaitSource inputs) (fun _ => Active careful start)
      (FetchingFailed careful inputs start) (fun _ => StoreSound careful) frame := by
  unfold awaitSource
  cases inputs.source with
  | request request => simpa using active
  | planning error => simpa using ⟨active.1, active.2⟩
  | cancelled => simpa using ⟨active.1, active.cancelled⟩
  | unexpected => simpa using ⟨active.1, trivial⟩
  | interrupted => simpa using ⟨active.1, trivial⟩

theorem validateSourceRequest_active (request : HostResolutionRequest)
    (active : Active careful start frame) :
    wp (validateSourceRequest request) (fun _ => Active careful start)
      (FetchingFailed careful inputs start) (fun _ => StoreSound careful) frame := by
  simp only [validateSourceRequest, wp_bind, wp_rows]
  split
  · simpa using active.classified _
  · simpa using active

theorem loadHostCredentials_active (active : Active careful start frame) :
    wp (loadHostCredentials inputs) (fun _ => Active careful start)
      (FetchingFailed careful inputs start) (fun _ => StoreSound careful) frame := by
  have committed : Active careful start
      { frame with durable := { frame.durable with rows := frame.memory } } :=
    ⟨active.1.commit, active.2⟩
  simp only [loadHostCredentials, wp_bind, wp_rows, wp_await]
  refine ⟨fun _ => ?_, fun _ => ⟨active.1, trivial⟩, fun _ => ⟨active.1, trivial⟩⟩
  cases inputs.hostConfig with
  | none => simpa using ⟨committed.1.store, committed⟩
  | some config =>
    dsimp only
    split
    · simpa using active.classified _
    · simpa using ⟨committed.1.store, committed⟩

theorem resolveHost_active (active : Active careful start frame) :
    wp (resolveHost inputs) (fun _ => Active careful start)
      (FetchingFailed careful inputs start) (fun _ => StoreSound careful) frame := by
  refine wp_bind_of _
    (wp_each (Active careful start) _ (fun saved _ start kept => write_active kept) _ active) ?_
  intro _ after active
  cases inputs.resolution with
  | resolved resolved => simpa using active
  | refused error => simpa using active.classified error
  | cancelled => simpa using ⟨active.1, active.cancelled⟩
  | unexpected => simpa using ⟨active.1, trivial⟩
  | interrupted => simpa using ⟨active.1, trivial⟩

/-- The download states are reached from either active state, nothing else moves. -/
theorem wp_downloadingStates (active : Active careful start frame)
    {returns : PUnit → Frame Rows Store → Prop}
    (holds : returns ⟨⟩
      { frame with memory := frame.memory.entered .downloading .transferring inputs.now }) :
    wp (downloadingStates inputs) returns raises crashes frame := by
  obtain ⟨fetching, state⟩ := active
  simp only [downloadingStates, wp_bind, wp_rows]
  rcases state with state | state
  · have artifact : frame.memory.artifact.state = .resolving :=
      fetching.memory.artifact_eq state rfl
    simp only [state, artifact, if_true]
    exact wp_enterBoth (by rw [state]; decide) (by rw [artifact]; decide) holds
  · have artifact : frame.memory.artifact.state = .transferring :=
      fetching.memory.artifact_eq state rfl
    simpa [state, artifact, Rows.entered, DirectAcquisitionAttempt.entered,
      DirectArtifactAttempt.entered] using holds

theorem write_downloading (downloading : Downloading careful start frame) :
    wp (Exec.write signal checkpoint stage) (fun _ => Downloading careful start)
      (FetchingFailed careful inputs start) (fun _ => StoreSound careful) frame := by
  refine wp_weaken (write_fetching downloading.1) ?_
  intro _ after ⟨saved, same⟩
  exact ⟨saved, (congrArg RowsView.acquisition same).trans downloading.2⟩

theorem enterDownloading_downloading (resolved : ResolvedTransfer)
    (active : Active careful start frame) :
    wp (enterDownloading inputs resolved) (fun _ => Downloading careful start)
      (FetchingFailed careful inputs start) (fun _ => StoreSound careful) frame := by
  refine wp_bind.2 (wp_downloadingStates active ?_)
  simp only [wp_bind, wp_modifyArtifact]
  apply write_downloading
  refine ⟨active.1.remember ?_ (by simp [Rows.entered, DirectArtifactAttempt.enterDownloading])
    rfl rfl
    (by simp [Rows.entered, Rows.retryBudget, DirectArtifactAttempt.enterDownloading])
    (by simp only [Rows.entered, DirectAcquisitionAttempt.entered_state]; decide),
    by simp [Rows.entered]⟩
  exact
    { coherent := by
        simpa [Rows.view, Rows.entered, DirectArtifactAttempt.enterDownloading] using
          (by decide : Coherent .downloading .transferring)
      unfinalized := by simp [Rows.view, DirectArtifactAttempt.enterDownloading]
      numbered := by
        simpa [Rows.view, RowsView.ids, Rows.entered, DirectArtifactAttempt.enterDownloading]
          using active.1.memory.numbered
      distinct := by
        simpa [Rows.view, RowsView.ids, Rows.entered, DirectArtifactAttempt.enterDownloading]
          using active.1.memory.distinct }

/-- Row changes away from the view keep a downloading frame. -/
theorem Downloading.rows (downloading : Downloading careful start frame) {rows : Rows}
    (same : rows.view = frame.memory.view) :
    Downloading careful start { frame with memory := rows } :=
  ⟨downloading.1.remember (same ▸ downloading.1.memory) (congrArg RowsView.artifactId same)
      (congrArg RowsView.retired same) (congrArg RowsView.nextArtifactId same) (congrArg RowsView.budget same)
      ((congrArg (·.acquisition.Running) same).mpr downloading.1.running),
    (congrArg RowsView.acquisition same).trans downloading.2⟩

theorem transferEvent_downloading (event : TransferEvent)
    (downloading : Downloading careful start frame) :
    wp (transferEvent event) (fun _ => Downloading careful start)
      (FetchingFailed careful inputs start) (fun _ => StoreSound careful) frame := by
  cases event with
  | partialFile content =>
    have changed := downloading.1.partialChanged content
    simpa [transferEvent] using ⟨changed.store, changed, downloading.2⟩
  | progress bytesTransferred total saved =>
    simp only [transferEvent, wp_bind, wp_modifyArtifact]
    cases saved with
    | none => exact wp_pure.2 (downloading.rows rfl)
    | some signal => exact write_downloading (downloading.rows rfl)
  | resolverAttempt saved => exact write_downloading downloading

theorem removePartial_downloading (downloading : Downloading careful start frame) :
    wp removePartial (fun _ => Downloading careful start)
      (FetchingFailed careful inputs start) (fun _ => StoreSound careful) frame := by
  have changed := downloading.1.partialChanged none
  simpa [removePartial] using ⟨changed.store, changed, downloading.2⟩

theorem prepareTransfer_downloading (resolved : ResolvedTransfer)
    (downloading : Downloading careful start frame) :
    wp (prepareTransfer inputs resolved) (fun _ => Downloading careful start)
      (FetchingFailed careful inputs start) (fun _ => StoreSound careful) frame := by
  cases protocol : resolved.transportProtocol with
  | https =>
    simp only [prepareTransfer, protocol, recoverCheckpoint, wp_bind, wp_rows,
      wp_inspect, wp_modifyArtifact]
    split
    · exact removePartial_downloading (downloading.rows rfl)
    · exact wp_pure.2 (downloading.rows rfl)
  | megaBridge =>
    simp only [prepareTransfer, protocol, resetBridge]
    refine wp_bind_of _ (removePartial_downloading downloading) ?_
    intro _ removed kept
    have reset : Downloading careful start
        { removed with
          memory := { removed.memory with artifact := removed.memory.artifact.clearTransfer } } :=
      kept.rows rfl
    simp only [wp_bind, wp_modifyArtifact, wp_await, wp_commit]
    exact ⟨fun _ => ⟨reset.1.commit.store, reset.1.commit, reset.2⟩,
      fun _ => ⟨reset.1, trivial⟩, fun _ => ⟨reset.1, trivial⟩⟩

theorem transfer_downloading (resolved : ResolvedTransfer)
    (downloading : Downloading careful start frame) :
    wp (transfer inputs resolved) (fun _ => Downloading careful start)
      (FetchingFailed careful inputs start) (fun _ => StoreSound careful) frame := by
  refine wp_bind_of _ (prepareTransfer_downloading resolved downloading) ?_
  intro _ prepared downloading
  refine wp_bind_of _ (wp_each (Downloading careful start) _
    (fun event _ start kept => transferEvent_downloading event kept) _ downloading) ?_
  intro _ after ⟨fetching, state⟩
  cases inputs.transfer with
  | transferred result =>
    refine wp_bind_of _ (write_downloading ⟨fetching, state⟩) ?_
    intro _ saved downloading
    exact wp_pure.2 downloading
  | paused checkpoint => exact wp_raise.2 ⟨fetching, state⟩
  | refused error => exact wp_raise.2 ⟨fetching, .inr (.inl state)⟩
  | planning error => exact wp_raise.2 ⟨fetching, .inr state⟩
  | cancelled =>
    exact wp_raise.2 ⟨fetching, Active.cancelled ⟨fetching, .inr state⟩⟩
  | unexpected => exact wp_raise.2 ⟨fetching, trivial⟩
  | interrupted => exact wp_raise.2 ⟨fetching, trivial⟩

/-- A download ends with the row downloading and no final file in the way. -/
theorem download_downloading (fetching : Fetching careful start frame)
    (running : frame.memory.attempt.state.Running)
    (notValidating : frame.memory.attempt.state ≠ .validating)
    (notPostProcessing : frame.memory.attempt.state ≠ .postProcessing) :
    wp (download inputs) (fun _ => Downloading careful start)
      (FetchingFailed careful inputs start) (fun _ => StoreSound careful) frame := by
  refine wp_bind_of _ (write_fetching fetching) ?_
  intro _ queued ⟨fetching, same⟩
  have state : queued.memory.attempt.state = frame.memory.attempt.state :=
    congrArg RowsView.acquisition same
  rw [← state] at running notValidating notPostProcessing
  refine wp_bind_of (fun _ after => after = queued) ?_ ?_
  · unfold acquireSlots
    cases inputs.slots with
    | acquired => exact wp_pure.2 rfl
    | cancelled =>
      exact wp_raise.2 ⟨fetching, running, .inr ⟨notValidating, notPostProcessing⟩⟩
    | unexpected => exact wp_raise.2 ⟨fetching, trivial⟩
    | interrupted => exact wp_raise.2 ⟨fetching, trivial⟩
  rintro _ _ rfl
  refine wp_bind_of _
    (enterResolving_fetching fetching running notValidating notPostProcessing) ?_
  intro _ _ active
  refine wp_bind_of _ (awaitSource_active active) ?_
  intro request _ active
  refine wp_bind_of _ (validateSourceRequest_active request active) ?_
  intro _ _ active
  refine wp_bind_of _ (loadHostCredentials_active active) ?_
  intro _ _ active
  refine wp_bind_of _ (resolveHost_active active) ?_
  intro resolved _ active
  refine wp_bind_of _ (enterDownloading_downloading resolved active) ?_
  intro _ _ downloading
  refine wp_bind_of _ (transfer_downloading resolved downloading) ?_
  intro result after downloading
  simp only [wp_bind, wp_await, wp_pure]
  exact ⟨fun _ => downloading, fun _ => ⟨downloading.1, trivial⟩,
    fun _ => ⟨downloading.1, trivial⟩⟩

end Pullbox.Direct
