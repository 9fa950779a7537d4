import Pullbox.Direct.Invariant

/-!
# The body and the handlers of one pass

From the recorded final file onwards, then the handlers. `BodyFailed` is what every
exception of the body leaves behind; each handler starts from it.
-/

namespace Pullbox.Direct

open Durable Program Exec

variable {careful : Prop} {start : Store} {frame : Frame Rows Store} {inputs : ExecutionInputs}
  {raises : Failure → Frame Rows Store → Prop} {workspaces : Workspaces} {checkpoint : Checkpoint}
  {stage : ProgressStage} {signal : Signal} {view : RowsView}

/-- What a crash may leave: only the rename itself can leave an unrecorded final file. -/
structure CrashSound (careful : Prop) (step : DurableStep) (store : Store) : Prop where
  sound : Sound store.rows.view
  recorded : careful → step ≠ .finalized → Recorded store.rows.view store.workspaces

/-- The session's rows are the committed ones. -/
structure Saved (careful : Prop) (frame : Frame Rows Store) : Prop where
  sound : Sound frame.memory.view
  recorded : careful → Recorded frame.memory.view frame.durable.workspaces
  saved : frame.durable.rows = frame.memory

/-- What an exception of the body leaves behind. -/
structure BodyFailed (careful : Prop) (inputs : ExecutionInputs) (start : Store)
    (failure : Failure) (after : Frame Rows Store) : Prop where
  memory : Sound after.memory.view
  durable : Sound after.durable.rows.view
  raised : Raised inputs start after.memory.view failure
  alive : after.durable.rows.attempt.state.Running
  same : failure = .cancelled →
    after.durable.rows.artifact.id = after.memory.artifact.id
  recorded : careful → Recorded after.memory.view after.durable.workspaces
  handled : careful → failure ≠ .interrupted →
    Recorded after.durable.rows.view after.durable.workspaces
  removable : careful → failure = .cancelled → after.memory.attempt.state = .intervention →
    ∀ suffix, (after.durable.workspaces.file after.memory.artifact.id (.artifact suffix)).isSome →
      inputs.cleanup.Removes (.artifact suffix)

/-- The states a completed pass leaves an acquisition in. -/
def restingStates : List DirectAcquisitionState :=
  [.queued, .paused, .retryPending, .intervention, .completed, .cancelled, .failed]

/-- The states of an artifact no worker holds. -/
def restingArtifactStates : List DirectArtifactState :=
  [.planned, .paused, .retryPending, .intervention, .completed, .cancelled, .failed]

/-- Neither row is in a state only a worker leaves. -/
def Rows.Resting (rows : Rows) : Prop :=
  rows.attempt.state ∈ restingStates ∧ rows.artifact.state ∈ restingArtifactStates

/-- A pass that returned: everything is committed and both rows rest. -/
def Returned (careful : Prop) (after : Frame Rows Store) : Prop :=
  Saved careful after ∧ after.memory.Resting

theorem StoreSound.crash {store : Store} (sound : StoreSound careful store) (step : DurableStep) :
    CrashSound careful step store :=
  ⟨sound.sound, fun holds _ => sound.recorded holds⟩

theorem FetchingFailed.body {failure : Failure} {after : Frame Rows Store}
    (failed : FetchingFailed careful inputs start failure after) :
    BodyFailed careful inputs start failure after where
  memory := failed.1.memory
  durable := failed.1.durable
  raised := failed.2
  alive := failed.1.alive
  same _ := failed.1.same
  recorded holds := .of_clear (failed.1.clear holds) (failed.1.others holds)
  handled holds _ := failed.1.store.recorded holds
  removable holds _ _ suffix present := by simp [failed.1.clear holds suffix] at present

theorem Saved.failed (saved : Saved careful frame) {failure : Failure}
    (running : frame.memory.attempt.state.Running)
    (raised : Raised inputs start frame.memory.view failure)
    (removable : careful → failure = .cancelled → frame.memory.attempt.state = .intervention →
      ∀ suffix, frame.memory.artifact.quarantinePath = some (.artifact suffix) →
        inputs.cleanup.Removes (.artifact suffix)) :
    BodyFailed careful inputs start failure frame where
  memory := saved.sound
  durable := saved.saved ▸ saved.sound
  raised := raised
  alive := saved.saved ▸ running
  same _ := by rw [saved.saved]
  recorded := saved.recorded
  handled holds _ := saved.saved ▸ saved.recorded holds
  removable holds cancelled state suffix present :=
    removable holds cancelled state suffix
      ((saved.recorded holds).claimed running.ne_completed suffix present)

/-- Writing sound, recorded rows saves them, at every moment. -/
theorem wp_write_kept
    (sound : Sound frame.memory.view)
    (recorded : careful → Recorded frame.memory.view frame.durable.workspaces)
    (raised : ∀ failure, failure = .unexpected ∨ failure = .interrupted →
      raises failure { frame with memory := Exec.progressed frame.memory stage }) :
    wp (Exec.write signal checkpoint stage)
      (fun _ after => Saved careful after ∧ after.memory = Exec.progressed frame.memory stage ∧
        after.durable.workspaces = frame.durable.workspaces)
      raises (fun _ => StoreSound careful) frame := by
  rw [wp_write]
  exact ⟨fun _ => ⟨⟨sound, recorded⟩, ⟨sound, recorded, rfl⟩, rfl, rfl⟩,
    fun _ => raised _ (.inl rfl), fun _ => raised _ (.inr rfl)⟩

/-- Writing sound, recorded rows saves them. -/
theorem wp_write_saved
    (sound : Sound frame.memory.view)
    (recorded : careful → Recorded frame.memory.view frame.durable.workspaces)
    (raised : ∀ failure, failure = .unexpected ∨ failure = .interrupted →
      raises failure { frame with memory := Exec.progressed frame.memory stage }) :
    wp (Exec.write signal checkpoint stage)
      (fun _ after => Saved careful after ∧ after.memory = Exec.progressed frame.memory stage ∧
        after.durable.workspaces = frame.durable.workspaces)
      raises (CrashSound careful) frame :=
  wp_mono (wp_write_kept sound recorded raised) (fun _ _ saved => saved)
    (fun _ _ raised => raised) fun step _ sound => sound.crash step

/-- What an exception leaves behind once no handler of the pass is left for it: the
coordinator refuses a transition only where `lawful` fails, and a `live` acquisition is
still running unless the worker was shut down. -/
structure Escaped (careful lawful live : Prop) (failure : Failure) (after : Frame Rows Store) :
    Prop where
  durable : Sound after.durable.rows.view
  recorded : careful → Recorded after.durable.rows.view after.durable.workspaces
  legal : lawful → ∀ error, failure ≠ .invalidTransition error
  alive : live → failure ≠ .interrupted → after.durable.rows.attempt.state.Running

/-- Two transitions, artifact first, followed by the rest of a handler. -/
theorem wp_transitionBoth {α : Type} {acquisition : DirectAcquisitionState}
    {artifact : DirectArtifactState} {rest : Exec α}
    {returns : α → Frame Rows Store → Prop}
    {crashes : DurableStep → Store → Prop}
    (refused : ¬ (frame.memory.attempt.state.Accepts acquisition ∧
        frame.memory.artifact.state.Accepts artifact) →
      ∀ error rows, raises (.invalidTransition error) { frame with memory := rows })
    (accepted : frame.memory.attempt.state.Accepts acquisition →
      frame.memory.artifact.state.Accepts artifact →
      wp rest returns raises crashes
        { frame with memory := frame.memory.entered acquisition artifact inputs.now }) :
    wp (Exec.transitionArtifact inputs artifact >>= fun _ =>
      Exec.transitionAcquisition inputs acquisition >>= fun _ => rest)
      returns raises crashes frame := by
  simp only [wp_bind, wp_transitionArtifact, wp_transitionAcquisition]
  refine ⟨fun artifactAccepts => ⟨fun acquisitionAccepts => ?_, fun refuses error _ => ?_⟩,
    fun refuses error _ => ?_⟩
  · exact accepted acquisitionAccepts artifactAccepts
  · exact refused (fun both => refuses both.1) error _
  · exact refused (fun both => refuses both.2) error _

/-- The last write of a handler. -/
theorem wp_writeResult
    (sound : Sound frame.memory.view)
    (recorded : careful → Recorded frame.memory.view frame.durable.workspaces)
    (resting : frame.memory.Resting)
    (raised : ∀ failure, failure = .unexpected ∨ failure = .interrupted →
      raises failure { frame with memory := Exec.progressed frame.memory stage }) :
    wp (Exec.write signal checkpoint stage >>= fun _ => sessionResult)
      (fun _ => Returned careful) raises (CrashSound careful) frame := by
  refine wp_bind_of _ (wp_write_saved sound recorded raised) ?_
  intro _ after ⟨saved, same, _⟩
  simp only [sessionResult, wp_bind, wp_rows, wp_pure]
  refine ⟨saved, ?_⟩
  rw [same]
  exact resting

/-- A session fault anywhere in the body only needs sound rows. -/
theorem BodyFailed.fault (memory : Sound frame.memory.view)
    (durable : Sound frame.durable.rows.view)
    (alive : frame.durable.rows.attempt.state.Running)
    (recorded : careful → Recorded frame.memory.view frame.durable.workspaces)
    (stored : careful → Recorded frame.durable.rows.view frame.durable.workspaces)
    (failure : Failure) (fault : failure = .unexpected ∨ failure = .interrupted) :
    BodyFailed careful inputs start failure frame where
  memory := memory
  durable := durable
  raised := by rcases fault with rfl | rfl <;> trivial
  alive := alive
  same cancelled := by rcases fault with rfl | rfl <;> cases cancelled
  recorded := recorded
  handled holds _ := stored holds
  removable _ cancelled := by rcases fault with rfl | rfl <;> cases cancelled

/-- Rows that are over are sound with any artifact state and any recorded path. -/
theorem Sound.terminal {view ended : RowsView} (sound : Sound view)
    (terminal : ended.acquisition ∈ acquisitionTerminalStates)
    (sameArtifact : ended.artifactId = view.artifactId)
    (sameNext : ended.nextArtifactId = view.nextArtifactId)
    (sameRetired : ended.retired = view.retired) : Sound ended where
  coherent := .inl terminal
  unfinalized listed := by
    simp only [acquisitionTerminalStates, unfinalizedStates, List.mem_cons, List.not_mem_nil,
      or_false] at terminal listed
    rcases terminal with state | state | state <;> simp [state] at listed
  numbered := by simpa [RowsView.ids, sameArtifact, sameNext, sameRetired] using sound.numbered
  distinct := by simpa [RowsView.ids, sameArtifact, sameRetired] using sound.distinct

/-- A completed acquisition need not record its final file. -/
theorem Recorded.completed (completed : view.acquisition = .completed)
    (others : Others view workspaces) :
    Recorded view workspaces :=
  ⟨fun _ _ => .inl completed, others⟩

/-- Clean up the workspace of rows that are over, then write them. -/
theorem wp_cleanupTerminal
    (sound : Sound frame.memory.view)
    (recorded : careful → Recorded frame.memory.view frame.durable.workspaces)
    (terminal : frame.memory.attempt.state ∈ acquisitionTerminalStates)
    (artifact : frame.memory.artifact.state ∈ artifactTerminalStates)
    (durable : StoreSound careful frame.durable)
    (raised : ∀ failure after, failure = .unexpected ∨ failure = .interrupted →
      after.durable.rows = frame.durable.rows → Sound after.memory.view →
      (careful → Recorded after.memory.view after.durable.workspaces) →
      StoreSound careful after.durable → raises failure after) :
    wp (Exec.cleanup inputs >>= fun _ =>
        Exec.write signal checkpoint stage >>= fun _ => sessionResult)
      (fun _ => Returned careful) raises (CrashSound careful) frame := by
  have cleanup := Workspaces.addsNoFinal_cleanup frame.durable.workspaces
    frame.memory.artifact.id inputs.cleanup
  have kept : StoreSound careful { frame.durable with
      workspaces := frame.durable.workspaces.cleanup frame.memory.artifact.id inputs.cleanup } :=
    ⟨durable.sound, fun holds => (durable.recorded holds).workspaces cleanup⟩
  have cleaned (holds : careful) := (recorded holds).workspaces cleanup
  rw [wp_bind, wp_cleanup]
  refine ⟨kept.crash _, wp_writeResult sound cleaned ?_ ?_⟩
  · simp only [Rows.Resting, acquisitionTerminalStates, artifactTerminalStates, restingStates,
      restingArtifactStates, List.mem_cons, List.not_mem_nil, or_false] at terminal artifact ⊢
    tauto
  · exact fun failure fault => raised failure _ fault rfl sound cleaned kept

/-- Moving rows among the states that hold a final file keeps it recorded. -/
theorem Recorded.moved (recorded : Recorded view workspaces)
    (running : view.acquisition ≠ .completed) (acquisition : DirectAcquisitionState)
    (artifact : DirectArtifactState) (finalized : acquisition ∈ finalizedStates) :
    Recorded { view with acquisition := acquisition, artifact := artifact } workspaces where
  selected suffix present := .inr ⟨finalized, recorded.claimed running suffix present⟩
  others := recorded.others.of_eq rfl rfl

/-- The same of the rows of a session and of two accepted transitions. -/
theorem Recorded.entered {rows : Rows}
    (recorded : Recorded rows.view workspaces) (running : rows.attempt.state.Running)
    (acquisition : DirectAcquisitionState) (artifact : DirectArtifactState) (now : Instant)
    (finalized : acquisition ∈ finalizedStates) :
    Recorded (rows.entered acquisition artifact now).view workspaces := by
  rw [Rows.view_entered]
  exact recorded.moved running.ne_completed acquisition artifact finalized

/-- Two accepted transitions to a matching pair keep the rows sound. -/
theorem Sound.entered {rows : Rows} (sound : Sound rows.view)
    (acquisition : DirectAcquisitionState) (artifact : DirectArtifactState) (now : Instant)
    (coherent : Coherent acquisition artifact)
    (path : acquisition ∈ unfinalizedStates → rows.attempt.state ∈ unfinalizedStates) :
    Sound (rows.entered acquisition artifact now).view := by
  rw [Rows.view_entered]
  exact sound.moved acquisition artifact coherent path

theorem wp_intervene
    (sound : Sound frame.memory.view)
    (recorded : careful → Recorded frame.memory.view frame.durable.workspaces)
    (running : frame.memory.attempt.state ∉ acquisitionTerminalStates)
    (refused : ¬ (frame.memory.attempt.state.Accepts .intervention ∧
        frame.memory.artifact.state.Accepts .intervention) →
      ∀ error rows, raises (.invalidTransition error) { frame with memory := rows })
    (fault : ∀ failure (rows : Rows), failure = .unexpected ∨ failure = .interrupted →
      Sound rows.view →
      (careful → Recorded rows.view frame.durable.workspaces) →
      raises failure { frame with memory := rows }) :
    wp (intervene inputs) (fun _ => Returned careful) raises (CrashSound careful)
      frame := by
  refine wp_transitionBoth refused ?_
  intro _ _
  have entered := sound.entered .intervention .intervention inputs.now (by decide)
    (by simp [unfinalizedStates])
  have kept (holds : careful) :=
    (recorded holds).entered running .intervention .intervention inputs.now (by decide)
  rw [wp_bind, wp_await]
  refine ⟨fun _ => ?_, fun _ => ?_, fun _ => ?_⟩
  · refine wp_writeResult entered kept (by simp [Rows.Resting, Rows.entered, restingStates, restingArtifactStates]) ?_
    exact fun failure cause => fault failure _ cause entered kept
  · exact fault _ _ (.inl rfl) entered kept
  · exact fault _ _ (.inr rfl) entered kept

theorem postProcess_returned (saved : Saved careful frame)
    (state : frame.memory.attempt.state = .postProcessing) :
    wp (postProcess inputs) (fun _ => Returned careful)
      (BodyFailed careful inputs start) (CrashSound careful) frame := by
  have artifact : frame.memory.artifact.state = .validating := saved.sound.artifact_eq state rfl
  have store : StoreSound careful frame.durable :=
    ⟨saved.saved ▸ saved.sound, fun holds => saved.saved ▸ saved.recorded holds⟩
  have running : frame.memory.attempt.state.Running := by rw [state]; decide
  have faults : ∀ failure (after : Frame Rows Store),
      failure = .unexpected ∨ failure = .interrupted →
      after.durable.rows = frame.durable.rows →
      Sound after.memory.view →
      (careful → Recorded after.memory.view after.durable.workspaces) →
      StoreSound careful after.durable → BodyFailed careful inputs start failure after :=
    fun failure after fault same memory recorded durable =>
      .fault memory durable.sound (by rwa [same, saved.saved]) recorded durable.recorded failure fault
  -- Every outcome leaves (postProcessing, validating) by a legal pair.
  have legal : ∀ {rows : Rows} {acquisition target}, rows.attempt.state = .postProcessing →
      rows.artifact.state = .validating →
      DirectAcquisitionState.postProcessing.Accepts acquisition →
      DirectArtifactState.validating.Accepts target →
      rows.attempt.state.Accepts acquisition ∧ rows.artifact.state.Accepts target := by
    intro rows acquisition target acquisitionState artifactState first second
    rw [acquisitionState, artifactState]
    exact ⟨first, second⟩
  cases answer : inputs.postProcess with
  | interrupted =>
    simp only [postProcess, answer, wp_raise]
    exact saved.failed running trivial (by rintro - ⟨⟩)
  | packError code message =>
    rw [postProcess, answer, wp_bind, wp_rollback, saved.saved,
      recordPostProcessFailure, wp_bind, wp_bind, wp_modifyAttempt,
      wp_modifyArtifact]
    refine wp_transitionBoth
      (fun refused => absurd (legal state artifact (by decide) (by decide)) refused) ?_
    intro _ _
    refine wp_cleanupTerminal (saved.sound.terminal ?_ ?_ rfl rfl) (fun holds => ?_) ?_ ?_ store
      faults
    · simp [acquisitionTerminalStates]
    · simp
    · rw [Rows.view_entered]
      exact (saved.recorded holds).moved running.ne_completed .failed .failed (by decide)
    · simp [Rows.entered, acquisitionTerminalStates]
    · simp [Rows.entered, artifactTerminalStates]
  | raised =>
    rw [postProcess, answer, wp_bind, wp_rollback, saved.saved,
      recordPostProcessFailure, wp_bind, wp_bind, wp_modifyAttempt,
      wp_modifyArtifact]
    refine wp_intervene saved.sound saved.recorded
      (by simp [state, acquisitionTerminalStates]) ?_ ?_
    · exact fun refused => absurd (legal state artifact (by decide) (by decide)) refused
    · exact fun failure rows fault sound recorded =>
        faults failure _ fault rfl sound recorded store
  | processed libraryFileId =>
    rw [postProcess, answer, wp_bind, wp_modifyAttempt, wp_bind,
      wp_modifyArtifact]
    refine wp_transitionBoth
      (fun refused => absurd (legal state artifact (by decide) (by decide)) refused) ?_
    intro _ _
    refine wp_cleanupTerminal (saved.sound.terminal ?_ ?_ rfl rfl) (fun holds => ?_) ?_ ?_ store
      faults
    · simp [acquisitionTerminalStates]
    · simp [DirectArtifactAttempt.clearFailure]
    · exact .completed (by simp) ((saved.recorded holds).others.of_eq rfl rfl)
    · simp [Rows.entered, acquisitionTerminalStates]
    · simp [Rows.entered, artifactTerminalStates]

/-- A rejection while validating. -/
theorem validateAndPostProcess_returned (saved : Saved careful frame)
    (state : frame.memory.attempt.state = .validating)
    (budget : frame.memory.retryBudget = start.rows.retryBudget) :
    wp (validateAndPostProcess inputs) (fun _ => Returned careful)
      (BodyFailed careful inputs start) (CrashSound careful) frame := by
  have artifact : frame.memory.artifact.state = .validating := saved.sound.artifact_eq state rfl
  have running : frame.memory.attempt.state.Running := by rw [state]; decide
  refine wp_bind_of (fun _ after => frame = after) ?_ ?_
  · unfold validateArtifact
    cases answer : inputs.validation with
    | checked checks =>
      cases verdict : validateDirectArtifact checks with
      | ok _ => simp [verdict]
      | error error =>
        simp only [verdict]
        exact wp_raise.2
          (saved.failed running (.inr (.inr (.inr ⟨state, budget, checks, error, answer, verdict,
            rfl⟩))) (by rintro - ⟨⟩))
    | unexpected => exact wp_raise.2 (saved.failed running trivial (by rintro - ⟨⟩))
    | interrupted => exact wp_raise.2 (saved.failed running trivial (by rintro - ⟨⟩))
  rintro _ _ rfl
  have accepts : frame.memory.attempt.state.Accepts .postProcessing := by
    rw [state]
    decide
  rw [wp_bind, wp_transitionAcquisition]
  refine ⟨fun _ => ?_, fun refuses => absurd accepts refuses⟩
  have sound : Sound { frame.memory.view with acquisition := .postProcessing } := by
    have moved := saved.sound.moved .postProcessing .validating (by decide)
      (by simp [unfinalizedStates])
    rwa [← artifact] at moved
  have recorded (holds : careful) : Recorded
      { frame.memory.view with acquisition := .postProcessing } frame.durable.workspaces :=
    (saved.recorded holds).moved running.ne_completed _ _ (by decide)
  have view : ({ frame.memory with
      attempt := frame.memory.attempt.entered .postProcessing inputs.now } : Rows).view =
        { frame.memory.view with acquisition := .postProcessing } := by
    simp [Rows.view, Rows.retryBudget]
  rw [← view] at sound recorded
  refine wp_bind_of _ (wp_write_saved sound recorded ?_) ?_
  · exact .fault sound (saved.saved ▸ saved.sound) (saved.saved ▸ running) recorded
      fun holds => saved.saved ▸ saved.recorded holds
  · rintro _ after ⟨saved, same, _⟩
    exact postProcess_returned saved (by simp [same, Exec.progressed,
      DirectAcquisitionAttempt.progressed])

/-- Right after the rename: one new final file that no row records yet. -/
structure Finalized (careful : Prop) (start : Store) (suffix : ComicSuffix) (frame : Frame Rows Store) :
    Prop where
  memory : Sound frame.memory.view
  durable : Sound frame.durable.rows.view
  state : frame.memory.attempt.state = .downloading
  budget : frame.memory.retryBudget = start.rows.retryBudget
  alive : frame.durable.rows.attempt.state.Running
  only : careful → ∀ found,
    (frame.durable.workspaces.file frame.memory.artifact.id (.artifact found)).isSome →
      found = suffix
  others : careful → Others frame.memory.view frame.durable.workspaces

/-- The rename in the selected workspace is none of the other artifacts' business. -/
theorem Others.rename (others : Others view workspaces) (sound : Sound view)
    (suffix : ComicSuffix) :
    Others view (workspaces.rename view.artifactId suffix) where
  retired row listed found present := by
    rcases Workspaces.file_rename_isSome _ _ _ present with ⟨same, _⟩ | before
    · have retired : view.artifactId ∈ view.retired.map Prod.fst :=
        same ▸ List.mem_map_of_mem listed
      exact absurd retired (List.nodup_cons.1 sound.distinct).1
    · exact others.retired row listed found before
  fresh id unused := by
    rintro ⟨found, present⟩
    rcases Workspaces.file_rename_isSome _ _ _ present with ⟨same, _⟩ | before
    · exact absurd (sound.numbered _ List.mem_cons_self) (Nat.not_lt.2 (same ▸ unused))
    · exact others.fresh id unused ⟨found, before⟩

theorem finalize_finalized (filenameHint : Option String)
    (downloading : Downloading careful start frame)
    (chmodable : careful → inputs.finalizeIo.chmodable = true) :
    wp (finalize inputs filenameHint) (Finalized careful start)
      (BodyFailed careful inputs start) (CrashSound careful) frame := by
  obtain ⟨fetching, state⟩ := downloading
  rw [finalize, wp_bind, wp_rows, wp_bind, wp_inspect]
  cases target : finalizeTarget (frame.durable.workspaces frame.memory.artifact.id)
      filenameHint inputs.finalizeIo with
  | error error =>
    exact wp_raise.2 (FetchingFailed.body ⟨fetching, .inr (.inl state)⟩)
  | ok suffix =>
    simp only [wp_bind, wp_quarantine]
    refine ⟨⟨fetching.durable, fun _ renamed => absurd rfl renamed⟩, ?_⟩
    cases mode : inputs.finalizeIo.chmodable with
    | true =>
      refine wp_pure.2
        ⟨fetching.memory, fetching.durable, state, fetching.budget, fetching.alive,
          fun holds found present => ?_,
          fun holds => (fetching.others holds).rename fetching.memory suffix⟩
      rcases Workspaces.file_rename_isSome _ _ _ present with ⟨_, same⟩ | before
      · exact same
      · simp [fetching.clear holds found] at before
    | false =>
      have blocked : ¬ careful := fun holds => by simp [chmodable holds] at mode
      exact wp_raise.2
        { memory := fetching.memory
          durable := fetching.durable
          raised := .inr (.inl state)
          alive := fetching.alive
          same := by rintro ⟨⟩
          recorded := fun holds => absurd holds blocked
          handled := fun holds _ => absurd holds blocked
          removable := by rintro - ⟨⟩ }

/-- The view of rows that record their final file. -/
def RowsView.validated (view : RowsView) (suffix : ComicSuffix) : RowsView :=
  { view with
    acquisition := .validating, artifact := .validating, path := some (.artifact suffix) }

theorem Finalized.sound {suffix : ComicSuffix} (finalized : Finalized careful start suffix frame) :
    Sound (frame.memory.view.validated suffix) where
  coherent := by simp only [RowsView.validated]; decide
  unfinalized := by simp [RowsView.validated, unfinalizedStates]
  numbered := finalized.memory.numbered
  distinct := finalized.memory.distinct

theorem Finalized.recorded {suffix : ComicSuffix} (finalized : Finalized careful start suffix frame)
    (holds : careful) :
    Recorded (frame.memory.view.validated suffix) frame.durable.workspaces where
  selected found present := by
    refine .inr ⟨by simp [RowsView.validated, finalizedStates], ?_⟩
    rw [finalized.only holds found present]
    rfl
  others := (finalized.others holds).of_eq rfl rfl

/-- What a careful pass is spared: the mode change and the commit after its rename go
through, and an intervention that records a final file is the review of a post-processing,
or is cancelled together with that file. -/
structure PassCareful (inputs : ExecutionInputs) (rows : Rows) : Prop where
  chmodable : inputs.finalizeIo.chmodable = true
  saved : inputs.signal .validating ≠ .unexpected
  cancelled : inputs.cancelRequested = true → rows.attempt.state = .intervention →
    ∀ suffix, rows.artifact.quarantinePath = some (.artifact suffix) →
      inputs.cleanup.Removes (.artifact suffix)
  reviewed : inputs.cancelRequested = false → rows.attempt.state = .intervention →
    ∀ suffix, rows.artifact.quarantinePath = some (.artifact suffix) →
      rows.attempt.failureClass = some .postProcess

/-- Renaming, recording and validating a downloaded payload. -/
theorem finalizeDownload_returned (result : ArtifactTransferResult)
    (downloading : Downloading careful start frame)
    (chmodable : careful → inputs.finalizeIo.chmodable = true)
    (committed : careful → inputs.signal .validating ≠ .unexpected) :
    wp (finalizeDownload inputs result) (fun _ => Returned careful)
      (BodyFailed careful inputs start) (CrashSound careful) frame := by
  refine wp_bind_of _ (finalize_finalized _ downloading chmodable) ?_
  intro suffix renamed finalized
  have artifact : renamed.memory.artifact.state = .transferring :=
    finalized.memory.artifact_eq finalized.state rfl
  rw [wp_bind, wp_modifyArtifact]
  refine wp_enterBothThen (by rw [finalized.state]; decide)
    (by simp only [DirectArtifactAttempt.finalized, artifact]; decide) ?_
  have view : (({ renamed.memory with
        artifact := renamed.memory.artifact.finalized inputs.dates suffix result } : Rows).entered
          .validating .validating inputs.now).view = renamed.memory.view.validated suffix := by
    rw [Rows.view_entered]
    rfl
  have sound := view ▸ finalized.sound
  have recorded (holds : careful) := view ▸ finalized.recorded holds
  rw [wp_bind, wp_write]
  refine ⟨fun _ => ⟨⟨sound, fun holds _ => recorded holds⟩, ?_⟩, fun lost => ?_, fun _ => ?_⟩
  · refine validateAndPostProcess_returned ⟨sound, recorded, rfl⟩ ?_ ?_
    · simp [Exec.progressed, DirectAcquisitionAttempt.progressed, Rows.entered]
    · rw [← finalized.budget]
      simp [Exec.progressed, DirectAcquisitionAttempt.progressed, Rows.entered,
        Rows.retryBudget, DirectArtifactAttempt.finalized]
  -- Only here would a lost session leave the renamed file to rows that do not record it.
  · exact @BodyFailed.fault _ _ ⟨Exec.progressed _ .validating, _⟩ _ sound finalized.durable
      finalized.alive recorded (fun holds => absurd lost (committed holds)) _ (.inl rfl)
  · exact
      { memory := sound
        durable := finalized.durable
        raised := trivial
        alive := finalized.alive
        same := by rintro ⟨⟩
        recorded := recorded
        handled := fun _ notInterrupted => absurd rfl notInterrupted
        removable := by rintro - ⟨⟩ }

/-- The final file a recorded path names. -/
def QuarantineEntry.suffix : QuarantineEntry → Option ComicSuffix
  | .payloadPart => none
  | .artifact suffix => some suffix

/-- The frame a body starts from: the rows and files the pass found. -/
structure Begun (careful : Prop) (start : Store) (frame : Frame Rows Store) : Prop where
  saved : Saved careful frame
  rows : frame.memory = start.rows
  files : ∀ id entry, frame.durable.workspaces.file id entry = start.workspaces.file id entry
  running : frame.memory.attempt.state.Running

theorem recoverFinalPath_recovered (begun : Begun careful start frame) :
    wp recoverFinalPath
      (fun finalPath after => frame = after ∧
        finalPath = frame.memory.artifact.quarantinePath.bind QuarantineEntry.suffix)
      (BodyFailed careful inputs start) (CrashSound careful) frame := by
  rw [recoverFinalPath, wp_bind, wp_rows, wp_bind, wp_inspect]
  cases path : frame.memory.artifact.quarantinePath with
  | none => simp
  | some entry =>
    cases entry with
    | payloadPart => simp [QuarantineEntry.suffix]
    | artifact suffix =>
      dsimp only
      split
      · simp [QuarantineEntry.suffix]
      · rename_i absent
        have finalized : frame.memory.attempt.state ∉ unfinalizedStates := fun listed =>
          begun.saved.sound.unfinalized listed suffix path
        have missing : start.MissingFinal := by
          refine ⟨suffix, begun.rows ▸ path, ?_⟩
          rw [← begun.files, ← begun.rows]
          simpa using absent
        refine wp_raise.2 (begun.saved.failed begun.running (.inr (.inr (.inl
          ⟨begun.running, finalized, fun state => ⟨begun.rows ▸ state, missing⟩, rfl⟩)))
        (by rintro - ⟨⟩))

/-- A careful pass that goes on to download has no final file in its way. -/
theorem Begun.fetching (begun : Begun careful start frame)
    (reviewed : careful → frame.memory.attempt.state = .intervention →
      ∀ suffix, frame.memory.artifact.quarantinePath = some (.artifact suffix) →
        frame.memory.attempt.failureClass = some .postProcess)
    (download : frame.memory.resumption
      (frame.memory.artifact.quarantinePath.bind QuarantineEntry.suffix) = .download) :
    Fetching careful start frame where
  memory := begun.saved.sound
  durable := begun.saved.saved ▸ begun.saved.sound
  same := by rw [begun.saved.saved]
  budget := by rw [begun.rows]
  running := begun.running
  alive := begun.saved.saved ▸ begun.running
  others holds := (begun.saved.recorded holds).others
  stored holds := begun.saved.saved ▸ (begun.saved.recorded holds).others
  clear holds suffix := by
    by_contra present
    have running := begun.running
    obtain ⟨finalized, path⟩ := ((begun.saved.recorded holds).selected suffix
      (Option.isSome_iff_ne_none.2 present)).resolve_left running.ne_completed
    simp only [Rows.view_acquisition, Rows.view_path, finalizedStates, List.mem_cons,
      List.not_mem_nil, or_false] at finalized path
    rcases finalized with state | state | state | state | state
    · simp [Rows.resumption, state, path, QuarantineEntry.suffix] at download
    · simp [Rows.resumption, state, path, QuarantineEntry.suffix] at download
    · have review := reviewed holds state suffix path
      simp [Rows.resumption, state, path, review, QuarantineEntry.suffix] at download
    · exact running (by simp [state, acquisitionTerminalStates])
    · exact running (by simp [state, acquisitionTerminalStates])

theorem Rows.resumption_download {rows : Rows} {finalPath : Option ComicSuffix}
    (download : rows.resumption finalPath = .download) :
    rows.attempt.state ≠ .validating ∧ rows.attempt.state ≠ .postProcessing := by
  constructor <;> intro state <;> simp [Rows.resumption, state] at download <;>
    cases finalPath <;> simp at download

/-- Where the other resumptions start from. -/
theorem Rows.resumption_state (rows : Rows) (finalPath : Option ComicSuffix) :
    match rows.resumption finalPath with
    | .reviewedPostProcess => rows.attempt.state = .intervention
    | .postProcess => rows.attempt.state = .postProcessing
    | .validate => rows.attempt.state = .validating
    | .missing => rows.attempt.state = .postProcessing ∨ rows.attempt.state = .validating
    | .download => True := by
  unfold Rows.resumption
  split_ifs <;> simp_all

theorem executeBody_returned (begun : Begun careful start frame)
    (spared : careful → PassCareful inputs frame.memory) :
    wp (executeBody inputs) (fun _ => Returned careful)
      (BodyFailed careful inputs start) (CrashSound careful) frame := by
  have saved := begun.saved
  have running := begun.running
  refine wp_bind_of (fun _ after => frame = after ∧ inputs.cancelRequested = false) ?_ ?_
  · unfold raiseIfCancelled
    split
    · rename_i requested
      exact wp_raise.2
        (saved.failed running ⟨running, .inl ⟨requested, congrArg (·.attempt.state) begun.rows⟩⟩
          fun holds _ => (spared holds).cancelled requested)
    · rename_i notRequested
      exact wp_pure.2 ⟨rfl, by simpa using notRequested⟩
  rintro _ _ ⟨rfl, notRequested⟩
  refine wp_bind_of _ (recoverFinalPath_recovered begun) ?_
  rintro finalPath _ ⟨rfl, recovered⟩
  rw [wp_bind, wp_rows]
  have state := frame.memory.resumption_state finalPath
  cases resumption : frame.memory.resumption finalPath with
  | reviewedPostProcess =>
    rw [resumption] at state
    have artifact : frame.memory.artifact.state = .intervention :=
      saved.sound.artifact_eq state rfl
    refine wp_enterBothThen (by rw [state]; decide) (by rw [artifact]; decide) ?_
    have sound := saved.sound.entered .postProcessing .validating inputs.now (by decide)
      (by simp [unfinalizedStates])
    have recorded (holds : careful) :=
      (saved.recorded holds).entered running .postProcessing .validating inputs.now (by decide)
    refine wp_bind_of _ (wp_write_saved sound recorded ?_) ?_
    · exact .fault sound (saved.saved ▸ saved.sound) (saved.saved ▸ running) recorded
        fun holds => saved.saved ▸ saved.recorded holds
    · rintro _ after ⟨written, same, _⟩
      exact postProcess_returned written (by simp [same, Exec.progressed,
        DirectAcquisitionAttempt.progressed, Rows.entered])
  | postProcess =>
    rw [resumption] at state
    refine wp_bind_of _ (wp_write_saved saved.sound saved.recorded ?_) ?_
    · exact .fault saved.sound (saved.saved ▸ saved.sound) (saved.saved ▸ running)
        saved.recorded fun holds => saved.saved ▸ saved.recorded holds
    · rintro _ after ⟨written, same, _⟩
      exact postProcess_returned written (by rw [same]; exact state)
  | validate =>
    rw [resumption] at state
    exact validateAndPostProcess_returned saved state (by rw [begun.rows])
  | missing =>
    rw [resumption] at state
    refine wp_raise.2
      (saved.failed running (.inr (.inr (.inl ⟨running, ?_, ?_, rfl⟩))) (by rintro - ⟨⟩))
    · rcases state with state | state <;> simp [state, unfinalizedStates]
    · rcases state with state | state <;> simp [state]
  | download =>
    rw [recovered] at resumption
    obtain ⟨notValidating, notPostProcessing⟩ := Rows.resumption_download resumption
    have downloaded : wp (download inputs) (fun _ => Downloading careful start)
        (FetchingFailed careful inputs start) (fun _ => StoreSound careful) frame :=
      download_downloading (begun.fetching (fun holds => (spared holds).reviewed notRequested)
        resumption) running notValidating
        notPostProcessing
    refine wp_bind.2 (wp_mono downloaded ?_ ?_ ?_)
    · exact fun result after downloading =>
        finalizeDownload_returned result downloading (fun holds => (spared holds).chmodable)
          fun holds => (spared holds).saved
    · exact fun failure after failed => failed.body
    · exact fun step store sound => sound.crash step

end Pullbox.Direct
