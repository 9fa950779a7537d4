import Pullbox.Direct.PassInvariant

/-!
# The handlers of one pass

Each handler starts from what the body's exception left behind and either commits a
resting state or raises. It raises a refused transition only where the failure is not
`Lawful`: a cancel while the payload is being validated or processed, a retry while it is
being validated, or a missing file while a retry is pending.
-/

namespace Pullbox.Direct

open Durable Program Exec

variable {careful lawful live : Prop} {start : Store} {frame : Frame Rows Store}
  {inputs : ExecutionInputs} {view : RowsView} {error : ClassifiedError} {failure : Failure}

/-- The failures the tables let a handler record, by the rows it starts from. -/
def Lawful (rows : Rows) : Failure → Prop
  | .cancelled => rows.attempt.state ≠ .validating ∧ rows.attempt.state ≠ .postProcessing
  | .classified error => rows.attempt.state ≠ .retryPending ∧
      (rows.attempt.state = .validating → ¬ (error.retryable = true ∧ rows.retryBudget.Left))
  | _ => True

/-- Rows still fetching have no final file in their workspace. -/
theorem Recorded.clear {workspaces : Workspaces}
    (recorded : Recorded view workspaces)
    (fetching : view.acquisition = .resolving ∨ view.acquisition = .downloading)
    (suffix : ComicSuffix) : workspaces.file view.artifactId (.artifact suffix) = none := by
  by_contra present
  have claimed := recorded.selected suffix (Option.isSome_iff_ne_none.2 present)
  rcases fetching with state | state <;>
    simp [state, finalizedStates] at claimed

/-- What a handler works on: sound rows in memory and in the database. -/
structure Handling (careful live : Prop) (frame : Frame Rows Store) : Prop where
  memory : Sound frame.memory.view
  recorded : careful → Recorded frame.memory.view frame.durable.workspaces
  store : StoreSound careful frame.durable
  alive : live → frame.durable.rows.attempt.state.Running

theorem BodyFailed.handling (failed : BodyFailed careful inputs start failure frame)
    (notInterrupted : failure ≠ .interrupted) : Handling careful live frame :=
  ⟨failed.memory, failed.recorded,
    ⟨failed.durable, fun holds => failed.handled holds notInterrupted⟩, fun _ => failed.alive⟩

/-- Row changes away from the view keep the frame. -/
theorem Handling.rows (handling : Handling careful live frame) {rows : Rows}
    (same : rows.view = frame.memory.view) : Handling careful live { frame with memory := rows } :=
  ⟨same ▸ handling.memory, same ▸ handling.recorded, handling.store, handling.alive⟩

/-- A fault of the session escapes with the committed rows as they are. -/
theorem Handling.fault (handling : Handling careful live frame) (rows : Rows) (failure : Failure)
    (fault : failure = .unexpected ∨ failure = .interrupted) :
    Escaped careful lawful live failure { frame with memory := rows } where
  durable := handling.store.sound
  recorded := handling.store.recorded
  legal _ error := by rcases fault with rfl | rfl <;> simp
  alive holds _ := handling.alive holds

/-- A refused transition escapes; `lawful` rules it out. -/
theorem Handling.refused (handling : Handling careful live frame) (illegal : ¬ lawful)
    (error : TransitionError) (rows : Rows) :
    Escaped careful lawful live (.invalidTransition error) { frame with memory := rows } where
  durable := handling.store.sound
  recorded := handling.store.recorded
  legal holds := absurd holds illegal
  alive holds _ := handling.alive holds

/-- A quarantine without new final files keeps the frame. -/
theorem Handling.workspaces (handling : Handling careful live frame) {changed : Workspaces}
    (kept : frame.durable.workspaces.AddsNoFinal changed) :
    Handling careful live
      { frame with durable := { frame.durable with workspaces := changed } } where
  memory := handling.memory
  recorded holds := (handling.recorded holds).workspaces kept
  store := ⟨handling.store.sound, fun holds => (handling.store.recorded holds).workspaces kept⟩
  alive := handling.alive

theorem Handling.cleanup (handling : Handling careful live frame) (inputs : ExecutionInputs) :
    Handling careful live
      { frame with
        durable := { frame.durable with
          workspaces :=
            frame.durable.workspaces.cleanup frame.memory.artifact.id inputs.cleanup } } :=
  handling.workspaces (Workspaces.addsNoFinal_cleanup _ _ _)

theorem fail_returned (handling : Handling careful live frame)
    (running : frame.memory.attempt.state.Running) :
    wp (fail inputs) (fun _ => Returned careful) (Escaped careful lawful live)
      (CrashSound careful) frame := by
  refine wp_transitionBoth ?_ ?_
  · exact fun refused => absurd (handling.memory.coherent.accepts_failed running) refused
  · intro _ _
    have terminal : (frame.memory.entered .failed .failed inputs.now).attempt.state ∈
        acquisitionTerminalStates := by simp [Rows.entered, acquisitionTerminalStates]
    exact wp_writeResult
      (handling.memory.terminal terminal (by simp) rfl rfl)
      (fun holds => (handling.recorded holds).entered running .failed .failed inputs.now (by decide))
      (by simp [Rows.Resting, Rows.entered, restingStates, restingArtifactStates]) (handling.fault _)

theorem intervene_returned (handling : Handling careful live frame)
    (running : frame.memory.attempt.state.Running)
    (legal : lawful → frame.memory.attempt.state.Accepts .intervention ∧
      frame.memory.artifact.state.Accepts .intervention) :
    wp (intervene inputs) (fun _ => Returned careful) (Escaped careful lawful live)
      (CrashSound careful) frame := by
  refine wp_intervene handling.memory handling.recorded running ?_ ?_
  · exact fun refused error rows =>
      handling.refused (fun holds => refused (legal holds)) error rows
  · exact fun failure rows fault _ _ => handling.fault rows failure fault

/-- Moving fetching rows to another coherent pair keeps them recorded: there is no final
file to record. -/
theorem Handling.fetched (handling : Handling careful live frame)
    (fetching : frame.memory.attempt.state = .resolving ∨
      frame.memory.attempt.state = .downloading) (same : view.artifactId = frame.memory.artifact.id)
    (retired : view.retired = frame.memory.view.retired)
    (next : view.nextArtifactId = frame.memory.nextArtifactId) (holds : careful) :
    Recorded view frame.durable.workspaces :=
  .of_clear (fun suffix => same ▸ (handling.recorded holds).clear fetching suffix)
    ((handling.recorded holds).others.of_eq retired next)

theorem keepCheckpoint_handling (checkpoint : Option HttpTransferCheckpoint)
    (handling : Handling careful live frame) (state : frame.memory.attempt.state = .downloading) :
    wp (keepCheckpoint inputs checkpoint)
      (fun _ after => Handling careful live after ∧ after.memory.attempt.state = .downloading)
      (Escaped careful lawful live) (CrashSound careful) frame := by
  cases checkpoint with
  | some checkpoint =>
    rw [keepCheckpoint, wp_modifyArtifact]
    exact ⟨handling.rows rfl, state⟩
  | none =>
    have changed := handling.workspaces
      (Workspaces.addsNoFinal_put _ frame.memory.artifact.id .payloadPart none (.inl rfl))
    rw [keepCheckpoint, wp_bind, removePartial, wp_quarantine,
      wp_modifyArtifact]
    exact ⟨changed.store.crash _, changed.rows rfl, state⟩

theorem pause_returned (checkpoint : Option HttpTransferCheckpoint)
    (handling : Handling careful live frame) (state : frame.memory.attempt.state = .downloading) :
    wp (pause inputs checkpoint) (fun _ => Returned careful) (Escaped careful lawful live)
      (CrashSound careful) frame := by
  refine wp_bind_of _ (keepCheckpoint_handling checkpoint handling state) ?_
  intro _ kept ⟨handling, state⟩
  have artifact : kept.memory.artifact.state = .transferring :=
    handling.memory.artifact_eq state rfl
  refine wp_transitionBoth ?_ ?_
  · intro refused
    rw [state, artifact] at refused
    exact absurd (by decide) refused
  · intro _ _
    refine wp_writeResult ?_ ?_ (by simp [Rows.Resting, Rows.entered, restingStates, restingArtifactStates]) (handling.fault _)
    · rw [Rows.view_entered]
      exact handling.memory.moved _ _ (by decide) (by simp [state, unfinalizedStates])
    · exact handling.fetched (.inr state) (by simp) rfl rfl

/-- The rows a cancellation commits. -/
def Rows.cancelled (rows : Rows) (now : Instant) : Rows :=
  Exec.progressed (rows.entered .cancelled .cancelled now) .cancelled

@[simp] theorem Rows.cancelled_attempt_state (rows : Rows) (now : Instant) :
    (rows.cancelled now).attempt.state = .cancelled := by
  simp [Rows.cancelled, Exec.progressed, Rows.entered, DirectAcquisitionAttempt.progressed]

@[simp] theorem Rows.cancelled_artifact_state (rows : Rows) (now : Instant) :
    (rows.cancelled now).artifact.state = .cancelled := by
  simp [Rows.cancelled, Exec.progressed, Rows.entered]

@[simp] theorem Rows.cancelled_artifact_id (rows : Rows) (now : Instant) :
    (rows.cancelled now).artifact.id = rows.artifact.id := by
  simp [Rows.cancelled, Exec.progressed, Rows.entered]

/-- Both tables admit the cancellation and its commit goes through. -/
def Rows.Cancels (rows : Rows) (inputs : ExecutionInputs) : Prop :=
  (rows.attempt.state.Accepts .cancelled ∧ rows.artifact.state.Accepts .cancelled) ∧
    inputs.signal .cancelled = .proceeds

/-- The end of a cancellation: the cancelled rows are committed, or nothing is. -/
theorem wp_commitCancelled {α : Type} {rest : Exec α} {returns : α → Frame Rows Store → Prop}
    {raises : Failure → Frame Rows Store → Prop} {crashes : DurableStep → Store → Prop}
    (committed : frame.memory.Cancels inputs →
      crashes (.committed .cancelled)
          { frame.durable with rows := frame.memory.cancelled inputs.now } ∧
        wp rest returns raises crashes
          ⟨frame.memory.cancelled inputs.now,
            { frame.durable with rows := frame.memory.cancelled inputs.now }⟩)
    (refused : ¬ frame.memory.Cancels inputs →
      ∀ failure rows, raises failure { frame with memory := rows }) :
    wp (Exec.transitionArtifact inputs .cancelled >>= fun _ =>
        Exec.transitionAcquisition inputs .cancelled >>= fun _ =>
          Exec.write (inputs.signal .cancelled) .cancelled .cancelled >>= fun _ => rest)
      returns raises crashes frame := by
  refine wp_transitionBoth ?_ ?_
  · exact fun refuses error rows => refused (fun cancels => refuses cancels.1) _ rows
  · intro acquisition artifact
    rw [wp_bind, wp_write]
    refine ⟨fun proceeds => committed ⟨⟨acquisition, artifact⟩, proceeds⟩, fun fault => ?_,
      fun fault => ?_⟩
    · exact refused (fun cancels => by simp [cancels.2] at fault) _ _
    · exact refused (fun cancels => by simp [cancels.2] at fault) _ _

/-- No final file survives a cancellation that the tables accept: one that was there stood
in a review, and the cleanup removes it. -/
theorem Recorded.cleared {rows : Rows} {workspaces : Workspaces} {outcome : RemovalOutcome}
    (recorded : Recorded rows.view workspaces) (sound : Sound rows.view)
    (running : rows.attempt.state.Running)
    (accepts : rows.attempt.state.Accepts .cancelled ∧ rows.artifact.state.Accepts .cancelled)
    (removable : rows.attempt.state = .intervention → ∀ suffix,
      (workspaces.file rows.artifact.id (.artifact suffix)).isSome →
        outcome.Removes (.artifact suffix)) (suffix : ComicSuffix) :
    (workspaces.cleanup rows.artifact.id outcome).file rows.artifact.id (.artifact suffix) =
      none := by
  by_contra survives
  have present := Workspaces.file_cleanup_isSome _ _ _ _ _ (Option.isSome_iff_ne_none.2 survives)
  have finalized :=
    ((recorded.selected suffix present).resolve_left running.ne_completed).1
  have intervened : rows.attempt.state = .intervention := by
    obtain ⟨notValidating, notPostProcessing⟩ :=
      (sound.coherent.accepts_cancelled_iff running).1 accepts
    simp only [finalizedStates, Rows.view_acquisition, List.mem_cons, List.not_mem_nil,
      or_false] at finalized
    rcases finalized with state | state | state | state | state
    · exact absurd state notValidating
    · exact absurd state notPostProcessing
    · exact state
    · exact absurd (by simp [state, acquisitionTerminalStates]) running
    · exact absurd (by simp [state, acquisitionTerminalStates]) running
  exact survives (Workspaces.file_cleanup_removes _ _ _ (removable intervened suffix present))

theorem handleCancelled_returned (handling : Handling careful live frame)
    (running : frame.memory.attempt.state.Running)
    (removable : careful → frame.memory.attempt.state = .intervention → ∀ suffix,
      (frame.durable.workspaces.file frame.memory.artifact.id (.artifact suffix)).isSome →
        inputs.cleanup.Removes (.artifact suffix))
    (legal : lawful → Lawful frame.memory .cancelled) :
    wp (handleCancelled inputs) (fun _ => Returned careful) (Escaped careful lawful live)
      (CrashSound careful) frame := by
  have cleaned := handling.cleanup inputs
  rw [handleCancelled, wp_bind, wp_cleanup]
  refine ⟨cleaned.store.crash _, ?_⟩
  rw [wp_bind, wp_modifyArtifact]
  have accepts := handling.memory.coherent.accepts_cancelled_iff running
  refine wp_transitionBoth ?_ ?_
  · intro refused error rows
    exact cleaned.refused (fun holds => refused (accepts.2 (legal holds))) error rows
  · intro acquisition artifact
    have terminal : DirectAcquisitionState.cancelled ∈ acquisitionTerminalStates := by decide
    refine wp_writeResult ?_ (fun holds => ?_) (by simp [Rows.Resting, Rows.entered, restingStates, restingArtifactStates]) (cleaned.fault _)
    · exact cleaned.memory.terminal (by simpa using terminal) (by simp) rfl rfl
    · rw [Rows.view_entered]
      exact .of_clear ((handling.recorded holds).cleared handling.memory running
        ⟨acquisition, artifact⟩ (removable holds)) ((cleaned.recorded holds).others.of_eq rfl rfl)

theorem scheduleRetry_returned (handling : Handling careful live frame)
    (active : frame.memory.attempt.state = .resolving ∨
      frame.memory.attempt.state = .downloading ∨ frame.memory.attempt.state = .validating)
    (legal : lawful → frame.memory.attempt.state ≠ .validating) :
    wp (scheduleRetry inputs) (fun _ => Returned careful) (Escaped careful lawful live)
      (CrashSound careful) frame := by
  rw [scheduleRetry, wp_bind, wp_remember]
  refine wp_transitionBoth ?_ ?_
  · intro refused error rows
    refine handling.refused (fun holds => refused ?_) error rows
    rcases active with state | state | state
    · have artifact : frame.memory.artifact.state = .resolving :=
        handling.memory.artifact_eq state rfl
      simp only [Rows.countRetry, state, artifact]
      decide
    · have artifact : frame.memory.artifact.state = .transferring :=
        handling.memory.artifact_eq state rfl
      simp only [Rows.countRetry, state, artifact]
      decide
    · exact absurd state (legal holds)
  · intro _ accepts
    have fetching : frame.memory.attempt.state = .resolving ∨
        frame.memory.attempt.state = .downloading := by
      rcases active with state | state | state
      · exact .inl state
      · exact .inr state
      · -- validating artifacts have no way to a pending retry
        have artifact : frame.memory.artifact.state = .validating :=
          handling.memory.artifact_eq state rfl
        simp only [Rows.countRetry, artifact] at accepts
        exact absurd accepts (by decide)
    refine wp_writeResult ?_ ?_ (by simp [Rows.Resting, Rows.entered, restingStates, restingArtifactStates]) (handling.fault _)
    · rw [Rows.view_entered]
      exact (handling.memory.moved .retryPending .retryPending (by decide)
        (by simp [unfinalizedStates])).budget _
    · exact handling.fetched fetching (by simp [Rows.countRetry]) rfl rfl

/-- The view of rows whose acquisition was queued again with a fresh artifact. -/
def RowsView.requeued (view : RowsView) (budget : RetryBudget) : RowsView where
  acquisition := .queued
  artifact := .planned
  path := none
  artifactId := view.nextArtifactId
  nextArtifactId := view.nextArtifactId + 1
  retired := (view.artifactId, view.path) :: view.retired
  budget := budget

theorem Sound.requeued (sound : Sound view) (budget : RetryBudget) :
    Sound (view.requeued budget) where
  coherent := by simp only [RowsView.requeued]; decide
  unfinalized := by simp [RowsView.requeued]
  numbered id listed := by
    rcases List.mem_cons.1 listed with rfl | listed
    · exact Nat.lt_succ_self _
    · exact Nat.lt_succ_of_lt (sound.numbered id listed)
  distinct := List.nodup_cons.2
    ⟨fun listed => Nat.lt_irrefl _ (sound.numbered _ listed), sound.distinct⟩

theorem Recorded.requeued {workspaces : Workspaces}
    (claimed : Claimed view workspaces) (others : Others view workspaces) (budget : RetryBudget) :
    Recorded (view.requeued budget) workspaces where
  selected suffix present := absurd ⟨suffix, present⟩ (others.fresh _ (Nat.le_refl _))
  others :=
    { retired := by
        intro row listed
        rcases List.mem_cons.1 listed with rfl | listed
        · exact claimed
        · exact others.retired row listed
      fresh := fun id unused => others.fresh id (Nat.le_of_succ_le unused) }

/-- A queued fallback is saved with a fresh artifact; otherwise nothing has changed. -/
theorem queueNextArtifactRoute_returned (sound : Sound frame.memory.view)
    (claimed : careful → Claimed frame.memory.view frame.durable.workspaces)
    (others : careful → Others frame.memory.view frame.durable.workspaces)
    (queueable : frame.memory.attempt.state.Accepts .queued)
    (failable : frame.memory.artifact.state.Accepts .failed)
    {raises : Failure → Frame Rows Store → Prop}
    (fault : ∀ failure (rows : Rows), failure = .unexpected ∨ failure = .interrupted →
      raises failure { frame with memory := rows }) :
    wp (queueNextArtifactRoute inputs)
      (fun queued after =>
        if queued then Saved careful after ∧ after.memory.Resting
        else frame = after)
      raises (fun _ => StoreSound careful) frame := by
  rw [queueNextArtifactRoute, wp_bind, wp_rows]
  cases frame.memory.attempt.planSnapshot.artifacts with
  | none => simp
  | some routes =>
    rw [wp_bind, wp_await]
    refine ⟨fun _ => ?_, fun _ => fault _ _ (.inl rfl), fun _ => fault _ _ (.inr rfl)⟩
    dsimp only
    split
    · simp
    · rename_i next _
      rw [wp_bind, wp_transitionArtifact]
      refine ⟨fun _ => ?_, fun refuses => absurd failable refuses⟩
      rw [wp_bind, wp_remember, wp_bind, wp_transitionAcquisition]
      refine ⟨fun _ => ?_, fun refuses => absurd queueable refuses⟩
      rw [wp_bind, wp_modifyAttempt]
      refine wp_bind_of (fun _ after => Saved careful after ∧ after.memory = _ ∧ _)
        (wp_write_kept ?_ ?_ fun failure cause => fault failure _ cause) ?_
      · have requeued := sound.requeued ⟨0, frame.memory.attempt.maxRetries, 0, 3⟩
        simpa [Rows.view, RowsView.requeued, Rows.selectFallback, Rows.retryBudget,
          plannedArtifact, DirectAcquisitionAttempt.planned,
          DirectAcquisitionAttempt.clearFailure] using requeued
      · intro holds
        have requeued := Recorded.requeued (claimed holds) (others holds)
          ⟨0, frame.memory.attempt.maxRetries, 0, 3⟩
        simpa [Rows.view, RowsView.requeued, Rows.selectFallback, Rows.retryBudget,
          plannedArtifact, DirectAcquisitionAttempt.planned,
          DirectAcquisitionAttempt.clearFailure] using requeued
      · rintro _ after ⟨saved, same, _⟩
        refine wp_pure.2 ⟨saved, ?_⟩
        simp [same, Rows.Resting, Exec.progressed, DirectAcquisitionAttempt.progressed,
          DirectAcquisitionAttempt.clearFailure, Rows.selectFallback, plannedArtifact,
          restingStates, restingArtifactStates]

/-- Forgetting the recorded path of fetching rows keeps the frame. -/
theorem Handling.forgetPath (handling : Handling careful live frame)
    (fetching : frame.memory.attempt.state = .resolving ∨
      frame.memory.attempt.state = .downloading) :
    Handling careful live
      { frame with
        memory := { frame.memory with
          artifact := { frame.memory.artifact with quarantinePath := none } } } where
  memory := handling.memory.pathless
  recorded := handling.fetched fetching rfl rfl rfl
  store := handling.store
  alive := handling.alive

/-- Only resolution and transfer raise errors another route can avoid. -/
theorem Raised.fetching_of_routeScoped (raised : Raised inputs start view (.classified error))
    (routeScoped : supportsRouteFallback error.failureClass = true) :
    view.acquisition = .resolving ∨ view.acquisition = .downloading := by
  rcases raised with state | state | ⟨_, _, _, rfl⟩ | ⟨_, _, _, rejection, _, _, rfl⟩
  · exact .inl state
  · exact .inr state
  · exact absurd routeScoped (by decide)
  · exact absurd routeScoped (by simp [DirectArtifactValidationError.classified,
      supportsRouteFallback, routeScopedFailures])

/-- Retryable errors come from resolution, transfer or validation. -/
theorem Raised.active_of_retryable (raised : Raised inputs start view (.classified error))
    (retryable : error.retryable = true) :
    view.acquisition = .resolving ∨ view.acquisition = .downloading ∨
      view.acquisition = .validating := by
  rcases raised with state | state | ⟨_, _, _, rfl⟩ | ⟨state, _⟩
  · exact .inl state
  · exact .inr (.inl state)
  · cases retryable
  · exact .inr (.inr state)

theorem Raised.running
    (raised : Raised inputs start view (.classified error)) : view.acquisition.Running := by
  rcases raised with state | state | ⟨running, _⟩ | ⟨state, _⟩
  · rw [state]; decide
  · rw [state]; decide
  · exact running
  · rw [state]; decide

/-- A classified failure can be handed to the user unless a retry is pending. -/
theorem Raised.accepts_intervention (sound : Sound view)
    (raised : Raised inputs start view (.classified error))
    (notPending : view.acquisition ≠ .retryPending) :
    view.acquisition.Accepts .intervention ∧ view.artifact.Accepts .intervention := by
  refine sound.coherent.accepts_intervention ?_
  have coherent := sound.coherent
  rcases raised with state | state | ⟨running, finalized, _⟩ | ⟨state, _⟩
  · exact .inl state
  · exact .inr (.inl state)
  · revert coherent running finalized notPending
    cases view.acquisition <;> cases view.artifact <;> decide
  · exact .inr (.inr (.inl state))

theorem classifiedFailure_returned (handling : Handling careful live frame)
    (raised : Raised inputs start frame.memory.view (.classified error))
    (legal : lawful → Lawful frame.memory (.classified error)) :
    wp (classifiedFailure inputs error) (fun _ => Returned careful)
      (Escaped careful lawful live) (CrashSound careful) frame := by
  have unresolved (start : Frame Rows Store) (handling : Handling careful live start)
      (state : start.memory.attempt.state = frame.memory.attempt.state)
      (artifact : start.memory.artifact.state = frame.memory.artifact.state) :
      wp (if error.intervention then intervene inputs else fail inputs)
        (fun _ => Returned careful) (Escaped careful lawful live) (CrashSound careful) start := by
    split
    · refine intervene_returned handling (state ▸ raised.running) fun holds => ?_
      rw [state, artifact]
      exact Raised.accepts_intervention ‹Handling careful live frame›.memory raised (legal holds).1
    · exact fail_returned handling (state ▸ raised.running)
  have recorded : Handling careful live
      { frame with memory := frame.memory.recordFailure error } := handling.rows rfl
  rw [classifiedFailure, wp_bind, wp_remember, wp_bind, wp_rows]
  split
  · rename_i retry
    refine scheduleRetry_returned recorded (raised.active_of_retryable retry.1) ?_
    exact fun holds state => (legal holds).2 state retry
  split
  · rename_i routeScoped
    have fetching : frame.memory.attempt.state = .resolving ∨
        frame.memory.attempt.state = .downloading := raised.fetching_of_routeScoped routeScoped
    have cleaned := recorded.cleanup inputs
    rw [wp_bind, wp_cleanup]
    refine ⟨cleaned.store.crash _, ?_⟩
    rw [wp_bind, wp_modifyArtifact]
    have forgotten := cleaned.forgetPath fetching
    refine wp_bind_of _ (wp_mono (queueNextArtifactRoute_returned forgotten.memory
      (fun holds => (forgotten.recorded holds).claimed ?_)
      (fun holds => (forgotten.recorded holds).others) ?_ ?_ fun failure rows => forgotten.fault rows failure) (fun _ _ outcome => outcome)
      (fun _ _ escaped => escaped) fun step _ sound => sound.crash step) ?_
    · exact raised.running.ne_completed
    · rcases fetching with state | state <;> simp only [Rows.recordFailure, state] <;> decide
    · exact (forgotten.memory.coherent.accepts_failed (raised.running)).2
    · intro queued after outcome
      cases queued with
      | true =>
        obtain ⟨saved, resting⟩ := outcome
        simp only [if_true, wp_bind, wp_rows, wp_pure]
        exact ⟨saved, resting⟩
      | false =>
        cases outcome
        exact unresolved _ forgotten rfl rfl
  · exact unresolved _ recorded rfl rfl

/-- Every exception of the body is recorded or escapes. -/
theorem handleFailure_returned (failed : BodyFailed careful inputs start failure frame)
    (legal : lawful → Lawful frame.memory failure) :
    wp (handleFailure inputs failure) (fun _ => Returned careful)
      (Escaped careful lawful live) (CrashSound careful) frame := by
  have raised := failed.raised
  cases failure with
  | paused checkpoint => exact pause_returned checkpoint (failed.handling nofun) raised
  | cancelled =>
    exact handleCancelled_returned (failed.handling nofun) raised.1
      (fun holds => failed.removable holds rfl) legal
  | planning error =>
    have classified : Raised inputs start frame.memory.view
        (.classified (routeSourceFailure error)) := by
      rcases raised with state | state
      · exact .inl state
      · exact .inr (.inl state)
    refine classifiedFailure_returned (failed.handling nofun) classified fun _ => ?_
    rcases raised with state | state <;> rw [Rows.view_acquisition] at state <;>
      simp [Lawful, state]
  | classified error =>
    have handling : Handling careful live frame := failed.handling nofun
    rw [handleFailure, wp_bind, wp_await]
    exact ⟨fun _ => classifiedFailure_returned handling raised legal,
      fun _ => handling.fault _ _ (.inl rfl), fun _ => handling.fault _ _ (.inr rfl)⟩
  | interrupted =>
    rw [handleFailure, wp_bind, wp_commit, wp_raise]
    exact ⟨⟨failed.memory, fun holds _ => failed.recorded holds⟩,
      ⟨failed.memory, failed.recorded, fun _ _ => nofun,
        fun _ notInterrupted => absurd rfl notInterrupted⟩⟩
  | unexpected =>
    exact wp_raise.2
      ⟨failed.durable, fun holds => failed.handled holds nofun, fun _ _ => nofun,
        fun _ _ => failed.alive⟩
  | invalidTransition error => exact raised.elim
  | notRunnable message => exact raised.elim

/-- The passes whose failures the tables let the handlers record. -/
structure Permitted (inputs : ExecutionInputs) (start : Store) : Prop where
  cancel : inputs.cancelRequested = true →
    start.rows.attempt.state ≠ .validating ∧ start.rows.attempt.state ≠ .postProcessing
  present : start.rows.attempt.state = .retryPending → ¬ start.MissingFinal
  validation : ∀ checks, inputs.validation = .checked checks → checks.Unreadable →
    ¬ start.rows.retryBudget.Left

theorem Permitted.of_raised (permitted : Permitted inputs start) {rows : Rows}
    (raised : Raised inputs start rows.view failure) : Lawful rows failure := by
  cases failure with
  | cancelled =>
    rcases raised.2 with ⟨requested, state⟩ | later
    · rw [Rows.view_acquisition] at state
      rw [Lawful, state]
      exact permitted.cancel requested
    · exact later
  | classified error =>
    rcases raised with state | state | ⟨_, _, pending, rfl⟩ |
        ⟨state, budget, checks, rejection, answer, verdict, rfl⟩
    · rw [Rows.view_acquisition] at state
      simp [Lawful, state]
    · rw [Rows.view_acquisition] at state
      simp [Lawful, state]
    · refine ⟨fun state => ?_, fun _ retry => by cases retry.1⟩
      exact permitted.present (pending state).1 (pending state).2
    · rw [Rows.view_acquisition] at state
      refine ⟨by simp [state], fun _ retry => ?_⟩
      exact permitted.validation checks answer
        ((validateDirectArtifact_retryable verdict).1 retry.1) (budget ▸ retry.2)
  | _ => trivial

/-- A quarantine without new final files keeps the store sound. -/
theorem StoreSound.workspaces (sound : StoreSound careful start) {changed : Workspaces}
    (kept : start.workspaces.AddsNoFinal changed) :
    StoreSound careful { start with workspaces := changed } :=
  ⟨sound.sound, fun holds => (sound.recorded holds).workspaces kept⟩

theorem StoreSound.prepare (sound : StoreSound careful start) :
    StoreSound careful
      { start with workspaces := start.workspaces.prepare start.rows.artifact.id } :=
  sound.workspaces (Workspaces.addsNoFinal_prepare _ _)

/-- The frame the body of a pass starts from. -/
def Store.begun (store : Store) : Frame Rows Store :=
  ⟨store.rows, { store with workspaces := store.workspaces.prepare store.rows.artifact.id }⟩

theorem StoreSound.begun (sound : StoreSound careful start)
    (running : start.rows.attempt.state.Running) : Begun careful start start.begun :=
  { saved := ⟨sound.prepare.sound, sound.prepare.recorded, rfl⟩
    rows := rfl
    files := by simp [Store.begun]
    running := running }

/-- A pass from a sound store: it returns with a resting row, or escapes. -/
theorem execute_returned (sound : StoreSound careful start) (memory : Rows)
    (spared : careful → PassCareful inputs start.rows)
    (permitted : lawful → Permitted inputs start)
    (alive : live → start.rows.attempt.state.Running) :
    wp (execute inputs) (fun _ => Returned careful)
      (Escaped careful lawful live) (CrashSound careful) ⟨memory, start⟩ := by
  have escaped (failure : Failure) (notInvalid : ∀ error, failure ≠ .invalidTransition error) :
      Escaped careful lawful live failure ⟨start.rows, start⟩ :=
    ⟨sound.sound, sound.recorded, fun _ => notInvalid, fun holds _ => alive holds⟩
  rw [execute, wp_bind, wp_rollback]
  refine wp_bind_of (fun _ after => ⟨start.rows, start⟩ = after ∧
    start.rows.attempt.state.Running) ?_ ?_
  · rw [validateRunnable, wp_bind, wp_rows]
    split
    · exact wp_raise.2 (escaped _ nofun)
    split
    · exact wp_raise.2 (escaped _ nofun)
    · rename_i running
      exact wp_pure.2 ⟨rfl, running⟩
  rintro _ _ ⟨rfl, running⟩
  rw [wp_bind, prepareWorkspace]
  split
  · rw [wp_quarantine]
    refine ⟨sound.prepare.crash _, ?_⟩
    rw [wp_handle]
    refine wp_mono (executeBody_returned (sound.begun running) spared) ?_ ?_ ?_
    · exact fun _ _ returned => returned
    · exact fun failure after failed =>
        handleFailure_returned failed fun holds => (permitted holds).of_raised failed.raised
    · exact fun _ _ crash => crash
  · exact wp_raise.2 (escaped _ nofun)

end Pullbox.Direct
