import Pullbox.Direct.Handlers
import Pullbox.Direct.Runner

/-!
# Every step keeps the invariants

The invariants of a pass, carried through the runner and every other operation, and by
induction through every run of one acquisition.
-/

namespace Pullbox.Direct

open Durable Exec List Nat Program

variable {careful lawful live : Prop} {store : Store} {frame : Frame Rows Store}
  {inputs : ExecutionInputs} {rows : Rows}

/-- The rows a pass is dispatched with. -/
def Rows.dispatched (rows : Rows) (now : Instant) : Rows :=
  if rows.attempt.state = .planned then
    { rows with attempt := rows.attempt.entered .queued now }
  else
    rows

/-- The store a pass is dispatched with. -/
def Store.dispatched (store : Store) (now : Instant) : Store :=
  { store with rows := store.rows.dispatched now }

theorem StoreSound.dispatched (sound : StoreSound careful store) (now : Instant) :
    StoreSound careful (store.dispatched now) := by
  unfold Store.dispatched Rows.dispatched
  split
  · rename_i state
    have artifact : store.rows.artifact.state = .planned := sound.sound.artifact_eq state rfl
    have view : ({ store.rows with attempt := store.rows.attempt.entered .queued now } :
        Rows).view = { store.rows.view with acquisition := .queued, artifact := .planned } := by
      simp [Rows.view, Rows.retryBudget, artifact]
    constructor
    · rw [view]
      exact sound.sound.moved _ _ (by decide) (by simp [state, unfinalizedStates])
    · intro holds
      rw [view]
      have recorded := sound.recorded holds
      refine ⟨fun suffix present => ?_, recorded.others.of_eq rfl rfl⟩
      have claimed := recorded.selected suffix present
      simp [state, finalizedStates] at claimed
  · exact sound

theorem markQueued_dispatched (sound : StoreSound careful store) (memory : Rows) :
    wp (markQueued inputs)
      (fun _ after => after =
        ⟨store.rows.dispatched inputs.now, store.dispatched inputs.now⟩)
      (fun _ _ => False) (CrashSound careful) ⟨memory, store⟩ := by
  have dispatched := sound.dispatched inputs.now
  rw [markQueued, wp_bind, wp_rollback, wp_bind, wp_rows]
  simp only [Store.dispatched, Rows.dispatched] at dispatched ⊢
  split
  · rename_i state
    have accepts : store.rows.attempt.state.Accepts .queued := by
      rw [state]
      decide
    rw [if_pos state] at dispatched
    rw [wp_bind, wp_transitionAcquisition]
    refine ⟨fun _ => ?_, fun refuses => absurd accepts refuses⟩
    rw [wp_commit]
    exact ⟨dispatched.crash _, rfl⟩
  · exact wp_pure.2 rfl

/-- Both rows are failed and say why. -/
def Rows.FailureRecorded (rows : Rows) : Prop :=
  rows.attempt.state = .failed ∧ rows.artifact.state = .failed ∧
    rows.attempt.failureClass.isSome ∧ rows.artifact.failureClass.isSome

/-- How a supervised pass can raise: it was shut down, or both rows of a live acquisition
are recorded as failed. -/
structure Supervised (careful lawful live : Prop) (failure : Failure)
    (after : Frame Rows Store) : Prop where
  sound : StoreSound careful after.durable
  legal : lawful → ∀ error, failure ≠ .invalidTransition error
  ended : live → failure ≠ .interrupted → after.durable.rows.FailureRecorded

theorem superviseFailure_supervised {failure : Failure}
    (escaped : Escaped careful lawful live failure frame) :
    wp (superviseFailure inputs failure) (fun _ _ => False)
      (Supervised careful lawful live) (CrashSound careful) frame := by
  unfold superviseFailure
  split
  · exact wp_raise.2 ⟨⟨escaped.durable, escaped.recorded⟩, fun _ _ => (by rintro ⟨⟩),
      fun _ notInterrupted => absurd rfl notInterrupted⟩
  · rename_i notInterrupted
    rw [wp_bind, wp_rollback, wp_bind, markUnexpectedFailure,
      wp_bind, wp_rows]
    split
    · rename_i terminal
      exact wp_pure.2 (wp_raise.2 ⟨⟨escaped.durable, escaped.recorded⟩,
        escaped.legal, fun holds _ => absurd terminal (escaped.alive holds notInterrupted)⟩)
    · rename_i running
      rw [wp_bind, wp_remember]
      refine wp_transitionBoth ?_ ?_
      · intro refused
        exact absurd (escaped.durable.coherent.accepts_failed running) refused
      · intro _ _
        have terminal : DirectAcquisitionState.failed ∈ acquisitionTerminalStates := by decide
        have recorded (holds : careful) :
            Recorded (frame.durable.rows.recordFailure workerFailure).view
              frame.durable.workspaces := escaped.recorded holds
        have ended : StoreSound careful { frame.durable with
            rows := Exec.progressed ((frame.durable.rows.recordFailure workerFailure).entered
              .failed .failed inputs.now) .failed } :=
          ⟨escaped.durable.terminal (by simpa [Exec.progressed, Rows.entered,
              DirectAcquisitionAttempt.progressed] using terminal)
            (by simp [Exec.progressed, Rows.entered, Rows.recordFailure]) rfl rfl,
            fun holds => (recorded holds).entered running .failed .failed inputs.now (by decide)⟩
        rw [wp_write]
        refine ⟨fun _ => ⟨ended.crash _, wp_raise.2 ⟨ended, escaped.legal, fun _ _ => ?_⟩⟩,
          (by rintro ⟨⟩), (by rintro ⟨⟩)⟩
        simp [Rows.FailureRecorded, Exec.progressed, Rows.entered, Rows.recordFailure,
          DirectAcquisitionAttempt.progressed]

theorem Permitted.dispatched (permitted : Permitted inputs store) (now : Instant) :
    Permitted inputs (store.dispatched now) := by
  unfold Store.dispatched Rows.dispatched
  split
  · exact ⟨by simp, by simp, by simpa [Rows.retryBudget] using permitted.validation⟩
  · exact permitted

theorem PassCareful.dispatched (spared : PassCareful inputs rows) (now : Instant) :
    PassCareful inputs (rows.dispatched now) := by
  unfold Rows.dispatched
  split
  · exact
      { chmodable := spared.chmodable
        saved := spared.saved
        cancelled := fun _ state => by simp at state
        reviewed := fun _ state => by simp at state }
  · exact spared

theorem Rows.dispatched_running (running : rows.attempt.state.Running)
    (now : Instant) : (rows.dispatched now).attempt.state.Running := by
  unfold Rows.dispatched
  split
  · rw [DirectAcquisitionAttempt.entered_state]
    decide
  · exact running

/-- A dispatched pass: it returns with a resting row, or is over, or was shut down. -/
theorem runPass_returned (sound : StoreSound careful store)
    (spared : careful → PassCareful inputs store.rows)
    (permitted : lawful → Permitted inputs store)
    (alive : live → store.rows.attempt.state.Running) (memory : Rows) :
    wp (runPass inputs) (fun _ => Returned careful) (Supervised careful lawful live)
      (CrashSound careful) ⟨memory, store⟩ := by
  refine wp_bind.2 (wp_mono (markQueued_dispatched sound memory) ?_
    (fun _ _ impossible => impossible.elim) (fun _ _ crash => crash))
  rintro _ _ rfl
  rw [wp_handle]
  have executed : wp (execute inputs) (fun _ => Returned careful)
      (Escaped careful lawful live) (CrashSound careful)
      ⟨store.rows.dispatched inputs.now, store.dispatched inputs.now⟩ :=
    execute_returned (sound.dispatched inputs.now) _
      (fun holds => (spared holds).dispatched _)
      (fun holds => (permitted holds).dispatched _)
      fun holds => Rows.dispatched_running (alive holds) _
  refine wp_mono executed ?_ ?_ ?_
  · exact fun _ _ returned => returned
  · intro failure after escaped
    exact wp_mono (superviseFailure_supervised escaped)
      (fun _ _ impossible => impossible.elim) (fun _ _ raised => raised) (fun _ _ crash => crash)
  · exact fun _ _ crash => crash

/-- An acquisition that is cancelled with its path keeps the store sound. -/
theorem StoreSound.ended (sound : StoreSound careful store)
    (running : store.rows.attempt.state.Running)
    (same : rows.view = { store.rows.view with
      acquisition := .cancelled, artifact := rows.artifact.state }) :
    StoreSound careful { store with rows := rows } := by
  refine ⟨?_, fun holds => ?_⟩
  · rw [same]
    exact sound.sound.terminal (by simp [acquisitionTerminalStates]) rfl rfl rfl
  · rw [same]
    exact (sound.recorded holds).moved running.ne_completed _ _ (by decide)

/-- The selected workspace cleaned up. -/
theorem StoreSound.cleanup (sound : StoreSound careful store) (outcome : RemovalOutcome) :
    StoreSound careful
      { store with
        workspaces := store.workspaces.cleanup store.rows.artifact.id outcome } :=
  sound.workspaces (Workspaces.addsNoFinal_cleanup _ _ _)

/-- How any other operation leaves the store, whatever its outcome. -/
def Kept (careful : Prop) {α : Type} (_ : α) (after : Frame Rows Store) : Prop :=
  StoreSound careful after.durable

theorem cancel_kept (sound : StoreSound careful store)
    (removed : careful → store.rows.attempt.state = .intervention →
      ∀ suffix, store.rows.artifact.quarantinePath = some (.artifact suffix) →
        inputs.cleanup.Removes (.artifact suffix)) :
    wp (cancel inputs) (Kept careful) (Kept careful) (fun _ => StoreSound careful)
      ⟨store.rows, store⟩ := by
  rw [cancel, wp_bind, wp_rollback, wp_bind, wp_rows]
  split
  · exact wp_pure.2 sound
  rename_i cancellable
  have running : store.rows.attempt.state.Running := fun terminal => cancellable (by
    simp only [acquisitionTerminalStates, uncancellableStates, mem_cons, not_mem_nil,
      or_false] at terminal ⊢
    tauto)
  rw [wp_bind, prepareWorkspace]
  split
  · have prepared := sound.prepare
    have cleaned := prepared.cleanup inputs.cleanup
    rw [wp_quarantine]
    refine ⟨prepared, ?_⟩
    rw [wp_bind, wp_cleanup]
    refine ⟨cleaned, ?_⟩
    rw [wp_bind, wp_remember]
    refine wp_commitCancelled (fun cancels => ?_) (fun _ _ _ => cleaned)
    have terminal : (store.rows.cancelledByUser.cancelled inputs.now).attempt.state ∈
        acquisitionTerminalStates := by simp [acquisitionTerminalStates]
    have ended : StoreSound careful
        { store with
          rows := store.rows.cancelledByUser.cancelled inputs.now
          workspaces := (store.workspaces.prepare store.rows.artifact.id).cleanup
            store.rows.artifact.id inputs.cleanup } := by
      refine ⟨sound.sound.terminal terminal (by simp) rfl rfl, fun holds => ?_⟩
      have recorded := prepared.recorded holds
      have clear := recorded.cleared prepared.sound running cancels.1 fun state suffix present =>
        removed holds state suffix (recorded.claimed running.ne_completed suffix present)
      exact .of_clear (fun suffix => by simpa using clear suffix)
        ((cleaned.recorded holds).others.of_eq rfl rfl)
    exact ⟨ended, wp_pure.2 ended⟩
  · exact wp_raise.2 sound

/-- What an explicit retry starts over with: the same artifact, with its path. -/
theorem Rows.reopened_view {rows reopened : Rows} (opened : rows.reopened = some reopened) :
    (reopened.attempt.state = .retryPending ∧ reopened.artifact.state = .retryPending ∧
        (rows.attempt.state = .failed ∨ rows.attempt.state = .cancelled) ∨
      reopened.attempt.state = .intervention ∧ reopened.artifact.state = rows.artifact.state ∧
        rows.attempt.state = .intervention) ∧
      reopened.artifact.quarantinePath = rows.artifact.quarantinePath ∧
      reopened.artifact.id = rows.artifact.id ∧ reopened.nextArtifactId = rows.nextArtifactId ∧
      reopened.retired = rows.retired := by
  unfold Rows.reopened at opened
  split at opened
  · rename_i terminal
    unfold reopenTerminalAcquisitionForRetry at opened
    split at opened
    · obtain rfl := Option.some.inj opened
      exact ⟨.inl ⟨rfl, rfl, terminal⟩, rfl, rfl, rfl, rfl⟩
    · cases opened
  split at opened
  · rename_i state
    obtain rfl := Option.some.inj opened
    exact ⟨.inr ⟨state, rfl, state⟩, rfl, rfl, rfl, rfl⟩
  · cases opened

/-- Reopened rows are coherent, and their artifacts are those the store records. -/
theorem StoreSound.reopened (sound : StoreSound careful store) {reopened : Rows}
    (opened : store.rows.reopened = some reopened) :
    Sound reopened.view ∧ (careful → Claimed reopened.view store.workspaces) ∧
      (careful → Others reopened.view store.workspaces) := by
  obtain ⟨states, path, artifactId, nextId, retired⟩ := Rows.reopened_view opened
  have others : reopened.view.retired = store.rows.view.retired := by simp [Rows.view, retired]
  have notCompleted : store.rows.attempt.state ≠ .completed := by
    rcases states with ⟨_, _, state | state⟩ | ⟨_, _, state⟩ <;> rw [state] <;> decide
  refine ⟨⟨?_, ?_, ?_, ?_⟩, fun holds suffix present => path.trans ?_, fun holds => ?_⟩
  · rcases states with ⟨acquisition, artifact, _⟩ | ⟨acquisition, artifact, state⟩
    · rw [Rows.view_acquisition, Rows.view_artifact, acquisition, artifact]
      decide
    · have intervened : store.rows.view.acquisition = .intervention := state
      rw [Rows.view_acquisition, Rows.view_artifact, acquisition, artifact,
        show store.rows.artifact.state = .intervention from
          sound.sound.artifact_eq intervened rfl]
      decide
  · rcases states with ⟨acquisition, _⟩ | ⟨acquisition, _⟩ <;>
      simp [acquisition, unfinalizedStates]
  · simpa [RowsView.ids, Rows.view, artifactId, nextId, retired] using sound.sound.numbered
  · simpa [RowsView.ids, Rows.view, artifactId, retired] using sound.sound.distinct
  · rw [Rows.view_artifactId, artifactId] at present
    exact (sound.recorded holds).claimed notCompleted suffix present
  · exact (sound.recorded holds).others.of_eq others nextId

/-- The row of an artifact records no final file. -/
def DirectArtifactAttempt.Unfinalized (artifact : DirectArtifactAttempt) : Prop :=
  ∀ suffix, artifact.quarantinePath ≠ some (.artifact suffix)

theorem retry_kept (sound : StoreSound careful store)
    (clear : careful → store.rows.attempt.state ∈ acquisitionTerminalStates →
      inputs.blockedRoutes store.rows.artifact.artifactIdentity = false →
        store.rows.artifact.Unfinalized) :
    wp (retry inputs) (Kept careful) (Kept careful) (fun _ => StoreSound careful)
      ⟨store.rows, store⟩ := by
  rw [retry, wp_bind, wp_rollback, wp_bind, wp_rows]
  cases opened : store.rows.reopened with
  | none => simpa only [opened] using wp_pure.2 sound
  | some reopened =>
    obtain ⟨coherent, claimed, others⟩ := sound.reopened opened
    obtain ⟨states, path, artifactId, _⟩ := Rows.reopened_view opened
    rw [wp_bind, wp_remember]
    split
    · refine wp_weaken (queueNextArtifactRoute_returned coherent claimed others ?_ ?_
        fun _ _ _ => sound) ?_
      · rcases states with ⟨state, _⟩ | ⟨state, _⟩ <;> rw [state] <;> decide
      · rcases states with ⟨_, state, _⟩ | ⟨_, state, paired⟩ <;> rw [state]
        · decide
        · have intervened : store.rows.view.acquisition = .intervention := paired
          rw [show store.rows.artifact.state = .intervention from
            sound.sound.artifact_eq intervened rfl]
          decide
      · intro queued after outcome
        cases queued with
        | true =>
          obtain ⟨saved, _⟩ := outcome
          exact ⟨saved.saved ▸ saved.sound, fun holds => saved.saved ▸ saved.recorded holds⟩
        | false =>
          cases outcome
          exact sound
    · rename_i unblocked
      have ended : StoreSound careful { store with rows := reopened } := by
        refine ⟨coherent, fun holds => ⟨fun suffix present => .inr ?_, others holds⟩⟩
        have recorded := claimed holds suffix present
        rcases states with ⟨_, _, terminal⟩ | ⟨state, _⟩
        -- A terminal row that goes back to its download records no final file.
        · refine absurd (path.symm.trans recorded) (clear holds ?_ (by simpa using unblocked) suffix)
          rcases terminal with state | state <;> simp [state, acquisitionTerminalStates]
        · exact ⟨by simp [state, finalizedStates], recorded⟩
      rw [wp_bind, wp_commit]
      exact ⟨ended, wp_pure.2 ended⟩

theorem approveDirect_kept (sound : StoreSound careful store) :
    wp (approveDirect inputs) (Kept careful) (Kept careful) (fun _ => StoreSound careful)
      ⟨store.rows, store⟩ := by
  rw [approveDirect, wp_bind, wp_rollback, wp_bind, wp_rows]
  split
  · rename_i overridable
    have state : store.rows.attempt.state = .intervention := overridable.1
    have running : store.rows.attempt.state.Running := by rw [state]; decide
    have entered := sound.sound.entered .postProcessing .validating inputs.now (by decide)
      (by simp [unfinalizedStates])
    have recorded (holds : careful) :=
      (sound.recorded holds).entered running .postProcessing .validating inputs.now (by decide)
    refine wp_enterBothThen (by rw [state]; decide) ?_ ?_
    · have intervened : store.rows.view.acquisition = .intervention := state
      rw [show store.rows.artifact.state = .intervention from
        sound.sound.artifact_eq intervened rfl]
      decide
    · have approved : StoreSound careful { store with
          rows := { store.rows.entered .postProcessing .validating inputs.now with
            attempt :=
              { (store.rows.entered .postProcessing .validating inputs.now).attempt with
                planSnapshot := (store.rows.entered .postProcessing .validating
                  inputs.now).attempt.planSnapshot.allowOnce } } } := ⟨entered, recorded⟩
      rw [wp_bind, wp_modifyAttempt, wp_bind, wp_commit]
      exact ⟨approved, wp_pure.2 approved⟩
  · exact wp_pure.2 sound

/-- Cancelling the acquisition alone ends it. -/
theorem wp_cancelAttempt {α : Type} {rest : Exec α} (sound : StoreSound careful store)
    {returns : α → Frame Rows Store → Prop}
    (holds : ∀ rows : Rows,
      rows = { store.rows with attempt := store.rows.attempt.entered .cancelled inputs.now } →
      wp rest returns (Kept careful) (fun _ => StoreSound careful) ⟨rows, store⟩) :
    wp (Exec.transitionAcquisition inputs .cancelled >>= fun _ => rest) returns
      (Kept careful) (fun _ => StoreSound careful) ⟨store.rows, store⟩ := by
  rw [wp_bind, wp_transitionAcquisition]
  exact ⟨fun _ => holds _ rfl, fun _ _ _ => sound⟩

theorem rejectMatch_kept (sound : StoreSound careful store) :
    wp (rejectMatch inputs) (Kept careful) (Kept careful) (fun _ => StoreSound careful)
      ⟨store.rows, store⟩ := by
  rw [rejectMatch, wp_bind, wp_rollback, wp_bind, wp_rows]
  split
  · exact wp_pure.2 sound
  · rename_i running
    refine wp_cancelAttempt sound ?_
    rintro rows rfl
    rw [wp_bind, wp_modifyAttempt, wp_bind, wp_commit]
    refine ⟨?_, wp_pure.2 ?_⟩ <;>
      exact sound.ended running (by
        simp [Rows.view, Rows.retryBudget, DirectAcquisitionAttempt.progressed])

@[simp] theorem DirectArtifactAttempt.abandoned_id (artifact : DirectArtifactAttempt)
    (now : Instant) : (artifact.abandoned now).id = artifact.id := by
  unfold DirectArtifactAttempt.abandoned
  split <;> rfl

@[simp] theorem DirectArtifactAttempt.abandoned_quarantinePath (artifact : DirectArtifactAttempt)
    (now : Instant) : (artifact.abandoned now).quarantinePath = artifact.quarantinePath := by
  unfold DirectArtifactAttempt.abandoned
  split <;> rfl

@[simp] theorem DirectArtifactAttempt.abandoned_retries (artifact : DirectArtifactAttempt)
    (now : Instant) : (artifact.abandoned now).retryCount = artifact.retryCount ∧
      (artifact.abandoned now).maxRetries = artifact.maxRetries := by
  unfold DirectArtifactAttempt.abandoned
  split <;> exact ⟨rfl, rfl⟩

theorem cancelUnsubmittedAttempt_kept (sound : StoreSound careful store) :
    wp (cancelUnsubmittedAttempt inputs) (Kept careful) (Kept careful)
      (fun _ => StoreSound careful) ⟨store.rows, store⟩ := by
  rw [cancelUnsubmittedAttempt, wp_bind, wp_rollback, wp_bind, wp_rows]
  split
  · exact wp_pure.2 sound
  · rename_i abandonable
    have running : store.rows.attempt.state.Running := fun terminal => abandonable fun listed => by
      simp only [acquisitionTerminalStates, mem_cons, not_mem_nil, or_false]
        at terminal listed
      rcases terminal with state | state | state <;> simp [state] at listed
    refine wp_cancelAttempt sound ?_
    rintro rows rfl
    rw [wp_bind, wp_remember, wp_bind, wp_commit]
    refine ⟨?_, wp_pure.2 ?_⟩ <;>
      exact sound.ended running (by
        simp [Rows.view, Rows.retryBudget, DirectAcquisitionAttempt.progressed,
          Function.comp_def])

/-- The replacement of a source switch is planned afresh, without a path. -/
theorem Rows.replacement_view (rows : Rows) (option : DirectSourceSwitchOption) :
    (rows.replacement option).state = .planned ∧
      (rows.replacement option).quarantinePath = none := by
  unfold Rows.replacement
  split <;> exact ⟨rfl, rfl⟩

/-- The artifact a source switch replaces was retired under its identity, or is new. -/
theorem Rows.replacement_id (rows : Rows) (option : DirectSourceSwitchOption) :
    (∃ artifact, rows.retired.find? (·.artifactIdentity = option.artifactIdentity) =
        some artifact ∧ (rows.replacement option).id = artifact.id) ∨
      (rows.replacement option).id = rows.nextArtifactId := by
  unfold Rows.replacement
  split
  · rename_i artifact found
    exact .inl ⟨artifact, found, rfl⟩
  · exact .inr rfl

/-- The identifiers stay distinct: the row that is selected again leaves the retired ones. -/
theorem Sound.switched_distinct (sound : Sound rows.view)
    (option : DirectSourceSwitchOption) (blockCurrent : Bool) :
    (rows.switched option blockCurrent).view.ids.Nodup := by
  have retiredIds : rows.retired.map (·.id) = rows.view.retired.map Prod.fst := by
    simp [Rows.view]
  obtain ⟨selected, retired⟩ := nodup_cons.1 sound.distinct
  rw [← retiredIds] at selected retired
  have kept (id : Nat) (listed : id ∈ (rows.retired.filter
      (·.artifactIdentity ≠ option.artifactIdentity)).map (·.id)) :
      id ∈ rows.retired.map (·.id) := (List.Sublist.map _ filter_sublist).subset listed
  have ids : (rows.switched option blockCurrent).view.ids = (rows.replacement option).id ::
      rows.artifact.id :: (rows.retired.filter
        (·.artifactIdentity ≠ option.artifactIdentity)).map (·.id) := by
    simp [RowsView.ids, Rows.view, Rows.switched, DirectArtifactAttempt.switchedAway]
  rw [ids, nodup_cons, nodup_cons]
  refine ⟨fun listed => ?_, fun listed => selected (kept _ listed),
    retired.sublist (List.Sublist.map _ filter_sublist)⟩
  rcases rows.replacement_id option with ⟨artifact, found, same⟩ | fresh
  · have member := mem_of_find?_eq_some found
    rw [same] at listed
    rcases mem_cons.1 listed with replaced | listed
    · exact selected (mem_map.2 ⟨artifact, member, replaced⟩)
    · obtain ⟨other, survives, sameId⟩ := mem_map.1 listed
      obtain ⟨listed, different⟩ := mem_filter.1 survives
      obtain rfl := inj_on_of_nodup_map retired listed member sameId
      have identity := List.find?_some found
      simp_all
  · rw [fresh] at listed
    refine absurd (sound.numbered rows.nextArtifactId ?_) (lt_irrefl _)
    rw [RowsView.ids, ← retiredIds]
    exact mem_cons.2 ((mem_cons.1 listed).imp id (kept _))

/-- A source switch that does not select a recorded final file again keeps the store sound. -/
theorem StoreSound.switched (sound : StoreSound careful store) (option : DirectSourceSwitchOption)
    (blockCurrent : Bool) (running : store.rows.attempt.state ≠ .completed)
    (clear : careful → ∀ artifact, store.rows.retired.find?
      (·.artifactIdentity = option.artifactIdentity) = some artifact → artifact.Unfinalized) :
    StoreSound careful { store with rows := store.rows.switched option blockCurrent } := by
  obtain ⟨state, path⟩ := store.rows.replacement_view option
  have next : store.rows.nextArtifactId ≤
      (store.rows.switched option blockCurrent).nextArtifactId := le_max_left _ _
  have kept : ∀ row ∈ (store.rows.switched option blockCurrent).view.retired,
      row = (store.rows.artifact.id, store.rows.artifact.quarantinePath) ∨
        row ∈ store.rows.view.retired := by
    intro row listed
    simp only [Rows.view, Rows.switched, map_cons, mem_cons] at listed
    refine listed.imp id fun listed => ?_
    obtain ⟨artifact, survives, rfl⟩ := mem_map.1 listed
    exact mem_map_of_mem (mem_filter.1 survives).1
  refine ⟨⟨?_, ?_, ?_, sound.sound.switched_distinct option blockCurrent⟩, fun holds => ?_⟩
  · simp only [Rows.view_acquisition, Rows.view_artifact, Rows.switched, state]
    decide
  · simp [Rows.switched, path]
  · intro id listed
    rcases mem_cons.1 listed with rfl | listed
    · exact lt_of_lt_of_le (lt_succ_self _) (le_max_right _ _)
    · obtain ⟨row, retired, rfl⟩ := mem_map.1 listed
      refine lt_of_lt_of_le (sound.sound.numbered row.1 ?_) next
      rcases kept row retired with rfl | before
      · exact mem_cons_self
      · exact mem_cons_of_mem _ (mem_map_of_mem before)
  · have recorded := sound.recorded holds
    refine .of_clear (fun suffix => ?_)
      ⟨fun row listed suffix present => ?_,
        fun id unused => recorded.others.fresh id (le_trans next unused)⟩
    · by_contra present
      have present := Option.isSome_iff_ne_none.2 present
      rcases store.rows.replacement_id option with ⟨artifact, found, same⟩ | fresh
      · refine clear holds artifact found suffix (recorded.others.retired
          (artifact.id, artifact.quarantinePath) ?_ suffix (same ▸ present))
        exact mem_map.2 ⟨artifact, mem_of_find?_eq_some found, rfl⟩
      · exact recorded.others.fresh _ (le_of_eq fresh.symm) ⟨suffix, present⟩
    · rcases kept row listed with rfl | listed
      · exact recorded.claimed running suffix present
      · exact recorded.others.retired row listed suffix present

theorem queueSourceSwitch_kept (target : Option String) (blockCurrent : Bool)
    (sound : StoreSound careful store)
    (clear : careful → ∀ option, store.rows.selectedOption inputs.blockedRoutes target =
      some option → ∀ artifact, store.rows.retired.find?
        (·.artifactIdentity = option.artifactIdentity) = some artifact → artifact.Unfinalized) :
    wp (queueSourceSwitch inputs target blockCurrent) (Kept careful) (Kept careful)
      (fun _ => StoreSound careful) ⟨store.rows, store⟩ := by
  rw [queueSourceSwitch, wp_bind, wp_rollback, wp_bind, wp_rows]
  dsimp only
  cases selected : store.rows.selectedOption inputs.blockedRoutes target with
  | none => exact wp_pure.2 sound
  | some option =>
    have running : store.rows.attempt.state ≠ .completed := by
      unfold Rows.selectedOption at selected
      split at selected
      · rename_i cancelled
        simp [cancelled.1]
      · cases selected
    have switched := sound.switched option blockCurrent running
      fun holds => clear holds option selected
    rw [wp_bind, wp_remember, wp_bind, wp_commit]
    exact ⟨switched, wp_pure.2 switched⟩

/-- The steps a careful run is made of: no crash between a rename and the commit that
records it, no cancellation that forgets a final file it does not remove, and no way back
to the download for a row that records a final file. -/
def Careful : Event → Store → Prop
  | .pass inputs crash, store => PassCareful inputs store.rows ∧ crash ≠ some .finalized
  | .cancel inputs _, store =>
    store.rows.attempt.state = .intervention → ∀ suffix,
      store.rows.artifact.quarantinePath = some (.artifact suffix) →
        inputs.cleanup.Removes (.artifact suffix)
  | .retry inputs _, store =>
    store.rows.attempt.state ∈ acquisitionTerminalStates →
      inputs.blockedRoutes store.rows.artifact.artifactIdentity = false →
        store.rows.artifact.Unfinalized
  | .switchSource inputs target _ _, store =>
    ∀ option, store.rows.selectedOption inputs.blockedRoutes target = some option →
      ∀ artifact, store.rows.retired.find? (·.artifactIdentity = option.artifactIdentity) =
        some artifact → artifact.Unfinalized
  | _, _ => True

/-- The state an operation other than a pass leaves is sound, crash or not. -/
theorem Kept.leaves {α : Type} {program : Exec α} {crash : Option DurableStep} {after : Store}
    (leaves : program.Leaves store crash after)
    (kept : wp program (Kept careful) (Kept careful)
      (fun _ => StoreSound careful) ⟨store.rows, store⟩) : StoreSound careful after :=
  Program.Leaves.of_wp leaves kept (fun _ durable => StoreSound careful durable)
    (fun _ _ sound => sound) (fun _ _ sound => sound) (fun _ _ sound => sound)

/-- One step keeps the invariants, the recorded final file where the step is careful. -/
theorem Step.storeSound {event : Event} {after : Store} (step : Step event store after)
    (sound : StoreSound careful store) (guarded : careful → Careful event store) :
    StoreSound careful after := by
  cases event with
  | pass inputs crash =>
    have post : wp (runPass inputs) (fun _ => Returned careful)
        (Supervised careful False False) (CrashSound careful) ⟨store.rows, store⟩ :=
      runPass_returned sound (fun holds => (guarded holds).1) nofun nofun store.rows
    have left : ∀ mark durable, CrashSound careful mark durable →
        (careful → some mark ≠ some DurableStep.finalized) → StoreSound careful durable :=
      fun mark durable crash allowed => ⟨crash.sound, fun holds =>
        crash.recorded holds fun renamed => allowed holds (congrArg some renamed)⟩
    exact Program.Leaves.of_wp step post
      (fun mark durable => (careful → mark ≠ some .finalized) → StoreSound careful durable)
      (fun _ _ returned _ => ⟨returned.1.saved ▸ returned.1.sound,
        fun holds => returned.1.saved ▸ returned.1.recorded holds⟩)
      (fun _ _ supervised _ => supervised.sound) left fun holds => (guarded holds).2
  | cancel inputs crash => exact Kept.leaves step (cancel_kept sound guarded)
  | retry inputs crash => exact Kept.leaves step (retry_kept sound guarded)
  | approve inputs crash => exact Kept.leaves step (approveDirect_kept sound)
  | reject inputs crash => exact Kept.leaves step (rejectMatch_kept sound)
  | abandon inputs crash => exact Kept.leaves step (cancelUnsubmittedAttempt_kept sound)
  | switchSource inputs target blockCurrent crash =>
    exact Kept.leaves step (queueSourceSwitch_kept target blockCurrent sound guarded)
  | lose artifactId entry =>
    cases step
    exact sound.workspaces (Workspaces.addsNoFinal_put _ _ _ _ (.inr rfl))

theorem Planned.sound (planned : Planned store) : Sound store.rows.view where
  coherent := by
    rw [Rows.view_acquisition, Rows.view_artifact, planned.attempt, planned.artifact]
    decide
  unfinalized := by simp [planned.path]
  numbered := by simpa [RowsView.ids, Rows.view, planned.retired] using planned.numbered
  distinct := by simp [RowsView.ids, Rows.view, planned.retired]

/-- A planned acquisition whose own and later identifiers find no final file in the
quarantine: an identifier that is assigned again may find one. -/
structure PlannedClear (store : Store) : Prop extends Planned store where
  clear : ∀ id, store.rows.artifact.id ≤ id → ¬ store.workspaces.HasFinal id

theorem PlannedClear.storeSound (planned : PlannedClear store) : StoreSound True store where
  sound := planned.sound
  recorded _ :=
    { selected := fun suffix present =>
        absurd ⟨suffix, present⟩ (planned.clear _ (le_refl _))
      others :=
        { retired := by simp [Rows.view, planned.retired]
          fresh := fun id unused =>
            planned.clear id (le_of_lt (lt_of_lt_of_le planned.numbered unused)) } }

/-- A planned acquisition of one archive, before its first pass. -/
def plannedStore : Store where
  rows :=
    { attempt :=
        { id := 1
          state := .planned
          internalGenericHttps := false
          planSnapshot := { artifacts := none }
          planRevision := 1
          progressSnapshot := ⟨.planned, none⟩
          progressRevision := 1
          retryCount := 0
          maxRetries := 3
          nextRetryAt := none
          failureClass := none
          failureCode := none
          errorMessage := none
          startedAt := none
          completedAt := none
          cancelledAt := none
          libraryFileId := none }
      artifact := plannedArtifact 1 1 "saga-1" .pixeldrain none
      retired := []
      nextArtifactId := 2 }
  workspaces := fun _ => none

/-- The answers of a pass in which everything goes well: one archive is downloaded,
finalized, validated and ingested. -/
def smoothInputs : ExecutionInputs where
  now := 100
  prepares := true
  cancelRequested := false
  slots := .acquired
  source := .request ⟨"saga-1", .pixeldrain⟩
  hostConfig := none
  resolverAttempts := []
  resolution := .resolved {}
  transferEvents := [.partialFile (some [0x50, 0x4B, 0x03, 0x04])]
  transfer := .transferred ⟨4, some 4, none, none, none⟩
  finalizeIo := ⟨true, true, true⟩
  validation := .checked ⟨true, .safe, false, false, true⟩
  postProcess := .processed (some 7)
  cleanup := .removed
  blockedRoutes := fun _ => false
  signal := fun _ => .proceeds
  dates := ⟨fun _ => none, fun _ => ""⟩

theorem plannedStore_planned : Planned plannedStore :=
  ⟨rfl, rfl, rfl, rfl, lt_succ_self 1⟩

/-- The stores of every run of one acquisition whose steps an allowance admits. -/
abbrev RunStore (allowed : Event → Store → Prop) : Store → Prop :=
  Reachable Planned allowed Step

/-- Every run, whatever its steps, keeps the two rows coherent. -/
theorem RunStore.sound {allowed : Event → Store → Prop} (reachable : RunStore allowed store) :
    StoreSound False store :=
  reachable.invariant (fun _ planned => ⟨planned.sound, nofun⟩)
    fun _ _ _ sound _ step => step.storeSound sound nofun

/-- The stores of every careful run. -/
abbrev CarefulStore : Store → Prop :=
  Reachable PlannedClear Careful Step

/-- A careful run also keeps every final file recorded. -/
theorem CarefulStore.recorded (reachable : CarefulStore store) : StoreSound True store :=
  reachable.invariant (fun _ planned => planned.storeSound)
    fun _ _ _ sound admitted step => step.storeSound sound fun _ => admitted

end Pullbox.Direct
