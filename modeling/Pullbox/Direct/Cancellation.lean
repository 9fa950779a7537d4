import Pullbox.Direct.System

/-!
# When a cancellation is atomic

Both cancellations clean up the workspace first and only then ask the tables. They are
atomic where the tables and the commit follow; otherwise the rows stay, next to whatever
the removal left of their workspace.
-/

namespace Pullbox.Direct

open Durable Program Exec

variable {store : Store} {frame : Frame Rows Store} {inputs : ExecutionInputs}
  {found : Frame Rows Store}

/-- Neither the two rows nor the workspace of the selected artifact changed. -/
def Store.Untouched (before after : Store) : Prop :=
  after.rows = before.rows ∧
    after.workspaces before.rows.artifact.id = before.workspaces before.rows.artifact.id

/-- Both rows are cancelled and the workspace of the selected artifact is gone. -/
def Store.CancelledOut (before after : Store) : Prop :=
  after.rows.attempt.state = .cancelled ∧ after.rows.attempt.cancelledAt.isSome = true ∧
    after.rows.artifact.state = .cancelled ∧
      after.workspaces before.rows.artifact.id = none

/-- A cancellation that either declines or cancels. -/
def Store.Atomic (before after : Store) : Prop :=
  before.Untouched after ∨ before.CancelledOut after

/-- The workspaces once the selected one was cleaned up. -/
def Rows.cleanedUp (rows : Rows) (inputs : ExecutionInputs) (workspaces : Workspaces) :
    Workspaces :=
  workspaces.cleanup rows.artifact.id inputs.cleanup

/-- What is left once the workspace is cleaned up and the cancellation of the rows was
committed or refused. -/
structure Settled (inputs : ExecutionInputs) (rows : Rows) (before after : Store) : Prop where
  workspaces : after.workspaces = rows.cleanedUp inputs before.workspaces
  cancelled : rows.Cancels inputs → after.rows.attempt.state = .cancelled ∧
    after.rows.attempt.cancelledAt.isSome = true ∧ after.rows.artifact.state = .cancelled
  refused : ¬ rows.Cancels inputs → after.rows = before.rows

/-- A cleaned up workspace is gone exactly when its directory could be removed. -/
theorem Workspaces.cleanup_absent_iff {workspaces : Workspaces} {artifactId : Nat}
    {outcome : RemovalOutcome} (present : (workspaces artifactId).isSome = true) :
    workspaces.cleanup artifactId outcome artifactId = none ↔ outcome = .removed := by
  cases outcome with
  | removed => simp [Workspaces.cleanup]
  | failed survives =>
    obtain ⟨directory, existing⟩ := Option.isSome_iff_exists.1 present
    simp [Workspaces.cleanup, existing]

@[simp] theorem Workspaces.prepare_isSome (workspaces : Workspaces) (artifactId : Nat) :
    (workspaces.prepare artifactId artifactId).isSome = true := by
  simp [Workspaces.prepare]

theorem Rows.cancelled_cancelledAt {rows : Rows} (now : Instant)
    (running : rows.attempt.state ≠ .cancelled) :
    (rows.cancelled now).attempt.cancelledAt.isSome = true := by
  simp [Rows.cancelled, Exec.progressed, Rows.entered, DirectAcquisitionAttempt.progressed,
    running]

/-- The common end of both cancellations. -/
theorem wp_settle {α : Type} {rest : Exec α} {rows : Rows} {before : Store}
    (finish : ∀ after : Frame Rows Store, Settled inputs rows before after.durable →
      wp rest (fun _ after => Settled inputs rows before after.durable)
        (fun _ after => Settled inputs rows before after.durable) (fun _ _ => True) after)
    (acquisition : frame.memory.attempt.state = rows.attempt.state)
    (artifact : frame.memory.artifact.state = rows.artifact.state)
    (running : rows.attempt.state.Running) (kept : frame.durable.rows = before.rows)
    (cleaned : frame.durable.workspaces = rows.cleanedUp inputs before.workspaces) :
    wp (Exec.transitionArtifact inputs .cancelled >>= fun _ =>
        Exec.transitionAcquisition inputs .cancelled >>= fun _ =>
          Exec.write (inputs.signal .cancelled) .cancelled .cancelled >>= fun _ => rest)
      (fun _ after => Settled inputs rows before after.durable)
      (fun _ after => Settled inputs rows before after.durable) (fun _ _ => True) frame := by
  have same : frame.memory.Cancels inputs ↔ rows.Cancels inputs := by
    rw [Rows.Cancels, Rows.Cancels, acquisition, artifact]
  have notCancelled : frame.memory.attempt.state ≠ .cancelled := fun state =>
    running (by simp [← acquisition, state, acquisitionTerminalStates])
  refine wp_commitCancelled (fun cancels => ⟨trivial, finish _ ?_⟩) fun refused _ _ => ?_
  · exact
      { workspaces := cleaned
        cancelled := fun _ => ⟨Rows.cancelled_attempt_state _ _,
          Rows.cancelled_cancelledAt _ notCancelled, Rows.cancelled_artifact_state _ _⟩
        refused := fun refused => absurd (same.1 cancels) refused }
  · exact
      { workspaces := cleaned
        cancelled := fun cancels => absurd (same.2 cancels) refused
        refused := fun _ => kept }

/-- The states `cancel` goes on from are running ones. -/
theorem running_of_cancellable {state : DirectAcquisitionState}
    (cancellable : state ∉ uncancellableStates) : state.Running := by
  revert cancellable
  cases state <;> decide

theorem cancel_settled (store : Store) (inputs : ExecutionInputs) :
    wp (cancel inputs)
      (fun _ after =>
        if store.rows.attempt.state ∈ uncancellableStates ∨ inputs.prepares = false then
          after.durable = store
        else Settled inputs store.rows store.begun.durable after.durable)
      (fun _ after =>
        if store.rows.attempt.state ∈ uncancellableStates ∨ inputs.prepares = false then
          after.durable = store
        else Settled inputs store.rows store.begun.durable after.durable)
      (fun _ _ => True) ⟨store.rows, store⟩ := by
  rw [cancel, wp_bind, wp_rollback, wp_bind, wp_rows]
  by_cases declined : store.rows.attempt.state ∈ uncancellableStates
  · simp [declined]
  rw [if_neg declined, wp_bind, prepareWorkspace]
  cases prepares : inputs.prepares with
  | false => simp [raiseValidation]
  | true =>
    simp only [declined, if_true, wp_quarantine, Bool.true_eq_false, or_false, if_false]
    refine ⟨trivial, ?_⟩
    rw [wp_bind, wp_cleanup]
    refine ⟨trivial, ?_⟩
    rw [wp_bind, wp_remember]
    exact wp_settle (fun _ settled => wp_pure.2 settled) rfl rfl
      (running_of_cancellable declined) rfl rfl

theorem handleCancelled_settled (running : frame.memory.attempt.state.Running) :
    wp (handleCancelled inputs)
      (fun _ after => Settled inputs frame.memory frame.durable after.durable)
      (fun _ after => Settled inputs frame.memory frame.durable after.durable)
      (fun _ _ => True) frame := by
  rw [handleCancelled, wp_bind, wp_cleanup]
  refine ⟨trivial, ?_⟩
  rw [wp_bind, wp_modifyArtifact]
  refine wp_settle (fun after settled => ?_) rfl rfl running rfl rfl
  rw [sessionResult, wp_bind, wp_rows]
  exact wp_pure.2 settled

/-- A settled cancellation is atomic exactly where the rows are cancelled and the directory
could be removed, or nothing happened at all. -/
theorem Settled.atomic_iff {rows : Rows} {before after original : Store}
    (settled : Settled inputs rows before after) (running : original.rows.attempt.state.Running)
    (same : rows.artifact.id = original.rows.artifact.id) (kept : before.rows = original.rows) :
    original.Atomic after ↔
      (rows.Cancels inputs ∧
          rows.cleanedUp inputs before.workspaces rows.artifact.id = none) ∨
        (¬ rows.Cancels inputs ∧
          rows.cleanedUp inputs before.workspaces rows.artifact.id =
            original.workspaces rows.artifact.id) := by
  rw [← settled.workspaces, same]
  by_cases cancels : rows.Cancels inputs
  · obtain ⟨attempt, cancelledAt, artifact⟩ := settled.cancelled cancels
    have moved : after.rows ≠ original.rows := fun unchanged =>
      running (by simp [← unchanged, attempt, acquisitionTerminalStates])
    simp [Store.Atomic, Store.Untouched, Store.CancelledOut, moved, attempt, cancelledAt,
      artifact, cancels]
  · have refused := (settled.refused cancels).trans kept
    have notCancelled : original.rows.attempt.state ≠ .cancelled := fun state =>
      running (by simp [state, acquisitionTerminalStates])
    simp [Store.Atomic, Store.Untouched, Store.CancelledOut, refused, notCancelled, cancels]

/-- A pass whose body was cancelled, in the frame the cancellation found. -/
structure CancelledAt (inputs : ExecutionInputs) (store : Store) (found : Frame Rows Store) :
    Prop where
  direct : store.rows.artifact.routeKind = .direct
  running : store.rows.attempt.state.Running
  prepares : inputs.prepares = true
  result : (executeBody inputs store.begun).result = .error .cancelled
  frame : (executeBody inputs store.begun).frame = found

theorem execute_settled (cancelled : CancelledAt inputs store found)
    (running : found.memory.attempt.state.Running) (memory : Rows) :
    wp (execute inputs)
      (fun _ after => Settled inputs found.memory found.durable after.durable)
      (fun _ after => Settled inputs found.memory found.durable after.durable)
      (fun _ _ => True) ⟨memory, store⟩ := by
  have runnable : store.rows.attempt.state ∉ acquisitionTerminalStates := cancelled.running
  simp only [execute, validateRunnable, prepareWorkspace, cancelled.prepares, wp_bind,
    wp_rollback, wp_rows, cancelled.direct, runnable, ne_eq, not_true_eq_false,
    if_false, if_true, wp_pure, wp_quarantine, wp_handle]
  refine ⟨trivial, wp_mono (wp_self _ _) ?_ ?_ (fun _ _ _ => trivial)⟩
  · rintro value after ⟨returned, _⟩
    exact absurd (returned.symm.trans cancelled.result) (by rintro ⟨⟩)
  · rintro failure after ⟨raised, rfl⟩
    obtain rfl : failure = .cancelled := Except.error.inj (raised.symm.trans cancelled.result)
    rw [show ((executeBody inputs
      ⟨store.rows, _⟩).frame : Frame Rows Store) = found from cancelled.frame]
    exact handleCancelled_settled running

/-- What the invariants say about the frame a cancellation found. -/
theorem CancelledAt.failed (sound : StoreSound False store)
    (cancelled : CancelledAt inputs store found) :
    BodyFailed False inputs store .cancelled found := by
  have body : wp (executeBody inputs) (fun _ => Returned False)
      (BodyFailed False inputs store) (CrashSound False) store.begun :=
    executeBody_returned (sound.begun cancelled.running) nofun
  exact cancelled.frame ▸ body.raised cancelled.result

/-- A cancel requested before the pass is raised at once. -/
theorem CancelledAt.requested (cancelled : CancelledAt inputs store found)
    (requested : inputs.cancelRequested = true) :
    found.memory = store.rows := by
  have immediate : wp (executeBody inputs) (fun _ _ => False)
      (fun _ after => after.memory = store.rows) (fun _ _ => True) store.begun := by
    rw [executeBody, wp_bind, raiseIfCancelled, if_pos requested]
    exact wp_raise.2 rfl
  exact cancelled.frame ▸ immediate.raised cancelled.result

/-- The pass resumes a payload past its download and finds a cancel already requested. -/
def LateCancel (inputs : ExecutionInputs) (store : Store) : Prop :=
  inputs.cancelRequested = true ∧
    (store.rows.attempt.state = .validating ∨ store.rows.attempt.state = .postProcessing)

/-- The state the tables are asked from is late exactly when the cancel was. -/
theorem CancelledAt.cancels_iff (sound : StoreSound False store)
    (cancelled : CancelledAt inputs store found) :
    found.memory.Cancels inputs ↔
      ¬ LateCancel inputs store ∧ inputs.signal .cancelled = .proceeds := by
  have failed := cancelled.failed sound
  obtain ⟨running, origin⟩ := failed.raised
  rw [Rows.Cancels]
  refine and_congr_left fun _ =>
    (failed.memory.coherent.accepts_cancelled_iff running).trans ⟨?_, fun timely => ?_⟩
  · rintro ⟨notValidating, notPostProcessing⟩ ⟨requested, state | state⟩
    · exact notValidating (by rw [cancelled.requested requested]; exact state)
    · exact notPostProcessing (by rw [cancelled.requested requested]; exact state)
  · rcases origin with ⟨requested, state⟩ | later
    · rw [state]
      exact ⟨fun late => timely ⟨requested, .inl late⟩, fun late => timely ⟨requested, .inr late⟩⟩
    · exact later

/-- `cancel` is atomic: it declines, or the acquisition is not being validated and both
the commit and the removal go through, or nothing was there to lose. -/
def CancelAtomic (inputs : ExecutionInputs) (store : Store) : Prop :=
  store.rows.attempt.state ∈ uncancellableStates ∨ inputs.prepares = false ∨
    (store.rows.attempt.state ≠ .validating ∧ inputs.signal .cancelled = .proceeds ∧
      inputs.cleanup = .removed) ∨
    (¬ (store.rows.attempt.state ≠ .validating ∧ inputs.signal .cancelled = .proceeds) ∧
      store.rows.cleanedUp inputs store.begun.durable.workspaces store.rows.artifact.id =
        store.workspaces store.rows.artifact.id)

/-- The handler of a cancelled pass is atomic: the cancel was not late and both the commit
and the removal go through, or nothing was there to lose. -/
def HandlerAtomic (inputs : ExecutionInputs) (store : Store) (found : Frame Rows Store) : Prop :=
  ((¬ LateCancel inputs store ∧ inputs.signal .cancelled = .proceeds) ∧
      found.memory.cleanedUp inputs found.durable.workspaces found.memory.artifact.id = none) ∨
    (¬ (¬ LateCancel inputs store ∧ inputs.signal .cancelled = .proceeds) ∧
      found.memory.cleanedUp inputs found.durable.workspaces found.memory.artifact.id =
        found.durable.workspaces found.memory.artifact.id)

/-- When `cancel` is atomic. -/
theorem cancel_atomic_iff (sound : StoreSound False store) (inputs : ExecutionInputs) :
    store.Atomic (cancel inputs ⟨store.rows, store⟩).frame.durable ↔
      CancelAtomic inputs store := by
  have outcome := cancel_settled store inputs
  have settled : if store.rows.attempt.state ∈ uncancellableStates ∨ inputs.prepares = false
      then (cancel inputs ⟨store.rows, store⟩).frame.durable = store
      else Settled inputs store.rows store.begun.durable
        (cancel inputs ⟨store.rows, store⟩).frame.durable := by
    cases result : (cancel inputs ⟨store.rows, store⟩).result with
    | ok value => exact outcome.returned result
    | error failure => exact outcome.raised result
  by_cases declined : store.rows.attempt.state ∈ uncancellableStates ∨ inputs.prepares = false
  · rw [if_pos declined] at settled
    rw [settled]
    refine iff_of_true (.inl ⟨rfl, rfl⟩) ?_
    rcases declined with listed | unprepared
    · exact .inl listed
    · exact .inr (.inl unprepared)
  · rw [if_neg declined] at settled
    obtain ⟨cancellable, prepares⟩ := not_or.1 declined
    have running := running_of_cancellable cancellable
    have cancels : store.rows.Cancels inputs ↔
        store.rows.attempt.state ≠ .validating ∧ inputs.signal .cancelled = .proceeds := by
      have notPostProcessing : store.rows.attempt.state ≠ .postProcessing := fun state =>
        cancellable (by simp [state, uncancellableStates])
      refine and_congr_left fun _ => ?_
      exact (sound.sound.coherent.accepts_cancelled_iff running).trans
        (and_iff_left notPostProcessing)
    have removed : store.rows.cleanedUp inputs store.begun.durable.workspaces
        store.rows.artifact.id = none ↔ inputs.cleanup = .removed :=
      Workspaces.cleanup_absent_iff (by simp [Store.begun])
    rw [settled.atomic_iff running rfl rfl, cancels, removed, CancelAtomic]
    simp only [cancellable, prepares, Bool.true_eq_false, false_or]
    exact or_congr_left and_assoc

/-- When the handler of a cancelled pass is atomic. -/
theorem handler_atomic_iff (sound : StoreSound False store)
    (cancelled : CancelledAt inputs store found) :
    found.durable.Atomic (execute inputs ⟨store.rows, store⟩).frame.durable ↔
      HandlerAtomic inputs store found := by
  have failed := cancelled.failed sound
  have outcome := execute_settled cancelled failed.raised.1 store.rows
  have settled : Settled inputs found.memory found.durable
      (execute inputs ⟨store.rows, store⟩).frame.durable := by
    cases result : (execute inputs ⟨store.rows, store⟩).result with
    | ok value => exact outcome.returned result
    | error failure => exact outcome.raised result
  have same := failed.same rfl
  rw [settled.atomic_iff failed.alive same.symm rfl, cancelled.cancels_iff sound, ← same,
    HandlerAtomic, same]

/-- In every reachable state, `cancel` and the cancellation handler of a pass are atomic
exactly where the tables, the commit and the removal follow. -/
theorem cancellation_atomic_iff (reachable : RunStore (fun _ _ => True) store)
    (inputs : ExecutionInputs) :
    (store.Atomic (cancel inputs ⟨store.rows, store⟩).frame.durable ↔
        CancelAtomic inputs store) ∧
      ∀ found, CancelledAt inputs store found →
        (found.durable.Atomic (execute inputs ⟨store.rows, store⟩).frame.durable ↔
          HandlerAtomic inputs store found) :=
  ⟨cancel_atomic_iff reachable.sound inputs,
    fun _ cancelled => handler_atomic_iff reachable.sound cancelled⟩

/-- A planned acquisition is cancelled, by a request and by the handler. -/
theorem cancellation_atomic_iff_planned :
    (plannedStore.Atomic (cancel smoothInputs ⟨plannedStore.rows, plannedStore⟩).frame.durable ↔
        CancelAtomic smoothInputs plannedStore) ∧
      ∀ found, CancelledAt smoothInputs plannedStore found →
        (found.durable.Atomic
            (execute smoothInputs ⟨plannedStore.rows, plannedStore⟩).frame.durable ↔
          HandlerAtomic smoothInputs plannedStore found) :=
  cancellation_atomic_iff (.start plannedStore_planned) smoothInputs

/-- The answers of a pass whose worker is shut down while it records its final file. -/
def shutDownInputs : ExecutionInputs :=
  { smoothInputs with
    signal := fun checkpoint => if checkpoint = .validating then .interrupted else .proceeds }

/-- The store that pass leaves: both rows validating, the final file in place. -/
def validatingStore : Store :=
  (runPass shutDownInputs ⟨plannedStore.rows, plannedStore⟩).frame.durable

theorem validatingStore_reachable : RunStore (fun _ _ => True) validatingStore := by
  have step : Step (.pass shutDownInputs none) plannedStore validatingStore :=
    Program.Leaves.completed
  exact .next (.start plannedStore_planned) trivial step

/-- Cancelling rows that are being validated removes their workspace and then fails. -/
theorem cancel_validating_not_atomic : RunStore (fun _ _ => True) validatingStore ∧
    ¬ validatingStore.Atomic
      (cancel smoothInputs ⟨validatingStore.rows, validatingStore⟩).frame.durable := by
  refine ⟨validatingStore_reachable, ?_⟩
  rintro (⟨_, unchanged⟩ | ⟨state, _⟩)
  · have gone : (cancel smoothInputs ⟨validatingStore.rows, validatingStore⟩).frame.durable.workspaces
        validatingStore.rows.artifact.id = none := rfl
    have present : (validatingStore.workspaces validatingStore.rows.artifact.id).isSome = true := rfl
    rw [← unchanged, gone] at present
    cases present
  · exact absurd (show DirectAcquisitionState.validating = .cancelled from state) nofun

end Pullbox.Direct
