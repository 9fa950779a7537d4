import Pullbox.Import.Controls
import Pullbox.Progress.Dispatch

/-!
# The progress events of an import job

A live event is only queued (`emit_live_progress`), numbered by a counter of the worker; a durable
one is published with the job (`emit_progress`), numbered by the job's own revision. Both end in
the progress row of the job.
-/

namespace Pullbox.Progress

open Import (ImportJobStatus)

/-- `_PROTECTED_RUNTIME_STATUSES`. -/
def protectedRuntime : ImportJobStatus → Bool
  | .review | .paused | .stalled | .cancelling | .rollingBack | .completed | .failed | .cancelled
  | .rolledBack => true
  | .pending | .scanning | .pausing | .analyzing | .matching | .fileMatching | .importing => false

/-- `_operation_state`. -/
def operationState : ImportJobStatus → OperationProgressState
  | .pending => .queued
  | .scanning | .analyzing | .matching | .fileMatching | .importing | .pausing | .cancelling
  | .rollingBack => .running
  | .paused | .stalled => .paused
  | .review | .completed | .rolledBack => .completed
  | .cancelled => .cancelled
  | .failed => .failed

/-- An event of a job. What it shows is what `build_import_operation_update` reads off it and the
job, but for its state, revision and time. -/
structure ImportProgressEvent where
  status : ImportJobStatus
  progressRevision : Int := 0
  shown : OperationProgressUpdate

/-- `build_import_operation_update`. -/
def buildImportOperationUpdate (event : ImportProgressEvent) (revision : Nat) (now : Int) :
    OperationProgressUpdate :=
  { event.shown with
    revision := some (revision : Int)
    state := operationState event.status
    eventAt := some now }

/-- A durable event, by the revision of the job and whether its update was accepted. -/
structure DurableRecord where
  revision : Nat
  accepted : Bool

/-- The job, the counters of its workers and its progress row. The durable events so far are kept,
the newest first, and the last of them while no live event has followed it. -/
structure ImportProgress where
  status : ImportJobStatus := .pending
  progressRevision : Nat := 0
  revisionState : Nat → Nat := fun _ => 0
  dispatch : DispatchState := {}
  history : List DurableRecord := []
  last : Option OperationProgressUpdate := none

namespace ImportProgress

/-- The event is not one of the status that the job is kept in. -/
def ignores (state : ImportProgress) (event : ImportProgressEvent) : Bool :=
  protectedRuntime state.status && event.status ≠ state.status

/-- The revision of a live event: one above the counter, the job and the event. -/
def liveRevision (state : ImportProgress) (worker : Nat) (event : ImportProgressEvent) : Nat :=
  max (max (state.revisionState worker) state.progressRevision) event.progressRevision.toNat + 1

/-- `emit_live_progress`. -/
def emitLiveProgress (state : ImportProgress) (worker : Nat) (event : ImportProgressEvent)
    (now : Int) : ImportProgress :=
  if state.ignores event then state
  else
    let revision := state.liveRevision worker event
    { state with
      revisionState := Function.update state.revisionState worker revision
      dispatch := state.dispatch.queue (buildImportOperationUpdate event revision now)
      last := none }

/-- The revision of a durable event: its own, or the next one of the job. -/
def durableRevision (state : ImportProgress) (event : ImportProgressEvent) : Nat :=
  if event.progressRevision ≤ 0 then state.progressRevision + 1 else event.progressRevision.toNat

/-- Whether publishing the update changes the row. -/
def accepts (row : Option OperationProgress) (update : OperationProgressUpdate) (now : Int) : Bool :=
  match publishOperationProgress row update now with
  | .ok (_, accepted) => accepted
  | .error _ => false

/-- `emit_progress`, with `persist_progress_snapshot` and the commit. -/
def emitProgress (state : ImportProgress) (event : ImportProgressEvent) (now : Int) :
    ImportProgress :=
  if state.ignores event then state
  else
    let revision := state.durableRevision event
    let update := buildImportOperationUpdate event revision now
    { state with
      progressRevision := revision
      dispatch := state.dispatch.publish update now
      history := ⟨revision, accepts state.dispatch.row update now⟩ :: state.history
      last := some update }

end ImportProgress

/-- What happens to a job: an await of the flush task has an event of its own, and the workflow
sets the status. -/
inductive ImportEvent where
  | live (worker : Nat) (event : ImportProgressEvent) (now : Int)
  | durable (event : ImportProgressEvent) (now : Int)
  | flush (event : DispatchEvent)
  | setStatus (status : ImportJobStatus)

/-- One step of a run, or `none` if the task does not stand at the await. -/
def ImportProgress.step (state : ImportProgress) : ImportEvent → Option ImportProgress
  | .live worker event now => some (state.emitLiveProgress worker event now)
  | .durable event now => some (state.emitProgress event now)
  | .flush event =>
    if event.isOwn then
      (state.dispatch.step event).map fun dispatch => { state with dispatch := dispatch }
    else none
  | .setStatus status => some { state with status := status }

end Pullbox.Progress

/-!
## Runs of an import job's progress events

Live events, the writes of the flush task and durable events come in any order. A durable event is
kept by the row as long as it is newer than what live events have left there or may still leave.
-/

namespace Pullbox.Progress

/-- The row refuses the update, whenever it comes. -/
def OperationProgress.Refuses (row : OperationProgress) (update : OperationProgressUpdate) : Prop :=
  (∃ time, update.eventAt = some time ∧ time < row.lastEventAt) ∨
    ∃ revision, update.revision = some revision ∧ revision ≤ row.revision

theorem OperationProgress.Refuses.not_accepted {row after : OperationProgress}
    {update : OperationProgressUpdate} (refuses : row.Refuses update) (clock : Int) :
    publishOperationProgress (some row) update clock ≠ .ok (after, true) := by
  intro accepted
  obtain ⟨follows, number, known, newer, -⟩ := publish_accepted_iff.1 accepted
  rcases refuses with ⟨time, given, earlier⟩ | ⟨revision, given, old⟩
  · exact absurd (follows time given) (not_le.2 earlier)
  · rw [given, Option.getD_some] at known
    omega

/-- The row shows the update. -/
structure OperationProgress.Shows (row : OperationProgress) (update : OperationProgressUpdate) :
    Prop where
  state : row.state = update.state
  phase : row.phase = update.phase
  title : row.title = update.title
  message : row.message = update.message
  revision : update.revision = some (row.revision : Int)
  eventAt : update.eventAt = some row.lastEventAt

/-- The update waits in the queue or is being written. -/
def DispatchState.Holds (state : DispatchState) (update : OperationProgressUpdate) : Prop :=
  (∃ queued, state.pending = some queued ∧ queued.update = update) ∨
    ∃ (task : Nat) (queued : QueuedUpdate),
      state.tasks[task]? = some (.writing queued) ∧ queued.update = update

namespace DispatchState

variable {state after : DispatchState} {event : DispatchEvent} {task : Nat}

theorem Holds.move {stage : FlushStage} {update : OperationProgressUpdate}
    (holds : Holds after update) (other : stage.written = none)
    (tasks : after.tasks = state.tasks.set task stage) (pending : after.pending = state.pending) :
    Holds state update := by
  rcases holds with ⟨queued, waits, same⟩ | ⟨writer, queued, here, same⟩
  · exact .inl ⟨queued, pending ▸ waits, same⟩
  · rw [tasks] at here
    by_cases mine : task = writer
    · subst mine
      rw [List.getElem?_set_self'] at here
      obtain ⟨_, _, moved⟩ := Option.map_eq_some_iff.1 here
      rw [Function.const_apply] at moved
      rw [moved] at other
      cases other
    · exact .inr ⟨writer, queued, (List.getElem?_set_ne mine).symm.trans here, same⟩

/-- An await of the task adds nothing to what it holds, and writes only what it held. -/
theorem Awaits.holds (awaits : Awaits state task event after) :
    (∀ update, Holds after update → Holds state update) ∧
      (after.row = state.row ∨ ∃ update clock row accepted, Holds state update ∧
        publishOperationProgress state.row update clock = .ok (row, accepted) ∧
          after.row = some row) := by
  cases awaits with
  | wake here =>
    unfold DispatchState.wake
    cases pending : state.pending with
    | none => exact ⟨fun update holds => holds.move rfl rfl rfl, .inl rfl⟩
    | some queued =>
      refine ⟨?_, .inl rfl⟩
      rintro update (⟨other, waits, -⟩ | ⟨writer, other, there, same⟩)
      · cases waits
      · by_cases mine : task = writer
        · subst mine
          have within := (List.getElem?_eq_some_iff.1 here).1
          cases (List.getElem?_set_self within).symm.trans there
          exact .inl ⟨queued, pending, same⟩
        · exact .inr ⟨writer, other, (List.getElem?_set_ne mine).symm.trans there, same⟩
  | @write queued raises clock here =>
    rcases write_cases state task queued raises clock with
      ⟨row, accepted, -, published, same⟩ | ⟨-, same⟩
    · rw [same]
      refine ⟨fun update holds => holds.move rfl rfl rfl, .inr ?_⟩
      exact ⟨queued.update, clock, row, accepted, .inr ⟨task, queued, here, rfl⟩, published, rfl⟩
    · rw [same]
      exact ⟨fun update holds => holds.move rfl rfl rfl, .inl rfl⟩
  | notified here =>
    unfold DispatchState.lookAgain
    cases state.pending with
    | none => exact ⟨fun update holds => holds.move rfl rfl rfl, .inl rfl⟩
    | some queued => exact ⟨fun update holds => holds.move rfl rfl rfl, .inl rfl⟩
  | rolledBack here => exact ⟨fun update holds => holds.move rfl rfl rfl, .inl rfl⟩
  | lost here => exact ⟨fun update holds => holds.move rfl rfl rfl, .inl rfl⟩
  | broken here live other => exact ⟨fun update holds => holds.move rfl rfl rfl, .inl rfl⟩

/-- A task that holds only what the row refuses leaves the row as it is. -/
theorem Awaits.row_eq {row : OperationProgress} (awaits : Awaits state task event after)
    (stored : state.row = some row) (refuses : ∀ update, Holds state update → row.Refuses update) :
    after.row = some row := by
  rcases awaits.holds.2 with same | ⟨update, clock, next, accepted, held, published, written⟩
  · exact same.trans stored
  · rw [stored] at published
    cases accepted with
    | true => exact absurd published ((refuses update held).not_accepted clock)
    | false => exact written.trans (publish_rejected published).symm

end DispatchState

namespace ImportProgress

variable {state after : ImportProgress} {event : ImportEvent} {progress : ImportProgressEvent}
  {now : Int}

/-- What the claims of a job's progress come to: every durable event is accepted, their revisions
increase, and the row shows the last one until a live event follows. -/
structure Faithful (state : ImportProgress) : Prop where
  accepted : ∀ entry ∈ state.history, entry.accepted = true
  increasing : state.history.Pairwise fun later earlier => earlier.revision < later.revision
  shown : ∀ update, state.last = some update →
    ∃ row, state.dispatch.row = some row ∧ row.Shows update

/-- A durable event is newer than the row and than the job. -/
structure Newer (state : ImportProgress) (event : ImportProgressEvent) (now : Int) : Prop where
  row : ∀ row, state.dispatch.row = some row →
    row.lastEventAt ≤ now ∧ row.revision < state.durableRevision event
  job : ∀ entry ∈ state.history, entry.revision < state.durableRevision event

/-- The live updates that are not written yet are older than a durable event. -/
def Outdates (state : ImportProgress) (event : ImportProgressEvent) (now : Int) : Prop :=
  ∀ update, state.dispatch.Holds update →
    (∃ time, update.eventAt = some time ∧ time < now) ∨
      ∃ revision, update.revision = some revision ∧ revision ≤ (state.durableRevision event : Int)

/-- The events after which the row is faithful. -/
def Admitted (event : ImportEvent) (state : ImportProgress) : Prop :=
  match event with
  | .durable event now =>
    state.ignores event = true ∨ state.Newer event now ∧ state.Outdates event now
  | .live _ _ _ | .flush _ | .setStatus _ => True

/-! ### Durable events -/

theorem shows_project (existing : OperationProgress) (created : Bool) (event : ImportProgressEvent)
    (revision : Nat) (now : Int) :
    (existing.project created (buildImportOperationUpdate event revision now) revision now).Shows
      (buildImportOperationUpdate event revision now) where
  state := rfl
  phase := rfl
  title := rfl
  message := rfl
  revision := rfl
  eventAt := rfl

/-- A newer update is accepted, and the row shows it. -/
theorem publish_newer {row : Option OperationProgress} (event : ImportProgressEvent)
    {revision : Nat}
    (newer : ∀ existing, row = some existing →
      existing.lastEventAt ≤ now ∧ existing.revision < revision) :
    ∃ after, publishOperationProgress row (buildImportOperationUpdate event revision now) now =
        .ok (after, true) ∧ after.Shows (buildImportOperationUpdate event revision now) := by
  cases row with
  | none =>
    have nonneg : ¬ (revision : Int) < 0 := by omega
    refine ⟨_, ?_, shows_project
      (.inserted (buildImportOperationUpdate event revision now) now) true event revision now⟩
    simp [publishOperationProgress, buildImportOperationUpdate, nonneg]
  | some existing =>
    obtain ⟨follows, greater⟩ := newer existing rfl
    refine ⟨_, publish_accepted_iff.2 ⟨?_, revision, rfl, greater, rfl⟩,
      shows_project existing false event revision now⟩
    rintro time ⟨⟩
    exact follows

/-- What a newer durable event leaves. -/
theorem Newer.emit (newer : state.Newer progress now)
    (heeded : state.ignores progress = false) :
    ∃ row, row.Shows (buildImportOperationUpdate progress (state.durableRevision progress) now) ∧
      (state.emitProgress progress now).dispatch.row = some row ∧
      (state.emitProgress progress now).history =
        ⟨state.durableRevision progress, true⟩ :: state.history := by
  obtain ⟨row, published, shows⟩ := publish_newer progress newer.row
  refine ⟨row, shows, ?_, ?_⟩
  · simp [emitProgress, heeded, DispatchState.publish, published]
  · simp [emitProgress, heeded, accepts, published]

theorem last_emit (heeded : state.ignores progress = false) :
    (state.emitProgress progress now).last =
      some (buildImportOperationUpdate progress (state.durableRevision progress) now) := by
  simp [emitProgress, heeded]

theorem Faithful.emit (faithful : state.Faithful)
    (newer : state.Newer progress now) (heeded : state.ignores progress = false) :
    (state.emitProgress progress now).Faithful := by
  obtain ⟨row, shows, stored, known⟩ := newer.emit heeded
  constructor
  · rw [known]
    intro entry member
    rcases List.mem_cons.1 member with rfl | before
    · rfl
    · exact faithful.accepted entry before
  · rw [known]
    exact List.pairwise_cons.2 ⟨newer.job, faithful.increasing⟩
  · intro update last
    rw [last_emit heeded] at last
    cases last
    exact ⟨row, stored, shows⟩

/-- A durable event that is not newer is rejected, or its revision does not increase. -/
theorem Faithful.newer (heeded : state.ignores progress = false)
    (faithful : (state.emitProgress progress now).Faithful) : state.Newer progress now := by
  have known : (state.emitProgress progress now).history =
      ⟨state.durableRevision progress, accepts state.dispatch.row
        (buildImportOperationUpdate progress (state.durableRevision progress) now) now⟩ ::
        state.history := by
    simp [emitProgress, heeded]
  constructor
  · intro row stored
    have accepted := faithful.accepted _ (known ▸ List.mem_cons_self)
    unfold accepts at accepted
    dsimp only at accepted
    split at accepted
    · next answer published =>
      subst accepted
      rw [stored] at published
      obtain ⟨follows, revision, same, newer, -⟩ := publish_accepted_iff.1 published
      refine ⟨follows now rfl, ?_⟩
      cases same
      exact newer
    · cases accepted
  · have increasing := faithful.increasing
    rw [known] at increasing
    exact (List.pairwise_cons.1 increasing).1

/-! ### Runs -/

/-- No durable event has come yet. -/
def Initial (state : ImportProgress) : Prop :=
  state.history = [] ∧ state.last = none

/-- The states of the runs whose events are admitted. -/
def Reached (state : ImportProgress) : Prop :=
  Durable.Reachable Initial Admitted (fun event state after => state.step event = some after) state

/-- What the steps keep. -/
structure Sound (state : ImportProgress) : Prop where
  faithful : Faithful state
  refuses : ∀ update, state.last = some update → ∀ row, state.dispatch.row = some row →
    ∀ held, state.dispatch.Holds held → row.Refuses held

theorem Sound.live (sound : Sound state) (worker : Nat) (progress : ImportProgressEvent)
    (now : Int) : Sound (state.emitLiveProgress worker progress now) := by
  unfold emitLiveProgress
  split
  · exact sound
  · constructor
    · constructor
      · exact sound.faithful.accepted
      · exact sound.faithful.increasing
      · intro update last
        cases last
    · intro update last
      cases last

theorem Sound.durable (sound : Sound state)
    (admitted : Admitted (.durable progress now) state) : Sound
    (state.emitProgress progress now) := by
  cases heeded : state.ignores progress with
  | true =>
    have same : state.emitProgress progress now = state := if_pos heeded
    rw [same]
    exact sound
  | false =>
    rcases admitted with ignored | ⟨newer, outdates⟩
    · cases heeded.symm.trans ignored
    · refine ⟨sound.faithful.emit newer heeded, ?_⟩
      obtain ⟨row, shows, stored, -⟩ := newer.emit heeded
      intro update last other here held waits
      cases stored.symm.trans here
      have before : state.dispatch.Holds held := by
        have kept : (state.emitProgress progress now).dispatch.pending = state.dispatch.pending ∧
            (state.emitProgress progress now).dispatch.tasks = state.dispatch.tasks := by
          simp only [emitProgress, heeded, Bool.false_eq_true, if_false, DispatchState.publish]
          split <;> exact ⟨rfl, rfl⟩
        rw [DispatchState.Holds, kept.1, kept.2] at waits
        exact waits
      have time : now = row.lastEventAt := Option.some.inj shows.eventAt
      have revision : (state.durableRevision progress : Int) = row.revision :=
        Option.some.inj shows.revision
      rcases outdates held before with ⟨earlier, given, less⟩ | ⟨old, given, less⟩
      · exact .inl ⟨earlier, given, time ▸ less⟩
      · exact .inr ⟨old, given, revision ▸ less⟩

theorem Sound.flush {dispatch : DispatchState} {flush : DispatchEvent} (sound : Sound state)
    (own : flush.isOwn = true) (stepped : state.dispatch.step flush = some dispatch) :
    Sound { state with dispatch := dispatch } := by
  rcases DispatchState.step_cases stepped with
    ⟨update, rfl, -⟩ | ⟨update, clock, rfl, -⟩ | ⟨task, awaits⟩
  · cases own
  · cases own
  · have shown (update : OperationProgressUpdate) (last : state.last = some update) :
        ∃ row, state.dispatch.row = some row ∧ dispatch.row = some row ∧ row.Shows update := by
      obtain ⟨row, stored, shows⟩ := sound.faithful.shown update last
      exact ⟨row, stored, awaits.row_eq stored (sound.refuses update last row stored), shows⟩
    constructor
    · constructor
      · exact sound.faithful.accepted
      · exact sound.faithful.increasing
      · intro update last
        obtain ⟨row, -, stored, shows⟩ := shown update last
        exact ⟨row, stored, shows⟩
    · intro update last row here held waits
      obtain ⟨other, before, stored, -⟩ := shown update last
      obtain rfl : other = row := Option.some.inj (stored.symm.trans here)
      exact sound.refuses update last other before held (awaits.holds.1 held waits)

theorem Reached.sound (reached : Reached state) : Sound state := by
  refine Durable.Reachable.invariant reached ?_ ?_
  · rintro state ⟨history, last⟩
    constructor
    · constructor
      · rw [history]
        exact fun _ member => absurd member List.not_mem_nil
      · rw [history]
        exact .nil
      · intro update same
        cases last.symm.trans same
    · intro update same
      cases last.symm.trans same
  · intro event state after sound admitted stepped
    cases event with
    | live worker progress now =>
      cases stepped
      exact sound.live worker progress now
    | durable progress now =>
      cases stepped
      exact sound.durable admitted
    | flush flush =>
      obtain ⟨own, moved⟩ := Option.ite_none_right_eq_some.1 stepped
      obtain ⟨dispatch, awaited, rfl⟩ := Option.map_eq_some_iff.1 moved
      exact sound.flush own awaited
    | setStatus status =>
      cases stepped
      exact ⟨⟨sound.faithful.accepted, sound.faithful.increasing, sound.faithful.shown⟩,
        sound.refuses⟩

end ImportProgress

end Pullbox.Progress
