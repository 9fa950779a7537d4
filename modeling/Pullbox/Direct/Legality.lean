import Pullbox.Direct.System

/-!
# Legal transitions and recorded failures

A pass of the coordinator from any reachable state requests only transitions of the two
tables, records every classified failure of its body, and leaves no row to a worker that
is gone, wherever the pass is `Permitted`.
-/

namespace Pullbox.Direct

open Durable Program Exec

variable {store : Store} {frame : Frame Rows Store} {inputs : ExecutionInputs}
  {error : ClassifiedError}

/-- The classified failure a handler records, if there is one. -/
def Failure.classification : Failure → Option ClassifiedError
  | .planning error => some (routeSourceFailure error)
  | .classified error => some error
  | _ => none

/-- A classified failure in the rows: on both rows, which wait for a retry or the user or
have failed, or on the failed artifact another route has replaced. -/
def Rows.Records (rows : Rows) (error : ClassifiedError) : Prop :=
  (rows.attempt.failureClass = some error.failureClass ∧
      rows.artifact.failureClass = some error.failureClass ∧
      rows.attempt.state ∈ [DirectAcquisitionState.retryPending, .intervention, .failed]) ∨
    (rows.attempt.state = .queued ∧
      ∃ failed ∈ rows.retired, failed.state = .failed ∧
        failed.failureClass = some error.failureClass)

/-- Both rows carry the class of a failure. -/
def Rows.Marked (rows : Rows) (error : ClassifiedError) : Prop :=
  rows.attempt.failureClass = some error.failureClass ∧
    rows.artifact.failureClass = some error.failureClass

/-- The end of a handler that moves marked rows to a state that records a failure. -/
theorem wp_moveMarked {acquisition : DirectAcquisitionState}
    {artifact : DirectArtifactState} {signal : Signal} {checkpoint : Checkpoint}
    {stage : ProgressStage} (marked : frame.memory.Marked error)
    (recording : acquisition ∈ [DirectAcquisitionState.retryPending, .intervention, .failed]) :
    wp (Exec.transitionArtifact inputs artifact >>= fun _ =>
        Exec.transitionAcquisition inputs acquisition >>= fun _ =>
          Exec.write signal checkpoint stage >>= fun _ => sessionResult)
      (fun _ after => after.durable.rows.Records error) (fun _ _ => True) (fun _ _ => True)
      frame := by
  refine wp_transitionBoth (fun _ _ _ => trivial) fun _ _ => ?_
  rw [wp_bind, wp_write]
  refine ⟨fun _ => ⟨trivial, ?_⟩, fun _ => trivial, fun _ => trivial⟩
  simp only [sessionResult, wp_bind, wp_rows, wp_pure]
  refine .inl ⟨?_, ?_, ?_⟩
  · simpa [Exec.progressed, Rows.entered, DirectAcquisitionAttempt.progressed] using marked.1
  · simpa [Exec.progressed, Rows.entered] using marked.2
  · simpa [Exec.progressed, Rows.entered, DirectAcquisitionAttempt.progressed] using recording

theorem intervene_records (marked : frame.memory.Marked error) :
    wp (intervene inputs) (fun _ after => after.durable.rows.Records error)
      (fun _ _ => True) (fun _ _ => True) frame := by
  refine wp_transitionBoth (fun _ _ _ => trivial) fun _ _ => ?_
  rw [wp_bind, wp_await]
  refine ⟨fun _ => ?_, fun _ => trivial, fun _ => trivial⟩
  rw [wp_bind, wp_write]
  refine ⟨fun _ => ⟨trivial, ?_⟩, fun _ => trivial, fun _ => trivial⟩
  simp only [sessionResult, wp_bind, wp_rows, wp_pure]
  refine .inl ⟨?_, ?_, ?_⟩
  · simpa [Exec.progressed, Rows.entered, DirectAcquisitionAttempt.progressed] using marked.1
  · simpa [Exec.progressed, Rows.entered] using marked.2
  · simp [Exec.progressed, Rows.entered, DirectAcquisitionAttempt.progressed]

/-- A queued fallback keeps the failed artifact among the retired ones. -/
theorem queueNextArtifactRoute_records (marked : frame.memory.Marked error) :
    wp (queueNextArtifactRoute inputs)
      (fun queued after =>
        if queued then after.durable.rows.Records error else after.memory = frame.memory)
      (fun _ _ => True) (fun _ _ => True) frame := by
  rw [queueNextArtifactRoute, wp_bind, wp_rows]
  cases frame.memory.attempt.planSnapshot.artifacts with
  | none => simp
  | some routes =>
    rw [wp_bind, wp_await]
    refine ⟨fun _ => ?_, fun _ => trivial, fun _ => trivial⟩
    dsimp only
    split
    · simp
    · rw [wp_bind, wp_transitionArtifact]
      refine ⟨fun _ => ?_, fun _ _ _ => trivial⟩
      rw [wp_bind, wp_remember, wp_bind, wp_transitionAcquisition]
      refine ⟨fun _ => ?_, fun _ _ _ => trivial⟩
      rw [wp_bind, wp_modifyAttempt, wp_bind, wp_write]
      refine ⟨fun _ => ⟨trivial, wp_pure.2 ?_⟩, fun _ => trivial, fun _ => trivial⟩
      refine .inr ⟨?_, _, List.mem_cons_self, ?_, ?_⟩
      · simp [Exec.progressed, DirectAcquisitionAttempt.progressed,
          DirectAcquisitionAttempt.clearFailure]
      · simp
      · simpa using marked.2

theorem classifiedFailure_records (error : ClassifiedError) :
    wp (classifiedFailure inputs error)
      (fun _ after => after.durable.rows.Records error) (fun _ _ => True) (fun _ _ => True)
      frame := by
  have unresolved (start : Frame Rows Store) (marked : start.memory.Marked error) :
      wp (if error.intervention then intervene inputs else fail inputs)
        (fun _ after => after.durable.rows.Records error) (fun _ _ => True) (fun _ _ => True)
        start := by
    split
    · exact intervene_records marked
    · exact wp_moveMarked marked (by simp)
  have marked : (frame.memory.recordFailure error).Marked error := ⟨rfl, rfl⟩
  rw [classifiedFailure, wp_bind, wp_remember, wp_bind, wp_rows]
  split
  · rw [scheduleRetry, wp_bind, wp_remember]
    exact wp_moveMarked ⟨rfl, rfl⟩ (by simp)
  split
  · rw [wp_bind, wp_cleanup]
    refine ⟨trivial, ?_⟩
    rw [wp_bind, wp_modifyArtifact]
    have forgotten : Rows.Marked
        { frame.memory.recordFailure error with
          artifact := { (frame.memory.recordFailure error).artifact with
            quarantinePath := none } } error := ⟨rfl, rfl⟩
    refine wp_bind_of _ (queueNextArtifactRoute_records forgotten) ?_
    intro queued after outcome
    cases queued with
    | true =>
      simp only [if_true, wp_bind, wp_rows, wp_pure]
      exact outcome
    | false => exact unresolved after (by rw [outcome]; exact ⟨rfl, rfl⟩)
  · exact unresolved _ marked

theorem handleFailure_records (failure : Failure) :
    wp (handleFailure inputs failure)
      (fun _ after => ∀ error, failure.classification = some error →
        after.durable.rows.Records error) (fun _ _ => True) (fun _ _ => True) frame := by
  cases failure with
  | planning error =>
    refine wp_weaken (classifiedFailure_records (routeSourceFailure error)) ?_
    intro _ _ records _ classified
    exact Option.some.inj classified ▸ records
  | classified error =>
    rw [handleFailure, wp_bind, wp_await]
    refine ⟨fun _ => wp_weaken (classifiedFailure_records error) ?_, fun _ => trivial,
      fun _ => trivial⟩
    intro _ _ records _ classified
    exact Option.some.inj classified ▸ records
  | _ =>
    refine wp_of_forall (fun _ _ _ classified => ?_) fun _ _ => trivial
    cases classified

/-- A pass whose body failed with a classified error records that error. -/
theorem execute_records (memory : Rows) :
    wp (execute inputs)
      (fun _ after => ∀ failure error, (executeBody inputs store.begun).result = .error failure →
        failure.classification = some error → after.durable.rows.Records error)
      (fun _ _ => True) (fun _ _ => True) ⟨memory, store⟩ := by
  rw [execute, wp_bind, wp_rollback]
  refine wp_bind_of (fun _ after => ⟨store.rows, store⟩ = after) ?_ ?_
  · rw [validateRunnable, wp_bind, wp_rows]
    split
    · exact wp_raise.2 trivial
    split
    · exact wp_raise.2 trivial
    · exact wp_pure.2 rfl
  rintro _ _ rfl
  rw [wp_bind, prepareWorkspace]
  split
  · rw [wp_quarantine]
    refine ⟨trivial, ?_⟩
    rw [wp_handle]
    refine wp_mono (wp_self _ _) ?_ ?_ (fun _ _ _ => trivial)
    · rintro value after ⟨returned, _⟩ failure error raised
      exact absurd (returned.symm.trans raised) (by rintro ⟨⟩)
    · rintro failure after ⟨raised, _⟩
      refine wp_weaken (handleFailure_records failure) ?_
      intro _ _ records other error raisedToo classified
      obtain rfl : failure = other := Except.error.inj (raised.symm.trans raisedToo)
      exact records error classified
  · exact wp_raise.2 trivial

/-- What a pass owes to the two tables: it requests only their transitions, records the
classified failure of its body, and leaves both rows of a live acquisition resting or
failed unless the worker was shut down. -/
structure PassLegal (inputs : ExecutionInputs) (store : Store) : Prop where
  legal : ∀ error, (execute inputs ⟨store.rows, store⟩).result ≠ .error (.invalidTransition error)
  recorded : ∀ failure error result,
    (executeBody inputs store.begun).result = .error failure →
      failure.classification = some error →
        (execute inputs ⟨store.rows, store⟩).result = .ok result →
          (execute inputs ⟨store.rows, store⟩).frame.durable.rows.Records error
  rests : ∀ result, (runPass inputs ⟨store.rows, store⟩).result = .ok result →
    (runPass inputs ⟨store.rows, store⟩).frame.durable.rows.Resting
  fails : store.rows.attempt.state.Running → ∀ failure,
    (runPass inputs ⟨store.rows, store⟩).result = .error failure → failure ≠ .interrupted →
      (runPass inputs ⟨store.rows, store⟩).frame.durable.rows.FailureRecorded

/-- In every run of an acquisition, whatever its steps, a permitted pass is legal. -/
theorem pass_transitions_legal {store : Store} (reachable : RunStore (fun _ _ => True) store)
    (inputs : ExecutionInputs) (permitted : Permitted inputs store) : PassLegal inputs store := by
  have sound : StoreSound False store := reachable.sound
  have executed : wp (execute inputs) (fun _ => Returned False)
      (Escaped False True False) (CrashSound False) ⟨store.rows, store⟩ :=
    execute_returned sound store.rows nofun (fun _ => permitted) nofun
  have ran : wp (runPass inputs) (fun _ => Returned False)
      (Supervised False True store.rows.attempt.state.Running) (CrashSound False)
      ⟨store.rows, store⟩ :=
    runPass_returned sound nofun (fun _ => permitted) id store.rows
  constructor
  · intro error raised
    exact (executed.raised raised).legal trivial error rfl
  · intro failure error result raised classified returned
    exact (execute_records store.rows).returned returned failure error raised classified
  · intro result returned
    obtain ⟨saved, resting⟩ := ran.returned returned
    exact saved.saved ▸ resting
  · intro running failure raised notInterrupted
    exact (ran.raised raised).ended running notInterrupted

/-- A permitted pass from the planned rows. -/
theorem pass_transitions_legal_planned : PassLegal smoothInputs plannedStore :=
  pass_transitions_legal (.start plannedStore_planned) smoothInputs
    { cancel := nofun
      present := nofun
      validation := by
        rintro checks ⟨⟩ ⟨_, _, _, unreadable⟩
        cases unreadable }

/-- The answers of a pass whose validator cannot read the file at the end. -/
def unreadableInputs : ExecutionInputs :=
  { smoothInputs with validation := .checked ⟨true, .safe, false, false, false⟩ }

/-- A retryable rejection with retries left asks a validating artifact to wait for a
retry, which its table does not offer. -/
theorem pass_transitions_illegal_unreadable :
    RunStore (fun _ _ => True) plannedStore ∧ ¬ PassLegal unreadableInputs plannedStore :=
  ⟨.start plannedStore_planned, fun legal => legal.legal
    ⟨"artifact", "validating", "retry_pending", ["completed", "intervention", "failed"]⟩ rfl⟩

end Pullbox.Direct
