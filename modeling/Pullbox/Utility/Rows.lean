import Pullbox.Utility.System

/-!
# What a step does to the rows

Every step of the queue changes a row in one of a few ways, or adds a queued row. The
invariants of the table follow from that list.
-/

namespace Pullbox.Utility

open Durable List

/-- The part of a row that decides where the job is in its life and in the queue. -/
structure Control where
  state : JobState
  queuePosition : Option Nat
  startedAt : Option Timestamp

def UtilityJob.control (job : UtilityJob) : Control :=
  ⟨job.state, job.queuePosition, job.startedAt⟩

/-- The states of a job that was cancelled, or has run to its end. -/
def settledStates : List JobState :=
  [.cancelling, .cancelled, .completed, .failed, .rollingBack, .rolledBack]

/-- The ways one step changes the control part of a row. -/
inductive Change (event : Event) (old : Control) : Control → Prop where
  | kept : Change event old old
  | moved {target} (valid : target ∈ validTransitions old.state)
      (lasting : target ∉ terminalStates) (target_ne : target ≠ .running)
      (taken : old.state ≠ .queued) : Change event old { old with state := target }
  | ended {target} (valid : target ∈ validTransitions old.state)
      (terminal : target ∈ terminalStates) :
      Change event old { old with state := target, queuePosition := none }
  | cancelled (resting : old.state = .queued ∨ old.state = .paused) :
      Change event old { old with state := .cancelled, queuePosition := none }
  | started (queued : old.state = .queued) (now : Timestamp) :
      Change event old ⟨.running, none, some now⟩
  /-- The job fails for want of an executor. -/
  | unregistered (queued : old.state = .queued) {now} (missing : event = .start false now) :
      Change event old { old with state := .failed }
  | resumed {id} (resume : event = .resume id) (paused : old.state = .paused)
      (position : Nat) :
      Change event old { old with state := .queued, queuePosition := some position }
  | resequenced {id} (resume : event = .resume id) (queued : old.state = .queued)
      (position : Nat) : Change event old { old with queuePosition := some position }
  | rolledBack (settled : old.state ∈ settledStates) :
      Change event old { old with state := .rolledBack }
  | recovered (interrupted : old.state = .running ∨ old.state = .pausing) :
      Change event old { old with state := .paused }

/-- One step changes a row: its identifier stays, and at most the reference to its parent
goes. -/
structure RowChange (event : Event) (old row : UtilityJob) : Prop where
  id : row.id = old.id
  parent : row.parentJobId = old.parentJobId ∨ row.parentJobId = none
  change : Change event old.control row.control

/-- A row that one step adds at the end of the queue. -/
structure Entered (system : System) (jobs : Jobs) (row : UtilityJob) : Prop where
  id : row.id ∉ system.issued
  control : ∃ position, row.control = ⟨.queued, some position, none⟩
  parent : ∀ parent, row.parentJobId = some parent →
    ∃ job ∈ jobs, job.id = parent ∧ job.state ∈ settledStates

/-- Every row of the table is a changed old row, or entered the queue. -/
def Rows (system : System) (event : Event) (jobs : Jobs) : Prop :=
  ∀ row ∈ jobs, (∃ old ∈ system.jobs, RowChange event old row) ∨ Entered system jobs row

/-- What holds of the table and the identifiers in every run. -/
structure Sound (system : System) : Prop where
  distinct : system.jobs.Distinct
  issued : ∀ job ∈ system.jobs, job.id ∈ system.issued
  held : ∀ id, system.phase.held = some id → id ∈ system.issued
  parentIssued : ∀ job ∈ system.jobs, ∀ id, job.parentJobId = some id → id ∈ system.issued
  parents : ∀ child ∈ system.jobs, ∀ parent ∈ system.jobs,
    child.parentJobId = some parent.id → parent.state ∈ settledStates
  started : ∀ job ∈ system.jobs, job.state ∈ [.running, .pausing, .paused] →
    job.startedAt.isSome
  cancelIssued : ∀ id ∈ system.cancelled, id ∈ system.issued
  cancelled : ∀ job ∈ system.jobs, job.id ∈ system.cancelled → job.state ∈ settledStates
  recovering : system.recovering = true → system.phase = .idle

/-! ### Changes -/

theorem validTransitions_settled : ∀ state ∈ settledStates, ∀ target ∈ validTransitions state,
    target ∈ settledStates := by
  decide

/-- Only a job that runs is paused by a transition. -/
theorem running_of_valid {state target : JobState} (valid : target ∈ validTransitions state)
    (pausing : target = .pausing ∨ target = .paused) :
    state ∈ [JobState.running, .pausing, .paused] := by
  rcases pausing with rfl | rfl <;> cases state <;> simp [validTransitions] at valid ⊢

namespace Change

variable {event : Event} {old new : Control}

/-- A settled job stays settled. -/
theorem settled (change : Change event old new) (settled : old.state ∈ settledStates) :
    new.state ∈ settledStates := by
  cases change with
  | kept | resequenced => exact settled
  | moved valid | ended valid => exact validTransitions_settled _ settled _ valid
  | cancelled | unregistered | rolledBack => simp [settledStates]
  | started queued => simp [queued, settledStates] at settled
  | resumed _ paused => simp [paused, settledStates] at settled
  | recovered interrupted =>
    rcases interrupted with running | pausing
    · simp [running, settledStates] at settled
    · simp [pausing, settledStates] at settled

/-- A row whose state is to have a start time has one. -/
theorem startedAt (change : Change event old new)
    (started : old.state ∈ [.running, .pausing, .paused] → old.startedAt.isSome)
    (state : new.state ∈ [.running, .pausing, .paused]) : new.startedAt.isSome := by
  cases change with
  | kept | resequenced => exact started state
  | moved valid lasting target_ne =>
    exact started (running_of_valid valid (by simpa [target_ne] using state))
  | @ended target valid terminal =>
    have resting : target ∉ [JobState.running, .pausing, .paused] := by
      rcases (by simpa [terminalStates] using terminal) with rfl | rfl | rfl | rfl <;> simp
    exact absurd state resting
  | cancelled | unregistered | resumed | rolledBack => simp at state
  | started => rfl
  | recovered interrupted =>
    apply started
    rcases interrupted with running | pausing
    · simp [running]
    · simp [pausing]

/-- A row that is queued after a step was so before, unless it was resumed. -/
theorem queued (change : Change event old new) (queued : new.state = .queued)
    (noResume : ∀ id, event ≠ .resume id) : new = old := by
  cases change with
  | kept => rfl
  | moved valid | ended valid =>
    simp only at queued
    subst queued
    cases state : old.state <;> simp [state, validTransitions] at valid
  | cancelled | started | unregistered | rolledBack | recovered => simp at queued
  | resumed resume | resequenced resume => exact absurd resume (noResume _)

/-- A start time stays. -/
theorem startedAt_isSome (change : Change event old new) (started : old.startedAt.isSome) :
    new.startedAt.isSome := by
  cases change <;> first | exact started | rfl

/-- Only queued jobs keep a position, unless a job fails for want of an executor. -/
theorem queuePosition (change : Change event old new)
    (unset : old.state ≠ .queued → old.queuePosition = none)
    (registered : ∀ now, event ≠ .start false now) (unqueued : new.state ≠ .queued) :
    new.queuePosition = none := by
  cases change with
  | kept => exact unset unqueued
  | moved _ _ _ taken => exact unset taken
  | ended | cancelled | started => rfl
  | unregistered _ missing => exact absurd missing (registered _)
  | resumed => exact absurd rfl unqueued
  | resequenced _ queued => exact absurd queued unqueued
  | rolledBack settled =>
    refine unset fun queued => ?_
    simp [queued, settledStates] at settled
  | recovered interrupted =>
    refine unset fun queued => ?_
    simp [queued] at interrupted

end Change

variable {now : Timestamp}

namespace RowChange

variable {event : Event} {job row : UtilityJob}

/-- Rows that agree on what a change is about. -/
theorem kept (id : row.id = job.id) (parent : row.parentJobId = job.parentJobId)
    (control : row.control = job.control) : RowChange event job row :=
  ⟨id, .inl parent, control ▸ .kept⟩

/-- A checked transition, with any counters and messages. -/
theorem moved {target : JobState} (now : Timestamp)
    (valid : target ∈ validTransitions job.state) (target_ne : target ≠ .running)
    (taken : target ∈ terminalStates ∨ job.state ≠ .queued) (id : row.id = job.id)
    (parent : row.parentJobId = job.parentJobId)
    (control : row.control = (job.moveTo target now).control) : RowChange event job row := by
  refine ⟨id, .inl parent, ?_⟩
  have moved : (job.moveTo target now).control =
      ⟨target, if target ∈ terminalStates then none else job.queuePosition, job.startedAt⟩ := by
    simp [UtilityJob.control, UtilityJob.moveTo_queuePosition, UtilityJob.moveTo_startedAt,
      target_ne]
  rw [control, moved]
  split_ifs with terminal
  · exact .ended valid terminal
  · exact .moved valid terminal target_ne (taken.resolve_left terminal)

theorem cancelled (cancelled : CancelledRow job now row) :
    RowChange event job row := by
  cases cancelled with
  | running running =>
    have valid : JobState.cancelling ∈ validTransitions job.state := by
      simp [running, validTransitions]
    exact .moved now valid (by decide) (.inr (by simp [running])) (by simp) (by simp) rfl
  | resting resting =>
    refine ⟨by simp, .inl (by simp), ?_⟩
    have control : ((job.moveTo .cancelling now).moveTo .cancelled now).control =
        ⟨.cancelled, none, job.startedAt⟩ := by
      simp [UtilityJob.control, UtilityJob.moveTo_queuePosition, UtilityJob.moveTo_startedAt,
        terminalStates]
    rw [control]
    exact .cancelled resting

end RowChange

/-! ### Tables -/

variable {jobType : JobType}

section Tables

variable {system : System} {event : Event} {jobs : Jobs} {job row : UtilityJob}

/-- Every row of the table is a changed old row. -/
def Kept (system : System) (event : Event) (jobs : Jobs) : Prop :=
  ∀ row ∈ jobs, ∃ old ∈ system.jobs, RowChange event old row

theorem Kept.refl : Kept system event system.jobs :=
  fun row member => ⟨row, member, .kept rfl rfl rfl⟩

/-- One row is written. -/
theorem Kept.save {id : RowId} (found : system.jobs.get id = some job)
    (change : RowChange event job row) : Kept system event (system.jobs.save row) := by
  intro other member
  rcases Jobs.mem_save.1 member with ⟨member, _⟩ | ⟨rfl, _⟩
  · exact refl other member
  · exact ⟨job, (Jobs.mem_of_get found).1, change⟩

theorem Kept.rows (kept : Kept system event jobs) : Rows system event jobs :=
  fun row member => .inl (kept row member)

/-- One row is added. -/
theorem Kept.append (kept : Kept system event jobs)
    (entered : Entered system (jobs ++ [job]) job) : Rows system event (jobs ++ [job]) := by
  intro row member
  rcases mem_append.1 member with old | new
  · exact .inl (kept row old)
  · obtain rfl := mem_singleton.1 new
    exact .inr entered

/-- A new job has no parent. -/
theorem entered_buildQueuedJob {id : RowId} {displayName : String}
    {position : Nat} (drawn : id ∉ system.issued) :
    Entered system jobs (buildQueuedJob id jobType displayName position now) :=
  ⟨drawn, ⟨position, rfl⟩, nofun⟩

/-- The parent of a rollback job is settled. -/
theorem entered_buildRollbackJob {parent : UtilityJob} {child : RowId} {position : Nat}
    (drawn : child ∉ system.issued) (member : parent ∈ jobs)
    (settled : parent.state ∈ settledStates) :
    Entered system jobs (buildRollbackJob parent child position now) := by
  refine ⟨drawn, ⟨position, rfl⟩, ?_⟩
  rintro _ named
  obtain rfl := Option.some.inj named
  exact ⟨parent, member, rfl, settled⟩

theorem Kept.without {removed : UtilityJob → Bool} :
    Kept system event (system.jobs.without removed) := by
  intro row member
  obtain ⟨old, present, _, parent, rfl, cleared⟩ := Jobs.mem_without member
  exact ⟨old, present, rfl, cleared, .kept⟩

theorem Kept.pause {id : RowId} {table : Jobs}
    (accepted : pauseJob system.jobs id now = .ok table) : Kept system event table := by
  obtain ⟨job, found, running, rfl⟩ := pauseJob_ok accepted
  have valid : JobState.pausing ∈ validTransitions job.state := by
    simp [running, validTransitions]
  exact .save found
    (.moved now valid (by decide) (.inr (by simp [running])) (by simp) (by simp) rfl)

theorem Kept.delete {id : RowId} {table : Jobs}
    (accepted : deleteJob system.jobs id = .ok table) : Kept system event table := by
  obtain ⟨job, _, _, rfl⟩ := deleteJob_ok accepted
  exact .without

theorem mem_queuedJobsInOrder :
    row ∈ queuedJobsInOrder jobs ↔ row ∈ jobs ∧ row.state = .queued := by
  simp [queuedJobsInOrder, Jobs.queued, (perm_insertionSort _ _).mem_iff]

/-- A resume numbers the resumed job and every queued job. -/
theorem mem_resumeOrder :
    row ∈ resumeOrder jobs job ↔ row = job.requeued ∨ row ∈ jobs ∧ row.state = .queued := by
  simp only [resumeOrder, buildResumeQueueOrder, mem_append, mem_cons,
    mem_filter, mem_queuedJobsInOrder]
  cases row.startedAt <;> simp [or_comm]

/-- A resume queues the paused row, and renumbers queued rows. -/
theorem Kept.resume {id : RowId} (resume : event = .resume id) (distinct : system.jobs.Distinct)
    (found : system.jobs.get id = some job) (paused : job.state = .paused) :
    Kept system event
      (resequenceQueuedJobs (system.jobs.save job.requeued) (resumeOrder system.jobs job)) := by
  intro row member
  obtain ⟨saved, inSaved, rfl⟩ := mem_map.1 member
  obtain ⟨present, _⟩ := Jobs.mem_of_get found
  rcases Jobs.mem_save.1 inSaved with ⟨old, other⟩ | ⟨rfl, _⟩
  · refine ⟨saved, old, ?_⟩
    split_ifs with renumbered
    · obtain ⟨queued, ordered, same⟩ := mem_map.1 renumbered
      rcases mem_resumeOrder.1 ordered with rfl | ⟨queuedMember, state⟩
      · exact absurd same.symm other
      · obtain rfl := distinct.eq queuedMember old same
        exact ⟨rfl, .inl rfl, .resequenced resume state _⟩
    · exact .kept rfl rfl rfl
  · refine ⟨job, present, ?_⟩
    have ordered : job.requeued.id ∈ (resumeOrder system.jobs job).map UtilityJob.id :=
      mem_map_of_mem (mem_resumeOrder.2 (.inl rfl))
    rw [if_pos ordered]
    exact ⟨rfl, .inl rfl, .resumed resume paused _⟩

end Tables

/-! ### Steps -/

section Steps

variable {system after : System} {event : Event} {summary : JobRunSummary} {run : DispatchRun}
  {job row : UtilityJob} {message : Option String}

theorem mem_of_loadNextDispatchCandidate {jobs : Jobs}
    (found : System.loadNextDispatchCandidate jobs = some job) :
    job ∈ jobs ∧ job.state = .queued := by
  unfold System.loadNextDispatchCandidate at found
  split_ifs at found
  exact mem_queuedJobsInOrder.1 (mem_of_mem_head? found)

/-- A queued job starts. -/
theorem markJobStarted_ok {job started : UtilityJob}
    (marked : System.markJobStarted job now = .ok started) :
    started = { job.moveTo .running now with startedAt := some now, queuePosition := none } := by
  obtain ⟨moved, transition, marked⟩ := bind_eq_ok.1 marked
  obtain ⟨_, rfl⟩ := transitionJobState_eq_ok.1 transition
  exact (Except.ok.inj marked).symm

theorem Kept.startNext (sound : Sound system) (registered : Bool) (now : Timestamp) :
    Kept system (.start registered now) (system.startNext registered now).jobs := by
  unfold System.startNext
  cases found : System.loadNextDispatchCandidate system.jobs with
  | none => exact .refl
  | some job =>
    obtain ⟨member, queued⟩ := mem_of_loadNextDispatchCandidate found
    have present := sound.distinct.get member
    cases registered with
    | false => exact .save present ⟨rfl, .inl rfl, .unregistered queued rfl⟩
    | true =>
      simp only [if_true]
      split
      · rename_i started marked
        obtain rfl := markJobStarted_ok marked
        refine .save present ⟨by simp, .inl (by simp), ?_⟩
        exact .started queued now
      · exact .refl

theorem Kept.prepare {jobId : RowId}
    {generated : List RowId} {batchSize : Nat} :
    Kept system event (system.prepare jobId jobType summary generated batchSize).jobs := by
  unfold System.prepare
  split
  · exact .refl
  · rename_i job found
    refine .save found ?_
    unfold System.generateItems
    split_ifs <;> exact .kept rfl rfl rfl

theorem Kept.failPreparation {jobId : RowId} {error : String} :
    Kept system event (system.failPreparation jobId error now).jobs := by
  unfold System.failPreparation
  split
  · exact .refl
  · rename_i job found
    split
    · rename_i failed transition
      obtain ⟨valid, rfl⟩ := transitionJobState_eq_ok.1 transition
      exact .save found (.moved now valid (by decide) (.inl (by decide)) (by simp) (by simp) rfl)
    · exact .refl

theorem Kept.checkpoint :
    Kept system event (system.checkpoint run now).jobs := by
  unfold System.checkpoint
  split_ifs
  · exact .refl
  · split
    · exact .refl
    · rename_i job found
      split_ifs with pausing
      · split
        · rename_i paused transition
          obtain ⟨valid, rfl⟩ := transitionJobState_eq_ok.1 transition
          exact .save found
            (.moved now valid (by decide) (.inr (by simp [pausing])) (by simp) (by simp) rfl)
        · exact .refl
      · exact .refl
      · exact .refl

theorem Kept.lease {items : List RowId} :
    Kept system event (system.lease run items now).jobs := by
  unfold System.lease
  simp only
  split
  · rename_i job found
    exact .save found (.kept rfl rfl rfl)
  · exact .refl

theorem rowWithItem_get {jobId itemId : RowId}
    (found : system.rowWithItem jobId itemId = some job) :
    system.jobs.get jobId = some job ∧ (job.item itemId).isSome := by
  simpa [System.rowWithItem, Option.filter_eq_some_iff] using found

theorem Kept.persist {batch : Batch} {processed : ProcessedItem}
    {applied : ApplyResult} :
    Kept system event (system.persist run batch processed applied now).jobs := by
  unfold System.persist
  simp only
  split
  · exact .refl
  · rename_i job found
    exact .save (rowWithItem_get found).1 (.kept rfl rfl rfl)

theorem Kept.persistFailure {batch : Batch} {processed : ProcessedItem}
    {error : String} :
    Kept system event (system.persistFailure run batch processed error now).jobs := by
  unfold System.persistFailure
  split
  · exact .refl
  · rename_i job found
    exact .save (rowWithItem_get found).1 (.kept rfl rfl rfl)

theorem Kept.failItem {id : RowId} {remaining : List RowId}
    {error : String} :
    Kept system event (system.failItem run id remaining error now).jobs := by
  unfold System.failItem
  split
  · exact .refl
  · rename_i job found
    exact .save (rowWithItem_get found).1 (.kept rfl rfl rfl)

theorem applyJobCounterSnapshot_moveTo (job : UtilityJob) (summary : JobRunSummary)
    (target : JobState) (now : Timestamp) :
    (applyJobCounterSnapshot job summary).moveTo target now =
      applyJobCounterSnapshot (job.moveTo target now) summary := by
  simp only [UtilityJob.moveTo, applyJobCounterSnapshot]
  split_ifs <;> rfl

/-- The row a finalization completes. -/
structure FinalRow (job : UtilityJob) (target : JobState) (summary : JobRunSummary)
    (now : Timestamp) (row : UtilityJob) : Prop where
  valid : target ∈ validTransitions job.state
  id : row.id = job.id
  parent : row.parentJobId = job.parentJobId
  control : row.control = (job.moveTo target now).control
  items : row.items = job.items
  summary : row.summary = summary

theorem FinalRow.state {target : JobState} (final : FinalRow job target summary now row) :
    row.state = target := by
  have state := congrArg Control.state final.control
  simpa [UtilityJob.control] using state

/-- A finalization moves the job to its target. -/
theorem finalizeDispatchJob_completed {job completed : UtilityJob}
    (finalized : finalizeDispatchJob job jobType summary message now = .completed completed) :
    FinalRow job (finalTarget job jobType summary) summary now completed := by
  unfold finalizeDispatchJob at finalized
  simp only at finalized
  split_ifs at finalized with paused
  split at finalized
  · cases finalized
  · rename_i moved transition
    obtain ⟨valid, rfl⟩ := transitionJobState_eq_ok.1 transition
    cases finalized
    rw [applyJobCounterSnapshot_moveTo]
    refine ⟨valid, ?_, ?_, rfl, ?_, rfl⟩ <;> simp [applyJobCounterSnapshot]

/-- A finalization saves the counters of a paused job. -/
theorem finalizeDispatchJob_paused {job paused : UtilityJob}
    (finalized : finalizeDispatchJob job jobType summary message now = .paused paused) :
    job.state = .paused ∧ paused = applyJobCounterSnapshot job summary := by
  unfold finalizeDispatchJob at finalized
  simp only at finalized
  split_ifs at finalized with resting
  · exact ⟨resting, (Finalization.paused.inj finalized).symm⟩
  · split at finalized <;> cases finalized

/-- A finalization is refused by the table, and for no paused job. -/
theorem finalizeDispatchJob_refused {error : ValueError}
    (finalized : finalizeDispatchJob job jobType summary message now = .refused error) :
    job.state ≠ .paused ∧ finalTarget job jobType summary ∉ validTransitions job.state := by
  unfold finalizeDispatchJob at finalized
  simp only at finalized
  split_ifs at finalized with resting
  split at finalized
  · rename_i refused
    refine ⟨resting, fun valid => ?_⟩
    have moved : transitionJobState (applyJobCounterSnapshot job summary)
        (finalTarget job jobType summary) now = .ok _ := transitionJobState_eq_ok.2 ⟨valid, rfl⟩
    exact absurd (refused.symm.trans moved) (by simp)
  · cases finalized

theorem finalTarget_terminal (job : UtilityJob) (jobType : JobType) (summary : JobRunSummary) :
    finalTarget job jobType summary ∈ terminalStates := by
  unfold finalTarget buildCompletionDecision
  split_ifs <;> simp [terminalStates]

/-- A job that completes ran until then. -/
theorem running_of_completed {state : JobState} (valid : .completed ∈ validTransitions state) :
    state = .running := by
  cases state <;> simp [validTransitions] at valid ⊢

theorem mem_finishRollback {jobs : Jobs}
    (member : row ∈ finishRollback jobs job now) :
    row ∈ jobs ∨ ∃ parent ∈ jobs, job.parentJobId = some parent.id ∧ job.state = .completed ∧
      row = { parent with state := .rolledBack, completedAt := some now } := by
  unfold finishRollback at member
  split at member
  · rename_i parent located
    obtain ⟨parentId, reference, located⟩ := Option.bind_eq_some_iff.1 located
    obtain ⟨present, rfl⟩ := Jobs.mem_of_get located
    split_ifs at member with rollback
    · rcases Jobs.mem_save.1 member with ⟨member, _⟩ | ⟨rfl, _⟩
      · exact .inl member
      · exact .inr ⟨parent, present, reference, rollback.2, rfl⟩
    · exact .inl member
  · exact .inl member

theorem Kept.finalize (sound : Sound system) :
    Kept system event (system.finalize run message now).jobs := by
  unfold System.finalize
  split
  · exact .refl
  rename_i job found
  obtain ⟨member, _⟩ := Jobs.mem_of_get found
  simp only
  split
  · rename_i paused finalized
    obtain ⟨_, rfl⟩ := finalizeDispatchJob_paused finalized
    exact .save found (.kept rfl rfl rfl)
  · rename_i completed finalized
    have final := finalizeDispatchJob_completed finalized
    have terminal := finalTarget_terminal job run.jobType run.summary
    have target_ne : finalTarget job run.jobType run.summary ≠ .running := by
      intro running
      simp [running, terminalStates] at terminal
    have saved : Kept system event (system.jobs.save completed) :=
      .save found
        (.moved now final.valid target_ne (.inl terminal) final.id final.parent final.control)
    intro row rowMember
    rcases mem_finishRollback rowMember with rowMember | ⟨parent, present, reference, done, rfl⟩
    · exact saved row rowMember
    · -- the parent is another row, which is settled
      have running : job.state = .running :=
        running_of_completed (final.state.symm.trans done ▸ final.valid)
      have child : job.parentJobId = some parent.id := final.parent.symm.trans reference
      rcases Jobs.mem_save.1 present with ⟨old, other⟩ | ⟨rfl, _⟩
      · have settled := sound.parents job member parent old child
        exact ⟨parent, old, rfl, .inl rfl, .rolledBack settled⟩
      · have settled := sound.parents job member job member (final.id ▸ child)
        simp [running, settledStates] at settled
  · exact .refl

theorem Kept.recover :
    Kept system event (System.recoverInterruptedJobs system.jobs now) := by
  intro row member
  obtain ⟨old, present, rfl⟩ := mem_map.1 member
  refine ⟨old, present, ?_⟩
  unfold System.recoverJob
  simp only
  split_ifs with interrupted
  · exact ⟨rfl, .inl rfl, .recovered interrupted⟩
  · exact .kept rfl rfl rfl

/-- The dispatcher adds no row. -/
theorem Kept.dispatched (sound : Sound system)
    (transition : system.dispatched system.phase event = some after) :
    Kept system event after.jobs := by
  generalize system.phase = phase at transition
  unfold System.dispatched at transition
  split at transition
  all_goals try split_ifs at transition
  all_goals cases transition
  all_goals first
    | exact .refl
    | exact .startNext sound _ _
    | exact .prepare
    | exact .failPreparation
    | exact .checkpoint
    | exact .lease
    | exact .persist
    | exact .persistFailure
    | exact .failItem
    | exact .finalize sound

/-- The rows of a request's answer. -/
theorem rows_of_answer {result : Except ValueError Jobs} {accepted : System → System}
    (jobs : ∀ table, (accepted { system with jobs := table }).jobs = table)
    (rows : ∀ table, result = .ok table → Rows system event table) :
    Rows system event (system.answer result accepted).jobs := by
  cases result with
  | error => exact Kept.refl.rows
  | ok table => exact (jobs table).symm ▸ rows table rfl

theorem CancelledRow.settled
    (cancelled : CancelledRow job now row) : row.state ∈ settledStates := by
  cases cancelled <;> simp [settledStates]

theorem CancelledRow.id (cancelled : CancelledRow job now row) : row.id = job.id := by
  cases cancelled <;> simp

theorem mem_save_self {jobs : Jobs} {id : RowId}
    (found : jobs.get id = some job) (named : row.id = job.id) : row ∈ jobs.save row :=
  Jobs.mem_save.2 (.inr ⟨rfl, job, (Jobs.mem_of_get found).1, named.symm⟩)

/-- The rows after a cancel, with the rollback job it may queue. -/
theorem rows_of_cancel {id : RowId} {rollback : Option RowId} {table : Jobs}
    (drawn : ∀ child, rollback = some child → child ∉ system.issued)
    (accepted : cancelJob system.jobs id rollback now = .ok table) :
    Rows system event table := by
  obtain ⟨job, row, found, cancelled, rfl⟩ := cancelJob_ok accepted
  have kept : Kept system event (system.jobs.save row) := .save found (.cancelled cancelled)
  cases rollback with
  | none => simpa using kept.rows
  | some child =>
    refine kept.append (entered_buildRollbackJob (drawn child rfl) ?_ cancelled.settled)
    exact mem_append_left _ (mem_save_self found cancelled.id)

theorem settled_of_rollbackable : ∀ state ∈ rollbackableStates, state ∈ settledStates := by
  decide

/-- Every step of the queue changes rows in the listed ways, or adds a queued row. -/
theorem rows_of_step (sound : Sound system) (step : Step event system after) :
    Rows system event after.jobs := by
  cases event with
  | create id jobType displayName now =>
    simp only [Step, System.apply] at step
    split_ifs at step with drawn
    obtain rfl := Option.some.inj step
    exact Kept.refl.append (entered_buildQueuedJob drawn)
  | pause id now =>
    obtain rfl := Option.some.inj step
    exact rows_of_answer (fun _ => rfl) fun table accepted => (Kept.pause accepted).rows
  | resume id =>
    obtain rfl := Option.some.inj step
    refine rows_of_answer (fun _ => rfl) fun table accepted => ?_
    obtain ⟨job, found, paused, rfl⟩ := resumeJob_ok accepted
    exact (Kept.resume rfl sound.distinct found paused).rows
  | cancel id rollback now =>
    simp only [Step, System.apply] at step
    split_ifs at step with drawn
    obtain rfl := Option.some.inj step
    refine rows_of_answer ?_ fun table accepted => rows_of_cancel ?_ accepted
    · intro table
      unfold System.acceptCancel
      split <;> rfl
    · rintro child rfl
      simpa using drawn
  | queueRollback id child now =>
    simp only [Step, System.apply] at step
    split_ifs at step with drawn
    obtain rfl := Option.some.inj step
    refine rows_of_answer (fun _ => rfl) fun table accepted => ?_
    obtain ⟨job, found, resting, rfl⟩ := queueRollbackJob_ok accepted
    have settled := settled_of_rollbackable _ resting
    exact Kept.refl.append (entered_buildRollbackJob drawn
      (mem_append_left _ (Jobs.mem_of_get found).1) settled)
  | delete id =>
    obtain rfl := Option.some.inj step
    exact rows_of_answer (fun _ => rfl) fun table accepted => (Kept.delete accepted).rows
  | clearHistory =>
    obtain rfl := Option.some.inj step
    exact Kept.without.rows
  | crash =>
    obtain rfl := Option.some.inj step
    exact Kept.refl.rows
  | recover now =>
    obtain ⟨_, rfl⟩ := Option.ite_some_none_eq_some.1 step
    exact Kept.recover.rows
  | _ =>
    exact (Kept.dispatched sound step).rows

end Steps

end Pullbox.Utility
