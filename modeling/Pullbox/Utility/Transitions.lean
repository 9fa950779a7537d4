import Pullbox.Utility.Sound

/-!
# Transitions of the dispatcher

As long as requests leave the dispatcher a way out (no pause after the last checkpoint, no
cancel or resume of a paused job it still holds) and no error ends it, every transition it
asks for is in the table, and it is done with a job only in a state in which the job rests.
-/

namespace Pullbox.Utility

open Durable List

/-- The states in which a job rests. -/
def restingStates : List JobState :=
  [.queued, .paused, .completed, .failed, .cancelled]

/-- The dispatcher reads the state of its job again before a batch. -/
def Phase.CheckpointAhead : Phase → Prop
  | .idle | .selecting | .started .. | .preparing .. => True
  | .checking run | .leasing run _ | .processing run _ | .persisting run _ _ _
  | .failing run _ _ => run.pendingItems ≠ []
  | .finalizing _ => False

/-- The states of the job the dispatcher holds from which it finds a way out. -/
def Phase.Expects (phase : Phase) (state : JobState) : Prop :=
  match phase with
  | .idle | .selecting => True
  | .started .. | .preparing .. => state ∈ [.running, .pausing, .cancelling]
  | .checking run | .leasing run _ | .processing run _ | .persisting run _ _ _
  | .failing run _ _ =>
    state ∈ [.running, .cancelling] ∨ state = .pausing ∧ run.pendingItems ≠ []
  | .finalizing _ => state ∈ [.running, .cancelling, .paused]

/-- Requests and errors that leave the dispatcher a way out: its job is paused only while a
checkpoint is ahead, it is neither cancelled nor resumed between its pause and its
finalization, and no error ends the dispatcher. -/
def InTime : Event → System → Prop
  | .pause id _, system => system.phase.held = some id → system.phase.CheckpointAhead
  | .resume id, system | .cancel id _ _, system => system.phase.held = some id →
      ∀ job ∈ system.jobs, job.id = id → job.state ≠ .paused
  | .prepare generated _, system => ∀ job ∈ system.jobs, system.phase.held = some job.id →
      job.state = .pausing → System.pendingItems (System.generateItems job generated) ≠ []
  | .fault, _ => False
  | _, _ => True

/-- The dispatcher holds a row in an expected state, and has asked for allowed transitions
and left resting jobs only. -/
structure Lawful (system : System) : Prop where
  held : ∀ id, system.phase.held = some id →
    ∃ job ∈ system.jobs, job.id = id ∧ system.phase.Expects job.state
  requested : ∀ request ∈ system.requested, request.2 ∈ validTransitions request.1
  left : ∀ state ∈ system.left, state ∈ restingStates

variable {id : RowId} {jobs : Jobs}

namespace Phase.Expects

variable {phase : Phase} {state : JobState}

/-- A running job is expected to be paused while a checkpoint is ahead. -/
theorem pausing (ahead : phase.CheckpointAhead) : phase.Expects .pausing := by
  cases phase <;> simp_all [Phase.Expects, Phase.CheckpointAhead]

/-- A cancel is always expected. -/
theorem cancelling : phase.Expects .cancelling := by
  cases phase <;> simp [Phase.Expects]

/-- A job paused by the checkpoint is expected to be finalized. -/
theorem paused {run : DispatchRun} : (Phase.finalizing run).Expects .paused := by
  simp [Phase.Expects]

/-- The job the dispatcher holds has not ended, and is not queued. -/
theorem active (expects : phase.Expects state) (held : phase.held = some id) :
    state ∈ [JobState.running, .pausing, .cancelling, .paused] := by
  cases phase with
  | idle | selecting => simp [Phase.held] at held
  | started | preparing =>
    simp only [Phase.Expects, mem_cons, not_mem_nil, or_false] at expects
    rcases expects with rfl | rfl | rfl <;> simp
  | checking | leasing | processing | persisting | failing =>
    simp only [Phase.Expects, mem_cons, not_mem_nil, or_false] at expects
    rcases expects with (rfl | rfl) | ⟨rfl, _⟩ <;> simp
  | finalizing =>
    simp only [Phase.Expects, mem_cons, not_mem_nil, or_false] at expects
    rcases expects with rfl | rfl | rfl <;> simp

end Phase.Expects

/-! ### Requests -/

section Requests

variable {system after : System} {event : Event} {id : RowId} {job : UtilityJob} {now : Timestamp}

/-- A row of the table after another, or the same, row is written. -/
theorem Jobs.Distinct.save (distinct : jobs.Distinct) {old row : UtilityJob}
    (found : jobs.get id = some old) (named : row.id = old.id) (member : job ∈ jobs) :
    (job.id ≠ old.id ∧ job ∈ jobs.save row) ∨ (job = old ∧ row ∈ jobs.save row) := by
  obtain ⟨present, _⟩ := Jobs.mem_of_get found
  by_cases same : job.id = old.id
  · exact .inr ⟨distinct.eq member present same, mem_save_self found named⟩
  · refine .inl ⟨same, Jobs.mem_save.2 (.inl ⟨member, ?_⟩)⟩
    rwa [named]

/-- A job that has not ended survives a deletion. -/
theorem Jobs.without_of_mem {removed : UtilityJob → Bool} (member : job ∈ jobs)
    (stays : removed job = false) :
    ∃ row ∈ jobs.without removed, row.id = job.id ∧ row.state = job.state := by
  refine ⟨_, mem_map_of_mem (mem_filter.2 ⟨member, by simpa using stays⟩), ?_⟩
  split_ifs <;> exact ⟨rfl, rfl⟩

/-- A resume changes the state of the resumed row only. -/
theorem resequence_of_mem (ordered : Jobs) (member : job ∈ jobs) :
    ∃ row ∈ resequenceQueuedJobs jobs ordered, row.id = job.id ∧ row.state = job.state := by
  refine ⟨_, mem_map_of_mem member, ?_⟩
  split_ifs <;> exact ⟨rfl, rfl⟩

/-- A request that leaves the dispatcher an expected row. -/
theorem Lawful.request (lawful : Lawful system) (undisturbed : Undisturbed system after)
    (row : ∀ job ∈ system.jobs, system.phase.held = some job.id →
      system.phase.Expects job.state →
      ∃ row ∈ after.jobs, row.id = job.id ∧ system.phase.Expects row.state) : Lawful after := by
  refine ⟨?_, undisturbed.requested ▸ lawful.requested, undisturbed.left ▸ lawful.left⟩
  intro id holds
  rw [undisturbed.phase] at holds ⊢
  obtain ⟨job, member, rfl, expects⟩ := lawful.held id holds
  exact row job member holds expects

theorem Lawful.pause (lawful : Lawful system) (sound : Sound system)
    (admitted : InTime (.pause id now) system) (step : Step (.pause id now) system after) :
    Lawful after := by
  obtain rfl := Option.some.inj step
  cases accepted : pauseJob system.jobs id now with
  | error => exact lawful
  | ok table =>
    obtain ⟨old, found, running, rfl⟩ := pauseJob_ok accepted
    obtain ⟨_, rfl⟩ := Jobs.mem_of_get found
    refine lawful.request ⟨rfl, rfl, rfl, rfl⟩ fun job member holds expects => ?_
    rcases sound.distinct.save found (old.moveTo_id .pausing now) member with
      ⟨_, present⟩ | ⟨rfl, present⟩
    · exact ⟨job, present, rfl, expects⟩
    · refine ⟨_, present, by simp, ?_⟩
      simpa using Phase.Expects.pausing (admitted holds)

theorem Lawful.resume (lawful : Lawful system) (sound : Sound system)
    (admitted : InTime (.resume id) system) (step : Step (.resume id) system after) :
    Lawful after := by
  obtain rfl := Option.some.inj step
  cases accepted : resumeJob system.jobs id with
  | error => exact lawful
  | ok table =>
    obtain ⟨old, found, paused, rfl⟩ := resumeJob_ok accepted
    obtain ⟨oldMember, rfl⟩ := Jobs.mem_of_get found
    refine lawful.request ⟨rfl, rfl, rfl, rfl⟩ fun job member holds expects => ?_
    rcases sound.distinct.save found old.requeued_id member with ⟨_, present⟩ | ⟨rfl, _⟩
    · obtain ⟨row, rowMember, named, state⟩ :=
        resequence_of_mem (resumeOrder system.jobs old) present
      exact ⟨row, rowMember, named, state ▸ expects⟩
    · exact absurd paused (admitted holds job oldMember rfl)

/-- A cancel of an expected row. -/
theorem CancelledRow.expects {phase : Phase} {row : UtilityJob}
    (cancelled : CancelledRow job now row) (expects : phase.Expects job.state)
    (held : phase.held = some job.id) (unpaused : job.state ≠ .paused) :
    phase.Expects row.state := by
  cases cancelled with
  | running => simpa using Phase.Expects.cancelling
  | resting resting =>
    have active := expects.active held
    simp [resting.resolve_right unpaused] at active

theorem Lawful.cancel (lawful : Lawful system) (sound : Sound system) {rollback : Option RowId}
    (admitted : InTime (.cancel id rollback now) system)
    (step : Step (.cancel id rollback now) system after) : Lawful after := by
  simp only [Step, System.apply] at step
  split_ifs at step with drawn
  obtain rfl := Option.some.inj step
  cases accepted : cancelJob system.jobs id rollback now with
  | error => exact lawful
  | ok table =>
    obtain ⟨old, row, found, cancelled, rfl⟩ := cancelJob_ok accepted
    obtain ⟨oldMember, rfl⟩ := Jobs.mem_of_get found
    refine lawful.request .acceptCancel fun job member holds expects => ?_
    have table (other) (saved : other ∈ system.jobs.save row) : other ∈
        (System.acceptCancel old.id rollback { system with
          jobs := system.jobs.save row ++ rollback.toList.map fun child =>
            buildRollbackJob row child (nextQueuePosition (system.jobs.save row)) now }).jobs := by
      cases rollback <;> exact mem_append_left _ saved
    rcases sound.distinct.save found cancelled.id member with ⟨_, present⟩ | ⟨rfl, present⟩
    · exact ⟨job, table job present, rfl, expects⟩
    · have unpaused := admitted holds job oldMember rfl
      exact ⟨row, table row present, cancelled.id, cancelled.expects expects holds unpaused⟩

theorem Lawful.without (lawful : Lawful system) {removed : UtilityJob → Bool}
    (terminal : ∀ job ∈ system.jobs, removed job = true → job.state ∈ terminalStates) :
    Lawful { system with jobs := system.jobs.without removed } := by
  refine lawful.request ⟨rfl, rfl, rfl, rfl⟩ fun job member holds expects => ?_
  have stays : removed job = false := by
    by_contra gone
    have ended := terminal job member (by simpa using gone)
    have active := expects.active holds
    revert ended active
    cases job.state <;> decide
  obtain ⟨row, present, named, state⟩ := Jobs.without_of_mem member stays
  exact ⟨row, present, named, state ▸ expects⟩

theorem Lawful.delete (lawful : Lawful system) (sound : Sound system)
    (step : Step (.delete id) system after) : Lawful after := by
  obtain rfl := Option.some.inj step
  cases accepted : deleteJob system.jobs id with
  | error => exact lawful
  | ok table =>
    obtain ⟨old, found, terminal, rfl⟩ := deleteJob_ok accepted
    obtain ⟨oldMember, rfl⟩ := Jobs.mem_of_get found
    refine lawful.without fun job member named => ?_
    obtain rfl := sound.distinct.eq member oldMember (by simpa using named)
    exact terminal

/-- A request that only adds a row. -/
theorem Lawful.append (lawful : Lawful system) (undisturbed : Undisturbed system after)
    {new : Jobs} (added : after.jobs = system.jobs ++ new) : Lawful after := by
  refine lawful.request undisturbed fun job member _ expects => ?_
  exact ⟨job, added ▸ mem_append_left _ member, rfl, expects⟩

end Requests

/-! ### The dispatcher -/

section Dispatcher

variable {system after : System} {event : Event} {now : Timestamp} {run : DispatchRun}

/-- A dispatcher that is done with its job leaves a lawful state if the job rests. -/
theorem Lawful.leave (lawful : Lawful system) {phase : Phase}
    (requests : List (JobState × JobState)) {state : Option JobState}
    (free : phase.held = none)
    (requested : ∀ request ∈ requests, request.2 ∈ validTransitions request.1)
    (resting : ∀ value, state = some value → value ∈ restingStates) :
    Lawful ({ system with
      jobs := jobs, requested := requests ++ system.requested }.leave state phase) := by
  refine ⟨?_, ?_, ?_⟩
  · intro id holds
    exact absurd (free.symm.trans holds) (by simp)
  · intro request listed
    rcases mem_append.1 listed with new | old
    · exact requested request new
    · exact lawful.requested request old
  · intro value listed
    rcases mem_append.1 listed with new | old
    · exact resting value (Option.mem_toList.1 new)
    · exact lawful.left value old

/-- A dispatcher that goes on with its job, whose row it may have written. -/
theorem Lawful.move (lawful : Lawful system) {phase : Phase}
    (requests : List (JobState × JobState)) {row : UtilityJob}
    (holds : phase.held = some id) (member : row ∈ jobs) (named : row.id = id)
    (expects : phase.Expects row.state)
    (requested : ∀ request ∈ requests, request.2 ∈ validTransitions request.1) :
    Lawful { system with
      jobs := jobs, phase := phase, requested := requests ++ system.requested } := by
  refine ⟨?_, ?_, lawful.left⟩
  · intro other holdsOther
    obtain rfl := Option.some.inj (holds.symm.trans holdsOther)
    exact ⟨row, member, named, expects⟩
  · intro request listed
    rcases mem_append.1 listed with new | old
    · exact requested request new
    · exact lawful.requested request old

/-- The row the dispatcher holds. -/
theorem Lawful.get (lawful : Lawful system) (sound : Sound system)
    (holds : system.phase.held = some id) :
    ∃ job, system.jobs.get id = some job ∧ job.id = id ∧ system.phase.Expects job.state := by
  obtain ⟨job, member, rfl, expects⟩ := lawful.held id holds
  exact ⟨job, sound.distinct.get member, rfl, expects⟩

theorem Lawful.startNext (lawful : Lawful system) (sound : Sound system) (registered : Bool) :
    Lawful (system.startNext registered now) := by
  unfold System.startNext
  cases found : System.loadNextDispatchCandidate system.jobs with
  | none => exact ⟨fun id holds => by simp [Phase.held] at holds, lawful.requested, lawful.left⟩
  | some job =>
    obtain ⟨member, queued⟩ := mem_of_loadNextDispatchCandidate found
    have present := sound.distinct.get member
    have valid : JobState.running ∈ validTransitions job.state := by
      simp [queued, validTransitions]
    cases registered with
    | false =>
      refine lawful.leave [] rfl (by simp) ?_
      rintro value same
      obtain rfl := Option.some.inj same
      simp [System.markJobWithoutExecutor, restingStates]
    | true =>
      have marked : System.markJobStarted job now = .ok _ :=
        bind_eq_ok.2 ⟨_, transitionJobState_eq_ok.2 ⟨valid, rfl⟩, rfl⟩
      simp only [if_true, marked]
      refine lawful.move [(job.state, .running)] rfl (mem_save_self present (by simp))
        (by simp) ?_ ?_
      · simp [Phase.Expects]
      · intro request listed
        obtain rfl := mem_singleton.1 listed
        exact valid

theorem Lawful.prepare (lawful : Lawful system) (sound : Sound system) {jobId : RowId}
    {jobType : JobType} {summary : JobRunSummary} {generated : List RowId} {batchSize : Nat}
    (phase : system.phase = .preparing jobId jobType summary)
    (admitted : InTime (.prepare generated batchSize) system) :
    Lawful (system.prepare jobId jobType summary generated batchSize) := by
  have holds : system.phase.held = some jobId := by rw [phase]; rfl
  obtain ⟨job, found, rfl, expects⟩ := lawful.get sound holds
  have generatedId : (System.generateItems job generated).id = job.id := by
    unfold System.generateItems
    split_ifs <;> rfl
  have generatedState : (System.generateItems job generated).state = job.state := by
    unfold System.generateItems
    split_ifs <;> rfl
  simp only [System.prepare, found]
  refine lawful.move [] rfl (mem_save_self found generatedId) generatedId ?_ (by simp)
  simp only [phase, Phase.Expects, generatedState] at expects ⊢
  simp only [mem_cons, not_mem_nil, or_false] at expects ⊢
  rcases expects with running | pausing | cancelling
  · exact .inl (.inl running)
  · have member := (Jobs.mem_of_get found).1
    exact .inr ⟨pausing, admitted job member holds pausing⟩
  · exact .inl (.inr cancelling)

theorem Lawful.failPreparation (lawful : Lawful system) (sound : Sound system) {jobId : RowId}
    {jobType : JobType} {summary : JobRunSummary} {error : String}
    (phase : system.phase = .preparing jobId jobType summary) :
    Lawful (system.failPreparation jobId error now) := by
  have holds : system.phase.held = some jobId := by rw [phase]; rfl
  obtain ⟨job, found, rfl, expects⟩ := lawful.get sound holds
  have valid : JobState.failed ∈ validTransitions job.state := by
    simp only [phase, Phase.Expects, mem_cons, not_mem_nil, or_false] at expects
    rcases expects with state | state | state <;> simp [state, validTransitions]
  have moved : transitionJobState job .failed now = .ok (job.moveTo .failed now) :=
    transitionJobState_eq_ok.2 ⟨valid, rfl⟩
  simp only [System.failPreparation, found, moved]
  refine lawful.leave [(job.state, .failed)] rfl ?_ ?_
  · intro request listed
    obtain rfl := mem_singleton.1 listed
    exact valid
  · rintro value same
    obtain rfl := Option.some.inj same
    simp [restingStates]

theorem Lawful.checkpoint (lawful : Lawful system) (sound : Sound system)
    (phase : system.phase = .checking run) : Lawful (system.checkpoint run now) := by
  have holds : system.phase.held = some run.jobId := by rw [phase]; rfl
  obtain ⟨job, found, named, expects⟩ := lawful.get sound holds
  have member := (Jobs.mem_of_get found).1
  simp only [phase, Phase.Expects, mem_cons, not_mem_nil, or_false] at expects
  unfold System.checkpoint
  simp only [found]
  split_ifs with finished pausing cancelled
  · refine lawful.move [] rfl member named ?_ (by simp)
    rcases expects with (running | cancelling) | ⟨_, left⟩
    · simp [Phase.Expects, running]
    · simp [Phase.Expects, cancelling]
    · exact absurd finished left
  · have valid : JobState.paused ∈ validTransitions job.state := by
      simp [pausing, validTransitions]
    have moved : transitionJobState job .paused now = .ok (job.moveTo .paused now) :=
      transitionJobState_eq_ok.2 ⟨valid, rfl⟩
    simp only [moved]
    refine lawful.move [(job.state, .paused)] rfl (mem_save_self found (by simp))
      (by simpa using named) ?_ ?_
    · rw [UtilityJob.moveTo_state]
      exact Phase.Expects.paused
    · intro request listed
      obtain rfl := mem_singleton.1 listed
      exact valid
  · refine lawful.move [] rfl member named ?_ (by simp)
    rcases expects with (running | cancelling) | ⟨state, _⟩
    · simp [Phase.Expects, running]
    · simp [Phase.Expects, cancelling]
    · exact absurd state pausing
  · refine lawful.move [] rfl member named ?_ (by simp)
    rcases expects with running | ⟨state, _⟩
    · exact .inl (by simpa using running)
    · exact absurd state pausing

/-- A step of a batch: the row keeps its state, and the phase its checkpoints. -/
theorem Lawful.batch (lawful : Lawful system) (sound : Sound system) {current next : Phase}
    (phase : system.phase = current) (holds : current.held = some id)
    (held : next.held = some id)
    (expects : ∀ state, current.Expects state → next.Expects state)
    (row : ∀ job, system.jobs.get id = some job →
      ∃ row ∈ jobs, row.id = job.id ∧ row.state = job.state) :
    Lawful { system with jobs := jobs, phase := next } := by
  subst phase
  obtain ⟨job, found, named, expected⟩ := lawful.get sound holds
  obtain ⟨saved, present, same, state⟩ := row job found
  exact lawful.move [] held present (same.trans named) (state ▸ expects _ expected) (by simp)

/-- The row is not written. -/
theorem unwritten {job : UtilityJob} (found : system.jobs.get id = some job) :
    ∃ row ∈ system.jobs, row.id = job.id ∧ row.state = job.state :=
  ⟨job, (Jobs.mem_of_get found).1, rfl, rfl⟩

theorem written {job row : UtilityJob} (found : system.jobs.get id = some job)
    (named : row.id = job.id) (state : row.state = job.state) :
    ∃ other ∈ system.jobs.save row, other.id = job.id ∧ other.state = job.state :=
  ⟨row, mem_save_self found named, named, state⟩

/-- The row with an item is written. -/
theorem written_item {id item : RowId} {job row : UtilityJob}
    (found : system.rowWithItem id item = some job) (named : row.id = job.id)
    (state : row.state = job.state) (read : UtilityJob) (same : system.jobs.get id = some read) :
    ∃ other ∈ system.jobs.save row, other.id = read.id ∧ other.state = read.state := by
  obtain rfl := Option.some.inj ((rowWithItem_get found).1.symm.trans same)
  exact written same named state

theorem Lawful.finalize (lawful : Lawful system) (sound : Sound system)
    {message : Option String} (phase : system.phase = .finalizing run) :
    Lawful (system.finalize run message now) := by
  have holds : system.phase.held = some run.jobId := by rw [phase]; rfl
  obtain ⟨job, found, _, expects⟩ := lawful.get sound holds
  simp only [phase, Phase.Expects, mem_cons, not_mem_nil, or_false] at expects
  have valid (unpaused : job.state ≠ .paused) :
      finalTarget job run.jobType run.summary ∈ validTransitions job.state := by
    unfold finalTarget buildCompletionDecision
    rcases expects with state | state | state
    · simp only [state, reduceCtorEq, if_false]
      split_ifs <;> simp [validTransitions]
    · simp [state, validTransitions]
    · exact absurd state unpaused
  have resting : finalTarget job run.jobType run.summary ∈ restingStates := by
    unfold finalTarget buildCompletionDecision
    split_ifs <;> simp [restingStates]
  unfold System.finalize
  simp only [found]
  split
  · rename_i paused finalized
    obtain ⟨state, rfl⟩ := finalizeDispatchJob_paused finalized
    refine lawful.leave [] rfl (by simp) ?_
    rintro value same
    obtain rfl := Option.some.inj same
    simp [applyJobCounterSnapshot, state, restingStates]
  · rename_i completed finalized
    have final := finalizeDispatchJob_completed finalized
    refine lawful.leave [(job.state, finalTarget job run.jobType run.summary)] rfl ?_ ?_
    · intro request listed
      obtain rfl := mem_singleton.1 listed
      exact final.valid
    · rintro value same
      obtain rfl := Option.some.inj same
      exact final.state ▸ resting
  · rename_i error refused
    obtain ⟨unpaused, invalid⟩ := finalizeDispatchJob_refused refused
    exact absurd (valid unpaused) invalid

theorem Lawful.lease (lawful : Lawful system) (sound : Sound system) {items : List RowId}
    (phase : system.phase = .leasing run items) : Lawful (system.lease run items now) := by
  refine lawful.batch sound phase rfl rfl (fun _ expects => expects) ?_
  intro job found
  simp only [found]
  exact written found rfl rfl

theorem Lawful.persist (lawful : Lawful system) (sound : Sound system) {batch : Batch}
    {processed : ProcessedItem} {applied : ApplyResult}
    (phase : system.phase = .processing run batch) :
    Lawful (system.persist run batch processed applied now) := by
  unfold System.persist
  simp only
  split
  · exact lawful.batch sound phase rfl rfl (fun _ expects => expects)
      fun _ => unwritten
  · rename_i job row
    exact lawful.batch sound phase rfl rfl (fun _ expects => expects) (written_item row rfl rfl)

theorem Lawful.persistFailure (lawful : Lawful system) (sound : Sound system) {batch : Batch}
    {processed : ProcessedItem} {error : String}
    (phase : system.phase = .persisting run batch processed error) :
    Lawful (system.persistFailure run batch processed error now) := by
  unfold System.persistFailure
  split
  · exact lawful.batch sound phase rfl rfl (fun _ expects => expects)
      fun _ => unwritten
  · rename_i job row
    exact lawful.batch sound phase rfl rfl (fun _ expects => expects) (written_item row rfl rfl)

theorem Lawful.failItem (lawful : Lawful system) (sound : Sound system)
    {remaining : List RowId} {error : String}
    (phase : system.phase = .failing run (id :: remaining) error) :
    Lawful (system.failItem run id remaining error now) := by
  unfold System.failItem
  split
  · exact lawful.batch sound phase rfl rfl (fun _ expects => expects)
      fun _ => unwritten
  · rename_i job row
    exact lawful.batch sound phase rfl rfl (fun _ expects => expects) (written_item row rfl rfl)

/-- Every step of the dispatcher that no error ends is lawful. -/
theorem Lawful.dispatched (lawful : Lawful system) (sound : Sound system)
    (admitted : InTime event system)
    (transition : system.dispatched system.phase event = some after) : Lawful after := by
  generalize phase : system.phase = current at transition
  unfold System.dispatched at transition
  split at transition
  all_goals try split_ifs at transition
  all_goals cases transition
  all_goals first
    | exact lawful
    | exact admitted.elim
    | exact lawful.startNext sound _
    | exact lawful.prepare sound phase admitted
    | exact lawful.failPreparation sound phase
    | exact lawful.checkpoint sound phase
    | exact lawful.lease sound phase
    | exact lawful.persist sound phase
    | exact lawful.persistFailure sound phase
    | exact lawful.failItem sound phase
    | exact lawful.finalize sound phase
    | -- the dispatcher moves on in memory only
      exact lawful.batch sound phase rfl rfl (fun _ expects => expects) fun _ => unwritten
    | exact ⟨fun id holds => by simp [Phase.held] at holds, lawful.requested, lawful.left⟩

/-- Every admitted step is lawful. -/
theorem Lawful.step (lawful : Lawful system) (sound : Sound system)
    (admitted : InTime event system) (step : Step event system after) : Lawful after := by
  cases event with
  | create id jobType displayName now =>
    simp only [Step, System.apply] at step
    split_ifs at step with drawn
    obtain rfl := Option.some.inj step
    exact lawful.append ⟨rfl, rfl, rfl, rfl⟩ rfl
  | pause id now => exact lawful.pause sound admitted step
  | resume id => exact lawful.resume sound admitted step
  | cancel id rollback now => exact lawful.cancel sound admitted step
  | queueRollback id child now =>
    simp only [Step, System.apply] at step
    split_ifs at step with drawn
    obtain rfl := Option.some.inj step
    cases accepted : queueRollbackJob system.jobs id child now with
    | error => exact lawful
    | ok table =>
      obtain ⟨job, _, _, rfl⟩ := queueRollbackJob_ok accepted
      exact lawful.append ⟨rfl, rfl, rfl, rfl⟩ rfl
  | delete id => exact lawful.delete sound step
  | clearHistory =>
    obtain rfl := Option.some.inj step
    exact lawful.without fun job _ removed => by simpa using removed
  | crash =>
    obtain rfl := Option.some.inj step
    exact ⟨fun id holds => by simp [Phase.held] at holds, lawful.requested, lawful.left⟩
  | recover now =>
    obtain ⟨recovering, rfl⟩ := Option.ite_some_none_eq_some.1 step
    refine ⟨fun id holds => ?_, lawful.requested, lawful.left⟩
    simp [sound.recovering recovering, Phase.held] at holds
  | _ =>
    exact lawful.dispatched sound admitted step

theorem Fresh.lawful (fresh : Fresh system) : Lawful system := by
  obtain ⟨_, phase, _, requested, left, _, _⟩ := fresh
  refine ⟨?_, by simp [requested], by simp [left]⟩
  simp [phase, Phase.held]

end Dispatcher

/-! ### The guarantee -/

/-- What the dispatcher owes: it asks for transitions of the table only, and is done with a
job only in a state in which the job rests. -/
structure DispatchesLawfully (system : System) : Prop where
  requested : ∀ request ∈ system.requested, request.2 ∈ validTransitions request.1
  left : ∀ state ∈ system.left, state ∈ restingStates

/-- In every run that leaves the dispatcher a way out, it dispatches lawfully. -/
theorem dispatches_lawfully {system : System} (reachable : Reachable Fresh InTime Step system) :
    DispatchesLawfully system := by
  have lawful : Lawful system := reachable.induction (fun _ fresh => fresh.lawful)
    fun _ _ _ prior lawful admitted step => lawful.step (sound_of_reachable prior) admitted step
  exact ⟨lawful.requested, lawful.left⟩

instance (phase : Phase) : Decidable phase.CheckpointAhead := by
  cases phase <;> dsimp only [Phase.CheckpointAhead] <;> infer_instance

instance (event : Event) (system : System) : Decidable (InTime event system) := by
  cases event <;> dsimp only [InTime] <;> infer_instance

/-- The next state, if the event is admitted and can happen. -/
def System.allow (system : System) (event : Event) : Option System :=
  if InTime event system then system.apply event else none

/-- Events that are admitted where they happen lead to a reachable state. -/
theorem reachable_of_allowed {events : List Event} {system after : System}
    (reachable : Reachable Fresh InTime Step system)
    (ran : events.foldlM System.allow system = some after) :
    Reachable Fresh InTime Step after := by
  induction events generalizing system with
  | nil =>
    cases ran
    exact reachable
  | cons event rest ih =>
    rw [foldlM_cons] at ran
    obtain ⟨next, stepped, ran⟩ := Option.bind_eq_some_iff.1 ran
    unfold System.allow at stepped
    split_ifs at stepped with admitted
    exact ih (.next reachable admitted stepped) ran

/-- A job with two items is paused during its first batch, resumed, and cancelled during its
second. -/
def requestedRun : List Event :=
  [.create 1 .massRename "Rename" 1, .dispatch, .start true 2, .load, .prepare [10, 11] 1,
    .checkpoint 3, .lease 4, .pause 1 5, .persist (processedItem 10 .completed) ⟨0, none⟩ 6,
    .endBatch, .checkpoint 7, .finalize none 8, .start true 9, .resume 1, .dispatch,
    .start true 10, .load, .prepare [] 1, .checkpoint 11, .lease 12, .cancel 1 none 13,
    .persist (processedItem 11 .completed) ⟨0, none⟩ 14, .endBatch, .checkpoint 15,
    .finalize none 16]

/-- The dispatcher leaves the job paused, and then cancelled. -/
theorem dispatches_lawfully_requestedRun : DispatchesLawfully (queueAfter requestedRun) ∧
    (queueAfter requestedRun).left = [.cancelled, .paused] := by
  have ran : requestedRun.foldlM System.allow emptyQueue = some (queueAfter requestedRun) := rfl
  have start : Reachable Fresh InTime Step emptyQueue :=
    .start ⟨rfl, rfl, rfl, rfl, rfl, rfl, rfl⟩
  exact ⟨dispatches_lawfully (reachable_of_allowed start ran), by decide⟩

/-- A job with one item, up to the end of its only batch. -/
def batchRun : List Event :=
  [.create 1 .massRename "Rename" 1, .dispatch, .start true 2, .load, .prepare [10] 1,
    .checkpoint 3, .lease 4, .persist (processedItem 10 .completed) ⟨0, none⟩ 5, .endBatch]

/-- The job is paused after its last batch, and then finalized. -/
def latePauseRun : List Event :=
  batchRun ++ [.pause 1 6, .checkpoint 7, .finalize none 8]

/-- A pause after the last checkpoint makes the dispatcher ask for a forbidden transition, and
leaves the job pausing. -/
theorem latePauseRun_not_lawful :
    Reachable Fresh (fun _ _ => True) Step (queueAfter latePauseRun) ∧
      ¬ DispatchesLawfully (queueAfter latePauseRun) := by
  refine ⟨queueAfter_reachable latePauseRun (fun _ _ _ => trivial) (by decide), ?_⟩
  intro lawful
  have left := lawful.left
  revert left
  decide

end Pullbox.Utility
