import Pullbox.Utility.Rows

/-!
# The invariant of the utility queue

Identifiers are drawn once, a rollback job has a settled parent, a job that runs or rests has
a start time, and an accepted cancel leaves its job settled. It holds in every run.
-/

namespace Pullbox.Utility

open Durable List

/-! ### Identifiers -/

section Identifiers

variable {system after : System} {event : Event} {jobs : Jobs} {id : RowId}

/-- The identifiers of the table after a step: no new one, or one that was drawn for it. -/
inductive Ids (system : System) (jobs : Jobs) (issued : List RowId) : Prop where
  | kept (ids : (jobs.map UtilityJob.id).Sublist (system.jobs.map UtilityJob.id))
      (same : issued = system.issued)
  | drawn (id : RowId) (ids : jobs.map UtilityJob.id = system.jobs.map UtilityJob.id ++ [id])
      (new : id ∉ system.issued) (added : issued = id :: system.issued)

theorem Ids.same (ids : jobs.map UtilityJob.id = system.jobs.map UtilityJob.id) :
    Ids system jobs system.issued :=
  .kept (ids ▸ .refl _) rfl

theorem Jobs.without_ids {removed : UtilityJob → Bool} :
    ((jobs.without removed).map UtilityJob.id).Sublist (jobs.map UtilityJob.id) := by
  have named : (jobs.without removed).map UtilityJob.id =
      (jobs.filter fun job => !removed job).map UtilityJob.id := by
    rw [Jobs.without, map_map]
    apply map_congr_left
    intro row _
    simp only [Function.comp_apply]
    split_ifs <;> rfl
  rw [named]
  exact (filter_sublist).map _

theorem finishRollback_ids {job : UtilityJob} {now : Timestamp} :
    (finishRollback jobs job now).map UtilityJob.id = jobs.map UtilityJob.id := by
  unfold finishRollback
  split
  · split_ifs
    · exact Jobs.map_id_save
    · rfl
  · rfl

/-- A step of the dispatcher writes rows of the table, and holds the job it held or one of
the table. -/
structure Dispatches (system after : System) : Prop where
  ids : after.jobs.map UtilityJob.id = system.jobs.map UtilityJob.id
  held : ∀ id, after.phase.held = some id →
    system.phase.held = some id ∨ id ∈ system.jobs.map UtilityJob.id
  issued : after.issued = system.issued
  cancelled : after.cancelled = system.cancelled
  recovering : after.recovering = system.recovering
  arrived : after.arrived = system.arrived
  turn : after.turn = system.turn
  resumed : after.resumed = system.resumed

namespace Dispatches

theorem write {phase : Phase} {requested : List (JobState × JobState)}
    {left : List JobState} (ids : jobs.map UtilityJob.id = system.jobs.map UtilityJob.id)
    (held : phase.held = system.phase.held ∨ phase.held = none) :
    Dispatches system
      { system with jobs := jobs, phase := phase, requested := requested, left := left } := by
  refine ⟨ids, fun id holds => ?_, rfl, rfl, rfl, rfl, rfl, rfl⟩
  rcases held with same | free
  · exact .inl (same ▸ holds)
  · exact absurd (free.symm.trans holds) (by simp)

theorem refl : Dispatches system system :=
  ⟨rfl, fun _ holds => .inl holds, rfl, rfl, rfl, rfl, rfl, rfl⟩

theorem startNext (registered : Bool) (now : Timestamp) :
    Dispatches system (system.startNext registered now) := by
  unfold System.startNext
  cases found : System.loadNextDispatchCandidate system.jobs with
  | none => exact .write rfl (.inr rfl)
  | some job =>
    cases registered with
    | false => exact .write Jobs.map_id_save (.inr rfl)
    | true =>
      simp only [if_true]
      split
      · refine ⟨Jobs.map_id_save, ?_, rfl, rfl, rfl, rfl, rfl, rfl⟩
        rintro id holds
        obtain rfl := Option.some.inj holds
        exact .inr (mem_map_of_mem (mem_of_loadNextDispatchCandidate found).1)
      · exact .write rfl (.inr rfl)

theorem prepare {jobId : RowId} {jobType : JobType} {summary : JobRunSummary}
    {generated : List RowId} {batchSize : Nat} (holds : system.phase.held = some jobId) :
    Dispatches system (system.prepare jobId jobType summary generated batchSize) := by
  unfold System.prepare
  split
  · exact .write rfl (.inr rfl)
  · exact .write Jobs.map_id_save (.inl holds.symm)

theorem failPreparation {jobId : RowId} {error : String} {now : Timestamp} :
    Dispatches system (system.failPreparation jobId error now) := by
  unfold System.failPreparation
  split
  · exact .write rfl (.inr rfl)
  · split
    · exact .write Jobs.map_id_save (.inr rfl)
    · exact .write rfl (.inr rfl)

variable {run : DispatchRun} {now : Timestamp}

theorem checkpoint (holds : system.phase.held = some run.jobId) :
    Dispatches system (system.checkpoint run now) := by
  unfold System.checkpoint
  split_ifs
  · exact .write rfl (.inl holds.symm)
  · split
    · exact .write rfl (.inl holds.symm)
    · split_ifs
      · split
        · exact .write Jobs.map_id_save (.inl holds.symm)
        · exact .write rfl (.inr rfl)
      · exact .write rfl (.inl holds.symm)
      · exact .write rfl (.inl holds.symm)

theorem lease {items : List RowId} (holds : system.phase.held = some run.jobId) :
    Dispatches system (system.lease run items now) := by
  refine .write ?_ (.inl holds.symm)
  split
  · exact Jobs.map_id_save
  · rfl

theorem persist {batch : Batch} {processed : ProcessedItem} {applied : ApplyResult}
    (holds : system.phase.held = some run.jobId) :
    Dispatches system (system.persist run batch processed applied now) := by
  unfold System.persist
  simp only
  split
  · exact .write rfl (.inl holds.symm)
  · exact .write Jobs.map_id_save (.inl holds.symm)

theorem persistFailure {batch : Batch} {processed : ProcessedItem} {error : String}
    (holds : system.phase.held = some run.jobId) :
    Dispatches system (system.persistFailure run batch processed error now) := by
  unfold System.persistFailure
  split
  · exact .write rfl (.inl holds.symm)
  · exact .write Jobs.map_id_save (.inl holds.symm)

theorem failItem {remaining : List RowId} {error : String}
    (holds : system.phase.held = some run.jobId) :
    Dispatches system (system.failItem run id remaining error now) := by
  unfold System.failItem
  split
  · exact .write rfl (.inl holds.symm)
  · exact .write Jobs.map_id_save (.inl holds.symm)

theorem finalize {message : Option String} :
    Dispatches system (system.finalize run message now) := by
  unfold System.finalize
  split
  · exact .write rfl (.inr rfl)
  · simp only
    split
    · exact .write Jobs.map_id_save (.inr rfl)
    · exact .write (finishRollback_ids.trans Jobs.map_id_save) (.inr rfl)
    · exact .write rfl (.inr rfl)

theorem of_dispatched (transition : system.dispatched system.phase event = some after) :
    Dispatches system after := by
  generalize phase : system.phase = current at transition
  have held : system.phase.held = current.held := congrArg Phase.held phase
  unfold System.dispatched at transition
  split at transition
  all_goals try split_ifs at transition
  all_goals cases transition
  all_goals first
    | exact .refl
    | exact .write rfl (.inr rfl)
    | exact .write rfl (.inl held.symm)
    | exact .startNext _ _
    | exact .prepare held
    | exact .failPreparation
    | exact .checkpoint held
    | exact .lease held
    | exact .persist held
    | exact .persistFailure held
    | exact .failItem held
    | exact .finalize

end Dispatches

theorem Ids.distinct {issued : List RowId} (ids : Ids system jobs issued)
    (sound : Sound system) : jobs.Distinct := by
  cases ids with
  | kept ids => exact sound.distinct.sublist ids
  | drawn id ids new =>
    rw [Jobs.Distinct, ids]
    refine nodup_append.2 ⟨sound.distinct, nodup_singleton _, ?_⟩
    intro old member other single same
    obtain ⟨job, present, rfl⟩ := mem_map.1 member
    exact new (mem_singleton.1 single ▸ same ▸ sound.issued job present)

theorem Ids.issued {issued : List RowId} (ids : Ids system jobs issued)
    (sound : Sound system) : ∀ job ∈ jobs, job.id ∈ issued := by
  intro job member
  have named := mem_map_of_mem (f := UtilityJob.id) member
  cases ids with
  | kept ids same =>
    obtain ⟨old, present, named⟩ := mem_map.1 (ids.subset named)
    exact same ▸ named ▸ sound.issued old present
  | drawn id ids new added =>
    rw [ids] at named
    rcases mem_append.1 named with named | named
    · obtain ⟨old, present, named⟩ := mem_map.1 named
      exact added ▸ mem_cons_of_mem _ (named ▸ sound.issued old present)
    · exact added ▸ mem_singleton.1 named ▸ mem_cons_self

theorem Ids.mono {issued : List RowId} (ids : Ids system jobs issued)
    (drawn : id ∈ system.issued) : id ∈ issued := by
  cases ids with
  | kept ids same => exact same ▸ drawn
  | drawn id ids new added => exact added ▸ mem_cons_of_mem _ drawn

theorem resequenceQueuedJobs_ids {jobs ordered : Jobs} :
    (resequenceQueuedJobs jobs ordered).map UtilityJob.id = jobs.map UtilityJob.id := by
  rw [resequenceQueuedJobs, map_map]
  apply map_congr_left
  intro row _
  simp only [Function.comp_apply]
  split_ifs <;> rfl

/-- The identifiers a request leaves, whether it is accepted or not. -/
theorem ids_of_answer {result : Except ValueError Jobs} {accepted : System → System}
    (ids : ∀ table, result = .ok table →
      Ids system (accepted { system with jobs := table }).jobs
        (accepted { system with jobs := table }).issued) :
    Ids system (system.answer result accepted).jobs (system.answer result accepted).issued := by
  cases result with
  | error => exact .same rfl
  | ok table => exact ids table rfl

theorem ids_of_step (step : Step event system after) :
    Ids system after.jobs after.issued := by
  cases event with
  | create id jobType displayName now =>
    simp only [Step, System.apply] at step
    split_ifs at step with drawn
    obtain rfl := Option.some.inj step
    exact .drawn id (by simp [System.enqueue, System.issue, createJob, buildQueuedJob]) drawn rfl
  | pause id now =>
    obtain rfl := Option.some.inj step
    refine ids_of_answer fun table accepted => ?_
    obtain ⟨job, _, _, rfl⟩ := pauseJob_ok accepted
    exact .same Jobs.map_id_save
  | resume id =>
    obtain rfl := Option.some.inj step
    refine ids_of_answer fun table accepted => ?_
    obtain ⟨job, _, _, rfl⟩ := resumeJob_ok accepted
    exact .same (resequenceQueuedJobs_ids.trans Jobs.map_id_save)
  | cancel id rollback now =>
    simp only [Step, System.apply] at step
    split_ifs at step with drawn
    obtain rfl := Option.some.inj step
    refine ids_of_answer fun table accepted => ?_
    obtain ⟨job, row, _, _, rfl⟩ := cancelJob_ok accepted
    cases rollback with
    | none => exact .same (by simp [System.acceptCancel])
    | some child =>
      refine .drawn child ?_ (by simpa using drawn) rfl
      simp [System.acceptCancel, System.enqueue, System.issue, buildRollbackJob,
        buildQueuedJob]
  | queueRollback id child now =>
    simp only [Step, System.apply] at step
    split_ifs at step with drawn
    obtain rfl := Option.some.inj step
    refine ids_of_answer fun table accepted => ?_
    obtain ⟨job, _, _, rfl⟩ := queueRollbackJob_ok accepted
    refine .drawn child ?_ drawn rfl
    simp [System.enqueue, System.issue, buildRollbackJob, buildQueuedJob]
  | delete id =>
    obtain rfl := Option.some.inj step
    refine ids_of_answer fun table accepted => ?_
    obtain ⟨job, _, _, rfl⟩ := deleteJob_ok accepted
    exact .kept Jobs.without_ids rfl
  | clearHistory =>
    obtain rfl := Option.some.inj step
    exact .kept Jobs.without_ids rfl
  | crash =>
    obtain rfl := Option.some.inj step
    exact .same rfl
  | recover now =>
    obtain ⟨_, rfl⟩ := Option.ite_some_none_eq_some.1 step
    refine .same ?_
    rw [System.recoverInterruptedJobs, map_map]
    apply map_congr_left
    intro row _
    simp only [Function.comp_apply, System.recoverJob]
    split_ifs <;> rfl
  | _ =>
    have dispatches := Dispatches.of_dispatched step
    exact dispatches.issued ▸ .same dispatches.ids

/-- What a request leaves as it was. -/
structure Undisturbed (system after : System) : Prop where
  phase : after.phase = system.phase
  recovering : after.recovering = system.recovering
  requested : after.requested = system.requested
  left : after.left = system.left

theorem Undisturbed.answer {result : Except ValueError Jobs} {accepted : System → System}
    (same : ∀ table, Undisturbed system (accepted { system with jobs := table })) :
    Undisturbed system (system.answer result accepted) := by
  cases result with
  | error => exact ⟨rfl, rfl, rfl, rfl⟩
  | ok table => exact same table

theorem Undisturbed.acceptCancel {rollback : Option RowId} {table : Jobs} :
    Undisturbed system (System.acceptCancel id rollback { system with jobs := table }) := by
  cases rollback <;> exact ⟨rfl, rfl, rfl, rfl⟩

/-- A step is a request, a crash, a recovery or a step of the dispatcher. -/
inductive Kind (system after : System) (event : Event) : Prop where
  | request (undisturbed : Undisturbed system after)
  | crash (effect : after = { system with phase := .idle, recovering := true })
  | recover (now : Timestamp) (recovering : system.recovering = true)
      (effect : after = { system with
        jobs := System.recoverInterruptedJobs system.jobs now
        recovering := false })
  | dispatched (transition : system.dispatched system.phase event = some after)

theorem kind_of_step (step : Step event system after) : Kind system after event := by
  cases event with
  | create id jobType displayName now =>
    simp only [Step, System.apply] at step
    split_ifs at step with drawn
    obtain rfl := Option.some.inj step
    exact .request ⟨rfl, rfl, rfl, rfl⟩
  | pause id now | resume id | delete id =>
    obtain rfl := Option.some.inj step
    exact .request (.answer fun _ => ⟨rfl, rfl, rfl, rfl⟩)
  | cancel id rollback now =>
    simp only [Step, System.apply] at step
    split_ifs at step with drawn
    obtain rfl := Option.some.inj step
    exact .request (.answer fun _ => .acceptCancel)
  | queueRollback id child now =>
    simp only [Step, System.apply] at step
    split_ifs at step with drawn
    obtain rfl := Option.some.inj step
    exact .request (.answer fun _ => ⟨rfl, rfl, rfl, rfl⟩)
  | clearHistory =>
    obtain rfl := Option.some.inj step
    exact .request ⟨rfl, rfl, rfl, rfl⟩
  | crash => exact .crash (Option.some.inj step).symm
  | recover now =>
    obtain ⟨recovering, effect⟩ := Option.ite_some_none_eq_some.1 step
    exact .recover now recovering effect.symm
  | _ =>
    exact .dispatched step

/-- The job the dispatcher holds after a step was held before, or is in the table. -/
theorem held_of_step (step : Step event system after)
    (holds : after.phase.held = some id) :
    system.phase.held = some id ∨ id ∈ system.jobs.map UtilityJob.id := by
  cases kind_of_step step with
  | request undisturbed => exact .inl (undisturbed.phase ▸ holds)
  | crash effect => simp [effect, Phase.held] at holds
  | recover now recovering effect => exact .inl (by simpa [effect] using holds)
  | dispatched transition => exact (Dispatches.of_dispatched transition).held id holds

/-- The dispatcher does not run before the recovery. -/
theorem idle_of_step (idle : system.recovering = true → system.phase = .idle)
    (step : Step event system after) (recovering : after.recovering = true) :
    after.phase = .idle := by
  cases kind_of_step step with
  | request undisturbed =>
    exact undisturbed.phase.trans (idle (undisturbed.recovering ▸ recovering))
  | crash effect => rw [effect]
  | recover now was effect => simp [effect] at recovering
  | dispatched transition =>
    have before : system.recovering = true :=
      (Dispatches.of_dispatched transition).recovering ▸ recovering
    rw [idle before] at transition
    cases event <;> simp [System.dispatched, before] at transition

/-- The cancels accepted by a step: none, or one that leaves its job settled. -/
theorem cancelled_of_step (step : Step event system after) :
    after.cancelled = system.cancelled ∨
      ∃ row ∈ after.jobs, row.state ∈ settledStates ∧
        after.cancelled = row.id :: system.cancelled := by
  cases event with
  | create id jobType displayName now =>
    simp only [Step, System.apply] at step
    split_ifs at step with drawn
    obtain rfl := Option.some.inj step
    exact .inl rfl
  | pause id now =>
    obtain rfl := Option.some.inj step
    left
    cases pauseJob system.jobs id now <;> rfl
  | resume id =>
    obtain rfl := Option.some.inj step
    left
    cases resumeJob system.jobs id <;> rfl
  | delete id =>
    obtain rfl := Option.some.inj step
    left
    cases deleteJob system.jobs id <;> rfl
  | cancel id rollback now =>
    simp only [Step, System.apply] at step
    split_ifs at step with drawn
    obtain rfl := Option.some.inj step
    cases accepted : cancelJob system.jobs id rollback now with
    | error error => exact .inl rfl
    | ok table =>
      obtain ⟨job, row, found, cancelled, rfl⟩ := cancelJob_ok accepted
      have named : row.id = id := cancelled.id.trans (Jobs.mem_of_get found).2
      refine .inr ⟨row, ?_, cancelled.settled, ?_⟩
      · have saved := mem_save_self found cancelled.id
        cases rollback with
        | none => exact mem_append_left _ saved
        | some child => exact mem_append_left _ saved
      · rw [named]
        cases rollback <;> rfl
  | queueRollback id child now =>
    simp only [Step, System.apply] at step
    split_ifs at step with drawn
    obtain rfl := Option.some.inj step
    left
    cases queueRollbackJob system.jobs id child now <;> rfl
  | clearHistory | crash =>
    obtain rfl := Option.some.inj step
    exact .inl rfl
  | recover now =>
    obtain ⟨_, rfl⟩ := Option.ite_some_none_eq_some.1 step
    exact .inl rfl
  | _ =>
    exact .inl (Dispatches.of_dispatched step).cancelled

end Identifiers

/-! ### The invariant -/

section Invariant

variable {system after : System} {event : Event}

theorem Sound.step (sound : Sound system) (step : Step event system after) : Sound after := by
  have rows := rows_of_step sound step
  have ids := ids_of_step step
  have distinct := ids.distinct sound
  have issued := ids.issued sound
  refine ⟨distinct, issued, ?_, ?_, ?_, ?_, ?_, ?_, ?_⟩
  · intro id holds
    rcases held_of_step step holds with held | listed
    · exact ids.mono (sound.held id held)
    · obtain ⟨job, present, rfl⟩ := mem_map.1 listed
      exact ids.mono (sound.issued job present)
  · intro row member id reference
    rcases rows row member with ⟨old, present, changed⟩ | entered
    · rcases changed.parent with same | cleared
      · exact ids.mono (sound.parentIssued old present id (same ▸ reference))
      · exact absurd (cleared.symm.trans reference) (by simp)
    · obtain ⟨parent, present, rfl, _⟩ := entered.parent id reference
      exact issued parent present
  · intro child childMember parent parentMember reference
    rcases rows child childMember with ⟨old, present, changed⟩ | entered
    · rcases changed.parent with same | cleared
      · have named : old.parentJobId = some parent.id := same ▸ reference
        rcases rows parent parentMember with ⟨source, sourcePresent, moved⟩ | new
        · have settled := sound.parents old present source sourcePresent (moved.id ▸ named)
          exact moved.change.settled settled
        · exact absurd (sound.parentIssued old present _ named) new.id
      · exact absurd (cleared.symm.trans reference) (by simp)
    · obtain ⟨settledParent, present, same, settled⟩ := entered.parent _ reference
      obtain rfl := distinct.eq present parentMember same
      exact settled
  · intro row member state
    rcases rows row member with ⟨old, present, changed⟩ | entered
    · exact changed.change.startedAt (sound.started old present) state
    · obtain ⟨position, control⟩ := entered.control
      have queued : row.state = .queued := congrArg Control.state control
      simp [queued] at state
  · intro id member
    rcases cancelled_of_step step with same | ⟨row, present, _, added⟩
    · exact ids.mono (sound.cancelIssued id (same ▸ member))
    · rcases mem_cons.1 (added ▸ member) with rfl | member
      · exact issued row present
      · exact ids.mono (sound.cancelIssued id member)
  · intro row member listed
    have earlier (listed : row.id ∈ system.cancelled) : row.state ∈ settledStates := by
      rcases rows row member with ⟨old, present, changed⟩ | entered
      · exact changed.change.settled (sound.cancelled old present (changed.id ▸ listed))
      · exact absurd (sound.cancelIssued _ listed) entered.id
    rcases cancelled_of_step step with same | ⟨cancelled, present, settled, added⟩
    · exact earlier (same ▸ listed)
    · rcases mem_cons.1 (added ▸ listed) with same | listed
      · obtain rfl := distinct.eq member present same
        exact settled
      · exact earlier listed
  · exact idle_of_step sound.recovering step

theorem Fresh.sound (fresh : Fresh system) : Sound system := by
  obtain ⟨jobs, phase, _, _, _, cancelled, _⟩ := fresh
  have none (job : UtilityJob) (member : job ∈ system.jobs) : False := by simp [jobs] at member
  refine ⟨by simp [Jobs.Distinct, jobs], fun job member => (none job member).elim, ?_,
    fun job member => (none job member).elim, fun job member => (none job member).elim,
    fun job member => (none job member).elim, ?_, fun job member => (none job member).elim,
    fun _ => phase⟩
  · simp [phase, Phase.held]
  · simp [cancelled]

/-- The invariant holds in every run. -/
theorem sound_of_reachable {allowed : Event → System → Prop}
    (reachable : Reachable Fresh allowed Step system) : Sound system :=
  reachable.invariant (fun _ fresh => fresh.sound) fun _ _ _ sound _ step => sound.step step

end Invariant

/-! ### Concrete runs -/

/-- A worker's result for an item. -/
def processedItem (id : RowId) (result : ItemResult) : ProcessedItem where
  itemId := id
  result := result
  durationMs := 5
  errorMessage := none
  warningMessage := none
  workerId := some 1

/-- An empty queue that takes jobs. -/
def emptyQueue : System where
  jobs := []
  phase := .idle
  recovering := false
  issued := []
  requested := []
  left := []
  cancelled := []
  arrived := fun _ => 0
  turn := 0
  resumed := []

/-- The queue after some events, if they can happen in that order. -/
def queueAfter (events : List Event) : System :=
  (events.foldlM System.apply emptyQueue).getD emptyQueue

/-- Events that can happen in that order lead to a reachable state. -/
theorem queueAfter_reachable {allowed : Event → System → Prop} (events : List Event)
    (free : ∀ event ∈ events, ∀ system, allowed event system)
    (ran : (events.foldlM System.apply emptyQueue).isSome) :
    Reachable Fresh allowed Step (queueAfter events) := by
  obtain ⟨system, reached⟩ := Option.isSome_iff_exists.1 ran
  have empty : Fresh emptyQueue := ⟨rfl, rfl, rfl, rfl, rfl, rfl, rfl⟩
  rw [queueAfter, reached]
  exact Reachable.run (.start empty) free reached

end Pullbox.Utility
