import Pullbox.Utility.Sound

/-!
# Counters of utility jobs

The counters of a job are written with each item's outcome in one transaction, from what the
dispatcher keeps in memory. They are exact in every committed state: the dispatcher's
counters are those of the row it holds, and the items it has still to count are not counted.
-/

namespace Pullbox.Utility

open Durable List

/-- The number of items in a state. -/
def UtilityJob.itemCount (job : UtilityJob) (state : ItemState) : Nat :=
  job.items.countP fun item => item.state = state

/-- The counters of a row are the numbers of its items in the states they count, and no item
is there twice. -/
structure Exact (job : UtilityJob) : Prop where
  completed : job.completedItems = job.itemCount .completed
  failed : job.failedItems = job.itemCount .failed
  skipped : job.skippedItems = job.itemCount .skipped
  once : (job.items.map UtilityJobItem.id).Nodup

/-- The states that are counted. -/
def countedStates : List ItemState :=
  [.completed, .failed, .skipped]

/-- The items have not been counted. -/
def UtilityJob.Uncounted (job : UtilityJob) (ids : List RowId) : Prop :=
  ∀ item ∈ job.items, item.id ∈ ids → item.state ∉ countedStates

/-! ### One row -/

variable {summary : JobRunSummary}

section Row

variable {job : UtilityJob} {id : RowId} {write : UtilityJobItem → UtilityJobItem}

theorem mapItem_ids (named : ∀ item, (write item).id = item.id) :
    (job.mapItem id write).items.map UtilityJobItem.id = job.items.map UtilityJobItem.id := by
  rw [UtilityJob.mapItem, map_map]
  apply map_congr_left
  intro item _
  simp only [Function.comp_apply]
  split_ifs
  · exact named item
  · rfl

/-- Writing one item of a list moves the counts of its old and new state. -/
theorem countP_write (items : List UtilityJobItem) (state new : ItemState)
    (once : (items.map UtilityJobItem.id).Nodup) {item : UtilityJobItem} (member : item ∈ items)
    (named : item.id = id) (written : ∀ item, (write item).state = new)
    (uncounted : item.state ≠ state) :
    (items.map fun item => if item.id = id then write item else item).countP
        (fun item => item.state = state) =
      items.countP (fun item => item.state = state) + if new = state then 1 else 0 := by
  induction items with
  | nil => cases member
  | cons head rest ih =>
    obtain ⟨absent, once⟩ := nodup_cons.1 once
    simp only [map_cons, countP_cons]
    rcases mem_cons.1 member with rfl | later
    · have others : (rest.map fun item => if item.id = id then write item else item) = rest := by
        conv_rhs => rw [← map_id rest]
        apply map_congr_left
        intro other otherMember
        have different : other.id ≠ id := by
          intro same
          exact absent (named ▸ same ▸ mem_map_of_mem otherMember)
        simp [different]
      rw [others, if_pos named, written]
      simp [uncounted]
    · have different : head.id ≠ id := by
        intro same
        exact absent (same.trans named.symm ▸ mem_map_of_mem later)
      rw [if_neg different, ih once later]
      omega

/-- An uncounted item takes a state: the count of that state grows by one. -/
theorem mapItem_itemCount {new : ItemState} (once : (job.items.map UtilityJobItem.id).Nodup)
    (present : (job.item id).isSome) (uncounted : job.Uncounted [id])
    (written : ∀ item, (write item).state = new) {state : ItemState}
    (counted : state ∈ countedStates) :
    (job.mapItem id write).itemCount state =
      job.itemCount state + if new = state then 1 else 0 := by
  obtain ⟨item, found⟩ := Option.isSome_iff_exists.1 present
  have member := mem_of_find?_eq_some found
  have named : item.id = id := by simpa using List.find?_some found
  refine countP_write job.items state new once member named written ?_
  rintro rfl
  exact uncounted item member (by simp [named]) counted

/-- The row of an item's outcome: the item takes its state, and the counters grow with it. -/
theorem Exact.count (exact : Exact job) {new : ItemState}
    (present : (job.item id).isSome) (uncounted : job.Uncounted [id])
    (named : ∀ item, (write item).id = item.id) (written : ∀ item, (write item).state = new)
    (completed : summary.completed = job.completedItems + if new = .completed then 1 else 0)
    (failed : summary.failed = job.failedItems + if new = .failed then 1 else 0)
    (skipped : summary.skipped = job.skippedItems + if new = .skipped then 1 else 0) :
    Exact (applyJobCounterSnapshot (job.mapItem id write) summary) := by
  have count (state) (counted : state ∈ countedStates) :=
    mapItem_itemCount exact.once present uncounted written counted
  refine ⟨?_, ?_, ?_, ?_⟩
  · exact completed.trans (exact.completed ▸ (count .completed (by decide)).symm)
  · exact failed.trans (exact.failed ▸ (count .failed (by decide)).symm)
  · exact skipped.trans (exact.skipped ▸ (count .skipped (by decide)).symm)
  · exact (mapItem_ids named).symm ▸ exact.once

/-- Items other than the written one stay uncounted. -/
theorem UtilityJob.Uncounted.mapItem {ids : List RowId} (uncounted : job.Uncounted ids)
    (named : ∀ item, (write item).id = item.id) (other : id ∉ ids) :
    (job.mapItem id write).Uncounted ids := by
  intro item member listed
  obtain ⟨old, present, rfl⟩ := mem_map.1 member
  split_ifs at listed ⊢ with same
  · exact absurd (same ▸ named old ▸ listed) other
  · exact uncounted old present listed

/-- Items that only move between uncounted states leave the counters exact. -/
theorem Exact.mapItems (exact : Exact job) {change : UtilityJobItem → UtilityJobItem}
    (named : ∀ item ∈ job.items, (change item).id = item.id)
    (kept : ∀ item ∈ job.items, change item = item ∨
      item.state ∉ countedStates ∧ (change item).state ∉ countedStates) :
    Exact { job with items := job.items.map change } := by
  have count (state) (counted : state ∈ countedStates) :
      (job.items.map change).countP (fun item => item.state = state) = job.itemCount state := by
    rw [countP_map]
    apply countP_congr
    intro item member
    rcases kept item member with same | ⟨before, after⟩
    · simp [same]
    · have first : item.state ≠ state := fun same => before (same ▸ counted)
      have second : (change item).state ≠ state := fun same => after (same ▸ counted)
      simp [first, second]
  have ids : (job.items.map change).map UtilityJobItem.id = job.items.map UtilityJobItem.id := by
    rw [map_map]
    exact map_congr_left named
  exact ⟨exact.completed.trans (count _ (by decide)).symm,
    exact.failed.trans (count _ (by decide)).symm,
    exact.skipped.trans (count _ (by decide)).symm, ids ▸ exact.once⟩

end Row

/-! ### Phases -/

/-- The items the dispatcher has still to count. -/
def Phase.todo : Phase → List RowId
  | .idle | .selecting | .started .. | .preparing .. | .finalizing _ => []
  | .checking run => run.pendingItems
  | .leasing run items => items ++ run.pendingItems
  | .processing run batch | .persisting run batch _ _ => batch.remaining ++ run.pendingItems
  | .failing run remaining _ => remaining ++ run.pendingItems

/-- The counters the dispatcher keeps. -/
def Phase.counters : Phase → Option JobRunSummary
  | .idle | .selecting | .started .. => none
  | .preparing _ _ summary => some summary
  | .checking run | .leasing run _ | .processing run _ | .persisting run _ _ _
  | .failing run _ _ | .finalizing run => some run.summary

/-- Results are awaited for items still to count, and once for each. -/
def Phase.Awaits : Phase → Prop
  | .processing _ batch => batch.awaited.Nodup ∧ batch.awaited ⊆ batch.remaining
  | .persisting _ batch processed _ => batch.awaited.Nodup ∧
      batch.awaited ⊆ batch.remaining ∧ processed.itemId ∈ batch.remaining ∧
      processed.itemId ∉ batch.awaited
  | _ => True

/-- Every row is exact, and the dispatcher's counters are those of its row. -/
structure Counting (system : System) : Prop where
  exact : ∀ job ∈ system.jobs, Exact job
  summary : ∀ job ∈ system.jobs, system.phase.held = some job.id →
    ∀ counters, system.phase.counters = some counters → job.summary = counters
  uncounted : ∀ job ∈ system.jobs, system.phase.held = some job.id →
    job.Uncounted system.phase.todo
  once : system.phase.todo.Nodup
  awaits : system.phase.Awaits

/-! ### Requests -/

variable {jobs : Jobs}

section Requests

variable {system after : System} {event : Event} {id : RowId} {job : UtilityJob}

/-- A row has the items and counters of an old row. -/
def Carried (system : System) (jobs : Jobs) : Prop :=
  ∀ row ∈ jobs, ∃ old ∈ system.jobs, row.id = old.id ∧ row.items = old.items ∧
    row.summary = old.summary

theorem Carried.refl : Carried system system.jobs :=
  fun row member => ⟨row, member, rfl, rfl, rfl⟩

theorem Carried.save {row : UtilityJob} (found : system.jobs.get id = some job)
    (named : row.id = job.id) (items : row.items = job.items)
    (summary : row.summary = job.summary) : Carried system (system.jobs.save row) := by
  intro other member
  rcases Jobs.mem_save.1 member with ⟨member, _⟩ | ⟨rfl, _⟩
  · exact refl other member
  · exact ⟨job, (Jobs.mem_of_get found).1, named, items, summary⟩

theorem Carried.without {removed : UtilityJob → Bool} :
    Carried system (system.jobs.without removed) := by
  intro row member
  obtain ⟨old, present, _, parent, rfl, _⟩ := Jobs.mem_without member
  exact ⟨old, present, rfl, rfl, rfl⟩

theorem Carried.resequence (carried : Carried system jobs) (ordered : Jobs) :
    Carried system (resequenceQueuedJobs jobs ordered) := by
  intro row member
  obtain ⟨saved, present, rfl⟩ := mem_map.1 member
  obtain ⟨old, oldMember, named, items, summary⟩ := carried saved present
  refine ⟨old, oldMember, ?_⟩
  split_ifs <;> exact ⟨named, items, summary⟩

/-- A job that just entered the queue has nothing to count. -/
def Blank (job : UtilityJob) : Prop :=
  job.items = [] ∧ job.summary = ⟨0, 0, 0, 0⟩

theorem Blank.exact (blank : Blank job) : Exact job := by
  obtain ⟨items, summary⟩ := blank
  simp only [UtilityJob.summary, JobRunSummary.mk.injEq] at summary
  constructor <;> simp [UtilityJob.itemCount, items, summary]

theorem Exact.carried {old row : UtilityJob} (exact : Exact old) (items : row.items = old.items)
    (summary : row.summary = old.summary) : Exact row := by
  simp only [UtilityJob.summary, JobRunSummary.mk.injEq] at summary
  obtain ⟨completed, failed, skipped, _⟩ := summary
  refine ⟨?_, ?_, ?_, items ▸ exact.once⟩
  · rw [completed, exact.completed, UtilityJob.itemCount, UtilityJob.itemCount, items]
  · rw [failed, exact.failed, UtilityJob.itemCount, UtilityJob.itemCount, items]
  · rw [skipped, exact.skipped, UtilityJob.itemCount, UtilityJob.itemCount, items]

/-- A request carries rows over, and may add a blank one under a new identifier. -/
theorem Counting.request (counting : Counting system) (sound : Sound system)
    (phase : after.phase = system.phase)
    (rows : ∀ row ∈ after.jobs, (∃ old ∈ system.jobs, row.id = old.id ∧ row.items = old.items ∧
      row.summary = old.summary) ∨ Blank row ∧ row.id ∉ system.issued) : Counting after := by
  constructor
  · intro row member
    rcases rows row member with ⟨old, present, _, items, summary⟩ | ⟨blank, _⟩
    · exact (counting.exact old present).carried items summary
    · exact blank.exact
  · intro row member holds counters kept
    rw [phase] at holds kept
    rcases rows row member with ⟨old, present, named, _, summary⟩ | ⟨_, new⟩
    · exact summary.trans (counting.summary old present (named ▸ holds) counters kept)
    · exact absurd (sound.held _ holds) new
  · intro row member holds
    rw [phase] at holds ⊢
    rcases rows row member with ⟨old, present, named, items, _⟩ | ⟨_, new⟩
    · have uncounted := counting.uncounted old present (named ▸ holds)
      rw [UtilityJob.Uncounted, items]
      exact uncounted
    · exact absurd (sound.held _ holds) new
  · rw [phase]
    exact counting.once
  · rw [phase]
    exact counting.awaits

theorem Counting.carry (counting : Counting system) (sound : Sound system)
    (phase : after.phase = system.phase) (carried : Carried system after.jobs) :
    Counting after :=
  counting.request sound phase fun row member => .inl (carried row member)

theorem Counting.append (counting : Counting system) (sound : Sound system)
    (phase : after.phase = system.phase) (carried : Carried system jobs)
    {new : UtilityJob} (added : after.jobs = jobs ++ [new]) (blank : Blank new)
    (drawn : new.id ∉ system.issued) : Counting after := by
  refine counting.request sound phase fun row member => ?_
  rcases mem_append.1 (added ▸ member) with old | same
  · exact .inl (carried row old)
  · obtain rfl := mem_singleton.1 same
    exact .inr ⟨blank, drawn⟩

theorem CancelledRow.items {row : UtilityJob} {now : Timestamp}
    (cancelled : CancelledRow job now row) :
    row.items = job.items ∧ row.summary = job.summary := by
  cases cancelled <;> simp [UtilityJob.summary]

theorem Counting.cancel (counting : Counting system) (sound : Sound system)
    {rollback : Option RowId} {now : Timestamp} {table : Jobs}
    (drawn : ∀ child, rollback = some child → child ∉ system.issued)
    (accepted : cancelJob system.jobs id rollback now = .ok table) :
    Counting (System.acceptCancel id rollback { system with jobs := table }) := by
  obtain ⟨job, row, found, cancelled, rfl⟩ := cancelJob_ok accepted
  have saved : Carried system (system.jobs.save row) :=
    .save found cancelled.id cancelled.items.1 cancelled.items.2
  cases rollback with
  | none =>
    refine counting.carry sound rfl ?_
    simpa [System.acceptCancel] using saved
  | some child =>
    exact counting.append sound rfl saved rfl ⟨rfl, rfl⟩ (drawn child rfl)

end Requests

/-! ### The dispatcher -/

section Dispatcher

variable {system after : System} {event : Event} {now : Timestamp} {run : DispatchRun}
  {batch : Batch} {error : String} {job : UtilityJob} {processed : ProcessedItem} {jobId : RowId}

/-- A dispatcher that has nothing to count. -/
theorem Counting.free (counting : Counting system) {phase : Phase}
    {requested : List (JobState × JobState)} {left : List JobState}
    (carried : Carried system jobs) (counters : phase.counters = none) (todo : phase.todo = [])
    (awaits : phase.Awaits) :
    Counting { system with jobs := jobs, phase := phase, requested := requested, left := left } := by
  refine ⟨?_, ?_, ?_, todo ▸ nodup_nil, awaits⟩
  · intro row member
    obtain ⟨old, present, _, items, summary⟩ := carried row member
    exact (counting.exact old present).carried items summary
  · intro row _ _ value kept
    exact absurd (counters.symm.trans kept) (by simp)
  · intro row _ _ item _ listed
    simp [todo] at listed

/-- A dispatcher that goes on with its job, having written only what does not count. -/
theorem Counting.move (counting : Counting system) {phase : Phase}
    {requested : List (JobState × JobState)} {left : List JobState}
    (carried : Carried system jobs) (held : phase.held = system.phase.held)
    (counters : phase.counters = system.phase.counters)
    (todo : phase.todo.Sublist system.phase.todo) (awaits : phase.Awaits) :
    Counting { system with jobs := jobs, phase := phase, requested := requested, left := left } := by
  refine ⟨?_, ?_, ?_, counting.once.sublist todo, awaits⟩
  · intro row member
    obtain ⟨old, present, _, items, summary⟩ := carried row member
    exact (counting.exact old present).carried items summary
  · intro row member holds value kept
    obtain ⟨old, present, named, _, summary⟩ := carried row member
    have before := counting.summary old present (named ▸ held ▸ holds) value (counters ▸ kept)
    exact summary.trans before
  · intro row member holds item itemMember listed
    obtain ⟨old, present, named, items, _⟩ := carried row member
    exact counting.uncounted old present (named ▸ held ▸ holds) item (items ▸ itemMember)
      (todo.subset listed)

/-- The row the dispatcher holds is written, with its counters. -/
theorem Counting.write (counting : Counting system)
    {job row : UtilityJob} {phase : Phase}
    (found : system.jobs.get jobId = some job) (held : phase.held = some jobId)
    (counters : phase.counters = some summary) (once : phase.todo.Nodup)
    (awaits : phase.Awaits) (named : row.id = job.id) (exact : Exact row)
    (counted : row.summary = summary) (uncounted : row.Uncounted phase.todo) :
    Counting { system with jobs := system.jobs.save row, phase := phase } := by
  obtain ⟨member, rfl⟩ := Jobs.mem_of_get found
  have others (other) (saved : other ∈ system.jobs.save row) :
      other = row ∨ other ∈ system.jobs ∧ other.id ≠ job.id := by
    rcases Jobs.mem_save.1 saved with ⟨present, different⟩ | ⟨same, _⟩
    · exact .inr ⟨present, named ▸ different⟩
    · exact .inl same
  refine ⟨?_, ?_, ?_, once, awaits⟩
  · intro other saved
    rcases others other saved with rfl | ⟨present, _⟩
    · exact exact
    · exact counting.exact other present
  · intro other saved holdsOther value kept
    rcases others other saved with rfl | ⟨_, different⟩
    · exact counted.trans (Option.some.inj (counters.symm.trans kept))
    · exact absurd (Option.some.inj (held.symm.trans holdsOther)).symm different
  · intro other saved holdsOther
    rcases others other saved with rfl | ⟨_, different⟩
    · exact uncounted
    · exact absurd (Option.some.inj (held.symm.trans holdsOther)).symm different

theorem Counting.startNext (counting : Counting system) (sound : Sound system)
    (registered : Bool) : Counting (system.startNext registered now) := by
  unfold System.startNext
  cases found : System.loadNextDispatchCandidate system.jobs with
  | none => exact counting.free .refl rfl rfl trivial
  | some job =>
    have present := sound.distinct.get (mem_of_loadNextDispatchCandidate found).1
    cases registered with
    | false => exact counting.free (.save present rfl rfl rfl) rfl rfl trivial
    | true =>
      simp only [if_true]
      split
      · rename_i started marked
        obtain rfl := markJobStarted_ok marked
        refine counting.free (.save present (by simp) (by simp) ?_) rfl rfl trivial
        simp [UtilityJob.summary]
      · exact counting.free .refl rfl rfl trivial

/-- The counters are loaded from the row. -/
theorem Counting.load (counting : Counting system) (sound : Sound system)
    {jobType : JobType} : Counting (system.load jobId jobType) := by
  refine ⟨counting.exact, ?_, ?_, nodup_nil, trivial⟩
  · intro job member holds counters kept
    obtain rfl := Option.some.inj holds
    obtain rfl := Option.some.inj kept
    rw [sound.distinct.get member]
    rfl
  · intro job member _ item _ listed
    simp [System.load, Phase.todo] at listed

/-- Items that are generated wait for their batch. -/
theorem Exact.generateItems (exact : Exact job) {generated : List RowId}
    (drawn : generated.Nodup) : Exact (System.generateItems job generated) := by
  unfold System.generateItems
  split_ifs with empty
  · have ids : (buildGeneratedJobItems generated).map UtilityJobItem.id = generated := by
      simp [buildGeneratedJobItems, Function.comp_def]
    have none (state) (counted : state ∈ countedStates) :
        (buildGeneratedJobItems generated).countP (fun item => item.state = state) = 0 := by
      rw [countP_eq_zero]
      intro item member
      obtain ⟨id, _, rfl⟩ := mem_map.1 member
      have different : ItemState.pending ≠ state := by
        rintro rfl
        simp [countedStates] at counted
      simpa using different
    have zero (state) : job.itemCount state = 0 := by simp [UtilityJob.itemCount, empty]
    exact ⟨exact.completed.trans ((zero _).trans (none _ (by decide)).symm),
      exact.failed.trans ((zero _).trans (none _ (by decide)).symm),
      exact.skipped.trans ((zero _).trans (none _ (by decide)).symm), ids.symm ▸ drawn⟩
  · exact exact

/-- The pending items of a row are not counted. -/
theorem Exact.pendingItems (exact : Exact job) :
    (System.pendingItems job).Nodup ∧ job.Uncounted (System.pendingItems job) := by
  constructor
  · exact exact.once.sublist ((filter_sublist).map _)
  · intro item member listed
    obtain ⟨pending, pendingMember, same⟩ := mem_map.1 listed
    obtain ⟨present, state⟩ := mem_filter.1 pendingMember
    obtain rfl : pending = item := by
      exact inj_on_of_nodup_map exact.once present member same
    rw [of_decide_eq_true state]
    decide

theorem Counting.prepare (counting : Counting system) {jobType : JobType} {generated : List RowId}
    {batchSize : Nat}
    (phase : system.phase = .preparing jobId jobType summary) (drawn : generated.Nodup) :
    Counting (system.prepare jobId jobType summary generated batchSize) := by
  unfold System.prepare
  split
  · exact counting.free .refl rfl rfl trivial
  · rename_i job found
    obtain ⟨member, rfl⟩ := Jobs.mem_of_get found
    have exact := (counting.exact job member).generateItems drawn
    have loaded : job.summary = summary :=
      counting.summary job member (by rw [phase]; rfl) summary (by rw [phase]; rfl)
    have same : (System.generateItems job generated).id = job.id ∧
        (System.generateItems job generated).summary = job.summary := by
      unfold System.generateItems
      split_ifs <;> exact ⟨rfl, rfl⟩
    exact counting.write found rfl rfl exact.pendingItems.1 trivial same.1 exact
      (same.2.trans loaded) exact.pendingItems.2

theorem Counting.failPreparation (counting : Counting system) :
    Counting (system.failPreparation jobId error now) := by
  unfold System.failPreparation
  split
  · exact counting.free .refl rfl rfl trivial
  · rename_i job found
    split
    · rename_i failed transition
      obtain ⟨_, rfl⟩ := transitionJobState_eq_ok.1 transition
      refine counting.free (.save found (by simp) (by simp) ?_) rfl rfl trivial
      simp [UtilityJob.summary]
    · exact counting.free .refl rfl rfl trivial

theorem Counting.checkpoint (counting : Counting system)
    (phase : system.phase = .checking run) : Counting (system.checkpoint run now) := by
  have stop : (Phase.finalizing run).todo.Sublist system.phase.todo := nil_sublist _
  have next : (run.pendingItems.take run.batchSize ++ run.pendingItems.drop run.batchSize).Sublist
      system.phase.todo := by
    rw [take_append_drop, phase]
    exact .refl _
  unfold System.checkpoint
  split_ifs
  · exact counting.move .refl (by rw [phase]; rfl) (by rw [phase]; rfl) stop trivial
  · split
    · exact counting.move .refl (by rw [phase]; rfl) (by rw [phase]; rfl) next trivial
    · rename_i job found
      split_ifs
      · split
        · rename_i paused transition
          obtain ⟨_, rfl⟩ := transitionJobState_eq_ok.1 transition
          refine counting.move (.save found (by simp) (by simp) ?_) (by rw [phase]; rfl)
            (by rw [phase]; rfl) stop trivial
          simp [UtilityJob.summary]
        · exact counting.free .refl rfl rfl trivial
      · exact counting.move .refl (by rw [phase]; rfl) (by rw [phase]; rfl) stop trivial
      · exact counting.move .refl (by rw [phase]; rfl) (by rw [phase]; rfl) next trivial

theorem inProgress_uncounted : ItemState.inProgress ∉ countedStates := by
  decide

theorem Batch.remaining_leased (items : List RowId) :
    (Batch.mk items items []).remaining = items := by
  simp [Batch.remaining]

theorem Counting.lease (counting : Counting system) {items : List RowId}
    (phase : system.phase = .leasing run items) : Counting (system.lease run items now) := by
  have holds : system.phase.held = some run.jobId := by rw [phase]; rfl
  have todo : system.phase.todo = items ++ run.pendingItems := by rw [phase]; rfl
  have leased : (Phase.processing run ⟨items, items, []⟩).todo = items ++ run.pendingItems := by
    rw [Phase.todo, Batch.remaining_leased]
  have once : (items ++ run.pendingItems).Nodup := todo ▸ counting.once
  have awaits : (Phase.processing run ⟨items, items, []⟩).Awaits := by
    refine ⟨(nodup_append.1 once).1, ?_⟩
    rw [Batch.remaining_leased]
    exact List.Subset.refl _
  cases found : system.jobs.get run.jobId with
  | none =>
    simp only [System.lease, found]
    refine counting.move .refl (by rw [phase]; rfl) (by rw [phase]; rfl) ?_ awaits
    rw [leased, todo]
  | some job =>
    simp only [System.lease, found]
    obtain ⟨member, named⟩ := Jobs.mem_of_get found
    have uncounted := counting.uncounted job member (named ▸ holds)
    have summary : job.summary = run.summary :=
      counting.summary job member (named ▸ holds) run.summary (by rw [phase]; rfl)
    refine counting.write found rfl rfl (leased ▸ once) awaits rfl ?_ summary ?_
    · refine (counting.exact job member).mapItems ?_ ?_
      · intro item _
        split_ifs <;> rfl
      · intro item itemMember
        split_ifs with listed
        · have waiting : item.id ∈ system.phase.todo := todo ▸ mem_append_left _ listed
          exact .inr ⟨uncounted item itemMember waiting, inProgress_uncounted⟩
        · exact .inl rfl
    · intro item itemMember listed
      obtain ⟨old, present, rfl⟩ := mem_map.1 itemMember
      split_ifs at listed ⊢
      · exact inProgress_uncounted
      · exact uncounted old present (todo ▸ leased ▸ listed)

theorem Batch.remaining_done (batch : Batch) (id : RowId) :
    (batch.done id).remaining = batch.remaining.filter fun other => other ≠ id := by
  simp only [Batch.remaining, Batch.done, filter_filter]
  apply filter_congr
  intro other _
  simp

/-- The items to count once one of them is done. -/
theorem todo_done {pending : List RowId} {id : RowId}
    (once : (batch.remaining ++ pending).Nodup) (member : id ∈ batch.remaining) :
    ((batch.done id).remaining ++ pending).Sublist (batch.remaining ++ pending) ∧
      id ∉ (batch.done id).remaining ++ pending := by
  rw [Batch.remaining_done]
  constructor
  · exact (filter_sublist).append (.refl _)
  · intro listed
    rcases mem_append.1 listed with left | right
    · simp at left
    · exact (nodup_append.1 once).2.2 id member id right rfl

/-- The outcome of an item of the batch is written. -/
theorem Counting.outcome (counting : Counting system) {jobId id : RowId}
    {current next : Phase} {write : UtilityJobItem → UtilityJobItem} (state : ItemState)
    {before delta : JobRunSummary} (row : system.rowWithItem jobId id = some job)
    (phase : system.phase = current) (holds : current.held = some jobId)
    (counters : current.counters = some before) (member : id ∈ current.todo)
    (held : next.held = some jobId) (counted : next.counters = some delta)
    (todo : next.todo.Sublist current.todo) (other : id ∉ next.todo) (awaits : next.Awaits)
    (named : ∀ item, (write item).id = item.id) (written : ∀ item, (write item).state = state)
    (completed : delta.completed = before.completed + if state = .completed then 1 else 0)
    (failed : delta.failed = before.failed + if state = .failed then 1 else 0)
    (skipped : delta.skipped = before.skipped + if state = .skipped then 1 else 0) :
    Counting { system with
      jobs := system.jobs.save (applyJobCounterSnapshot (job.mapItem id write) delta)
      phase := next } := by
  subst phase
  obtain ⟨found, present⟩ := rowWithItem_get row
  obtain ⟨jobMember, rfl⟩ := Jobs.mem_of_get found
  have uncounted := counting.uncounted job jobMember holds
  have summary : job.summary = before := counting.summary job jobMember holds before counters
  have alone : job.Uncounted [id] := by
    intro item itemMember listed
    exact uncounted item itemMember (mem_singleton.1 listed ▸ member)
  have rest : job.Uncounted next.todo := fun item itemMember listed =>
    uncounted item itemMember (todo.subset listed)
  have exact : Exact (applyJobCounterSnapshot (job.mapItem id write) delta) := by
    subst summary
    exact (counting.exact job jobMember).count present alone named written completed failed
      skipped
  exact counting.write found held counted (counting.once.sublist todo) awaits rfl exact rfl
    (rest.mapItem named other)

/-- The batch whose results are awaited once one of them is saved. -/
theorem awaits_done {id : RowId} (once : batch.awaited.Nodup)
    (waits : batch.awaited ⊆ batch.remaining) (yielded : id ∉ batch.awaited) :
    (Phase.processing run (batch.done id)).Awaits := by
  refine ⟨once, fun other listed => ?_⟩
  rw [Batch.remaining_done]
  have different : other ≠ id := fun same => yielded (same ▸ listed)
  exact mem_filter.2 ⟨waits listed, by simpa using different⟩

theorem Counting.persist (counting : Counting system) {applied : ApplyResult}
    (phase : system.phase = .processing run batch)
    (awaited : processed.itemId ∈ batch.awaited) :
    Counting (system.persist run batch processed applied now) := by
  have once : (batch.remaining ++ run.pendingItems).Nodup := by
    have once := counting.once
    rwa [phase] at once
  obtain ⟨awaitedOnce, waits⟩ : batch.awaited.Nodup ∧ batch.awaited ⊆ batch.remaining := by
    have awaits := counting.awaits
    rwa [phase] at awaits
  have member := waits awaited
  have later : batch.awaited.erase processed.itemId ⊆ batch.remaining :=
    fun id listed => waits (mem_of_mem_erase listed)
  obtain ⟨todo, other⟩ := todo_done once member
  unfold System.persist
  simp only
  split
  · exact counting.move .refl (by rw [phase]; rfl) (by rw [phase]; rfl)
      (by rw [phase]; exact .refl _) ⟨awaitedOnce.erase _, later⟩
  · rename_i job row
    have awaits : (Phase.processing run ((batch.yielded processed.itemId).done
        processed.itemId)).Awaits :=
      awaits_done (awaitedOnce.erase _) later awaitedOnce.not_mem_erase
    refine counting.outcome (itemResultToState processed.result) row phase rfl rfl
      (mem_append_left _ member) rfl rfl todo other awaits ?_ ?_ ?_ ?_ ?_
    · intro item
      simp only
      split_ifs <;> rfl
    · intro item
      simp only
      split_ifs <;> rfl
    all_goals
      cases result : processed.result <;>
        simp [JobRunSummary.add, buildProcessedItemCounterDelta, itemResultToState, result]

/-- A result that could not be saved is set aside. -/
theorem Counting.failPersist (counting : Counting system)
    (phase : system.phase = .processing run batch)
    (awaited : processed.itemId ∈ batch.awaited) :
    Counting { system with
      phase := .persisting run (batch.yielded processed.itemId) processed error } := by
  obtain ⟨awaitedOnce, waits⟩ : batch.awaited.Nodup ∧ batch.awaited ⊆ batch.remaining := by
    have awaits := counting.awaits
    rwa [phase] at awaits
  have later : batch.awaited.erase processed.itemId ⊆ batch.remaining :=
    fun id listed => waits (mem_of_mem_erase listed)
  exact counting.move .refl (by rw [phase]; rfl) (by rw [phase]; rfl)
    (by rw [phase]; exact .refl _)
    ⟨awaitedOnce.erase _, later, waits awaited, awaitedOnce.not_mem_erase⟩

theorem Counting.persistFailure (counting : Counting system)
    (phase : system.phase = .persisting run batch processed error) :
    Counting (system.persistFailure run batch processed error now) := by
  have once : (batch.remaining ++ run.pendingItems).Nodup := by
    have once := counting.once
    rwa [phase] at once
  obtain ⟨awaitedOnce, waits, member, yielded⟩ : batch.awaited.Nodup ∧
      batch.awaited ⊆ batch.remaining ∧ processed.itemId ∈ batch.remaining ∧
      processed.itemId ∉ batch.awaited := by
    have awaits := counting.awaits
    rwa [phase] at awaits
  obtain ⟨todo, other⟩ := todo_done once member
  unfold System.persistFailure
  split
  · exact counting.move .refl (by rw [phase]; rfl) (by rw [phase]; rfl)
      (by rw [phase]; exact .refl _) ⟨awaitedOnce, waits⟩
  · rename_i job row
    exact counting.outcome .failed row phase rfl rfl (mem_append_left _ member) rfl rfl todo
      other (awaits_done awaitedOnce waits yielded) (fun _ => rfl) (fun _ => rfl) rfl rfl rfl

theorem Counting.failItem (counting : Counting system) {id : RowId} {remaining : List RowId}
    (phase : system.phase = .failing run (id :: remaining) error) :
    Counting (system.failItem run id remaining error now) := by
  have once : (id :: (remaining ++ run.pendingItems)).Nodup := by
    have once := counting.once
    rwa [phase] at once
  have todo : (remaining ++ run.pendingItems).Sublist (id :: remaining ++ run.pendingItems) :=
    sublist_cons_self _ _
  unfold System.failItem
  split
  · exact counting.move .refl (by rw [phase]; rfl) (by rw [phase]; rfl) (by rw [phase]; exact todo)
      trivial
  · rename_i job row
    exact counting.outcome .failed row phase rfl rfl mem_cons_self rfl rfl todo
      (nodup_cons.1 once).1 trivial (fun _ => rfl) (fun _ => rfl) rfl rfl rfl

/-- The parent of a rollback job keeps its items and counters. -/
theorem Carried.finishRollback (carried : Carried system jobs) :
    Carried system (finishRollback jobs job now) := by
  intro row member
  rcases mem_finishRollback member with member | ⟨parent, present, _, _, rfl⟩
  · exact carried row member
  · exact carried parent present

theorem Counting.finalize (counting : Counting system) {message : Option String}
    (phase : system.phase = .finalizing run) :
    Counting (system.finalize run message now) := by
  unfold System.finalize
  split
  · exact counting.free .refl rfl rfl trivial
  rename_i job found
  obtain ⟨member, named⟩ := Jobs.mem_of_get found
  have summary : job.summary = run.summary :=
    counting.summary job member (by rw [phase, named]; rfl) run.summary (by rw [phase]; rfl)
  simp only
  split
  · rename_i paused finalized
    obtain ⟨_, rfl⟩ := finalizeDispatchJob_paused finalized
    exact counting.free (.save found rfl rfl summary.symm) rfl rfl trivial
  · rename_i completed finalized
    have final := finalizeDispatchJob_completed finalized
    have saved : Carried system (system.jobs.save completed) :=
      .save found final.id final.items (final.summary.trans summary.symm)
    exact counting.free saved.finishRollback rfl rfl trivial
  · exact counting.free .refl rfl rfl trivial

/-- A failed batch leaves the items whose outcome is not saved. -/
theorem Counting.failBatch (counting : Counting system)
    (held : system.phase.held = some run.jobId)
    (counters : system.phase.counters = some run.summary)
    (todo : system.phase.todo = batch.remaining ++ run.pendingItems) :
    Counting { system with phase := .failing run batch.remaining error } :=
  counting.move .refl held.symm counters.symm (by rw [todo]; exact .refl _) trivial

/-- The dispatcher goes on to the next batch. -/
theorem Counting.endBatch (counting : Counting system)
    (held : system.phase.held = some run.jobId)
    (counters : system.phase.counters = some run.summary)
    (todo : run.pendingItems.Sublist system.phase.todo) :
    Counting { system with phase := .checking run } :=
  counting.move .refl held.symm counters.symm todo trivial

theorem Counting.dispatched (counting : Counting system) (sound : Sound system)
    (transition : system.dispatched system.phase event = some after) : Counting after := by
  generalize phase : system.phase = current at transition
  unfold System.dispatched at transition
  split at transition
  all_goals try split_ifs at transition
  all_goals cases transition
  all_goals first
    | exact counting
    | exact counting.startNext sound _
    | exact counting.load sound
    | exact counting.prepare phase (by simp_all)
    | exact counting.failPreparation
    | exact counting.checkpoint phase
    | exact counting.lease phase
    | exact counting.persist phase (by assumption)
    | exact counting.failPersist phase (by assumption)
    | exact counting.persistFailure phase
    | exact counting.failItem phase
    | exact counting.finalize phase
    | exact counting.failBatch (by rw [phase]; rfl) (by rw [phase]; rfl) (by rw [phase]; rfl)
    | exact counting.endBatch (by rw [phase]; rfl) (by rw [phase]; rfl)
        (by rw [phase]; exact sublist_append_right _ _)
    | exact counting.free .refl rfl rfl trivial

/-- The recovery takes items back that are not counted. -/
theorem Counting.recover (counting : Counting system) (idle : system.phase = .idle) :
    Counting { system with
      jobs := System.recoverInterruptedJobs system.jobs now
      recovering := false } := by
  refine ⟨?_, ?_, ?_, counting.once, counting.awaits⟩
  · intro row member
    obtain ⟨job, present, rfl⟩ := mem_map.1 member
    have released : Exact job.releaseItems := by
      refine (counting.exact job present).mapItems ?_ ?_
      · intro item _
        split_ifs <;> rfl
      · intro item _
        split_ifs with leased
        · exact .inr ⟨leased ▸ inProgress_uncounted, by simp [countedStates]⟩
        · exact .inl rfl
    unfold System.recoverJob
    simp only
    split_ifs
    · exact released.carried rfl rfl
    · exact released
  · intro row _ holds
    simp [idle, Phase.held] at holds
  · intro row _ holds
    simp [idle, Phase.held] at holds

/-- Every step keeps the counters exact. -/
theorem Counting.step (counting : Counting system) (sound : Sound system)
    (step : Step event system after) : Counting after := by
  cases event with
  | create id jobType displayName now =>
    simp only [Step, System.apply] at step
    split_ifs at step with drawn
    obtain rfl := Option.some.inj step
    exact counting.append sound rfl .refl rfl ⟨rfl, rfl⟩ drawn
  | pause id now =>
    obtain rfl := Option.some.inj step
    cases accepted : pauseJob system.jobs id now with
    | error => exact counting
    | ok table =>
      obtain ⟨job, found, _, rfl⟩ := pauseJob_ok accepted
      have summary : (job.moveTo .pausing now).summary = job.summary := by
        simp [UtilityJob.summary]
      exact counting.carry sound rfl (.save found (by simp) (by simp) summary)
  | resume id =>
    obtain rfl := Option.some.inj step
    cases accepted : resumeJob system.jobs id with
    | error => exact counting
    | ok table =>
      obtain ⟨job, found, _, rfl⟩ := resumeJob_ok accepted
      have saved : Carried system (system.jobs.save job.requeued) := .save found rfl rfl rfl
      exact counting.carry sound rfl (saved.resequence _)
  | cancel id rollback now =>
    simp only [Step, System.apply] at step
    split_ifs at step with drawn
    obtain rfl := Option.some.inj step
    cases accepted : cancelJob system.jobs id rollback now with
    | error => exact counting
    | ok table =>
      refine counting.cancel sound ?_ accepted
      rintro child rfl
      simpa using drawn
  | queueRollback id child now =>
    simp only [Step, System.apply] at step
    split_ifs at step with drawn
    obtain rfl := Option.some.inj step
    cases accepted : queueRollbackJob system.jobs id child now with
    | error => exact counting
    | ok table =>
      obtain ⟨job, _, _, rfl⟩ := queueRollbackJob_ok accepted
      exact counting.append sound rfl .refl rfl ⟨rfl, rfl⟩ drawn
  | delete id =>
    obtain rfl := Option.some.inj step
    cases accepted : deleteJob system.jobs id with
    | error => exact counting
    | ok table =>
      obtain ⟨job, _, _, rfl⟩ := deleteJob_ok accepted
      exact counting.carry sound rfl .without
  | clearHistory =>
    obtain rfl := Option.some.inj step
    exact counting.carry sound rfl .without
  | crash =>
    obtain rfl := Option.some.inj step
    refine ⟨counting.exact, fun _ _ holds => ?_, fun _ _ holds => ?_, nodup_nil, trivial⟩
    all_goals simp [Phase.held] at holds
  | recover now =>
    obtain ⟨recovering, rfl⟩ := Option.ite_some_none_eq_some.1 step
    exact counting.recover (sound.recovering recovering)
  | _ =>
    exact counting.dispatched sound step

theorem Fresh.counting (fresh : Fresh system) : Counting system := by
  obtain ⟨jobs, phase, _⟩ := fresh
  refine ⟨by simp [jobs], by simp [jobs], by simp [jobs], ?_, ?_⟩
  · rw [phase]
    exact nodup_nil
  · rw [phase]
    trivial

end Dispatcher

/-- Every job of the table is exact. -/
def CountersExact (system : System) : Prop :=
  ∀ job ∈ system.jobs, Exact job

/-- In every run the counters of every job are the numbers of its items in the states they
count, and no item is there twice. -/
theorem counters_exact {allowed : Event → System → Prop} {system : System}
    (reachable : Reachable Fresh allowed Step system) : CountersExact system := by
  have counting : Counting system := reachable.induction (fun _ fresh => fresh.counting)
    fun _ _ _ prior counting _ step => counting.step (sound_of_reachable prior) step
  exact counting.exact

/-- A batch of two items: the first result is saved, the transaction of the second fails and
its item is saved as failed; the process dies before the next batch, and recovers. -/
def interruptedRun : List Event :=
  [.create 1 .massRename "Rename" 1, .dispatch, .start true 2, .load, .prepare [10, 11, 12] 2,
    .checkpoint 3, .lease 4, .persist (processedItem 11 .completed) ⟨0, none⟩ 5,
    .failPersist (processedItem 10 .skipped) "database is locked", .persistFailure 6, .endBatch,
    .checkpoint 7, .lease 8, .crash, .recover 9]

theorem interruptedRun_reachable :
    Reachable Fresh (fun _ _ => True) Step (queueAfter interruptedRun) :=
  queueAfter_reachable interruptedRun (fun _ _ _ => trivial) (by decide)

/-- A run that is interrupted in its batch. -/
theorem counters_exact_interruptedRun : CountersExact (queueAfter interruptedRun) :=
  counters_exact interruptedRun_reachable

end Pullbox.Utility
