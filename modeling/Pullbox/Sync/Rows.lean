import Pullbox.Sync.System

/-!
# What a step does to a row

Every statement writes the rows that it selects. One lemma lists what becomes of a row in a
step; the invariants of the queue are read off it.
-/

namespace Pullbox.Sync

open Sql

/-- The columns of a row that govern its claims, and the claims since it was last queued. -/
structure Control where
  state : StoryArcSyncWorkState
  claimToken : Option ClaimToken
  nextAttemptAt : Option Timestamp
  attemptCount : Nat
  claims : Nat

def StoryArcSyncWork.control (row : StoryArcSyncWork) (journal : List Entry) : Control where
  state := row.state
  claimToken := row.claimToken
  nextAttemptAt := row.nextAttemptAt
  attemptCount := row.attemptCount
  claims := claimsSince row.id journal

/-- The worker that ends its claim with an event. -/
def Event.reporter : Event → Option Nat
  | .supersede worker | .report worker .. => some worker
  | _ => none

/-- An accepted retry selects the row. -/
def Event.Resets (system : System) (row : StoryArcSyncWork) : Event → Prop
  | .retry jobId reads =>
    (∃ works job,
      retryImportStoryArcSyncWork system.works system.importJobs jobId reads =
        .ok (works, job)) ∧
    Works.resettable jobId (system.works.retryIds jobId reads) row = true
  | _ => False

/-- What one step does to a row. -/
inductive Change (tokens : Nat → ClaimToken) (system : System) (row : StoryArcSyncWork) :
    Event → Control → Prop where
  | kept {event} : Change tokens system row event (row.control system.journal)
  | claimed {worker importOnly now} (idle : system.workers worker = .idle)
      (selected : Works.claimable system.importJobs row.id importOnly now row = true) :
      Change tokens system row (.claim worker row.id importOnly now)
        ⟨.running, some (tokens system.drawn), none, row.attemptCount + 1,
          claimsSince row.id system.journal + 1⟩
  | ended {event worker token state} (reporter : event.reporter = some worker)
      (holds : (system.workers worker).claim = some (row.id, token))
      (current : row.claimToken = some token) (running : row.state = .running)
      (terminal : state.terminal = true) :
      Change tokens system row event
        ⟨state, none, none, row.attemptCount, claimsSince row.id system.journal⟩
  | deferred {worker outcome now context token due}
      (syncing : system.workers worker = .syncing context token)
      (own : context.workId = row.id) (current : row.claimToken = some token)
      (running : row.state = .running) (left : context.attemptCount < maxAttempts) :
      Change tokens system row (.report worker outcome now)
        ⟨.retryWait, none, some due, row.attemptCount, claimsSince row.id system.journal⟩
  | fenced {observed now} (waiting : row.state ∈ [.queued, .retryWait, .failed]) :
      Change tokens system row (.fence row.id observed now)
        ⟨.cancelled, none, none, row.attemptCount, claimsSince row.id system.journal⟩
  | reset {event} (resets : event.Resets system row) (ended : row.state ∈ [.failed, .cancelled]) :
      Change tokens system row event ⟨.queued, none, none, 0, 0⟩

/-- What a step makes of the rows: every row is a changed old one, or new; every old row is
still there, unless it is deleted. -/
structure RowSteps (tokens : Nat → ClaimToken) (system after : System) (event : Event) :
    Prop where
  back : ∀ id row', after.works.find id = some row' →
    (∃ row, system.works.find id = some row ∧
      Change tokens system row event (row'.control after.journal)) ∨
    (system.works.find id = none ∧ row'.control after.journal = ⟨.queued, none, none, 0, 0⟩)
  kept : ∀ id, (system.works.find id).isSome → event ≠ .delete id →
    (after.works.find id).isSome

namespace RowSteps

variable {tokens : Nat → ClaimToken} {system after : System} {event : Event}
  {write : StoryArcSyncWork → StoryArcSyncWork} {now : Timestamp}

/-- A statement that selects rows. -/
theorem of_update {condition : StoryArcSyncWork → Bool}
    (works : after.works.rows = system.works.rows.map fun row =>
      if condition row then write row else row)
    (keeps : ∀ row, (write row).id = row.id)
    (selected : ∀ row ∈ system.works.rows, condition row = true →
      Change tokens system row event ((write row).control after.journal))
    (others : ∀ row ∈ system.works.rows, condition row = false →
      claimsSince row.id after.journal = claimsSince row.id system.journal) :
    RowSteps tokens system after event := by
  have found (id : Nat) : after.works.find id = (system.works.find id).map fun row =>
      if condition row then write row else row := by
    refine Table.find_of_rows works fun row => ?_
    split
    · exact keeps row
    · rfl
  constructor
  · intro id row' present
    rw [found, Option.map_eq_some_iff] at present
    obtain ⟨row, present, rfl⟩ := present
    have member := Table.mem_of_find present
    refine .inl ⟨row, present, ?_⟩
    by_cases chosen : condition row = true
    · rw [if_pos chosen]
      exact selected row member chosen
    · have same : row.control after.journal = row.control system.journal := by
        simp only [StoryArcSyncWork.control, others row member (by simpa using chosen)]
      rw [if_neg chosen, same]
      exact .kept
  · intro id present _
    simpa [found] using present

/-- A statement that leaves the columns of the claim as they are. -/
theorem of_touch {condition : StoryArcSyncWork → Bool}
    (works : after.works.rows = system.works.rows.map fun row =>
      if condition row then write row else row)
    (journal : after.journal = system.journal) (keeps : ∀ row, (write row).id = row.id)
    (same : ∀ row, (write row).control system.journal = row.control system.journal) :
    RowSteps tokens system after event := by
  refine of_update works keeps ?_ ?_
  · intro row _ _
    rw [journal, same]
    exact .kept
  · intro row _ _
    rw [journal]

/-- A step that writes neither the rows nor the journal. -/
theorem of_same (works : after.works = system.works) (journal : after.journal = system.journal) :
    RowSteps tokens system after event := by
  constructor
  · intro id row' found
    rw [works] at found
    exact .inl ⟨row', found, journal ▸ .kept⟩
  · intro id present _
    rwa [works]

/-- What a worker writes to the row of its claim. -/
theorem of_writeHeld {workId : Nat} {token : ClaimToken}
    (works : after.works.rows = system.works.rows.map fun row =>
      if Works.held workId token row then write row else row)
    (journal : after.journal = system.journal) (keeps : ∀ row, (write row).id = row.id)
    (written : ∀ row, row.id = workId → row.claimToken = some token → row.state = .running →
      Change tokens system row event ((write row).control system.journal)) :
    RowSteps tokens system after event := by
  refine of_update works keeps ?_ ?_
  · intro row _ chosen
    simp only [Works.held, Bool.and_eq_true, decide_eq_true_eq] at chosen
    obtain ⟨⟨named, current⟩, running⟩ := chosen
    rw [journal]
    exact written row named current running
  · intro row _ _
    rw [journal]

/-- A producer adds a row, unless the generation has one. -/
theorem of_enqueue {proposal : Proposal} {origin : Origin} {reason : StoryArcSyncReason}
    {claimable : Bool} :
    RowSteps tokens system
      (system.enqueue (system.works.add proposal origin reason claimable) proposal) event := by
  unfold System.enqueue
  split
  · exact of_same rfl rfl
  · constructor
    · intro id row' found
      rw [Works.find_add] at found
      split at found
      · rename_i last
        subst last
        cases found
        refine .inr ⟨Table.find_nextKey, ?_⟩
        simp [StoryArcSyncWork.control, StoryArcSyncWork.queue, claimsSince]
      · rename_i different
        refine .inl ⟨row', found, ?_⟩
        have named := Table.key_of_find found
        have same : claimsSince row'.id (.enqueued system.works.nextKey :: system.journal) =
            claimsSince row'.id system.journal := by
          rw [claimsSince, if_neg]
          exact fun last => different (named ▸ last.symm)
        simp only [StoryArcSyncWork.control, same]
        exact .kept
    · intro id present _
      rw [Works.find_add]
      split
      · rfl
      · exact present

/-- A claim takes the row it is for, if it is ready. -/
theorem of_claim {worker id : Nat} {importOnly : Bool}
    (idle : system.workers worker = .idle) :
    RowSteps tokens system (system.claim tokens worker id importOnly now)
      (.claim worker id importOnly now) := by
  unfold System.claim
  simp only []
  split
  · rename_i once
    obtain ⟨taken, inside, selected⟩ := Sql.Table.count_pos.1 (once ▸ Nat.one_pos)
    refine of_update rfl (fun _ => rfl) ?_ ?_
    · intro row _ chosen
      obtain rfl := Works.claimable_id chosen
      have counted : claimsSince row.id (.claimed row.id :: system.journal) =
          claimsSince row.id system.journal + 1 := by
        rw [claimsSince, if_pos rfl]
      simp only [StoryArcSyncWork.control, counted]
      exact .claimed idle chosen
    · intro row member passed
      rw [claimsSince, if_neg, Nat.add_zero]
      rintro rfl
      -- the claimed row is the only one of its identifier
      have same : row = taken := by
        have first := Table.find_key member
        have second := Table.find_key inside
        rw [Works.claimable_id selected] at second
        exact Option.some.inj (first.symm.trans second)
      rw [← same, passed] at selected
      cases selected
  · exact of_same rfl rfl

/-- A worker ends its claim. -/
theorem of_report {worker : Nat} {outcome : SyncOutcome}
    {context : WorkContext} {token : ClaimToken}
    (syncing : system.workers worker = .syncing context token)
    (works : after.works = system.works.report context token now outcome)
    (journal : after.journal = system.journal) :
    RowSteps tokens system after (.report worker outcome now) := by
  have holds : (system.workers worker).claim = some (context.workId, token) := by
    rw [syncing, Phase.claim]
  have ended (row : StoryArcSyncWork) (named : row.id = context.workId)
      (current : row.claimToken = some token) (running : row.state = .running)
      (state : StoryArcSyncWorkState) (terminal : state.terminal = true) :
      Change tokens system row (.report worker outcome now)
        ⟨state, none, none, row.attemptCount, claimsSince row.id system.journal⟩ :=
    .ended rfl (named ▸ holds) current running terminal
  have failed (error : WorkError) (retryable : Bool)
      (works : after.works = system.works.failOrRetryWork context token now error retryable) :
      RowSteps tokens system after (.report worker outcome now) := by
    refine of_writeHeld (congrArg Table.rows works) journal (fun _ => rfl) ?_
    intro row named current running
    by_cases again : shouldRetry context retryable = true
    · have left : context.attemptCount < maxAttempts := by
        simp only [shouldRetry, Bool.and_eq_true, decide_eq_true_eq] at again
        exact again.2
      simp only [StoryArcSyncWork.control, again, if_true]
      exact .deferred syncing named.symm current running left
    · simp only [StoryArcSyncWork.control, again]
      exact ended row named current running .failed rfl
  cases outcome with
  | finished result =>
    refine of_writeHeld (congrArg Table.rows works) journal (fun _ => rfl) ?_
    intro row named current running
    exact ended row named current running .completed rfl
  | interrupted => exact failed _ _ works
  | raised => exact failed _ _ works
  | refused error cancellationRequested =>
    simp only [Works.report] at works
    split at works
    · refine of_writeHeld (congrArg Table.rows works) journal (fun _ => rfl) ?_
      intro row named current running
      exact ended row named current running .cancelled rfl
    · exact failed _ _ works

/-- The rollback of an import stops work that no worker carries out. -/
theorem of_fence {id : Nat} {observed : StoryArcSyncWorkState} :
    RowSteps tokens system
      { system with works := system.works.fenceForRollback id observed now }
      (.fence id observed now) := by
  have waits (waiting : observed ∈ [.queued, .retryWait, .failed]) (row : StoryArcSyncWork)
      (chosen : (decide (row.id = id) && decide (row.state = observed)) = true) :
      Change tokens system row (.fence id observed now)
        ⟨.cancelled, none, none, row.attemptCount, claimsSince row.id system.journal⟩ := by
    simp only [Bool.and_eq_true, decide_eq_true_eq] at chosen
    obtain ⟨rfl, state⟩ := chosen
    exact .fenced (state ▸ waiting)
  cases observed with
  | running => exact of_touch rfl rfl (fun _ => rfl) fun _ => rfl
  | queued =>
    exact of_update rfl (fun _ => rfl) (fun row _ chosen => waits (by decide) row chosen)
      fun _ _ _ => rfl
  | retryWait =>
    exact of_update rfl (fun _ => rfl) (fun row _ chosen => waits (by decide) row chosen)
      fun _ _ _ => rfl
  | failed =>
    exact of_update rfl (fun _ => rfl) (fun row _ chosen => waits (by decide) row chosen)
      fun _ _ _ => rfl
  | completed => exact of_same rfl rfl
  | cancelled => exact of_same rfl rfl

/-- The resets of a journal start the count of their rows again. -/
theorem claimsSince_reset (id : Nat) (rows : List StoryArcSyncWork) (journal : List Entry) :
    claimsSince id ((rows.map fun row => Entry.reset row.id) ++ journal) =
      if ∃ row ∈ rows, row.id = id then 0 else claimsSince id journal := by
  induction rows with
  | nil => simp
  | cons row rest ih =>
    rw [List.map_cons, List.cons_append, claimsSince, ih]
    by_cases same : row.id = id
    · simp [same]
    · simp [same]

/-- A retry queues the rows it selects again. -/
theorem of_retry {jobId : Nat} {reads : RetryReads} :
    RowSteps tokens system (system.retry jobId reads) (.retry jobId reads) := by
  unfold System.retry
  split
  · exact of_same rfl rfl
  · rename_i works job retried
    have resets (row : StoryArcSyncWork)
        (chosen : Works.resettable jobId (system.works.retryIds jobId reads) row = true) :
        Event.Resets system row (.retry jobId reads) := ⟨⟨works, job, retried⟩, chosen⟩
    obtain rfl := retryImportStoryArcSyncWork_ok retried
    refine of_update rfl (fun _ => rfl) ?_ ?_
    · intro row member chosen
      have again : ∃ other ∈ system.works.rows.filter
          (Works.resettable jobId (system.works.retryIds jobId reads)), other.id = row.id :=
        ⟨row, List.mem_filter.2 ⟨member, chosen⟩, rfl⟩
      have ended : row.state ∈ [StoryArcSyncWorkState.failed, .cancelled] := by
        have parts := chosen
        simp only [Works.resettable, retryableOrigin, Bool.and_eq_true, decide_eq_true_eq]
          at parts
        exact parts.1.1.1.1.2.2
      simp only [StoryArcSyncWork.control, claimsSince_reset, if_pos again]
      exact .reset (resets row chosen) ended
    · intro row member passed
      rw [claimsSince_reset, if_neg]
      rintro ⟨other, inside, named⟩
      obtain ⟨present, chosen⟩ := List.mem_filter.1 inside
      have same : other = row := by
        have first := Table.find_key present
        have second := Table.find_key member
        rw [named] at first
        exact Option.some.inj (first.symm.trans second)
      rw [same, passed] at chosen
      cases chosen

/-- A deleted row leaves the others as they were. -/
theorem of_delete {id : Nat} :
    RowSteps tokens system { system with works := system.works.delete id } (.delete id) := by
  constructor
  · intro other row found
    rw [Table.find_delete] at found
    split at found
    · cases found
    · exact .inl ⟨row, found, .kept⟩
  · intro other present different
    rw [Table.find_delete, if_neg]
    · exact present
    · rintro rfl
      exact different rfl

end RowSteps

open RowSteps in
/-- What every step makes of the rows. -/
theorem Step.rows {tokens : Nat → ClaimToken} {event : Event} {system after : System}
    (step : Step tokens event system after) : RowSteps tokens system after event := by
  cases event with
  | enqueue proposal reason =>
    obtain rfl := Option.some.inj step
    have same : system.enqueue (system.works.enqueuePair proposal reason) proposal =
        system.enqueue (system.works.add proposal {} reason true) proposal := by
      unfold System.enqueue Works.enqueuePair
      split <;> rfl
    rw [same]
    exact of_enqueue
  | enqueueImport proposal origin =>
    obtain rfl := Option.some.inj step
    have same : system.enqueue (system.works.enqueueImport proposal origin) proposal =
        system.enqueue (system.works.add proposal origin .canonicalRegistered false)
          proposal := by
      unfold System.enqueue Works.enqueueImport
      split <;> rfl
    rw [same]
    exact of_enqueue
  | sealOrigin jobId =>
    obtain rfl := Option.some.inj step
    exact of_touch rfl rfl (fun _ => rfl) fun _ => rfl
  | delete id =>
    obtain rfl := Option.some.inj step
    exact of_delete
  | fence id observed now =>
    obtain rfl := Option.some.inj step
    exact of_fence
  | checkpoint id status now =>
    obtain rfl := Option.some.inj step
    exact of_touch rfl rfl (fun _ => rfl) fun _ => rfl
  | retry jobId reads =>
    obtain rfl := Option.some.inj step
    exact of_retry
  | writeJob jobId job =>
    obtain rfl := Option.some.inj step
    exact of_same rfl rfl
  | claim worker id importOnly now =>
    simp only [Step, System.apply] at step
    split at step
    · rename_i idle
      obtain rfl := Option.some.inj step
      exact of_claim idle
    · cases step
  | load worker joined =>
    simp only [Step, System.apply] at step
    split at step
    · split at step
      · obtain rfl := Option.some.inj step
        exact of_same rfl rfl
      · obtain rfl := Option.some.inj step
        exact of_same rfl rfl
    · cases step
  | heartbeat worker now =>
    simp only [Step, System.apply] at step
    split at step
    · obtain rfl := Option.some.inj step
      exact of_touch rfl rfl (fun _ => rfl) fun _ => rfl
    · cases step
  | supersede worker =>
    simp only [Step, System.apply] at step
    split at step
    · rename_i workId token superseded
      obtain rfl := Option.some.inj step
      refine of_writeHeld rfl rfl (fun _ => rfl) ?_
      intro row named current running
      have holds : (system.workers worker).claim = some (row.id, token) := by
        rw [superseded, Phase.claim, named]
      exact .ended rfl holds current running rfl
    · cases step
  | report worker outcome now =>
    simp only [Step, System.apply] at step
    split at step
    · rename_i context token syncing
      obtain rfl := Option.some.inj step
      exact of_report syncing rfl rfl
    · cases step
  | crash worker =>
    obtain rfl := Option.some.inj step
    exact of_same rfl rfl

end Pullbox.Sync
