import Pullbox.Sync.Work

/-!
# The statements of the synchronization queue

A claim leases a ready or stale row under a new token. What a worker writes afterwards is
conditional on that token: a worker whose claim was taken over writes nothing. A statement and its
commit are one step.
-/

namespace Pullbox.Sync

open Import (ImportJob)

/-- The rows of import jobs; `none` is no such job. -/
abbrev ImportJobs := Nat → Option ImportJob

/-- `_origin_is_not_startup_recovery_paused`. -/
def originIsNotStartupRecoveryPaused (jobs : ImportJobs) (row : StoryArcSyncWork) : Bool :=
  match row.origin.importJobId.bind jobs with
  | none => true
  | some job => !(decide (job.status = .paused) && job.progressSnapshot.startupPause)

/-- The lanes from which a claim takes a row. -/
def StoryArcSyncWork.ready (row : StoryArcSyncWork) (now : Timestamp) : Bool :=
  match row.state with
  | .queued => true
  | .retryWait => row.nextAttemptAt.any fun due => decide (due ≤ now)
  | .running => row.claimedAt.all fun claimed => decide (claimed ≤ now - claimLease)
  | .failed | .completed | .cancelled => false

/-- A worker's view of the row it claimed. -/
structure WorkContext where
  workId : Nat
  membershipId : Nat
  libraryFileId : Nat
  attemptCount : Nat
  /-- The work belongs to an import. -/
  importProvenance : Bool

/-- `StoryArcPlacementIntegrationError`, and what a worker records of any failure. -/
structure WorkError where
  code : String
  category : String
  detail : String

/-- `_is_retryable`. -/
def isRetryable (error : WorkError) : Bool :=
  error.code ∈ ["placement_concurrency_conflict", "placement_execution_failed"] ||
    error.category ∈ ["operation", "cancelled"]

/-- A failed attempt is tried again. -/
def shouldRetry (context : WorkContext) (retryable : Bool) : Bool :=
  retryable && decide (context.attemptCount < maxAttempts)

namespace Works

/-! ### Claims -/

/-- The rows that `claim_story_arc_sync_work` selects. -/
def claimable (jobs : ImportJobs) (workId : Nat) (importOnly : Bool) (now : Timestamp)
    (row : StoryArcSyncWork) : Bool :=
  (!importOnly || row.origin.importJobId.isSome) && originIsNotStartupRecoveryPaused jobs row &&
    decide (row.id = workId) && row.claimable && row.ready now

theorem claimable_id {jobs : ImportJobs} {workId : Nat} {importOnly : Bool} {now : Timestamp}
    {row : StoryArcSyncWork} (selected : claimable jobs workId importOnly now row = true) :
    row.id = workId := by
  simp only [claimable, Bool.and_eq_true, decide_eq_true_eq] at selected
  exact selected.1.1.2

/-- A claim takes a row that waits, or whose lease ran out. -/
theorem claimable_state {jobs : ImportJobs} {workId : Nat} {importOnly : Bool} {now : Timestamp}
    {row : StoryArcSyncWork} (selected : claimable jobs workId importOnly now row = true) :
    row.state ∈ [.queued, .retryWait, .running] := by
  simp only [claimable, Bool.and_eq_true] at selected
  have ready := selected.2
  unfold StoryArcSyncWork.ready at ready
  split at ready
  · rename_i queued
    simp [queued]
  · rename_i waiting
    simp [waiting]
  · rename_i running
    simp [running]
  all_goals cases ready

/-- `claim_story_arc_sync_work`. -/
def claim (works : Works) (jobs : ImportJobs) (workId : Nat) (importOnly : Bool)
    (token : ClaimToken) (now : Timestamp) : Works :=
  works.update (claimable jobs workId importOnly now)
    (fun row =>
      { row with
        state := .running
        attemptCount := row.attemptCount + 1
        nextAttemptAt := none
        claimToken := some token
        claimedAt := some now })
    fun _ => rfl

/-- The row of a live claim: it is running under the worker's token. -/
def held (workId : Nat) (token : ClaimToken) (row : StoryArcSyncWork) : Bool :=
  decide (row.id = workId) && decide (row.claimToken = some token) && decide (row.state = .running)

/-- What a worker writes to the row of its claim. -/
def writeHeld (works : Works) (workId : Nat) (token : ClaimToken)
    (write : StoryArcSyncWork → StoryArcSyncWork) (keeps : ∀ row, (write row).id = row.id) :
    Works :=
  works.update (held workId token) write keeps

/-- `_refresh_story_arc_sync_claim`. -/
def refreshClaim (works : Works) (workId : Nat) (token : ClaimToken) (now : Timestamp) : Works :=
  works.writeHeld workId token (fun row => { row with claimedAt := some now }) fun _ => rfl

/-- `_load_claimed_context`. What the joined rows say about the row is given: `none` when it
is superseded, and otherwise whether an import owns it. -/
def loadClaimedContext (works : Works) (joined : StoryArcSyncWork → Option Bool) (workId : Nat)
    (token : ClaimToken) : Option WorkContext := do
  let row ← (works.find workId).filter (held workId token)
  let importProvenance ← joined row
  return {
    workId := row.id
    membershipId := row.proposal.issueStoryArcId
    libraryFileId := row.proposal.libraryFileId
    attemptCount := row.attemptCount
    importProvenance := importProvenance }

theorem loadClaimedContext_eq_some {works : Works} {joined : StoryArcSyncWork → Option Bool}
    {workId : Nat} {token : ClaimToken} {context : WorkContext}
    (loaded : works.loadClaimedContext joined workId token = some context) :
    ∃ row, works.find workId = some row ∧ held workId token row = true ∧
      context.workId = workId ∧ context.attemptCount = row.attemptCount := by
  unfold loadClaimedContext at loaded
  obtain ⟨row, present, loaded⟩ := Option.bind_eq_some_iff.1 loaded
  obtain ⟨found, current⟩ := Option.filter_eq_some_iff.1 present
  obtain ⟨importProvenance, _, loaded⟩ := Option.bind_eq_some_iff.1 loaded
  have named : row.id = workId := Sql.Table.key_of_find found
  cases loaded
  exact ⟨row, found, current, named, rfl⟩

/-! ### Outcomes -/

/-- `_finish_work`. -/
def finishWork (works : Works) (context : WorkContext) (token : ClaimToken) (outcome : String) :
    Works :=
  works.writeHeld context.workId token
    (fun row =>
      { row with
        state := .completed
        claimToken := none
        claimedAt := none
        nextAttemptAt := none
        lastErrorCode := none
        lastErrorCategory := none
        lastErrorDetail := none
        lastResult := { outcome := some outcome } })
    fun _ => rfl

/-- `_cancel_work`. -/
def cancelWork (works : Works) (workId : Nat) (token : ClaimToken) (code : String) : Works :=
  works.writeHeld workId token
    (fun row =>
      { row with
        state := .cancelled
        claimToken := none
        claimedAt := none
        nextAttemptAt := none
        lastErrorCode := some code
        lastErrorCategory := some "superseded"
        lastErrorDetail := some "Automatic story-arc synchronization is no longer eligible." })
    fun _ => rfl

/-- `_fail_or_retry_work`. -/
def failOrRetryWork (works : Works) (context : WorkContext) (token : ClaimToken)
    (now : Timestamp) (error : WorkError) (retryable : Bool) : Works :=
  let again := shouldRetry context retryable
  works.writeHeld context.workId token
    (fun row =>
      { row with
        state := if again then .retryWait else .failed
        claimToken := none
        claimedAt := none
        nextAttemptAt := if again then some (now + retryDelay context.attemptCount) else none
        lastErrorCode := some error.code
        lastErrorCategory := some error.category
        lastErrorDetail := some error.detail })
    fun _ => rfl

/-! ### The rollback of an import -/

/-- `_fence_import_story_arc_work_for_rollback`, after it read the row in a state: running work
is asked to cancel, waiting or failed work is cancelled. -/
def fenceForRollback (works : Works) (workId : Nat) (observed : StoryArcSyncWorkState)
    (now : Timestamp) : Works :=
  match observed with
  | .running =>
    works.update (fun row => decide (row.id = workId) && decide (row.state = .running))
      (fun row => { row with cancelRequestedAt := some now }) fun _ => rfl
  | .queued | .retryWait | .failed =>
    works.update (fun row => decide (row.id = workId) && decide (row.state = observed))
      (fun row =>
        { row with
          state := .cancelled
          claimToken := none
          claimedAt := none
          nextAttemptAt := none
          cancelRequestedAt := some now
          lastErrorCode := some "import_rollback_requested"
          lastErrorCategory := some "cancelled"
          lastErrorDetail := some "Import rollback fenced Story Arc placement work."
          lastResult := { row.lastResult with rollback := some "work_fenced_for_rollback" } })
      fun _ => rfl
  | .completed | .cancelled => works

/-- `_persist_story_arc_work_rollback_checkpoint`. -/
def rollbackCheckpoint (works : Works) (workId : Nat) (status : String) (now : Timestamp) :
    Works :=
  works.update (fun row => decide (row.id = workId))
    (fun row =>
      { row with
        cancelRequestedAt := row.cancelRequestedAt.orElse fun _ => some now
        lastResult := { row.lastResult with rollback := some status } })
    fun _ => rfl

end Works

end Pullbox.Sync
