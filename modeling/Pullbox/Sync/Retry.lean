import Pullbox.Sync.Queue

/-!
# The explicit retry of an import's placements

Failed and cancelled work of a stalled import is queued again with a fresh budget of attempts.
Every row is validated before one conditional statement resets them all.
-/

namespace Pullbox.Sync

open Import (ImportJob)

/-- `ImportStoryArcPlacementCounts`. -/
structure PlacementCounts where
  queued : Nat
  running : Nat
  retryWait : Nat
  failed : Nat
  completed : Nat
  cancelled : Nat

def PlacementCounts.total (counts : PlacementCounts) : Nat :=
  counts.queued + counts.running + counts.retryWait + counts.failed + counts.completed +
    counts.cancelled

/-- The generation that the membership, the arc and the file joined to a row have now. -/
structure CurrentGeneration where
  desiredGeneration : String
  signatureHash : String
  storyArcRevision : Nat
  membershipSequence : Int
  policySchemaVersion : Nat
  /-- `_import_managed_policy_configured`. -/
  managedPolicyConfigured : Bool

/-- What the transaction reads beside the job and the rows of the queue. -/
structure RetryReads where
  /-- `story_arc_placements_total` of the snapshot, when it is an integer. -/
  expectedTotal : Option Int
  /-- `inspect_import_story_arc_placement_origin`; `none` when it raises. -/
  counts : Option PlacementCounts
  /-- The rows joined to a row of the queue. -/
  current : StoryArcSyncWork → Option CurrentGeneration

/-- Why a retry is refused. -/
inductive RetryError where
  | notFound (jobId : Nat)
  | validation (message : String)

/-- The failed or cancelled rows of an import. -/
def retryableOrigin (jobId : Nat) (row : StoryArcSyncWork) : Bool :=
  decide (row.origin.importJobId = some jobId) &&
    decide (row.state ∈ [StoryArcSyncWorkState.failed, .cancelled])

/-- The row is idle and still the one that the joined rows ask for. -/
def StoryArcSyncWork.exact (row : StoryArcSyncWork) (current : CurrentGeneration) : Bool :=
  row.claimable && row.claimToken.isNone && row.claimedAt.isNone && row.nextAttemptAt.isNone &&
    row.cancelRequestedAt.isNone && current.managedPolicyConfigured &&
    row.proposal.desiredGeneration == current.desiredGeneration &&
    row.proposal.source.signatureHash == current.signatureHash &&
    row.proposal.storyArcRevision == current.storyArcRevision &&
    row.proposal.membershipSequence == current.membershipSequence &&
    row.proposal.policySchemaVersion == current.policySchemaVersion

namespace Works

/-- The rows that the retry loads, with what is joined to them. -/
def terminalRows (works : Works) (jobId : Nat) (reads : RetryReads) :
    List (StoryArcSyncWork × CurrentGeneration) :=
  (works.rows.filter (retryableOrigin jobId)).filterMap fun row =>
    (reads.current row).map fun current => (row, current)

/-- The rows that the statement of the retry selects. -/
def resettable (jobId : Nat) (workIds : List Nat) (row : StoryArcSyncWork) : Bool :=
  decide (row.id ∈ workIds) && retryableOrigin jobId row && row.claimable &&
    row.claimToken.isNone && row.claimedAt.isNone && row.cancelRequestedAt.isNone

/-- The rows with those of a retry queued again. -/
def reset (works : Works) (jobId : Nat) (workIds : List Nat) : Works :=
  works.update (resettable jobId workIds)
    (fun row =>
      { row with
        state := .queued
        attemptCount := 0
        nextAttemptAt := none
        claimToken := none
        claimedAt := none
        cancelRequestedAt := none
        lastErrorCode := none
        lastErrorCategory := none
        lastErrorDetail := none
        lastResult := {} })
    fun _ => rfl

/-- The identifiers of the rows that a retry loads. -/
def retryIds (works : Works) (jobId : Nat) (reads : RetryReads) : List Nat :=
  (works.terminalRows jobId reads).map fun loaded => loaded.1.id

/-- Why the retry of a job is refused. -/
def retryRefusal (works : Works) (job : ImportJob) (jobId : Nat) (reads : RetryReads) :
    Option String :=
  if job.status ≠ .stalled ∨ job.importStarted = false ∨
      job.progressSnapshot.phase ≠ some .storyArcPlacements then
    some "Import job is not stalled on Story Arc placements."
  else if job.controlRequest ≠ .none then
    some "Import job has an active control request."
  else
    match reads.counts with
    | none => some "Import Story Arc placement origin evidence is incomplete."
    | some counts =>
      let retrying := counts.failed + counts.cancelled
      let rows := works.terminalRows jobId reads
      if ¬ reads.expectedTotal.any (fun total => decide (0 < total ∧ (counts.total : Int) = total))
      then
        some "Import Story Arc placement origin evidence is incomplete."
      else if retrying = 0 then
        some "No failed or cancelled Story Arc placement work to retry."
      else if rows.length ≠ retrying then
        some "Import Story Arc placement origin evidence is incomplete."
      else if ¬ rows.all (fun loaded => loaded.1.exact loaded.2) then
        some "Import Story Arc placement work is no longer exact and cannot be retried."
      else if works.count (resettable jobId (works.retryIds jobId reads)) ≠ retrying then
        some "Story Arc placement work changed concurrently; retry refused."
      else
        none

end Works

/-- The job of a retried import goes on with its placements. -/
def ImportJob.retried (job : ImportJob) : ImportJob :=
  { job with
    status := .importing
    errorMessage := none
    progressSnapshot :=
      { job.progressSnapshot with
        mode := some .import
        phase := some .storyArcPlacements
        message := "Creating the approved story-arc copies and links..." } }

/-- `retry_import_story_arc_sync_work`. -/
def retryImportStoryArcSyncWork (works : Works) (jobs : ImportJobs) (jobId : Nat)
    (reads : RetryReads) : Except RetryError (Works × ImportJob) :=
  match jobs jobId with
  | none => .error (.notFound jobId)
  | some job =>
    match works.retryRefusal job jobId reads with
    | some message => .error (.validation message)
    | none => .ok (works.reset jobId (works.retryIds jobId reads), ImportJob.retried job)

theorem retryImportStoryArcSyncWork_ok {works after : Works} {jobs : ImportJobs} {jobId : Nat}
    {reads : RetryReads} {job : ImportJob}
    (retried : retryImportStoryArcSyncWork works jobs jobId reads = .ok (after, job)) :
    after = works.reset jobId (works.retryIds jobId reads) := by
  unfold retryImportStoryArcSyncWork at retried
  split at retried
  · cases retried
  · split at retried
    · cases retried
    · cases retried
      rfl

end Pullbox.Sync
