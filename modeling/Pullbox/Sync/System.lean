import Pullbox.Durable.Reachable
import Pullbox.Sync.Retry

/-!
# Runs of the synchronization queue

Any number of workers, each carrying one claim at a time: it claims, loads what it claimed,
refreshes its lease while the placement runs and reports how that ended. A worker may die
between any two statements. Producers, rollbacks, retries and the deletion of rows fall
between the statements of the workers in any order.

A statement is one step with its commit, and a reading of the clock any number.
-/

namespace Pullbox.Sync

open Durable
open Import (ImportJob)

/-- What a worker of `process_story_arc_sync_work` holds. -/
inductive Phase where
  | idle
  | claimed (workId : Nat) (token : ClaimToken)
  /-- The claimed work is no longer eligible. -/
  | superseded (workId : Nat) (token : ClaimToken)
  /-- The placement is synchronized, with a heartbeat beside it. -/
  | syncing (context : WorkContext) (token : ClaimToken)

/-- The row and the token of the claim a worker holds. -/
def Phase.claim : Phase → Option (Nat × ClaimToken)
  | .idle => none
  | .claimed workId token | .superseded workId token => some (workId, token)
  | .syncing context token => some (context.workId, token)

/-- How the synchronization of a placement ended. -/
inductive SyncOutcome where
  | finished (outcome : String)
  /-- `CancelledError`. -/
  | interrupted
  /-- `StoryArcPlacementIntegrationError`. -/
  | refused (error : WorkError) (cancellationRequested : Bool)
  /-- Any other exception. -/
  | raised

/-- What happened to a row, as far as its attempts go. -/
inductive Entry where
  | enqueued (id : Nat)
  | claimed (id : Nat)
  | reset (id : Nat)
deriving DecidableEq

/-- The claims of a row since it was queued, or reset by a retry. The newest entry is first. -/
def claimsSince (id : Nat) : List Entry → Nat
  | [] => 0
  | .claimed other :: earlier => claimsSince id earlier + if other = id then 1 else 0
  | .enqueued other :: earlier | .reset other :: earlier =>
    if other = id then 0 else claimsSince id earlier

/-- The queue, the imports, and where each worker stands. -/
structure System where
  works : Works
  importJobs : ImportJobs
  workers : Nat → Phase
  /-- The number of tokens drawn. -/
  drawn : Nat
  journal : List Entry

/-- What happens to the queue. -/
inductive Event where
  | enqueue (proposal : Proposal) (reason : StoryArcSyncReason)
  | enqueueImport (proposal : Proposal) (origin : Origin)
  | sealOrigin (jobId : Nat)
  /-- The row goes, with its membership, its file or the history of its import. -/
  | delete (id : Nat)
  | fence (id : Nat) (observed : StoryArcSyncWorkState) (now : Timestamp)
  | checkpoint (id : Nat) (status : String) (now : Timestamp)
  | retry (jobId : Nat) (reads : RetryReads)
  /-- The rest of the program writes or deletes an import job. -/
  | writeJob (jobId : Nat) (job : Option ImportJob)
  | claim (worker id : Nat) (importOnly : Bool) (now : Timestamp)
  | load (worker : Nat) (joined : StoryArcSyncWork → Option Bool)
  | heartbeat (worker : Nat) (now : Timestamp)
  | supersede (worker : Nat)
  | report (worker : Nat) (outcome : SyncOutcome) (now : Timestamp)
  | crash (worker : Nat)

/-- What a worker writes for an outcome. -/
def Works.report (works : Works) (context : WorkContext) (token : ClaimToken)
    (now : Timestamp) : SyncOutcome → Works
  | .finished outcome => works.finishWork context token outcome
  | .interrupted =>
    works.failOrRetryWork context token now
      { code := "sync_worker_cancelled"
        category := "cancelled"
        detail := "Automatic story-arc synchronization was interrupted." }
      true
  | .refused error cancellationRequested =>
    if context.importProvenance && (cancellationRequested || error.category = "cancelled") then
      works.cancelWork context.workId token error.code
    else
      works.failOrRetryWork context token now error (isRetryable error)
  | .raised =>
    works.failOrRetryWork context token now
      { code := "story_arc_sync_unexpected_failure"
        category := "operation"
        detail := "Automatic story-arc synchronization failed unexpectedly." }
      true

namespace System

/-- The outbox before anything is queued, with no worker. -/
def Initial (system : System) : Prop :=
  system.works.rows = [] ∧ (∀ worker, system.workers worker = .idle) ∧ system.journal = []

def setWorker (system : System) (worker : Nat) (phase : Phase) : System :=
  { system with
    workers := fun other => if other = worker then phase else system.workers other }

/-- A row is added, unless its generation has one. -/
def enqueue (system : System) (works : Works) (proposal : Proposal) : System :=
  if system.works.present proposal then system
  else { system with
    works := works
    journal := .enqueued system.works.nextKey :: system.journal }

/-- A worker calls `claim_story_arc_sync_work`. -/
def claim (system : System) (tokens : Nat → ClaimToken) (worker id : Nat) (importOnly : Bool)
    (now : Timestamp) : System :=
  let token := tokens system.drawn
  let drawn := { system with drawn := system.drawn + 1 }
  if system.works.count (Works.claimable system.importJobs id importOnly now) = 1 then
    { drawn.setWorker worker (.claimed id token) with
      works := system.works.claim system.importJobs id importOnly token now
      journal := .claimed id :: system.journal }
  else
    drawn

/-- A retry that is refused leaves everything as it was. -/
def retry (system : System) (jobId : Nat) (reads : RetryReads) : System :=
  match retryImportStoryArcSyncWork system.works system.importJobs jobId reads with
  | .error _ => system
  | .ok (works, job) =>
    { system with
      works := works
      importJobs := fun other => if other = jobId then some job else system.importJobs other
      journal :=
        ((system.works.rows.filter
          (Works.resettable jobId (system.works.retryIds jobId reads))).map fun row =>
            Entry.reset row.id) ++ system.journal }

/-- One transaction, or the death of a worker. -/
def apply (tokens : Nat → ClaimToken) (system : System) : Event → Option System
  | .enqueue proposal reason =>
    some (system.enqueue (system.works.enqueuePair proposal reason) proposal)
  | .enqueueImport proposal origin =>
    some (system.enqueue (system.works.enqueueImport proposal origin) proposal)
  | .sealOrigin jobId => some { system with works := system.works.sealOrigin jobId }
  | .delete id => some { system with works := system.works.delete id }
  | .fence id observed now =>
    some { system with works := system.works.fenceForRollback id observed now }
  | .checkpoint id status now =>
    some { system with works := system.works.rollbackCheckpoint id status now }
  | .retry jobId reads => some (system.retry jobId reads)
  | .writeJob jobId job =>
    some { system with
      importJobs := fun other => if other = jobId then job else system.importJobs other }
  | .claim worker id importOnly now =>
    match system.workers worker with
    | .idle => some (system.claim tokens worker id importOnly now)
    | _ => none
  | .load worker joined =>
    match system.workers worker with
    | .claimed workId token =>
      match system.works.loadClaimedContext joined workId token with
      | none => some (system.setWorker worker (.superseded workId token))
      | some context => some (system.setWorker worker (.syncing context token))
    | _ => none
  | .heartbeat worker now =>
    match system.workers worker with
    | .syncing context token =>
      some { system with works := system.works.refreshClaim context.workId token now }
    | _ => none
  | .supersede worker =>
    match system.workers worker with
    | .superseded workId token =>
      some { system.setWorker worker .idle with
        works := system.works.cancelWork workId token "sync_work_superseded" }
    | _ => none
  | .report worker outcome now =>
    match system.workers worker with
    | .syncing context token =>
      some { system.setWorker worker .idle with
        works := system.works.report context token now outcome }
    | _ => none
  | .crash worker => some (system.setWorker worker .idle)

end System

/-- The queue of a new database. -/
def emptySystem : System where
  works := { rows := [], distinct := List.nodup_nil }
  importJobs := fun _ => none
  workers := fun _ => .idle
  drawn := 0
  journal := []

/-- The queue after some events, if they can happen in that order. -/
def systemAfter (tokens : Nat → ClaimToken) (events : List Event) : System :=
  (events.foldlM (System.apply tokens) emptySystem).getD emptySystem

/-- One step of the queue. -/
def Step (tokens : Nat → ClaimToken) (event : Event) (system after : System) : Prop :=
  system.apply tokens event = some after

/-- Events that can happen in that order lead to a reachable state. -/
theorem systemAfter_reachable {tokens : Nat → ClaimToken} {allowed : Event → System → Prop}
    (events : List Event) (free : ∀ event ∈ events, ∀ system, allowed event system)
    (ran : (events.foldlM (System.apply tokens) emptySystem).isSome) :
    Reachable System.Initial allowed (Step tokens) (systemAfter tokens events) := by
  obtain ⟨system, reached⟩ := Option.isSome_iff_exists.1 ran
  have empty : System.Initial emptySystem := ⟨rfl, fun _ => rfl, rfl⟩
  rw [systemAfter, reached]
  exact Reachable.run (.start empty) free reached

/-- The same, for events that are checked one by one. -/
theorem systemAfter_checked {tokens : Nat → ClaimToken} {allowed : Event → System → Prop}
    [∀ event system, Decidable (allowed event system)] (events : List Event)
    (ran : (events.foldlM (fun system event =>
      if allowed event system then system.apply tokens event else none) emptySystem).isSome) :
    Reachable System.Initial allowed (Step tokens) (systemAfter tokens events) := by
  obtain ⟨system, reached⟩ := Option.isSome_iff_exists.1 ran
  have empty : System.Initial emptySystem := ⟨rfl, fun _ => rfl, rfl⟩
  have unchecked : events.foldlM (System.apply tokens) emptySystem = some system :=
    Reachable.foldlM_of_checked reached
  rw [systemAfter, unchecked]
  exact Reachable.run_checked (.start empty) reached

/-- A source of distinct tokens. -/
def countedTokens (draw : Nat) : ClaimToken :=
  String.ofList (List.replicate (draw + 1) 'k')

theorem countedTokens_injective : Function.Injective countedTokens := by
  intro first second same
  have lists := String.ofList_injective same
  have lengths := congrArg List.length lists
  simpa using lengths

/-- Work for a library file that the tests below queue. -/
def sampleProposal : Proposal where
  issueStoryArcId := 7
  libraryFileId := 11
  desiredGeneration := "generation"
  source :=
    { signatureHash := "hash"
      filePath := "/library/issue.cbz"
      fileSize := 1024
      fileModifiedAt := 0
      fileHash := none
      signatureSchemaVersion := none
      signatureResolvedPath := none
      signatureSize := none
      signatureMtimeNs := none
      signatureDevice := none
      signatureInode := none }
  storyArcRevision := 1
  membershipSequence := 1
  policySchemaVersion := 1

end Pullbox.Sync
