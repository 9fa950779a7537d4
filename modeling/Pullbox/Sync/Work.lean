import Pullbox.Import.Controls
import Pullbox.Sql.Table

/-!
# Work of the story-arc synchronization

The rows of the durable outbox: what asked for a placement, which generation of the source it
is for, and the claim of the worker that carries it out.
-/

namespace Pullbox.Sync

/-- Instants, in microseconds. -/
abbrev Timestamp := Int

/-- Tokens of claims, drawn by `secrets.token_urlsafe(24)`. -/
abbrev ClaimToken := String

inductive StoryArcSyncWorkState where
  | queued | running | retryWait | failed | completed | cancelled
deriving DecidableEq

inductive StoryArcSyncReason where
  | canonicalRegistered | discrepancyRecovery
deriving DecidableEq

/-- The states that no worker leaves. -/
def StoryArcSyncWorkState.terminal : StoryArcSyncWorkState → Bool
  | .failed | .completed | .cancelled => true
  | .queued | .running | .retryWait => false

/-- The rows of an import that asked for the work; each is forgotten when it is deleted. -/
structure Origin where
  importActionId : Option Nat := none
  importJobId : Option Nat := none
  importedStoryArcId : Option Nat := none
  importedStoryArcEntryId : Option Nat := none
deriving DecidableEq

/-- The columns that record the library file as it was. -/
structure SourceSnapshot where
  signatureHash : String
  filePath : String
  fileSize : Int
  fileModifiedAt : Timestamp
  fileHash : Option String
  signatureSchemaVersion : Option Int
  signatureResolvedPath : Option String
  signatureSize : Option Int
  signatureMtimeNs : Option Int
  signatureDevice : Option Int
  signatureInode : Option Int

/-- What a row is for: a membership, a library file and a generation of both. -/
structure Proposal where
  issueStoryArcId : Nat
  libraryFileId : Nat
  desiredGeneration : String
  source : SourceSnapshot
  storyArcRevision : Nat
  membershipSequence : Int
  policySchemaVersion : Nat

/-- `last_result`: the outcome of a synchronization, and the mark of a rollback. -/
structure LastResult where
  outcome : Option String := none
  rollback : Option String := none

/-- A row of the queue. -/
structure StoryArcSyncWork where
  id : Nat
  proposal : Proposal
  origin : Origin
  reason : StoryArcSyncReason
  state : StoryArcSyncWorkState
  claimable : Bool
  attemptCount : Nat
  nextAttemptAt : Option Timestamp
  claimToken : Option ClaimToken
  claimedAt : Option Timestamp
  cancelRequestedAt : Option Timestamp
  lastErrorCode : Option String
  lastErrorCategory : Option String
  lastErrorDetail : Option String
  lastResult : LastResult

abbrev Works := Sql.Table StoryArcSyncWork StoryArcSyncWork.id

/-- `_CLAIM_LEASE`, fifteen minutes. -/
def claimLease : Int :=
  15 * 60 * 1000000

/-- `_MAX_ATTEMPTS`. -/
def maxAttempts : Nat :=
  5

/-- `_RETRY_DELAYS`. -/
def retryDelays : List Int :=
  [30 * 1000000, 2 * 60 * 1000000, 10 * 60 * 1000000, 30 * 60 * 1000000, 60 * 60 * 1000000]

/-- `_RETRY_DELAYS[min(attempt_count - 1, len(_RETRY_DELAYS) - 1)]`; the index `-1` is the last. -/
def retryDelay (attemptCount : Nat) : Int :=
  if attemptCount = 0 then
    retryDelays.getLastD 0
  else
    retryDelays.getD (min (attemptCount - 1) (retryDelays.length - 1)) 0

/-! ### The outbox -/

/-- A new row. -/
def StoryArcSyncWork.queue (proposal : Proposal) (origin : Origin) (reason : StoryArcSyncReason)
    (claimable : Bool) (id : Nat) : StoryArcSyncWork where
  id := id
  proposal := proposal
  origin := origin
  reason := reason
  state := .queued
  claimable := claimable
  attemptCount := 0
  nextAttemptAt := none
  claimToken := none
  claimedAt := none
  cancelRequestedAt := none
  lastErrorCode := none
  lastErrorCategory := none
  lastErrorDetail := none
  lastResult := {}

theorem StoryArcSyncWork.queue_id (proposal : Proposal) (origin : Origin)
    (reason : StoryArcSyncReason) (claimable : Bool) (id : Nat) :
    (StoryArcSyncWork.queue proposal origin reason claimable id).id = id :=
  rfl

/-- The membership and the generation of a row, which no other row shares. -/
def Proposal.generationKey (proposal : Proposal) : Nat × String :=
  (proposal.issueStoryArcId, proposal.desiredGeneration)

namespace Works

/-- A row of the generation exists. -/
def present (works : Works) (proposal : Proposal) : Bool :=
  works.rows.any fun row => row.proposal.generationKey == proposal.generationKey

def add (works : Works) (proposal : Proposal) (origin : Origin) (reason : StoryArcSyncReason)
    (claimable : Bool) : Works :=
  works.insert (StoryArcSyncWork.queue proposal origin reason claimable)
    (StoryArcSyncWork.queue_id proposal origin reason claimable)

theorem find_add (works : Works) (proposal : Proposal) (origin : Origin)
    (reason : StoryArcSyncReason) (claimable : Bool) (id : Nat) :
    (works.add proposal origin reason claimable).find id =
      if id = works.nextKey then some (.queue proposal origin reason claimable id)
      else works.find id :=
  Sql.Table.find_insert (StoryArcSyncWork.queue_id proposal origin reason claimable)

/-- `_enqueue_pairs`, for one of its pairs. -/
def enqueuePair (works : Works) (proposal : Proposal) (reason : StoryArcSyncReason) : Works :=
  if works.present proposal then works else works.add proposal {} reason true

/-- The row that `enqueue_import_story_arc_sync_work_batch` creates for a proposal: it is held
until the import is sealed. -/
def enqueueImport (works : Works) (proposal : Proposal) (origin : Origin) : Works :=
  if works.present proposal then works
  else works.add proposal origin .canonicalRegistered false

/-- The last statement of `seal_import_story_arc_placement_origin`. -/
def sealOrigin (works : Works) (jobId : Nat) : Works :=
  works.update
    (fun row => row.origin.importJobId = some jobId && !row.claimable && row.state = .queued)
    (fun row => { row with claimable := true }) fun _ => rfl

end Works

end Pullbox.Sync
