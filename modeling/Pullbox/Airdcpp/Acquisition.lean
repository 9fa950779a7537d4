import Pullbox.Files.Pure
import Pullbox.Sql.Unique
import Pullbox.Text.Json

/-!
# Acquisitions of an AirDC++ client

The durable intent to download one file through a client (`models/airdcpp.py`), with the
download it stands for, and the table in which no two acquisitions own one bundle of a client.
-/

namespace Pullbox.Airdcpp

open Text

/-- Instants, in microseconds. -/
abbrev Timestamp := Int

/-- The states of a download in the queue. -/
inductive DownloadState where
  | queued | sent | downloading | finalizing | paused | completed | failed | retryPending
  | postProcessing | imported
deriving DecidableEq

/-- `_TERMINAL_STATES`. -/
def DownloadState.terminal : DownloadState → Bool
  | .completed | .imported | .failed => true
  | _ => false

/-- What a reconciliation reads and writes of a download. -/
structure DownloadHistory where
  state : DownloadState
  externalId : Option String := none
  fileSize : Option Nat := none
  downloadedPath : Option String := none
  errorMessage : Option String := none
  retryCount : Nat := 0
  nextRetryAt : Option Timestamp := none
  completedAt : Option Timestamp := none
  importedAt : Option Timestamp := none

/-- An acquisition and its download; `uq_airdcpp_acquisition_history` makes them one to one. -/
structure AirDcppAcquisition where
  id : Nat
  clientConfigId : Option Nat
  clientIdentity : String
  tth : String
  sizeBytes : Nat
  originalName : String
  searchInstanceId : Option Nat := none
  groupedResultId : Option String := none
  resultExpiresAt : Option Timestamp := none
  bundleId : Option Nat := none
  clientState : Option String := none
  remoteTarget : Option String := none
  routeSnapshot : List (String × Json) := []
  retryCount : Nat := 0
  maxRetries : Nat := 3
  nextRetryAt : Option Timestamp := none
  lastReconciledAt : Option Timestamp := none
  reconciliationError : Option String := none
  download : DownloadHistory

/-- The columns of `uq_airdcpp_acquisition_client_bundle`; no bundle is no conflict. -/
def AirDcppAcquisition.ownedBundle (acquisition : AirDcppAcquisition) : Option (String × Nat) :=
  acquisition.bundleId.map fun bundleId => (acquisition.clientIdentity, bundleId)

abbrev AcquisitionTable :=
  Sql.UniqueTable AirDcppAcquisition AirDcppAcquisition.id AirDcppAcquisition.ownedBundle

/-! ### What the client answers -/

/-- A bundle as the hub's queue lists it. -/
structure AirDcppQueueBundle where
  id : Nat
  target : String
  size : Nat
  downloadedBytes : Nat
  priorityId : Int
  speed : Nat
  secondsLeft : Nat
  sourcesOnline : Nat
  sourcesTotal : Nat
  statusId : String
  failed : Bool
  downloaded : Bool
  completed : Bool

/-- A file of a bundle. -/
structure AirDcppQueueFile where
  bundleId : Nat
  target : String
  size : Nat
  statusId : String

/-- The answer to adding a bundle. -/
structure AirDcppQueueBundleAddInfo where
  id : Nat
  merged : Bool

/-- What a request of the API raises. -/
inductive AirDcppError where
  | entityNotFound
  | other (code : String)

def AirDcppError.code : AirDcppError → String
  | .entityNotFound => "not_found"
  | .other code => code

/-- The answers a pass gets: to the lookup and the queue requests made for an acquisition, and
the pages of the queue. -/
structure QueueAnswers where
  filesByTth : Nat → Except AirDcppError (List AirDcppQueueFile)
  downloadSearchResult : Nat → Except AirDcppError AirDcppQueueBundleAddInfo
  createFileBundle : Nat → Except AirDcppError AirDcppQueueBundleAddInfo
  queueBundles : Nat → List AirDcppQueueBundle

end Pullbox.Airdcpp
