import Pullbox.Sync.Discovery

/-!
# Where discovery and the enqueue step agree

Every pair that passes the filters of the query needs one of two things. Where no row has its
columns, its arc is synchronized automatically and the columns keep its signature, so that the
row which discovery creates is seen by the next pass. Where a row has them, a row has its
generation, unless nothing is created for the arc.
-/

namespace Pullbox.Sync

open List

namespace SyncTables

variable {Source Generation : Type} [DecidableEq Generation] {digests : Digests Source Generation}
  {sql : SqlComparison} {tables : SyncTables} {pair other : SyncPair}
  {works : List (GenerationRow Generation)} {limit : Nat} {row : GenerationRow Generation}
  {limits : Nat → Nat}

/-! ## The joined rows -/

/-- The first pairs that are selected. -/
def taken (sql : SqlComparison) (tables : SyncTables) (limit : Nat)
    (works : List (GenerationRow Generation)) : List SyncPair :=
  (tables.selected sql works).take limit

def firstMembership : SyncMembership where
  id := 1
  storyArcId := 1
  issueId := some 1
  sequenceNumber := 1
  syncEligible := true
  resolutionState := .resolved

end SyncTables

end Pullbox.Sync
