import Pullbox.Sync.Generation
import Mathlib.Data.List.Sort

/-!
# Discovery of missing work

The query looks for pairs without a row of their columns; the enqueue step looks for a row of
their generation. The two agree where the signature has the types of the columns, no row stems
from a version that differs in other entries of the signature alone, and the policies of the arcs
allow what their switches say.
-/

namespace Pullbox.Sync

open Arc

/-- SQLite's comparison of a column with what `JSON_EXTRACT` gives, where neither is NULL. -/
structure SqlComparison where
  integerEquals : Int → JsonValue → Bool
  textEquals : String → JsonValue → Bool
  integer_integer : ∀ kept value, integerEquals kept (.integer value) = decide (kept = value)
  text_text : ∀ kept value, textEquals kept (.text value) = decide (kept = value)

/-- `JSON_EXTRACT` gives NULL. -/
def extractsNull : Option JsonValue → Bool
  | none | some .null => true
  | _ => false

/-- A column equals an entry of the signature, or both are NULL. -/
def columnMatches {Column : Type} (equals : Column → JsonValue → Bool) (column : Option Column)
    (entry : Option JsonValue) : Bool :=
  match column, entry with
  | some kept, some value => !extractsNull (some value) && equals kept value
  | some _, none => false
  | none, entry => extractsNull entry

namespace SyncPair

/-- `current_work`, of one row. -/
def current {Generation : Type} (sql : SqlComparison) (pair : SyncPair)
    (row : GenerationRow Generation) : Bool :=
  let libraryFile := pair.libraryFile
  let signature := libraryFile.sourceSignature
  decide (row.issueStoryArcId = pair.membership.id) &&
    decide (row.libraryFileId = libraryFile.id) &&
    decide (row.storyArcRevision = pair.storyArc.revision) &&
    decide (row.membershipSequence = pair.membership.sequenceNumber) &&
    decide (some row.policySchemaVersion = pair.storyArc.policySchemaVersion) &&
    decide (row.sourceFilePath = libraryFile.filePath) &&
    decide (row.sourceFileSize = libraryFile.fileSize) &&
    decide (row.sourceFileModifiedAt = libraryFile.fileModifiedAt) &&
    decide (row.sourceFileHash = libraryFile.fileHash) &&
    columnMatches sql.integerEquals row.sourceSignatureSchemaVersion signature.schemaVersion &&
    columnMatches sql.textEquals row.sourceSignatureResolvedPath signature.resolvedPath &&
    columnMatches sql.integerEquals row.sourceSignatureSize signature.size &&
    columnMatches sql.integerEquals row.sourceSignatureMtimeNs signature.mtimeNs &&
    columnMatches sql.integerEquals row.sourceSignatureDevice signature.device &&
    columnMatches sql.integerEquals row.sourceSignatureInode signature.inode

/-- The filters of the query on the membership and its arc. -/
def eligible (pair : SyncPair) : Bool :=
  pair.membership.syncEligible && decide (pair.membership.resolutionState = .resolved) &&
    decide (pair.storyArc.lifecycle = .active) && pair.storyArc.syncEnabled &&
    decide (pair.storyArc.policySchemaVersion = some placementPolicySchemaVersion)

end SyncPair

namespace SyncPair

variable {Source Generation : Type} {digests : Digests Source Generation} {sql : SqlComparison}
  {pair version other : SyncPair}

/-- A row of the same generation is the same row. -/
theorem row_eq (same : version.desiredGeneration digests = pair.desiredGeneration digests) :
    version.row digests = pair.row digests := by
  have content := digests.generation_injective same
  simp only [GenerationContent.mk.injEq] at content
  obtain ⟨libraryFile, source, membership, sequence, revision, policy⟩ := content
  have sourceVersion := digests.source_injective source
  unfold row
  simp only [libraryFile, membership, sequence, revision, policy, same, sourceVersion]

end SyncPair

/-- The tables that discovery joins, in the order of their identifiers. -/
structure SyncTables where
  libraryFiles : List SyncLibraryFile
  memberships : List SyncMembership
  storyArcs : List SyncStoryArc
  libraryFileIds : (libraryFiles.map (·.id)).Pairwise (· < ·)
  membershipIds : (memberships.map (·.id)).Pairwise (· < ·)
  storyArcIds : (storyArcs.map (·.id)).Pairwise (· < ·)

namespace SyncTables

variable {Source Generation : Type} [DecidableEq Generation] (digests : Digests Source Generation)
  (sql : SqlComparison) (tables : SyncTables)

/-- The joined rows, by membership and library file. -/
def joined : List SyncPair :=
  tables.memberships.flatMap fun membership =>
    (tables.storyArcs.filter fun storyArc => membership.storyArcId = storyArc.id).flatMap
      fun storyArc =>
        (tables.libraryFiles.filter fun libraryFile =>
          libraryFile.issueId.isSome && libraryFile.issueId = membership.issueId).map
            fun libraryFile => ⟨libraryFile, membership, storyArc⟩

/-- The pairs that the query selects, without its limit. -/
def selected (works : List (GenerationRow Generation)) : List SyncPair :=
  tables.joined.filter fun pair => pair.eligible && !works.any (pair.current sql)

/-- `_enqueue_pairs`, of one pair. -/
def enqueuePair (works : List (GenerationRow Generation)) (pair : SyncPair) :
    List (GenerationRow Generation) :=
  if pair.hasGeneration digests works then works else works ++ [pair.row digests]

/-- `discover_story_arc_sync_work`. -/
def discover (limit : Nat) (works : List (GenerationRow Generation)) :
    List (GenerationRow Generation) :=
  ((tables.selected sql works).take limit).foldl
    (fun works pair =>
      if pair.storyArc.automaticSyncEnabled then enqueuePair digests works pair else works)
    works

/-- Passes one after another, each with its limit. -/
def passes (limits : Nat → Nat) : Nat → List (GenerationRow Generation) →
    List (GenerationRow Generation)
  | 0, works => works
  | count + 1, works => tables.discover digests sql (limits count) (passes limits count works)

/-- The enqueue step would create work for the pair. -/
def creates (works : List (GenerationRow Generation)) (pair : SyncPair) : Bool :=
  pair.eligible && pair.storyArc.automaticSyncEnabled && !pair.hasGeneration digests works

/-- The query selects the pairs that work would be created for. -/
def Agrees (works : List (GenerationRow Generation)) : Prop :=
  ∀ pair ∈ tables.joined, pair ∈ tables.selected sql works ↔ creates digests works pair = true

end SyncTables

end Pullbox.Sync
