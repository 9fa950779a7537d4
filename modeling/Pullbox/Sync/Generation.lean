import Pullbox.Arc.Membership
import Mathlib.Data.Rat.Defs

/-!
# The generation of a placement

What a work row is created for: a library file as it is now, at its position in a story arc. The
generation is a digest of all of it; the columns of the row keep a part of it.
-/

namespace Pullbox.Sync

open Arc

/-- A JSON value; an array or object is its text. -/
inductive JsonValue where
  | null
  | boolean (value : Bool)
  | integer (value : Int)
  | real (value : Rat)
  | text (value : String)
  | compound (text : String)
deriving DecidableEq

/-- `source_signature`, a JSON object; the other entries are listed by their keys. -/
structure SourceSignature where
  schemaVersion : Option JsonValue := none
  resolvedPath : Option JsonValue := none
  size : Option JsonValue := none
  mtimeNs : Option JsonValue := none
  device : Option JsonValue := none
  inode : Option JsonValue := none
  others : List (String × JsonValue) := []
deriving DecidableEq

/-- What `_source_signature_hash` reads. -/
structure SourceVersion where
  filePath : String
  fileSize : Int
  /-- The instant, in microseconds. -/
  fileModifiedAt : Int
  fileHash : Option String
  sourceSignature : SourceSignature
deriving DecidableEq

/-- A file with what its signature records. -/
structure SyncLibraryFile extends SourceVersion where
  id : Nat
  issueId : Option Nat
deriving DecidableEq

/-- What a generation reads of an entry. -/
structure SyncMembership where
  id : Nat
  storyArcId : Nat
  issueId : Option Nat
  sequenceNumber : Int
  syncEligible : Bool
  resolutionState : StoryArcResolutionState
deriving DecidableEq

/-- What a generation reads of an arc. -/
structure SyncStoryArc where
  id : Nat
  lifecycle : StoryArcLifecycle
  syncEnabled : Bool
  revision : Int
  policySchemaVersion : Option Int
  policySnapshot : List (String × JsonValue)
deriving DecidableEq

/-- A library file with a membership of its issue and the arc of the membership. -/
structure SyncPair where
  libraryFile : SyncLibraryFile
  membership : SyncMembership
  storyArc : SyncStoryArc
deriving DecidableEq

/-- `STORY_ARC_PLACEMENT_POLICY_SCHEMA_VERSION`. -/
def placementPolicySchemaVersion : Int := 1

/-- `_POLICY_KEYS`. -/
def policyKeys : List String :=
  ["schema_version", "mode", "target_library_root_id", "destination_root", "folder_template",
    "file_template", "symlink_style", "synchronize"]

/-- Python's `value == 1`. -/
def JsonValue.equalsOne : JsonValue → Bool
  | .boolean value => value
  | .integer value => value == 1
  | .real value => value == 1
  | _ => false

/-- `_automatic_sync_enabled`. -/
def SyncStoryArc.automaticSyncEnabled (storyArc : SyncStoryArc) : Bool :=
  let snapshot := storyArc.policySnapshot
  decide (storyArc.lifecycle = .active) && storyArc.syncEnabled &&
    decide (storyArc.policySchemaVersion = some placementPolicySchemaVersion) &&
    (snapshot.all (fun entry => policyKeys.contains entry.1) &&
      policyKeys.all fun key => (snapshot.lookup key).isSome) &&
    (snapshot.lookup "schema_version").any JsonValue.equalsOne &&
    decide (snapshot.lookup "synchronize" = some (.boolean true)) &&
    decide (snapshot.lookup "mode" ≠ some (.text "logical")) &&
    (match snapshot.lookup "destination_root" with
      | some (.text root) => !(Text.strip root.toList).isEmpty
      | _ => false) &&
    (match snapshot.lookup "target_library_root_id" with
      | some (.integer _) => true
      | _ => false)

/-- What `_desired_generation` hashes, with the digest of the source. -/
structure GenerationContent (Source : Type) where
  libraryFileId : Nat
  sourceSignatureHash : Source
  issueStoryArcId : Nat
  sequenceNumber : Int
  storyArcRevision : Int
  policySchemaVersion : Option Int
deriving DecidableEq

/-- `_stable_hash`, which gives different values different digests. -/
structure Digests (Source Generation : Type) where
  source : SourceVersion → Source
  generation : GenerationContent Source → Generation
  source_injective : Function.Injective source
  generation_injective : Function.Injective generation

variable {Source Generation : Type} (digests : Digests Source Generation)

/-- `_desired_generation`. -/
def SyncPair.desiredGeneration (pair : SyncPair) : Generation :=
  digests.generation
    { libraryFileId := pair.libraryFile.id
      sourceSignatureHash := digests.source pair.libraryFile.toSourceVersion
      issueStoryArcId := pair.membership.id
      sequenceNumber := pair.membership.sequenceNumber
      storyArcRevision := pair.storyArc.revision
      policySchemaVersion := pair.storyArc.policySchemaVersion }

/-- The columns of a work row that say what it was created for. -/
structure GenerationRow (Generation : Type) where
  issueStoryArcId : Nat
  libraryFileId : Nat
  desiredGeneration : Generation
  sourceFilePath : String
  sourceFileSize : Int
  sourceFileModifiedAt : Int
  sourceFileHash : Option String
  sourceSignatureSchemaVersion : Option Int
  sourceSignatureResolvedPath : Option String
  sourceSignatureSize : Option Int
  sourceSignatureMtimeNs : Option Int
  sourceSignatureDevice : Option Int
  sourceSignatureInode : Option Int
  storyArcRevision : Int
  membershipSequence : Int
  policySchemaVersion : Int
deriving DecidableEq

/-- `_source_signature_int`. -/
def signatureInt : Option JsonValue → Option Int
  | some (.integer value) => some value
  | _ => none

/-- `_source_signature_path`. -/
def signaturePath : Option JsonValue → Option String
  | some (.text value) => some value
  | _ => none

/-- The row that `_enqueue_pairs` adds. -/
def SyncPair.row (pair : SyncPair) : GenerationRow Generation :=
  let libraryFile := pair.libraryFile
  let signature := libraryFile.sourceSignature
  { issueStoryArcId := pair.membership.id
    libraryFileId := libraryFile.id
    desiredGeneration := pair.desiredGeneration digests
    sourceFilePath := libraryFile.filePath
    sourceFileSize := libraryFile.fileSize
    sourceFileModifiedAt := libraryFile.fileModifiedAt
    sourceFileHash := libraryFile.fileHash
    sourceSignatureSchemaVersion := signatureInt signature.schemaVersion
    sourceSignatureResolvedPath := signaturePath signature.resolvedPath
    sourceSignatureSize := signatureInt signature.size
    sourceSignatureMtimeNs := signatureInt signature.mtimeNs
    sourceSignatureDevice := signatureInt signature.device
    sourceSignatureInode := signatureInt signature.inode
    storyArcRevision := pair.storyArc.revision
    membershipSequence := pair.membership.sequenceNumber
    policySchemaVersion :=
      match pair.storyArc.policySchemaVersion with
      | some version => if version = 0 then placementPolicySchemaVersion else version
      | none => placementPolicySchemaVersion }

/-- A row of the generation of the pair exists. -/
def SyncPair.hasGeneration [DecidableEq Generation] (pair : SyncPair)
    (works : List (GenerationRow Generation)) : Bool :=
  works.any fun row =>
    row.issueStoryArcId = pair.membership.id &&
      row.desiredGeneration = pair.desiredGeneration digests

end Pullbox.Sync
