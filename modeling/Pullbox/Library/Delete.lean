import Pullbox.Files.Tree
import Pullbox.Sql.Like

/-!
# Library deletion

One file or folder of a library browser, deleted or moved to the trash, and the rows of registered
files, issues and series that follow. A path is a string; `locate` says which place of the disk the
file system finds it at. The removals answer as the disk does: done, or failed with part of the
entries gone. The name in the trash is part of the answer.
-/

namespace Pullbox.Library

open Files

abbrev Name := List Char

/-- What an entry is. -/
inductive EntryKind where
  | file | directory | symlink

abbrev Disk := Tree Name EntryKind

/-- Where the file system finds a path. -/
abbrev Locate := String → List Name

inductive LibraryFileStorageMode where
  | managed | referenced
deriving DecidableEq

inductive IssueStatus where
  | unknown | wanted | downloading | owned | skipped

/-- A registered file, of an issue or of none. -/
structure LibraryFile where
  id : Nat
  filePath : String
  storageMode : LibraryFileStorageMode
  issueId : Option Nat
deriving DecidableEq

/-- What a deletion reads and writes of an issue. -/
structure Issue where
  seriesId : Nat
  manualSkip : Bool
  status : IssueStatus

structure Series where
  path : Option String
  monitored : Bool

/-- The rows a deletion reads and writes; issues and series by their key. -/
structure Catalog where
  files : List LibraryFile
  issues : Nat → Option Issue
  series : Nat → Option Series

/-- The rows and the files. -/
structure LibraryStore where
  catalog : Catalog
  disk : Disk

/-- What the browser says the target is. -/
inductive TargetKind where
  | root | folder | file
deriving DecidableEq

/-- Why a deletion is refused. -/
inductive DeleteError where
  /-- Library roots cannot be deleted from the browser. -/
  | root
  /-- Selected library item no longer exists on disk. -/
  | gone
  /-- The trash already has an entry of that name. -/
  | conflict
  /-- Any other failure of the file system. -/
  | os

/-- The answer of the disk to the removal of an existing entry. -/
inductive RemovalAnswer where
  /-- Removed, or moved to this path of the trash. -/
  | done (trashPath : String)
  /-- Failed, with the entries that are still there. -/
  | failed (conflict : Bool) (kept : List Name → Bool)

/-- What a deletion returns. -/
structure LibraryDeleteOutcome where
  kind : TargetKind
  sourcePath : String
  deletedViaTrash : Bool
  resultPath : Option String
  managedFilesDeleted : Nat
  referencedFilesDetached : Nat

/-- What a deletion is asked for and how the disk answers. -/
structure DeleteRequest where
  target : String
  kind : TargetKind
  /-- A trash directory is configured. -/
  trash : Bool
  removal : String → RemovalAnswer

/-- `_path_prefix`. -/
def pathPrefix (path : String) : List Char :=
  (path.toList.reverse.dropWhile (· == '/')).reverse

/-- The rows a target selects: the path itself and, for a folder, `prefix/%`. -/
def selects (target : String) (kind : TargetKind) (path : String) : Bool :=
  path.toList == pathPrefix target ||
    (kind == .folder && Sql.like (pathPrefix target ++ ['/', '%']) path.toList)

/-- `_status_after_library_file_removed`. -/
def Catalog.statusAfterLibraryFileRemoved (catalog : Catalog) (issue : Issue) : IssueStatus :=
  if issue.manualSkip then
    .skipped
  else if (catalog.series issue.seriesId).any (·.monitored) then
    .wanted
  else
    .skipped

/-- `_delete_path_permanently` or `move_path_to_utility_trash`. -/
def DeleteRequest.removePath (request : DeleteRequest) (locate : Locate) (path : String)
    (disk : Disk) : Except DeleteError (Option String) × Disk :=
  if disk (locate path) = none then
    (.error (if request.trash then .os else .gone), disk)
  else
    match request.removal path with
    | .done trashPath =>
      (.ok (if request.trash then some trashPath else none),
        disk.without (locate path) fun _ => false)
    | .failed conflict kept =>
      (.error (if request.trash && conflict then .conflict else .os),
        disk.without (locate path) kept)

/-- The removal of the managed files of a target that also has referenced ones: each on its
own, skipping those that are gone. It says whether one went to the trash. -/
def DeleteRequest.removeManaged (request : DeleteRequest) (locate : Locate) :
    List LibraryFile → Disk → Except DeleteError Bool × Disk
  | [], disk => (.ok false, disk)
  | file :: rest, disk =>
    if disk (locate file.filePath) = none then
      request.removeManaged locate rest disk
    else
      match request.removePath locate file.filePath disk with
      | (.error error, disk) => (.error error, disk)
      | (.ok _, disk) =>
        match request.removeManaged locate rest disk with
        | (.error error, disk) => (.error error, disk)
        | (.ok _, disk) => (.ok request.trash, disk)

/-- `tracked_files`. -/
def DeleteRequest.trackedFiles (request : DeleteRequest) (catalog : Catalog) :
    List LibraryFile :=
  catalog.files.filter fun file => selects request.target request.kind file.filePath

/-- `managed_files`. -/
def DeleteRequest.managedFiles (request : DeleteRequest) (catalog : Catalog) :
    List LibraryFile :=
  (request.trackedFiles catalog).filter fun file => file.storageMode == .managed

/-- `referenced_files`. -/
def DeleteRequest.referencedFiles (request : DeleteRequest) (catalog : Catalog) :
    List LibraryFile :=
  (request.trackedFiles catalog).filter fun file => file.storageMode == .referenced

/-- The series whose path is cleared: those of a folder without referenced files. -/
def DeleteRequest.clears (request : DeleteRequest) (catalog : Catalog) (path : String) : Bool :=
  (request.referencedFiles catalog).isEmpty && request.kind == .folder &&
    selects request.target request.kind path

/-- The rows after a deletion: the issues of the tracked files fall back to their intent, the
files are forgotten, and the paths of the cleared series. -/
def DeleteRequest.forget (request : DeleteRequest) (catalog : Catalog) : Catalog where
  files := catalog.files.filter fun file => file ∉ request.trackedFiles catalog
  issues id :=
    (catalog.issues id).map fun issue =>
      if (request.trackedFiles catalog).any fun file => file.issueId == some id then
        { issue with status := catalog.statusAfterLibraryFileRemoved issue }
      else
        issue
  series id :=
    (catalog.series id).map fun series =>
      if series.path.any (request.clears catalog) then { series with path := none } else series

/-- `delete_library_entry` in file or folder mode. A failed request is rolled back: its rows
stay, what it removed from disk does not come back. -/
def deleteLibraryEntry (request : DeleteRequest) (locate : Locate) (store : LibraryStore) :
    Except DeleteError LibraryDeleteOutcome × LibraryStore :=
  let referenced := request.referencedFiles store.catalog
  let outcome (deletedViaTrash : Bool) (resultPath : Option String) : LibraryDeleteOutcome :=
    { kind := request.kind
      sourcePath := request.target
      deletedViaTrash := deletedViaTrash
      resultPath := resultPath
      managedFilesDeleted := (request.managedFiles store.catalog).length
      referencedFilesDetached := referenced.length }
  if request.kind = .root then
    (.error .root, store)
  else if referenced.isEmpty then
    match request.removePath locate request.target store.disk with
    | (.error error, disk) => (.error error, ⟨store.catalog, disk⟩)
    | (.ok resultPath, disk) =>
      (.ok (outcome resultPath.isSome resultPath), ⟨request.forget store.catalog, disk⟩)
  else
    match request.removeManaged locate (request.managedFiles store.catalog) store.disk with
    | (.error error, disk) => (.error error, ⟨store.catalog, disk⟩)
    | (.ok viaTrash, disk) => (.ok (outcome viaTrash none), ⟨request.forget store.catalog, disk⟩)

end Pullbox.Library
