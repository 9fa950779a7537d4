import Pullbox.Files.Links
import Pullbox.Library.Delete
import Pullbox.Text.Characters

/-!
# The folders of a series deletion

Which folders a deletion takes for the series': the recorded one and the children of the library
root that its name, the naming template or its external id points to; when none of them exists, the
folders of the linked files and the deepest one above them all. The folder of the naming template
and the listing of the root are given.
-/

namespace Pullbox.Series

open Files

abbrev Name := List Char

abbrev Path := Files.Path Name

abbrev Place := List Name

abbrev Disk := Tree Name (Node Name)

abbrev LibraryFile := Library.LibraryFile

/-- A root folder of the library. -/
structure LibraryRoot where
  id : Nat
  path : String
deriving DecidableEq

/-- What a deletion reads of a series. -/
structure SeriesRow where
  path : Option String
  comicvineId : Option Nat
  libraryRootId : Option Nat

/-- The rows a deletion reads and writes; series and issues by their key, an issue with the
key of its series. -/
structure Catalog where
  roots : List LibraryRoot
  series : Nat → Option SeriesRow
  issues : Nat → Option Nat
  files : List LibraryFile

/-- What the process around a deletion answers. -/
structure Host where
  /-- `Path(text)`, from the top. -/
  path : String → Path
  /-- `Path(text).expanduser()`, from the top. -/
  expanded : String → Path
  /-- The folder name that the naming template gives the series. -/
  folderName : Option Name
  /-- The names that listing the library root gives. -/
  listing : List Name

def Catalog.root (catalog : Catalog) (id : Nat) : Option LibraryRoot :=
  catalog.roots.find? fun root => root.id == id

/-- The library root of a series. -/
def Catalog.rootOf (catalog : Catalog) (series : SeriesRow) : Option LibraryRoot :=
  series.libraryRootId.bind catalog.root

/-- The files registered to an issue of the series. -/
def Catalog.linkedFiles (catalog : Catalog) (seriesId : Nat) : List LibraryFile :=
  catalog.files.filter fun file =>
    file.issueId.any fun issue => catalog.issues issue == some seriesId

/-! ### Paths -/

/-- The steps that a text adds to a path. -/
def steps (text : List Char) : Path :=
  (text.splitOn '/').filterMap fun name =>
    if name = [] ∨ name = ['.'] then none
    else if name = ['.', '.'] then some .up
    else some (.name name)

/-- `folder / text`; a text from the top replaces the folder. -/
def join (folder : Path) (text : List Char) : Path :=
  if text.head? = some '/' then steps text else folder ++ steps text

/-- `Path.name`. -/
def pathName (path : Path) : Name :=
  match path.getLast? with
  | none => []
  | some .up => ['.', '.']
  | some (.name name) => name

/-- The text of an absolute path, without the slashes at its end. -/
def spelled (path : Path) : List Char :=
  path.flatMap fun step =>
    match step with
    | .up => ['/', '.', '.']
    | .name name => '/' :: name

/-- `path_exists_or_symlink`. -/
def pathExistsOrSymlink (disk : Disk) (path : Path) : Bool :=
  (disk.find path).isSome || disk.isLink path

/-- `path_key`. -/
def pathKey (disk : Disk) (path : Path) : Place :=
  disk.resolve path

def dedupeExistingFrom (disk : Disk) : List Place → List Path → List Path
  | _, [] => []
  | seen, path :: rest =>
    if pathExistsOrSymlink disk path = false then
      dedupeExistingFrom disk seen rest
    else if pathKey disk path ∈ seen then
      dedupeExistingFrom disk seen rest
    else
      path :: dedupeExistingFrom disk (pathKey disk path :: seen) rest

/-- `dedupe_existing_paths`. -/
def dedupeExistingPaths (disk : Disk) (paths : List Path) : List Path :=
  dedupeExistingFrom disk [] paths

/-! ### The folders -/

/-- `_CV_SUFFIX_RE`: the id at the end of a name, `[12]` or `[cv-12]`. -/
def cvSuffix (name : Name) : Option Nat :=
  -- the pattern also ends before a last newline
  let ending :=
    match name.reverse with
    | '\n' :: rest => rest
    | rest => rest
  match ending with
  | ']' :: rest =>
    let digits := rest.takeWhile fun char => (Text.digitValue char).isSome
    let value := Text.decimalValue digits.reverse
    match digits, rest.dropWhile fun char => (Text.digitValue char).isSome with
    | [], _ => none
    | _, '[' :: _ => some value
    | _, '-' :: v :: c :: '[' :: _ =>
      if v.toLower = 'v' ∧ c.toLower = 'c' then some value else none
    | _, _ => none
  | _ => none

/-- The recorded folder of a series. -/
def SeriesRow.recorded (series : SeriesRow) : Option String :=
  series.path.filter fun text => text ≠ ""

/-- `candidate_names`. -/
def candidateNames (host : Host) (series : SeriesRow) : List Name :=
  let recorded := series.recorded.toList.map fun text => pathName (host.path text)
  let expected :=
    match host.folderName.filter fun name => name ≠ [] with
    | none => []
    | some name =>
      match series.comicvineId, cvSuffix name with
      | some id, none => [name, name ++ " [cv-".toList ++ (toString id).toList ++ [']']]
      | _, _ => [name]
  recorded ++ expected

/-- Each name once, without the white space around it. -/
def normalizedNames : List Name → List Name → List Name
  | _, [] => []
  | seen, name :: rest =>
    let normalized := Text.strip name
    if normalized = [] ∨ normalized ∈ seen then
      normalizedNames seen rest
    else
      normalized :: normalizedNames (normalized :: seen) rest

/-- The children of the library root that end in the external id of the series. -/
def suffixedChildren (host : Host) (disk : Disk) (root : Path) (series : SeriesRow) :
    List Path :=
  match series.comicvineId with
  | none => []
  | some id =>
    (host.listing.filter fun name => name.head? ≠ some '.' ∧
      (disk.isDirectory (root ++ [.name name]) || disk.isLink (root ++ [.name name])) ∧
        cvSuffix name = some id).map fun name => root ++ [.name name]

/-- `resolve_delete_folder_paths`. -/
def resolveDeleteFolderPaths (host : Host) (disk : Disk) (catalog : Catalog)
    (series : SeriesRow) : List Path :=
  let recorded := series.recorded.toList.map host.expanded
  match catalog.rootOf series with
  | none => dedupeExistingPaths disk recorded
  | some root =>
    let rootPath := host.expanded root.path
    if pathExistsOrSymlink disk rootPath = false ∨ disk.isDirectory rootPath = false then
      dedupeExistingPaths disk recorded
    else
      dedupeExistingPaths disk (recorded ++
        (normalizedNames [] (candidateNames host series)).map (join rootPath) ++
          suffixedChildren host disk rootPath series)

/-- What two places have in common from the top. -/
def commonPrefix : Place → Place → Place
  | name :: rest, other :: others =>
    if name = other then name :: commonPrefix rest others else []
  | _, _ => []

/-- `os.path.commonpath`. -/
def commonPath : List Place → Place
  | [] => []
  | [place] => place
  | place :: rest => commonPrefix place (commonPath rest)

/-- `infer_delete_folder_paths_from_linked_files`. -/
def inferDeleteFolderPathsFromLinkedFiles (host : Host) (disk : Disk)
    (linked : List LibraryFile) (root : Option LibraryRoot) : List Path :=
  let parents := (linked.map fun file => (host.expanded file.filePath).dropLast).filter
    (pathExistsOrSymlink disk)
  let common := commonPath (parents.map disk.resolve)
  let above :=
    if parents ≠ [] ∧ common ≠ [] ∧
        root.all fun root => disk.resolve (host.expanded root.path) ≠ common then
      [common.map Step.name]
    else
      []
  dedupeExistingPaths disk (parents ++ above)

/-- The folders of `build_series_delete_target`. -/
def buildSeriesDeleteTarget (host : Host) (disk : Disk) (catalog : Catalog) (seriesId : Nat)
    (series : SeriesRow) : List Path :=
  match resolveDeleteFolderPaths host disk catalog series with
  | [] =>
    inferDeleteFolderPathsFromLinkedFiles host disk (catalog.linkedFiles seriesId)
      (catalog.rootOf series)
  | folders => folders

end Pullbox.Series

/-!
## Series deletion

A series is deleted with its folders, its files, or its rows alone. Folders and files go to
the trash or for good. The disk answers each removal: done, refused for want of permission,
or failed, with what it kept. The trash itself is left out of the disk.
-/

namespace Pullbox.Series

open Files

/-- Why a deletion is refused. -/
inductive DeleteError where
  /-- There is no such series. -/
  | notFound
  /-- The trash already has an entry of that name. -/
  | conflict
  /-- Any other failure of the file system. -/
  | os

/-- The answer of the disk to the removal of an entry. -/
inductive RemovalAnswer where
  | done
  /-- `PermissionError`, with the entries that are still there. -/
  | denied (kept : Place → Bool)
  /-- Any other error. -/
  | failed (conflict : Bool) (kept : Place → Bool)

/-- The rows and the files. -/
structure Store where
  catalog : Catalog
  disk : Disk

/-- What a deletion is asked for and how its surroundings answer. -/
structure DeleteRequest where
  seriesId : Nat
  deleteFiles : Bool
  deleteFolder : Bool
  /-- A trash directory is given. -/
  trash : Bool
  folderPathOverride : Option Path
  host : Host
  removal : Path → RemovalAnswer

/-- `referenced_library_files_for_target`, with the descendants. The target is resolved on
the disk that the deletion starts on. -/
def Catalog.referencedLibraryFilesForTarget (catalog : Catalog) (start : Disk)
    (target : Path) : List LibraryFile :=
  catalog.files.filter fun file =>
    file.storageMode == .referenced &&
      [spelled target, spelled ((start.resolve target).map Step.name)].any fun text =>
        file.filePath.toList == text ||
          Sql.startsWith (text ++ ['/']) file.filePath.toList

/-- What the removal of an entry leaves. -/
def RemovalAnswer.leaves (answer : RemovalAnswer) (disk : Disk) (place : Place) : Disk :=
  match answer with
  | .done => disk.without place fun _ => false
  | .denied kept => disk.without place kept
  | .failed _ kept => disk.without place kept

/-- The error that stops the removal of a folder: one to the trash or of a link stops at any
failure, one of a directory goes on without permission. -/
def RemovalAnswer.stops (answer : RemovalAnswer) (trash link : Bool) : Option DeleteError :=
  match answer with
  | .done => none
  | .denied _ => if trash || link then some .os else none
  | .failed conflict _ => some (if trash && conflict then .conflict else .os)

/-- The entry that the removal of a folder takes: anything goes to the trash, only links
and directories go for good. -/
def DeleteRequest.takes (request : DeleteRequest) (disk : Disk) (path : Path) : Option Place :=
  if request.trash || disk.isLink path || disk.isDirectory path then disk.entry path else none

/-- Remove one folder. -/
def DeleteRequest.removeFolder (request : DeleteRequest) (path : Path) (disk : Disk) :
    Option DeleteError × Disk :=
  match request.takes disk path with
  | none => (if request.trash then some .os else none, disk)
  | some place =>
    ((request.removal path).stops request.trash (disk.isLink path),
      (request.removal path).leaves disk place)

/-- Remove the folders but those with a referenced file, up to the first error. -/
def DeleteRequest.removeFolders (request : DeleteRequest) (catalog : Catalog) (start : Disk) :
    List Path → Disk → Option DeleteError × Disk
  | [], disk => (none, disk)
  | path :: rest, disk =>
    if catalog.referencedLibraryFilesForTarget start path ≠ [] then
      request.removeFolders catalog start rest disk
    else
      match request.removeFolder path disk with
      | (some error, disk) => (some error, disk)
      | (none, disk) => request.removeFolders catalog start rest disk

/-- `moved_folder_keys`, when every move was done. -/
def DeleteRequest.movedFolderKeys (request : DeleteRequest) (catalog : Catalog) (start : Disk)
    (folders : List Path) : List Place :=
  if request.trash && request.deleteFolder then
    (folders.filter fun path => catalog.referencedLibraryFilesForTarget start path = []).map
      (pathKey start)
  else
    []

/-- A linked file that went to the trash with its folder. -/
def insideMoved (start : Disk) (folders : List Path) (moved : List Place) (path : Path) : Bool :=
  folders.any fun folder => decide (pathKey start folder ∈ moved) && folder.isPrefixOf path

/-- Remove the linked files that are managed and not gone with their folder; a failure is
only noted. -/
def DeleteRequest.removeFiles (request : DeleteRequest) (skipped : Path → Bool) :
    List LibraryFile → Disk → Disk
  | [], disk => disk
  | file :: rest, disk =>
    let path := request.host.path file.filePath
    if file.storageMode = .referenced ∨ skipped path = true ∨ disk.isFile path = false then
      request.removeFiles skipped rest disk
    else
      match disk.entry path with
      | none => request.removeFiles skipped rest disk
      | some place =>
        request.removeFiles skipped rest ((request.removal path).leaves disk place)

/-- `folder_paths`. -/
def DeleteRequest.folderPaths (request : DeleteRequest) (store : Store) (series : SeriesRow) :
    List Path :=
  match request.folderPathOverride with
  | some folder => dedupeExistingPaths store.disk [folder]
  | none =>
    buildSeriesDeleteTarget request.host store.disk store.catalog request.seriesId series

/-- The rows without the series and its issues. The linked files are forgotten, or only the
referenced ones; the others lose their issue. -/
def DeleteRequest.forget (request : DeleteRequest) (catalog : Catalog) : Catalog where
  roots := catalog.roots
  series id := if id = request.seriesId then none else catalog.series id
  issues id := if catalog.issues id = some request.seriesId then none else catalog.issues id
  files :=
    (catalog.files.filter fun file =>
      ¬ (file ∈ catalog.linkedFiles request.seriesId ∧
        (request.deleteFiles ∨ request.deleteFolder ∨ file.storageMode = .referenced))).map
      fun file =>
        if file ∈ catalog.linkedFiles request.seriesId then
          { file with issueId := none }
        else
          file

/-- `SeriesService.delete`. A failed request is rolled back: its rows stay, what it removed
from disk does not come back. -/
def delete (request : DeleteRequest) (store : Store) : Option DeleteError × Store :=
  match store.catalog.series request.seriesId with
  | none => (some .notFound, store)
  | some series =>
    let folders := request.folderPaths store series
    let linked := store.catalog.linkedFiles request.seriesId
    let moved := request.movedFolderKeys store.catalog store.disk folders
    let removed :=
      if request.deleteFolder then
        request.removeFolders store.catalog store.disk folders store.disk
      else
        (none, store.disk)
    match removed with
    | (some error, disk) => (some error, ⟨store.catalog, disk⟩)
    | (none, disk) =>
      (none, ⟨request.forget store.catalog,
        if request.deleteFiles || request.deleteFolder then
          request.removeFiles (insideMoved store.disk folders moved) linked disk
        else
          disk⟩)

end Pullbox.Series
