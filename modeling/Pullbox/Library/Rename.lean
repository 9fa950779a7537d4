import Mathlib.Data.List.DropRight
import Pullbox.Files.Moves
import Pullbox.Files.Pure
import Pullbox.Search.Stable
import Pullbox.Sql.Like
import Pullbox.Sql.Unique

/-!
# Renames in the library browser

`services/library_rename_service.py`: one file or folder gets another name in its folder, the
series and library files registered there get their new paths, and a later failure takes the name
back. The folder is its names with the inodes they name; the renames of the operating system may
fail, and so may each use of the database.
-/

namespace Pullbox.Library.Rename

/-- A name in a folder. -/
structure FileName where
  text : List Char
  proper : text ≠ [] ∧ '/' ∉ text
deriving DecidableEq

abbrev Folder := Files.Disk FileName ℕ

/-- What a path leads to. -/
inductive InodeKind where
  | file
  | folder (empty : Bool)
  | link

/-- `os.stat_result`, as far as it is read. -/
structure FileStat where
  size : ℕ
  modified : ℕ

/-- The file system around the folder. `stat` follows links; it answers for one inode alike under
each of its names. -/
structure FileSystem where
  parent : List Char
  kind : ℕ → InodeKind
  stat : Folder → FileName → Option FileStat
  lower : List Char → List Char
  absent : ∀ folder name, folder name = none → stat folder name = none
  alike : ∀ folder one two, folder one = folder two → stat folder one = stat folder two

namespace FileSystem

variable (system : FileSystem) (folder : Folder)

/-- `str(path)` of a name in the folder. -/
def path (name : FileName) : List Char :=
  system.parent ++ '/' :: name.text

/-- `Path.exists`. -/
def «exists» (name : FileName) : Bool :=
  (system.stat folder name).isSome

/-- Whether `rename` may put an inode in the place of another. -/
def replaces (source target : ℕ) : Bool :=
  match system.kind source, system.kind target with
  | .folder _, .folder empty => empty
  | .folder _, _ => false
  | _, .folder _ => false
  | _, _ => true

/-- `rename(2)`: two names of one inode stay as they are. -/
def rename (source target : FileName) (granted : Bool) : Option Folder :=
  match folder source, folder target with
  | none, _ => none
  | some _, none => if granted then some (folder.move ⟨source, target⟩) else none
  | some one, some two =>
    if granted = false then none
    else if one = two then some folder
    else if system.replaces one two then some (folder.move ⟨source, target⟩)
    else none

/-- The names differ at most in case. -/
def caseOnly (source target : FileName) : Bool :=
  system.lower source.text == system.lower target.text

end FileSystem

/-- Why a rename is not made. -/
inductive RenameError where
  | referenced
  | gone
  | taken
  | incomplete (restored : Bool)

def RenameError.message : RenameError → String
  | .referenced =>
    "Referenced library files cannot be renamed. They must stay unchanged on disk."
  | .gone => "Selected library item no longer exists on disk."
  | .taken => "A file or folder with that name already exists."
  | .incomplete false => "Rename could not be completed."
  | .incomplete true => "Rename could not be completed. The original name was restored."

/-- The renames of one `_rename_path` that the operating system grants. -/
structure Grants where
  first : Bool
  second : Bool

/-- `_rename_path`, and what it raises. -/
def renamePath (system : FileSystem) (temporary source target : FileName) (grants : Grants)
    (folder : Folder) : Folder × Option RenameError :=
  if system.exists folder source = false then (folder, some .gone)
  else if system.caseOnly source target = false ∧ system.exists folder target then
    (folder, some .taken)
  else if system.caseOnly source target then
    match system.rename folder source temporary grants.first with
    | none => (folder, some (.incomplete false))
    | some aside =>
      match system.rename aside temporary target grants.second with
      | none => (aside, some (.incomplete false))
      | some after => (after, none)
  else
    match system.rename folder source target grants.first with
    | none => (folder, some (.incomplete false))
    | some after => (after, none)

/-! ### Registrations -/

/-- A series with its folder. -/
structure SeriesRow where
  id : ℕ
  path : Option (List Char)

/-- A registered file, with what is measured of it. -/
structure LibraryFileRow where
  id : ℕ
  filePath : List Char
  fileName : List Char
  fileSize : ℕ
  fileModifiedAt : ℕ

/-- The library files; no two have one path. -/
abbrev LibraryFiles :=
  Sql.UniqueTable LibraryFileRow LibraryFileRow.id fun row => some row.filePath

/-- The rows a renaming reads and writes. -/
structure Registry where
  series : List SeriesRow
  files : LibraryFiles

/-- `text.rstrip("/")`. -/
def rstripSlash (text : List Char) : List Char :=
  text.rdropWhile (· == '/')

/-- `path == prefix OR path LIKE prefix/%`. -/
def selects (start path : List Char) : Bool :=
  path == start || Sql.like (start ++ ['/', '%']) path

/-- The path with as many characters replaced as the old prefix has. -/
def slice (oldPrefix newPrefix path : List Char) : List Char :=
  newPrefix ++ path.drop oldPrefix.length

/-- The row as `_sync_file_record` writes it. -/
def LibraryFileRow.refresh (row : LibraryFileRow) (after : List Char) (stat : Option FileStat) :
    LibraryFileRow :=
  { row with
    filePath := after
    fileName := Files.PurePath.finalName after
    fileSize := (stat.map FileStat.size).getD row.fileSize
    fileModifiedAt := (stat.map FileStat.modified).getD row.fileModifiedAt }

/-- `_sync_file_record`; `none` when the database refuses the row. -/
def syncFileRecord (before after : List Char) (stat : Option FileStat) (registry : Registry) :
    Option Registry :=
  match registry.files.rows.find? fun row => row.filePath == before with
  | none => some registry
  | some row => (registry.files.write (row.refresh after stat)).map fun files =>
    { registry with files }

/-- The series row as `_sync_folder_records` writes it. -/
def SeriesRow.sync (oldPrefix newPrefix : List Char) (row : SeriesRow) : SeriesRow :=
  match row.path with
  | none => row
  | some path =>
    if selects oldPrefix path ∧ path ≠ [] then
      { row with path := some (slice oldPrefix newPrefix path) }
    else row

/-- The library file row as `_sync_folder_records` writes it. -/
def LibraryFileRow.sync (oldPrefix newPrefix : List Char) (row : LibraryFileRow) :
    LibraryFileRow :=
  { row with
    filePath := slice oldPrefix newPrefix row.filePath
    fileName := Files.PurePath.finalName (slice oldPrefix newPrefix row.filePath) }

/-- The rows that `_sync_folder_records` writes, in the order of their keys. -/
def selectedFiles (oldPrefix : List Char) (files : LibraryFiles) : List ℕ :=
  Sorting.sortOn (fun id => id)
    ((files.rows.filter fun row => selects oldPrefix row.filePath ∧ row.filePath ≠ []).map
      LibraryFileRow.id)

/-- `_sync_folder_records`; `none` when the database refuses one of the rows. -/
def syncFolderRecords (before after : List Char) (registry : Registry) : Option Registry :=
  let oldPrefix := rstripSlash before
  let newPrefix := rstripSlash after
  (registry.files.writeAll ((selectedFiles oldPrefix registry.files).map fun id =>
      (id, LibraryFileRow.sync oldPrefix newPrefix))).map fun files => {
    series := registry.series.map (SeriesRow.sync oldPrefix newPrefix)
    files }

/-! ### The whole rename -/

inductive TargetKind where
  | file
  | folder

/-- What the caller asks for, and what its surroundings do at each step: whether the ownership
check lets it pass if it answers, which renames the operating system grants, and which uses of
the database succeed. The temporary names are drawn anew. -/
structure RenameRequest where
  system : FileSystem
  folder : Folder
  source : FileName
  target : FileName
  kind : TargetKind
  temporary : FileName
  undoTemporary : FileName
  isMutable : Option Bool
  grants : Grants
  undoGrants : Grants
  queries : Bool
  commits : Bool
  fresh : ∀ name ∈ [temporary, undoTemporary],
    folder name = none ∧ name ≠ source ∧ name ≠ target
  drawn : temporary ≠ undoTemporary

namespace RenameRequest

variable (request : RenameRequest)

/-- The rows as the session holds them when it commits. -/
def sync (folder : Folder) (registry : Registry) : Option Registry :=
  let before := request.system.path request.source
  let after := request.system.path request.target
  match request.kind with
  | .file => syncFileRecord before after (request.system.stat folder request.target) registry
  | .folder => syncFolderRecords before after registry

/-- The rows once they are committed. -/
def record (folder : Folder) (registry : Registry) : Option Registry :=
  if request.queries ∧ request.commits then request.sync folder registry else none

/-- The handler of a failure after the rename was made. -/
def undo (folder : Folder) : Folder × Bool :=
  if request.system.exists folder request.target ∧
      request.system.exists folder request.source = false then
    let (after, raised) := renamePath request.system request.undoTemporary request.target
      request.source request.undoGrants folder
    (after, raised.isNone)
  else (folder, false)

end RenameRequest

/-- What a rename leaves: the folder, the rows, and what it raises. -/
structure RenameResult where
  folder : Folder
  registry : Registry
  raised : Option RenameError

/-- `rename_library_entry`. -/
def renameLibraryEntry (request : RenameRequest) (registry : Registry) : RenameResult :=
  match request.isMutable with
  | none => ⟨request.folder, registry, some (.incomplete false)⟩
  | some false => ⟨request.folder, registry, some .referenced⟩
  | some true =>
    match renamePath request.system request.temporary request.source request.target
        request.grants request.folder with
    | (folder, some error) => ⟨folder, registry, some error⟩
    | (folder, none) =>
      match request.record folder registry with
      | some synced => ⟨folder, synced, none⟩
      | none =>
        let (restored, back) := request.undo folder
        ⟨restored, registry, some (.incomplete back)⟩

end Pullbox.Library.Rename
