import Pullbox.Files.Moves
import Pullbox.Files.Pure
import Pullbox.Import.RecommendedConflicts
import Pullbox.Sql.Unique

/-!
# Misplaced sources of a Mylar import

An import finds files outside the folder that Mylar recorded for them. The verified ones can all be
moved to their recorded places: every file is checked before the first move, each is then moved and
registered, and what was moved is moved back when something fails. What `pathlib` and `os` say of a
path is given; the signature of the preview token is left out.
-/

namespace Pullbox.Import.MisplacedSources

open Files Sql RecommendedConflicts

/-! ### Rows -/

inductive ImportSourceType where
  | filesystem | mylar3
deriving DecidableEq

inductive LibraryFileStorageMode where
  | managed | referenced
deriving DecidableEq

/-- `build_file_identity_signature`. -/
structure Signature where
  resolvedPath : String
  size : ℕ
  mtimeNs : ℕ
  device : ℕ
  inode : ℕ
deriving DecidableEq

/-- `diagnostics["mylar3_cross_folder_reconciliation"]`; `restored_path` comes with the time of the
restoration. -/
structure Evidence where
  method : String
  role : String
  recordedPath : Option String
  restoredPath : Option String := none

structure ImportJob where
  id : ℕ
  status : ImportJobStatus
  sourceType : ImportSourceType

/-- A file as the import recorded it. -/
structure ImportedFile where
  id : ℕ
  importJobId : ℕ
  status : ImportedFileStatus
  filePath : String
  fileName : String
  sourceSignature : Option Signature
  matchedIssueId : Option ℕ
  libraryFileId : Option ℕ
  evidence : Option Evidence

/-- A registered file. -/
structure LibraryFile where
  id : ℕ
  issueId : Option ℕ
  storageMode : LibraryFileStorageMode
  filePath : String
  fileName : String
  fileSize : ℕ
  sourceSignature : Option Signature

/-- `library_files.file_path` is unique. -/
def LibraryFile.path (row : LibraryFile) : Option String :=
  some row.filePath

/-- An action, with what its payload says of a file. -/
structure ImportJobAction where
  id : ℕ
  importJobId : ℕ
  actionType : String
  importedFileId : Option ℕ
  destinationPath : String
  destinationSignature : Option Signature
  originalSourcePath : String

structure LibraryRoot where
  path : String
  enabled : Bool
  allowReferencedRegistrations : Bool

/-- What is recorded of a clean-up. -/
structure AuditEvent where
  userId : ℕ
  jobId : ℕ
  movedCount : ℕ
  skippedCount : ℕ

/-- The rows the clean-up reads and writes. -/
structure Tables where
  job : ImportJob
  files : Table ImportedFile ImportedFile.id
  library : UniqueTable LibraryFile LibraryFile.id LibraryFile.path
  actions : Table ImportJobAction ImportJobAction.id
  roots : List LibraryRoot
  audit : List AuditEvent

/-- What `pathlib`, `os` and the Unicode tables answer while the files are checked; and what the
file system says of a file at a place. -/
structure Paths (Entry : Type) where
  printable : Char → Bool
  spaceSeparator : Char → Bool
  expanduser : String → String
  absolute : String → String
  isSymlink : String → Bool
  resolve : String → Option String
  resolveLoose : String → Option String
  isDir : String → Bool
  writable : String → Bool
  stat : String → Entry → Option Signature

/-- The files by their resolved places, and the rows. -/
structure World (Entry : Type) where
  disk : Disk String Entry
  tables : Tables

variable {Entry : Type}

/-! ### Paths -/

/-- `_SUPPORTED_PATH_FORMAT_CHARACTERS`. -/
def supportedPathFormatCharacters : List Char :=
  ['\u00ad', '\u061c', '\u200b', '\u200c', '\u200d', '\u200e', '\u200f', '\u2060', '\ufeff']

/-- `_MAX_PATH_TEXT_LENGTH`. -/
def maxPathTextLength : ℕ := 4096

def isInvalidPathText (paths : Paths Entry) (value : String) : Bool :=
  value.isEmpty || value.length > maxPathTextLength ||
    value.toList.any fun character =>
      !paths.printable character && character ∉ supportedPathFormatCharacters &&
        !paths.spaceSeparator character

def steps (path : String) : Path (List Char) :=
  (PurePath.parse path.toList).steps

/-- `_safe_absolute_path`. -/
def safeAbsolutePath (paths : Paths Entry) (value : Option String) (label : String) :
    Except String String :=
  let invalid := s!"The recorded {label} is invalid. Re-scan before cleanup."
  match value with
  | none => .error invalid
  | some value =>
    if isInvalidPathText paths value then .error invalid
    else
      let path := paths.expanduser value
      if !(PurePath.parse path.toList).absolute ∨ .up ∈ steps path then .error invalid
      else .ok (paths.absolute path)

/-- `Path.parent`, of a path that is resolved. -/
def parent (path : String) : String :=
  match ((path.toList.reverse.dropWhile (· ≠ '/')).drop 1).reverse with
  | [] => "/"
  | kept => String.ofList kept

/-- `Path.name`. -/
def name (path : String) : String :=
  String.ofList (PurePath.finalName path.toList)

/-- `_inside`. -/
def inside (path root : Path (List Char)) : Bool :=
  root.isPrefixOf path

/-- `_reference_root_for_path`, without managed writes: why there is no root, if there is none. -/
def referenceRootForPath (paths : Paths Entry) (tables : Tables) (lexicalPath : String)
    (resolvedPath : Path (List Char)) : String :=
  let roots := tables.roots.filter fun root => root.enabled && root.allowReferencedRegistrations
  let found := roots.filter fun root =>
    match paths.resolve (paths.expanduser root.path) with
    | none => false
    | some resolvedRoot =>
      inside (steps lexicalPath) (steps (paths.absolute (paths.expanduser root.path))) &&
        inside resolvedPath (steps resolvedRoot)
  if found.length ≠ 1 then "The file does not belong to one unambiguous enabled library root."
  else ""

/-- `build_file_identity_signature`. -/
def buildFileIdentitySignature (paths : Paths Entry) (disk : Disk String Entry) (place : String) :
    Option Signature :=
  (disk place).bind (paths.stat place)

/-! ### Checking the files -/

/-- `_VERIFIED_CROSS_FOLDER_METHODS`. -/
def verifiedCrossFolderMethods : List String :=
  ["verified_cross_folder_issue_identity", "verified_cross_folder_series_issue_filename"]

/-- A file with its row and where it goes. -/
structure CleanupContext where
  file : ImportedFile
  libraryFile : LibraryFile
  source : String
  destination : Option String
  signature : Signature
  unavailableReason : String

/-- Why the destination cannot be taken, or an empty text. -/
def unavailableReason (paths : Paths Entry) (disk : Disk String Entry) (tables : Tables)
    (sourceLexical destinationLexical source destination : String) : String :=
  let resolvedParent := (paths.resolve (parent destination)).getD (parent destination)
  let sourceReason := referenceRootForPath paths tables sourceLexical (steps source)
  let destinationReason := referenceRootForPath paths tables destinationLexical
    (steps resolvedParent ++ [.name (PurePath.finalName destination.toList)])
  if sourceReason ≠ "" then sourceReason
  else if destinationReason ≠ "" then destinationReason
  else if (disk destination).isSome then
    "The Mylar-recorded destination already exists, so Pullbox left it unchanged."
  else if !paths.isDir (parent destination) ∨ !paths.writable (parent destination) then
    "The Mylar-recorded destination folder is not writable."
  else if !paths.writable (parent source) then "The current source folder is not writable."
  else ""

/-- `_load_restore_context`. An error without a text is an `OSError` that leaves the function. -/
def loadRestoreContext (paths : Paths Entry) (world : World Entry) (file : ImportedFile) :
    Except (Option String) CleanupContext := do
  let tables := world.tables
  if tables.job.status ≠ .completed ∨ tables.job.sourceType ≠ .mylar3 then
    throw <| some "Mylar source cleanup is available after a completed Mylar import."
  let some evidence := file.evidence
    | throw <| some "Only an imported, exactly identified misplaced file can be restored."
  if file.status ≠ .imported ∨ evidence.method ∉ verifiedCrossFolderMethods ∨
      evidence.role ≠ "canonical" then
    throw <| some "Only an imported, exactly identified misplaced file can be restored."
  let some libraryFileId := file.libraryFileId
    | throw <| some "The misplaced file no longer has a Pullbox library reference."
  let some libraryFile := tables.library.find libraryFileId
    | throw <| some "The misplaced file reference changed after import."
  if libraryFile.storageMode ≠ .referenced ∨ libraryFile.issueId ≠ file.matchedIssueId then
    throw <| some "The misplaced file reference changed after import."
  let sourceLexical ← (safeAbsolutePath paths (some file.filePath) "source path").mapError some
  let destinationLexical ← (safeAbsolutePath paths evidence.recordedPath "Mylar path").mapError some
  if paths.isSymlink sourceLexical then
    throw <| some "Symlinked source files cannot use Mylar path restoration."
  let changed := "The misplaced source changed or is unavailable. Re-scan before cleanup."
  let some source := paths.resolve sourceLexical | throw (some changed)
  let some destination := paths.resolveLoose destinationLexical | throw (some changed)
  let some signature := buildFileIdentitySignature paths world.disk source | throw (some changed)
  if file.sourceSignature ≠ some signature ∨ libraryFile.sourceSignature ≠ some signature then
    throw (some changed)
  -- This path is resolved outside the `try`.
  let some registered := paths.resolve (paths.expanduser libraryFile.filePath) | throw none
  if registered ≠ source then
    throw <| some "The misplaced file reference changed after import."
  if source = destination then
    return ⟨file, libraryFile, source, none, signature, ""⟩
  return ⟨file, libraryFile, source, some destination, signature,
    unavailableReason paths world.disk tables sourceLexical destinationLexical source destination⟩

/-- `_cleanup_scope_filters`, for `RESTORE_RECORDED_PATH`. -/
def inScope (tables : Tables) (file : ImportedFile) : Bool :=
  match file.evidence with
  | none => false
  | some evidence =>
    file.importJobId = tables.job.id && evidence.method ∈ verifiedCrossFolderMethods &&
      file.status = .imported && evidence.role = "canonical" &&
      evidence.restoredPath = none && file.libraryFileId.isSome

/-- A file that can be moved. -/
structure RestoreContext where
  file : ImportedFile
  libraryFile : LibraryFile
  source : String
  destination : String
  signature : Signature

def RestoreContext.shift (context : RestoreContext) : Shift String :=
  ⟨context.source, context.destination⟩

def ready (context : CleanupContext) : Option RestoreContext :=
  match context.destination with
  | none => none
  | some destination =>
    if context.unavailableReason ≠ "" then none
    else some ⟨context.file, context.libraryFile, context.source, destination, context.signature⟩

/-- The files of the scope in the order of their ids. -/
def scope (tables : Tables) : List ImportedFile :=
  Sorting.sortOn ImportedFile.id (tables.files.rows.filter (inScope tables))

/-- `_load_verified_restore_contexts`, if it returns: the files to move, and how many are
unavailable. -/
def loadVerifiedRestoreContexts (paths : Paths Entry) (world : World Entry) :
    List RestoreContext × ℕ :=
  let contexts := (scope world.tables).filterMap fun file =>
    (loadRestoreContext paths world file).toOption.bind ready
  (contexts, (scope world.tables).length - contexts.length)

/-- A library row names a path that is not there, which ends `_load_verified_restore_contexts`. -/
def missesRegistered (paths : Paths Entry) (world : World Entry) : Bool :=
  (scope world.tables).any fun file => loadRestoreContext paths world file matches .error none

/-- What `_restore_scope_digest` hashes. -/
def restoreScope (contexts : List RestoreContext) : List (ℕ × String × String × Signature) :=
  contexts.map fun context =>
    (context.file.id, context.source, context.destination, context.signature)

/-! ### Moving them -/

/-- The signed preview. -/
structure Payload where
  jobId : ℕ
  actorId : ℕ
  action : String
  affectedCount : ℕ
  unavailableCount : ℕ
  scope : List (ℕ × String × String × Signature)
deriving DecidableEq

/-- What becomes of each move, of the check after it and of its rows, of the audit event and the
commit, and of each move back. -/
structure Faults (Entry : Type) where
  moves : ℕ → MoveOutcome Entry
  checks : ℕ → Bool
  updates : ℕ → Bool
  audit : Bool
  commit : Bool
  undo : ℕ → MoveOutcome Entry

/-- What was moved and written so far. -/
structure Progress (Entry : Type) where
  disk : Disk String Entry
  tables : Tables
  moved : List (Shift String)

/-- `_load_registration_action`: the last one of the file. -/
def loadRegistrationAction (tables : Tables) (fileId : ℕ) : Option ImportJobAction :=
  (tables.actions.rows.filter fun action =>
    action.importJobId = tables.job.id ∧ action.actionType = "library_file_registered" ∧
      action.importedFileId = some fileId).foldl
    (fun last action => match last with
      | none => some action
      | some other => if other.id < action.id then some action else some other) none

/-- `_update_restore_registration`. -/
def updateRestoreRegistration (paths : Paths Entry) (context : RestoreContext) (entry : Entry)
    (tables : Tables) : Option Tables := do
  let finalPath := context.destination
  let signature ← paths.stat finalPath entry
  let files := tables.files.modify context.file.id (fun file =>
    { file with
      filePath := finalPath
      fileName := name finalPath
      sourceSignature := some signature
      evidence := file.evidence.map fun evidence =>
        { evidence with restoredPath := some finalPath } }) fun _ => rfl
  let libraryFile ← tables.library.find context.libraryFile.id
  let library ← tables.library.write
    { libraryFile with
      filePath := finalPath
      fileName := name finalPath
      fileSize := signature.size
      sourceSignature := some signature }
  let actions := match loadRegistrationAction tables context.file.id with
    | none => tables.actions
    | some action => tables.actions.modify action.id (fun action =>
      { action with
        destinationPath := finalPath
        destinationSignature := some signature
        originalSourcePath := finalPath }) fun _ => rfl
  return { tables with files, library, actions }

/-- One file: moved by `_move_restore_source`, put on the undo list and registered. -/
def restoreSource (paths : Paths Entry) (faults : Faults Entry) (index : ℕ)
    (context : RestoreContext) (progress : Progress Entry) : Progress Entry × Bool :=
  match progress.disk.attempt context.shift (faults.moves index) with
  | (disk, false) => ({ progress with disk }, false)
  | (disk, true) =>
    if faults.checks index then
      let recorded := { progress with disk, moved := progress.moved ++ [context.shift] }
      let written := if faults.updates index then
          (disk context.destination).bind fun entry =>
            updateRestoreRegistration paths context entry progress.tables
        else none
      match written with
      | none => (recorded, false)
      | some tables => ({ recorded with tables }, true)
    else ({ progress with disk }, false)

/-- One file after the other, until one fails. -/
def restoreSources (paths : Paths Entry) (faults : Faults Entry) :
    ℕ → List RestoreContext → Progress Entry → Progress Entry × Bool
  | _, [], progress => (progress, true)
  | index, context :: rest, progress =>
    match restoreSource paths faults index context progress with
    | (progress, false) => (progress, false)
    | (progress, true) => restoreSources paths faults (index + 1) rest progress

/-- What the clean-up returns. -/
structure BulkResult where
  movedCount : ℕ
  skippedCount : ℕ

/-- The preview that is accepted for these files. -/
def expectedPayload (paths : Paths Entry) (world : World Entry) (actorId : ℕ) : Payload :=
  let (contexts, unavailable) := loadVerifiedRestoreContexts paths world
  ⟨world.tables.job.id, actorId, "restore_all_verified", contexts.length, unavailable,
    restoreScope contexts⟩

/-- `apply_verified_misplaced_source_cleanup`, with the payload of the token if it has one. Errors
of the disk and of the database have texts of their own. -/
def applyVerifiedMisplacedSourceCleanup (paths : Paths Entry) (faults : Faults Entry)
    (actorId : ℕ) (payload : Option Payload) (world : World Entry) :
    World Entry × Except (Option String) BulkResult :=
  match payload with
  | none => (world, .error (some "The Mylar cleanup preview is invalid. Preview it again."))
  | some payload =>
    let (contexts, unavailable) := loadVerifiedRestoreContexts paths world
    if missesRegistered paths world then (world, .error none)
    else if payload ≠ expectedPayload paths world actorId then
      (world, .error (some "The verified-file cleanup scope changed. Preview it again."))
    else if contexts = [] then
      (world, .error (some "No verified misplaced files are currently available to move."))
    else
      let (progress, finished) :=
        restoreSources paths faults 0 contexts ⟨world.disk, world.tables, []⟩
      if finished ∧ faults.audit ∧ faults.commit then
        let event := ⟨actorId, world.tables.job.id, progress.moved.length, unavailable⟩
        (⟨progress.disk, { progress.tables with audit := progress.tables.audit ++ [event] }⟩,
          .ok ⟨progress.moved.length, unavailable⟩)
      else
        -- The rows are rolled back; the files are moved back, the last one first.
        (⟨progress.disk.restore faults.undo 0 progress.moved.reverse, world.tables⟩,
          .error none)

/-! ### What is promised -/

/-- Each file is at its recorded place, which was free, and its rows say so. -/
structure Restored (before after : World Entry) (contexts : List RestoreContext) : Prop where
  free : ∀ context ∈ contexts, before.disk context.destination = none
  distinct : (contexts.map RestoreContext.destination).Nodup
  arrived : ∀ context ∈ contexts,
    after.disk context.destination = before.disk context.source
  vacated : ∀ context ∈ contexts, after.disk context.source = none
  others : ∀ place, place ∉ contexts.map RestoreContext.source →
    place ∉ contexts.map RestoreContext.destination → after.disk place = before.disk place
  file : ∀ context ∈ contexts,
    (after.tables.files.find context.file.id).map ImportedFile.filePath = some context.destination
  library : ∀ context ∈ contexts,
    (after.tables.library.find context.libraryFile.id).map LibraryFile.filePath =
      some context.destination

/-- Every file of the scope is restored, or an error leaves everything as it was. -/
def AllOrNothing (paths : Paths Entry) (before : World Entry) :
    World Entry × Except (Option String) BulkResult → Prop
  | (after, .ok _) => Restored before after (loadVerifiedRestoreContexts paths before).1
  | (after, .error _) => after = before

end Pullbox.Import.MisplacedSources
