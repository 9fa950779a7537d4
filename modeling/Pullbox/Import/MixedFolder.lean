import Pullbox.Library.Delete
import Pullbox.Sql.Table

/-!
# Mixed folders of a completed import

Imported files whose embedded identity names another series than their folder are moved to the issue
they name. The resolutions are all read from the rows before the action; they are then applied one
after another, each written before the next file is read. Columns that are only written, and the
preview token, are left out.
-/

namespace Pullbox.Import.MixedFolder

open Library (LibraryFile IssueStatus)

inductive ImportedFileStatus where
  | pending | matched | safetyBlocked | safetyApproved | duplicateFile | alreadyOwned | conflict
  | noMatch | confirmed | skipped | imported | failed
deriving DecidableEq

/-- A file of the import job. -/
structure ImportedFile where
  id : Nat
  importSeriesId : Nat
  filePath : String
  status : ImportedFileStatus
  includeInImport : Bool
  matchedIssueId : Option Nat
  libraryFileId : Option Nat
deriving DecidableEq

/-- A series of the import job. -/
structure ImportedSeries where
  id : Nat
  rawSeriesName : String
  cvTitle : Option String
  seriesId : Option Nat
  selectedForImport : Bool

structure SeriesRow where
  id : Nat
  title : String
  comicvineId : Option Nat
  monitored : Bool

/-- What a resolution reads and writes of an issue. -/
structure Issue where
  id : Nat
  seriesId : Nat
  comicvineId : Option Nat
  numberText : String
  status : IssueStatus

/-- The rows that the action reads and writes. -/
structure Catalog where
  files : Sql.Table ImportedFile ImportedFile.id
  importSeries : Sql.Table ImportedSeries ImportedSeries.id
  libraryFiles : Sql.Table LibraryFile LibraryFile.id
  issues : Sql.Table Issue Issue.id
  series : Sql.Table SeriesRow SeriesRow.id

/-- What `_mixed_folder_source_identity` and `parse_issue_number_text` read off a file. -/
structure SourceIdentity where
  title : String
  number : Option String
  seriesCvId : Option Nat
  issueCvId : Option Nat

/-- How files are read and titles are compared. -/
structure Evidence where
  /-- The query selects the file: its signals are trusted and its title is not its series'. -/
  selected : ImportedFile → ImportedSeries → Bool
  identity : ImportedFile → Option SourceIdentity
  /-- `NameMatcher.normalize`. -/
  normalize : String → String

/-- `_MixedFolderResolution`. -/
structure Resolution where
  fileId : Nat
  sourceImportSeriesId : Nat
  targetSeriesId : Nat
  targetIssueId : Nat
  targetLibraryFileId : Option Nat
  sourceLibraryFileId : Option Nat
  sourceIssueId : Option Nat
deriving DecidableEq

/-! ### Resolutions -/

/-- `current_library_by_file_id`: the registration of a file in its own place under its
matched issue. -/
def currentLibraryFile (catalog : Catalog) (file : ImportedFile) : Option LibraryFile :=
  if file.status = .imported then
    (file.libraryFileId.bind catalog.libraryFiles.find).filter fun library =>
      library.storageMode = .referenced ∧ library.filePath = file.filePath ∧
        library.issueId = file.matchedIssueId
  else
    none

/-- The title of the folder that a file was found in. -/
def ImportedSeries.parentTitle (series : ImportedSeries) : String :=
  match series.cvTitle.filter fun title => title ≠ "" with
  | some title => title
  | none => series.rawSeriesName

/-- `source_candidates`: the identity and the exact number of a file that names another
series than its folder. -/
def sourceCandidate (evidence : Evidence) (catalog : Catalog) (file : ImportedFile)
    (series : ImportedSeries) : Option (SourceIdentity × String) :=
  if file.status = .imported ∧ currentLibraryFile catalog file = none then
    none
  else
    match evidence.identity file with
    | none => none
    | some identity =>
      let title := evidence.normalize identity.title
      if title = "" ∨ title = evidence.normalize series.parentTitle then none
      else identity.number.map fun number => (identity, number)

/-- The local series that a file names: by its trusted external id, or the only one of its
title. -/
def targetSeries (evidence : Evidence) (catalog : Catalog) (identity : SourceIdentity) :
    Option SeriesRow :=
  let named := identity.seriesCvId.bind fun id =>
    catalog.series.rows.find? fun series => series.comicvineId == some id
  match named with
  | some series => some series
  | none =>
    match catalog.series.rows.filter fun series =>
      evidence.normalize series.title == evidence.normalize identity.title with
    | [series] => some series
    | _ => none

/-- The issue of the series that a file names: by its trusted external id, or the only one of
its number. -/
def targetIssue (catalog : Catalog) (series : SeriesRow) (identity : SourceIdentity)
    (number : String) : Option Issue :=
  let named := identity.issueCvId.bind fun id =>
    catalog.issues.rows.find? fun issue =>
      issue.comicvineId == some id && issue.seriesId == series.id
  match named with
  | some issue => some issue
  | none =>
    match catalog.issues.rows.filter fun issue =>
      issue.seriesId == series.id && issue.numberText == number with
    | [issue] => some issue
    | _ => none

/-- A file with the issue that it names. -/
structure ResolvedTarget where
  file : ImportedFile
  importSeries : ImportedSeries
  series : SeriesRow
  issue : Issue

def resolvedTarget (evidence : Evidence) (catalog : Catalog) (file : ImportedFile) :
    Option ResolvedTarget :=
  if file.status = .noMatch ∨ file.status = .imported then
    (catalog.importSeries.find file.importSeriesId).bind fun importSeries =>
      if evidence.selected file importSeries = false then none
      else
        (sourceCandidate evidence catalog file importSeries).bind fun (identity, number) =>
          (targetSeries evidence catalog identity).bind fun series =>
            if importSeries.seriesId = some series.id then none
            else
              (targetIssue catalog series identity number).map fun issue =>
                ⟨file, importSeries, series, issue⟩
  else
    none

/-- `resolved_targets`, in the order of the files. -/
def resolvedTargets (evidence : Evidence) (catalog : Catalog) : List ResolvedTarget :=
  catalog.files.rows.filterMap (resolvedTarget evidence catalog)

/-- `owned_files_by_issue_id`. -/
def ownedFiles (catalog : Catalog) (issueId : Nat) : List LibraryFile :=
  catalog.libraryFiles.rows.filter fun library => library.issueId == some issueId

/-- The resolution of one file. An issue with several files stays ambiguous, and so does one
without any that several files name. -/
def resolve (catalog : Catalog) (targets : List ResolvedTarget) (target : ResolvedTarget) :
    Option Resolution :=
  let current := currentLibraryFile catalog target.file
  let resolution (library : Option LibraryFile) : Resolution :=
    { fileId := target.file.id
      sourceImportSeriesId := target.importSeries.id
      targetSeriesId := target.series.id
      targetIssueId := target.issue.id
      targetLibraryFileId := library.map (·.id)
      sourceLibraryFileId := current.map (·.id)
      sourceIssueId := current.bind (·.issueId) }
  match ownedFiles catalog target.issue.id with
  | [] =>
    if (targets.filter fun other => other.issue.id == target.issue.id).length = 1 then
      some (resolution none)
    else
      none
  | [library] => some (resolution (some library))
  | _ => none

/-- `_load_mixed_folder_resolutions`. -/
def loadMixedFolderResolutions (evidence : Evidence) (catalog : Catalog) : List Resolution :=
  let targets := resolvedTargets evidence catalog
  targets.filterMap (resolve catalog targets)

/-! ### Application -/

/-- The rows in the middle of the action, with `source_issue_owner_counts`. -/
structure Progress where
  catalog : Catalog
  ownerCounts : Nat → Nat
  retrySeriesIds : List Nat

/-- How many library files an issue has. -/
def Catalog.owners (catalog : Catalog) (issueId : Nat) : Nat :=
  catalog.libraryFiles.count fun library => library.issueId == some issueId

def Catalog.setIssueStatus (catalog : Catalog) (id : Nat) (status : IssueStatus) : Catalog :=
  { catalog with
    issues := catalog.issues.modify id (fun issue => { issue with status := status }) fun _ => rfl }

def Catalog.setLibraryIssue (catalog : Catalog) (id issueId : Nat) : Catalog :=
  { catalog with
    libraryFiles := catalog.libraryFiles.modify id
      (fun library => { library with issueId := some issueId }) fun _ => rfl }

/-- Delete a library file; imported files that refer to it no longer do. -/
def Catalog.deleteLibraryFile (catalog : Catalog) (id : Nat) : Catalog :=
  { catalog with
    libraryFiles := catalog.libraryFiles.delete id
    files := catalog.files.each
      (fun file => if file.libraryFileId = some id then { file with libraryFileId := none } else file)
      fun _ => by split <;> rfl }

/-- What every resolution writes to its file, and the outcome. -/
def Catalog.setFile (catalog : Catalog) (resolution : Resolution) (importSeriesId : Nat)
    (status : ImportedFileStatus) (library : Option Nat → Option Nat) : Catalog :=
  { catalog with
    files := catalog.files.modify resolution.fileId
      (fun file =>
        { file with
          importSeriesId := importSeriesId
          matchedIssueId := some resolution.targetIssueId
          status := status
          includeInImport := status == .confirmed
          libraryFileId := library file.libraryFileId }) fun _ => rfl }

/-- `target_import_series`: the first series of the job for the target, or a new one. -/
def Catalog.targetImportSeries (catalog : Catalog) (resolution : Resolution) : Nat × Catalog :=
  match catalog.importSeries.rows.find? fun series =>
    series.seriesId == some resolution.targetSeriesId with
  | some series => (series.id, catalog)
  | none =>
    let title := ((catalog.series.find resolution.targetSeriesId).map (·.title)).getD ""
    (catalog.importSeries.nextKey,
      { catalog with
        importSeries := catalog.importSeries.insert
          (fun id => ⟨id, title, some title, some resolution.targetSeriesId, false⟩)
          fun _ => rfl })

/-- Select a series of the job for the retry of its files. -/
def Catalog.selectForImport (catalog : Catalog) (importSeriesId : Nat) : Catalog :=
  { catalog with
    importSeries := catalog.importSeries.modify importSeriesId
      (fun series => { series with selectedForImport := true }) fun _ => rfl }

/-- The status of an issue that a file leaves, with the files that are left. -/
def Catalog.statusAfterRelease (catalog : Catalog) (issue : Issue) (remaining : Nat) :
    IssueStatus :=
  if remaining ≠ 0 then .owned
  else if (catalog.series.find issue.seriesId).any (·.monitored) then .wanted
  else .skipped

/-- The wrong issue after a file left it. `before` is the issue the file had. -/
def Progress.release (progress : Progress) (resolution : Resolution) (before : Option Nat) :
    Progress :=
  match resolution.sourceIssueId.bind progress.catalog.issues.find with
  | none => progress
  | some previous =>
    if previous.id = resolution.targetIssueId then
      progress
    else
      let remaining := progress.ownerCounts previous.id
      let left := if before = some previous.id then remaining - 1 else remaining
      { progress with
        catalog := progress.catalog.setIssueStatus previous.id
          (progress.catalog.statusAfterRelease previous left)
        ownerCounts := fun id => if id = previous.id then left else progress.ownerCounts id }

/-- The correction of a registered file. It fails where a row would refer to a library file
that is gone. -/
def Catalog.moveRegistration (catalog : Catalog) (resolution : Resolution)
    (importSeriesId : Nat) (source : LibraryFile) : Option Catalog :=
  if source.issueId = some resolution.targetIssueId then
    some (catalog.setFile resolution importSeriesId .imported fun _ => some source.id)
  else
    match resolution.targetLibraryFileId.filter fun id => id ≠ source.id with
    | some targetId =>
      if catalog.libraryFiles.find targetId = none then
        none
      else
        some ((catalog.setFile resolution importSeriesId .alreadyOwned
          fun _ => some targetId).deleteLibraryFile source.id)
    | none =>
      some ((catalog.setFile resolution importSeriesId .imported
        fun _ => some source.id).setLibraryIssue source.id resolution.targetIssueId)

/-- One resolution. -/
def applyResolution (resolution : Resolution) (progress : Progress) : Option Progress :=
  let (importSeriesId, catalog) := progress.catalog.targetImportSeries resolution
  if catalog.files.find resolution.fileId = none then
    none
  else
    match resolution.sourceLibraryFileId with
    | some sourceId =>
      (catalog.libraryFiles.find sourceId).bind fun source =>
        (catalog.moveRegistration resolution importSeriesId source).map fun catalog =>
          { progress with
            catalog := catalog.setIssueStatus resolution.targetIssueId .owned }.release
              resolution source.issueId
    | none =>
      match resolution.targetLibraryFileId with
      | some targetId =>
        if catalog.libraryFiles.find targetId = none then
          none
        else
          some { progress with
            catalog := (catalog.setFile resolution importSeriesId .alreadyOwned
              fun _ => some targetId).setIssueStatus resolution.targetIssueId .owned }
      | none =>
        some { progress with
          catalog := (catalog.setFile resolution importSeriesId .confirmed
            fun library => library).selectForImport importSeriesId
          retrySeriesIds := progress.retrySeriesIds ++ [importSeriesId] }

/-- The resolutions one after another. -/
def applyResolutions : List Resolution → Progress → Option Progress
  | [], progress => some progress
  | resolution :: rest, progress =>
    (applyResolution resolution progress).bind (applyResolutions rest)

/-- `_apply_mixed_folder_resolutions`; nothing is left of an action that fails. -/
def applyMixedFolderResolutions (evidence : Evidence) (catalog : Catalog) : Option Progress :=
  applyResolutions (loadMixedFolderResolutions evidence catalog) ⟨catalog, catalog.owners, []⟩

end Pullbox.Import.MixedFolder
