import Pullbox.Files.Pure
import Pullbox.Naming.Files

/-!
# Where a library file goes

The series folder, an existing one inside the library root or one that the path template gives, and
the name of the file in it. What the disk says of a folder is given; creating folders and resolving
collisions are left out.
-/

namespace Pullbox.Naming

open Text Files

/-- The stored templates and how they are filled in. -/
structure LibraryNamingPolicy where
  seriesFolderTemplate : List Char
  comicFileTemplate : List Char
  annualFileTemplate : List Char
  nonStandardFileTemplate : List Char
  singleNonStandardFileTemplate : List Char
  replaceIllegalCharacters : Bool
  colonReplacement : String
  seriesPathTemplate : List Char

/-- What a name says of a series. -/
structure Series where
  title : List Char
  yearStart : Option Int
  comicvineId : Option Int
  seriesType : Option SeriesType
  publisher : Option (List Char)
  path : Option (List Char)
  libraryRootId : Option Nat

/-- What a name says of an issue. -/
structure Issue where
  issueNumber : Rat
  effectiveIssueNumberText : List Char
  issueType : IssueType
  title : Option (List Char)

/-- A root folder of the library. -/
structure LibraryRoot where
  id : Nat
  path : List Char

/-- The path of a file, by its name. -/
structure SourcePath where
  name : List Char
  named : PurePath.IsName name

/-- What the prediction raises. -/
inductive TargetError where
  /-- `ConfigurationError`. -/
  | configuration (message : String)
  /-- `ValueError`, of the issue number. -/
  | issueNumber (error : IssueNumberError)
deriving DecidableEq

/-! ### Templates -/

/-- `_SERIES_PATH_TOKEN_RE`. -/
def seriesPathTokenAt : List Char → Option (String × Nat)
  | '{' :: rest =>
    let name := rest.takeWhile Char.isAlphanum
    match name, rest.dropWhile Char.isAlphanum with
    | first :: _, '}' :: _ =>
      if first.isAlpha then some (String.ofList name, name.length + 2) else none
    | _, _ => none
  | _ => none

/-- `_FILE_TEMPLATE_TOKEN_RE`. -/
def fileTemplateTokenAt : List Char → Option (String × Nat)
  | '{' :: rest =>
    let name := rest.takeWhile fun char => char != '{' && char != '}'
    match name, rest.dropWhile fun char => char != '{' && char != '}' with
    | _ :: _, '}' :: _ => some (String.ofList name, name.length + 2)
    | _, _ => none
  | _ => none

def seriesPathTokens : List String :=
  ["Publisher", "Series", "Year", "ComicVineId", "Type"]

def fileTemplateTokens : List String :=
  ["Series", "Year", "Issue", "Issue:03d", "Volume", "Volume:02d", "Type", "IssueTitle", "Title",
    "Publisher", "Edition"]

def isBrace (char : Char) : Bool :=
  char == '{' || char == '}'

/-- The segments that name no folder. -/
def unsafeSegments : List (List Char) :=
  [[], ['.'], ['.', '.']]

/-- `validate_series_path_template`. -/
def validateSeriesPathTemplate (template : List Char) : Except String (List (List Char)) :=
  if template = [] ∨ 1024 < utf8Size template then
    .error "Series path template is empty or too long."
  else if template.head? = some '/' ∨ '\\' ∈ template then
    .error "Series path template must be root-relative."
  else
    let rawSegments := template.splitOnP (· == '/')
    let pieces := scan seriesPathTokenAt template
    if rawSegments.any (· ∈ unsafeSegments) then
      .error "Series path template contains an unsafe segment."
    else
      match (tokens pieces).find? (· ∉ seriesPathTokens) with
      | some name => .error ("Unsupported series path token: " ++ name)
      | none =>
        if (literals pieces).any isBrace then
          .error "Series path template contains an invalid token."
        else .ok rawSegments

/-- `validate_library_file_template`. -/
def validateLibraryFileTemplate (template : List Char) : Except String Unit :=
  if template = [] ∨ 1024 < utf8Size template then
    .error "Library file template is empty or too long."
  else if template.any fun char => isSlash char || char.toNat < 32 then
    .error "Library file template must produce a single file name."
  else
    let pieces := scan fileTemplateTokenAt template
    match (tokens pieces).find? (· ∉ fileTemplateTokens) with
    | some name => .error ("Unsupported library file token: \x7b" ++ name ++ "\x7d")
    | none =>
      if (literals pieces).any isBrace then
        .error "Library file template contains an invalid token."
      else .ok ()

/-! ### Folders -/

/-- `build_series_relative_path`. -/
def buildSeriesRelativePath (series : Series) (policy : LibraryNamingPolicy) :
    Except String PurePath := do
  let template :=
    if policy.seriesPathTemplate = [] then policy.seriesFolderTemplate
    else policy.seriesPathTemplate
  let rawSegments ← validateSeriesPathTemplate template
  let renderedSegments := rawSegments.map fun segment =>
    formatSeriesFolder series.title series.yearStart series.publisher series.comicvineId
      series.seriesType segment policy.replaceIllegalCharacters policy.colonReplacement
  if renderedSegments.any (·.any isSlash) then
    .error "Series path token rendered an unsafe path separator."
  else if renderedSegments.any (· ∈ unsafeSegments) then
    .error "Series path template rendered an unsafe segment."
  else
    .ok (renderedSegments.foldl (fun path segment => path.join (.parse segment)) ⟨false, []⟩)

/-- The files and links that a target is looked up among. -/
structure Disk where
  tree : Tree (List Char) (Node (List Char))
  /-- The working directory, from the top. -/
  cwd : Path (List Char)

/-- `resolve(strict=False)`. -/
def Disk.resolve (disk : Disk) (path : PurePath) : List (List Char) :=
  disk.tree.resolve (if path.absolute then path.steps else disk.cwd ++ path.steps)

/-- `exists`. -/
def Disk.exists (disk : Disk) (path : PurePath) : Bool :=
  (disk.tree.find (if path.absolute then path.steps else disk.cwd ++ path.steps)).isSome

/-- A path does not lead out of another. -/
def Disk.isInside (disk : Disk) (path root : PurePath) : Bool :=
  (disk.resolve root).isPrefixOf (disk.resolve path)

/-- The series folder that the path template gives. -/
def renderedSeriesFolder (disk : Disk) (series : Series) (root : LibraryRoot)
    (policy : LibraryNamingPolicy) : Except TargetError PurePath :=
  match buildSeriesRelativePath series policy with
  | .error message => .error (.configuration message)
  | .ok relative =>
    let folder := (PurePath.parse root.path).join relative
    if disk.isInside folder (.parse root.path) then .ok folder
    else .error (.configuration "Rendered series path is outside its library root.")

/-- The folder of a series. -/
def seriesFolder (disk : Disk) (series : Series) (root : LibraryRoot)
    (policy : LibraryNamingPolicy) : Except TargetError PurePath :=
  match series.path with
  | none | some [] => renderedSeriesFolder disk series root policy
  | some current =>
    if disk.isInside (.parse current) (.parse root.path) then .ok (.parse current)
    else if series.libraryRootId = some root.id then
      .error (.configuration "Existing series path is outside its library root.")
    else renderedSeriesFolder disk series root policy

/-! ### Files -/

def legacyNonStandardFileTemplates : List (List Char) :=
  ["\x7bSeries\x7d (\x7bYear\x7d) \x7bType\x7d".toList,
    "\x7bSeries\x7d (\x7bYear\x7d) \x7bType\x7d - \x7bTitle\x7d".toList]

/-- `DEFAULT_COLLECTION_NON_STANDARD_FILE_TEMPLATE`. -/
def defaultCollectionNonStandardFileTemplate : List Char :=
  "\x7bSeries\x7d (\x7bYear\x7d) \x7bType\x7d \x7bVolume:02d\x7d - \x7bTitle\x7d".toList

/-- `DEFAULT_SINGLE_NON_STANDARD_FILE_TEMPLATE`. -/
def defaultSingleNonStandardFileTemplate : List Char :=
  "\x7bSeries\x7d (\x7bYear\x7d) \x7bType\x7d - \x7bTitle\x7d".toList

/-- A template, or the default where it is empty or an old default. -/
def resolveTemplate (default template : List Char) : List Char :=
  let normalized := strip template
  if normalized = [] ∨ normalized ∈ legacyNonStandardFileTemplates then default else normalized

/-- The file template of an issue type. -/
def fileTemplate (policy : LibraryNamingPolicy) (issueType : IssueType) : List Char :=
  if issueType = .annual then policy.annualFileTemplate
  else if isNonStandardIssueType issueType then
    if issueTypeSupportsVolume issueType then
      resolveTemplate defaultCollectionNonStandardFileTemplate policy.nonStandardFileTemplate
    else
      resolveTemplate defaultSingleNonStandardFileTemplate policy.singleNonStandardFileTemplate
  else policy.comicFileTemplate

/-- `resolve_naming_issue_type`, by the number of collections of the series. -/
def resolveNamingIssueType (issueType : IssueType) (collectionEntryCount : Nat) : IssueType :=
  match issueType with
  | .tpb | .volume => if 1 < collectionEntryCount then .volume else issueType
  | _ => issueType

def volumeNumber (issue : Issue) (issueType : IssueType) : Option Int :=
  if issueTypeSupportsVolume issueType ∧ issue.issueNumber.den = 1 then some issue.issueNumber.num
  else none

/-- `source_path.suffix.lstrip(".")`. -/
def SourcePath.extension (source : SourcePath) : List Char :=
  (nameSuffix source.name).dropWhile (· == '.')

/-- `compute_target_filename`. -/
def computeTargetFilename (issue : Issue) (series : Series) (source : SourcePath)
    (policy : LibraryNamingPolicy) (issueType : IssueType) :
    Except IssueNumberError (List Char) :=
  formatComicFile series.title series.yearStart (some issue.effectiveIssueNumberText)
    (volumeNumber issue issueType) issueType issue.title series.publisher
    (fileTemplate policy issueType) source.extension policy.replaceIllegalCharacters
    policy.colonReplacement

/-- The name of the target. -/
def targetName (source : SourcePath) (issue : Issue) (series : Series)
    (policy : LibraryNamingPolicy) (rename : Bool) (collectionEntryCount : Nat) :
    Except TargetError (List Char) :=
  if rename then
    match computeTargetFilename issue series source policy
        (resolveNamingIssueType issue.issueType collectionEntryCount) with
    | .error error => .error (.issueNumber error)
    | .ok name => .ok name
  else .ok source.name

/-- `predict_library_target_path`. -/
def predictLibraryTargetPath (disk : Disk) (source : SourcePath) (issue : Issue) (series : Series)
    (root : LibraryRoot) (policy : LibraryNamingPolicy) (rename : Bool)
    (collectionEntryCount : Nat) : Except TargetError PurePath :=
  if ¬ disk.exists (.parse root.path) then
    .error (.configuration ("Comics directory does not exist: " ++ String.ofList root.path))
  else do
    let folder ← seriesFolder disk series root policy
    let name ← targetName source issue series policy rename collectionEntryCount
    .ok (folder.join (.parse name))

end Pullbox.Naming
