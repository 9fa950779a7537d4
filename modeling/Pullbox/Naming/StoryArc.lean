import Mathlib.Data.List.Infix
import Pullbox.Files.Pure
import Pullbox.Naming.Sanitize

/-!
# Paths of story arc placements

The folder and the file of a placement, rendered from two templates and the values of an arc
entry; or the exact name of the library file, behind a rendered prefix.
-/

namespace Pullbox.Naming

open Text

inductive NamingError where
  /-- `ValueError`. -/
  | value (message : String)
  /-- `StoryArcOriginalFilenameError`. -/
  | originalFilename (message : String)
deriving DecidableEq

/-- What the tokens stand for. -/
structure StoryArcNamingValues where
  storyArc : List Char
  readingOrder : Int
  series : List Char
  issueNumber : List Char
  extension : List Char
  issueTitle : Option (List Char) := none
  year : Option Int := none
  startYear : Option Int := none
  endYear : Option Int := none
  publisher : Option (List Char) := none
  originalFilename : Option (List Char) := none

/-! ### Templates -/

/-- `DEFAULT_STORY_ARC_FOLDER_TEMPLATE`. -/
def defaultStoryArcFolderTemplate : List Char :=
  "\x7bStoryArc\x7d".toList

/-- `DEFAULT_STORY_ARC_FILE_TEMPLATE`. -/
def defaultStoryArcFileTemplate : List Char :=
  "\x7bReadingOrder:03d\x7d - \x7bSeries\x7d \x7bIssueNumber\x7d\x7bIssueTitleOptional\x7d".toList

structure TemplateToken where
  name : String
  format : Option (List Char)

/-- `_TOKEN_RE`, with the length of its match. -/
def tokenAt : List Char → Option (TemplateToken × Nat)
  | '{' :: rest =>
    let name := rest.takeWhile Char.isAlphanum
    match name, rest.dropWhile Char.isAlphanum with
    | first :: _, '}' :: _ =>
      if first.isAlpha then some (⟨String.ofList name, none⟩, name.length + 2) else none
    | first :: _, ':' :: more =>
      let format := more.takeWhile fun char => char != '{' && char != '}'
      match format, more.dropWhile fun char => char != '{' && char != '}' with
      | _ :: _, '}' :: _ =>
        if first.isAlpha then
          some (⟨String.ofList name, some format⟩, name.length + format.length + 3)
        else none
      | _, _ => none
    | _, _ => none
  | _ => none

/-- `_CONTROL_RE`. -/
def isControl (char : Char) : Bool :=
  char.toNat ≤ 0x1f || char.toNat == 0x7f

def folderTokens : List String :=
  ["StoryArc", "Publisher", "StartYear", "EndYear", "SpanYears"]

def fileTokens : List String :=
  ["ReadingOrder", "Series", "IssueNumber", "IssueTitle", "IssueTitleOptional", "Year",
    "Extension", "OriginalFilename"]

/-- `_validate_template`. -/
def validateTemplate (template : List Char) (allowedTokens : List String) (kind : String) :
    Except NamingError (List TemplateToken) :=
  if template = [] ∨ 1024 < utf8Size template then
    .error (.value ("Story-arc " ++ kind ++ " template is empty or too long"))
  else if template.any fun char => isSlash char || isControl char then
    .error (.value ("Story-arc " ++ kind ++ " template must produce one safe path segment"))
  else
    let pieces := scan tokenAt template
    match (tokens pieces).find? fun token => token.name ∉ allowedTokens with
    | some token => .error (.value ("Unsupported story-arc " ++ kind ++ " token: " ++ token.name))
    | none =>
      if (literals pieces).any fun char => char == '{' || char == '}' then
        .error (.value ("Story-arc " ++ kind ++ " template contains an invalid token"))
      else .ok (tokens pieces)

/-- `validate_story_arc_folder_template`. -/
def validateStoryArcFolderTemplate (template : List Char) :
    Except NamingError (List TemplateToken) :=
  validateTemplate template folderTokens "folder"

/-- `_READING_ORDER_FORMAT_RE`, on a whole format. -/
def isReadingOrderFormat : List Char → Bool
  | ['0', width, 'd'] => '2' ≤ width && width ≤ '6'
  | [width, 'd'] => '2' ≤ width && width ≤ '6'
  | _ => false

def originalFilenameToken : List Char :=
  "\x7bOriginalFilename\x7d".toList

/-- The formats of file tokens; only the reading order has one. -/
def validateFormats : List TemplateToken → Except NamingError Unit
  | [] => .ok ()
  | token :: rest =>
    match token.format with
    | none => validateFormats rest
    | some format =>
      if token.name = "ReadingOrder" then
        if isReadingOrderFormat format then validateFormats rest
        else
          .error (.value "ReadingOrder format must be a bounded width from 2d through 6d")
      else
        .error (.value ("Formatting is not supported for story-arc token: " ++ token.name))

/-- `validate_story_arc_file_template`. -/
def validateStoryArcFileTemplate (template : List Char) : Except NamingError Unit := do
  let found ← validateTemplate template fileTokens "file"
  let names := found.map (·.name)
  if "OriginalFilename" ∈ names ∧ (names.count "OriginalFilename" ≠ 1 ∨ "Extension" ∈ names ∨
      ¬ originalFilenameToken <:+ template) then
    .error (.value "OriginalFilename must appear once at the end, without an Extension token")
  else validateFormats found

/-- `removesuffix`. -/
def removeSuffix (suffix text : List Char) : List Char :=
  if suffix <:+ text then text.take (text.length - suffix.length) else text

/-- `format`, of a number that is not negative. -/
def formatOrder (order : Nat) (format : Option (List Char)) : List Char :=
  let digits := Nat.toDigits 10 order
  match format with
  | some ['0', width, _] => List.replicate (width.toNat - '0'.toNat - digits.length) '0' ++ digits
  | some [width, _] => List.replicate (width.toNat - '0'.toNat - digits.length) ' ' ++ digits
  | _ => digits

/-- `_render_template`. -/
def renderTemplate (template : List Char) (values : String → List Char) (readingOrder : Nat) :
    List Char :=
  substitute (fun token =>
    if token.name = "ReadingOrder" then formatOrder readingOrder token.format
    else values token.name) (scan tokenAt template)

/-! ### The original file name -/

/-- `_WINDOWS_DEVICE_NAME_RE`, on a whole name without case. -/
def windowsDeviceNames : List (List Char) :=
  ["con".toList, "prn".toList, "aux".toList, "nul".toList, "conin$".toList, "conout$".toList] ++
    "123456789¹²³".toList.map ("com".toList ++ [·]) ++
    "123456789¹²³".toList.map ("lpt".toList ++ [·])

/-- A character without its case, as far as device names go. -/
def ignoreCase (char : Char) : Char :=
  if char == 'İ' || char == 'ı' then 'i' else char.toLower

/-- `casefold`, as far as the result is ASCII. -/
def casefold (char : Char) : List Char :=
  match char.toNat with
  | 0x212a => ['k']
  | 0x17f => ['s']
  | 0xdf | 0x1e9e => ['s', 's']
  | 0xfb00 => ['f', 'f']
  | 0xfb01 => ['f', 'i']
  | 0xfb02 => ['f', 'l']
  | 0xfb03 => ['f', 'f', 'i']
  | 0xfb04 => ['f', 'f', 'l']
  | 0xfb05 | 0xfb06 => ['s', 't']
  | _ => [char.toLower]

/-- `lower`, as far as the result is ASCII. -/
def lower (char : Char) : Char :=
  if char.toNat = 0x212a then 'k' else char.toLower

/-- `PureWindowsPath(filename).name == filename`. -/
def isWindowsName (filename : List Char) : Bool :=
  !filename.any isSlash && (filename.drop 1).head? ≠ some ':' && filename ≠ ['.']

/-- `_validated_original_filename`. -/
def validatedOriginalFilename (filename : Option (List Char)) (extension : List Char) :
    Except NamingError (List Char) :=
  match filename with
  | none | some [] =>
    .error (.originalFilename "Original filename requires a canonical file")
  | some filename =>
    if 240 < utf8Size filename ∨ ¬ isWindowsName filename ∨
        filename.any (fun char => isControl char || (0x80 ≤ char.toNat && char.toNat ≤ 0x9f)) ∨
        filename.getLast? = some '.' ∨ filename.getLast? = some ' ' ∨
        (rstripWhile (· == ' ') (filename.takeWhile (· ≠ '.'))).map ignoreCase ∈
          windowsDeviceNames ∨
        sanitizeForFilesystem true "dash" (collapse filename) ≠ collapse filename ∨
        (Files.nameSuffix filename).flatMap casefold ≠ '.' :: extension then
      .error (.originalFilename
        "Original filename cannot be preserved safely with the canonical extension")
    else .ok filename

/-! ### The path -/

/-- `Path(folder, file)`. -/
structure RelativePath where
  folder : List Char
  file : List Char
deriving DecidableEq

/-- `str`, of a year that may be missing. -/
def yearText : Option Int → List Char
  | none => []
  | some year =>
    if year < 0 then '-' :: Nat.toDigits 10 year.natAbs else Nat.toDigits 10 year.toNat

def spanYears (startYear endYear : List Char) : List Char :=
  if startYear ≠ [] ∧ endYear ≠ [] ∧ startYear ≠ endYear then
    startYear ++ " - ".toList ++ endYear
  else if startYear ≠ [] then startYear else endYear

/-- A value that may be missing or empty, behind a text. -/
def optionalValue (safe : List Char → List Char) (before : List Char) :
    Option (List Char) → List Char
  | none | some [] => []
  | some value => before ++ safe value

def folderValue (safe : List Char → List Char) (values : StoryArcNamingValues) :
    String → List Char
  | "StoryArc" => safe values.storyArc
  | "Publisher" => optionalValue safe [] values.publisher
  | "StartYear" => yearText values.startYear
  | "EndYear" => yearText values.endYear
  | "SpanYears" => spanYears (yearText values.startYear) (yearText values.endYear)
  | _ => []

def fileValue (safe : List Char → List Char) (values : StoryArcNamingValues)
    (issueNumber extension : List Char) : String → List Char
  | "Series" => safe values.series
  | "IssueNumber" => safe issueNumber
  | "IssueTitle" => optionalValue safe [] values.issueTitle
  | "IssueTitleOptional" => optionalValue safe " - ".toList values.issueTitle
  | "Year" => yearText values.year
  | "Extension" => extension
  | _ => []

/-- The extension as it is used. -/
def cleanExtension (extension : List Char) : List Char :=
  ((strip extension).dropWhile (· == '.')).map lower

def isExtension (extension : List Char) : Bool :=
  1 ≤ extension.length && extension.length ≤ 10 &&
    extension.all fun char => char.isLower || char.isDigit

/-- Whether the file keeps its original name. -/
def keepsOriginal (fileTemplate : List Char) : Bool :=
  fileTemplate.tails.any (originalFilenameToken.isPrefixOf ·)

def extensionToken : List Char :=
  "\x7bExtension\x7d".toList

/-- The text of a folder, before it is sanitized. -/
def folderText (safe : List Char → List Char) (values : StoryArcNamingValues)
    (folderTemplate : List Char) : List Char :=
  renderTemplate folderTemplate (folderValue safe values) values.readingOrder.toNat

/-- The text of a file that does not keep its original name, before it is sanitized. -/
def fileText (safe : List Char → List Char) (values : StoryArcNamingValues)
    (fileTemplate issueNumber extension : List Char) : List Char :=
  let rendered := renderTemplate fileTemplate (fileValue safe values issueNumber extension)
    values.readingOrder.toNat
  if fileTemplate.tails.any (extensionToken.isPrefixOf ·) then rendered
  else rendered ++ '.' :: extension

/-- The file of a path. -/
def renderFile (safe : List Char → List Char) (values : StoryArcNamingValues)
    (fileTemplate issueNumber extension : List Char) : Except NamingError (List Char) :=
  if keepsOriginal fileTemplate then
    match validatedOriginalFilename values.originalFilename extension with
    | .error error => .error error
    | .ok original =>
      let before := renderTemplate (removeSuffix originalFilenameToken fileTemplate)
        (fileValue safe values issueNumber extension) values.readingOrder.toNat
      -- the sentinel keeps a space at the end of the prefix
      let safePrefix := (safe (before ++ ['x'])).dropLast
      validatedOriginalFilename (some (safePrefix ++ original)) extension
  else
    .ok (safe (fileText safe values fileTemplate issueNumber extension))

/-- `render_story_arc_relative_path`. -/
def renderStoryArcRelativePath (values : StoryArcNamingValues)
    (folderTemplate fileTemplate : List Char) (replaceIllegal : Bool)
    (colonReplacement : String) : Except NamingError RelativePath := do
  let _ ← validateStoryArcFolderTemplate folderTemplate
  validateStoryArcFileTemplate fileTemplate
  let issueNumber := strip values.issueNumber
  let extension := cleanExtension values.extension
  let safe := sanitizeForFilesystem replaceIllegal colonReplacement
  let safeFolder := safe (folderText safe values folderTemplate)
  if values.readingOrder < 0 then
    .error (.value "Story-arc reading order must not be negative")
  else if issueNumber = [] ∨ issueNumber.any isControl then
    .error (.value "Story-arc issue number must be a non-empty exact value")
  else if ¬ isExtension extension then
    .error (.value "Story-arc source extension is invalid")
  else do
    let safeFile ← renderFile safe values fileTemplate issueNumber extension
    if safeFolder ∈ [[], ['.'], ['.', '.']] ∨ safeFile ∈ [[], ['.'], ['.', '.']] then
      .error (.value "Story-arc template rendered an unsafe path")
    else .ok ⟨safeFolder, safeFile⟩

end Pullbox.Naming
