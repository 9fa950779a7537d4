import Pullbox.Naming.IssueNumber
import Pullbox.Naming.Sanitize

/-!
# Names of series folders and comic files

A name is its template with each token replaced in turn, tidied and sanitized.
-/

namespace Pullbox.Naming

open Text

inductive SeriesType where
  | standard | annual | tpb | omnibus | graphicNovel | hardcover | oneShot | special
  | compendium | deluxe | volume

inductive IssueType where
  | issue | annual | tpb | omnibus | gn | ogn | hc | oneShot | special | deluxe
  | compendium | volume
deriving DecidableEq

/-- `_series_type_display_name`. -/
def seriesTypeDisplayName : Option SeriesType → List Char
  | none | some .standard => []
  | some .annual => "Annual".toList
  | some .tpb => "TPB".toList
  | some .omnibus => "Omnibus".toList
  | some .graphicNovel => "GN".toList
  | some .hardcover => "HC".toList
  | some .oneShot => "One-Shot".toList
  | some .special => "Special".toList
  | some .compendium => "Compendium".toList
  | some .deluxe => "Deluxe".toList
  | some .volume => "Vol".toList

/-- `_issue_type_display_name`. -/
def issueTypeDisplayName : IssueType → List Char
  | .issue => []
  | .annual => "Annual".toList
  | .tpb => "TPB".toList
  | .omnibus => "Omnibus".toList
  | .gn => "GN".toList
  | .ogn => "OGN".toList
  | .hc => "HC".toList
  | .oneShot => "One-Shot".toList
  | .special => "Special".toList
  | .deluxe => "Deluxe".toList
  | .compendium => "Compendium".toList
  | .volume => "Vol".toList

/-- `issue_type_supports_volume`. -/
def issueTypeSupportsVolume : IssueType → Bool
  | .tpb | .volume | .omnibus | .compendium | .hc | .deluxe => true
  | _ => false

/-- `is_non_standard_issue_type`. -/
def isNonStandardIssueType : IssueType → Bool
  | .issue | .annual => false
  | _ => true

/-- A number as text. -/
def numberText (number : Int) : List Char :=
  if number < 0 then '-' :: Nat.toDigits 10 number.natAbs else Nat.toDigits 10 number.toNat

/-- A number that counts, or the word for an unknown one. -/
def numberOrUnknown : Option Int → List Char
  | none | some 0 => unknown
  | some number => numberText number

/-- The tokens of a name and what they are replaced by, in turn. -/
abbrev Replacements :=
  List (List Char × List Char)

def replaceTokens (replacements : Replacements) (template : List Char) : List Char :=
  replacements.foldl (fun name replacement => replaceAll replacement.1 replacement.2 name) template

/-- A text without pairs of the two characters that have only white space between them; so many
characters are still those of a pair. -/
def dropEmptyFrom (opening closing : Char) : Nat → List Char → List Char
  | _, [] => []
  | skipped + 1, _ :: rest => dropEmptyFrom opening closing skipped rest
  | 0, char :: rest =>
    if char = opening ∧ (rest.dropWhile isSpace).head? = some closing then
      dropEmptyFrom opening closing ((rest.takeWhile isSpace).length + 1) rest
    else
      char :: dropEmptyFrom opening closing 0 rest

def dropEmpty (opening closing : Char) (text : List Char) : List Char :=
  dropEmptyFrom opening closing 0 text

/-! ### Series folders -/

def seriesFolderReplacements (safe : List Char → List Char) (title : List Char)
    (year : Option Int) (publisher : Option (List Char)) (comicvineId : Option Int)
    (seriesType : Option SeriesType) : Replacements :=
  [("\x7bSeries\x7d".toList, safe title),
    ("\x7bYear\x7d".toList, numberOrUnknown year),
    ("\x7bPublisher\x7d".toList,
      safe (if publisher.getD [] = [] then unknown else publisher.getD [])),
    ("\x7bComicVineId\x7d".toList, numberOrUnknown comicvineId),
    ("\x7bType\x7d".toList, seriesTypeDisplayName seriesType)]

/-- `format_series_folder`. -/
def formatSeriesFolder (title : List Char) (year : Option Int) (publisher : Option (List Char))
    (comicvineId : Option Int) (seriesType : Option SeriesType) (template : List Char)
    (replaceIllegal : Bool) (colonReplacement : String) : List Char :=
  let safe := sanitizeForFilesystem replaceIllegal colonReplacement
  let name := replaceTokens
    (seriesFolderReplacements safe title year publisher comicvineId seriesType) template
  safe (collapse (dropEmpty '[' ']' (dropEmpty '(' ')' name)))

/-! ### Comic files -/

/-- `zfill`, of digits. -/
def zfill (width : Nat) (digits : List Char) : List Char :=
  List.replicate (width - digits.length) '0' ++ digits

/-- The issue text with its integer part padded. -/
def padIssue (text : List Char) : List Char :=
  let sign := (text.take 1).filter fun char => char == '+' || char == '-'
  let rest := text.drop sign.length
  let digits := rest.takeWhile Char.isDigit
  if digits = [] then text
  else sign ++ zfill (3 - sign.length) digits ++ rest.drop digits.length

/-- A volume with two digits. -/
def padVolume (volume : Int) : List Char :=
  if volume < 0 then '-' :: zfill 1 (Nat.toDigits 10 volume.natAbs)
  else zfill 2 (Nat.toDigits 10 volume.toNat)

/-- A value that is sanitized and stripped, or another text where it is missing. -/
def strippedValue (safe : List Char → List Char) (missing : List Char) :
    Option (List Char) → List Char
  | none | some [] => missing
  | some value => strip (safe value)

def comicFileReplacements (safe : List Char → List Char) (series : List Char)
    (year : Option Int) (issueType : IssueType) (title publisher : Option (List Char)) :
    Replacements :=
  [("\x7bSeries\x7d".toList, safe series),
    ("\x7bYear\x7d".toList, numberOrUnknown year),
    ("\x7bType\x7d".toList, issueTypeDisplayName issueType),
    ("\x7bIssueTitle\x7d".toList, strippedValue safe [] title),
    ("\x7bTitle\x7d".toList, strippedValue safe [] title),
    ("\x7bPublisher\x7d".toList, strippedValue safe unknown publisher),
    ("\x7bEdition\x7d".toList, [])]

def issueReplacements : Option (List Char) → Replacements
  | none =>
    [("#\x7bIssue:03d\x7d".toList, []), ("\x7bIssue:03d\x7d".toList, []),
      ("#\x7bIssue\x7d".toList, []), ("\x7bIssue\x7d".toList, [])]
  | some text =>
    [("\x7bIssue:03d\x7d".toList, padIssue text), ("\x7bIssue\x7d".toList, text)]

def volumeReplacements : Option Int → Replacements
  | none =>
    [("v\x7bVolume:02d\x7d".toList, []), ("\x7bVolume:02d\x7d".toList, []),
      ("v\x7bVolume\x7d".toList, []), ("\x7bVolume\x7d".toList, [])]
  | some volume =>
    [("\x7bVolume:02d\x7d".toList, padVolume volume), ("\x7bVolume\x7d".toList, numberText volume)]

/-- The white space and dashes that a name does not end in. -/
def isTrailingSeparator (char : Char) : Bool :=
  char == ' ' || char == '\t' || char == '\r' || char == '\n' || char.toNat == 0xc ||
    char.toNat == 0xb || char == '-'

/-- What is left of a name once its missing tokens are tidied away. -/
def tidyName (name : List Char) : List Char :=
  let collapsed := collapse name
  let parens := strip (dropEmpty '(' ')' collapsed)
  let brackets := strip (dropEmpty '[' ']' parens)
  strip (rstripWhile isTrailingSeparator brackets)

/-- The replacements of a comic file's tokens; the issue text is normalized. -/
def fileReplacements (safe : List Char → List Char) (series : List Char) (year : Option Int)
    (issueText : Option (List Char)) (volume : Option Int) (issueType : IssueType)
    (title publisher : Option (List Char)) : Replacements :=
  comicFileReplacements safe series year issueType title publisher ++
    issueReplacements issueText ++ volumeReplacements volume

/-- A comic file's name before it is sanitized, and without its extension. -/
def comicFileText (safe : List Char → List Char) (series : List Char) (year : Option Int)
    (issueText : Option (List Char)) (volume : Option Int) (issueType : IssueType)
    (title publisher : Option (List Char)) (template : List Char) : List Char :=
  tidyName (replaceTokens
    (fileReplacements safe series year issueText volume issueType title publisher) template)

/-- `format_comic_file`. -/
def formatComicFile (series : List Char) (year : Option Int) (issue : Option (List Char))
    (volume : Option Int) (issueType : IssueType) (title publisher : Option (List Char))
    (template extension : List Char) (replaceIllegal : Bool) (colonReplacement : String) :
    Except IssueNumberError (List Char) := do
  let safe := sanitizeForFilesystem replaceIllegal colonReplacement
  let issueText ←
    match issue with
    | none => .ok none
    | some issue => (normalizeIssueNumberText issue).map some
  let text := comicFileText safe series year issueText volume issueType title publisher template
  .ok (safe text ++ '.' :: extension)

end Pullbox.Naming
