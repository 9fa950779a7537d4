import Mathlib.Data.Char
import Mathlib.Data.List.Lex
import Mathlib.Data.Sum.Order
import Pullbox.Files.Pure
import Pullbox.Search.Stable
import Pullbox.Text.Characters

/-!
# Names of reader pages

Which members of a comic are pages, by their names alone, and the natural order of the pages: runs
of digits go by the number they spell, other text by its folded characters.
-/

namespace Pullbox.Reader

open Files

abbrev Name := List Char

/-- `replace("\\", "/")`. -/
def normalized (name : Name) : Name :=
  name.map fun char => if char = '\\' then '/' else char

/-- `PurePosixPath(name).parts`. -/
def parts (name : Name) : Path Name :=
  (PurePath.parse name).steps

/-- `_IMAGE_MEDIA_TYPES`. -/
def imageMediaTypes : List (String × String) :=
  [(".jpg", "image/jpeg"), (".jpeg", "image/jpeg"), (".png", "image/png"),
    (".webp", "image/webp"), (".gif", "image/gif"), (".bmp", "image/bmp"), (".tif", "image/tiff"),
    (".tiff", "image/tiff")]

/-- `media_type_for_name`. No other character has an ASCII letter of these suffixes as its lower
case. -/
def mediaTypeForName (name : Name) : Option String :=
  imageMediaTypes.lookup
    (String.ofList ((nameSuffix (PurePath.finalName name)).map Char.toLower))

/-- A path that is absolute, empty or leads up. -/
def unsafePath (name : Name) : Bool :=
  (PurePath.parse name).absolute || (parts name).isEmpty || .up ∈ parts name

/-- A part that is hidden. -/
def hiddenPart (part : Step Name) : Bool :=
  match part with
  | .up => true
  | .name name => name = "__MACOSX".toList || name.head? = some '.'

/-- The page name of a member, if its name is one of a page. -/
def pageName (rawName : Name) : Option Name :=
  let name := normalized rawName
  if unsafePath name || (parts name).any hiddenPart || (mediaTypeForName name).isNone then none
  else some name

/-! ### Natural order -/

/-- The characters that `isdigit` accepts and `\d` and `int` do not, first and last of each run. -/
def otherDigits : List (ℕ × ℕ) :=
  [(0xb2, 0xb3), (0xb9, 0xb9), (0x1369, 0x1371), (0x19da, 0x19da), (0x2070, 0x2070),
    (0x2074, 0x2079), (0x2080, 0x2089), (0x2460, 0x2468), (0x2474, 0x247c), (0x2488, 0x2490),
    (0x24ea, 0x24ea), (0x24f5, 0x24fd), (0x24ff, 0x24ff), (0x2776, 0x277e), (0x2780, 0x2788),
    (0x278a, 0x2792), (0x10a40, 0x10a43), (0x10e60, 0x10e68), (0x11052, 0x1105a),
    (0x1f100, 0x1f10a)]

/-- `\d`. -/
def isDecimal (char : Char) : Bool :=
  (Text.digitValue char).isSome

/-- `isdigit`, of one character. -/
def isDigit (char : Char) : Bool :=
  isDecimal char ||
    otherDigits.any fun run => run.1 ≤ char.toNat && char.toNat ≤ run.2

/-- The longest text of digits that `int` reads. -/
def maxIntDigits : ℕ := 4300

/-- `int`, of a text of digits; a `ValueError` is raised for digits that are not decimal and for
too many of them. -/
def intOf (digits : Name) : Option ℕ :=
  if digits.all isDecimal ∧ digits.length ≤ maxIntDigits then some (Text.decimalValue digits)
  else none

/-- `_NATURAL_PARTS.split`: the runs of decimal digits and of other characters. -/
def naturalParts : Name → List Name
  | [] => []
  | char :: rest =>
    match naturalParts rest with
    | (next :: run) :: later =>
      if isDecimal char = isDecimal next then (char :: next :: run) :: later
      else [char] :: (next :: run) :: later
    | later => [char] :: later

/-- `(0, int(part), len(part))` or `(1, part, 0)`. -/
abbrev KeyPart := (ℕ ×ₗ ℕ) ⊕ₗ Name

def keyPart (part : Name) : Option KeyPart :=
  if part.all isDigit then
    (intOf part).map fun number => toLex (.inl (toLex (number, part.length)))
  else some (toLex (.inr part))

/-- NFC and case folding, of the Unicode library. -/
abbrev Folding := Name → Name

/-- `_natural_path_key`; nothing where it raises a `ValueError`. -/
def naturalPathKey (fold : Folding) (value : Name) : Option (List KeyPart) :=
  (naturalParts (fold value)).mapM keyPart

/-- The key to sort by, where all keys are defined. -/
def sortKey (fold : Folding) (name : Name) : List KeyPart :=
  (naturalPathKey fold name).getD []

/-- `canonical_page_names`; nothing where it raises a `ValueError`. -/
def canonicalPageNames (fold : Folding) (names : List Name) : Option (List Name) :=
  let pages := names.filterMap pageName
  if pages.all fun name => (naturalPathKey fold name).isSome then
    some (Sorting.sortOn (sortKey fold) pages)
  else none

end Pullbox.Reader
