import Pullbox.Text.Words

/-!
# Exact issue numbers

The text of an issue number: a decimal without exponent or needless zeros, and a suffix of
letters.
-/

namespace Pullbox.Naming

open Text

inductive IssueNumberError where
  | blank
  | tooLong
  | invalid (raw : List Char)
deriving DecidableEq

/-- A finite `Decimal`. -/
structure DecimalNumber where
  negative : Bool
  coefficient : Nat
  exponent : Int

/-- `_MAX_ISSUE_NUMBER_TEXT_LENGTH`. -/
def maxIssueNumberTextLength : Nat :=
  320

/-- `_format_decimal`. -/
def formatDecimal (value : DecimalNumber) : List Char :=
  if value.coefficient = 0 then ['0']
  else
    let digits := Nat.toDigits 10 value.coefficient
    let places := (-value.exponent).toNat
    let rendered :=
      if 0 ≤ value.exponent then digits ++ List.replicate value.exponent.toNat '0'
      else
        let padded := List.replicate (places + 1 - digits.length) '0' ++ digits
        let fraction := rstripWhile (· == '0') (padded.drop (padded.length - places))
        let whole := padded.take (padded.length - places)
        if fraction = [] then whole else whole ++ '.' :: fraction
    if value.negative then '-' :: rendered else rendered

/-- A sign, if there is one, and what follows. -/
def takeSign : List Char → Bool × List Char
  | '-' :: rest => (true, rest)
  | '+' :: rest => (false, rest)
  | rest => (false, rest)

/-- A text with its decimal digits in ASCII. -/
def asciiDigits (text : List Char) : List Char :=
  text.map fun char =>
    match digitValue char with
    | some value => Nat.digitChar value
    | none => char

def isSpecialNumber (body : List Char) : Bool :=
  let lowered := body.map Char.toLower
  lowered = "inf".toList || lowered = "infinity".toList ||
    ["nan".toList, "snan".toList].any fun name =>
      name.isPrefixOf lowered && (lowered.drop name.length).all Char.isDigit

/-- A number as a text with ASCII digits spells it; one that is not finite is none. -/
def scanDecimal (clean : List Char) : Option (Option DecimalNumber) :=
  let (negative, body) := takeSign clean
  let whole := body.takeWhile Char.isDigit
  let (fraction, rest) :=
    match body.dropWhile Char.isDigit with
    | '.' :: more => (more.takeWhile Char.isDigit, more.dropWhile Char.isDigit)
    | rest => ([], rest)
  if whole = [] ∧ fraction = [] then
    if isSpecialNumber body then some none else none
  else
    let coefficient := decimalValue (whole ++ fraction)
    match rest with
    | [] => some (some ⟨negative, coefficient, -fraction.length⟩)
    | mark :: more =>
      let (smaller, digits) := takeSign more
      if mark.toLower = 'e' ∧ digits ≠ [] ∧ digits.all Char.isDigit then
        let power : Int := decimalValue digits
        some (some ⟨negative, coefficient, (if smaller then -power else power) - fraction.length⟩)
      else none

/-- The exponents of a number that is held as it is: none is above `MAX_EMAX` or below
`MIN_ETINY`. -/
def DecimalNumber.isExact (number : DecimalNumber) : Bool :=
  -1999999999999999997 ≤ number.exponent &&
    number.exponent + (Nat.toDigits 10 number.coefficient).length ≤ 1000000000000000000

/-- `Decimal`, of a text; a number that is not finite is none. -/
def parseDecimal (text : List Char) : Option (Option DecimalNumber) :=
  match scanDecimal (asciiDigits ((strip text).filter (· ≠ '_'))) with
  | some (some number) => if number.isExact then some (some number) else none
  | other => other

/-- The letters at the end of a text. -/
def letterSuffix (text : List Char) : List Char :=
  (text.reverse.takeWhile Char.isAlpha).reverse

def beforeSuffix (text : List Char) : List Char :=
  (text.reverse.dropWhile Char.isAlpha).reverse

/-- The number of `_NUMERIC_SUFFIX_PATTERN`. -/
def isPlainNumber (text : List Char) : Bool :=
  let (_, body) := takeSign text
  let isDecimal := fun char => (digitValue char).isSome
  let whole := body.takeWhile isDecimal
  match body.dropWhile isDecimal with
  | [] => whole ≠ []
  | '.' :: fraction => fraction.all isDecimal && (whole ≠ [] || fraction ≠ [])
  | _ => false

/-- The fractions that are written with one character. -/
def spellFractions (text : List Char) : List Char :=
  text.flatMap fun char =>
    if char = '½' then ".5".toList
    else if char = '¼' then ".25".toList
    else if char = '¾' then ".75".toList
    else [char]

/-- The text without white space between a number and its suffix. -/
def closeSuffix (text : List Char) : List Char :=
  let suffix := letterSuffix text
  let number := rstripWhile isSpace (beforeSuffix text)
  match number.getLast? with
  | none => text
  | some last =>
    if suffix ≠ [] ∧ (last.isDigit || last == '.') then number ++ suffix else text

/-- `_issue_number_parts`. -/
def issueNumberParts (value : List Char) : Except IssueNumberError (DecimalNumber × List Char) :=
  let raw := strip value
  if raw = [] then .error .blank
  else if maxIssueNumberTextLength < raw.length then .error .tooLong
  else
    let normalized := closeSuffix (spellFractions raw)
    let parsed : Option (Option DecimalNumber × List Char) :=
      match parseDecimal normalized with
      | some number => some (number, [])
      | none =>
        if letterSuffix normalized ≠ [] ∧ isPlainNumber (beforeSuffix normalized) then
          (parseDecimal (beforeSuffix normalized)).map fun number =>
            (number, (letterSuffix normalized).map Char.toUpper)
        else none
    match parsed with
    | none | some (none, _) => .error (.invalid raw)
    | some (some number, suffix) =>
      let text := formatDecimal number ++ suffix
      if maxIssueNumberTextLength < text.length then .error .tooLong else .ok (number, text)

/-- `normalize_issue_number_text`. -/
def normalizeIssueNumberText (value : List Char) : Except IssueNumberError (List Char) :=
  (issueNumberParts value).map Prod.snd

end Pullbox.Naming
