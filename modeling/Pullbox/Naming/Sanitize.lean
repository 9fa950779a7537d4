import Pullbox.Text.Words

/-!
# Names for the file system

How a text becomes the name of a file or folder. A slash or backslash only survives where
illegal characters are not replaced.
-/

namespace Pullbox.Naming

open List Text

variable {char : Char} {name : List Char} {colonReplacement : String} {replaceIllegal : Bool}

/-- The sides of a place where a path is cut. -/
def isSlash (char : Char) : Bool :=
  char == '/' || char == '\\'

/-- `_ILLEGAL_CHARS`. -/
def isIllegal (char : Char) : Bool :=
  char == '<' || char == '>' || char == ':' || char == '"' || isSlash char || char == '|' ||
    char == '?' || char == '*' || char.toNat ≤ 0x1f

/-- `_COLON_REPLACEMENTS`. -/
def colonReplacements : String → List Char
  | "dash" => " -".toList
  | "space" => " ".toList
  | "empty" => []
  | "smart" => " —".toList
  | _ => " -".toList

/-- `_RESERVED_NAMES`. -/
def reservedNames : List (List Char) :=
  ["CON".toList, "PRN".toList, "AUX".toList, "NUL".toList] ++
    "123456789".toList.map ("COM".toList ++ [·]) ++ "123456789".toList.map ("LPT".toList ++ [·])

/-- `_replace_slash_separators`, with the output so far, and whether the white space after a
separator is still skipped. -/
def replaceSlashSeparatorsFrom : Bool → List Char → List Char → List Char
  | _, output, [] => output
  | skipping, output, char :: rest =>
    if isSlash char then
      let trimmed := rstripWhile isSpace output
      let spaced :=
        if trimmed ≠ [] ∧ trimmed.getLast? ≠ some ' ' then trimmed ++ [' '] else trimmed
      replaceSlashSeparatorsFrom true (spaced ++ ['-', ' ']) rest
    else if skipping && isSpace char then
      replaceSlashSeparatorsFrom true output rest
    else
      replaceSlashSeparatorsFrom false (output ++ [char]) rest

def replaceSlashSeparators (value : List Char) : List Char :=
  replaceSlashSeparatorsFrom false [] value

def replaceIllegalCharacters (colonReplacement : String) (name : List Char) : List Char :=
  let replaced := name.flatMap fun char =>
    if char = ':' then colonReplacements colonReplacement else [char]
  (replaceSlashSeparators replaced).filter fun char => !isIllegal char

/-- A dot or a space, as stripped from the end. -/
def isTrailing (char : Char) : Bool :=
  char == '.' || char == ' '

/-- A reserved device name is marked. -/
def markReserved (name : List Char) : List Char :=
  if (name.takeWhile (· ≠ '.')).map Char.toUpper ∈ reservedNames then '_' :: name else name

/-- The name from its end, cut until it takes at most 230 bytes. -/
def cutReversed : List Char → List Char
  | [] => []
  | [char] => [char]
  | char :: next :: rest =>
    if 230 < utf8Size (char :: next :: rest) then cutReversed (next :: rest)
    else char :: next :: rest

def limitSize (name : List Char) : List Char :=
  if 240 < utf8Size name then rstripWhile isTrailing (cutReversed name.reverse).reverse
  else name

def unknown : List Char :=
  "Unknown".toList

/-- A text without white space, dots or reserved names that the file system minds, of any size. -/
def unlimited (text : List Char) : List Char :=
  markReserved (rstripWhile isTrailing (collapse text))

/-- A text that sanitising does not cut. -/
def Short (text : List Char) : Prop :=
  utf8Size (unlimited text) ≤ 240

/-- The rest of `sanitize_for_filesystem` once illegal characters are replaced. -/
def tidy (text : List Char) : List Char :=
  if limitSize (unlimited text) = [] then unknown else limitSize (unlimited text)

/-- `sanitize_for_filesystem`. -/
def sanitizeForFilesystem (replaceIllegal : Bool) (colonReplacement : String)
    (name : List Char) : List Char :=
  if name = [] then unknown
  else if replaceIllegal then tidy (replaceIllegalCharacters colonReplacement name)
  else tidy name

/-! ### Where characters come from -/

theorem mem_markReserved (inside : char ∈ markReserved name) : char = '_' ∨ char ∈ name := by
  unfold markReserved at inside
  split at inside
  · exact mem_cons.1 inside
  · exact .inr inside

theorem markReserved_suffix : name <:+ markReserved name := by
  unfold markReserved
  split
  · exact suffix_cons _ _
  · exact suffix_refl _

theorem cutReversed_suffix : cutReversed name <:+ name := by
  induction name using cutReversed.induct with
  | case1 => exact suffix_refl _
  | case2 char => exact suffix_refl _
  | case3 char next rest large ih =>
    unfold cutReversed
    rw [if_pos large]
    exact ih.trans (suffix_cons _ _)
  | case4 char next rest small =>
    have whole : cutReversed (char :: next :: rest) = char :: next :: rest := by
      unfold cutReversed
      exact if_neg small
    exact ⟨[], by rw [whole, nil_append]⟩

theorem limitSize_subset : limitSize name ⊆ name := by
  unfold limitSize
  split
  · intro char inside
    have cut := mem_reverse.1 (rstripWhile_subset inside)
    exact mem_reverse.1 (cutReversed_suffix.subset cut)
  · exact List.Subset.refl _

theorem mem_tidy (inside : char ∈ tidy name) :
    char ∈ unknown ∨ char = '_' ∨ char = ' ' ∨ char ∈ name := by
  unfold tidy at inside
  split at inside
  · exact .inl inside
  · right
    rcases mem_markReserved (limitSize_subset inside) with mark | kept
    · exact .inl mark
    · right
      have collapsed : char ∈ collapse name := rstripWhile_subset kept
      exact (mem_collapse collapsed).imp_right And.left

/-- A separator is none of the characters that sanitising adds or looks for. -/
theorem slash_plain (slash : isSlash char = true) :
    char ∉ unknown ∧ char ≠ '_' ∧ char ≠ ' ' ∧ isSpace char = false ∧ isTrailing char = false := by
  rcases Bool.or_eq_true_iff.1 slash with forward | backward
  · rw [beq_iff_eq.1 forward]
    decide
  · rw [beq_iff_eq.1 backward]
    decide

theorem slash_of_mem_tidy (inside : char ∈ tidy name) (slash : isSlash char = true) :
    char ∈ name := by
  obtain ⟨known, mark, space, _⟩ := slash_plain slash
  rcases mem_tidy inside with added | added | added | kept
  · exact absurd added known
  · exact absurd added mark
  · exact absurd added space
  · exact kept

/-- A separator survives in a text that is not cut. -/
theorem slash_mem_tidy (inside : char ∈ name) (slash : isSlash char = true)
    (fits : utf8Size (unlimited name) ≤ 240) : char ∈ tidy name := by
  obtain ⟨_, _, _, visible, stays⟩ := slash_plain slash
  have stripped : char ∈ rstripWhile isTrailing (collapse name) :=
    mem_rstripWhile (mem_collapse_of_mem inside visible) stays
  have kept : char ∈ unlimited name := markReserved_suffix.subset stripped
  have whole : limitSize (unlimited name) = unlimited name := by
    unfold limitSize
    rw [if_neg (by omega)]
  unfold tidy
  rw [whole, if_neg (ne_nil_of_mem kept)]
  exact kept

/-- No separator survives where illegal characters are replaced. -/
theorem sanitize_true_slash (inside : char ∈ sanitizeForFilesystem true colonReplacement name) :
    isSlash char = false := by
  rw [Bool.eq_false_iff]
  intro slash
  unfold sanitizeForFilesystem at inside
  split at inside
  · exact (slash_plain slash).1 inside
  · rw [if_pos rfl] at inside
    have legal := (mem_filter.1 (slash_of_mem_tidy inside slash)).2
    simp [isIllegal, slash] at legal

/-- Only separators of the name survive where illegal characters are not replaced. -/
theorem slash_of_mem_sanitize (inside : char ∈ sanitizeForFilesystem false colonReplacement name)
    (slash : isSlash char = true) : char ∈ name := by
  unfold sanitizeForFilesystem at inside
  split at inside
  · exact absurd inside (slash_plain slash).1
  · exact slash_of_mem_tidy inside slash

theorem slash_mem_sanitize (inside : char ∈ name) (slash : isSlash char = true)
    (fits : utf8Size (unlimited name) ≤ 240) :
    char ∈ sanitizeForFilesystem false colonReplacement name := by
  unfold sanitizeForFilesystem
  rw [if_neg (ne_nil_of_mem inside)]
  exact slash_mem_tidy inside slash fits

/-! ### The end of a name -/

theorem sanitizeForFilesystem_ne_nil :
    sanitizeForFilesystem replaceIllegal colonReplacement name ≠ [] := by
  have tidied {text : List Char} : tidy text ≠ [] := by
    unfold tidy
    split
    · decide
    · assumption
  unfold sanitizeForFilesystem
  split
  · decide
  · split
    · exact tidied
    · exact tidied

theorem markReserved_getLast? (last : (markReserved name).getLast? = some char) :
    name.getLast? = some char := by
  unfold markReserved at last
  split at last
  · rename_i reserved
    cases name with
    | nil => exact absurd reserved (by decide)
    | cons first rest => rwa [List.getLast?_cons_cons] at last
  · exact last

/-- A sanitized name does not end in a dot or a space. -/
theorem sanitizeForFilesystem_getLast?
    (last : (sanitizeForFilesystem replaceIllegal colonReplacement name).getLast? = some char) :
    isTrailing char = false := by
  have unknownLast (last : unknown.getLast? = some char) : isTrailing char = false := by
    have same : 'n' = char := Option.some.inj last
    rw [← same]
    decide
  have tidied {text : List Char} (last : (tidy text).getLast? = some char) :
      isTrailing char = false := by
    unfold tidy at last
    split at last
    · exact unknownLast last
    · unfold limitSize at last
      split at last
      · exact getLast?_rstripWhile last
      · exact getLast?_rstripWhile (markReserved_getLast? last)
  unfold sanitizeForFilesystem at last
  split at last
  · exact unknownLast last
  · split at last
    · exact tidied last
    · exact tidied last

end Pullbox.Naming
