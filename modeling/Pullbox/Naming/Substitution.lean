import Pullbox.Naming.Files
import Pullbox.Text.Traced

/-!
# Tokens and values of a name

A name is its template with the tokens replaced one after another, and then without its empty
parentheses and brackets. With the origin of each character at hand: what is replaced or dropped
belongs to the template, unless a value spells a token or a side of an empty pair, alone or with
what stands around it.
-/

namespace Pullbox.Naming

open Text

variable {template : List Char} {replacements : Replacements}

/-! ### Tidying, with origins -/

/-- `wordsFrom`, with origins. -/
def wordsTracedFrom (word : List Traced) : List Traced → List (List Traced)
  | [] => if word = [] then [] else [word]
  | first :: rest =>
    if isSpace first.char then
      if word = [] then wordsTracedFrom [] rest else word :: wordsTracedFrom [] rest
    else
      wordsTracedFrom (word ++ [first]) rest

def unwordsTraced : List (List Traced) → List Traced
  | [] => []
  | [word] => word
  | word :: next :: rest => word ++ ⟨' ', none⟩ :: unwordsTraced (next :: rest)

def collapseTraced (text : List Traced) : List Traced :=
  unwordsTraced (wordsTracedFrom [] text)

/-- The white space between an opening side and what follows. -/
def blanks (rest : List Traced) : Nat :=
  ((erase rest).takeWhile isSpace).length

/-- `dropEmptyFrom`, with origins. -/
def dropEmptyTracedFrom (opening closing : Char) : Nat → List Traced → List Traced
  | _, [] => []
  | skipped + 1, _ :: rest => dropEmptyTracedFrom opening closing skipped rest
  | 0, first :: rest =>
    if first.char = opening ∧ ((erase rest).dropWhile isSpace).head? = some closing then
      dropEmptyTracedFrom opening closing (blanks rest + 1) rest
    else
      first :: dropEmptyTracedFrom opening closing 0 rest

def dropEmptyTraced (opening closing : Char) (text : List Traced) : List Traced :=
  dropEmptyTracedFrom opening closing 0 text

/-- The two sides of each pair that is dropped. -/
def sidesFrom (opening closing : Char) : Nat → List Traced → List Traced
  | _, [] => []
  | skipped + 1, _ :: rest => sidesFrom opening closing skipped rest
  | 0, first :: rest =>
    if first.char = opening ∧ ((erase rest).dropWhile isSpace).head? = some closing then
      first :: (rest.drop (blanks rest)).head?.toList ++
        sidesFrom opening closing (blanks rest + 1) rest
    else
      sidesFrom opening closing 0 rest

def sides (opening closing : Char) (text : List Traced) : List Traced :=
  sidesFrom opening closing 0 text

def stripTraced (text : List Traced) : List Traced :=
  let begun := text.dropWhile fun first => isSpace first.char
  (begun.reverse.dropWhile fun last => isSpace last.char).reverse

/-- The sides that are dropped from a series folder's name. -/
def folderSides (text : List Traced) : List Traced :=
  sides '(' ')' text ++ sides '[' ']' (dropEmptyTraced '(' ')' text)

/-- The sides that are dropped from a comic file's name. -/
def fileSides (text : List Traced) : List Traced :=
  sides '(' ')' (collapseTraced text) ++
    sides '[' ']' (stripTraced (dropEmptyTraced '(' ')' (collapseTraced text)))

/-- Without origins, the tokens are replaced as in the name. -/
theorem replaceTokens_eq :
    replaceTokens replacements template = erase (replaceEach replacements (trace template)) := by
  rw [erase_replaceEach, erase_trace]
  rfl

/-! ### Names in a single pass -/

/-- A template is rendered in a single pass: the tokens of the template are replaced, and no text of
a value is part of a token or a side of a pair that is dropped. -/
structure RendersInOnePass (replacements : Replacements) (sides : List Traced → List Traced)
    (template : List Char) : Prop where
  text : replaceTokens replacements template = singlePass replacements template
  tokens : ∀ place ∈ eachPlaces replacements (trace template), place <:+: trace template
  groups : ∀ side ∈ sides (replaceEach replacements (trace template)), side.origin ≠ none

/-- In the template with tokens replaced in a single pass, no value makes up a token that is still
to be replaced, or a side of an empty pair. -/
structure ValuesStayText (replacements : Replacements) (sides : List Traced → List Traced)
    (template : List Char) : Prop where
  tokens : Unmistakable replacements template
  groups : ∀ side ∈ sides (partPass replacements replacements template), side.origin ≠ none

theorem rendersInOnePass_iff (separate : Separate (replacements.map Prod.fst))
    (sides : List Traced → List Traced) :
    RendersInOnePass replacements sides template ↔
      ValuesStayText replacements sides template := by
  constructor
  · rintro ⟨_, tokens, groups⟩
    have honest := (eachPlaces_iff separate).1 tokens
    rw [honest.replaceEach_eq separate] at groups
    exact ⟨honest, groups⟩
  · rintro ⟨honest, groups⟩
    have whole := honest.replaceEach_eq separate
    refine ⟨?_, (eachPlaces_iff separate).2 honest, ?_⟩
    · rw [replaceTokens_eq, whole, erase_partPass]
    · rw [whole]
      exact groups

theorem separate_seriesFolder (safe : List Char → List Char) (title : List Char) (year : Option Int)
    (publisher : Option (List Char)) (comicvineId : Option Int) (seriesType : Option SeriesType) :
    Separate ((seriesFolderReplacements safe title year publisher comicvineId seriesType).map
      Prod.fst) :=
  (by decide +kernel : Separate ["\x7bSeries\x7d".toList, "\x7bYear\x7d".toList,
    "\x7bPublisher\x7d".toList, "\x7bComicVineId\x7d".toList, "\x7bType\x7d".toList])

theorem separate_file (safe : List Char → List Char) (series : List Char) (year : Option Int)
    (issueText : Option (List Char)) (volume : Option Int) (issueType : IssueType)
    (title publisher : Option (List Char)) :
    Separate ((fileReplacements safe series year issueText volume issueType title publisher).map
      Prod.fst) := by
  -- The tokens are those of a file without any values, with or without a number and a volume.
  cases issueText with
  | none =>
    cases volume with
    | none =>
      exact (by decide +kernel : Separate
        ((fileReplacements id [] none none none .issue none none).map Prod.fst))
    | some volume =>
      exact (by decide +kernel : Separate
        ((fileReplacements id [] none none (some 0) .issue none none).map Prod.fst))
  | some issueText =>
    cases volume with
    | none =>
      exact (by decide +kernel : Separate
        ((fileReplacements id [] none (some []) none .issue none none).map Prod.fst))
    | some volume =>
      exact (by decide +kernel : Separate
        ((fileReplacements id [] none (some []) (some 0) .issue none none).map Prod.fst))

/-- The names of series folders and of comic files are rendered in a single pass just where their
values stay text. -/
theorem names_in_one_pass_iff (replaceIllegal : Bool) (colonReplacement : String)
    (title series : List Char) (year comicvineId volume : Option Int)
    (publisher issueText issueTitle : Option (List Char)) (seriesType : Option SeriesType)
    (issueType : IssueType) (folderTemplate fileTemplate : List Char) :
    (RendersInOnePass (seriesFolderReplacements
        (sanitizeForFilesystem replaceIllegal colonReplacement) title year publisher comicvineId
        seriesType) folderSides folderTemplate ↔
      ValuesStayText (seriesFolderReplacements
        (sanitizeForFilesystem replaceIllegal colonReplacement) title year publisher comicvineId
        seriesType) folderSides folderTemplate) ∧
    (RendersInOnePass (fileReplacements (sanitizeForFilesystem replaceIllegal colonReplacement)
        series year issueText volume issueType issueTitle publisher) fileSides fileTemplate ↔
      ValuesStayText (fileReplacements (sanitizeForFilesystem replaceIllegal colonReplacement)
        series year issueText volume issueType issueTitle publisher) fileSides fileTemplate) := by
  constructor
  · exact rendersInOnePass_iff (separate_seriesFolder _ _ _ _ _ _) folderSides
  · exact rendersInOnePass_iff (separate_file _ _ _ _ _ _ _ _) fileSides

/-- A title that spells a token is taken for one. -/
theorem title_taken_for_token :
    ¬ RendersInOnePass (seriesFolderReplacements (sanitizeForFilesystem true "dash")
        "\x7bYear\x7d".toList (some 2020) none none none) folderSides
        "\x7bSeries\x7d (\x7bYear\x7d)".toList ∧
      formatSeriesFolder "\x7bYear\x7d".toList (some 2020) none none none
        "\x7bSeries\x7d (\x7bYear\x7d)".toList true "dash" = "2020 (2020)".toList ∧
      singlePass (seriesFolderReplacements (sanitizeForFilesystem true "dash")
        "\x7bYear\x7d".toList (some 2020) none none none) "\x7bSeries\x7d (\x7bYear\x7d)".toList =
        "\x7bYear\x7d (2020)".toList :=
  ⟨fun renders => absurd renders.text (by decide +kernel), by decide +kernel, by decide +kernel⟩

end Pullbox.Naming
