import Pullbox.Naming.StoryArc

/-!
# Where story arc placements can lead

Both parts of a placement path are texts without separators, unless illegal characters are not
replaced and a value that a template names has one.
-/

namespace Pullbox.Naming

open List Text

variable {char : Char} {text : List Char} {values : StoryArcNamingValues}
  {folderTemplate fileTemplate : List Char} {replaceIllegal : Bool} {colonReplacement : String}
  {path : RelativePath} {safe : List Char → List Char} {name : String}
  {extension template : List Char}

def HasSlash (text : List Char) : Prop :=
  ∃ char ∈ text, isSlash char = true

/-- A text that is one component of a path, here and where backslashes separate. -/
structure IsComponent (text : List Char) : Prop where
  some : text ≠ []
  dot : text ≠ ['.']
  dots : text ≠ ['.', '.']
  plain : ¬ HasSlash text

/-- A relative path of two components. -/
def RelativePath.Confined (path : RelativePath) : Prop :=
  IsComponent path.folder ∧ IsComponent path.file

def RelativePath.pure (path : RelativePath) : Files.PurePath :=
  (Files.PurePath.parse path.folder).join (Files.PurePath.parse path.file)

/-! ### What a path is made of -/

/-- The texts of a path that is rendered. -/
structure Renders (values : StoryArcNamingValues) (folderTemplate fileTemplate : List Char)
    (replaceIllegal : Bool) (colonReplacement : String) (path : RelativePath) : Prop where
  folderAccepted : ∃ found, validateStoryArcFolderTemplate folderTemplate = .ok found
  fileAccepted : validateStoryArcFileTemplate fileTemplate = .ok ()
  extension : isExtension (cleanExtension values.extension) = true
  folder : path.folder = sanitizeForFilesystem replaceIllegal colonReplacement
    (folderText (sanitizeForFilesystem replaceIllegal colonReplacement) values folderTemplate)
  file : renderFile (sanitizeForFilesystem replaceIllegal colonReplacement) values fileTemplate
    (strip values.issueNumber) (cleanExtension values.extension) = .ok path.file
  proper : path.folder ∉ [[], ['.'], ['.', '.']] ∧ path.file ∉ [[], ['.'], ['.', '.']]

theorem renders (rendered : renderStoryArcRelativePath values folderTemplate fileTemplate
    replaceIllegal colonReplacement = .ok path) :
    Renders values folderTemplate fileTemplate replaceIllegal colonReplacement path := by
  unfold renderStoryArcRelativePath at rendered
  cases folder : validateStoryArcFolderTemplate folderTemplate with
  | error error =>
    rw [folder] at rendered
    cases rendered
  | ok found =>
    cases file : validateStoryArcFileTemplate fileTemplate with
    | error error =>
      rw [folder, file] at rendered
      cases rendered
    | ok _ =>
      rw [folder, file] at rendered
      simp only [bind, Except.bind] at rendered
      split at rendered
      · cases rendered
      · split at rendered
        · cases rendered
        · split at rendered
          · cases rendered
          · rename_i extension
            split at rendered
            · cases rendered
            · rename_i safeFile named
              split at rendered
              · cases rendered
              · rename_i proper
                cases rendered
                exact ⟨⟨found, folder⟩, file, by simpa using extension, rfl, named,
                  not_or.1 proper⟩

theorem validatedOriginalFilename_plain {filename : Option (List Char)} {extension name : List Char}
    (accepted : validatedOriginalFilename filename extension = .ok name) : ¬ HasSlash name := by
  unfold validatedOriginalFilename at accepted
  split at accepted
  · cases accepted
  · cases accepted
  · split at accepted
    · cases accepted
    · rename_i checks
      cases accepted
      rintro ⟨char, inside, slash⟩
      apply checks
      right
      left
      unfold isWindowsName
      have found : name.any isSlash = true := any_eq_true.2 ⟨char, inside, slash⟩
      rw [found]
      simp

/-- A file that keeps its original name has no separators. -/
theorem renderFile_original {issueNumber extension name : List Char}
    (keeps : keepsOriginal fileTemplate = true)
    (named : renderFile safe values fileTemplate issueNumber extension = .ok name) :
    ¬ HasSlash name := by
  unfold renderFile at named
  rw [if_pos keeps] at named
  split at named
  · cases named
  · exact validatedOriginalFilename_plain named

theorem renderFile_rendered {issueNumber extension name : List Char}
    (renders : keepsOriginal fileTemplate = false)
    (named : renderFile safe values fileTemplate issueNumber extension = .ok name) :
    name = safe (fileText safe values fileTemplate issueNumber extension) := by
  unfold renderFile at named
  rw [renders] at named
  cases named
  rfl

/-! ### Separators -/

/-- A separator is left in the folder or the file of a placement. -/
def LeavesSlash (values : StoryArcNamingValues) (folderTemplate fileTemplate : List Char)
    (colonReplacement : String) : Prop :=
  let safe := sanitizeForFilesystem false colonReplacement
  HasSlash (safe (folderText safe values folderTemplate)) ∨
    keepsOriginal fileTemplate = false ∧
      HasSlash (safe (fileText safe values fileTemplate (strip values.issueNumber)
        (cleanExtension values.extension)))

theorem component_iff (proper : text ∉ [[], ['.'], ['.', '.']]) :
    IsComponent text ↔ ¬ HasSlash text := by
  simp only [mem_cons, not_mem_nil, or_false, not_or] at proper
  exact ⟨fun component => component.plain, fun plain => ⟨proper.1, proper.2.1, proper.2.2, plain⟩⟩

theorem sanitize_true_plain :
    ¬ HasSlash (sanitizeForFilesystem true colonReplacement text) := by
  rintro ⟨char, inside, slash⟩
  rw [sanitize_true_slash inside] at slash
  cases slash

/-- A path is confined unless a separator is left in it. -/
theorem Renders.confined_iff
    (rendered : Renders values folderTemplate fileTemplate replaceIllegal colonReplacement path) :
    path.Confined ↔
      replaceIllegal = true ∨ ¬ LeavesSlash values folderTemplate fileTemplate colonReplacement := by
  unfold RelativePath.Confined
  rw [component_iff rendered.proper.1, component_iff rendered.proper.2]
  have folder := rendered.folder
  have file := rendered.file
  cases replaceIllegal with
  | true =>
    refine iff_of_true ⟨?_, ?_⟩ (.inl rfl)
    · rw [folder]
      exact sanitize_true_plain
    · cases keeps : keepsOriginal fileTemplate with
      | true => exact renderFile_original keeps file
      | false =>
        rw [renderFile_rendered keeps file]
        exact sanitize_true_plain
  | false =>
    unfold LeavesSlash
    simp only [Bool.false_eq_true, false_or, not_or, not_and]
    rw [← folder]
    refine and_congr_right fun _ => ?_
    cases keeps : keepsOriginal fileTemplate with
    | true =>
      refine iff_of_true (renderFile_original keeps file) ?_
      intro other
      cases other
    | false =>
      rw [← renderFile_rendered keeps file]
      exact ⟨fun plain _ => plain, fun plain => plain rfl⟩

/-! ### The values that have separators -/

/-- The value that a token of the folder stands for, before it is sanitized. -/
def folderSource (values : StoryArcNamingValues) : String → List Char
  | "StoryArc" => values.storyArc
  | "Publisher" => values.publisher.getD []
  | _ => []

/-- The value that a token of the file stands for, before it is sanitized. -/
def fileSource (values : StoryArcNamingValues) : String → List Char
  | "Series" => values.series
  | "IssueNumber" => strip values.issueNumber
  | "IssueTitle" => values.issueTitle.getD []
  | "IssueTitleOptional" => values.issueTitle.getD []
  | _ => []

/-- A token of a template stands for a value with a separator. -/
def NamesSlash (template : List Char) (source : String → List Char) : Prop :=
  ∃ token ∈ tokens (scan tokenAt template), HasSlash (source token.name)

theorem not_hasSlash_nil : ¬ HasSlash [] := by
  rintro ⟨char, inside, _⟩
  cases inside

theorem hasSlash_append {first second : List Char} :
    HasSlash (first ++ second) ↔ HasSlash first ∨ HasSlash second := by
  unfold HasSlash
  simp only [mem_append, or_and_right, exists_or]

theorem isSlash_of_isDigit (digit : char.isDigit = true) : isSlash char = false := by
  rw [Bool.eq_false_iff]
  intro slash
  rcases Bool.or_eq_true_iff.1 slash with forward | backward
  · rw [beq_iff_eq.1 forward] at digit
    exact absurd digit (by decide)
  · rw [beq_iff_eq.1 backward] at digit
    exact absurd digit (by decide)

theorem toDigits_plain {number : Nat} : ¬ HasSlash (Nat.toDigits 10 number) := by
  rintro ⟨char, inside, slash⟩
  have digit := Nat.isDigit_of_mem_toDigits (by decide) (by decide) inside
  rw [isSlash_of_isDigit digit] at slash
  cases slash

theorem replicate_plain {count : Nat} (plain : isSlash char = false) :
    ¬ HasSlash (List.replicate count char) := by
  rintro ⟨other, inside, slash⟩
  rw [eq_of_mem_replicate inside, plain] at slash
  cases slash

theorem formatOrder_plain {order : Nat} {format : Option (List Char)} :
    ¬ HasSlash (formatOrder order format) := by
  unfold formatOrder
  simp only
  split
  · rw [hasSlash_append]
    exact not_or.2 ⟨replicate_plain (by decide), toDigits_plain⟩
  · rw [hasSlash_append]
    exact not_or.2 ⟨replicate_plain (by decide), toDigits_plain⟩
  · exact toDigits_plain

theorem yearText_plain {year : Option Int} : ¬ HasSlash (yearText year) := by
  cases year with
  | none => exact not_hasSlash_nil
  | some year =>
    unfold yearText
    simp only
    split
    · rintro ⟨char, inside, slash⟩
      rcases mem_cons.1 inside with rfl | digit
      · cases slash
      · exact toDigits_plain ⟨char, digit, slash⟩
    · exact toDigits_plain

theorem dash_plain : ¬ HasSlash " - ".toList := by
  unfold HasSlash
  rw [← any_eq_true]
  decide

theorem spanYears_plain {startYear endYear : Option Int} :
    ¬ HasSlash (spanYears (yearText startYear) (yearText endYear)) := by
  unfold spanYears
  split
  · rw [hasSlash_append, hasSlash_append]
    exact not_or.2 ⟨not_or.2 ⟨yearText_plain, dash_plain⟩, yearText_plain⟩
  · split
    · exact yearText_plain
    · exact yearText_plain

theorem extension_plain (accepted : isExtension extension = true) :
    ¬ HasSlash extension := by
  rintro ⟨char, inside, slash⟩
  unfold isExtension at accepted
  rw [Bool.and_eq_true, all_eq_true] at accepted
  have letter := accepted.2 char inside
  rcases Bool.or_eq_true_iff.1 slash with forward | backward
  · rw [beq_iff_eq.1 forward] at letter
    exact absurd letter (by decide)
  · rw [beq_iff_eq.1 backward] at letter
    exact absurd letter (by decide)

theorem HasSlash.of_sanitize
    (has : HasSlash (sanitizeForFilesystem false colonReplacement text)) : HasSlash text := by
  obtain ⟨char, inside, slash⟩ := has
  exact ⟨char, slash_of_mem_sanitize inside slash, slash⟩

theorem HasSlash.sanitize (has : HasSlash text) (short : Short text) :
    HasSlash (sanitizeForFilesystem false colonReplacement text) := by
  obtain ⟨char, inside, slash⟩ := has
  exact ⟨char, slash_mem_sanitize inside slash short, slash⟩

theorem optionalValue_slash {before : List Char} {value : Option (List Char)}
    (plain : ¬ HasSlash before)
    (has : HasSlash (optionalValue (sanitizeForFilesystem false colonReplacement) before value)) :
    HasSlash (value.getD []) := by
  unfold optionalValue at has
  split at has
  · exact has
  · exact has
  · exact (hasSlash_append.1 has).resolve_left plain |>.of_sanitize

theorem slash_optionalValue {before : List Char} {value : Option (List Char)}
    (has : HasSlash (value.getD [])) (short : Short (value.getD [])) :
    HasSlash (optionalValue (sanitizeForFilesystem false colonReplacement) before value) := by
  unfold optionalValue
  split
  · exact absurd has not_hasSlash_nil
  · exact absurd has not_hasSlash_nil
  · exact hasSlash_append.2 (.inr (has.sanitize short))

theorem folderValue_slash
    (has : HasSlash (folderValue (sanitizeForFilesystem false colonReplacement) values name)) :
    HasSlash (folderSource values name) := by
  unfold folderValue at has
  split at has
  · exact has.of_sanitize
  · exact optionalValue_slash not_hasSlash_nil has
  · exact absurd has yearText_plain
  · exact absurd has yearText_plain
  · exact absurd has spanYears_plain
  · exact absurd has not_hasSlash_nil

theorem slash_folderValue (has : HasSlash (folderSource values name))
    (short : Short (folderSource values name)) :
    HasSlash (folderValue (sanitizeForFilesystem false colonReplacement) values name) := by
  unfold folderSource at has short
  split at has
  · exact has.sanitize short
  · exact slash_optionalValue has short
  · exact absurd has not_hasSlash_nil

theorem fileValue_slash
    (accepted : isExtension extension = true)
    (has : HasSlash (fileValue (sanitizeForFilesystem false colonReplacement) values
      (strip values.issueNumber) extension name)) : HasSlash (fileSource values name) := by
  unfold fileValue at has
  split at has
  · exact has.of_sanitize
  · exact has.of_sanitize
  · exact optionalValue_slash not_hasSlash_nil has
  · exact optionalValue_slash dash_plain has
  · exact absurd has yearText_plain
  · exact absurd has (extension_plain accepted)
  · exact absurd has not_hasSlash_nil

theorem slash_fileValue (has : HasSlash (fileSource values name))
    (short : Short (fileSource values name)) :
    HasSlash (fileValue (sanitizeForFilesystem false colonReplacement) values
      (strip values.issueNumber) extension name) := by
  unfold fileSource at has short
  split at has
  · exact has.sanitize short
  · exact has.sanitize short
  · exact slash_optionalValue has short
  · exact slash_optionalValue has short
  · exact absurd has not_hasSlash_nil

/-- The values of the tokens are where the separators of a rendered template come from. -/
theorem renderTemplate_slash {value source : String → List Char}
    {readingOrder : Nat} (plain : template.any isSlash = false)
    (named : ∀ name, HasSlash (value name) → HasSlash (source name))
    (has : HasSlash (renderTemplate template value readingOrder)) : NamesSlash template source := by
  obtain ⟨char, inside, slash⟩ := has
  rcases mem_substitute.1 inside with literal | ⟨token, listed, here⟩
  · have there := literal_mem_scanFrom literal
    rw [any_eq_false] at plain
    exact absurd slash (plain char there)
  · split at here
    · exact absurd ⟨char, here, slash⟩ formatOrder_plain
    · exact ⟨token, mem_filterMap.2 ⟨_, listed, rfl⟩, named _ ⟨char, here, slash⟩⟩

theorem slash_renderTemplate {value source : String → List Char}
    {readingOrder : Nat} (order : ¬ HasSlash (source "ReadingOrder"))
    (named : ∀ token ∈ tokens (scan tokenAt template), HasSlash (source token.name) →
      HasSlash (value token.name))
    (names : NamesSlash template source) :
    HasSlash (renderTemplate template value readingOrder) := by
  obtain ⟨token, listed, has⟩ := names
  obtain ⟨char, inside, slash⟩ := named token listed has
  obtain ⟨piece, scanned, found⟩ := mem_filterMap.1 listed
  cases piece with
  | literal _ => cases found
  | token _ =>
    cases found
    refine ⟨char, mem_substitute.2 (.inr ⟨token, scanned, ?_⟩), slash⟩
    split
    · rename_i same
      rw [same] at has
      exact absurd has order
    · exact inside

theorem validateTemplate_plain {allowedTokens : List String} {kind : String}
    {found : List TemplateToken}
    (accepted : validateTemplate template allowedTokens kind = .ok found) :
    template.any isSlash = false := by
  unfold validateTemplate at accepted
  split at accepted
  · cases accepted
  · split at accepted
    · cases accepted
    · rename_i plain
      rw [any_eq_false]
      intro char inside slash
      apply plain
      exact any_eq_true.2 ⟨char, inside, by rw [slash, Bool.true_or]⟩

theorem validateStoryArcFileTemplate_plain
    (accepted : validateStoryArcFileTemplate fileTemplate = .ok ()) :
    fileTemplate.any isSlash = false := by
  unfold validateStoryArcFileTemplate at accepted
  cases checked : validateTemplate fileTemplate fileTokens "file" with
  | error error =>
    rw [checked] at accepted
    cases accepted
  | ok found => exact validateTemplate_plain checked

theorem fileText_slash {issueNumber extension : List Char}
    (accepted : isExtension extension = true) :
    HasSlash (fileText safe values fileTemplate issueNumber extension) ↔
      HasSlash (renderTemplate fileTemplate (fileValue safe values issueNumber extension)
        values.readingOrder.toNat) := by
  unfold fileText
  simp only
  split
  · exact Iff.rfl
  · rw [hasSlash_append]
    constructor
    · rintro (rendered | ⟨char, inside, slash⟩)
      · exact rendered
      · rcases mem_cons.1 inside with rfl | later
        · cases slash
        · exact absurd ⟨char, later, slash⟩ (extension_plain accepted)
    · exact .inl

/-- A template of a placement stands for a value with a separator. -/
def NamesSlashes (values : StoryArcNamingValues) (folderTemplate fileTemplate : List Char) : Prop :=
  NamesSlash folderTemplate (folderSource values) ∨
    keepsOriginal fileTemplate = false ∧ NamesSlash fileTemplate (fileSource values)

/-- Nothing that the templates name or give is cut. -/
structure AllShort (values : StoryArcNamingValues) (folderTemplate fileTemplate : List Char)
    (colonReplacement : String) : Prop where
  folderSources : ∀ token ∈ tokens (scan tokenAt folderTemplate),
    Short (folderSource values token.name)
  fileSources : ∀ token ∈ tokens (scan tokenAt fileTemplate), Short (fileSource values token.name)
  folder : Short (folderText (sanitizeForFilesystem false colonReplacement) values folderTemplate)
  file : Short (fileText (sanitizeForFilesystem false colonReplacement) values fileTemplate
    (strip values.issueNumber) (cleanExtension values.extension))

/-- A separator that is left is one of a value that a template names. -/
theorem Renders.namesSlashes
    (rendered : Renders values folderTemplate fileTemplate replaceIllegal colonReplacement path)
    (leaves : LeavesSlash values folderTemplate fileTemplate colonReplacement) :
    NamesSlashes values folderTemplate fileTemplate := by
  obtain ⟨found, folderAccepted⟩ := rendered.folderAccepted
  rcases leaves with folder | ⟨keeps, file⟩
  · left
    exact renderTemplate_slash (validateTemplate_plain folderAccepted)
      (fun name => folderValue_slash) folder.of_sanitize
  · right
    refine ⟨keeps, ?_⟩
    exact renderTemplate_slash (validateStoryArcFileTemplate_plain rendered.fileAccepted)
      (fun name => fileValue_slash rendered.extension)
      ((fileText_slash rendered.extension).1 file.of_sanitize)

/-- A separator of a value that a template names is left, unless something is cut. -/
theorem Renders.leavesSlash
    (rendered : Renders values folderTemplate fileTemplate replaceIllegal colonReplacement path)
    (short : AllShort values folderTemplate fileTemplate colonReplacement)
    (names : NamesSlashes values folderTemplate fileTemplate) :
    LeavesSlash values folderTemplate fileTemplate colonReplacement := by
  rcases names with folder | ⟨keeps, file⟩
  · left
    refine HasSlash.sanitize ?_ short.folder
    exact slash_renderTemplate not_hasSlash_nil
      (fun token listed has => slash_folderValue has (short.folderSources token listed)) folder
  · right
    refine ⟨keeps, HasSlash.sanitize ?_ short.file⟩
    rw [fileText_slash rendered.extension]
    exact slash_renderTemplate not_hasSlash_nil
      (fun token listed has => slash_fileValue has (short.fileSources token listed)) file

/-- A placement path has two components exactly when illegal characters are replaced, or no
separator is left; where nothing is cut, that is when no value that a template names has one. -/
theorem renderStoryArcRelativePath_confined (values : StoryArcNamingValues)
    (folderTemplate fileTemplate : List Char) (replaceIllegal : Bool) (colonReplacement : String)
    (path : RelativePath)
    (rendered : renderStoryArcRelativePath values folderTemplate fileTemplate replaceIllegal
      colonReplacement = .ok path) :
    (path.Confined ↔ replaceIllegal = true ∨
        ¬ LeavesSlash values folderTemplate fileTemplate colonReplacement) ∧
      (LeavesSlash values folderTemplate fileTemplate colonReplacement →
        NamesSlashes values folderTemplate fileTemplate) ∧
      (AllShort values folderTemplate fileTemplate colonReplacement →
        (path.Confined ↔
          replaceIllegal = true ∨ ¬ NamesSlashes values folderTemplate fileTemplate)) := by
  have found := renders rendered
  refine ⟨found.confined_iff, found.namesSlashes, fun short => ?_⟩
  have same : LeavesSlash values folderTemplate fileTemplate colonReplacement ↔
      NamesSlashes values folderTemplate fileTemplate :=
    ⟨found.namesSlashes, found.leavesSlash short⟩
  rw [found.confined_iff, same]

/-- An entry of an arc with a fraction for its number. -/
def halfIssue (storyArc : String) : StoryArcNamingValues where
  storyArc := storyArc.toList
  readingOrder := 7
  series := "Wizard".toList
  issueNumber := "1/2".toList
  extension := ".CBZ".toList

/-- Slashes in values are replaced. -/
theorem halfIssue_confined :
    ∃ path, renderStoryArcRelativePath (halfIssue "../../Crisis") defaultStoryArcFolderTemplate
        defaultStoryArcFileTemplate true "dash" = .ok path ∧
      path.folder = ".. - .. - Crisis".toList ∧ path.file = "007 - Wizard 1 - 2.cbz".toList ∧
        path.Confined := by
  have rendered : renderStoryArcRelativePath (halfIssue "../../Crisis")
      defaultStoryArcFolderTemplate defaultStoryArcFileTemplate true "dash" =
        .ok ⟨".. - .. - Crisis".toList, "007 - Wizard 1 - 2.cbz".toList⟩ := by
    decide +kernel
  exact ⟨_, rendered, rfl, rfl,
    (renderStoryArcRelativePath_confined _ _ _ _ _ _ rendered).1.2 (.inl rfl)⟩

/-- The name of an arc leads out of the folder of all arcs. -/
theorem halfIssue_escapes :
    ∃ path, renderStoryArcRelativePath (halfIssue "../../Crisis") defaultStoryArcFolderTemplate
        defaultStoryArcFileTemplate false "dash" = .ok path ∧
      path.pure.steps = [.up, .up, .name "Crisis".toList, .name "007 - Wizard 1".toList,
          .name "2.cbz".toList] ∧
        ¬ path.Confined := by
  have rendered : renderStoryArcRelativePath (halfIssue "../../Crisis")
      defaultStoryArcFolderTemplate defaultStoryArcFileTemplate false "dash" =
        .ok ⟨"../../Crisis".toList, "007 - Wizard 1/2.cbz".toList⟩ := by
    decide +kernel
  refine ⟨_, rendered, by decide +kernel, fun confined => ?_⟩
  exact confined.1.plain ⟨'/', by decide, by decide⟩

end Pullbox.Naming
