import Pullbox.Naming.Components
import Pullbox.Naming.StoryArcConfinement

/-!
# Extensions of story arc placements

The extension is put behind a rendered name before the name is sanitized, and stays there unless
the name is too long: the cut then takes the end of the name, and with it the extension.
-/

namespace Pullbox.Naming

open List Text

variable {char : Char} {text ending name extension : List Char} {values : StoryArcNamingValues}
  {folderTemplate fileTemplate : List Char} {replaceIllegal : Bool} {colonReplacement : String}
  {path : RelativePath}

/-- A sanitized name of any size. -/
def uncut (replaceIllegal : Bool) (colonReplacement : String) (text : List Char) : List Char :=
  unlimited (if replaceIllegal then replaceIllegalCharacters colonReplacement text else text)

/-- The cut of a long name falls behind an extension, but for dots and spaces. -/
def CutBehind (extension name : List Char) : Prop :=
  ∃ before fill, Cut ((before ++ '.' :: extension) ++ fill) name ∧
    ∀ char ∈ fill, isTrailing char = true

/-- The template says where the extension goes. -/
def placesExtension (fileTemplate : List Char) : Bool :=
  fileTemplate.tails.any (extensionToken.isPrefixOf ·)

/-- The sanitized name of a file that is named by a template, before it is cut to size. -/
def uncutFile (values : StoryArcNamingValues) (fileTemplate : List Char) (replaceIllegal : Bool)
    (colonReplacement : String) : List Char :=
  uncut replaceIllegal colonReplacement
    (fileText (sanitizeForFilesystem replaceIllegal colonReplacement) values fileTemplate
      (strip values.issueNumber) (cleanExtension values.extension))

/-- A name that takes at most 240 bytes ends in the extension where the template places it; a
longer one is cut behind an extension. -/
structure SparesExtension (values : StoryArcNamingValues) (fileTemplate : List Char)
    (replaceIllegal : Bool) (colonReplacement : String) : Prop where
  placed : placesExtension fileTemplate = true →
    utf8Size (uncutFile values fileTemplate replaceIllegal colonReplacement) ≤ 240 →
      '.' :: cleanExtension values.extension <:+
        uncutFile values fileTemplate replaceIllegal colonReplacement
  cut : 240 < utf8Size (uncutFile values fileTemplate replaceIllegal colonReplacement) →
    CutBehind (cleanExtension values.extension)
      (uncutFile values fileTemplate replaceIllegal colonReplacement)

/-! ### What sanitising leaves at the end -/

theorem suffix_wordsFrom (visible : ∀ char ∈ ending, isSpace char = false)
    (inhabited : ending ≠ []) (word text : List Char) :
    ∃ several last, wordsFrom word (text ++ ending) = several ++ [last ++ ending] := by
  induction text generalizing word with
  | nil =>
    have whole : wordsFrom word (ending ++ []) = wordsFrom (word ++ ending) [] :=
      wordsFrom_append visible
    rw [append_nil] at whole
    refine ⟨[], word, ?_⟩
    rw [nil_append, whole, wordsFrom, if_neg (by simp [inhabited]), nil_append]
  | cons first rest ih =>
    rw [cons_append, wordsFrom]
    split_ifs with space empty
    · exact ih []
    · obtain ⟨several, last, found⟩ := ih []
      exact ⟨word :: several, last, by rw [found, cons_append]⟩
    · exact ih _

theorem suffix_unwords {several : List (List Char)} {last : List Char} :
    last <:+ unwords (several ++ [last]) := by
  induction several with
  | nil => exact suffix_refl _
  | cons word rest ih =>
    cases rest with
    | nil => exact ⟨word ++ [' '], by simp [unwords]⟩
    | cons next rest =>
      refine ih.trans ⟨word ++ [' '], ?_⟩
      rw [append_assoc]
      rfl

/-- Visible characters stay at the end of a collapsed text. -/
theorem suffix_collapse (visible : ∀ char ∈ ending, isSpace char = false)
    (inhabited : ending ≠ []) (text : List Char) : ending <:+ collapse (text ++ ending) := by
  obtain ⟨several, last, found⟩ := suffix_wordsFrom visible inhabited [] text
  unfold collapse words
  rw [found]
  exact (suffix_append last ending).trans suffix_unwords

theorem suffix_replaceSlashSeparatorsFrom {skipping : Bool} {output : List Char}
    (plain : ∀ char ∈ ending, isSlash char = false)
    (visible : ∀ char ∈ ending, isSpace char = false) :
    ending <:+ replaceSlashSeparatorsFrom skipping output (text ++ ending) := by
  induction text generalizing skipping output with
  | nil =>
    rw [nil_append]
    cases skipping with
    | false =>
      rw [replaceSlashSeparatorsFrom_plain plain rfl]
      exact suffix_append _ _
    | true =>
      -- a visible character ends the white space that is skipped
      cases ending with
      | nil => exact nil_suffix
      | cons first rest =>
        have later : ∀ char ∈ rest, isSlash char = false :=
          fun char inside => plain char (mem_cons_of_mem _ inside)
        rw [replaceSlashSeparatorsFrom, if_neg (by simp [plain first mem_cons_self]),
          if_neg (by simp [visible first mem_cons_self]),
          replaceSlashSeparatorsFrom_plain later rfl, append_assoc]
        exact suffix_append _ _
  | cons first rest ih =>
    rw [cons_append, replaceSlashSeparatorsFrom]
    split_ifs
    · exact ih
    · exact ih
    · exact ih

theorem suffix_replaceIllegalCharacters (legal : ∀ char ∈ ending, isIllegal char = false)
    (visible : ∀ char ∈ ending, isSpace char = false) :
    ending <:+ replaceIllegalCharacters colonReplacement (text ++ ending) := by
  have plain : ∀ char ∈ ending, isSlash char = false := by
    intro char inside
    have one := legal char inside
    simp only [isIllegal, Bool.or_eq_false_iff] at one
    exact one.1.1.1.1.2
  unfold replaceIllegalCharacters replaceSlashSeparators
  simp only
  rw [flatMap_append, flatMap_colon_legal legal]
  obtain ⟨before, whole⟩ : ending <:+ replaceSlashSeparatorsFrom false []
      ((text.flatMap fun char =>
        if char = ':' then colonReplacements colonReplacement else [char]) ++ ending) :=
    suffix_replaceSlashSeparatorsFrom plain visible
  have kept : ending.filter (fun char => !isIllegal char) = ending :=
    filter_eq_self.2 fun char inside => by simp [legal char inside]
  rw [← whole, filter_append, kept]
  exact suffix_append _ _

/-- The characters of an extension are small letters and digits. -/
theorem code_of_mem_extension (accepted : isExtension extension = true)
    (inside : char ∈ extension) :
    (97 ≤ char.toNat ∧ char.toNat ≤ 122) ∨ (48 ≤ char.toNat ∧ char.toNat ≤ 57) := by
  unfold isExtension at accepted
  rw [Bool.and_eq_true, all_eq_true] at accepted
  have letter : (char.val ≥ 'a'.val && char.val ≤ 'z'.val ||
      (char.val ≥ '0'.val && char.val ≤ '9'.val)) = true := accepted.2 char inside
  simp only [Bool.or_eq_true, Bool.and_eq_true, decide_eq_true_eq, ge_iff_le,
    UInt32.le_iff_toNat_le] at letter
  exact letter

/-- No character of an extension is taken or moved by sanitising. -/
theorem legal_of_mem_extension (accepted : isExtension extension = true)
    (inside : char ∈ '.' :: extension) : isIllegal char = false ∧ isSpace char = false := by
  rcases mem_cons.1 inside with rfl | inside
  · decide
  have code := code_of_mem_extension accepted inside
  have other (bad : Char) (outside : ¬ ((97 ≤ bad.toNat ∧ bad.toNat ≤ 122) ∨
      (48 ≤ bad.toNat ∧ bad.toNat ≤ 57))) : char ≠ bad := by
    rintro rfl
    exact outside code
  constructor
  · simp only [isIllegal, isSlash, Bool.or_eq_false_iff, beq_eq_false_iff_ne,
      decide_eq_false_iff_not]
    refine ⟨⟨⟨⟨⟨⟨⟨⟨?_, ?_⟩, ?_⟩, ?_⟩, ?_, ?_⟩, ?_⟩, ?_⟩, ?_⟩, by omega⟩
    all_goals exact other _ (by decide)
  · simp only [isSpace, Bool.or_eq_false_iff, Bool.and_eq_false_iff, decide_eq_false_iff_not,
      beq_eq_false_iff_ne]
    omega

theorem getLast?_extension (accepted : isExtension extension = true) (before : List Char) :
    ∀ char, (before ++ '.' :: extension).getLast? = some char → isTrailing char = false := by
  intro char last
  have inhabited : extension ≠ [] := by
    rintro rfl
    cases accepted
  rw [← singleton_append, ← append_assoc, List.getLast?_append_of_ne_nil _ inhabited]
    at last
  have code := code_of_mem_extension accepted (mem_of_getLast? last)
  simp only [isTrailing, Bool.or_eq_false_iff, beq_eq_false_iff_ne]
  constructor
  all_goals
    rintro rfl
    revert code
    decide

/-- An extension behind a text stays at the end of the text's sanitized name, of any size. -/
theorem suffix_uncut (accepted : isExtension extension = true) :
    '.' :: extension <:+ uncut replaceIllegal colonReplacement (text ++ '.' :: extension) := by
  have visible : ∀ char ∈ '.' :: extension, isSpace char = false :=
    fun char inside => (legal_of_mem_extension accepted inside).2
  have tidied (text : List Char) : '.' :: extension <:+ unlimited (text ++ '.' :: extension) := by
    unfold unlimited
    obtain ⟨before, whole⟩ := suffix_collapse visible (cons_ne_nil _ _) text
    have kept : rstripWhile isTrailing ((before ++ '.' :: extension) ++ []) =
        before ++ '.' :: extension :=
      rstripWhile_eq (getLast?_extension accepted before) (by simp)
    rw [← whole, ← append_nil (before ++ _), kept]
    exact (suffix_append _ _).trans markReserved_suffix
  cases replaceIllegal with
  | false => exact tidied text
  | true =>
    obtain ⟨before, whole⟩ :
        '.' :: extension <:+ replaceIllegalCharacters colonReplacement (text ++ '.' :: extension) :=
      suffix_replaceIllegalCharacters
        (fun char inside => (legal_of_mem_extension accepted inside).1) visible
    unfold uncut
    rw [if_pos rfl, ← whole]
    exact tidied before

/-- Exactly these names keep the extension when they are cut to size. -/
theorem suffix_limitSize_iff (accepted : isExtension extension = true) :
    '.' :: extension <:+ limitSize name ↔
      (utf8Size name ≤ 240 → '.' :: extension <:+ name) ∧
        (240 < utf8Size name → CutBehind extension name) := by
  by_cases large : 240 < utf8Size name
  · have cut := cut_cutReversed (show 230 < utf8Size name by omega)
    have whole := limitSize_large large
    constructor
    · rintro ⟨before, ends⟩
      refine ⟨fun small => absurd small (by omega), fun _ => ?_⟩
      obtain ⟨fill, stripped, filled⟩ := rstripWhile_append isTrailing (cutReversed name.reverse).reverse
      rw [stripped, ← whole, ← ends] at cut
      exact ⟨before, fill, cut, filled⟩
    · rintro ⟨_, behind⟩
      obtain ⟨before, fill, here, filled⟩ := behind large
      rw [whole, cut.unique here, rstripWhile_eq (getLast?_extension accepted before) filled]
      exact suffix_append _ _
  · rw [limitSize_small (by omega)]
    exact ⟨fun ends => ⟨fun _ => ends, fun big => absurd big large⟩, fun kept => kept.1 (by omega)⟩

theorem sanitize_eq_uncut :
    sanitizeForFilesystem replaceIllegal colonReplacement text =
      if limitSize (uncut replaceIllegal colonReplacement text) = [] then unknown
      else limitSize (uncut replaceIllegal colonReplacement text) := by
  unfold sanitizeForFilesystem uncut
  by_cases empty : text = []
  · have blank (text : List Char) (none : text = []) : limitSize (unlimited text) = [] := by
      rw [none]
      decide
    rw [if_pos empty, if_pos (blank _ ?_)]
    rw [empty]
    split
    · rfl
    · rfl
  · rw [if_neg empty]
    split
    · rfl
    · rfl

/-- A name that stands in for nothing has no extension. -/
theorem suffix_sanitize_iff :
    '.' :: extension <:+ sanitizeForFilesystem replaceIllegal colonReplacement text ↔
      '.' :: extension <:+ limitSize (uncut replaceIllegal colonReplacement text) := by
  rw [sanitize_eq_uncut]
  split
  · rename_i empty
    rw [empty]
    constructor
    · intro ends
      exact absurd (ends.subset mem_cons_self) (by decide)
    · intro ends
      exact absurd (suffix_nil.1 ends) (cons_ne_nil _ _)
  · rfl

/-! ### The file of a placement -/

theorem suffix_uncutFile (accepted : isExtension (cleanExtension values.extension) = true)
    (attached : placesExtension fileTemplate = false) :
    '.' :: cleanExtension values.extension <:+
      uncutFile values fileTemplate replaceIllegal colonReplacement := by
  unfold uncutFile fileText
  unfold placesExtension at attached
  simp only [attached]
  exact suffix_uncut accepted

/-- A token that begins before the extension ends before it. -/
theorem size_tokenAt_le {text : List Char} {token : TemplateToken} {size : Nat}
    (found : tokenAt (text ++ '.' :: extensionToken) = some (token, size)) :
    size ≤ text.length := by
  cases text with
  | nil => cases found
  | cons char text =>
    unfold tokenAt at found
    split at found
    · rename_i same
      obtain ⟨rfl, rfl⟩ := List.cons.inj same
      simp only [append_eq] at found
      rcases span_append Char.isAlphanum text ('.' :: extensionToken) with
        ⟨-, dropped⟩ | ⟨first, rest, dropped, whole⟩
      · rw [show ('.' :: extensionToken).dropWhile Char.isAlphanum = '.' :: extensionToken from rfl]
          at dropped
        simp only [dropped] at found
        split at found
        all_goals simp_all
      · have length := congrArg List.length whole
        rw [length_append, length_cons] at length
        simp only [dropped] at found
        split at found
        · split_ifs at found
          cases found
          rw [length_cons]
          omega
        · rename_i more here
          obtain ⟨rfl, rfl⟩ := List.cons.inj here
          rcases span_append (fun char => char != '{' && char != '}') rest
              ('.' :: extensionToken) with ⟨-, ended⟩ | ⟨last, tail, ended, inside⟩
          · rw [show ('.' :: extensionToken).dropWhile (fun char => char != '{' && char != '}') =
              '{' :: extensionToken.tail by decide] at ended
            simp only [ended] at found
            split at found
            · rename_i close
              cases (List.cons.inj close).1
            · cases found
          · have inner := congrArg List.length inside
            rw [length_append, length_cons] at inner
            split at found
            · split_ifs at found
              cases found
              rw [length_cons]
              omega
            · cases found
        · cases found
    · cases found
/-- A template that ends in `.{Extension}` renders to a text that ends in the extension. -/
theorem suffix_substitute_scanFrom {replace : TemplateToken → List Char} {skipped : Nat}
    (within : skipped ≤ text.length) :
    '.' :: replace ⟨"Extension", none⟩ <:+
      substitute replace (scanFrom tokenAt skipped (text ++ '.' :: extensionToken)) := by
  induction text generalizing skipped with
  | nil =>
    obtain rfl := Nat.le_zero.1 within
    have pieces : scanFrom tokenAt 0 ('.' :: extensionToken) =
        [.literal '.', .token ⟨"Extension", none⟩] := rfl
    rw [nil_append, pieces]
    simp [substitute]
  | cons char rest ih =>
    cases skipped with
    | succ skipped => exact ih (Nat.le_of_succ_le_succ within)
    | zero =>
      rw [cons_append, scanFrom]
      split
      · rename_i token size found
        have fits := @size_tokenAt_le (char :: rest) token size found
        rw [length_cons] at fits
        exact (ih (by omega)).trans (suffix_append (replace token) _)
      · exact (ih (Nat.zero_le _)).trans (suffix_append [char] _)

/-- Where the template ends in `.{Extension}`, only the cut can take the extension. -/
theorem sparesExtension_of_suffix
    (accepted : isExtension (cleanExtension values.extension) = true) :
    SparesExtension values (text ++ '.' :: extensionToken) replaceIllegal colonReplacement ↔
      (240 < utf8Size (uncutFile values (text ++ '.' :: extensionToken) replaceIllegal
          colonReplacement) →
        CutBehind (cleanExtension values.extension)
          (uncutFile values (text ++ '.' :: extensionToken) replaceIllegal colonReplacement)) := by
  refine ⟨SparesExtension.cut, fun cut => ⟨fun placed _ => ?_, cut⟩⟩
  unfold placesExtension at placed
  unfold uncutFile fileText renderTemplate
  simp only [placed, if_true]
  obtain ⟨before, ends⟩ := suffix_substitute_scanFrom (Nat.zero_le text.length)
  rw [scan, ← ends]
  exact suffix_uncut accepted

theorem Renders.sparesExtension_iff (found : Renders values folderTemplate fileTemplate
      replaceIllegal colonReplacement path) (named : keepsOriginal fileTemplate = false) :
    '.' :: cleanExtension values.extension <:+ path.file ↔
      SparesExtension values fileTemplate replaceIllegal colonReplacement := by
  rw [renderFile_rendered named found.file, suffix_sanitize_iff,
    suffix_limitSize_iff found.extension]
  constructor
  · rintro ⟨small, large⟩
    exact ⟨fun _ => small, large⟩
  · rintro ⟨placed, cut⟩
    refine ⟨fun small => ?_, cut⟩
    cases attached : placesExtension fileTemplate with
    | false => exact suffix_uncutFile found.extension attached
    | true => exact placed attached small

theorem validatedOriginalFilename_eq {filename : Option (List Char)}
    (accepted : validatedOriginalFilename filename extension = .ok name) :
    filename = some name := by
  unfold validatedOriginalFilename at accepted
  split at accepted
  · cases accepted
  · cases accepted
  · split at accepted
    · cases accepted
    · cases accepted
      rfl

/-- A file that keeps its original name has it behind the rendered text. -/
theorem suffix_renderFile {safe : List Char → List Char} {issueNumber : List Char}
    (keeps : keepsOriginal fileTemplate = true)
    (named : renderFile safe values fileTemplate issueNumber extension = .ok name) :
    ∃ original, values.originalFilename = some original ∧ original <:+ name := by
  unfold renderFile at named
  rw [if_pos keeps] at named
  split at named
  · cases named
  · rename_i original valid
    refine ⟨original, validatedOriginalFilename_eq valid, ?_⟩
    rw [← Option.some.inj (validatedOriginalFilename_eq named)]
    exact suffix_append _ _

/-- A file named by a template ends in the extension exactly where the template or the cut to
size leaves it there; a file that keeps its original name ends in that name. -/
theorem renderStoryArcRelativePath_extension (values : StoryArcNamingValues)
    (folderTemplate fileTemplate : List Char) (replaceIllegal : Bool) (colonReplacement : String)
    (path : RelativePath)
    (rendered : renderStoryArcRelativePath values folderTemplate fileTemplate replaceIllegal
      colonReplacement = .ok path) :
    (keepsOriginal fileTemplate = false →
      ('.' :: cleanExtension values.extension <:+ path.file ↔
        SparesExtension values fileTemplate replaceIllegal colonReplacement)) ∧
      (keepsOriginal fileTemplate = true →
        ∃ original, values.originalFilename = some original ∧ original <:+ path.file) := by
  have found := renders rendered
  exact ⟨found.sparesExtension_iff, fun keeps => suffix_renderFile keeps found.file⟩

/-- A short name keeps its extension. -/
theorem halfIssue_sparesExtension :
    SparesExtension (halfIssue "Crisis") defaultStoryArcFileTemplate true "dash" := by
  have rendered : renderStoryArcRelativePath (halfIssue "Crisis") defaultStoryArcFolderTemplate
      defaultStoryArcFileTemplate true "dash" =
        .ok ⟨"Crisis".toList, "007 - Wizard 1 - 2.cbz".toList⟩ := by
    decide +kernel
  have ends : ".cbz".toList <:+ "007 - Wizard 1 - 2.cbz".toList := by
    decide
  exact ((renderStoryArcRelativePath_extension _ _ _ _ _ _ rendered).1 (by decide)).1 ends

/-- An entry whose series has a title of eighty characters, of three bytes each. -/
def longTitle : StoryArcNamingValues where
  storyArc := "Crisis".toList
  readingOrder := 7
  series := List.replicate 80 'あ'
  issueNumber := "1".toList
  extension := "cbz".toList

/-- The cut takes the extension along. -/
theorem longTitle_loses_extension :
    ∃ path, renderStoryArcRelativePath longTitle defaultStoryArcFolderTemplate
        defaultStoryArcFileTemplate true "dash" = .ok path ∧
      path.file = "007 - ".toList ++ List.replicate 74 'あ' ∧
        keepsOriginal defaultStoryArcFileTemplate = false ∧
          ¬ '.' :: cleanExtension longTitle.extension <:+ path.file := by
  refine ⟨⟨"Crisis".toList, "007 - ".toList ++ List.replicate 74 'あ'⟩, by decide +kernel, rfl,
    by decide, ?_⟩
  decide +kernel

end Pullbox.Naming
