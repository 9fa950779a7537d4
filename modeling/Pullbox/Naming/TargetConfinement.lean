import Mathlib.Data.List.Nodup
import Pullbox.Durable.Results
import Pullbox.Naming.Library

/-!
# Where library targets can lead

A target is the series folder, inside the library root, and one name in it, unless illegal
characters are not replaced and a value that takes the place of a token has a slash.
-/

namespace Pullbox.Naming

open Files List Nat Text

variable {char : Char} {text : List Char} {disk : Disk} {source : SourcePath} {issue : Issue}
  {series : Series} {root : LibraryRoot} {policy : LibraryNamingPolicy} {rename : Bool}
  {collectionEntryCount : Nat} {target folder : PurePath} {colonReplacement : String}
  {issueType : IssueType} {template : List Char}

/-- A target is its series folder, which does not lead out of the library root, and one name. -/
structure ConfinedTarget (disk : Disk) (source : SourcePath) (issue : Issue) (series : Series)
    (root : LibraryRoot) (policy : LibraryNamingPolicy) (rename : Bool)
    (collectionEntryCount : Nat) (target : PurePath) : Prop where
  split : ∃ folder name, seriesFolder disk series root policy = .ok folder ∧
    disk.resolve (.parse root.path) <+: disk.resolve folder ∧
      targetName source issue series policy rename collectionEntryCount = .ok name ∧
        PurePath.IsName name ∧ target = { folder with steps := folder.steps ++ [.name name] }

/-! ### Folders -/

theorem renderedSeriesFolder_inside
    (found : renderedSeriesFolder disk series root policy = .ok folder) :
    disk.resolve (.parse root.path) <+: disk.resolve folder := by
  unfold renderedSeriesFolder at found
  split at found
  · cases found
  · simp only at found
    split at found
    · rename_i inside
      cases found
      exact isPrefixOf_iff_prefix.1 inside
    · cases found

theorem seriesFolder_inside (found : seriesFolder disk series root policy = .ok folder) :
    disk.resolve (.parse root.path) <+: disk.resolve folder := by
  unfold seriesFolder at found
  split at found
  · exact renderedSeriesFolder_inside found
  · exact renderedSeriesFolder_inside found
  · split at found
    · rename_i inside
      cases found
      exact isPrefixOf_iff_prefix.1 inside
    · split at found
      · cases found
      · exact renderedSeriesFolder_inside found

/-! ### Texts -/

/-- A character that is tidied away from no text. -/
structure Lasting (char : Char) : Prop where
  parens : char ≠ '(' ∧ char ≠ ')'
  brackets : char ≠ '[' ∧ char ≠ ']'
  visible : isSpace char = false
  inner : isTrailingSeparator char = false

theorem lasting_slash : Lasting '/' :=
  ⟨by decide, by decide, by decide, by decide⟩

theorem mem_dropEmptyFrom {opening closing : Char} {skipped : Nat}
    (other : char ≠ opening ∧ char ≠ closing) (visible : isSpace char = false) :
    char ∈ dropEmptyFrom opening closing skipped text ↔ char ∈ text.drop skipped := by
  induction text generalizing skipped with
  | nil =>
    rw [drop_nil]
    cases skipped with
    | zero => exact Iff.rfl
    | succ skipped => exact Iff.rfl
  | cons first rest ih =>
    cases skipped with
    | succ skipped => exact ih
    | zero =>
      unfold dropEmptyFrom
      split
      · rename_i pair
        obtain ⟨rfl, closes⟩ := pair
        rw [ih]
        obtain ⟨more, split⟩ : ∃ more, rest.dropWhile isSpace = closing :: more := by
          cases found : rest.dropWhile isSpace with
          | nil =>
            rw [found] at closes
            cases closes
          | cons head more =>
            rw [found] at closes
            exact ⟨more, by rw [Option.some.inj closes]⟩
        have whole : rest = rest.takeWhile isSpace ++ closing :: more := by
          rw [← split]
          exact takeWhile_append_dropWhile.symm
        have spaces : ∀ one ∈ rest.takeWhile isSpace, isSpace one = true :=
          fun one inside => mem_takeWhile_imp inside
        generalize rest.takeWhile isSpace = between at whole spaces
        have left : rest.drop (between.length + 1) = more := by
          rw [whole, ← drop_drop, drop_left]
          rfl
        have absent : char ∉ between := by
          intro inside
          rw [spaces char inside] at visible
          cases visible
        rw [left, drop_zero, whole]
        simp [other.1, other.2, absent]
      · rw [drop_zero, mem_cons, mem_cons, ih, drop_zero]

theorem mem_dropEmpty {opening closing : Char} (other : char ≠ opening ∧ char ≠ closing)
    (visible : isSpace char = false) : char ∈ dropEmpty opening closing text ↔ char ∈ text :=
  mem_dropEmptyFrom other visible

theorem mem_strip_iff (visible : isSpace char = false) : char ∈ strip text ↔ char ∈ text :=
  ⟨fun inside => strip_subset inside, fun inside => mem_strip inside visible⟩

theorem mem_tidyName (lasting : Lasting char) : char ∈ tidyName text ↔ char ∈ text := by
  unfold tidyName
  rw [mem_strip_iff lasting.visible]
  constructor
  · intro inside
    have kept : char ∈ strip (dropEmpty '[' ']' (strip (dropEmpty '(' ')' (collapse text)))) :=
      rstripWhile_subset inside
    rw [mem_strip_iff lasting.visible, mem_dropEmpty lasting.brackets lasting.visible,
      mem_strip_iff lasting.visible, mem_dropEmpty lasting.parens lasting.visible] at kept
    rcases mem_collapse kept with rfl | ⟨here, _⟩
    · exact absurd lasting.visible (by decide)
    · exact here
  · intro inside
    apply mem_rstripWhile _ lasting.inner
    rw [mem_strip_iff lasting.visible, mem_dropEmpty lasting.brackets lasting.visible,
      mem_strip_iff lasting.visible, mem_dropEmpty lasting.parens lasting.visible]
    exact mem_collapse_of_mem inside lasting.visible

/-- A token takes a value where it is in the name once those before it are replaced. -/
def Takes (replacements : Replacements) (template : List Char)
    (replacement : List Char × List Char) : Prop :=
  ∃ before after, replacements = before ++ replacement :: after ∧
    replacement.1 <:+: replaceTokens before template

theorem mem_replaceTokens {replacements : Replacements}
    (plain : ∀ replacement ∈ replacements, replacement.1 ≠ [] ∧ char ∉ replacement.1) :
    char ∈ replaceTokens replacements template ↔
      char ∈ template ∨ ∃ replacement, Takes replacements template replacement ∧
        char ∈ replacement.2 := by
  induction replacements generalizing template with
  | nil =>
    constructor
    · exact .inl
    · rintro (inside | ⟨replacement, ⟨before, after, split, _⟩, _⟩)
      · exact inside
      · exact absurd split (by simp)
  | cons first rest ih =>
    obtain ⟨some, other⟩ := plain first mem_cons_self
    have later : char ∈ replaceTokens rest (replaceAll first.1 first.2 template) ↔ _ :=
      ih fun replacement inside => plain replacement (mem_cons_of_mem _ inside)
    change char ∈ replaceTokens rest (replaceAll first.1 first.2 template) ↔ _
    rw [later, mem_replaceAll some other, or_assoc]
    refine or_congr_right ?_
    constructor
    · rintro (⟨here, value⟩ | ⟨replacement, ⟨before, after, rfl, here⟩, value⟩)
      · exact ⟨first, ⟨[], rest, rfl, here⟩, value⟩
      · exact ⟨replacement, ⟨first :: before, after, rfl, here⟩, value⟩
    · rintro ⟨replacement, ⟨before, after, split, here⟩, value⟩
      cases before with
      | nil =>
        obtain ⟨rfl, rfl⟩ := List.cons.inj split
        exact .inl ⟨here, value⟩
      | cons head before =>
        obtain ⟨rfl, rfl⟩ := List.cons.inj split
        exact .inr ⟨replacement, ⟨before, after, rfl, here⟩, value⟩

/-! ### Numbers -/

theorem slash_not_mem_digits {number : Nat} : '/' ∉ toDigits 10 number := by
  intro inside
  have digit := isDigit_of_mem_toDigits (by decide) (by decide) inside
  exact absurd digit (by decide)

theorem slash_not_mem_zeros {count : Nat} : '/' ∉ List.replicate count '0' := by
  intro inside
  exact absurd (eq_of_mem_replicate inside) (by decide)

theorem slash_not_mem_numberText {number : Int} : '/' ∉ numberText number := by
  unfold numberText
  split
  · rw [mem_cons, not_or]
    exact ⟨by decide, slash_not_mem_digits⟩
  · exact slash_not_mem_digits

theorem slash_not_mem_numberOrUnknown {number : Option Int} : '/' ∉ numberOrUnknown number := by
  unfold numberOrUnknown
  split
  · decide
  · decide
  · exact slash_not_mem_numberText

theorem slash_not_mem_zfill {width number : Nat} : '/' ∉ zfill width (toDigits 10 number) := by
  unfold zfill
  rw [mem_append, not_or]
  exact ⟨slash_not_mem_zeros, slash_not_mem_digits⟩

theorem slash_not_mem_padVolume {volume : Int} : '/' ∉ padVolume volume := by
  unfold padVolume
  split
  · rw [mem_cons, not_or]
    exact ⟨by decide, slash_not_mem_zfill⟩
  · exact slash_not_mem_zfill

theorem slash_not_mem_formatDecimal {value : DecimalNumber} : '/' ∉ formatDecimal value := by
  have padded {count : Nat} :
      '/' ∉ List.replicate count '0' ++ toDigits 10 value.coefficient := by
    rw [mem_append, not_or]
    exact ⟨slash_not_mem_zeros, slash_not_mem_digits⟩
  have rendered {places : Nat} : '/' ∉
      (let padded := List.replicate (places + 1 - (toDigits 10 value.coefficient).length) '0' ++
        toDigits 10 value.coefficient
      let fraction := rstripWhile (· == '0') (padded.drop (padded.length - places))
      let whole := padded.take (padded.length - places)
      if fraction = [] then whole else whole ++ '.' :: fraction) := by
    simp only
    split
    · exact fun inside => padded (mem_of_mem_take inside)
    · rw [mem_append, mem_cons, not_or, not_or]
      exact ⟨fun inside => padded (mem_of_mem_take inside), by decide,
        fun inside => padded (mem_of_mem_drop (rstripWhile_subset inside))⟩
  unfold formatDecimal
  split
  · decide
  · simp only
    split
    · rw [mem_cons, not_or]
      refine ⟨by decide, ?_⟩
      split
      · rw [mem_append, not_or]
        exact ⟨slash_not_mem_digits, slash_not_mem_zeros⟩
      · exact rendered
    · split
      · rw [mem_append, not_or]
        exact ⟨slash_not_mem_digits, slash_not_mem_zeros⟩
      · exact rendered

theorem toUpper_ne_slash (alpha : char.isAlpha = true) : char.toUpper ≠ '/' := by
  intro same
  unfold Char.toUpper at same
  split at same
  · rename_i lower
    have number := congrArg (fun upper : Char => upper.val.toNat) same
    have shift : ('A'.val - 'a'.val).toNat = 4294967264 := by decide
    have slash : '/'.val.toNat = 47 := by decide
    have least : 'a'.val.toNat ≤ char.val.toNat := lower.1
    have most : char.val.toNat ≤ 'z'.val.toNat := lower.2
    have first : 'a'.val.toNat = 97 := by decide
    have last : 'z'.val.toNat = 122 := by decide
    simp only [UInt32.toNat_add, shift, slash] at number
    omega
  · rw [same] at alpha
    exact absurd alpha (by decide)

theorem slash_not_mem_suffix : '/' ∉ (letterSuffix text).map Char.toUpper := by
  intro inside
  obtain ⟨letter, listed, upper⟩ := mem_map.1 inside
  have alpha : letter.isAlpha = true := mem_takeWhile_imp (mem_reverse.1 listed)
  exact toUpper_ne_slash alpha upper

theorem slash_not_mem_normalized {value : List Char}
    (normalized : normalizeIssueNumberText value = .ok text) : '/' ∉ text := by
  obtain ⟨⟨number, text⟩, parts, rfl⟩ := Durable.of_map_ok normalized
  unfold issueNumberParts at parts
  simp only at parts
  split at parts
  · cases parts
  · split at parts
    · cases parts
    · split at parts
      · cases parts
      · cases parts
      · rename_i number suffix parsed
        split at parts
        · cases parts
        · cases parts
          rw [mem_append, not_or]
          refine ⟨slash_not_mem_formatDecimal, ?_⟩
          split at parsed
          · cases parsed
            exact not_mem_nil
          · split at parsed
            · obtain ⟨_, _, same⟩ := Option.map_eq_some_iff.1 parsed
              cases same
              exact slash_not_mem_suffix
            · cases parsed

theorem slash_not_mem_padIssue (plain : '/' ∉ text) : '/' ∉ padIssue text := by
  unfold padIssue
  simp only
  split
  · exact plain
  · rw [mem_append, mem_append, not_or, not_or]
    refine ⟨⟨fun inside => ?_, fun inside => ?_⟩, fun inside => ?_⟩
    · exact plain (mem_of_mem_take (mem_filter.1 inside).1)
    · unfold zfill at inside
      rcases mem_append.1 inside with zero | digit
      · exact slash_not_mem_zeros zero
      · exact plain (mem_of_mem_drop (takeWhile_subset _ digit))
    · exact plain (mem_of_mem_drop (mem_of_mem_drop inside))

/-! ### The texts of renamed files -/

/-- The text of a renamed file, before it is sanitized. -/
def renamedText (issue : Issue) (series : Series) (policy : LibraryNamingPolicy)
    (issueType : IssueType) (replaceIllegal : Bool) (issueText : List Char) : List Char :=
  comicFileText (sanitizeForFilesystem replaceIllegal policy.colonReplacement) series.title
    series.yearStart (some issueText) (volumeNumber issue issueType) issueType issue.title
    series.publisher (fileTemplate policy issueType)

theorem computeTargetFilename_eq {name : List Char}
    (computed : computeTargetFilename issue series source policy issueType = .ok name) :
    ∃ issueText, normalizeIssueNumberText issue.effectiveIssueNumberText = .ok issueText ∧
      name = sanitizeForFilesystem policy.replaceIllegalCharacters policy.colonReplacement
          (renamedText issue series policy issueType policy.replaceIllegalCharacters issueText) ++
        '.' :: source.extension := by
  unfold computeTargetFilename formatComicFile at computed
  simp only at computed
  cases normalized : normalizeIssueNumberText issue.effectiveIssueNumberText with
  | error error =>
    rw [normalized] at computed
    cases computed
  | ok issueText =>
    rw [normalized] at computed
    exact ⟨issueText, rfl, (Except.ok.inj computed).symm⟩

theorem extension_no_slash : '/' ∉ source.extension := by
  intro inside
  have within : '/' ∈ nameSuffix source.name := dropWhile_subset _ inside
  unfold nameSuffix at within
  simp only at within
  split at within
  · cases within
  · rcases mem_cons.1 within with dot | later
    · exact absurd dot (by decide)
    · exact source.named.2.2.2
        (mem_reverse.1 (takeWhile_subset _ (mem_reverse.1 later)))

/-- A sanitized text with an extension names one entry unless it has a slash. -/
theorem isName_sanitized {replaceIllegal : Bool} :
    PurePath.IsName (sanitizeForFilesystem replaceIllegal colonReplacement text ++
        '.' :: source.extension) ↔
      '/' ∉ sanitizeForFilesystem replaceIllegal colonReplacement text := by
  constructor
  · intro name inside
    exact name.2.2.2 (mem_append_left _ inside)
  · intro plain
    cases named : sanitizeForFilesystem replaceIllegal colonReplacement text with
    | nil => exact absurd named sanitizeForFilesystem_ne_nil
    | cons first rest =>
      have last {char : Char} (ends : (first :: rest).getLast? = some char) : char ≠ '.' := by
        rw [← named] at ends
        have stays := sanitizeForFilesystem_getLast? ends
        rintro rfl
        exact absurd stays (by decide)
      have notDot : first :: rest ≠ ['.'] := by
        intro same
        rw [same] at last
        exact last rfl rfl
      rw [named] at plain
      refine ⟨by simp, ?_, ?_, ?_⟩
      · intro same
        have sizes := congrArg List.length same
        simp at sizes
      · intro same
        have sizes := congrArg List.length same
        rw [length_append, length_cons, length_cons] at sizes
        have alone : rest = [] := eq_nil_of_length_eq_zero (by
          simp only [length_cons, length_nil] at sizes
          omega)
        rw [alone] at same notDot
        have head : first = '.' := (List.cons.inj same).1
        exact notDot (by rw [head])
      · rw [mem_append, not_or]
        refine ⟨plain, ?_⟩
        rw [mem_cons, not_or]
        exact ⟨by decide, extension_no_slash⟩

/-- A slash is left in the text of a renamed file. -/
def LeavesFileSlash (issue : Issue) (series : Series) (policy : LibraryNamingPolicy)
    (collectionEntryCount : Nat) : Prop :=
  ∃ issueText, normalizeIssueNumberText issue.effectiveIssueNumberText = .ok issueText ∧
    '/' ∈ sanitizeForFilesystem false policy.colonReplacement
      (renamedText issue series policy
        (resolveNamingIssueType issue.issueType collectionEntryCount) false issueText)

theorem targetName_isName_iff {name : List Char}
    (named : targetName source issue series policy rename collectionEntryCount = .ok name) :
    PurePath.IsName name ↔ rename = false ∨ policy.replaceIllegalCharacters = true ∨
      ¬ LeavesFileSlash issue series policy collectionEntryCount := by
  unfold targetName at named
  cases rename with
  | false =>
    cases named
    exact iff_of_true source.named (.inl rfl)
  | true =>
    simp only [if_true] at named
    split at named
    · cases named
    · rename_i computed
      cases named
      obtain ⟨issueText, normalized, same⟩ := computeTargetFilename_eq computed
      rw [same, isName_sanitized]
      cases replaced : policy.replaceIllegalCharacters with
      | true =>
        refine iff_of_true (fun inside => ?_) (.inr (.inl rfl))
        exact absurd (sanitize_true_slash inside) (by decide)
      | false =>
        simp only [Bool.true_eq_false, Bool.false_eq_true, false_or]
        refine not_congr ⟨fun inside => ⟨issueText, normalized, inside⟩, ?_⟩
        rintro ⟨other, same, inside⟩
        rw [normalized] at same
        cases same
        exact inside

/-- What a predicted target is made of. -/
theorem predictLibraryTargetPath_eq
    (predicted : predictLibraryTargetPath disk source issue series root policy rename
      collectionEntryCount = .ok target) :
    ∃ folder name, seriesFolder disk series root policy = .ok folder ∧
      targetName source issue series policy rename collectionEntryCount = .ok name ∧
        target = folder.join (.parse name) := by
  unfold predictLibraryTargetPath at predicted
  split at predicted
  · cases predicted
  · cases found : seriesFolder disk series root policy with
    | error error =>
      rw [found] at predicted
      cases predicted
    | ok folder =>
      cases named : targetName source issue series policy rename collectionEntryCount with
      | error error =>
        rw [found, named] at predicted
        cases predicted
      | ok name =>
        rw [found, named] at predicted
        cases predicted
        exact ⟨folder, name, rfl, rfl, rfl⟩

/-- A predicted path is confined exactly where no slash is left in the name. -/
theorem confinedTarget_iff
    (predicted : predictLibraryTargetPath disk source issue series root policy rename
      collectionEntryCount = .ok target) :
    ConfinedTarget disk source issue series root policy rename collectionEntryCount target ↔
      rename = false ∨ policy.replaceIllegalCharacters = true ∨
        ¬ LeavesFileSlash issue series policy collectionEntryCount := by
  obtain ⟨folder, name, found, named, rfl⟩ := predictLibraryTargetPath_eq predicted
  rw [← targetName_isName_iff named]
  constructor
  · rintro ⟨_, other, _, _, same, isName, _⟩
    rw [named] at same
    cases same
    exact isName
  · intro isName
    exact ⟨folder, name, found, seriesFolder_inside found, named, isName,
      PurePath.join_name isName⟩

/-! ### The values with slashes -/

/-- A policy whose templates the validators accept. -/
structure AcceptedPolicy (policy : LibraryNamingPolicy) : Prop where
  series : ∃ segments, validateSeriesPathTemplate policy.seriesPathTemplate = .ok segments
  comic : validateLibraryFileTemplate policy.comicFileTemplate = .ok ()
  annual : validateLibraryFileTemplate policy.annualFileTemplate = .ok ()
  nonStandard : validateLibraryFileTemplate policy.nonStandardFileTemplate = .ok ()
  singleNonStandard : validateLibraryFileTemplate policy.singleNonStandardFileTemplate = .ok ()

theorem validateLibraryFileTemplate_slash
    (accepted : validateLibraryFileTemplate template = .ok ()) : '/' ∉ template := by
  unfold validateLibraryFileTemplate at accepted
  split at accepted
  · cases accepted
  · split at accepted
    · cases accepted
    · rename_i plain
      intro inside
      apply plain
      exact any_eq_true.2 ⟨'/', inside, by decide⟩

theorem resolveTemplate_slash {default template : List Char} (usual : '/' ∉ default)
    (accepted : validateLibraryFileTemplate template = .ok ()) :
    '/' ∉ resolveTemplate default template := by
  unfold resolveTemplate
  simp only
  split
  · exact usual
  · exact fun inside => validateLibraryFileTemplate_slash accepted (strip_subset inside)

theorem AcceptedPolicy.fileTemplate_slash (accepted : AcceptedPolicy policy)
    (issueType : IssueType) : '/' ∉ fileTemplate policy issueType := by
  unfold fileTemplate
  split
  · exact validateLibraryFileTemplate_slash accepted.annual
  · split
    · split
      · exact resolveTemplate_slash (by decide) accepted.nonStandard
      · exact resolveTemplate_slash (by decide) accepted.singleNonStandard
    · exact validateLibraryFileTemplate_slash accepted.comic

/-- The tokens of a file that stand for metadata, with what they stand for. -/
def fileSources (issue : Issue) (series : Series) : Replacements :=
  [("\x7bSeries\x7d".toList, series.title),
    ("\x7bIssueTitle\x7d".toList, issue.title.getD []),
    ("\x7bTitle\x7d".toList, issue.title.getD []),
    ("\x7bPublisher\x7d".toList, series.publisher.getD [])]

/-- The replacements of a renamed file's tokens where illegal characters are kept. -/
def rawReplacements (issue : Issue) (series : Series) (policy : LibraryNamingPolicy)
    (issueType : IssueType) (issueText : List Char) : Replacements :=
  fileReplacements (sanitizeForFilesystem false policy.colonReplacement) series.title
    series.yearStart (some issueText) (volumeNumber issue issueType) issueType issue.title
    series.publisher

/-- A title, a series title or a publisher with a slash takes the place of a token. -/
def FileNamesSlash (issue : Issue) (series : Series) (policy : LibraryNamingPolicy)
    (collectionEntryCount : Nat) : Prop :=
  let issueType := resolveNamingIssueType issue.issueType collectionEntryCount
  ∃ issueText, normalizeIssueNumberText issue.effectiveIssueNumberText = .ok issueText ∧
    ∃ source ∈ fileSources issue series, '/' ∈ source.2 ∧
      ∃ replacement, Takes (rawReplacements issue series policy issueType issueText)
        (fileTemplate policy issueType) replacement ∧ replacement.1 = source.1

/-- Nothing of a file's name is cut. -/
structure FileShort (issue : Issue) (series : Series) (policy : LibraryNamingPolicy)
    (collectionEntryCount : Nat) : Prop where
  sources : ∀ source ∈ fileSources issue series, Short source.2
  text : ∀ issueText, Short (renamedText issue series policy
    (resolveNamingIssueType issue.issueType collectionEntryCount) false issueText)

theorem slash_not_mem_issueTypeDisplayName :
    '/' ∉ issueTypeDisplayName issueType := by
  cases issueType <;> decide

theorem strippedValue_slash {missing : List Char} {value : Option (List Char)}
    (plain : '/' ∉ missing)
    (inside : '/' ∈ strippedValue (sanitizeForFilesystem false colonReplacement) missing value) :
    '/' ∈ value.getD [] := by
  unfold strippedValue at inside
  split at inside
  · exact absurd inside plain
  · exact absurd inside plain
  · exact slash_of_mem_sanitize (strip_subset inside) rfl

theorem slash_strippedValue {missing : List Char} {value : Option (List Char)}
    (inside : '/' ∈ value.getD []) (short : Short (value.getD [])) :
    '/' ∈ strippedValue (sanitizeForFilesystem false colonReplacement) missing value := by
  unfold strippedValue
  split
  · cases inside
  · cases inside
  · exact mem_strip (slash_mem_sanitize inside rfl short) (by decide)

section Replaced

variable {issueType : IssueType} {issueText : List Char} {replacement : List Char × List Char}

/-- The tokens of a file, with those of a volume that it has or has not. -/
def replacedTokens (volume : Option Int) : List (List Char) :=
  (fileReplacements id [] none (some []) volume .issue none none).map Prod.fst

theorem replacedTokens_plain : ∀ volume ∈ [none, some 0], (replacedTokens volume).Nodup ∧
    ∀ token ∈ replacedTokens volume, token ≠ [] ∧ '/' ∉ token := by
  decide

theorem rawReplacements_tokens : ∃ volume ∈ [none, some 0],
    (rawReplacements issue series policy issueType issueText).map Prod.fst =
      replacedTokens volume := by
  unfold rawReplacements
  cases volumeNumber issue issueType with
  | none => exact ⟨none, by decide, rfl⟩
  | some number => exact ⟨some 0, by decide, rfl⟩

theorem rawReplacements_plain
    (listed : replacement ∈ rawReplacements issue series policy issueType issueText) :
    replacement.1 ≠ [] ∧ '/' ∉ replacement.1 := by
  have known : ∃ volume ∈ [none, some 0],
      (rawReplacements issue series policy issueType issueText).map Prod.fst =
        replacedTokens volume := rawReplacements_tokens
  obtain ⟨volume, either, tokens⟩ := known
  have named := mem_map_of_mem (f := Prod.fst) listed
  rw [tokens] at named
  exact (replacedTokens_plain volume either).2 _ named

/-- A token stands for one value. -/
theorem rawReplacements_unique {other : List Char × List Char}
    (listed : replacement ∈ rawReplacements issue series policy issueType issueText)
    (otherListed : other ∈ rawReplacements issue series policy issueType issueText)
    (same : replacement.1 = other.1) : replacement = other := by
  have known : ∃ volume ∈ [none, some 0],
      (rawReplacements issue series policy issueType issueText).map Prod.fst =
        replacedTokens volume := rawReplacements_tokens
  obtain ⟨volume, either, tokens⟩ := known
  have distinct := (replacedTokens_plain volume either).1
  rw [← tokens] at distinct
  exact inj_on_of_nodup_map distinct listed otherListed same

theorem rawReplacements_slash (plain : '/' ∉ issueText)
    (listed : replacement ∈ rawReplacements issue series policy issueType issueText)
    (slash : '/' ∈ replacement.2) :
    ∃ source ∈ fileSources issue series, '/' ∈ source.2 ∧ replacement.1 = source.1 := by
  unfold rawReplacements fileReplacements at listed
  rw [mem_append, mem_append] at listed
  rcases listed with (metadata | number) | volume
  · unfold comicFileReplacements at metadata
    simp only [mem_cons, not_mem_nil, or_false] at metadata
    rcases metadata with rfl | rfl | rfl | rfl | rfl | rfl | rfl
    · exact ⟨_, .head _, slash_of_mem_sanitize slash rfl, rfl⟩
    · exact absurd slash slash_not_mem_numberOrUnknown
    · exact absurd slash slash_not_mem_issueTypeDisplayName
    · exact ⟨_, .tail _ (.head _), strippedValue_slash not_mem_nil slash, rfl⟩
    · exact ⟨_, .tail _ (.tail _ (.head _)), strippedValue_slash not_mem_nil slash, rfl⟩
    · exact ⟨_, .tail _ (.tail _ (.tail _ (.head _))), strippedValue_slash (by decide) slash, rfl⟩
    · cases slash
  · unfold issueReplacements at number
    simp only [mem_cons, not_mem_nil, or_false] at number
    rcases number with rfl | rfl
    · exact absurd slash (slash_not_mem_padIssue plain)
    · exact absurd slash plain
  · unfold volumeReplacements at volume
    split at volume
    · simp only [mem_cons, not_mem_nil, or_false] at volume
      rcases volume with rfl | rfl | rfl | rfl
      · cases slash
      · cases slash
      · cases slash
      · cases slash
    · simp only [mem_cons, not_mem_nil, or_false] at volume
      rcases volume with rfl | rfl
      · exact absurd slash slash_not_mem_padVolume
      · exact absurd slash slash_not_mem_numberText

theorem slash_rawReplacements {source : List Char × List Char}
    (listed : source ∈ fileSources issue series) (slash : '/' ∈ source.2)
    (short : Short source.2) :
    ∃ value, (source.1, value) ∈ rawReplacements issue series policy issueType issueText ∧
      '/' ∈ value := by
  unfold rawReplacements fileReplacements comicFileReplacements
  unfold fileSources at listed
  simp only [mem_cons, not_mem_nil, or_false] at listed
  rcases listed with rfl | rfl | rfl | rfl
  · exact ⟨_, .head _, slash_mem_sanitize slash rfl short⟩
  · exact ⟨_, .tail _ (.tail _ (.tail _ (.head _))), slash_strippedValue slash short⟩
  · exact ⟨_, .tail _ (.tail _ (.tail _ (.tail _ (.head _)))), slash_strippedValue slash short⟩
  · exact ⟨_, .tail _ (.tail _ (.tail _ (.tail _ (.tail _ (.head _))))),
      slash_strippedValue slash short⟩

end Replaced

theorem Takes.listed {replacements : Replacements}
    {replacement : List Char × List Char} (takes : Takes replacements template replacement) :
    replacement ∈ replacements := by
  obtain ⟨before, after, rfl, _⟩ := takes
  exact mem_append_right _ mem_cons_self

/-- A slash of a renamed file's text is one of a value that takes the place of a token. -/
theorem slash_mem_renamedText {issueText : List Char}
    (accepted : AcceptedPolicy policy) :
    '/' ∈ renamedText issue series policy issueType false issueText ↔
      ∃ replacement, Takes (rawReplacements issue series policy issueType issueText)
        (fileTemplate policy issueType) replacement ∧ '/' ∈ replacement.2 := by
  unfold renamedText comicFileText
  have made : '/' ∈ replaceTokens (rawReplacements issue series policy issueType issueText)
      (fileTemplate policy issueType) ↔ _ :=
    mem_replaceTokens fun replacement listed => rawReplacements_plain listed
  rw [mem_tidyName lasting_slash]
  exact made.trans (or_iff_right (accepted.fileTemplate_slash issueType))

theorem fileNamesSlash_of_leaves (accepted : AcceptedPolicy policy)
    (leaves : LeavesFileSlash issue series policy collectionEntryCount) :
    FileNamesSlash issue series policy collectionEntryCount := by
  obtain ⟨issueText, normalized, inside⟩ := leaves
  obtain ⟨replacement, takes, slash⟩ :=
    (slash_mem_renamedText accepted).1 (slash_of_mem_sanitize inside rfl)
  obtain ⟨source, listed, value, same⟩ :=
    rawReplacements_slash (slash_not_mem_normalized normalized) takes.listed slash
  exact ⟨issueText, normalized, source, listed, value, replacement, takes, same⟩

theorem leavesFileSlash_of_names (accepted : AcceptedPolicy policy)
    (short : FileShort issue series policy collectionEntryCount)
    (names : FileNamesSlash issue series policy collectionEntryCount) :
    LeavesFileSlash issue series policy collectionEntryCount := by
  obtain ⟨issueText, normalized, source, listed, slash, replacement, takes, same⟩ := names
  refine ⟨issueText, normalized, slash_mem_sanitize ?_ rfl (short.text issueText)⟩
  obtain ⟨value, replaced, inside⟩ := slash_rawReplacements listed slash (short.sources _ listed)
  have only := rawReplacements_unique takes.listed replaced same
  refine (slash_mem_renamedText accepted).2 ⟨replacement, takes, ?_⟩
  rw [only]
  exact inside

/-- A target is one name in a folder of its library exactly when the file keeps its name, illegal
characters are replaced or no slash is left in the text of its name; where nothing is cut, that
is when no value that takes the place of a token has one. -/
theorem predictLibraryTargetPath_confined (disk : Disk) (source : SourcePath) (issue : Issue)
    (series : Series) (root : LibraryRoot) (policy : LibraryNamingPolicy) (rename : Bool)
    (collectionEntryCount : Nat) (target : PurePath) (accepted : AcceptedPolicy policy)
    (predicted : predictLibraryTargetPath disk source issue series root policy rename
      collectionEntryCount = .ok target) :
    (ConfinedTarget disk source issue series root policy rename collectionEntryCount target ↔
        rename = false ∨ policy.replaceIllegalCharacters = true ∨
          ¬ LeavesFileSlash issue series policy collectionEntryCount) ∧
      (LeavesFileSlash issue series policy collectionEntryCount →
        FileNamesSlash issue series policy collectionEntryCount) ∧
      (FileShort issue series policy collectionEntryCount →
        (ConfinedTarget disk source issue series root policy rename collectionEntryCount target ↔
          rename = false ∨ policy.replaceIllegalCharacters = true ∨
            ¬ FileNamesSlash issue series policy collectionEntryCount)) := by
  refine ⟨confinedTarget_iff predicted, fileNamesSlash_of_leaves accepted, fun short => ?_⟩
  have same : LeavesFileSlash issue series policy collectionEntryCount ↔
      FileNamesSlash issue series policy collectionEntryCount :=
    ⟨fileNamesSlash_of_leaves accepted, leavesFileSlash_of_names accepted short⟩
  rw [confinedTarget_iff predicted, same]

/-! ### A collection whose title is a path -/

/-- The templates that a library has at first. -/
def usualPolicy (replaceIllegalCharacters : Bool) : LibraryNamingPolicy where
  seriesFolderTemplate := "\x7bSeries\x7d (\x7bYear\x7d)".toList
  comicFileTemplate := "\x7bSeries\x7d (\x7bYear\x7d) #\x7bIssue:03d\x7d".toList
  annualFileTemplate := "\x7bSeries\x7d (\x7bYear\x7d) Annual #\x7bIssue:03d\x7d".toList
  nonStandardFileTemplate := defaultCollectionNonStandardFileTemplate
  singleNonStandardFileTemplate := defaultSingleNonStandardFileTemplate
  replaceIllegalCharacters
  colonReplacement := "dash"
  seriesPathTemplate := "\x7bSeries\x7d (\x7bYear\x7d)".toList

def collectedSeries : Series where
  title := "Saga".toList
  yearStart := some 2012
  comicvineId := none
  seriesType := none
  publisher := none
  path := none
  libraryRootId := some 1

def collection : Issue where
  issueNumber := 1
  effectiveIssueNumberText := "1".toList
  issueType := .tpb
  title := some "One/../../../etc/two".toList

def comicsDisk : Disk where
  tree := fun place => if place = ["comics".toList] then some .directory else none
  cwd := []

def comicsRoot : LibraryRoot where
  id := 1
  path := "/comics".toList

def incoming : SourcePath where
  name := "saga.cbz".toList
  named := ⟨by decide, by decide, by decide, by decide⟩

theorem usualPolicy_accepted (replaceIllegalCharacters : Bool) :
    AcceptedPolicy (usualPolicy replaceIllegalCharacters) :=
  ⟨⟨_, rfl⟩, rfl, rfl, rfl, rfl⟩

/-- A collected edition is placed beneath its series. -/
theorem collection_confined :
    ∃ target, predictLibraryTargetPath comicsDisk incoming collection collectedSeries comicsRoot
        (usualPolicy true) true 1 = .ok target ∧
      ConfinedTarget comicsDisk incoming collection collectedSeries comicsRoot (usualPolicy true)
        true 1 target := by
  have predicted : predictLibraryTargetPath comicsDisk incoming collection collectedSeries
      comicsRoot (usualPolicy true) true 1 = .ok ⟨true, [.name "comics".toList,
        .name "Saga (2012)".toList,
        .name "Saga (2012) TPB 01 - One - .. - .. - .. - etc - two.cbz".toList]⟩ := by
    decide +kernel
  exact ⟨_, predicted, (predictLibraryTargetPath_confined _ _ _ _ _ _ _ _ _
    (usualPolicy_accepted true) predicted).1.2 (.inr (.inl rfl))⟩

/-- The title of a collection leads out of the library. -/
theorem collection_escapes :
    ∃ target, predictLibraryTargetPath comicsDisk incoming collection collectedSeries comicsRoot
        (usualPolicy false) true 1 = .ok target ∧
      AcceptedPolicy (usualPolicy false) ∧
        comicsDisk.resolve target = ["etc".toList, "two.cbz".toList] ∧
          ¬ comicsDisk.resolve (.parse comicsRoot.path) <+: comicsDisk.resolve target ∧
            ¬ ConfinedTarget comicsDisk incoming collection collectedSeries comicsRoot
              (usualPolicy false) true 1 target := by
  have named : targetName incoming collection collectedSeries (usualPolicy false) true 1 =
      .ok "Saga (2012) TPB 01 - One/../../../etc/two.cbz".toList := by
    decide +kernel
  have predicted : predictLibraryTargetPath comicsDisk incoming collection collectedSeries
      comicsRoot (usualPolicy false) true 1 = .ok ⟨true, [.name "comics".toList,
        .name "Saga (2012)".toList, .name "Saga (2012) TPB 01 - One".toList, .up, .up, .up,
        .name "etc".toList, .name "two.cbz".toList]⟩ := by
    decide +kernel
  refine ⟨_, predicted, usualPolicy_accepted false, by decide +kernel, by decide +kernel, ?_⟩
  rintro ⟨folder, name, _, _, same, isName, _⟩
  rw [named] at same
  cases same
  exact isName.2.2.2 (by decide)

end Pullbox.Naming
