import Pullbox.Search.Evaluation

/-!
# One best release

The evaluation and the selection rank the accepted releases alike as long as no size bound of
zero changes a score that matters.
-/

namespace Pullbox.Search

open List Sorting

variable {patterns : TitlePatterns} {validator : ReleaseValidator} {settings : SearchSettings}
  {wantedSeries : List Char} {wantedIssue : ℚ} {results : List ReleaseResult}
  {bounds first second : SizeBounds} {matched : List ValidationResult} {oneScore twoScore : ℚ}
  {validation one two : ValidationResult}

/-- The score of a validation under the blend of the settings. -/
def validationScore (patterns : TitlePatterns) (settings : SearchSettings) (bounds : SizeBounds)
    (validation : ValidationResult) : Except ScoreFault ℚ :=
  scoreValidationResult patterns settings bounds settings.blend (1 - settings.blend) validation

/-- The release of the validation that the selection picks from the accepted ones. -/
def selectedRelease (patterns : TitlePatterns) (validator : ReleaseValidator)
    (settings : SearchSettings) (wantedSeries : List Char) (wantedIssue : ℚ)
    (results : List ReleaseResult) : Except ScoreFault (Option ReleaseResult) :=
  (selectBestValidation patterns settings
    (validator.validateAllResults wantedSeries wantedIssue results).1).map
      (Option.map ValidationResult.release)

/-- Whether `one` is ranked before `two` of the same lane, given their scores. -/
def Leads (one two : ValidationResult) (oneScore twoScore : ℚ) : Prop :=
  twoScore < oneScore ∨
    twoScore = oneScore ∧ confidenceOrder one.confidence ≤ confidenceOrder two.confidence

instance (one two : ValidationResult) (oneScore twoScore : ℚ) :
    Decidable (Leads one two oneScore twoScore) :=
  inferInstanceAs (Decidable (_ ∨ _))

/-- The given bounds and the bounds with their defaults in the place of zeros let the same
accepted releases reach the minimum score, and rank the two of a lane that reach it alike. -/
structure RankedAlike (patterns : TitlePatterns) (validator : ReleaseValidator)
    (settings : SearchSettings) (wantedSeries : List Char) (wantedIssue : ℚ) : Prop where
  reach : ∀ release given truthy,
    let validation := validator.validateOne wantedSeries wantedIssue release
    validation.isMatch →
    validationScore patterns settings settings.givenBounds validation = .ok given →
    validationScore patterns settings settings.truthyBounds validation = .ok truthy →
    (settings.minScore ≤ given ↔ settings.minScore ≤ truthy)
  order : ∀ one two givenOne givenTwo truthyOne truthyTwo,
    let first := validator.validateOne wantedSeries wantedIssue one
    let second := validator.validateOne wantedSeries wantedIssue two
    first.isMatch → second.isMatch →
    releaseSourceRank one settings.sourcePriority =
      releaseSourceRank two settings.sourcePriority →
    validationScore patterns settings settings.givenBounds first = .ok givenOne →
    validationScore patterns settings settings.givenBounds second = .ok givenTwo →
    validationScore patterns settings settings.truthyBounds first = .ok truthyOne →
    validationScore patterns settings settings.truthyBounds second = .ok truthyTwo →
    settings.minScore ≤ givenOne → settings.minScore ≤ givenTwo →
    (Leads first second givenOne givenTwo ↔ Leads first second truthyOne truthyTwo)

/-! ### The two rankings -/

/-- A score under other bounds fails where it fails under these. -/
theorem validationScore_alike (patterns : TitlePatterns) (settings : SearchSettings)
    (first second : SizeBounds) (validation : ValidationResult) :
    (∃ fault, validationScore patterns settings first validation = .error fault ∧
        validationScore patterns settings second validation = .error fault) ∨
      ∃ one two, validationScore patterns settings first validation = .ok one ∧
        validationScore patterns settings second validation = .ok two := by
  simp only [validationScore, scoreValidationResult, scoreRelease]
  cases resolveWeights settings with
  | error fault => exact .inl ⟨fault, rfl, rfl⟩
  | ok weights =>
    cases scoreLanguage patterns validation.release.title settings.preferredLanguage with
    | error fault => exact .inl ⟨fault, rfl, rfl⟩
    | ok language => exact .inr ⟨_, _, rfl, rfl⟩

/-- The best of the accepted validations under some bounds. -/
def bestUnder (patterns : TitlePatterns) (settings : SearchSettings) (bounds : SizeBounds)
    (matched : List ValidationResult) : Except ScoreFault (Option ValidationResult) :=
  (scoreEach (validationRank settings) (validationScore patterns settings bounds) matched).map
    fun scored => (bestScored settings.minScore scored).map (·.item)

theorem selectBestValidation_eq : selectBestValidation patterns settings matched =
    bestUnder patterns settings settings.givenBounds matched := by
  unfold selectBestValidation
  split
  · rename_i empty
    rw [empty]
    rfl
  · rw [scoreAbove_eq_filter]
    unfold bestUnder validationScore
    cases scoreEach (validationRank settings) _ matched with
    | error fault => rfl
    | ok scored => rfl

theorem evaluateResults_eq :
    evaluateResults patterns validator settings (some wantedSeries) (some wantedIssue) results =
      (bestUnder patterns settings settings.truthyBounds
        (validator.validateAllResults wantedSeries wantedIssue results).1).map
          (Option.map ValidationResult.release) := by
  unfold evaluateResults
  split
  · rename_i empty
    rw [empty]
    rfl
  · simp only
    split
    · rename_i empty
      rw [empty]
      rfl
    · unfold bestUnder validationScore bestScored
      cases scoreEach (validationRank settings) _
          (validator.validateAllResults wantedSeries wantedIssue results).1 with
      | error fault => rfl
      | ok scored =>
        have cut := filter_sortOn (fun one : Scored ValidationResult =>
          decide (settings.minScore ≤ one.score)) Scored.key scored
        apply congrArg Except.ok
        rw [cut, Option.map_map]
        rfl

/-- What is accepted was validated. -/
theorem of_mem_validateAllResults
    (inside : validation ∈ (validator.validateAllResults wantedSeries wantedIssue results).1) :
    validation.isMatch ∧
      ∃ release, validator.validateOne wantedSeries wantedIssue release = validation := by
  obtain ⟨validated, isMatch⟩ := mem_filter.1 (mem_sortOn.1 inside)
  obtain ⟨release, -, rfl⟩ := mem_map.1 validated
  exact ⟨isMatch, release, rfl⟩

/-- The surer of two accepted validations comes first. -/
theorem pairwise_validateAllResults :
    (validator.validateAllResults wantedSeries wantedIssue results).1.Pairwise fun one two =>
      confidenceOrder one.confidence ≤ confidenceOrder two.confidence :=
  pairwise_sortOn _ _

/-- The number of a score, if it is one. -/
def scoreValue (score : Except ScoreFault ℚ) : ℚ :=
  score.toOption.getD 0

theorem leads_iff_of_le (surer : confidenceOrder one.confidence ≤ confidenceOrder two.confidence) :
    Leads one two oneScore twoScore ↔ twoScore ≤ oneScore := by
  rw [le_iff_lt_or_eq]
  simp [Leads, surer]

theorem leads_iff_of_lt (surer : confidenceOrder two.confidence < confidenceOrder one.confidence) :
    Leads one two oneScore twoScore ↔ twoScore < oneScore := by
  simp [Leads, surer]

theorem validationScore_of_ok {score : ℚ}
    (scored : validationScore patterns settings bounds validation = .ok score) :
    validationScore patterns settings bounds validation =
      .ok (scoreValue (validationScore patterns settings bounds validation)) := by
  rw [scored]
  rfl

theorem bestUnder_of_ok {final : ValidationResult → ℚ}
    (scores : ∀ validation ∈ matched,
      validationScore patterns settings bounds validation = .ok (final validation)) :
    bestUnder patterns settings bounds matched =
      .ok ((bestScored settings.minScore (matched.map fun validation =>
        ⟨validationRank settings validation, final validation, validation⟩)).map (·.item)) := by
  rw [bestUnder, scoreEach_of_ok scores]
  rfl

/-- Bounds that rank the accepted validations alike have the same best one. -/
theorem bestUnder_congr
    (alike : RankedAlike patterns validator settings wantedSeries wantedIssue) :
    bestUnder patterns settings settings.truthyBounds
        (validator.validateAllResults wantedSeries wantedIssue results).1 =
      bestUnder patterns settings settings.givenBounds
        (validator.validateAllResults wantedSeries wantedIssue results).1 := by
  obtain ⟨fault, failed, failedToo⟩ | scored := scoreEach_settles
    (validationRank settings) (validator.validateAllResults wantedSeries wantedIssue results).1
    (validationScore_alike patterns settings settings.givenBounds settings.truthyBounds)
  · rw [bestUnder, bestUnder, failed, failedToo]
  · have given : ∀ validation ∈ (validator.validateAllResults wantedSeries wantedIssue results).1,
        validationScore patterns settings settings.givenBounds validation =
          .ok (scoreValue (validationScore patterns settings settings.givenBounds validation)) := by
      intro validation inside
      obtain ⟨score, -, isScore, -⟩ := scored validation inside
      exact validationScore_of_ok isScore
    have truthy : ∀ validation ∈ (validator.validateAllResults wantedSeries wantedIssue results).1,
        validationScore patterns settings settings.truthyBounds validation =
          .ok (scoreValue (validationScore patterns settings settings.truthyBounds validation)) := by
      intro validation inside
      obtain ⟨-, score, -, isScore⟩ := scored validation inside
      exact validationScore_of_ok isScore
    rw [bestUnder_of_ok given, bestUnder_of_ok truthy]
    apply congrArg Except.ok
    symm
    apply bestScored_congr
    · intro validation inside
      obtain ⟨isMatch, release, rfl⟩ := of_mem_validateAllResults inside
      exact alike.reach release _ _ isMatch (given _ inside) (truthy _ inside)
    · apply (pairwise_validateAllResults.filter _).imp_of_mem
      intro one two insideOne insideTwo surer lane
      obtain ⟨insideOne, reachesOne⟩ := mem_filter.1 insideOne
      obtain ⟨insideTwo, reachesTwo⟩ := mem_filter.1 insideTwo
      rw [← leads_iff_of_le surer, ← leads_iff_of_le surer]
      obtain ⟨isMatchOne, releaseOne, rfl⟩ := of_mem_validateAllResults insideOne
      obtain ⟨isMatchTwo, releaseTwo, rfl⟩ := of_mem_validateAllResults insideTwo
      unfold validationRank at lane
      rw [validator.release_validateOne, validator.release_validateOne] at lane
      exact alike.order releaseOne releaseTwo _ _ _ _ isMatchOne isMatchTwo lane
        (given _ insideOne) (given _ insideTwo) (truthy _ insideOne) (truthy _ insideTwo)
        (of_decide_eq_true reachesOne) (of_decide_eq_true reachesTwo)

theorem evaluate_eq_select_of_rankedAlike
    (alike : RankedAlike patterns validator settings wantedSeries wantedIssue)
    (results : List ReleaseResult) :
    evaluateResults patterns validator settings (some wantedSeries) (some wantedIssue) results =
      selectedRelease patterns validator settings wantedSeries wantedIssue results := by
  rw [evaluateResults_eq, selectedRelease, selectBestValidation_eq, bestUnder_congr alike]

/-! ### What agreement takes -/

theorem bestUnder_singleton {score : ℚ}
    (scored : validationScore patterns settings bounds validation = .ok score) :
    bestUnder patterns settings bounds [validation] =
      .ok (if settings.minScore ≤ score then some validation else none) := by
  rw [bestUnder, scoreEach, scored, scoreEach]
  change Except.ok (Option.map _ (bestScored settings.minScore [_])) = _
  rw [bestScored, filter_cons]
  by_cases reaches : settings.minScore ≤ score
  · rw [if_pos reaches, if_pos (decide_eq_true reaches)]
    rfl
  · rw [if_neg reaches, if_neg (by simpa using reaches)]
    rfl

theorem bestUnder_pair (lane : validationRank settings one = validationRank settings two)
    (oneScored : validationScore patterns settings bounds one = .ok oneScore)
    (twoScored : validationScore patterns settings bounds two = .ok twoScore)
    (oneReaches : settings.minScore ≤ oneScore) (twoReaches : settings.minScore ≤ twoScore) :
    bestUnder patterns settings bounds [one, two] =
      .ok (some (if twoScore ≤ oneScore then one else two)) := by
  rw [bestUnder, scoreEach, oneScored, scoreEach, twoScored, scoreEach]
  change Except.ok (Option.map _ (bestScored settings.minScore [_, _])) = _
  rw [bestScored, filter_cons, filter_cons, if_pos (decide_eq_true oneReaches),
    if_pos (decide_eq_true twoReaches), filter_nil, sortOn_pair]
  have ahead : (⟨validationRank settings one, oneScore, one⟩ : Scored ValidationResult).key ≤
      (⟨validationRank settings two, twoScore, two⟩ : Scored ValidationResult).key ↔
        twoScore ≤ oneScore := by
    rw [Scored.key, Scored.key, Prod.Lex.toLex_le_toLex]
    simp [lane]
  by_cases higher : twoScore ≤ oneScore
  · rw [if_pos higher, if_pos (ahead.2 higher)]
    rfl
  · rw [if_neg higher, if_neg (mt ahead.1 higher)]
    rfl

theorem validateAllResults_fst :
    (validator.validateAllResults wantedSeries wantedIssue results).1 =
      sortOn (fun validation => confidenceOrder validation.confidence)
        ((results.map (validator.validateOne wantedSeries wantedIssue)).filter (·.isMatch)) :=
  rfl

theorem validateAllResults_singleton {release : ReleaseResult}
    (isMatch : (validator.validateOne wantedSeries wantedIssue release).isMatch) :
    (validator.validateAllResults wantedSeries wantedIssue [release]).1 =
      [validator.validateOne wantedSeries wantedIssue release] := by
  rw [validateAllResults_fst, map_singleton, filter_cons, if_pos isMatch]
  rfl

theorem validateAllResults_pair {one two : ReleaseResult}
    (oneMatch : (validator.validateOne wantedSeries wantedIssue one).isMatch)
    (twoMatch : (validator.validateOne wantedSeries wantedIssue two).isMatch) :
    (validator.validateAllResults wantedSeries wantedIssue [one, two]).1 =
      if confidenceOrder (validator.validateOne wantedSeries wantedIssue one).confidence ≤
          confidenceOrder (validator.validateOne wantedSeries wantedIssue two).confidence then
        [validator.validateOne wantedSeries wantedIssue one,
          validator.validateOne wantedSeries wantedIssue two]
      else
        [validator.validateOne wantedSeries wantedIssue two,
          validator.validateOne wantedSeries wantedIssue one] := by
  rw [validateAllResults_fst, map_cons, map_singleton, filter_cons, filter_cons, if_pos oneMatch,
    if_pos twoMatch, filter_nil]
  exact sortOn_pair _ _ _

/-- The best of two accepted releases, as they are validated together. -/
theorem bestUnder_validated_pair {one two : ReleaseResult}
    (oneMatch : (validator.validateOne wantedSeries wantedIssue one).isMatch)
    (twoMatch : (validator.validateOne wantedSeries wantedIssue two).isMatch)
    (lane : releaseSourceRank one settings.sourcePriority =
      releaseSourceRank two settings.sourcePriority)
    (oneScored : validationScore patterns settings bounds
      (validator.validateOne wantedSeries wantedIssue one) = .ok oneScore)
    (twoScored : validationScore patterns settings bounds
      (validator.validateOne wantedSeries wantedIssue two) = .ok twoScore)
    (oneReaches : settings.minScore ≤ oneScore) (twoReaches : settings.minScore ≤ twoScore) :
    (bestUnder patterns settings bounds
        (validator.validateAllResults wantedSeries wantedIssue [one, two]).1).map
      (Option.map ValidationResult.release) =
    .ok (some (if Leads (validator.validateOne wantedSeries wantedIssue one)
      (validator.validateOne wantedSeries wantedIssue two) oneScore twoScore
        then one else two)) := by
  have ranks : validationRank settings (validator.validateOne wantedSeries wantedIssue one) =
      validationRank settings (validator.validateOne wantedSeries wantedIssue two) := by
    unfold validationRank
    rw [validator.release_validateOne, validator.release_validateOne, lane]
  rw [validateAllResults_pair oneMatch twoMatch]
  by_cases surer : confidenceOrder (validator.validateOne wantedSeries wantedIssue one).confidence ≤
      confidenceOrder (validator.validateOne wantedSeries wantedIssue two).confidence
  · rw [if_pos surer, bestUnder_pair ranks oneScored twoScored oneReaches twoReaches]
    have leads : Leads _ _ oneScore twoScore ↔ twoScore ≤ oneScore := leads_iff_of_le surer
    by_cases higher : twoScore ≤ oneScore
    · rw [if_pos higher, if_pos (leads.2 higher)]
      exact congrArg (Except.ok ∘ some) (validator.release_validateOne _ _ one)
    · rw [if_neg higher, if_neg (mt leads.1 higher)]
      exact congrArg (Except.ok ∘ some) (validator.release_validateOne _ _ two)
  · rw [if_neg surer, bestUnder_pair ranks.symm twoScored oneScored twoReaches oneReaches]
    have leads : Leads _ _ oneScore twoScore ↔ twoScore < oneScore :=
      leads_iff_of_lt (not_le.1 surer)
    by_cases higher : oneScore ≤ twoScore
    · rw [if_pos higher, if_neg (mt leads.1 (not_lt.2 higher))]
      exact congrArg (Except.ok ∘ some) (validator.release_validateOne _ _ two)
    · rw [if_neg higher, if_pos (leads.2 (not_le.1 higher))]
      exact congrArg (Except.ok ∘ some) (validator.release_validateOne _ _ one)

theorem rankedAlike_of_evaluate_eq_select
    (agree : ∀ results,
      evaluateResults patterns validator settings (some wantedSeries) (some wantedIssue) results =
        selectedRelease patterns validator settings wantedSeries wantedIssue results) :
    RankedAlike patterns validator settings wantedSeries wantedIssue := by
  have best : ∀ results,
      (bestUnder patterns settings settings.truthyBounds
        (validator.validateAllResults wantedSeries wantedIssue results).1).map
          (Option.map ValidationResult.release) =
      (bestUnder patterns settings settings.givenBounds
        (validator.validateAllResults wantedSeries wantedIssue results).1).map
          (Option.map ValidationResult.release) := by
    intro results
    rw [← evaluateResults_eq, agree, selectedRelease, selectBestValidation_eq]
  have reach : ∀ release given truthy,
      (validator.validateOne wantedSeries wantedIssue release).isMatch →
      validationScore patterns settings settings.givenBounds
        (validator.validateOne wantedSeries wantedIssue release) = .ok given →
      validationScore patterns settings settings.truthyBounds
        (validator.validateOne wantedSeries wantedIssue release) = .ok truthy →
      (settings.minScore ≤ given ↔ settings.minScore ≤ truthy) := by
    intro release given truthy isMatch givenScored truthyScored
    have alone := best [release]
    rw [validateAllResults_singleton isMatch, bestUnder_singleton givenScored,
      bestUnder_singleton truthyScored] at alone
    by_cases reaches : settings.minScore ≤ given
    · by_cases reachesToo : settings.minScore ≤ truthy
      · exact iff_of_true reaches reachesToo
      · rw [if_pos reaches, if_neg reachesToo] at alone
        cases alone
    · by_cases reachesToo : settings.minScore ≤ truthy
      · rw [if_neg reaches, if_pos reachesToo] at alone
        cases alone
      · exact iff_of_false reaches reachesToo
  constructor
  · exact fun release given truthy => reach release given truthy
  · intro one two givenOne givenTwo truthyOne truthyTwo first second oneMatch twoMatch lane
      givenOneScored givenTwoScored truthyOneScored truthyTwoScored oneReaches twoReaches
    by_cases same : one = two
    · subst same
      have given := Except.ok.inj (givenOneScored.symm.trans givenTwoScored)
      have truthy := Except.ok.inj (truthyOneScored.symm.trans truthyTwoScored)
      exact iff_of_true (.inr ⟨given.symm, le_rfl⟩) (.inr ⟨truthy.symm, le_rfl⟩)
    · have both := best [one, two]
      rw [bestUnder_validated_pair oneMatch twoMatch lane givenOneScored givenTwoScored oneReaches
          twoReaches,
        bestUnder_validated_pair oneMatch twoMatch lane truthyOneScored truthyTwoScored
          ((reach one _ _ oneMatch givenOneScored truthyOneScored).1 oneReaches)
          ((reach two _ _ twoMatch givenTwoScored truthyTwoScored).1 twoReaches)] at both
      have picked := Option.some.inj (Except.ok.inj both)
      by_cases leads : Leads first second givenOne givenTwo
      · by_cases leadsToo : Leads first second truthyOne truthyTwo
        · exact iff_of_true leads leadsToo
        · rw [if_pos leads, if_neg leadsToo] at picked
          exact absurd picked.symm same
      · by_cases leadsToo : Leads first second truthyOne truthyTwo
        · rw [if_neg leads, if_pos leadsToo] at picked
          exact absurd picked same
        · exact iff_of_false leads leadsToo

/-! ### Bounds of zero -/

theorem sizeInMb_mul (size : ℤ) : sizeInMb (size * (1024 * 1024)) = size := by
  have megabyte : (1024 * 1024 : ℚ) ≠ 0 := by norm_num
  unfold sizeInMb
  rw [Int.cast_mul, Int.cast_mul]
  exact mul_div_cancel_right₀ (size : ℚ) megabyte

theorem orDefault_of_ne_zero {value : Option ℤ} (nonzero : value ≠ some 0) (default : ℤ) :
    orDefault value default = value.getD default := by
  cases value with
  | none => rfl
  | some value =>
    have nonzero : value ≠ 0 := fun zero => nonzero (congrArg some zero)
    exact if_neg nonzero

/-- A size above a lower bound of twice the upper default scores nothing under either upper
bound. -/
theorem scoreSize_of_large {low high size : ℤ} (large : 4000 ≤ low)
    (bound : high = 0 ∨ high = defaultMaxSizeMb) (above : ¬ sizeInMb size < low) :
    scoreSize (some size) ⟨low, high⟩ = 0 := by
  have above : (4000 : ℚ) ≤ sizeInMb size := le_trans (by exact_mod_cast large) (not_lt.1 above)
  simp only [scoreSize]
  rw [if_neg ‹_›]
  obtain rfl | rfl := bound
  · rw [if_pos (by push_cast; linarith), if_neg (lt_irrefl 0)]
    norm_num
  · rw [if_pos (by norm_num [defaultMaxSizeMb]; linarith), if_pos (by decide)]
    apply max_eq_left
    norm_num [defaultMaxSizeMb]
    linarith

theorem scoreSize_alike (settings : SearchSettings) (low : settings.minSizeMb ≠ some 0)
    (high : settings.maxSizeMb = some 0 → 4000 ≤ settings.minSizeMb.getD defaultMinSizeMb)
    (size : Option ℤ) :
    scoreSize size settings.givenBounds = scoreSize size settings.truthyBounds := by
  unfold SearchSettings.givenBounds SearchSettings.truthyBounds
  rw [orDefault_of_ne_zero low]
  by_cases zero : settings.maxSizeMb = some 0
  · cases size with
    | none => rfl
    | some size =>
      rw [zero]
      by_cases below : sizeInMb size < settings.minSizeMb.getD defaultMinSizeMb
      · simp only [scoreSize]
        rw [if_pos below, if_pos below]
      · exact (scoreSize_of_large (high zero) (.inl rfl) below).trans
          (scoreSize_of_large (high zero) (.inr rfl) below).symm
  · rw [orDefault_of_ne_zero zero]

/-- Half of the lower default scores half, which no whole upper bound makes of it. -/
theorem scoreSize_of_half (high highToo : ℤ) :
    scoreSize (some (25 * (1024 * 1024))) ⟨0, high⟩ ≠
      scoreSize (some (25 * (1024 * 1024))) ⟨defaultMinSizeMb, highToo⟩ := by
  have half : scoreSize (some (25 * (1024 * 1024))) ⟨defaultMinSizeMb, highToo⟩ = 50 := by
    simp only [scoreSize, sizeInMb_mul]
    norm_num [defaultMinSizeMb]
  rw [half]
  simp only [scoreSize, sizeInMb_mul]
  rw [if_neg (by norm_num)]
  split
  · split
    · rename_i positive
      have positive : (high : ℚ) ≠ 0 := by exact_mod_cast positive.ne'
      intro equal
      obtain zero | above := max_choice 0 (100 - ((25 : ℤ) - (high : ℚ)) / high * 100)
      · rw [zero] at equal
        norm_num at equal
      · rw [above] at equal
        have share : ((25 : ℤ) - (high : ℚ)) / high = 1 / 2 := by linarith
        rw [div_eq_iff positive] at share
        have whole : (50 : ℚ) = 3 * high := by
          push_cast at share
          linarith
        have whole : 50 = 3 * high := by exact_mod_cast whole
        omega
    · norm_num
  · norm_num

/-- A size from the lower bound on scores nothing above an upper bound of zero. -/
theorem scoreSize_of_zero {low : ℤ} (small : low < 4000) :
    scoreSize (some (max low 1 * (1024 * 1024))) ⟨low, 0⟩ ≠
      scoreSize (some (max low 1 * (1024 * 1024))) ⟨low, defaultMaxSizeMb⟩ := by
  have reached : ¬ ((max low 1 : ℤ) : ℚ) < low := not_lt.2 (by exact_mod_cast le_max_left low 1)
  have positive : (0 : ℚ) < (max low 1 : ℤ) := by exact_mod_cast lt_max_of_lt_right one_pos
  have bound : ((max low 1 : ℤ) : ℚ) < 4000 := by exact_mod_cast max_lt small (by norm_num)
  simp only [scoreSize, sizeInMb_mul]
  generalize ((max low 1 : ℤ) : ℚ) = size at reached positive bound
  rw [if_neg reached, if_neg reached, if_pos (by exact_mod_cast positive), if_neg (lt_irrefl 0)]
  apply ne_of_lt
  rw [one_mul, sub_self, max_self]
  split
  · rw [if_pos (by decide)]
    apply lt_max_of_lt_right
    norm_num [defaultMaxSizeMb]
    linarith
  · norm_num

/-- A size that the two bounds score differently. -/
theorem exists_scoreSize_ne (settings : SearchSettings)
    (zero : ¬ (settings.minSizeMb ≠ some 0 ∧
      (settings.maxSizeMb = some 0 → 4000 ≤ settings.minSizeMb.getD defaultMinSizeMb))) :
    ∃ size : ℤ, scoreSize (some size) settings.givenBounds ≠
      scoreSize (some size) settings.truthyBounds := by
  unfold SearchSettings.givenBounds SearchSettings.truthyBounds
  by_cases low : settings.minSizeMb = some 0
  · rw [low]
    exact ⟨_, scoreSize_of_half _ _⟩
  · obtain ⟨high, small⟩ : settings.maxSizeMb = some 0 ∧
        settings.minSizeMb.getD defaultMinSizeMb < 4000 := by
      by_contra other
      apply zero
      constructor
      · exact low
      · intro high
        exact not_lt.1 fun small => other ⟨high, small⟩
    rw [high, orDefault_of_ne_zero low]
    exact ⟨_, scoreSize_of_zero small⟩

/-! ### One best release -/

/-- A title without a format, a pack, a language or a source. -/
def plainPatterns : TitlePatterns where
  formatExtension _ := none
  formatTag _ := none
  language _ := none
  isPack _ := false
  isScan _ := false
  isDigital _ := false

/-- The validator where every title is the one that is wanted. -/
def acceptingValidator : ReleaseValidator where
  validateOne _ _ release := { isMatch := true, confidence := .high, release }
  release_validateOne _ _ _ := rfl

def sizedRelease (sizeBytes ageDays : ℤ) : ReleaseResult where
  title := "Batman 001 (2024)".toList
  sizeBytes := some sizeBytes
  ageDays := some ageDays
  protocol := .usenet

/-- Settings that only score the size. -/
def sizeSettings (minSizeMb maxSizeMb : Option ℤ) (minScore : ℚ) : SearchSettings where
  minScore := minScore
  minSizeMb := minSizeMb
  maxSizeMb := maxSizeMb
  scoreWeights := some (0, 0, 1, 0)
  confidenceBlend := some 0

theorem addScores_sizeSettings (minSizeMb maxSizeMb : Option ℤ) (minScore : ℚ) (size : ℤ) :
    addScores plainPatterns (sizeSettings minSizeMb maxSizeMb minScore) bounds
      (sizedRelease size 0) ⟨0, 0, 1, 0, 0⟩ 0 = scoreSize (some size) bounds := by
  have category : scoreCategory (sizedRelease size 0).category = 0 := rfl
  have seeders : scoreSeeders (sizedRelease size 0).seeders (sizedRelease size 0).isTorrent
      ((sizeSettings minSizeMb maxSizeMb minScore).seederTiers.getD (10, 30, 50)) = 0 := rfl
  have digital : scoreDigitalBonus plainPatterns (sizedRelease size 0).title
      (sizeSettings minSizeMb maxSizeMb minScore).digitalBonus = 0 := rfl
  have pack : scorePackPenalty plainPatterns (sizedRelease size 0).title none
      (sizeSettings minSizeMb maxSizeMb minScore).maxFileCount
      (sizeSettings minSizeMb maxSizeMb minScore).packPenalty = 0 := rfl
  unfold addScores
  simp only [category, seeders, digital, pack, mul_zero, mul_one, zero_add, add_zero,
    lt_irrefl, if_false]
  rfl

theorem validationScore_sizeSettings (minSizeMb maxSizeMb : Option ℤ) (minScore : ℚ)
    (size : ℤ) :
    validationScore plainPatterns (sizeSettings minSizeMb maxSizeMb minScore) bounds
      (acceptingValidator.validateOne wantedSeries wantedIssue (sizedRelease size 0)) =
        .ok (scoreSize (some size) bounds) := by
  have weights : resolveWeights (sizeSettings minSizeMb maxSizeMb minScore) =
      .ok ⟨0, 0, 1, 0, 0⟩ := rfl
  have language : scoreLanguage plainPatterns (sizedRelease size 0).title
      (sizeSettings minSizeMb maxSizeMb minScore).preferredLanguage = .ok 0 := rfl
  have quality : scoreRelease plainPatterns (sizeSettings minSizeMb maxSizeMb minScore) bounds
      (sizedRelease size 0) = .ok (scoreSize (some size) bounds) := by
    rw [scoreRelease, weights, language]
    exact congrArg Except.ok (addScores_sizeSettings minSizeMb maxSizeMb minScore size)
  unfold validationScore scoreValidationResult
  rw [acceptingValidator.release_validateOne, quality]
  apply congrArg Except.ok
  change scoreSize (some size) bounds * (1 - 0) + 100 * 0 = scoreSize (some size) bounds
  rw [sub_zero, mul_one, mul_zero, add_zero]

/-- Bounds that score all sizes alike rank all releases alike. -/
theorem rankedAlike_of_scoreSize_alike
    (alike : ∀ size, scoreSize size settings.givenBounds = scoreSize size settings.truthyBounds) :
    RankedAlike patterns validator settings wantedSeries wantedIssue := by
  have scores : ∀ validation,
      validationScore patterns settings settings.truthyBounds validation =
        validationScore patterns settings settings.givenBounds validation := by
    intro validation
    simp only [validationScore, scoreValidationResult]
    rw [scoreRelease_congr (alike validation.release.sizeBytes)]
  constructor
  · intro release given truthy validation isMatch givenScored truthyScored
    obtain rfl := Except.ok.inj (givenScored.symm.trans ((scores _).symm.trans truthyScored))
    exact Iff.rfl
  · intro one two givenOne givenTwo truthyOne truthyTwo first second oneMatch twoMatch lane
      givenOneScored givenTwoScored truthyOneScored truthyTwoScored oneReaches twoReaches
    obtain rfl := Except.ok.inj (givenOneScored.symm.trans ((scores _).symm.trans truthyOneScored))
    obtain rfl := Except.ok.inj (givenTwoScored.symm.trans ((scores _).symm.trans truthyTwoScored))
    exact Iff.rfl

/-- The bounds that rank all accepted releases alike under every other setting. -/
theorem forall_rankedAlike_iff (low high : Option ℤ) :
    (∀ patterns validator settings wantedSeries wantedIssue,
      settings.minSizeMb = low → settings.maxSizeMb = high →
        RankedAlike patterns validator settings wantedSeries wantedIssue) ↔
      low ≠ some 0 ∧ (high = some 0 → 4000 ≤ low.getD defaultMinSizeMb) := by
  constructor
  · intro alike
    by_contra zero
    obtain ⟨size, differ⟩ := exists_scoreSize_ne (sizeSettings low high 0) zero
    -- The higher of the two scores is a minimum score that only one of them reaches.
    let given := scoreSize (some size) (sizeSettings low high 0).givenBounds
    let truthy := scoreSize (some size) (sizeSettings low high 0).truthyBounds
    have ranked := alike plainPatterns acceptingValidator (sizeSettings low high (max given truthy))
      [] 0 rfl rfl
    have reach : max given truthy ≤ given ↔ max given truthy ≤ truthy :=
      ranked.reach (sizedRelease size 0) given truthy rfl
        (validationScore_sizeSettings low high _ size)
        (validationScore_sizeSettings low high _ size)
    rw [max_le_iff, max_le_iff] at reach
    obtain below | above := le_total given truthy
    · exact differ (le_antisymm below (reach.2 ⟨below, le_rfl⟩).2)
    · exact differ (le_antisymm (reach.1 ⟨le_rfl, above⟩).1 above)
  · rintro ⟨nonzero, large⟩ patterns validator settings wantedSeries wantedIssue rfl rfl
    exact rankedAlike_of_scoreSize_alike (scoreSize_alike settings nonzero large)

/-- The evaluation picks the release that the selection picks from the accepted ones exactly
where the bounds rank the accepted releases alike. Under every other setting they do unless the
lower bound is zero, or the upper one is and the lower one does not hide that. -/
theorem evaluate_eq_select_iff (patterns : TitlePatterns) (validator : ReleaseValidator)
    (settings : SearchSettings) (wantedSeries : List Char) (wantedIssue : ℚ)
    (low high : Option ℤ) :
    ((∀ results, evaluateResults patterns validator settings (some wantedSeries)
          (some wantedIssue) results =
        selectedRelease patterns validator settings wantedSeries wantedIssue results) ↔
      RankedAlike patterns validator settings wantedSeries wantedIssue) ∧
    ((∀ patterns validator settings wantedSeries wantedIssue results,
        settings.minSizeMb = low → settings.maxSizeMb = high →
          evaluateResults patterns validator settings (some wantedSeries) (some wantedIssue)
              results =
            selectedRelease patterns validator settings wantedSeries wantedIssue results) ↔
      low ≠ some 0 ∧ (high = some 0 → 4000 ≤ low.getD defaultMinSizeMb)) := by
  constructor
  · exact ⟨rankedAlike_of_evaluate_eq_select, evaluate_eq_select_of_rankedAlike⟩
  · rw [← forall_rankedAlike_iff]
    constructor
    · intro agree patterns validator settings wantedSeries wantedIssue isLow isHigh
      apply rankedAlike_of_evaluate_eq_select
      intro results
      exact agree patterns validator settings wantedSeries wantedIssue results isLow isHigh
    · intro alike patterns validator settings wantedSeries wantedIssue results isLow isHigh
      exact evaluate_eq_select_of_rankedAlike
        (alike patterns validator settings wantedSeries wantedIssue isLow isHigh) results

/-- Of a fresh small release and an older one of the ideal size the selection picks the first
where no size is too small, the evaluation the second. -/
theorem not_evaluate_eq_select : ¬ ∀ patterns validator settings wantedSeries wantedIssue results,
    evaluateResults patterns validator settings (some wantedSeries) (some wantedIssue) results =
      selectedRelease patterns validator settings wantedSeries wantedIssue results := by
  intro agree
  have same := agree plainPatterns acceptingValidator { minScore := 10, minSizeMb := some 0 }
    "Batman".toList 1 [sizedRelease (5 * (1024 * 1024)) 0, sizedRelease (60 * (1024 * 1024)) 100]
  revert same
  decide +kernel

end Pullbox.Search
