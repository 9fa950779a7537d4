import Mathlib.Tactic.Linarith
import Pullbox.Search.Scoring
import Pullbox.Search.Stable

/-!
# Evaluating search results

`evaluate_results` ranks the releases that the validator accepts and cuts the ranked list at the
minimum score, `_select_best_validation` cuts first and ranks what is left. Both score with the same
settings, but a size bound of zero reaches the two scores differently. What the validator says of a
release is given.
-/

namespace Pullbox.Search

open Sorting

/-! ### Validation -/

inductive MatchConfidence where
  | high
  | medium
  | low
  | unmatched
  | manual

/-- A release with what the validator says of it. -/
structure ValidationResult where
  isMatch : Bool
  confidence : MatchConfidence
  release : ReleaseResult

/-- `ReleaseValidator` with its options: what `_validate_one` finds out about a release for a
wanted series and issue. -/
structure ReleaseValidator where
  validateOne : List Char → ℚ → ReleaseResult → ValidationResult
  release_validateOne : ∀ series issue release, (validateOne series issue release).release = release

/-- `_CONFIDENCE_ORDER`. -/
def confidenceOrder : MatchConfidence → ℕ
  | .high => 0
  | .medium => 1
  | .low => 2
  | _ => 99

/-- `validate_all_results`: the accepted and the rejected ones. -/
def ReleaseValidator.validateAllResults (validator : ReleaseValidator) (wantedSeries : List Char)
    (wantedIssue : ℚ) (results : List ReleaseResult) :
    List ValidationResult × List ValidationResult :=
  let validations := results.map (validator.validateOne wantedSeries wantedIssue)
  (sortOn (fun validation => confidenceOrder validation.confidence)
      (validations.filter (·.isMatch)),
    validations.filter (!·.isMatch))

/-! ### Scores -/

/-- The bonus of a confidence. -/
def confidenceBonus : MatchConfidence → ℚ
  | .high => 100
  | .medium => 70
  | .low => 40
  | _ => 0

/-- `_score_validation_result`. -/
def scoreValidationResult (patterns : TitlePatterns) (settings : SearchSettings)
    (bounds : SizeBounds) (confidenceBlend qualityWeight : ℚ) (validation : ValidationResult) :
    Except ScoreFault ℚ := do
  let quality ← scoreRelease patterns settings bounds validation.release
  return quality * qualityWeight + confidenceBonus validation.confidence * confidenceBlend

/-- An item with its lane and its score. -/
structure Scored (Item : Type) where
  sourceRank : ℕ
  score : ℚ
  item : Item

/-- The lower lanes come first, and in a lane the higher scores. -/
def Scored.key {Item : Type} (scored : Scored Item) : ℕ ×ₗ ℚ :=
  toLex (scored.sourceRank, -scored.score)

section Loops

variable {Item : Type}

/-- The loop that scores every item. -/
def scoreEach (rank : Item → ℕ) (score : Item → Except ScoreFault ℚ) :
    List Item → Except ScoreFault (List (Scored Item))
  | [] => .ok []
  | item :: rest => do
      let final ← score item
      let scored ← scoreEach rank score rest
      return ⟨rank item, final, item⟩ :: scored

/-- The loop that only keeps the items that reach the minimum score. -/
def scoreAbove (minScore : ℚ) (rank : Item → ℕ) (score : Item → Except ScoreFault ℚ) :
    List Item → Except ScoreFault (List (Scored Item))
  | [] => .ok []
  | item :: rest => do
      let final ← score item
      let scored ← scoreAbove minScore rank score rest
      return if minScore ≤ final then ⟨rank item, final, item⟩ :: scored else scored

end Loops

/-! ### Evaluation -/

def defaultConfidenceBlend : ℚ := 40 / 100

def SearchSettings.blend (settings : SearchSettings) : ℚ :=
  settings.confidenceBlend.getD defaultConfidenceBlend

/-- The bounds as they are given; one that is not given has its default. -/
def SearchSettings.givenBounds (settings : SearchSettings) : SizeBounds where
  minSizeMb := settings.minSizeMb.getD defaultMinSizeMb
  maxSizeMb := settings.maxSizeMb.getD defaultMaxSizeMb

/-- `value or default`. -/
def orDefault (value : Option ℤ) (default : ℤ) : ℤ :=
  match value with
  | none => default
  | some value => if value = 0 then default else value

/-- The bounds with their defaults in the place of every zero. -/
def SearchSettings.truthyBounds (settings : SearchSettings) : SizeBounds where
  minSizeMb := orDefault settings.minSizeMb defaultMinSizeMb
  maxSizeMb := orDefault settings.maxSizeMb defaultMaxSizeMb

def validationRank (settings : SearchSettings) (validation : ValidationResult) : ℕ :=
  releaseSourceRank validation.release settings.sourcePriority

/-- `_select_best_validation`. -/
def selectBestValidation (patterns : TitlePatterns) (settings : SearchSettings)
    (matched : List ValidationResult) : Except ScoreFault (Option ValidationResult) :=
  if matched = [] then .ok none
  else do
    let scored ← scoreAbove settings.minScore (validationRank settings)
      (scoreValidationResult patterns settings settings.givenBounds settings.blend
        (1 - settings.blend)) matched
    return (sortOn Scored.key scored).head?.map (·.item)

/-- `evaluate_results`. -/
def evaluateResults (patterns : TitlePatterns) (validator : ReleaseValidator)
    (settings : SearchSettings) (wantedSeries : Option (List Char)) (wantedIssue : Option ℚ)
    (results : List ReleaseResult) : Except ScoreFault (Option ReleaseResult) :=
  if results = [] then .ok none
  else
    match wantedSeries, wantedIssue with
    | some wantedSeries, some wantedIssue =>
      let validated := (validator.validateAllResults wantedSeries wantedIssue results).1
      if validated = [] then .ok none
      else do
        let scored ← scoreEach (validationRank settings)
          (scoreValidationResult patterns settings settings.truthyBounds settings.blend
            (1 - settings.blend)) validated
        let above := (sortOn Scored.key scored).filter (settings.minScore ≤ ·.score)
        return above.head?.map (·.item.release)
    | _, _ => do
        let scored ← scoreEach (releaseSourceRank · settings.sourcePriority)
          (scoreRelease patterns settings settings.truthyBounds) results
        let above := (sortOn Scored.key scored).filter (settings.minScore ≤ ·.score)
        return above.head?.map (·.item)

/-! ### One ranking -/

section Ranking

variable {Item : Type} {rank : Item → ℕ} {score first second : Item → Except ScoreFault ℚ}
  {items : List Item} {minScore : ℚ}

/-- The first of the ranked items that reach the minimum score. -/
def bestScored (minScore : ℚ) (scored : List (Scored Item)) : Option (Scored Item) :=
  (sortOn Scored.key (scored.filter (minScore ≤ ·.score))).head?

theorem scoreAbove_eq_filter : scoreAbove minScore rank score items =
    (scoreEach rank score items).map (List.filter (minScore ≤ ·.score)) := by
  induction items with
  | nil => rfl
  | cons item rest ih =>
    rw [scoreAbove, scoreEach, ih]
    cases score item with
    | error fault => rfl
    | ok final =>
      cases scoreEach rank score rest with
      | error fault => rfl
      | ok scored =>
        change Except.ok _ = Except.ok (List.filter _ (_ :: scored))
        rw [List.filter_cons]
        by_cases above : minScore ≤ final
        · rw [if_pos above, if_pos (decide_eq_true above)]
        · rw [if_neg above, if_neg (by simpa using above)]

theorem scoreEach_of_ok {final : Item → ℚ}
    (scores : ∀ item ∈ items, score item = .ok (final item)) :
    scoreEach rank score items =
      .ok (items.map fun item => ⟨rank item, final item, item⟩) := by
  induction items with
  | nil => rfl
  | cons item rest ih =>
    rw [scoreEach, scores item List.mem_cons_self,
      ih fun other inside => scores other (List.mem_cons_of_mem _ inside)]
    rfl

/-- Scores that fail alike let a loop fail alike, or they all are numbers. -/
theorem scoreEach_settles (rank : Item → ℕ) (items : List Item)
    (alike : ∀ item, (∃ fault, first item = .error fault ∧ second item = .error fault) ∨
      ∃ one two, first item = .ok one ∧ second item = .ok two) :
    (∃ fault, scoreEach rank first items = .error fault ∧
        scoreEach rank second items = .error fault) ∨
      ∀ item ∈ items, ∃ one two, first item = .ok one ∧ second item = .ok two := by
  induction items with
  | nil => exact .inr fun item inside => nomatch inside
  | cons item rest ih =>
    obtain ⟨fault, failed, failedToo⟩ | ⟨one, two, scored, scoredToo⟩ := alike item
    · left
      exact ⟨fault, by rw [scoreEach, failed]; rfl, by rw [scoreEach, failedToo]; rfl⟩
    · obtain ⟨fault, failed, failedToo⟩ | all := ih
      · left
        exact ⟨fault, by rw [scoreEach, scored, failed]; rfl,
          by rw [scoreEach, scoredToo, failedToo]; rfl⟩
      · right
        intro other inside
        obtain rfl | inside := List.mem_cons.1 inside
        · exact ⟨one, two, scored, scoredToo⟩
        · exact all other inside

/-- Two scores that let the same items reach the minimum and order them alike have the same best
item. -/
theorem bestScored_congr {one two : Item → ℚ}
    (reach : ∀ item ∈ items, (minScore ≤ one item ↔ minScore ≤ two item))
    (ordered : (items.filter (minScore ≤ one ·)).Pairwise fun item other =>
      rank item = rank other → (one other ≤ one item ↔ two other ≤ two item)) :
    (bestScored minScore (items.map fun item => ⟨rank item, one item, item⟩)).map (·.item) =
      (bestScored minScore (items.map fun item => ⟨rank item, two item, item⟩)).map (·.item) := by
  have kept : items.filter (minScore ≤ one ·) = items.filter (minScore ≤ two ·) := by
    apply List.filter_congr
    intro item inside
    exact decide_eq_decide.2 (reach item inside)
  have sorted : ∀ final : Item → ℚ,
      (bestScored minScore (items.map fun item => ⟨rank item, final item, item⟩)).map (·.item) =
        (sortOn (fun item => (toLex (rank item, -final item) : ℕ ×ₗ ℚ))
          (items.filter (minScore ≤ final ·))).head? := by
    intro final
    unfold bestScored
    rw [List.filter_map, sortOn_map, List.head?_map, Option.map_map]
    exact Option.map_id'
  rw [sorted, sorted, ← kept]
  congr 1
  apply sortOn_congr
  apply ordered.imp
  intro item other alike
  rw [Prod.Lex.toLex_le_toLex, Prod.Lex.toLex_le_toLex]
  by_cases lane : rank item = rank other
  · simp [lane, alike lane]
  · simp [lane]

end Ranking

end Pullbox.Search
