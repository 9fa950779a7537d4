import Mathlib.Algebra.Order.Ring.Rat
import Pullbox.Naming.StoryArc

/-!
# Release scores

The score of a release candidate, as `score_release` adds it up, and the lane of the protocol
it comes by. A score is a fraction here where the code has a floating point number.
-/

namespace Pullbox.Search

open Text (strip digitValue)
open Naming (lower)

/-! ### Releases -/

inductive AcquisitionProtocol where
  | usenet
  | torrent
  | direct
  | dc
deriving DecidableEq

/-- A release as an indexer lists it. -/
structure ReleaseResult where
  title : List Char
  indexerName : List Char := []
  downloadUrl : List Char := []
  sizeBytes : Option ℤ
  ageDays : Option ℤ
  seeders : Option ℤ := none
  grabs : Option ℤ := none
  protocol : AcquisitionProtocol
  category : Option (List Char) := none
  rankingPriority : ℤ := 25
deriving DecidableEq

def ReleaseResult.isTorrent (release : ReleaseResult) : Bool :=
  release.protocol = .torrent

/-- The settings of one evaluation. -/
structure SearchSettings where
  indexerPriority : Option ℤ := none
  minScore : ℚ
  minSizeMb : Option ℤ := none
  maxSizeMb : Option ℤ := none
  preferredFormat : Option (List Char) := none
  seederTiers : Option (ℤ × ℤ × ℤ) := none
  scoreWeights : Option (ℚ × ℚ × ℚ × ℚ) := none
  confidenceBlend : Option ℚ := none
  grabsWeight : ℤ := 0
  packPenalty : ℤ := -20
  maxFileCount : ℤ := 5
  preferredLanguage : List Char := ['e', 'n']
  digitalBonus : ℤ := 10
  sourcePriority : Option (List (List Char)) := none

/-- What the patterns of the scoring find in a title: the group of the first match, in lower
case, or whether there is one. -/
structure TitlePatterns where
  formatExtension : List Char → Option (List Char)
  formatTag : List Char → Option (List Char)
  language : List Char → Option (List Char)
  isPack : List Char → Bool
  isScan : List Char → Bool
  isDigital : List Char → Bool

/-- What `score_release` raises. -/
inductive ScoreFault where
  | zeroDivision
  | unknownLanguage (word : List Char)
deriving DecidableEq

/-! ### The parts of a score -/

def defaultMinSizeMb : ℤ := 50

def defaultMaxSizeMb : ℤ := 2000

/-- The bounds of the ideal sizes, in megabytes. -/
structure SizeBounds where
  minSizeMb : ℤ
  maxSizeMb : ℤ

/-- `_score_indexer_priority`. -/
def scoreIndexerPriority (priority : ℤ) : ℚ :=
  let clamped := max 1 (min priority 50)
  (51 - clamped : ℤ) / 50 * 100

/-- `_score_age`. -/
def scoreAge : Option ℤ → ℚ
  | none => 50
  | some ageDays => max 30 (100 - ageDays * (2 / 100))

def sizeInMb (sizeBytes : ℤ) : ℚ :=
  sizeBytes / (1024 * 1024)

/-- `_score_size`. -/
def scoreSize (sizeBytes : Option ℤ) (bounds : SizeBounds) : ℚ :=
  match sizeBytes with
  | none => 50
  | some sizeBytes =>
    let sizeMb := sizeInMb sizeBytes
    if sizeMb < bounds.minSizeMb then
      if 0 < bounds.minSizeMb then sizeMb / bounds.minSizeMb * 100 else 0
    else if bounds.maxSizeMb < sizeMb then
      let overshoot :=
        if 0 < bounds.maxSizeMb then (sizeMb - bounds.maxSizeMb) / bounds.maxSizeMb else 1
      max 0 (100 - overshoot * 100)
    else 100

/-- The scores of the formats; the format asked for comes first. -/
def formatScore (preferredFormat : Option (List Char)) (format : List Char) : ℚ :=
  match preferredFormat with
  | none | some [] =>
    if format = "cbz".toList then 100
    else if format = "cbr".toList then 80
    else if format = "cb7".toList then 60
    else 40
  | some preferred =>
    if format = (preferred.map lower).dropWhile (· == '.') then 100
    else if format = "cbz".toList ∨ format = "cbr".toList then 80
    else if format = "cb7".toList then 60
    else 40

/-- `_score_format`. -/
def scoreFormat (patterns : TitlePatterns) (title : List Char)
    (preferredFormat : Option (List Char)) : ℚ :=
  match patterns.formatExtension title with
  | some format => formatScore preferredFormat format
  | none =>
    match patterns.formatTag title with
    | some format => formatScore preferredFormat format
    | none => 40

def comicCategoryIds : List (List Char) := ["7030".toList]

def bookCategoryIds : List (List Char) :=
  ["7000".toList, "7010".toList, "7020".toList, "7040".toList]

def contains (word text : List Char) : Bool :=
  text.tails.any (word.isPrefixOf ·)

/-- The parts of a category, with the best bonus so far. -/
def scoreCategoryParts (best : ℚ) : List (List Char) → ℚ
  | [] => best
  | part :: rest =>
    let part := strip part
    if part = [] then scoreCategoryParts best rest
    else if part.all fun char => (digitValue char).isSome then
      if part ∈ comicCategoryIds then 15
      else if part ∈ bookCategoryIds then scoreCategoryParts (max best 5) rest
      else scoreCategoryParts best rest
    else
      let lowered := part.map lower
      if contains "comic".toList lowered then 15
      else if contains "book".toList lowered ∨ contains "ebook".toList lowered then
        scoreCategoryParts (max best 5) rest
      else scoreCategoryParts best rest

/-- `_score_category`. -/
def scoreCategory : Option (List Char) → ℚ
  | none | some [] => 0
  | some category => scoreCategoryParts 0 (category.splitOn ',')

/-- `_score_seeders`. -/
def scoreSeeders (seeders : Option ℤ) (isTorrent : Bool) (tiers : ℤ × ℤ × ℤ) : ℚ :=
  match seeders with
  | none => 0
  | some seeders =>
    if ¬ isTorrent ∨ seeders ≤ 0 then 0
    else if seeders ≤ tiers.1 then 4
    else if seeders ≤ tiers.2.1 then 8
    else if seeders ≤ tiers.2.2 then 12
    else 15

/-- `_score_grabs`. -/
def scoreGrabs : Option ℤ → ℚ
  | none => 30
  | some grabs =>
    if grabs ≤ 0 then 30
    else if grabs ≤ 10 then 60
    else if grabs ≤ 50 then 80
    else if grabs ≤ 100 then 90
    else 100

/-- `_score_pack_penalty`. -/
def scorePackPenalty (patterns : TitlePatterns) (title : List Char) (fileCount : Option ℤ)
    (maxFileCount penalty : ℤ) : ℚ :=
  if penalty = 0 then 0
  else if patterns.isPack title then penalty
  else
    match fileCount with
    | none => 0
    | some fileCount => if maxFileCount < fileCount then penalty else 0

/-- `_LANGUAGE_MAP`. -/
def languageMap : List (List Char × List Char) :=
  [("fr", "fr"), ("fre", "fr"), ("french", "fr"), ("german", "de"), ("spanish", "es"),
    ("ita", "it"), ("italian", "it"), ("portuguese", "pt"), ("japanese", "ja"),
    ("chinese", "zh"), ("korean", "ko"), ("dutch", "nl"), ("polish", "pl"),
    ("russian", "ru")].map fun entry => (entry.1.toList, entry.2.toList)

/-- `_score_language`. A match under another case may have no entry in the map. -/
def scoreLanguage (patterns : TitlePatterns) (title preferred : List Char) :
    Except ScoreFault ℚ :=
  match patterns.language title with
  | none => .ok 0
  | some word =>
    match languageMap.lookup word with
    | none => .error (.unknownLanguage word)
    | some detected => .ok (if detected = preferred then 0 else -30)

/-- `_score_digital_bonus`. -/
def scoreDigitalBonus (patterns : TitlePatterns) (title : List Char) (bonus : ℤ) : ℚ :=
  if bonus = 0 then 0
  else if patterns.isScan title then 0
  else if patterns.isDigital title then bonus
  else 0

/-! ### The score -/

/-- How much each score counts. -/
structure Weights where
  priority : ℚ
  age : ℚ
  size : ℚ
  format : ℚ
  grabs : ℚ

/-- The weights of the settings, over their sum where the grabs have a weight as well. -/
def resolveWeights (settings : SearchSettings) : Except ScoreFault Weights :=
  let (priority, age, size, format) :=
    settings.scoreWeights.getD (40 / 100, 30 / 100, 20 / 100, 10 / 100)
  if 0 < settings.grabsWeight then
    let scale : ℚ := if priority < 2 ∧ age < 2 ∧ size < 2 ∧ format < 2 then 100 else 1
    let total := priority * scale + age * scale + size * scale + format * scale +
      settings.grabsWeight
    if total = 0 then .error .zeroDivision
    else .ok {
      priority := priority * scale / total
      age := age * scale / total
      size := size * scale / total
      format := format * scale / total
      grabs := settings.grabsWeight / total }
  else .ok { priority, age, size, format, grabs := 0 }

/-- What a score adds up once its weights and its language are known. -/
def addScores (patterns : TitlePatterns) (settings : SearchSettings) (bounds : SizeBounds)
    (release : ReleaseResult) (weights : Weights) (language : ℚ) : ℚ :=
  let priority := settings.indexerPriority.getD release.rankingPriority
  let weighted := scoreIndexerPriority priority * weights.priority +
    scoreAge release.ageDays * weights.age +
    scoreSize release.sizeBytes bounds * weights.size +
    scoreFormat patterns release.title settings.preferredFormat * weights.format
  let withGrabs :=
    if 0 < weights.grabs then weighted + scoreGrabs release.grabs * weights.grabs else weighted
  withGrabs + scoreCategory release.category +
    scoreSeeders release.seeders release.isTorrent (settings.seederTiers.getD (10, 30, 50)) +
    scoreDigitalBonus patterns release.title settings.digitalBonus +
    scorePackPenalty patterns release.title none settings.maxFileCount settings.packPenalty +
    language

/-- `score_release`. -/
def scoreRelease (patterns : TitlePatterns) (settings : SearchSettings) (bounds : SizeBounds)
    (release : ReleaseResult) : Except ScoreFault ℚ := do
  let weights ← resolveWeights settings
  let language ← scoreLanguage patterns release.title settings.preferredLanguage
  return addScores patterns settings bounds release weights language

/-! ### Lanes -/

def defaultSourcePriority : List AcquisitionProtocol := [.usenet, .torrent, .direct, .dc]

/-- The protocol that one entry of a priority names. -/
def sourceOf (entry : List Char) : Option AcquisitionProtocol :=
  match String.ofList ((strip entry).map lower) with
  | "usenet" => some .usenet
  | "torrent" => some .torrent
  | "ddl" | "direct" => some .direct
  | "dc" => some .dc
  | _ => none

/-- The protocols that the entries name, each once. -/
def namedSources (named : List AcquisitionProtocol) :
    List (List Char) → List AcquisitionProtocol
  | [] => named
  | entry :: rest =>
    match sourceOf entry with
    | some source =>
      namedSources (if source ∈ named then named else named ++ [source]) rest
    | none => namedSources named rest

/-- `normalize_source_priority`. -/
def normalizeSourcePriority :
    Option (List (List Char)) → Option (List AcquisitionProtocol)
  | none => none
  | some entries =>
    let named := namedSources [] entries
    if named = [] then none
    else some (named ++ defaultSourcePriority.filter (· ∉ named))

/-- `_release_source_rank`. -/
def releaseSourceRank (release : ReleaseResult) (sourcePriority : Option (List (List Char))) :
    ℕ :=
  match normalizeSourcePriority sourcePriority with
  | none => 0
  | some priority => priority.idxOf release.protocol

/-- The bounds only matter to the score of the size. -/
theorem scoreRelease_congr {patterns : TitlePatterns} {settings : SearchSettings}
    {first second : SizeBounds} {release : ReleaseResult}
    (alike : scoreSize release.sizeBytes first = scoreSize release.sizeBytes second) :
    scoreRelease patterns settings first release =
      scoreRelease patterns settings second release := by
  simp only [scoreRelease, addScores, alike]

end Pullbox.Search
