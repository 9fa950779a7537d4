import Pullbox.Numeric.Double

/-!
# The progress row of a background operation

Each background operation has one row that shows its latest progress
(`operation_progress.py`). Updates carry a revision and an event time; the newest wins, and the
percentage of a running operation is not taken back.

Percentages are computed as the code's floats are, with their rounding; one that is no number is
stored as a missing one, as SQLite does. An instant is a number of microseconds, and a rate is a
finite one. The row is read and written in one transaction, under a lock where the database has one.
-/

namespace Pullbox.Progress

open Option

open Numeric (Double roundDouble roundHalfEven)

inductive OperationProgressState where
  | queued | running | paused | retrying | completed | failed | cancelled
deriving DecidableEq

/-- `is_terminal`. -/
def OperationProgressState.isTerminal : OperationProgressState → Bool
  | .completed | .failed | .cancelled => true
  | .queued | .running | .paused | .retrying => false

inductive OperationProgressVisibility where
  | prominent | passive | quiet
deriving DecidableEq

inductive OperationProgressTone where
  | info | success | warning | danger
deriving DecidableEq

/-- A measure as the caller gives it. -/
structure OperationProgressMeasure where
  current : Option Int := none
  total : Option Int := none
  percent : Option Double := none
  unit : Option String := none
deriving DecidableEq

/-- The current item as the caller gives it. -/
structure OperationItemProgress where
  key : String
  label : String
  phase : String
  message : String := ""
  measure : OperationProgressMeasure := {}
deriving DecidableEq

/-- An update of one operation. The detail snapshot is kept as its text, with sorted keys. -/
structure OperationProgressUpdate where
  revision : Option Int
  state : OperationProgressState
  phase : String
  title : String
  message : String := ""
  sourceLabel : Option String := none
  detailUrl : Option String := none
  groupKey : Option String := none
  visibility : OperationProgressVisibility := .prominent
  tone : OperationProgressTone := .info
  attentionRequired : Bool := false
  overall : OperationProgressMeasure := {}
  item : Option OperationItemProgress := none
  rate : Option Rat := none
  rateUnit : Option String := none
  etaSeconds : Option Int := none
  detailSnapshot : String := "\x7b\x7d"
  startedAt : Option Int := none
  eventAt : Option Int := none
deriving DecidableEq

/-! ### Measures -/

/-- The percentages that the table accepts. -/
abbrev Percent : Type :=
  {value : Rat // 0 ≤ value ∧ value ≤ 100}

/-- The double nearest to a number of tenths. -/
def tenths (count : Nat) (within : count ≤ 1000) : Percent :=
  ⟨roundDouble (count / 10), by
    have low : (0 : Rat) ≤ count / 10 := by positivity
    have high : (count / 10 : Rat) ≤ (100 : Nat) := by
      have cast : (count : Rat) ≤ 1000 := by exact_mod_cast within
      push_cast
      linarith
    exact ⟨Numeric.roundDouble_nonneg low, by
      simpa using Numeric.roundDouble_le low high (by norm_num)⟩⟩

/-- `round` of a percentage to a tenth: of two that are equally near, the even one. -/
def roundTenth (value : Rat) (within : value ≤ 100) : Percent :=
  tenths (roundHalfEven (value * 10)).toNat <| by
    have high : roundHalfEven (value * 10) ≤ 1000 := by
      apply Numeric.roundHalfEven_le
      push_cast
      linarith
    omega

/-- `_clamp_percent`: at most 100, at least 0, rounded to a tenth; `none` stands for `nan`, which
`min`, `max` and `round` keep. -/
def clampPercent : Double → Option Percent
  | .finite value => some (roundTenth (min (max value 0) 100) (min_le_right _ _))
  | .infinity => some (roundTenth 100 le_rfl)
  | .negInfinity => some (roundTenth 0 (by norm_num))
  | .nan => none

/-- `100.0`. -/
def fullPercent : Percent :=
  ⟨100, by norm_num⟩

theorem le_fullPercent (percent : Percent) : percent ≤ fullPercent :=
  percent.2.2

/-- `_NormalizedMeasure`, and the columns of one measure. -/
structure NormalizedMeasure where
  current : Option Nat := none
  total : Option Nat := none
  percent : Option Percent := none
  unit : Option String := none
  indeterminate : Bool := true

/-- `_normalize_measure`. -/
def normalizeMeasure (measure : OperationProgressMeasure) : NormalizedMeasure :=
  let current := measure.current.map Int.toNat
  let total := (measure.total.map Int.toNat).filter (· ≠ 0)
  let percent := measure.percent <|> do
    let current ← current
    let total ← total
    some (.finite (roundDouble (roundDouble ((min current total : Nat) / (total : Rat)) * 100)))
  { current := current
    total := total
    percent := percent.bind clampPercent
    unit := measure.unit
    indeterminate := percent.isNone }

/-- The columns `item_*` of a current item. -/
structure ItemProgress where
  key : String
  label : String
  phase : String
  message : String
  measure : NormalizedMeasure

/-- The row of one operation. -/
structure OperationProgress where
  groupKey : Option String := none
  state : OperationProgressState
  phase : String
  title : String
  message : String := ""
  sourceLabel : Option String := none
  detailUrl : Option String := none
  visibility : OperationProgressVisibility := .prominent
  tone : OperationProgressTone := .info
  attentionRequired : Bool := false
  acknowledgedAt : Option Int := none
  revision : Nat := 0
  overall : NormalizedMeasure := {}
  item : Option ItemProgress := none
  rate : Option Rat := none
  rateUnit : Option String := none
  etaSeconds : Option Nat := none
  detailSnapshot : String := "\x7b\x7d"
  startedAt : Option Int := none
  completedAt : Option Int := none
  lastEventAt : Int

/-! ### Publishing -/

/-- `one or other`, for a unit. -/
def orUnit (unit other : Option String) : Option String :=
  unit.filter (· ≠ "") <|> other

/-- A measure that would fall back keeps the percentage of the stored one. -/
def NormalizedMeasure.keepPercent (measure stored : NormalizedMeasure) : NormalizedMeasure where
  current :=
    match measure.current with
    | some current => some (max (stored.current.getD 0) current)
    | none => stored.current
  total := measure.total <|> stored.total
  percent := stored.percent
  unit := orUnit measure.unit stored.unit
  indeterminate := false

/-- Both measures have a percentage, and that of the first is less. -/
def NormalizedMeasure.fallsBehind (measure stored : NormalizedMeasure) : Bool :=
  match measure.percent, stored.percent with
  | some percent, some previous => percent < previous
  | _, _ => false

/-- The measure of a completed operation. -/
def NormalizedMeasure.complete (measure : NormalizedMeasure) : NormalizedMeasure where
  current := measure.total <|> measure.current
  total := measure.total
  percent := some fullPercent
  unit := measure.unit
  indeterminate := false

/-- The row that is inserted for an operation without one. -/
def OperationProgress.inserted (update : OperationProgressUpdate) (now : Int) :
    OperationProgress where
  state := update.state
  phase := update.phase
  title := update.title
  lastEventAt := now

/-- The overall measure that an update leaves on a row. -/
def OperationProgress.nextOverall (existing : OperationProgress) (created : Bool)
    (update : OperationProgressUpdate) : NormalizedMeasure :=
  let overall := normalizeMeasure update.overall
  let restartsAfterTerminal := !created && existing.state.isTerminal && !update.state.isTerminal
  let overall :=
    if !created && overall.fallsBehind existing.overall && !update.state.isTerminal &&
        !restartsAfterTerminal then overall.keepPercent existing.overall
    else overall
  if update.state = .completed then overall.complete else overall

/-- The measure of the current item. -/
def OperationProgress.nextItem (existing : OperationProgress) (item : OperationItemProgress) :
    ItemProgress :=
  let measure := normalizeMeasure item.measure
  { key := item.key
    label := item.label
    phase := item.phase
    message := item.message
    measure :=
      match existing.item with
      | some stored =>
        if stored.key = item.key ∧ stored.phase = item.phase ∧
            measure.fallsBehind stored.measure then measure.keepPercent stored.measure
        else measure
      | none => measure }

/-- An acknowledgement ends with the attention, or with something new to attend to. -/
def OperationProgress.nextAcknowledgedAt (existing : OperationProgress)
    (update : OperationProgressUpdate) : Option Int :=
  let materiallyNew := existing.acknowledgedAt.isSome && update.attentionRequired &&
    (!existing.attentionRequired || existing.state ≠ update.state ||
      existing.phase ≠ update.phase || existing.message ≠ update.message ||
      existing.detailSnapshot ≠ update.detailSnapshot)
  if !update.attentionRequired || materiallyNew then none else existing.acknowledgedAt

/-- The row after an update that is accepted. -/
@[grind =]
def OperationProgress.project (existing : OperationProgress) (created : Bool)
    (update : OperationProgressUpdate) (revision : Nat) (now : Int) : OperationProgress where
  groupKey := update.groupKey
  state := update.state
  phase := update.phase
  title := update.title
  message := update.message
  sourceLabel := update.sourceLabel
  detailUrl := update.detailUrl
  visibility := update.visibility
  tone := update.tone
  attentionRequired := update.attentionRequired
  acknowledgedAt := existing.nextAcknowledgedAt update
  revision := revision
  overall := existing.nextOverall created update
  item := update.item.map existing.nextItem
  rate := update.rate.map (max · 0)
  rateUnit := update.rateUnit
  etaSeconds := update.etaSeconds.map Int.toNat
  detailSnapshot := update.detailSnapshot
  startedAt := update.startedAt <|> existing.startedAt <|> some now
  completedAt := if update.state.isTerminal then some now else none
  lastEventAt := now

/-- `publish_operation_progress` on the row of the operation, with a reading of the clock: the
row, and whether the update was accepted. What raises leaves the transaction to the caller, who
rolls it back. -/
@[grind =]
def publishOperationProgress (row : Option OperationProgress) (update : OperationProgressUpdate)
    (clock : Int) : Except String (OperationProgress × Bool) :=
  let now := update.eventAt.getD clock
  let created := row.isNone
  let existing := row.getD (.inserted update now)
  if !created && update.eventAt.any (· < existing.lastEventAt) then .ok (existing, false)
  else
    let revision := update.revision.getD (existing.revision + 1)
    if revision < 0 then .error "Operation progress revision cannot be negative."
    else if !created && revision ≤ existing.revision then .ok (existing, false)
    else .ok (existing.project created update revision.toNat now, true)

/-! ### What an update leaves -/

variable {row : Option OperationProgress} {existing after : OperationProgress}
  {update : OperationProgressUpdate} {clock : Int}

/-- An update that is not accepted changes nothing. -/
theorem publish_rejected
    (rejected : publishOperationProgress row update clock = .ok (after, false)) :
    row = some after := by
  cases row with
  | none =>
    simp only [publishOperationProgress, isNone_none, Bool.not_true, Bool.false_and,
      Bool.false_eq_true, if_false] at rejected
    split at rejected <;> cases rejected
  | some existing =>
    simp only [publishOperationProgress, getD_some] at rejected
    split_ifs at rejected <;> cases rejected <;> rfl

/-- The first update of an operation creates its row. -/
theorem publish_created
    (accepted : publishOperationProgress none update clock = .ok (after, true)) :
    ∃ revision : Nat, update.revision.getD 1 = revision ∧
      after = OperationProgress.project (.inserted update (update.eventAt.getD clock)) true update
        revision (update.eventAt.getD clock) := by
  simp only [publishOperationProgress, isNone_none, Bool.not_true, Bool.false_and,
    Bool.false_eq_true, if_false] at accepted
  split at accepted
  · cases accepted
  · next nonneg =>
    cases accepted
    exact ⟨_, (Int.toNat_of_nonneg (not_lt.1 nonneg)).symm, rfl⟩

/-- An update of a row is accepted exactly when it is not older by its event time, and newer by
its revision. -/
theorem publish_accepted_iff :
    publishOperationProgress (some existing) update clock = .ok (after, true) ↔
      (∀ time, update.eventAt = some time → existing.lastEventAt ≤ time) ∧
        ∃ revision : Nat, update.revision.getD (existing.revision + 1) = revision ∧
          existing.revision < revision ∧
          after = existing.project false update revision (update.eventAt.getD clock) := by
  have older : update.eventAt.any (· < existing.lastEventAt) = true ↔
      ∃ time, update.eventAt = some time ∧ time < existing.lastEventAt := by
    simp [any_eq_true]
  simp only [publishOperationProgress, isNone_some, getD_some, Bool.not_false,
    Bool.true_and, decide_eq_true_eq]
  generalize update.revision.getD (existing.revision + 1) = revision
  constructor
  · intro accepted
    split_ifs at accepted with late negative stale
    · cases accepted
    · cases accepted
    · cases accepted
      refine ⟨?_, revision.toNat, by omega, by omega, rfl⟩
      intro time given
      by_contra earlier
      exact late (older.2 ⟨time, given, not_le.1 earlier⟩)
  · rintro ⟨follows, number, rfl, newer, rfl⟩
    rw [if_neg, if_neg, if_neg]
    · rfl
    · omega
    · omega
    · intro late
      obtain ⟨time, given, earlier⟩ := older.1 late
      exact absurd (follows time given) (not_le.2 earlier)

/-- Publishing does not take the revision of a row back, and an accepted explicit revision becomes
that of the row. -/
theorem publish_revision {accepted : Bool}
    (published : publishOperationProgress row update clock = .ok (after, accepted)) :
    (∀ existing, row = some existing → existing.revision ≤ after.revision) ∧
      (accepted = true → ∀ revision, update.revision = some revision →
        revision = after.revision ∧
          ∀ existing, row = some existing → (existing.revision : Int) < revision) := by
  cases accepted with
  | false =>
    rw [publish_rejected published]
    refine ⟨?_, nofun⟩
    rintro existing ⟨⟩
    exact le_rfl
  | true =>
    cases row with
    | none =>
      obtain ⟨number, known, same⟩ := publish_created published
      have absent (existing : OperationProgress) : none ≠ some existing :=
        (some_ne_none existing).symm
      refine ⟨fun existing found => absurd found (absent existing), ?_⟩
      intro _ revision given
      refine ⟨?_, fun existing found => absurd found (absent existing)⟩
      rw [given, getD_some] at known
      rw [known, same]
      rfl
    | some existing =>
      obtain ⟨-, number, known, newer, same⟩ := publish_accepted_iff.1 published
      have stored : after.revision = number := by
        rw [same]
        rfl
      constructor
      · intro other found
        obtain rfl := Option.some.inj found
        exact stored ▸ newer.le
      · intro _ revision given
        rw [given, getD_some] at known
        refine ⟨known.trans (congrArg Int.ofNat stored.symm), ?_⟩
        intro other found
        obtain rfl := Option.some.inj found
        rw [known]
        exact Int.ofNat_lt.2 newer

theorem nextOverall_completed {created : Bool} (completed : update.state = .completed) :
    (existing.nextOverall created update).percent = some fullPercent := by
  simp only [OperationProgress.nextOverall, completed, if_true]
  rfl

/-- The updates whose percentage is not held against the one of the row: those that end the
operation without completing it, and those of a row without a percentage. -/
def OperationProgress.Unclamped (existing : OperationProgress) (update : OperationProgressUpdate) :
    Prop :=
  update.state = .failed ∨ update.state = .cancelled ∨
    update.state ≠ .completed ∧ existing.overall.percent = none

/-- An update that goes on with the run of a row: it does not restart an operation that is over. -/
def OperationProgress.GoesOn (existing : OperationProgress) (update : OperationProgressUpdate) :
    Prop :=
  existing.state.isTerminal = true → update.state.isTerminal = true

/-- An update that is not clamped shows its own percentage. -/
theorem nextOverall_unclamped (unclamped : existing.Unclamped update) :
    existing.nextOverall false update = normalizeMeasure update.overall := by
  rcases unclamped with failed | cancelled | ⟨ongoing, none⟩
  · simp [OperationProgress.nextOverall, failed, OperationProgressState.isTerminal]
  · simp [OperationProgress.nextOverall, cancelled, OperationProgressState.isTerminal]
  · have ahead : (normalizeMeasure update.overall).fallsBehind existing.overall = false := by
      unfold NormalizedMeasure.fallsBehind
      rw [none]
      split
      · rename_i stored
        cases stored
      · rfl
    simp [OperationProgress.nextOverall, ongoing, ahead]

/-- An update that is clamped does not take the percentage of the row back. -/
theorem le_nextOverall {next : Percent} (clamped : ¬ existing.Unclamped update)
    (goesOn : existing.GoesOn update)
    (reported : (existing.nextOverall false update).percent = some next) :
    update.state = .completed ∨ ∃ percent, existing.overall.percent = some percent ∧
      percent ≤ next := by
  by_cases completed : update.state = .completed
  · exact .inl completed
  · right
    unfold OperationProgress.Unclamped at clamped
    rw [not_or, not_or, not_and] at clamped
    obtain ⟨notFailed, notCancelled, present⟩ := clamped
    obtain ⟨percent, stored⟩ := ne_none_iff_exists'.1 (present completed)
    have running : update.state.isTerminal = false := by
      cases same : update.state <;> simp_all [OperationProgressState.isTerminal]
    have started : existing.state.isTerminal = false := by
      cases same : existing.state.isTerminal with
      | false => rfl
      | true => exact absurd (goesOn same) (by simp [running])
    refine ⟨percent, stored, ?_⟩
    simp only [OperationProgress.nextOverall, completed, running, started, if_false,
      Bool.not_false, Bool.true_and, Bool.and_true, Bool.and_false] at reported
    by_cases behind : (normalizeMeasure update.overall).fallsBehind existing.overall = true
    · rw [if_pos behind] at reported
      cases stored.symm.trans reported
      exact le_rfl
    · rw [if_neg behind] at reported
      simpa [NormalizedMeasure.fallsBehind, stored, reported] using behind

end Pullbox.Progress
