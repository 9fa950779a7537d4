import Pullbox.Search.WantedSweep

/-!
# What a sweep accounts for

Over every sequence of calls on a fresh sweep of distinct issues, the consumed and the pending
issues are together the issues the sweep began with. The counters follow from that, and from
what the completions say they have searched.
-/

namespace Pullbox.Search

open Text

namespace WantedSearchSweepState

variable {sweep after : WantedSearchSweepState}

/-! ### What is loaded is what was saved -/

/-- The sweeps that the clamps and defaults of `load` leave alone. -/
structure Encodable (sweep : WantedSearchSweepState) : Prop where
  total : 0 ≤ sweep.totalTargets
  attempted : 0 ≤ sweep.attemptedCount
  searched : 0 ≤ sweep.searchedCount
  skipped : 0 ≤ sweep.skippedCount
  sent : 0 ≤ sweep.sentCount
  queued : 0 ≤ sweep.queuedCount
  failed : 0 ≤ sweep.failedCount
  batch : 0 ≤ sweep.batchNumber
  trigger : sweep.triggerType ≠ ""
  message : sweep.message ≠ ""

theorem mapM_int (values : List Int) : (values.map Json.integer).mapM Json.int? = some values := by
  induction values with
  | nil => rfl
  | cons value rest ih => simp [Json.int?, ih]

theorem parseDatetime_timeJson (time : Datetime) : parseDatetime (timeJson time) = some time := by
  simp [parseDatetime, timeJson, Json.text?, Datetime.fromisoformat_isoformat]

theorem parseOptionalDatetime_timeJson (time : Option Datetime) :
    parseOptionalDatetime (some (optionalTimeJson time)) = some time := by
  cases time with
  | none => rfl
  | some time =>
    have parsed := parseDatetime_timeJson time
    simp only [optionalTimeJson, Option.map_some, Option.getD_some]
    simp only [timeJson] at parsed ⊢
    simp only [parseOptionalDatetime, parsed, Option.map_some]

/-- The count that is read for a key that holds an integer. -/
theorem loadCount_integer {entries : List (String × Json)} {key : String} {value : Int}
    (found : Json.get? entries key = some (.integer value)) :
    loadCount entries key = some (max 0 value) := by
  rw [loadCount, found]
  rfl

theorem loadText_text (repr : Json → String) {entries : List (String × Json)}
    {key default value : String} (found : Json.get? entries key = some (.text value)) :
    loadText repr entries key default = if value = "" then default else value := by
  rw [loadText, found]
  by_cases empty : value = "" <;> simp [Json.truthy, Json.str, empty]

theorem bind_found {α β : Type} {value : Option α} {next : α → Option β} (result : α)
    (found : value = some result) : (value >>= next) = next result := by
  rw [found]
  rfl

/-- `load` after `save`: counters below zero and empty texts do not survive. -/
theorem load_save (repr : Json → String) (sweep : WantedSearchSweepState) :
    load repr sweep.save = some { sweep with
      totalTargets := max 0 sweep.totalTargets
      attemptedCount := max 0 sweep.attemptedCount
      searchedCount := max 0 sweep.searchedCount
      skippedCount := max 0 sweep.skippedCount
      sentCount := max 0 sweep.sentCount
      queuedCount := max 0 sweep.queuedCount
      failedCount := max 0 sweep.failedCount
      batchNumber := max 0 sweep.batchNumber
      triggerType := if sweep.triggerType = "" then "scheduled" else sweep.triggerType
      message := if sweep.message = "" then "Searching wanted issues" else sweep.message } := by
  unfold load
  refine (bind_found sweep.payload rfl).trans ?_
  refine (bind_found (Json.text sweep.state.value) rfl).trans ?_
  refine (bind_found _ sweep.state.ofValue_value).trans ?_
  refine (bind_found (sweep.pendingIssueIds.map Json.integer) rfl).trans ?_
  refine (bind_found (timeJson sweep.startedAt) rfl).trans ?_
  refine (bind_found _ (parseDatetime_timeJson _)).trans ?_
  refine (bind_found _ (loadCount_integer rfl)).trans ?_
  refine (bind_found _ (mapM_int _)).trans ?_
  -- The other counters, in the order of the fields.
  iterate 7 refine (bind_found _ (loadCount_integer rfl)).trans ?_
  refine (bind_found _ (parseOptionalDatetime_timeJson sweep.nextBatchAt)).trans ?_
  refine (bind_found _ (parseOptionalDatetime_timeJson sweep.completedAt)).trans ?_
  refine (bind_found sweep.schemaVersion rfl).trans ?_
  have trigger : loadText repr sweep.payload "trigger_type" "scheduled" =
      if sweep.triggerType = "" then "scheduled" else sweep.triggerType :=
    loadText_text repr rfl
  have message : loadText repr sweep.payload "message" "Searching wanted issues" =
      if sweep.message = "" then "Searching wanted issues" else sweep.message :=
    loadText_text repr rfl
  rw [trigger, message]
  rfl

theorem load_save_iff (repr : Json → String) :
    load repr sweep.save = some sweep ↔ sweep.Encodable := by
  rw [load_save]
  constructor
  · intro same
    have fields := Option.some.inj same
    have total := congrArg totalTargets fields
    have attempted := congrArg attemptedCount fields
    have searched := congrArg searchedCount fields
    have skipped := congrArg skippedCount fields
    have sent := congrArg sentCount fields
    have queued := congrArg queuedCount fields
    have failed := congrArg failedCount fields
    have batch := congrArg batchNumber fields
    have trigger := congrArg triggerType fields
    have message := congrArg WantedSearchSweepState.message fields
    dsimp only at total attempted searched skipped sent queued failed batch trigger message
    constructor
    case trigger =>
      intro empty
      rw [if_pos empty, empty] at trigger
      exact absurd trigger (by decide)
    case message =>
      intro empty
      rw [if_pos empty, empty] at message
      exact absurd message (by decide)
    all_goals omega
  · rintro ⟨total, attempted, searched, skipped, sent, queued, failed, batch, trigger, message⟩
    simp only [max_eq_right, total, attempted, searched, skipped, sent, queued, failed, batch,
      trigger, message, if_false]

/-! ### What a call does -/

/-- A checkpoint that does not raise consumes distinct pending issues. -/
theorem checkpoint_eq_ok {issueIds : List Int} {searchedCount sent queued failed : Int}
    (returned : sweep.checkpoint issueIds searchedCount sent queued failed = .ok after) :
    issueIds.Nodup ∧ issueIds ⊆ sweep.pendingIssueIds ∧ 0 ≤ searchedCount ∧
      searchedCount ≤ issueIds.length ∧
      after = { sweep with
        pendingIssueIds := sweep.pendingIssueIds.filter fun issueId => issueId ∉ issueIds
        attemptedCount := sweep.attemptedCount + issueIds.length
        searchedCount := sweep.searchedCount + searchedCount
        skippedCount := sweep.skippedCount + issueIds.length - searchedCount
        sentCount := sweep.sentCount + max 0 sent
        queuedCount := sweep.queuedCount + max 0 queued
        failedCount := sweep.failedCount + max 0 failed } := by
  unfold checkpoint at returned
  split_ifs at returned with unknown low
  · simp only [not_or, not_not] at unknown
    refine ⟨unknown.1, unknown.2, ?_, ?_, (Except.ok.inj returned).symm⟩ <;> omega

/-- A completion that does not raise consumes the first pending issues, and is the last one
if and only if these are all. -/
theorem complete_eq_ok {clock : Datetime} {now : Option Datetime} {issueIds : List Int}
    {searchedCount sent queued failed : Int}
    (returned : sweep.complete clock now issueIds searchedCount sent queued failed = .ok after) :
    issueIds ++ after.pendingIssueIds = sweep.pendingIssueIds ∧
      (after.state = .completed ↔ after.pendingIssueIds = []) ∧ after.message ≠ "" ∧
      after = { sweep with
        state := after.state
        pendingIssueIds := after.pendingIssueIds
        attemptedCount := sweep.attemptedCount + issueIds.length
        searchedCount := sweep.searchedCount + searchedCount
        skippedCount := sweep.skippedCount + max 0 (issueIds.length - searchedCount)
        sentCount := sweep.sentCount + sent
        queuedCount := sweep.queuedCount + queued
        failedCount := sweep.failedCount + failed
        batchNumber := sweep.batchNumber + 1
        nextBatchAt := after.nextBatchAt
        completedAt := after.completedAt
        message := after.message } := by
  unfold complete at returned
  dsimp only at returned
  split_ifs at returned with other rest
  · cases returned
    rw [not_not] at other
    refine ⟨?_, iff_of_true rfl rest, show "Completed" ≠ "" by decide, rfl⟩
    exact (congrArg (· ++ _) other).trans (List.take_append_drop _ _)
  · rw [not_not] at other
    cases delayed : afterDelay (now.getD clock) with
    | error message =>
      rw [delayed] at returned
      cases returned
    | ok nextBatchAt =>
      rw [delayed] at returned
      cases returned
      have waits : WantedSearchSweepStatus.waiting ≠ .completed := by decide
      have named : "Paused between batches" ≠ "" := by decide
      refine ⟨?_, iff_of_false waits rest, named, rfl⟩
      exact (congrArg (· ++ _) other).trans (List.take_append_drop _ _)

theorem pause_eq_ok {clock : Datetime} {now : Option Datetime} {message : String}
    (returned : sweep.pause clock now message = .ok after) :
    ∃ nextBatchAt, after =
      { sweep with state := .waiting, nextBatchAt := some nextBatchAt, message := message } := by
  unfold pause at returned
  cases delayed : afterDelay (now.getD clock) with
  | error message =>
    rw [delayed] at returned
    cases returned
  | ok nextBatchAt =>
    rw [delayed] at returned
    exact ⟨nextBatchAt, (Except.ok.inj returned).symm⟩

end WantedSearchSweepState

/-! ### Runs -/

open WantedSearchSweepState

/-- A completion does not say that it has searched more issues than it consumes. -/
def SweepCall.Sized : SweepCall → Prop
  | .complete _ _ issueIds searchedCount .. => searchedCount ≤ issueIds.length
  | .checkpoint .. | .pause .. | .markRunning => True

/-- No completion reports a negative count, and no pause an empty message. -/
def SweepCall.Plain : SweepCall → Prop
  | .complete _ _ _ searchedCount sent queued failed =>
    0 ≤ searchedCount ∧ 0 ≤ sent ∧ 0 ≤ queued ∧ 0 ≤ failed
  | .pause _ _ message => message ≠ ""
  | .checkpoint .. | .markRunning => True

/-- The consumed and the pending issues are those the sweep began with. -/
structure Accounts (issueIds : List Int) (run : SweepRun) : Prop where
  total : run.sweep.totalTargets = issueIds.length
  attempted : run.sweep.attemptedCount = run.consumed.length
  together : (run.consumed ++ run.sweep.pendingIssueIds).Perm issueIds
  complete : run.sweep.state = .completed → run.sweep.pendingIssueIds = []

variable {issueIds : List Int} {run : SweepRun} {call : SweepCall}

/-- What is left of distinct issues, with the consumed ones, is what there was. -/
theorem consumed_append_filter {consumed pending : List Int} (distinct : pending.Nodup)
    (once : consumed.Nodup) (known : consumed ⊆ pending) :
    (consumed ++ pending.filter fun issueId => issueId ∉ consumed).Perm pending := by
  rw [List.perm_ext_iff_of_nodup _ distinct]
  · intro issueId
    by_cases taken : issueId ∈ consumed
    · simp [taken, known taken]
    · simp [taken]
  · refine once.append (distinct.filter _) ?_
    intro issueId taken left
    simp [taken] at left

theorem Accounts.next (distinct : issueIds.Nodup) (accounts : Accounts issueIds run) :
    Accounts issueIds (run.next call) := by
  unfold SweepRun.next
  cases applied : call.apply run.sweep with
  | error message => exact accounts
  | ok after =>
    obtain ⟨total, attempted, together, complete⟩ := accounts
    dsimp only
    cases call with
    | checkpoint ids searchedCount sent queued failed =>
      obtain ⟨once, known, _, _, rfl⟩ := checkpoint_eq_ok applied
      have pendingDistinct : run.sweep.pendingIssueIds.Nodup :=
        (together.nodup_iff.2 distinct).of_append_right
      have consumed := consumed_append_filter pendingDistinct once known
      constructor
      case total => exact total
      case attempted => simp [attempted, SweepCall.issueIds]
      case together =>
        rw [SweepCall.issueIds, List.append_assoc]
        exact (consumed.append_left _).trans together
      case complete =>
        intro finished
        simp [complete finished]
    | complete clock now ids searchedCount sent queued failed =>
      obtain ⟨whole, finished, _, same⟩ := complete_eq_ok applied
      constructor
      case total =>
        rw [same]
        exact total
      case attempted =>
        rw [same]
        simp [attempted, SweepCall.issueIds]
      case together =>
        rw [SweepCall.issueIds, List.append_assoc, whole]
        exact together
      case complete => exact finished.1
    | pause clock now message =>
      obtain ⟨nextBatchAt, rfl⟩ := pause_eq_ok applied
      simp only [SweepCall.issueIds, List.append_nil]
      exact ⟨total, attempted, together, nofun⟩
    | markRunning =>
      cases applied
      simp only [SweepCall.issueIds, List.append_nil]
      exact ⟨total, attempted, together, nofun⟩

/-- Every sequence of calls accounts for all issues. -/
theorem Accounts.sweepRun (distinct : issueIds.Nodup) (triggerType : String)
    (startedAt : Datetime) (calls : List SweepCall) :
    Accounts issueIds (sweepRun triggerType startedAt issueIds calls) := by
  unfold Search.sweepRun
  apply List.foldlRecOn
  · exact ⟨rfl, rfl, .refl _, nofun⟩
  · intro run accounts call _
    exact accounts.next distinct

/-- The attempted issues are searched or skipped. -/
def Balanced (run : SweepRun) : Prop :=
  run.sweep.attemptedCount = run.sweep.searchedCount + run.sweep.skippedCount

theorem Balanced.next (balanced : Balanced run) (sized : call.Sized) :
    Balanced (run.next call) := by
  unfold Balanced SweepRun.next at *
  cases applied : call.apply run.sweep with
  | error message => exact balanced
  | ok after =>
    dsimp only
    cases call with
    | checkpoint ids searchedCount sent queued failed =>
      obtain ⟨_, _, _, _, rfl⟩ := checkpoint_eq_ok applied
      dsimp only
      omega
    | complete clock now ids searchedCount sent queued failed =>
      obtain ⟨_, _, _, same⟩ := complete_eq_ok applied
      have bound : searchedCount ≤ ids.length := sized
      rw [same]
      dsimp only
      omega
    | pause clock now message =>
      obtain ⟨nextBatchAt, rfl⟩ := pause_eq_ok applied
      exact balanced
    | markRunning =>
      cases applied
      exact balanced

theorem encodable_next (encodable : run.sweep.Encodable) (plain : call.Plain) :
    (run.next call).sweep.Encodable := by
  unfold SweepRun.next
  cases applied : call.apply run.sweep with
  | error message => exact encodable
  | ok after =>
    obtain ⟨total, attempted, searched, skipped, sent, queued, failed, batch, trigger, message⟩ :=
      encodable
    dsimp only
    cases call with
    | checkpoint ids searchedCount sentCount queuedCount failedCount =>
      obtain ⟨_, _, _, _, rfl⟩ := checkpoint_eq_ok applied
      constructor
      case trigger => exact trigger
      case message => exact message
      all_goals
        dsimp only
        omega
    | complete clock now ids searchedCount sentCount queuedCount failedCount =>
      obtain ⟨_, _, named, same⟩ := complete_eq_ok applied
      obtain ⟨_, _, _, _⟩ := plain
      constructor
      case trigger =>
        rw [same]
        exact trigger
      case message => exact named
      all_goals
        rw [same]
        dsimp only
        omega
    | pause clock now text =>
      obtain ⟨nextBatchAt, rfl⟩ := pause_eq_ok applied
      exact ⟨total, attempted, searched, skipped, sent, queued, failed, batch, trigger, plain⟩
    | markRunning =>
      cases applied
      have named : "Searching wanted issues" ≠ "" := by decide
      exact ⟨total, attempted, searched, skipped, sent, queued, failed, batch, trigger, named⟩

theorem encodable_sweepRun {triggerType : String} (named : triggerType ≠ "")
    (startedAt : Datetime) {calls : List SweepCall} (plain : ∀ call ∈ calls, call.Plain) :
    (sweepRun triggerType startedAt issueIds calls).sweep.Encodable := by
  unfold sweepRun
  refine List.foldlRecOn (motive := fun run : SweepRun => run.sweep.Encodable) calls
    SweepRun.next ?_ ?_
  · have message : "Searching wanted issues" ≠ "" := by decide
    constructor
    case trigger => exact named
    case message => exact message
    all_goals simp [create]
  · intro run encodable call member
    exact encodable_next encodable (plain call member)

/-- What holds of a sweep of distinct issues after any calls, in any order, with any
arguments: attempted and pending issues make up the total, no issue is consumed twice or
pending after it was consumed, a completed sweep has no pending issue, and a completion
completes it exactly when none is left. Attempted issues are searched or skipped as long as no
completion claims more searches than issues. What is saved is what is loaded as long as no
completion reports a negative count and no text is empty. -/
theorem sweepRun_accounting (repr : Json → String) (distinct : issueIds.Nodup)
    (triggerType : String) (startedAt : Datetime) (calls : List SweepCall) :
    let run := sweepRun triggerType startedAt issueIds calls
    run.sweep.attemptedCount + run.sweep.pendingIssueIds.length = run.sweep.totalTargets ∧
      ((∀ call ∈ calls, call.Sized) →
        run.sweep.attemptedCount = run.sweep.searchedCount + run.sweep.skippedCount) ∧
      (run.consumed ++ run.sweep.pendingIssueIds).Nodup ∧
      (run.consumed ++ run.sweep.pendingIssueIds).Perm issueIds ∧
      (run.sweep.state = .completed → run.sweep.pendingIssueIds = []) ∧
      (∀ clock now ids searchedCount sent queued failed after,
        run.sweep.complete clock now ids searchedCount sent queued failed = .ok after →
          (after.state = .completed ↔ after.pendingIssueIds = [])) ∧
      (triggerType ≠ "" → (∀ call ∈ calls, call.Plain) →
        load repr run.sweep.save = some run.sweep) := by
  intro run
  have accounts : Accounts issueIds run := .sweepRun distinct triggerType startedAt calls
  have lengths : run.consumed.length + run.sweep.pendingIssueIds.length = issueIds.length := by
    rw [← List.length_append]
    exact accounts.together.length_eq
  refine ⟨?_, fun sized => ?_, accounts.together.nodup_iff.2 distinct, accounts.together,
    accounts.complete, fun _ _ _ _ _ _ _ _ returned => (complete_eq_ok returned).2.1,
    fun named plain => ?_⟩
  · rw [accounts.attempted, accounts.total]
    omega
  · apply List.foldlRecOn (motive := Balanced)
    · rfl
    · intro run balanced call member
      exact balanced.next (sized call member)
  · exact (load_save_iff repr).2 (encodable_sweepRun named startedAt plain)

/-- Noon of a day. -/
def noon : Datetime where
  year := 2026
  month := 7
  day := 31
  hour := 12
  minute := 0
  second := 0
  microsecond := 0
  valid := by decide

/-- A batch of three in which the second issue is no longer eligible. -/
def threeIssueCalls : List SweepCall :=
  [.checkpoint [2] 0 0 0 0, .checkpoint [1] 1 1 0 0, .complete noon none [3] 1 0 1 0]

/-- Three issues, one of them skipped. -/
theorem threeIssues_accounted :
    let run := sweepRun "manual" noon [1, 2, 3] threeIssueCalls
    run.sweep.attemptedCount + run.sweep.pendingIssueIds.length = run.sweep.totalTargets ∧
      run.sweep.attemptedCount = run.sweep.searchedCount + run.sweep.skippedCount ∧
      load (fun _ => "") run.sweep.save = some run.sweep := by
  have distinct : ([1, 2, 3] : List Int).Nodup := by decide
  obtain ⟨total, balanced, _, _, _, _, loaded⟩ :=
    sweepRun_accounting (fun _ => "") distinct "manual" noon threeIssueCalls
  have sized : ∀ call ∈ threeIssueCalls, call.Sized := by
    simp [threeIssueCalls, SweepCall.Sized]
  have plain : ∀ call ∈ threeIssueCalls, call.Plain := by
    simp [threeIssueCalls, SweepCall.Plain]
  exact ⟨total, balanced sized, loaded (by decide) plain⟩

/-- Where more cannot be said: a checkpoint of the last issue leaves the sweep running; an issue
that is listed twice is consumed once; a completion that claims a search without an issue is
not balanced; an empty message is not read back. -/
theorem sweepRun_limits :
    (let run := sweepRun "manual" noon [1] [.checkpoint [1] 1 0 0 0]
     run.sweep.pendingIssueIds = [] ∧ run.sweep.state ≠ .completed) ∧
    (let run := sweepRun "manual" noon [1, 1] [.checkpoint [1] 1 0 0 0]
     run.sweep.attemptedCount + run.sweep.pendingIssueIds.length ≠ run.sweep.totalTargets) ∧
    (let run := sweepRun "manual" noon [1] [.complete noon none [] 1 0 0 0]
     run.sweep.attemptedCount ≠ run.sweep.searchedCount + run.sweep.skippedCount) ∧
    (let run := sweepRun "manual" noon [1] [.pause noon none ""]
     load (fun _ => "") run.sweep.save ≠ some run.sweep) := by
  refine ⟨by decide +kernel, by decide +kernel, by decide +kernel, ?_⟩
  intro run same
  have message : run.sweep.message = "" := by decide +kernel
  exact ((load_save_iff _).1 same).message message

end Pullbox.Search
