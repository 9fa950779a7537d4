import Pullbox.Sync.Claims

/-!
# The attempts of a row

A failed attempt is tried again only below the limit, but a stale claim is taken over without
looking at it. The limit holds in a run in which no worker is lost during the last attempt of
a row, and only there.
-/

namespace Pullbox.Sync

open Durable Sql

variable {tokens : Nat → ClaimToken} {system after : System} {event : Event} {token : ClaimToken}
  {row : StoryArcSyncWork} {worker id : Nat}

/-- The attempts of a row are its claims since it was last queued, and a row that is not
claimed has attempts left. -/
structure Control.Counted (control : Control) : Prop where
  claims : control.attemptCount = control.claims
  queued : control.state = .queued → control.attemptCount = 0
  waiting : control.state = .retryWait → control.attemptCount < maxAttempts

/-- What holds of the attempts in every run. -/
structure Counted (tokens : Nat → ClaimToken) (system : System) : Prop where
  drawn : Drawn tokens system
  consistent : system.Consistent
  /-- No token is held by two workers. -/
  exclusive : ∀ worker other id otherId token, (system.workers worker).claim = some (id, token) →
    (system.workers other).claim = some (otherId, token) → worker = other
  rows : ∀ id row, system.works.find id = some row → (row.control system.journal).Counted
  /-- A worker with the current token knows the attempts of its row. -/
  context : ∀ worker context token row, system.workers worker = .syncing context token →
    system.works.find context.workId = some row → row.claimToken = some token →
      context.attemptCount = row.attemptCount

theorem Change.counted {control : Control}
    (change : Change tokens system row event control)
    (counted : (row.control system.journal).Counted)
    (context : ∀ worker context token, system.workers worker = .syncing context token →
      context.workId = row.id → row.claimToken = some token →
        context.attemptCount = row.attemptCount) : control.Counted := by
  have same : row.attemptCount = claimsSince row.id system.journal := counted.claims
  cases change with
  | kept => exact counted
  | claimed => exact ⟨by simp [same], nofun, nofun⟩
  | ended _ _ _ _ terminal =>
    refine ⟨same, ?_, ?_⟩
    · rintro rfl
      cases terminal
    · rintro rfl
      cases terminal
  | deferred syncing own current _ left =>
    refine ⟨same, nofun, fun _ => ?_⟩
    rw [context _ _ _ syncing own current] at left
    exact left
  | fenced => exact ⟨same, nofun, nofun⟩
  | reset => exact ⟨rfl, fun _ => rfl, nofun⟩

/-- A row that is held under an earlier token after a step was not written. -/
theorem Step.current (step : Step tokens event system after)
    (distinct : Function.Injective tokens) {id : Nat} {row' : StoryArcSyncWork}
    (drew : system.Drew tokens token)
    (found : after.works.find id = some row') (present : row'.claimToken = some token) :
    ∃ row, system.works.find id = some row ∧
      row'.control after.journal = row.control system.journal := by
  have control : (row'.control after.journal).claimToken = some token := present
  rcases step.rows.back id row' found with ⟨row, old, change⟩ | ⟨_, fresh⟩
  · refine ⟨row, old, ?_⟩
    generalize row'.control after.journal = new at change control ⊢
    cases change with
    | kept => rfl
    | claimed => exact absurd (Option.some.inj control).symm (drew.ne_next distinct)
    | ended | deferred | fenced | reset => cases control
  · rw [fresh] at control
    cases control

/-- A worker synchronizes with what it loaded under its claim. -/
theorem Step.syncing (step : Step tokens event system after) {worker : Nat}
    {context : WorkContext}
    (syncing : after.workers worker = .syncing context token) :
    system.workers worker = .syncing context token ∨
      (after.works = system.works ∧ ∃ row, system.works.find context.workId = some row ∧
        context.attemptCount = row.attemptCount) := by
  have other {changed : Nat} {phase : Phase}
      (syncing : (system.setWorker changed phase).workers worker = .syncing context token)
      (inactive : phase.claim = none ∨ ∃ id held, phase = .claimed id held ∨
        phase = .superseded id held) :
      system.workers worker = .syncing context token := by
    unfold System.setWorker at syncing
    simp only [] at syncing
    split at syncing
    · subst syncing
      simp [Phase.claim] at inactive
    · exact syncing
  cases event with
  | enqueue | enqueueImport =>
    obtain rfl := Option.some.inj step
    unfold System.enqueue at syncing
    split at syncing <;> exact .inl syncing
  | sealOrigin | delete | fence | checkpoint | writeJob =>
    obtain rfl := Option.some.inj step
    exact .inl syncing
  | retry jobId reads =>
    obtain rfl := Option.some.inj step
    unfold System.retry at syncing
    split at syncing <;> exact .inl syncing
  | claim claimer id importOnly now =>
    simp only [Step, System.apply] at step
    split at step
    · obtain rfl := Option.some.inj step
      unfold System.claim at syncing
      simp only [] at syncing
      split at syncing
      · exact .inl (other syncing (.inr ⟨_, _, .inl rfl⟩))
      · exact .inl syncing
    · cases step
  | load loader joined =>
    simp only [Step, System.apply] at step
    split at step
    · split at step
      · obtain rfl := Option.some.inj step
        exact .inl (other syncing (.inr ⟨_, _, .inr rfl⟩))
      · rename_i workId held claimed _ loadedContext loaded
        obtain rfl := Option.some.inj step
        unfold System.setWorker at syncing
        simp only [] at syncing
        split at syncing
        · cases syncing
          obtain ⟨row, found, _, named, attempts⟩ := Works.loadClaimedContext_eq_some loaded
          exact .inr ⟨rfl, row, named ▸ found, attempts⟩
        · exact .inl syncing
    · cases step
  | heartbeat =>
    simp only [Step, System.apply] at step
    split at step
    · obtain rfl := Option.some.inj step
      exact .inl syncing
    · cases step
  | supersede | report =>
    simp only [Step, System.apply] at step
    split at step
    · obtain rfl := Option.some.inj step
      exact .inl (other syncing (.inl rfl))
    · cases step
  | crash =>
    obtain rfl := Option.some.inj step
    exact .inl (other syncing (.inl rfl))

/-- Every step counts the attempts of each row. -/
theorem Counted.step (counted : Counted tokens system) (distinct : Function.Injective tokens)
    (step : Step tokens event system after) : Counted tokens after where
  drawn := counted.drawn.step step
  consistent := by
    intro id new found
    rcases step.rows.back id new found with ⟨old, present, change⟩ | ⟨_, fresh⟩
    · exact change.consistent (counted.consistent id old present)
    · rw [fresh]
      constructor <;> simp
  exclusive := by
    intro worker other id otherId token first second
    cases step.holds first with
    | kept same =>
      cases step.holds second with
      | kept otherSame => exact counted.exclusive worker other id otherId token same otherSame
      | claimed _ next =>
        exact absurd next ((counted.drawn.workers worker id token same).ne_next distinct)
    | claimed _ next =>
      cases step.holds second with
      | kept otherSame =>
        exact absurd next
          ((counted.drawn.workers other otherId token otherSame).ne_next distinct)
      | claimed => rfl
  rows := by
    intro id new found
    rcases step.rows.back id new found with ⟨old, present, change⟩ | ⟨_, fresh⟩
    · refine change.counted (counted.rows id old present) ?_
      intro worker context token syncing own current
      refine counted.context worker context token old syncing ?_ current
      rw [own, Table.key_of_find present]
      exact present
    · rw [fresh]
      exact ⟨rfl, fun _ => rfl, nofun⟩
  context := by
    intro worker context token new syncing found present
    rcases step.syncing syncing with was | ⟨works, row, loaded, attempts⟩
    · have drew := counted.drawn.workers worker context.workId token (by rw [was, Phase.claim])
      obtain ⟨old, before, same⟩ := step.current distinct drew found present
      have token' : old.claimToken = some token :=
        (congrArg Control.claimToken same).symm.trans present
      exact (counted.context worker context token old was before token').trans
        (congrArg Control.attemptCount same).symm
    · rw [works, loaded] at found
      rw [attempts, Option.some.inj found]

/-! ### The claims of workers -/

/-- A worker keeps its claim until it reports or dies. -/
theorem Step.keeps (step : Step tokens event system after)
    (claim : (system.workers worker).claim = some (id, token)) :
    (after.workers worker).claim = some (id, token) ∨ event.reporter = some worker ∨
      event = .crash worker := by
  have other {changed : Nat} {phase : Phase}
      (kept : changed = worker → phase.claim = some (id, token)) :
      ((system.setWorker changed phase).workers worker).claim = some (id, token) := by
    unfold System.setWorker
    simp only []
    split
    · rename_i same
      exact kept same.symm
    · exact claim
  cases event with
  | enqueue | enqueueImport =>
    obtain rfl := Option.some.inj step
    left
    unfold System.enqueue
    split <;> exact claim
  | sealOrigin | delete | fence | checkpoint | writeJob =>
    obtain rfl := Option.some.inj step
    exact .inl claim
  | retry jobId reads =>
    obtain rfl := Option.some.inj step
    left
    unfold System.retry
    split <;> exact claim
  | claim claimer claimedId importOnly now =>
    simp only [Step, System.apply] at step
    split at step
    · rename_i idle
      obtain rfl := Option.some.inj step
      left
      unfold System.claim
      simp only []
      split
      · refine other ?_
        rintro rfl
        rw [idle] at claim
        cases claim
      · exact claim
    · cases step
  | load loader joined =>
    simp only [Step, System.apply] at step
    split at step
    · rename_i workId held claimed
      have same (named : loader = worker) : (workId, held) = (id, token) := by
        rw [← named, claimed] at claim
        exact Option.some.inj claim
      split at step
      · obtain rfl := Option.some.inj step
        exact .inl (other fun named => congrArg some (same named))
      · rename_i context loaded
        obtain rfl := Option.some.inj step
        obtain ⟨_, _, _, named, _⟩ := Works.loadClaimedContext_eq_some loaded
        refine .inl (other fun loads => ?_)
        rw [Phase.claim, named]
        exact congrArg some (same loads)
    · cases step
  | heartbeat =>
    simp only [Step, System.apply] at step
    split at step
    · obtain rfl := Option.some.inj step
      exact .inl claim
    · cases step
  | supersede reporter | report reporter =>
    by_cases own : reporter = worker
    · exact .inr (.inl (congrArg some own))
    · simp only [Step, System.apply] at step
      split at step
      · obtain rfl := Option.some.inj step
        exact .inl (other fun same => absurd same own)
      · cases step
  | crash dead =>
    by_cases own : dead = worker
    · exact .inr (.inr (congrArg Event.crash own))
    · obtain rfl := Option.some.inj step
      exact .inl (other fun same => absurd same own)

/-- The row of a worker's claim, after what the worker writes at its end. -/
theorem Works.find_written {works after : Works} {id : Nat}
    {write : StoryArcSyncWork → StoryArcSyncWork}
    (rows : after.rows = works.rows.map fun row => if held id token row then write row else row)
    (keeps : ∀ row, (write row).id = row.id) (found : works.find id = some row)
    (current : row.claimToken = some token) (running : row.state = .running) :
    after.find id = some (write row) := by
  have holds : held id token row = true := by
    simp [held, Table.key_of_find found, current, running]
  have written : after.find id =
      (works.find id).map fun row => if held id token row then write row else row := by
    refine Table.find_of_rows rows fun row => ?_
    split
    · exact keeps row
    · rfl
  rw [written, found, Option.map_some, if_pos holds]

/-- The outcome is recorded as a failed attempt. -/
def SyncOutcome.fails (context : WorkContext) : SyncOutcome → Bool
  | .finished _ => false
  | .interrupted | .raised => true
  | .refused error cancellationRequested =>
    !(context.importProvenance && (cancellationRequested || error.category = "cancelled"))

/-- The report of a worker with the current token ends the claim; a failure without attempts
left ends the row. -/
theorem Works.find_report {works : Works} {context : WorkContext}
    {now : Timestamp} {outcome : SyncOutcome}
    (found : works.find context.workId = some row) (current : row.claimToken = some token)
    (running : row.state = .running) :
    ∃ row', (works.report context token now outcome).find context.workId = some row' ∧
      row'.state ≠ .running ∧ (outcome.fails context = true →
        maxAttempts ≤ context.attemptCount → row'.state = .failed) := by
  have failed (error : WorkError) (retryable : Bool) :
      ∃ row', (works.failOrRetryWork context token now error retryable).find context.workId =
        some row' ∧ row'.state ≠ .running ∧
          (maxAttempts ≤ context.attemptCount → row'.state = .failed) := by
    refine ⟨_, Works.find_written rfl (fun _ => rfl) found current running, ?_, ?_⟩
    · simp only []
      split <;> rintro ⟨⟩
    · intro spent
      have denied : shouldRetry context retryable = false := by
        simp only [shouldRetry, Bool.and_eq_false_iff, decide_eq_false_iff_not]
        exact .inr (by omega)
      simp [denied]
  cases outcome with
  | finished result =>
    exact ⟨_, Works.find_written rfl (fun _ => rfl) found current running, (by rintro ⟨⟩), (by rintro ⟨⟩)⟩
  | interrupted | raised =>
    obtain ⟨row', there, left, spent⟩ := failed _ true
    exact ⟨row', there, left, fun _ => spent⟩
  | refused error cancellationRequested =>
    simp only [report]
    split
    · rename_i cancels
      refine ⟨_, Works.find_written rfl (fun _ => rfl) found current running, (by rintro ⟨⟩), ?_⟩
      intro fails
      simp [SyncOutcome.fails, cancels] at fails
    · obtain ⟨row', there, left, spent⟩ := failed error (isRetryable error)
      exact ⟨row', there, left, fun _ => spent⟩

/-- A worker that ends its claim takes the row of its token out of running. -/
theorem Step.ends (step : Step tokens event system after) (reporter : event.reporter = some worker)
    (claim : (system.workers worker).claim = some (id, token))
    (found : system.works.find id = some row) (current : row.claimToken = some token)
    (running : row.state = .running) :
    ∃ row', after.works.find id = some row' ∧ row'.state ≠ .running := by
  cases event with
  | supersede other =>
    obtain rfl := Option.some.inj reporter
    simp only [Step, System.apply] at step
    split at step
    · rename_i superseded
      obtain rfl := Option.some.inj step
      rw [superseded] at claim
      cases claim
      exact ⟨_, Works.find_written rfl (fun _ => rfl) found current running, (by rintro ⟨⟩)⟩
    · cases step
  | report other outcome now =>
    obtain rfl := Option.some.inj reporter
    simp only [Step, System.apply] at step
    split at step
    · rename_i syncing
      obtain rfl := Option.some.inj step
      rw [syncing] at claim
      cases claim
      obtain ⟨row', there, left, _⟩ := Works.find_report found current running
      exact ⟨row', there, left⟩
    · cases step
  | _ => cases reporter

/-! ### The limit -/

/-- The last attempt of a row is not lost: its claim is not taken over, and its worker does
not die. -/
def LastAttemptReported (event : Event) (system : System) : Prop :=
  match event with
  | .claim _ id importOnly now =>
    ∀ row ∈ system.works.rows,
      Works.claimable system.importJobs id importOnly now row = true →
        row.state = .running → row.attemptCount < maxAttempts
  | .crash worker =>
    ∀ row ∈ system.works.rows, row.claimToken.isSome = true →
      (system.workers worker).claim = row.claimToken.map (fun token => (row.id, token)) →
        row.attemptCount < maxAttempts
  | _ => True

instance (event : Event) (system : System) : Decidable (LastAttemptReported event system) :=
  match event with
  | .claim _ id importOnly now =>
    inferInstanceAs (Decidable (∀ row ∈ system.works.rows,
      Works.claimable system.importJobs id importOnly now row = true →
        row.state = .running → row.attemptCount < maxAttempts))
  | .crash worker =>
    inferInstanceAs (Decidable (∀ row ∈ system.works.rows, row.claimToken.isSome = true →
      (system.workers worker).claim = row.claimToken.map (fun token => (row.id, token)) →
        row.attemptCount < maxAttempts))
  | .enqueue .. | .enqueueImport .. | .sealOrigin _ | .delete _ | .fence .. | .checkpoint ..
  | .retry .. | .writeJob .. | .load .. | .heartbeat .. | .supersede _ | .report .. =>
    isTrue trivial

/-- No row exceeds the limit, and a row in its last attempt has a live worker. -/
structure Limited (system : System) : Prop where
  limit : ∀ id row, system.works.find id = some row → row.attemptCount ≤ maxAttempts
  held : ∀ id row, system.works.find id = some row → row.state = .running →
    row.attemptCount = maxAttempts →
      ∃ worker token, (system.workers worker).claim = some (id, token) ∧
        row.claimToken = some token

/-- A claim that takes its row leaves the claim with the worker. -/
theorem Step.claimer {importOnly : Bool} {now : Timestamp}
    (step : Step tokens (.claim worker id importOnly now) system after) :
    after.works = system.works ∨
      (after.workers worker).claim = some (id, tokens system.drawn) := by
  simp only [Step, System.apply] at step
  split at step
  · obtain rfl := Option.some.inj step
    unfold System.claim
    simp only []
    split
    · right
      simp [System.setWorker, Phase.claim]
    · exact .inl rfl
  · cases step

theorem Limited.step (limited : Limited system) (counted : Counted tokens system)
    (distinct : Function.Injective tokens) (reported : LastAttemptReported event system)
    (step : Step tokens event system after) : Limited after where
  limit := by
    intro id new found
    show (new.control after.journal).attemptCount ≤ maxAttempts
    rcases step.rows.back id new found with ⟨row, present, change⟩ | ⟨_, fresh⟩
    · have below := limited.limit id row present
      have rows := counted.rows id row present
      generalize new.control after.journal = control at change
      cases change with
      | kept | ended | deferred | fenced => exact below
      | claimed _ selected =>
        show row.attemptCount + 1 ≤ maxAttempts
        have state := Works.claimable_state selected
        simp only [List.mem_cons, List.not_mem_nil, or_false] at state
        rcases state with queued | waiting | running
        · have unused : row.attemptCount = 0 := rows.queued queued
          simp [unused, maxAttempts]
        · exact rows.waiting waiting
        · exact reported row (Table.mem_of_find present) selected running
      | reset => exact Nat.zero_le _
    · rw [fresh]
      exact Nat.zero_le _
  held := by
    intro id new found running spent
    have state : (new.control after.journal).state = .running := running
    have attempts : (new.control after.journal).attemptCount = maxAttempts := spent
    have token : (new.control after.journal).claimToken = new.claimToken := rfl
    rcases step.rows.back id new found with ⟨row, present, change⟩ | ⟨_, fresh⟩
    · have named := Table.key_of_find present
      generalize new.control after.journal = control at change state attempts token
      cases change with
      | kept =>
        obtain ⟨worker, held, claim, current⟩ := limited.held id row present state attempts
        have stays : new.claimToken = some held := token.symm.trans current
        rcases step.keeps claim with keeps | reporter | dies
        · exact ⟨worker, held, keeps, stays⟩
        · obtain ⟨other, there, left⟩ := step.ends reporter claim present current state
          obtain rfl := Option.some.inj (found.symm.trans there)
          exact absurd running left
        · subst dies
          have below := reported row (Table.mem_of_find present)
            (by rw [current]; rfl) (by rw [claim, current, named]; rfl)
          have same : row.attemptCount = maxAttempts := attempts
          omega
      | @claimed worker =>
        rcases step.claimer with works | claims
        · -- the row would hold a token that is not drawn yet
          rw [works, present] at found
          obtain rfl := Option.some.inj found
          have drew := counted.drawn.rows id row _ present token.symm
          exact absurd rfl (drew.ne_next distinct)
        · exact ⟨worker, _, named ▸ claims, token.symm⟩
      | ended _ _ _ _ terminal =>
        exact absurd state (StoryArcSyncWorkState.ne_of_terminal terminal).1
      | deferred | fenced | reset => cases state
    · rw [fresh] at state
      cases state

/-- The bound on the attempts of every row. -/
structure Bounded (tokens : Nat → ClaimToken) (system : System) : Prop where
  claims : ∀ row ∈ system.works.rows, claimsSince row.id system.journal ≤ maxAttempts
  /-- A row without attempts left is terminal, unless a worker is carrying out the last. -/
  ends : ∀ row ∈ system.works.rows, claimsSince row.id system.journal = maxAttempts →
    row.state.terminal = true ∨ ∃ worker token,
      (system.workers worker).claim = some (row.id, token) ∧ row.claimToken = some token
  /-- When the last attempt fails, the row is failed. -/
  failed : ∀ worker outcome now after context token row, row ∈ system.works.rows →
    claimsSince row.id system.journal = maxAttempts →
      system.workers worker = .syncing context token → context.workId = row.id →
        row.claimToken = some token → outcome.fails context = true →
          Step tokens (.report worker outcome now) system after →
            ∃ row', after.works.find row.id = some row' ∧ row'.state = .failed

/-- A limited queue stays within its attempts. -/
theorem Limited.bounded (limited : Limited system) (counted : Counted tokens system) :
    Bounded tokens system where
  claims := by
    intro row member
    have found := Table.find_key member
    have same : row.attemptCount = claimsSince row.id system.journal :=
      (counted.rows row.id row found).claims
    have below := limited.limit row.id row found
    omega
  ends := by
    intro row member spent
    have found := Table.find_key member
    have rows := counted.rows row.id row found
    have same : row.attemptCount = claimsSince row.id system.journal := rows.claims
    have attempts : row.attemptCount = maxAttempts := same.trans spent
    cases state : row.state with
    | queued =>
      have unused : row.attemptCount = 0 := rows.queued state
      rw [attempts] at unused
      cases unused
    | running => exact .inr (limited.held row.id row found state attempts)
    | retryWait =>
      have below : row.attemptCount < maxAttempts := rows.waiting state
      omega
    | failed | completed | cancelled => exact .inl rfl
  failed := by
    intro worker outcome now after context token row member spent syncing own current fails step
    have found := Table.find_key member
    have same : row.attemptCount = claimsSince row.id system.journal :=
      (counted.rows row.id row found).claims
    have running : row.state = .running :=
      (counted.consistent row.id row found).token.1 (by
        simp [StoryArcSyncWork.control, current])
    rw [← own] at found
    have knows := counted.context worker context token row syncing found current
    simp only [Step, System.apply, syncing] at step
    obtain rfl := Option.some.inj step
    obtain ⟨row', there, _, ends⟩ := Works.find_report found current running
    rw [own] at there
    exact ⟨row', there, ends fails (by omega)⟩

/-- A step that loses the last attempt of a row breaks the bound. -/
theorem LastAttemptReported.of_bounded (counted : Counted tokens system)
    (step : Step tokens event system after) (bounded : Bounded tokens after) :
    LastAttemptReported event system := by
  cases event with
  | claim worker id importOnly now =>
    intro row member selected running
    obtain rfl := Works.claimable_id selected
    have found := Table.find_key member
    have same : row.attemptCount = claimsSince row.id system.journal :=
      (counted.rows row.id row found).claims
    have once := Table.count_eq_one found selected fun other => Works.claimable_id
    simp only [Step, System.apply] at step
    split at step
    · obtain rfl := Option.some.inj step
      unfold System.claim at bounded
      simp only [if_pos once] at bounded
      obtain ⟨taken, there, _⟩ :=
        @Works.find_claim _ _ _ _ (tokens system.drawn) now once
      have more := bounded.claims taken (Table.mem_of_find there)
      have named : taken.id = row.id := Table.key_of_find there
      rw [named, claimsSince, if_pos rfl] at more
      omega
    · cases step
  | crash worker =>
    intro row member present claim
    have found := Table.find_key member
    obtain ⟨token, current⟩ := Option.isSome_iff_exists.1 present
    rw [current, Option.map_some] at claim
    have running : row.state = .running :=
      (counted.consistent row.id row found).token.1 present
    have same : row.attemptCount = claimsSince row.id system.journal :=
      (counted.rows row.id row found).claims
    obtain rfl := Option.some.inj step
    have below := bounded.claims row member
    by_contra spent
    have full : claimsSince row.id system.journal = maxAttempts := by
      have equal : claimsSince row.id (system.setWorker worker .idle).journal =
        claimsSince row.id system.journal := rfl
      omega
    rcases bounded.ends row member full with terminal | ⟨other, held, holds, own⟩
    · rw [running] at terminal
      cases terminal
    · obtain rfl := Option.some.inj (current.symm.trans own)
      rcases System.setWorker_claim holds with ⟨_, idle⟩ | ⟨different, holds⟩
      · cases idle
      · exact different (counted.exclusive other worker row.id row.id token holds claim)
  | _ => trivial

/-- What holds of the attempts while no last attempt is lost. -/
structure Careful (tokens : Nat → ClaimToken) (system : System) : Prop where
  counted : Counted tokens system
  limited : Limited system

theorem Careful.reachable (distinct : Function.Injective tokens)
    (reachable : Reachable System.Initial LastAttemptReported (Step tokens) system) :
    Careful tokens system := by
  refine reachable.invariant ?_ ?_
  · intro state initial
    have absent (id : Nat) (row : StoryArcSyncWork) : state.works.find id ≠ some row := by
      intro found
      have member := Table.mem_of_find found
      rw [initial.1] at member
      cases member
    have idle (worker id : Nat) (token : ClaimToken) :
        (state.workers worker).claim ≠ some (id, token) := by
      rw [initial.2.1 worker]
      exact nofun
    refine ⟨⟨.start initial, ?_, ?_, ?_, ?_⟩, ?_, ?_⟩
    · exact fun id row found => absurd found (absent id row)
    · exact fun worker _ id _ token holds => absurd holds (idle worker id token)
    · exact fun id row found => absurd found (absent id row)
    · exact fun worker context token row _ found => absurd found (absent context.workId row)
    · exact fun id row found => absurd found (absent id row)
    · exact fun id row found => absurd found (absent id row)
  · intro event state next careful reported step
    exact ⟨careful.counted.step distinct step,
      careful.limited.step careful.counted distinct reported step⟩

/-- While no last attempt is lost the bound holds, and a step keeps it exactly when it loses
none. -/
theorem attempts_bounded (tokens : Nat → ClaimToken) (distinct : Function.Injective tokens)
    {system : System}
    (reachable : Reachable System.Initial LastAttemptReported (Step tokens) system) :
    Bounded tokens system ∧ ∀ event after, Step tokens event system after →
      (Bounded tokens after ↔ LastAttemptReported event system) := by
  have careful := Careful.reachable distinct reachable
  refine ⟨careful.limited.bounded careful.counted, ?_⟩
  intro event after step
  constructor
  · intro bounded
    exact .of_bounded careful.counted step bounded
  · intro reported
    have next := Careful.reachable distinct (.next reachable reported step)
    exact next.limited.bounded next.counted

/-- Five attempts that fail, two hours apart. -/
def failedRun : List Event :=
  .enqueue sampleProposal .canonicalRegistered :: (List.range 5).flatMap fun attempt =>
    [.claim 0 1 false (attempt * 8 * claimLease),
      .load 0 fun _ => some false,
      .report 0 .raised (attempt * 8 * claimLease)]

/-- A row has failed for good after its last attempt. -/
theorem attempts_bounded_failed :
    ∃ system, Bounded countedTokens system ∧ claimsSince 1 system.journal = maxAttempts ∧
      (system.works.find 1).map StoryArcSyncWork.state = some .failed := by
  have reachable : Reachable System.Initial LastAttemptReported (Step countedTokens)
      (systemAfter countedTokens failedRun) :=
    systemAfter_checked failedRun (by decide +kernel)
  refine ⟨_, (attempts_bounded countedTokens countedTokens_injective reachable).1, ?_, ?_⟩
  · decide +kernel
  · decide +kernel

/-- Six workers die, each after it claimed the row. -/
def lostRun : List Event :=
  .enqueue sampleProposal .canonicalRegistered :: (List.range 6).flatMap fun attempt =>
    [.claim 0 1 false (attempt * claimLease), .crash 0]

/-- A row is claimed a sixth time, and does not end as failed. -/
theorem attempts_unbounded :
    Reachable System.Initial (fun _ _ => True) (Step countedTokens)
        (systemAfter countedTokens lostRun) ∧
      claimsSince 1 (systemAfter countedTokens lostRun).journal = maxAttempts + 1 ∧
      ((systemAfter countedTokens lostRun).works.find 1).map StoryArcSyncWork.state =
        some .running ∧
      ¬ Bounded countedTokens (systemAfter countedTokens lostRun) := by
  have claims : claimsSince 1 (systemAfter countedTokens lostRun).journal = maxAttempts + 1 := by
    decide +kernel
  have present : ((systemAfter countedTokens lostRun).works.find 1).isSome := by decide +kernel
  refine ⟨systemAfter_reachable lostRun (fun _ _ _ => trivial) (by decide +kernel), claims,
    by decide +kernel, ?_⟩
  intro bounded
  obtain ⟨row, found⟩ := Option.isSome_iff_exists.1 present
  have limit := bounded.claims row (Table.mem_of_find found)
  have named : row.id = 1 := Table.key_of_find found
  rw [named, claims] at limit
  omega

/-- In every run, whichever workers die, the attempts of a row are its claims since it was last
queued, and no two workers hold one claim. -/
theorem attempts_exact (distinct : Function.Injective tokens)
    (reachable : Reachable System.Initial (fun _ _ => True) (Step tokens) system) :
    (∀ row ∈ system.works.rows, row.attemptCount = claimsSince row.id system.journal) ∧
      ∀ worker other id token, (system.workers worker).claim = some (id, token) →
        (system.workers other).claim = some (id, token) → worker = other := by
  have counted : Counted tokens system := reachable.invariant
    (fun _ initial => (Careful.reachable distinct (.start initial)).counted)
    fun _ _ _ counted _ step => counted.step distinct step
  exact ⟨fun row member => (counted.rows row.id row (Table.find_key member)).claims,
    fun worker other id token => counted.exclusive worker other id id token⟩

/-- Six workers claim a row one after the other, and die. -/
theorem attempts_exact_lostRun : claimsSince 1 (systemAfter countedTokens lostRun).journal = 6 ∧
    ∀ row ∈ (systemAfter countedTokens lostRun).works.rows,
      row.attemptCount = claimsSince row.id (systemAfter countedTokens lostRun).journal :=
  ⟨by decide +kernel, (attempts_exact countedTokens_injective
    (systemAfter_reachable lostRun (fun _ _ _ => trivial) (by decide +kernel))).1⟩

end Pullbox.Sync
