import Pullbox.Sync.Rows

/-!
# Claims of the synchronization queue

A row is running exactly while it has a claim token, and only the worker that presents this
token ends the claim. Tokens are drawn once, so a worker whose row was claimed again never
presents the current one.
-/

namespace Pullbox.Sync

open Durable Sql

variable {tokens : Nat → ClaimToken} {system after : System} {event : Event} {importOnly : Bool}
  {row : StoryArcSyncWork} {worker id other : Nat} {control : Control}

/-- The claim and the retry time of a row fit its state. -/
structure Control.Consistent (control : Control) : Prop where
  token : control.claimToken.isSome ↔ control.state = .running
  next : control.nextAttemptAt.isSome ↔ control.state = .retryWait

theorem StoryArcSyncWorkState.ne_of_terminal {state : StoryArcSyncWorkState}
    (terminal : state.terminal = true) : state ≠ .running ∧ state ≠ .retryWait := by
  cases state <;> simp [StoryArcSyncWorkState.terminal] at terminal ⊢

theorem Change.consistent (change : Change tokens system row event control)
    (consistent : (row.control system.journal).Consistent) : control.Consistent := by
  cases change with
  | kept => exact consistent
  | claimed => constructor <;> simp
  | ended reporter holds current running terminal =>
    obtain ⟨notRunning, notWaiting⟩ := StoryArcSyncWorkState.ne_of_terminal terminal
    constructor <;> simp [notRunning, notWaiting]
  | deferred => constructor <;> simp
  | fenced => constructor <;> simp
  | reset => constructor <;> simp

/-! ### Tokens -/

/-- A token of an earlier draw. -/
def System.Drew (tokens : Nat → ClaimToken) (system : System) (token : ClaimToken) : Prop :=
  ∃ draw < system.drawn, tokens draw = token

/-- The tokens that workers and rows hold were drawn. -/
structure Drawn (tokens : Nat → ClaimToken) (system : System) : Prop where
  workers : ∀ worker id token, (system.workers worker).claim = some (id, token) →
    system.Drew tokens token
  rows : ∀ id row token, system.works.find id = some row → row.claimToken = some token →
    system.Drew tokens token

theorem System.Drew.mono {token : ClaimToken} (drew : system.Drew tokens token)
    (grows : system.drawn ≤ after.drawn) : after.Drew tokens token := by
  obtain ⟨draw, below, rfl⟩ := drew
  exact ⟨draw, by omega, rfl⟩

/-- The next token is not one that was drawn. -/
theorem System.Drew.ne_next (distinct : Function.Injective tokens) {token : ClaimToken}
    (drew : system.Drew tokens token) : token ≠ tokens system.drawn := by
  obtain ⟨draw, below, rfl⟩ := drew
  intro same
  have equal := distinct same
  omega

theorem System.claim_works_of_ne {now : Timestamp}
    (changed : (system.claim tokens worker id importOnly now).works ≠ system.works) :
    system.works.count (Works.claimable system.importJobs id importOnly now) = 1 := by
  unfold System.claim at changed
  simp only [] at changed
  split at changed
  · assumption
  · exact absurd rfl changed

/-- A claim that selects its row puts the new token there. -/
theorem Works.find_claim {works : Works} {jobs : ImportJobs} {id : Nat}
    {token : ClaimToken} {now : Timestamp}
    (once : works.count (claimable jobs id importOnly now) = 1) :
    ∃ row, (works.claim jobs id importOnly token now).find id = some row ∧
      row.claimToken = some token ∧ row.state = .running := by
  obtain ⟨taken, inside, selected⟩ := Sql.Table.count_pos.1 (once ▸ Nat.one_pos)
  have named : taken.id = id := claimable_id selected
  have found := Table.find_key inside
  have claimed : (works.claim jobs id importOnly token now).find taken.id =
      (works.find taken.id).map fun row => if claimable jobs id importOnly now row then
        { row with
          state := .running
          attemptCount := row.attemptCount + 1
          nextAttemptAt := none
          claimToken := some token
          claimedAt := some now } else row := by
    refine Table.find_of_rows rfl fun row => ?_
    split <;> rfl
  rw [found, Option.map_some, if_pos selected] at claimed
  exact ⟨_, named ▸ claimed, rfl, rfl⟩

/-- Where the claim that a worker holds after a step comes from. -/
inductive Holds (tokens : Nat → ClaimToken) (system after : System) (worker id : Nat)
    (token : ClaimToken) : Event → Prop where
  | kept {event : Event} (same : (system.workers worker).claim = some (id, token))
      (ongoing : event.reporter ≠ some worker) : Holds tokens system after worker id token event
  | claimed {importOnly now} (idle : system.workers worker = .idle)
      (next : token = tokens system.drawn) (drawn : after.drawn = system.drawn + 1)
      (running : ∃ row, after.works.find id = some row ∧ row.claimToken = some token ∧
        row.state = .running) :
      Holds tokens system after worker id token (.claim worker id importOnly now)

theorem System.setWorker_claim {token : ClaimToken} {phase : Phase}
    (holds : ((system.setWorker worker phase).workers other).claim = some (id, token)) :
    (other = worker ∧ phase.claim = some (id, token)) ∨
      (other ≠ worker ∧ (system.workers other).claim = some (id, token)) := by
  by_cases same : other = worker
  · exact .inl ⟨same, by simpa [System.setWorker, same] using holds⟩
  · exact .inr ⟨same, by simpa [System.setWorker, same] using holds⟩

/-- A worker that ends its claim holds none, and the others hold theirs. -/
theorem Holds.of_idle {token : ClaimToken}
    (holds : ((system.setWorker worker .idle).workers other).claim = some (id, token))
    (reporter : event.reporter = some worker ∨ event.reporter = none) :
    Holds tokens system after other id token event := by
  rcases System.setWorker_claim holds with ⟨_, idle⟩ | ⟨different, same⟩
  · cases idle
  · refine .kept same ?_
    rcases reporter with reports | reports
    · rw [reports]
      exact fun equal => different (Option.some.inj equal).symm
    · rw [reports]
      exact nofun

theorem Step.holds (step : Step tokens event system after)
    {token : ClaimToken} (holds : (after.workers worker).claim = some (id, token)) :
    Holds tokens system after worker id token event := by
  cases event with
  | enqueue | enqueueImport =>
    obtain rfl := Option.some.inj step
    unfold System.enqueue at holds
    split at holds <;> exact .kept holds (by rintro ⟨⟩)
  | sealOrigin | delete | fence | checkpoint | writeJob =>
    obtain rfl := Option.some.inj step
    exact .kept holds (by rintro ⟨⟩)
  | retry jobId reads =>
    obtain rfl := Option.some.inj step
    unfold System.retry at holds
    split at holds <;> exact .kept holds (by rintro ⟨⟩)
  | claim other claimedId importOnly now =>
    simp only [Step, System.apply] at step
    split at step
    · rename_i idle
      obtain rfl := Option.some.inj step
      unfold System.claim at holds ⊢
      simp only [] at holds ⊢
      split at holds
      · rename_i once
        rw [if_pos once]
        rcases System.setWorker_claim holds with ⟨rfl, own⟩ | ⟨_, same⟩
        · cases own
          exact .claimed idle rfl rfl (Works.find_claim once)
        · exact .kept same (by rintro ⟨⟩)
      · exact .kept holds (by rintro ⟨⟩)
    · cases step
  | load other joined =>
    simp only [Step, System.apply] at step
    split at step
    · rename_i workId held claimed
      have was : (system.workers other).claim = some (workId, held) := by
        rw [claimed, Phase.claim]
      split at step
      · obtain rfl := Option.some.inj step
        rcases System.setWorker_claim holds with ⟨rfl, own⟩ | ⟨_, same⟩
        · exact .kept (was.trans own) (by rintro ⟨⟩)
        · exact .kept same (by rintro ⟨⟩)
      · rename_i context loaded
        obtain rfl := Option.some.inj step
        rcases System.setWorker_claim holds with ⟨rfl, own⟩ | ⟨_, same⟩
        · obtain ⟨_, _, _, named, _⟩ := Works.loadClaimedContext_eq_some loaded
          rw [Phase.claim, named] at own
          exact .kept (was.trans own) (by rintro ⟨⟩)
        · exact .kept same (by rintro ⟨⟩)
    · cases step
  | heartbeat other now =>
    simp only [Step, System.apply] at step
    split at step
    · obtain rfl := Option.some.inj step
      exact .kept holds (by rintro ⟨⟩)
    · cases step
  | supersede other =>
    simp only [Step, System.apply] at step
    split at step
    · obtain rfl := Option.some.inj step
      exact .of_idle holds (.inl rfl)
    · cases step
  | report other outcome now =>
    simp only [Step, System.apply] at step
    split at step
    · obtain rfl := Option.some.inj step
      exact .of_idle holds (.inl rfl)
    · cases step
  | crash other =>
    obtain rfl := Option.some.inj step
    exact .of_idle holds (.inr rfl)

/-! ### Drawn tokens -/

/-- Only a claim draws a token. -/
theorem Step.drawn (step : Step tokens event system after) :
    after.drawn = system.drawn ∨
      (after.drawn = system.drawn + 1 ∧
        ∃ worker id importOnly now, event = .claim worker id importOnly now) := by
  cases event with
  | enqueue | enqueueImport =>
    obtain rfl := Option.some.inj step
    unfold System.enqueue
    split <;> exact .inl rfl
  | sealOrigin | delete | fence | checkpoint | writeJob | crash =>
    obtain rfl := Option.some.inj step
    exact .inl rfl
  | retry jobId reads =>
    obtain rfl := Option.some.inj step
    unfold System.retry
    split <;> exact .inl rfl
  | claim worker id importOnly now =>
    simp only [Step, System.apply] at step
    split at step
    · obtain rfl := Option.some.inj step
      refine .inr ⟨?_, worker, id, importOnly, now, rfl⟩
      unfold System.claim
      simp only []
      split <;> rfl
    · cases step
  | load | heartbeat | supersede | report =>
    simp only [Step, System.apply] at step
    repeat' split at step
    all_goals cases step
    all_goals exact .inl rfl

theorem Step.drawn_le (step : Step tokens event system after) : system.drawn ≤ after.drawn := by
  rcases step.drawn with same | ⟨next, _⟩ <;> omega

theorem Step.drawn_claim {now : Timestamp}
    (step : Step tokens (.claim worker id importOnly now) system after) :
    after.drawn = system.drawn + 1 := by
  simp only [Step, System.apply] at step
  split at step
  · obtain rfl := Option.some.inj step
    unfold System.claim
    simp only []
    split <;> rfl
  · cases step

/-- A row has its token from before the step, or from a claim. -/
theorem Step.token (step : Step tokens event system after) {id : Nat} {row' : StoryArcSyncWork}
    {token : ClaimToken} (found : after.works.find id = some row')
    (present : row'.claimToken = some token) :
    (∃ row, system.works.find id = some row ∧ row.claimToken = some token) ∨
      (token = tokens system.drawn ∧ after.drawn = system.drawn + 1) := by
  have control : (row'.control after.journal).claimToken = some token := present
  rcases step.rows.back id row' found with ⟨row, old, change⟩ | ⟨_, fresh⟩
  · generalize row'.control after.journal = new at change control
    cases change with
    | kept => exact .inl ⟨row, old, control⟩
    | claimed => exact .inr ⟨(Option.some.inj control).symm, step.drawn_claim⟩
    | ended | deferred | fenced | reset => cases control
  · rw [fresh] at control
    cases control

theorem Drawn.step (drawn : Drawn tokens system) (step : Step tokens event system after) :
    Drawn tokens after where
  workers := by
    intro worker id token holds
    cases step.holds holds with
    | kept same => exact (drawn.workers worker id token same).mono step.drawn_le
    | claimed _ next grows => exact ⟨system.drawn, by omega, next.symm⟩
  rows := by
    intro id row' token found present
    rcases step.token found present with ⟨row, old, held⟩ | ⟨next, grows⟩
    · exact (drawn.rows id row token old held).mono step.drawn_le
    · exact ⟨system.drawn, by omega, next.symm⟩

theorem Drawn.start (initial : system.Initial) : Drawn tokens system where
  workers := by
    intro worker id token holds
    rw [initial.2.1 worker] at holds
    cases holds
  rows := by
    intro id row token found
    have member := Table.mem_of_find found
    rw [initial.1] at member
    cases member

theorem Drawn.reachable {allowed : Event → System → Prop}
    (reachable : Reachable System.Initial allowed (Step tokens) system) : Drawn tokens system :=
  reachable.invariant (fun _ initial => .start initial)
    fun _ _ _ drawn _ step => drawn.step step

/-! ### Superseded claims -/

/-- The token was drawn, and the row is not held under it. -/
structure Lost (tokens : Nat → ClaimToken) (id : Nat) (token : ClaimToken) (system : System) :
    Prop where
  drew : system.Drew tokens token
  other : ∀ row, system.works.find id = some row → row.claimToken ≠ some token

/-- A claim that is lost stays lost: no token is drawn twice. -/
theorem Lost.step (distinct : Function.Injective tokens) {id : Nat} {token : ClaimToken}
    (lost : Lost tokens id token system) (step : Step tokens event system after) :
    Lost tokens id token after where
  drew := lost.drew.mono step.drawn_le
  other := by
    intro row' found present
    rcases step.token found present with ⟨row, old, held⟩ | ⟨next, _⟩
    · exact lost.other row old held
    · exact lost.drew.ne_next distinct next

/-- A worker that presents no current token writes nothing. -/
theorem Works.report_eq_self {works : Works} {context : WorkContext} {token : ClaimToken}
    {now : Timestamp} {outcome : SyncOutcome}
    (none : ∀ row ∈ works.rows, held context.workId token row = false) :
    works.report context token now outcome = works := by
  cases outcome with
  | finished | interrupted | raised => exact Table.eq_of_rows rfl none
  | refused error cancellationRequested =>
    simp only [report]
    split <;> exact Table.eq_of_rows rfl none

/-- What a worker writes at the end of its claim is written to the row that it presents the
token of. -/
theorem Step.presented (step : Step tokens event system after) {worker : Nat}
    (reporter : event.reporter = some worker) (changed : after.works ≠ system.works) :
    ∃ row token, (system.workers worker).claim = some (row.id, token) ∧
      row ∈ system.works.rows ∧ row.claimToken = some token ∧ row.state = .running := by
  have current {workId : Nat} {token : ClaimToken}
      (claim : (system.workers worker).claim = some (workId, token))
      (selects : ¬ ∀ row ∈ system.works.rows, Works.held workId token row = false) :
      ∃ row token, (system.workers worker).claim = some (row.id, token) ∧
        row ∈ system.works.rows ∧ row.claimToken = some token ∧ row.state = .running := by
    simp only [not_forall, Bool.not_eq_false] at selects
    obtain ⟨row, member, held⟩ := selects
    simp only [Works.held, Bool.and_eq_true, decide_eq_true_eq] at held
    obtain ⟨⟨rfl, token⟩, running⟩ := held
    exact ⟨row, _, claim, member, token, running⟩
  cases event with
  | supersede other =>
    obtain rfl := Option.some.inj reporter
    simp only [Step, System.apply] at step
    split at step
    · rename_i workId token superseded
      obtain rfl := Option.some.inj step
      refine current (by rw [superseded, Phase.claim]) fun none => changed ?_
      exact Table.eq_of_rows rfl none
    · cases step
  | report other outcome now =>
    obtain rfl := Option.some.inj reporter
    simp only [Step, System.apply] at step
    split at step
    · rename_i context token syncing
      obtain rfl := Option.some.inj step
      refine current (by rw [syncing, Phase.claim]) fun none => changed ?_
      exact Works.report_eq_self none
    · cases step
  | _ => cases reporter

/-- A worker whose claim is lost writes nothing at its end. -/
theorem Lost.unchanged {token : ClaimToken} (lost : Lost tokens id token system)
    (claim : (system.workers worker).claim = some (id, token))
    (step : Step tokens event system after) (reporter : event.reporter = some worker) :
    after.works = system.works := by
  by_contra changed
  obtain ⟨row, held, presents, member, current, _⟩ := step.presented reporter changed
  obtain ⟨rfl, rfl⟩ := Prod.mk.inj (Option.some.inj (claim.symm.trans presents))
  exact lost.other row (Table.find_key member) current

/-! ### Terminal rows -/

/-- Only a worker that presents the token of a running row takes it out of that state. -/
theorem Change.released (change : Change tokens system row event control)
    (running : row.state = .running) (left : control.state ≠ .running) :
    ∃ worker token, event.reporter = some worker ∧
      (system.workers worker).claim = some (row.id, token) ∧ row.claimToken = some token := by
  cases change with
  | kept => exact absurd running left
  | claimed => exact absurd rfl left
  | ended reporter holds current => exact ⟨_, _, reporter, holds, current⟩
  | @deferred worker outcome now context token _ syncing own current =>
    refine ⟨worker, token, rfl, ?_, current⟩
    rw [syncing, Phase.claim, own]
  | fenced waiting => simp [running] at waiting
  | reset _ ended => simp [running] at ended

/-- A claim takes no terminal row. -/
theorem Works.claimable_ongoing {jobs : ImportJobs} {id : Nat}
    {now : Timestamp}
    (selected : claimable jobs id importOnly now row = true) : row.state.terminal = false := by
  have ongoing := claimable_state selected
  cases state : row.state <;> simp [state, StoryArcSyncWorkState.terminal] at ongoing ⊢

/-- A terminal row stays terminal, unless a retry resets it. -/
theorem Change.terminal
    (change : Change tokens system row event control) (terminal : row.state.terminal = true)
    (spared : ¬ event.Resets system row) : control.state.terminal = true := by
  cases change with
  | kept => exact terminal
  | claimed _ selected => exact absurd terminal (by simp [Works.claimable_ongoing selected])
  | ended _ _ _ _ terminal => exact terminal
  | deferred _ _ _ running => simp [running, StoryArcSyncWorkState.terminal] at terminal
  | fenced => rfl
  | reset resets => exact absurd resets spared

/-- The claims of a row in the journal. -/
def System.claims (system : System) (id : Nat) : Nat :=
  system.journal.countP fun entry => entry = .claimed id

/-- Only a claim of a row that is not terminal counts. -/
theorem Step.claims (step : Step tokens event system after) (id : Nat) :
    after.claims id = system.claims id ∨
      ∃ row, system.works.find id = some row ∧ row.state.terminal = false := by
  cases event with
  | enqueue | enqueueImport =>
    obtain rfl := Option.some.inj step
    unfold System.enqueue System.claims
    split
    · exact .inl rfl
    · left
      simp
  | sealOrigin | delete | fence | checkpoint | writeJob | crash =>
    obtain rfl := Option.some.inj step
    exact .inl rfl
  | retry jobId reads =>
    obtain rfl := Option.some.inj step
    unfold System.retry System.claims
    split
    · exact .inl rfl
    · left
      simp [List.countP_append, List.countP_map, Function.comp_def]
  | claim worker other importOnly now =>
    simp only [Step, System.apply] at step
    split at step
    · obtain rfl := Option.some.inj step
      unfold System.claim System.claims
      simp only []
      split
      · rename_i once
        by_cases same : other = id
        · subst same
          obtain ⟨row, inside, selected⟩ := Sql.Table.count_pos.1 (once ▸ Nat.one_pos)
          obtain rfl := Works.claimable_id selected
          exact .inr ⟨row, Table.find_key inside, Works.claimable_ongoing selected⟩
        · left
          simp [same]
      · exact .inl rfl
    · cases step
  | load | heartbeat | supersede | report =>
    simp only [Step, System.apply] at step
    repeat' split at step
    all_goals cases step
    all_goals exact .inl rfl

/-- The step neither deletes the row nor resets it. -/
def Spares (id : Nat) (event : Event) (system : System) : Prop :=
  event ≠ .delete id ∧ ∀ row, system.works.find id = some row → ¬ event.Resets system row

/-- The row is terminal, after a number of claims. -/
structure Rests (id claims : Nat) (system : System) : Prop where
  claims : system.claims id = claims
  terminal : ∃ row, system.works.find id = some row ∧ row.state.terminal = true

/-- A terminal row that is neither deleted nor reset stays terminal, and is not claimed. -/
theorem Rests.step {id claims : Nat} (rests : Rests id claims system)
    (spares : Spares id event system) (step : Step tokens event system after) :
    Rests id claims after := by
  obtain ⟨old, present, ended⟩ := rests.terminal
  have same : after.claims id = system.claims id := by
    rcases step.claims id with same | ⟨other, found, ongoing⟩
    · exact same
    · obtain rfl := Option.some.inj (present.symm.trans found)
      rw [ended] at ongoing
      cases ongoing
  obtain ⟨new, found⟩ := Option.isSome_iff_exists.1
    (step.rows.kept id (by rw [present]; rfl) spares.1)
  refine ⟨same.trans rests.claims, new, found, ?_⟩
  rcases step.rows.back id new found with ⟨before, was, change⟩ | ⟨absent, _⟩
  · obtain rfl := Option.some.inj (present.symm.trans was)
    exact change.terminal ended (spares.2 old present)
  · rw [present] at absent
    cases absent

/-! ### The queue -/

/-- What the tokens guarantee in a state of the queue. -/
structure Fenced (tokens : Nat → ClaimToken) (system : System) : Prop where
  /-- A row has a token while it runs, and a retry time while it waits for a retry. -/
  consistent : ∀ row ∈ system.works.rows,
    (row.claimToken.isSome ↔ row.state = .running) ∧
      (row.nextAttemptAt.isSome ↔ row.state = .retryWait)
  /-- A completion, failure or cancellation is written for a running row's current token. -/
  presented : ∀ event after worker, Step tokens event system after →
    event.reporter = some worker → after.works ≠ system.works →
      ∃ row token, (system.workers worker).claim = some (row.id, token) ∧
        row ∈ system.works.rows ∧ row.claimToken = some token ∧ row.state = .running
  /-- A running row is taken out of that state by nothing else. -/
  released : ∀ event after row row', Step tokens event system after →
    row ∈ system.works.rows → after.works.find row.id = some row' → row.state = .running →
      row'.state ≠ .running →
        ∃ worker token, event.reporter = some worker ∧
          (system.workers worker).claim = some (row.id, token) ∧ row.claimToken = some token
  /-- A worker whose row was claimed by another writes nothing when it comes back. -/
  superseded : Function.Injective tokens →
    ∀ worker other id token importOnly now after, (system.workers worker).claim = some (id, token) →
      Step tokens (.claim other id importOnly now) system after → after.works ≠ system.works →
        ∀ later event final, Reachable (· = after) (fun _ _ => True) (Step tokens) later →
          (later.workers worker).claim = some (id, token) → event.reporter = some worker →
            Step tokens event later final → final.works = later.works
  /-- A terminal row is not claimed again until a retry resets it. -/
  ended : ∀ row ∈ system.works.rows, row.state.terminal = true →
    ∀ later, Reachable (· = system) (Spares row.id) (Step tokens) later →
      later.claims row.id = system.claims row.id ∧
        ∃ row', later.works.find row.id = some row' ∧ row'.state.terminal = true

/-- The rows are consistent. -/
def System.Consistent (system : System) : Prop :=
  ∀ id row, system.works.find id = some row → (row.control system.journal).Consistent

/-- The rows of every reachable state are consistent. -/
theorem consistent_reachable {allowed : Event → System → Prop}
    (reachable : Reachable System.Initial allowed (Step tokens) system) : system.Consistent := by
  refine reachable.invariant ?_ ?_
  · intro state initial id row found
    have member := Table.mem_of_find found
    rw [initial.1] at member
    cases member
  · intro event state next consistent _ step id new found
    rcases step.rows.back id new found with ⟨old, present, change⟩ | ⟨_, fresh⟩
    · exact change.consistent (consistent id old present)
    · rw [fresh]
      constructor <;> simp

/-- A claim by another worker takes a row from the worker that held it. -/
theorem Drawn.lost (drawn : Drawn tokens system) (distinct : Function.Injective tokens)
    {token : ClaimToken} {now : Timestamp}
    (holds : (system.workers worker).claim = some (id, token))
    (step : Step tokens (.claim other id importOnly now) system after)
    (changed : after.works ≠ system.works) : Lost tokens id token after := by
  have drew := drawn.workers worker id token holds
  refine ⟨drew.mono step.drawn_le, ?_⟩
  simp only [Step, System.apply] at step
  split at step
  · obtain rfl := Option.some.inj step
    have once := System.claim_works_of_ne changed
    unfold System.claim
    simp only [if_pos once]
    intro row found present
    obtain ⟨claimed, there, current, _⟩ :=
      @Works.find_claim _ _ _ _ (tokens system.drawn) now once
    obtain rfl := Option.some.inj (there.symm.trans found)
    exact drew.ne_next distinct (Option.some.inj (present.symm.trans current))
  · cases step

/-- In every run of any number of workers, the claims are fenced by their tokens. -/
theorem claims_fenced (tokens : Nat → ClaimToken) {system : System}
    (reachable : Reachable System.Initial (fun _ _ => True) (Step tokens) system) :
    Fenced tokens system where
  consistent := by
    intro row member
    have consistent := consistent_reachable reachable row.id row (Table.find_key member)
    exact ⟨consistent.token, consistent.next⟩
  presented := by
    intro event after worker step reporter changed
    exact step.presented reporter changed
  released := by
    intro event after row row' step member found running left
    have present := Table.find_key member
    rcases step.rows.back row.id row' found with ⟨old, same, change⟩ | ⟨absent, _⟩
    · obtain rfl := Option.some.inj (present.symm.trans same)
      exact change.released running left
    · rw [present] at absent
      cases absent
  superseded := by
    intro distinct worker other id token importOnly now after holds claim changed later event
      final run presents reporter step
    have lost : Lost tokens id token later := by
      refine run.invariant ?_ ?_
      · rintro state rfl
        exact (Drawn.reachable reachable).lost distinct holds claim changed
      · intro event state next lost _ step
        exact lost.step distinct step
    exact lost.unchanged presents step reporter
  ended := by
    intro row member terminal later run
    have rests : Rests row.id (system.claims row.id) later := by
      refine run.invariant ?_ ?_
      · rintro state rfl
        exact ⟨rfl, row, Table.find_key member, terminal⟩
      · intro event state next rests spares step
        exact rests.step spares step
    exact ⟨rests.claims, rests.terminal⟩

/-- A worker outlives its lease, and another claims its row. -/
def reclaimedRun : List Event :=
  [.enqueue sampleProposal .canonicalRegistered,
    .claim 0 1 false 0,
    .load 0 fun _ => some false,
    .claim 1 1 false claimLease]

/-- A claim that expired is held by another token. -/
theorem claims_fenced_reclaimed :
    ∃ system, Fenced countedTokens system ∧
      (system.workers 0).claim = some (1, countedTokens 0) ∧
      (system.works.find 1).bind StoryArcSyncWork.claimToken = some (countedTokens 1) := by
  have reachable : Reachable System.Initial (fun _ _ => True) (Step countedTokens)
      (systemAfter countedTokens reclaimedRun) :=
    systemAfter_reachable reclaimedRun (fun _ _ _ => trivial) (by decide +kernel)
  refine ⟨_, claims_fenced countedTokens reachable, ?_, ?_⟩
  · decide +kernel
  · decide +kernel

end Pullbox.Sync
