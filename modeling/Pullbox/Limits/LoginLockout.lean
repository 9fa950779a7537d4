import Pullbox.Limits.Login

/-!
# Lockouts

When enough failures of an address lock it out, and that it stays locked out. A run keeps the
failures that a record has counted apart from those that it has not.
-/

namespace Pullbox.Limits

open Durable List

variable {settings : LoginSettings} {limiter : LoginRateLimiter} {ip other : String}
  {now began clock : Seconds} {record : AttemptRecord} {lockedUntil : Seconds}

/-! ### Records after a call -/

namespace LoginRateLimiter

theorem setRecord_same {next : Option AttemptRecord} :
    (limiter.setRecord ip next).records ip = next := by
  simp [setRecord]

theorem setRecord_other {next : Option AttemptRecord} (apart : other ≠ ip) :
    (limiter.setRecord ip next).records other = limiter.records other := by
  simp [setRecord, apart]

/-- Pruning only removes records whose window and lockout are past. -/
theorem cleanup_records :
    (limiter.cleanup settings now).records ip = limiter.records ip ∨
      (limiter.cleanup settings now).records ip = none ∧
        ∀ record, limiter.records ip = some record →
          record.windowExpired settings now = true ∧ record.locked now = false := by
  unfold cleanup
  split
  · exact .inl rfl
  · cases found : limiter.records ip with
    | none => exact .inl (by simp [found])
    | some record =>
      by_cases stale : record.windowExpired settings now = true ∧ record.locked now = false
      · refine .inr ⟨by simp [found, stale], fun other same => ?_⟩
        exact Option.some.inj same ▸ stale
      · refine .inl ?_
        have kept : (!(record.windowExpired settings now && !record.locked now)) = true := by
          cases expired : record.windowExpired settings now <;>
            cases locked : record.locked now <;> simp_all
        simp [found, Option.filter, kept]

/-- A check removes the record whose lockout is past, and no other. -/
theorem checkRateLimit_records :
    (limiter.checkRateLimit settings ip began now).2.records other =
        (limiter.cleanup settings began).records other ∨
      other = ip ∧ (limiter.checkRateLimit settings ip began now).2.records other = none ∧
        ∀ record, (limiter.cleanup settings began).records ip = some record →
          ∃ lockedUntil, record.lockedUntil = some lockedUntil ∧ lockedUntil ≤ now := by
  unfold checkRateLimit
  simp only
  split
  · exact .inl rfl
  · rename_i lockedUntil locked
    split
    · exact .inl rfl
    · rename_i past
      by_cases same : other = ip
      · subst same
        refine .inr ⟨rfl, setRecord_same, fun record found => ⟨lockedUntil, ?_, not_lt.1 past⟩⟩
        rw [found] at locked
        exact locked
      · exact .inl (setRecord_other same)

/-- A check is refused while the record of the address is locked. -/
theorem checkRateLimit_refused (following : began ≤ now)
    (found : limiter.records ip = some record) (locked : record.lockedUntil = some lockedUntil)
    (early : now < lockedUntil) :
    ∃ error, (limiter.checkRateLimit settings ip began now).1 = .error error := by
  have kept : (limiter.cleanup settings began).records ip = some record := by
    rcases cleanup_records with same | ⟨_, stale⟩
    · rw [same, found]
    · obtain ⟨_, unlocked⟩ := stale record found
      rw [AttemptRecord.locked, locked] at unlocked
      exact absurd (following.trans_lt early) (by simpa using unlocked)
  refine ⟨loginRateLimitError (lockedUntil - now), ?_⟩
  simp [checkRateLimit, kept, locked, early]

theorem recordFailure_other (apart : other ≠ ip) :
    (limiter.recordFailure settings ip now).records other = limiter.records other := by
  unfold recordFailure
  split
  · exact setRecord_other apart
  · split
    · exact setRecord_other apart
    · exact setRecord_other apart

/-- The failure starts a new count. -/
def Restarts (settings : LoginSettings) (limiter : LoginRateLimiter) (ip : String)
    (now : Seconds) : Prop :=
  ∀ record, limiter.records ip = some record → record.windowExpired settings now = true

theorem recordFailure_restarts (restarts : Restarts settings limiter ip now) :
    (limiter.recordFailure settings ip now).records ip =
      some { count := 1, windowStart := now } := by
  unfold recordFailure
  split
  · exact setRecord_same
  · rename_i record found
    rw [if_pos (restarts record found)]
    exact setRecord_same

theorem recordFailure_counts (found : limiter.records ip = some record)
    (opened : record.windowExpired settings now = false) :
    (limiter.recordFailure settings ip now).records ip = some (record.fail settings now) := by
  unfold recordFailure
  rw [found]
  simp only
  rw [opened]
  exact setRecord_same

/-- A record is there whose window is open. -/
theorem not_restarts (counts : ¬ Restarts settings limiter ip now) :
    ∃ record, limiter.records ip = some record ∧ record.windowExpired settings now = false := by
  unfold Restarts at counts
  push Not at counts
  obtain ⟨record, found, opened⟩ := counts
  exact ⟨record, found, Bool.eq_false_iff.2 opened⟩

/-- What a call does to the record of an address and to its failures. -/
inductive RecordStep (settings : LoginSettings) (limiter later : LoginRateLimiter) (ip : String)
    (clears : Prop) (clock : Seconds) (failures : List Seconds) : List Seconds → Prop where
  | kept (same : later.records ip = limiter.records ip) :
      RecordStep settings limiter later ip clears clock failures failures
  /-- Pruned, or found unlocked by a check. -/
  | dropped (none : later.records ip = none)
      (ended : ∀ record lockedUntil, limiter.records ip = some record →
        record.lockedUntil = some lockedUntil → lockedUntil ≤ clock) :
      RecordStep settings limiter later ip clears clock failures failures
  | cleared (clear : clears) (none : later.records ip = none) :
      RecordStep settings limiter later ip clears clock failures []
  | restarted (restarts : Restarts settings limiter ip clock)
      (counted : later.records ip = some { count := 1, windowStart := clock }) :
      RecordStep settings limiter later ip clears clock failures (clock :: failures)
  | counted {record : AttemptRecord} (found : limiter.records ip = some record)
      (opened : record.windowExpired settings clock = false)
      (counted : later.records ip = some (record.fail settings clock)) :
      RecordStep settings limiter later ip clears clock failures (clock :: failures)

/-- The record of an address after a check, of its own or of another. -/
theorem checkRateLimit_step (following : began ≤ now) {failures : List Seconds}
    {clears : Prop} :
    RecordStep settings limiter (limiter.checkRateLimit settings ip began now).2 other clears now
      failures failures := by
  have pruned : ∀ record lockedUntil, (limiter.cleanup settings began).records other = none →
      limiter.records other = some record → record.lockedUntil = some lockedUntil →
        lockedUntil ≤ now := by
    intro record lockedUntil none found locked
    rcases cleanup_records with same | ⟨_, stale⟩
    · rw [same, found] at none
      cases none
    · obtain ⟨_, unlocked⟩ := stale record found
      rw [AttemptRecord.locked, locked] at unlocked
      exact le_trans (by simpa using unlocked) following
  have checked : (limiter.checkRateLimit settings ip began now).2.records other = _ ∨ _ :=
    checkRateLimit_records
  rcases checked with same | ⟨rfl, none, past⟩
  · rcases cleanup_records with kept | ⟨none, _⟩
    · exact .kept (same.trans kept)
    · exact .dropped (same.trans none) fun record lockedUntil => pruned record lockedUntil none
  · refine .dropped none fun record lockedUntil found locked => ?_
    cases kept : (limiter.cleanup settings began).records other with
    | none => exact pruned record lockedUntil kept found locked
    | some record' =>
      have same : record' = record := by
        rcases cleanup_records with same | ⟨gone, _⟩
        · exact Option.some.inj ((kept.symm.trans same).trans found)
        · rw [gone] at kept
          cases kept
      subst same
      obtain ⟨_, lockedToo, ended⟩ := past record' kept
      rw [locked] at lockedToo
      exact Option.some.inj lockedToo ▸ ended

theorem after_step {call : LoginCall} (follows : call.Follows clock)
    {history : List LoginEntry} :
    RecordStep settings limiter (limiter.after settings ip call) other
      (ip = other ∧ (call = .success ∨ call = .reset)) (call.clock clock) (failuresOf other history) (failuresOf other (call.entries ip ++ history)) := by
  cases call with
  | check began now => exact checkRateLimit_step follows.2
  | failure now =>
    by_cases same : ip = other
    · subst same
      have failures : failuresOf ip ((LoginCall.failure now).entries ip ++ history) =
          now :: failuresOf ip history := by
        simp [LoginCall.entries, failuresOf]
      rw [failures]
      by_cases restarts : Restarts settings limiter ip now
      · exact .restarted restarts (recordFailure_restarts restarts)
      · obtain ⟨record, found, opened⟩ := not_restarts restarts
        exact .counted found opened (recordFailure_counts found opened)
    · have failures : failuresOf other ((LoginCall.failure now).entries ip ++ history) =
          failuresOf other history := by
        simp [LoginCall.entries, failuresOf, same]
      rw [failures]
      exact .kept (recordFailure_other fun back => same back.symm)
  | success =>
    by_cases same : ip = other
    · subst same
      have failures : failuresOf ip (.cleared ip :: history) = [] := by simp [failuresOf]
      exact failures ▸ .cleared ⟨rfl, .inl rfl⟩ setRecord_same
    · have failures : failuresOf other (.cleared ip :: history) = failuresOf other history := by
        simp [failuresOf, same]
      exact failures ▸ .kept (setRecord_other fun back => same back.symm)
  | reset =>
    by_cases same : ip = other
    · subst same
      have failures : failuresOf ip (.cleared ip :: history) = [] := by simp [failuresOf]
      exact failures ▸ .cleared ⟨rfl, .inr rfl⟩ setRecord_same
    · have failures : failuresOf other (.cleared ip :: history) = failuresOf other history := by
        simp [failuresOf, same]
      exact failures ▸ .kept (setRecord_other fun back => same back.symm)

/-- The address is locked until some time, or that time is past. -/
def LockedFor (limiter : LoginRateLimiter) (clock : Seconds) (ip : String)
    (lockedUntil : Seconds) : Prop :=
  lockedUntil ≤ clock ∨ ∃ record later, limiter.records ip = some record ∧
    record.lockedUntil = some later ∧ lockedUntil ≤ later

/-- Among some failures, the newest is the last of enough of them in one window. -/
def Exhausts (settings : LoginSettings) (now : Seconds) (earlier : List Seconds) : Prop :=
  settings.maxAttempts ≤
    (now :: earlier).countP fun time => decide (now - time ≤ settings.windowSeconds)

/-- What the record of an address says about its failures. -/
structure Tracked (settings : LoginSettings) (limiter : LoginRateLimiter) (clock : Seconds)
    (ip : String) (failures : List Seconds) : Prop where
  past : ∀ time ∈ failures, time ≤ clock
  /-- The failures that a record has not counted are too old for its window. -/
  counts : ∀ record, limiter.records ip = some record → ∃ newer older,
    failures = newer ++ older ∧ newer.length = record.count ∧ record.windowStart ≤ clock ∧
      ∀ time ∈ older, settings.windowSeconds < record.windowStart - time
  lockouts : ∀ record lockedUntil, limiter.records ip = some record →
    record.lockedUntil = some lockedUntil → lockedUntil ≤ clock + settings.lockoutSeconds
  locks : ∀ time earlier, (time :: earlier) <:+ failures → Exhausts settings time earlier →
    LockedFor limiter clock ip (time + settings.lockoutSeconds)

/-- A new count starts only where no failure is lost by it. -/
def StartsApart (settings : LoginSettings) (limiter : LoginRateLimiter) (ip : String)
    (now : Seconds) (failures : List Seconds) : Prop :=
  Restarts settings limiter ip now →
    2 ≤ settings.maxAttempts ∧ (∀ time ∈ failures, settings.windowSeconds < now - time) ∧
      ∀ record lockedUntil, limiter.records ip = some record →
        record.lockedUntil = some lockedUntil → lockedUntil ≤ now

variable {later : LoginRateLimiter} {clears : Prop} {next : Seconds}
  {failures laterFailures : List Seconds}

/-- An address that is locked stays so until it is cleared. -/
theorem RecordStep.lockedFor
    (step : RecordStep settings limiter later ip clears next failures laterFailures)
    (tracked : Tracked settings limiter clock ip failures) (forward : clock ≤ next)
    (uncleared : clears → laterFailures ≠ [])
    (apart : laterFailures = next :: failures → StartsApart settings limiter ip next failures)
    (locked : LockedFor limiter clock ip lockedUntil) :
    LockedFor later next ip lockedUntil := by
  rcases locked with past | ⟨record, until', found, lockedRecord, covered⟩
  · exact .inl (past.trans forward)
  cases step with
  | kept same => exact .inr ⟨record, until', same.trans found, lockedRecord, covered⟩
  | dropped none ended => exact .inl (covered.trans (ended record until' found lockedRecord))
  | cleared clear none => exact absurd rfl (uncleared clear)
  | restarted restarts counted =>
    exact .inl (covered.trans ((apart rfl restarts).2.2 record until' found lockedRecord))
  | @counted other otherFound opened counted =>
    have same : other = record := Option.some.inj (otherFound.symm.trans found)
    subst same
    by_cases full : settings.maxAttempts ≤ other.count + 1
    · refine .inr ⟨_, next + settings.lockoutSeconds, counted, ?_, ?_⟩
      · simp [AttemptRecord.fail, full]
      · have bounded := tracked.lockouts other until' found lockedRecord
        exact covered.trans (bounded.trans (by linarith))
    · refine .inr ⟨_, until', counted, ?_, covered⟩
      simp [AttemptRecord.fail, full, lockedRecord]

theorem countP_le_newer {record : AttemptRecord} {newer older : List Seconds}
    (length : newer.length = record.count) (start : record.windowStart ≤ next)
    (old : ∀ time ∈ older, settings.windowSeconds < record.windowStart - time) :
    (newer ++ older).countP (fun time => decide (next - time ≤ settings.windowSeconds)) ≤
      record.count := by
  have none : older.countP (fun time => decide (next - time ≤ settings.windowSeconds)) = 0 := by
    rw [countP_eq_zero]
    intro time inside recent
    have early := old time inside
    have near : next - time ≤ settings.windowSeconds := of_decide_eq_true recent
    linarith
  rw [countP_append, none, Nat.add_zero, ← length]
  exact countP_le_length

theorem RecordStep.past
    (step : RecordStep settings limiter later ip clears next failures laterFailures)
    (past : ∀ time ∈ failures, time ≤ clock) (forward : clock ≤ next) :
    ∀ time ∈ laterFailures, time ≤ next := by
  have kept : ∀ time ∈ failures, time ≤ next := fun time inside =>
    (past time inside).trans forward
  have added : ∀ time ∈ next :: failures, time ≤ next := by
    intro time inside
    rcases mem_cons.1 inside with rfl | old
    · exact le_rfl
    · exact kept time old
  cases step with
  | kept | dropped => exact kept
  | cleared clear none =>
    intro time inside
    cases inside
  | restarted | counted => exact added

/-- The failures of a record are counted, and a lockout lasts as long as it should. -/
theorem RecordStep.tracked
    (step : RecordStep settings limiter later ip clears next failures laterFailures)
    (tracked : Tracked settings limiter clock ip failures) (forward : clock ≤ next)
    (apart : laterFailures = next :: failures → StartsApart settings limiter ip next failures) :
    Tracked settings later next ip laterFailures where
  past := step.past tracked.past forward
  counts := by
    intro record found
    cases step with
    | kept same =>
      obtain ⟨newer, older, whole, length, start, old⟩ :=
        tracked.counts record (same.symm.trans found)
      exact ⟨newer, older, whole, length, start.trans forward, old⟩
    | dropped none ended =>
      rw [none] at found
      cases found
    | cleared clear none =>
      rw [none] at found
      cases found
    | restarted restarts counted =>
      rw [counted] at found
      cases found
      exact ⟨[next], failures, rfl, rfl, le_rfl, (apart rfl restarts).2.1⟩
    | @counted other otherFound opened counted =>
      rw [counted] at found
      cases found
      obtain ⟨newer, older, whole, length, start, old⟩ := tracked.counts other otherFound
      refine ⟨next :: newer, older, ?_, ?_, start.trans forward, old⟩
      · rw [whole, cons_append]
      · simp [AttemptRecord.fail, length]
  lockouts := by
    intro record lockedUntil found locked
    cases step with
    | kept same =>
      have bounded := tracked.lockouts record lockedUntil (same.symm.trans found) locked
      linarith
    | dropped none ended =>
      rw [none] at found
      cases found
    | cleared clear none =>
      rw [none] at found
      cases found
    | restarted restarts counted =>
      rw [counted] at found
      cases found
      cases locked
    | @counted other otherFound opened counted =>
      rw [counted] at found
      cases found
      simp only [AttemptRecord.fail] at locked
      split at locked
      · cases locked
        exact le_rfl
      · have bounded := tracked.lockouts other lockedUntil otherFound locked
        linarith
  locks := by
    intro time earlier suffix exhausts
    have nonempty : laterFailures ≠ [] := fun empty => by
      rw [empty] at suffix
      cases suffix_nil.1 suffix
    have lasting : (time :: earlier) <:+ failures →
        LockedFor later next ip (time + settings.lockoutSeconds) := fun old =>
      step.lockedFor tracked forward (fun _ => nonempty) apart
        (tracked.locks time earlier old exhausts)
    cases step with
    | kept | dropped => exact lasting suffix
    | cleared => exact absurd rfl nonempty
    | restarted restarts counted =>
      rcases suffix_cons_iff.1 suffix with whole | old
      · cases whole
        obtain ⟨several, distant, _⟩ := apart rfl restarts
        have none : failures.countP
            (fun time => decide (next - time ≤ settings.windowSeconds)) = 0 := by
          rw [countP_eq_zero]
          intro time inside recent
          exact absurd (of_decide_eq_true recent) (not_le.2 (distant time inside))
        rw [Exhausts, countP_cons, none] at exhausts
        split at exhausts <;> omega
      · exact lasting old
    | @counted record found opened counted =>
      rcases suffix_cons_iff.1 suffix with whole | old
      · cases whole
        obtain ⟨newer, older, whole, length, start, old⟩ := tracked.counts record found
        have few := countP_le_newer length (start.trans forward) old
        rw [← whole] at few
        have full : settings.maxAttempts ≤ record.count + 1 := by
          rw [Exhausts, countP_cons] at exhausts
          split at exhausts <;> omega
        refine .inr ⟨_, next + settings.lockoutSeconds, counted, ?_, le_rfl⟩
        simp [AttemptRecord.fail, full]
      · exact lasting old

end LoginRateLimiter

/-! ### Runs -/

namespace LoginTrace

open LoginRateLimiter

/-- The call does not start a new count past a failure, or past a lockout, that still counts. -/
def Apart (settings : LoginSettings) (event : LoginEvent) (trace : LoginTrace) : Prop :=
  match event.call with
  | .failure now =>
    StartsApart settings trace.limiter event.ip now (failuresOf event.ip trace.history)
  | _ => True

instance (limiter : LoginRateLimiter) (now : Seconds) :
    Decidable (Restarts settings limiter ip now) :=
  decidable_of_iff (∀ record ∈ limiter.records ip, record.windowExpired settings now = true)
    Iff.rfl

instance (limiter : LoginRateLimiter) (now : Seconds) (failures : List Seconds) :
    Decidable (StartsApart settings limiter ip now failures) :=
  decidable_of_iff
    (Restarts settings limiter ip now →
      2 ≤ settings.maxAttempts ∧ (∀ time ∈ failures, settings.windowSeconds < now - time) ∧
        ∀ record ∈ limiter.records ip, ∀ lockedUntil ∈ record.lockedUntil, lockedUntil ≤ now)
    ⟨fun apart restarts => ⟨(apart restarts).1, (apart restarts).2.1, fun record lockedUntil found =>
        (apart restarts).2.2 record found lockedUntil⟩,
      fun apart restarts => ⟨(apart restarts).1, (apart restarts).2.1, fun record found lockedUntil =>
        (apart restarts).2.2 record lockedUntil found⟩⟩

instance (event : LoginEvent) (trace : LoginTrace) : Decidable (Apart settings event trace) := by
  unfold Apart
  split <;> infer_instance

/-- The call clears the failures of an address. -/
def Clears (event : LoginEvent) (ip : String) : Prop :=
  event.ip = ip ∧ (event.call = .success ∨ event.call = .reset)

variable {trace after : LoginTrace} {event : LoginEvent}

theorem step_follows (step : LoginStep settings event trace after) :
    event.call.Follows trace.clock ∧
      after =
        { limiter := trace.limiter.after settings event.ip event.call
          clock := event.call.clock trace.clock
          history := event.call.entries event.ip ++ trace.history } := by
  obtain ⟨follows, same⟩ := Option.ite_none_right_eq_some.1 step
  exact ⟨follows, (Option.some.inj same).symm⟩

theorem step_forward (step : LoginStep settings event trace after) :
    trace.clock ≤ after.clock := by
  obtain ⟨follows, rfl⟩ := step_follows step
  cases call : event.call with
  | check began now =>
    rw [call] at follows
    exact follows.1.trans follows.2
  | failure now =>
    rw [call] at follows
    exact follows
  | success | reset => exact le_rfl

theorem step_record (step : LoginStep settings event trace after) (ip : String) :
    RecordStep settings trace.limiter after.limiter ip (Clears event ip) after.clock
      (failuresOf ip trace.history) (failuresOf ip after.history) := by
  obtain ⟨follows, rfl⟩ := step_follows step
  exact after_step follows

/-- Only a failure of the address adds one to its failures. -/
theorem step_apart (step : LoginStep settings event trace after)
    (apart : Apart settings event trace) (ip : String)
    (added : failuresOf ip after.history = after.clock :: failuresOf ip trace.history) :
    StartsApart settings trace.limiter ip after.clock (failuresOf ip trace.history) := by
  obtain ⟨follows, rfl⟩ := step_follows step
  obtain ⟨own, call⟩ := event
  have longer := congrArg List.length added
  rw [length_cons] at longer
  by_cases same : own = ip
  · subst same
    cases call with
    | failure now => exact apart
    | check began now => simp [LoginCall.entries] at longer
    | success | reset => simp [LoginCall.entries, failuresOf] at longer
  · cases call <;> simp [LoginCall.entries, failuresOf, same] at longer

/-- What the records of all addresses say. -/
def Tracks (settings : LoginSettings) (trace : LoginTrace) : Prop :=
  ∀ ip, Tracked settings trace.limiter trace.clock ip (failuresOf ip trace.history)

theorem initial_tracks (initial : trace.Initial) : Tracks settings trace := by
  obtain ⟨fresh, empty⟩ := initial
  intro ip
  have none : trace.limiter.records ip = none := by
    rw [fresh]
    rfl
  rw [empty]
  refine ⟨fun time inside => ?_, fun record found => ?_, fun record lockedUntil found => ?_, ?_⟩
  · cases inside
  · rw [none] at found
    cases found
  · rw [none] at found
    cases found
  · intro time earlier suffix
    cases suffix_nil.1 suffix

theorem step_tracks (tracks : Tracks settings trace) (apart : Apart settings event trace)
    (step : LoginStep settings event trace after) : Tracks settings after := fun ip =>
  (step_record step ip).tracked (tracks ip) (step_forward step) (step_apart step apart ip)

theorem run_tracks (run : Reachable Initial (Apart settings) (LoginStep settings) trace) :
    Tracks settings trace := by
  refine run.invariant (fun _ => initial_tracks) ?_
  intro event before next tracks apart step
  exact step_tracks tracks apart step

theorem refused_of_lockedFor (locked : LockedFor trace.limiter trace.clock ip lockedUntil) :
    trace.Refused settings ip lockedUntil := by
  intro began now started following early
  rcases locked with past | ⟨record, later, found, lockedRecord, covered⟩
  · exact absurd (past.trans (started.trans following)) (not_le.2 early)
  · exact checkRateLimit_refused following found lockedRecord (early.trans_le covered)

/-- Enough failures of an address lock it out, and it stays locked out. -/
structure Locks (settings : LoginSettings) (trace : LoginTrace) : Prop where
  reached : ∀ ip time earlier, (time :: earlier) <:+ failuresOf ip trace.history →
    Exhausts settings time earlier → trace.Refused settings ip (time + settings.lockoutSeconds)
  stays : ∀ ip record lockedUntil, trace.limiter.records ip = some record →
    record.lockedUntil = some lockedUntil → ∀ later,
      Reachable (· = trace) (fun event trace => Apart settings event trace ∧ ¬ Clears event ip)
        (LoginStep settings) later → later.Refused settings ip lockedUntil

/-- A lockout of an address, in the runs that do not clear it. -/
structure Remains (settings : LoginSettings) (ip : String) (lockedUntil : Seconds)
    (trace : LoginTrace) : Prop where
  tracks : Tracks settings trace
  locked : LockedFor trace.limiter trace.clock ip lockedUntil

theorem step_remains (remains : Remains settings ip lockedUntil trace)
    (apart : Apart settings event trace) (uncleared : ¬ Clears event ip)
    (step : LoginStep settings event trace after) : Remains settings ip lockedUntil after where
  tracks := step_tracks remains.tracks apart step
  locked :=
    (step_record step ip).lockedFor (remains.tracks ip) (step_forward step)
      (fun clears => absurd clears uncleared) (step_apart step apart ip) remains.locked

/-- In every run an address is locked out as long as it should be. -/
theorem run_locks (run : Reachable Initial (Apart settings) (LoginStep settings) trace) :
    Locks settings trace := by
  have tracks := run_tracks run
  constructor
  · intro ip time earlier suffix exhausts
    exact refused_of_lockedFor ((tracks ip).locks time earlier suffix exhausts)
  · intro ip record lockedUntil found locked later onward
    have remains : Remains settings ip lockedUntil later := by
      refine onward.invariant ?_ ?_
      · rintro _ rfl
        exact ⟨tracks, .inr ⟨record, lockedUntil, found, locked, le_rfl⟩⟩
      · rintro event before next remains ⟨apart, uncleared⟩ step
        exact step_remains remains apart uncleared step
    exact refused_of_lockedFor remains.locked

end LoginTrace

/-! ### Other addresses -/

/-- There is no record, or its window and its lockout are past. -/
def Stale (settings : LoginSettings) (clock : Seconds) (record : Option AttemptRecord) : Prop :=
  ∀ found, record = some found →
    found.windowExpired settings clock = true ∧ found.locked clock = false

/-- Two records of an address that no later call tells apart. -/
def Alike (settings : LoginSettings) (clock : Seconds) (first second : Option AttemptRecord) :
    Prop :=
  first = second ∨ Stale settings clock first ∧ Stale settings clock second

theorem stale_none : Stale settings clock none := by
  intro record found
  cases found

theorem Stale.mono {first : Option AttemptRecord} (stale : Stale settings clock first)
    (forward : clock ≤ now) : Stale settings now first := by
  intro record found
  obtain ⟨expired, unlocked⟩ := stale record found
  have early : settings.windowSeconds < clock - record.windowStart := of_decide_eq_true expired
  refine ⟨decide_eq_true (by linarith), ?_⟩
  unfold AttemptRecord.locked at unlocked ⊢
  cases locked : record.lockedUntil with
  | none => rfl
  | some lockedUntil =>
    rw [locked] at unlocked
    have past : lockedUntil ≤ clock := by simpa using unlocked
    simpa using past.trans forward

namespace Alike

variable {first second third : Option AttemptRecord}

theorem symm (alike : Alike settings clock first second) : Alike settings clock second first := by
  rcases alike with same | ⟨stale, staleToo⟩
  · exact .inl same.symm
  · exact .inr ⟨staleToo, stale⟩

theorem trans (alike : Alike settings clock first second)
    (next : Alike settings clock second third) : Alike settings clock first third := by
  rcases alike with rfl | ⟨stale, middle⟩
  · exact next
  · rcases next with rfl | ⟨_, last⟩
    · exact .inr ⟨stale, middle⟩
    · exact .inr ⟨stale, last⟩

theorem mono (alike : Alike settings clock first second) (forward : clock ≤ now) :
    Alike settings now first second := by
  rcases alike with rfl | ⟨stale, staleToo⟩
  · exact .inl rfl
  · exact .inr ⟨stale.mono forward, staleToo.mono forward⟩

end Alike

namespace LoginRateLimiter

/-- The answer to a check. -/
def answer (settings : LoginSettings) (limiter : LoginRateLimiter) (event : LoginEvent) :
    Option (Except LoginRateLimitError Unit) :=
  match event.call with
  | .check began now => some (limiter.checkRateLimit settings event.ip began now).1
  | _ => none

/-- The answers to the checks of an address, in their order. -/
def answers (settings : LoginSettings) (ip : String) :
    LoginRateLimiter → List LoginEvent → List (Option (Except LoginRateLimitError Unit))
  | _, [] => []
  | limiter, event :: rest =>
    let later := answers settings ip (limiter.after settings event.ip event.call) rest
    if event.ip = ip then limiter.answer settings event :: later else later

end LoginRateLimiter

namespace LoginRateLimiter

variable {first second : LoginRateLimiter}

theorem cleanup_alike :
    Alike settings now ((limiter.cleanup settings now).records ip) (limiter.records ip) := by
  rcases cleanup_records with same | ⟨none, stale⟩
  · exact .inl same
  · rw [none]
    exact .inr ⟨stale_none, stale⟩

/-- A failure does the same to records that are alike. -/
theorem recordFailure_alike (alike : Alike settings now (first.records ip) (second.records ip)) :
    (first.recordFailure settings ip now).records ip =
      (second.recordFailure settings ip now).records ip := by
  rcases alike with same | ⟨stale, staleToo⟩
  · by_cases restarts : Restarts settings first ip now
    · rw [recordFailure_restarts restarts, recordFailure_restarts]
      exact fun record found => restarts record (same.trans found)
    · obtain ⟨record, found, opened⟩ := not_restarts restarts
      rw [recordFailure_counts found opened, recordFailure_counts (same.symm.trans found) opened]
  · rw [recordFailure_restarts fun record found => (stale record found).1,
      recordFailure_restarts fun record found => (staleToo record found).1]

/-- A record that is stale does not refuse a check, and is stale after it. -/
theorem checkRateLimit_stale (following : began ≤ now)
    (cleaned : Stale settings began ((limiter.cleanup settings began).records ip)) :
    (limiter.checkRateLimit settings ip began now).1 = .ok () ∧
      Stale settings now ((limiter.checkRateLimit settings ip began now).2.records ip) := by
  unfold checkRateLimit
  simp only
  split
  · exact ⟨rfl, cleaned.mono following⟩
  · rename_i lockedUntil locked
    obtain ⟨record, found, lockedRecord⟩ := Option.bind_eq_some_iff.1 locked
    have unlocked := (cleaned record found).2
    rw [AttemptRecord.locked, lockedRecord] at unlocked
    have past : lockedUntil ≤ began := by simpa using unlocked
    rw [if_neg (not_lt.2 (past.trans following))]
    refine ⟨rfl, ?_⟩
    simp only [setRecord_same]
    exact stale_none

/-- Checks of records that are alike are answered alike. -/
theorem checkRateLimit_alike (following : began ≤ now)
    (alike : Alike settings began (first.records ip) (second.records ip)) :
    (first.checkRateLimit settings ip began now).1 =
        (second.checkRateLimit settings ip began now).1 ∧
      Alike settings now ((first.checkRateLimit settings ip began now).2.records ip)
        ((second.checkRateLimit settings ip began now).2.records ip) := by
  have cleaned : Alike settings began ((first.cleanup settings began).records ip)
      ((second.cleanup settings began).records ip) :=
    (cleanup_alike.trans alike).trans cleanup_alike.symm
  rcases cleaned with same | ⟨stale, staleToo⟩
  · cases locked : ((first.cleanup settings began).records ip).bind AttemptRecord.lockedUntil with
    | none =>
      have lockedToo := locked
      rw [same] at lockedToo
      simp only [checkRateLimit, locked, lockedToo]
      exact ⟨trivial, .inl same⟩
    | some lockedUntil =>
      have lockedToo := locked
      rw [same] at lockedToo
      simp only [checkRateLimit, locked, lockedToo]
      split
      · exact ⟨rfl, .inl same⟩
      · refine ⟨rfl, .inl ?_⟩
        rw [setRecord_same, setRecord_same]
  · obtain ⟨answered, after⟩ := checkRateLimit_stale following stale
    obtain ⟨answeredToo, afterToo⟩ := checkRateLimit_stale following staleToo
    exact ⟨answered.trans answeredToo.symm, .inr ⟨after, afterToo⟩⟩

/-- A call of another address leaves a record that is like the one before. -/
theorem after_other {call : LoginCall} (follows : call.Follows clock) (apart : other ≠ ip) :
    Alike settings (call.clock clock) ((limiter.after settings other call).records ip)
      (limiter.records ip) := by
  have back : ip ≠ other := fun same => apart same.symm
  cases call with
  | check began now =>
    have checked : (limiter.checkRateLimit settings other began now).2.records ip = _ ∨ _ :=
      checkRateLimit_records
    rcases checked with same | ⟨same, _⟩
    · have alike : Alike settings began ((limiter.cleanup settings began).records ip)
          (limiter.records ip) := cleanup_alike
      rw [← same] at alike
      exact alike.mono follows.2
    · exact absurd same back
  | failure now => exact .inl (recordFailure_other back)
  | success | reset => exact .inl (setRecord_other back)

/-- A call of the address itself is answered alike, and leaves records that are alike. -/
theorem after_own {event : LoginEvent} (named : event.ip = ip)
    (follows : event.call.Follows clock)
    (alike : Alike settings clock (first.records ip) (second.records ip)) :
    first.answer settings event = second.answer settings event ∧
      Alike settings (event.call.clock clock)
        ((first.after settings event.ip event.call).records ip)
        ((second.after settings event.ip event.call).records ip) := by
  subst named
  obtain ⟨own, call⟩ := event
  cases call with
  | check began now =>
    obtain ⟨answered, after⟩ := checkRateLimit_alike follows.2 (alike.mono follows.1)
    exact ⟨congrArg some answered, after⟩
  | failure now => exact ⟨rfl, .inl (recordFailure_alike (alike.mono follows))⟩
  | success | reset => exact ⟨rfl, .inl (setRecord_same.trans setRecord_same.symm)⟩

end LoginRateLimiter

/-- The clock readings of the calls, in their order. -/
def InOrder : Seconds → List LoginEvent → Prop
  | _, [] => True
  | clock, event :: rest => event.call.Follows clock ∧ InOrder (event.call.clock clock) rest

/-- The calls of other addresses change no answer to an address. -/
theorem answers_of_alike {events : List LoginEvent} {first second : LoginRateLimiter}
    (alike : Alike settings clock (first.records ip) (second.records ip))
    (ordered : InOrder clock events) :
    first.answers settings ip events =
      second.answers settings ip (events.filter fun event => decide (event.ip = ip)) := by
  induction events generalizing first second clock with
  | nil => rfl
  | cons event rest ih =>
    obtain ⟨follows, later⟩ := ordered
    by_cases named : event.ip = ip
    · obtain ⟨answered, after⟩ := LoginRateLimiter.after_own named follows alike
      rw [filter_cons_of_pos (by simp [named])]
      simp only [LoginRateLimiter.answers, if_pos named]
      rw [answered, ih after later]
    · have moved : Alike settings (event.call.clock clock)
          ((first.after settings event.ip event.call).records ip) (first.records ip) :=
        LoginRateLimiter.after_other follows named
      rw [filter_cons_of_neg (by simp [named])]
      simp only [LoginRateLimiter.answers, if_neg named]
      have forward : clock ≤ event.call.clock clock := by
        cases call : event.call with
        | check began now =>
          rw [call] at follows
          exact follows.1.trans follows.2
        | failure now =>
          rw [call] at follows
          exact follows
        | success | reset => exact le_rfl
      exact ih (moved.trans (alike.mono forward)) later

/-- As long as no failure starts a new count past an earlier failure or a lockout that still
counts, enough failures of an address in one window lock it out until the lockout ends; and the
calls of other addresses never change an answer. -/
theorem login_lockout :
    (∀ trace, Reachable LoginTrace.Initial (LoginTrace.Apart settings) (LoginStep settings) trace →
      trace.Locks settings) ∧
    ∀ ip start events, InOrder start events →
      (LoginRateLimiter.fresh start).answers settings ip events =
        (LoginRateLimiter.fresh start).answers settings ip
          (events.filter fun event => decide (event.ip = ip)) :=
  ⟨fun _ => LoginTrace.run_locks, fun _ _ _ => answers_of_alike (.inl rfl)⟩

/-- The trace of a new limiter after some events, if the clock allows them. -/
def loginTraceAfter (settings : LoginSettings) (events : List LoginEvent) : Option LoginTrace :=
  events.foldlM (LoginTrace.apply settings)
    { limiter := .fresh 0, clock := 0, history := [] }

theorem loginTraceAfter_reachable {allowed : LoginEvent → LoginTrace → Prop} {trace : LoginTrace}
    {events : List LoginEvent} (free : ∀ event ∈ events, ∀ trace, allowed event trace)
    (ran : loginTraceAfter settings events = some trace) :
    Reachable LoginTrace.Initial allowed (LoginStep settings) trace :=
  Reachable.run (.start ⟨rfl, rfl⟩) free ran

/-- Six failures of one address, the last five of them in twenty-two seconds. -/
def restartedRun : List LoginEvent :=
  [0, 280, 290, 299, 301, 302].map fun now => { ip := "192.0.2.1", call := .failure now }

/-- Five failures within the window that the restarted count does not see. -/
theorem restarted_admitted :
    ∃ trace, Reachable LoginTrace.Initial (fun _ _ => True) (LoginStep {}) trace ∧
      ¬ trace.Locks {} := by
  have ran : (loginTraceAfter {} restartedRun).isSome := by decide +kernel
  obtain ⟨trace, after⟩ := Option.isSome_iff_exists.1 ran
  refine ⟨trace, loginTraceAfter_reachable (fun _ _ _ => trivial) after, fun locks => ?_⟩
  have facts : (loginTraceAfter {} restartedRun).all (fun trace =>
      decide (failuresOf "192.0.2.1" trace.history = [302, 301, 299, 290, 280, 0]) &&
        decide (trace.clock = 302) &&
        decide ((trace.limiter.checkRateLimit {} "192.0.2.1" 303 303).1 = .ok ())) = true := by
    decide +kernel
  rw [after] at facts
  simp only [Option.all_some, Bool.and_eq_true, decide_eq_true_eq] at facts
  obtain ⟨⟨failures, clock⟩, admitted⟩ := facts
  have exhausts : LoginRateLimiter.Exhausts {} 302 [301, 299, 290, 280, 0] := by
    unfold LoginRateLimiter.Exhausts
    decide +kernel
  have suffix : [302, 301, 299, 290, 280, 0] <:+ failuresOf "192.0.2.1" trace.history :=
    ⟨[], failures.symm⟩
  obtain ⟨error, refused⟩ := locks.reached "192.0.2.1" 302 _ suffix exhausts 303 303
    (by rw [clock]; norm_num) le_rfl (by norm_num)
  rw [admitted] at refused
  cases refused

/-- Five failures in a row. -/
def lockedRun : List LoginEvent :=
  [0, 1, 2, 3, 4].map fun now => { ip := "192.0.2.1", call := .failure now }

/-- Five failures in a row lock the address. -/
theorem login_lockout_locked :
    ∃ trace, loginTraceAfter {} lockedRun = some trace ∧ trace.Locks {} ∧
      failuresOf "192.0.2.1" trace.history = [4, 3, 2, 1, 0] := by
  have checked : (lockedRun.foldlM (fun trace event =>
      if LoginTrace.Apart {} event trace then trace.apply {} event else none)
      { limiter := .fresh 0, clock := 0, history := [] }).isSome := by
    decide +kernel
  obtain ⟨trace, ran⟩ := Option.isSome_iff_exists.1 checked
  have unchecked : loginTraceAfter {} lockedRun = some trace := Reachable.foldlM_of_checked ran
  have failures : (loginTraceAfter {} lockedRun).all (fun trace =>
      decide (failuresOf "192.0.2.1" trace.history = [4, 3, 2, 1, 0])) = true := by
    decide +kernel
  rw [unchecked] at failures
  exact ⟨trace, unchecked, login_lockout.1 trace (Reachable.run_checked (.start ⟨rfl, rfl⟩) ran),
    of_decide_eq_true failures⟩

end Pullbox.Limits
