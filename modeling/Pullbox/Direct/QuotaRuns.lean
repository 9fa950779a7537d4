import Pullbox.Direct.Quota
import Pullbox.Durable.Reachable

/-!
# Runs of the quota policy

Observations of the quota, quota-limited errors and checks come in any order, with a clock that
does not run backwards. The trace keeps when the last quota-limited error was, whether an
observation has shown remaining quota since, and the reset times that the status has named.
-/

namespace Pullbox.Direct

open Option

/-- `refresh` is the check of a search, `available` that of an automatic download. -/
inductive QuotaEvent where
  | observe (quota : DirectQuotaStatus) (observed : Int)
  | quotaLimited (observed : Int) (retryAfterSeconds : Option Int)
  | refresh (now : Int)
  | available (now : Int)

/-- The reading of the clock that an event takes. -/
def QuotaEvent.at : QuotaEvent → Int
  | .observe _ now | .quotaLimited now _ | .refresh now | .available now => now

/-- A provider along a run, with what was stored. -/
structure QuotaTrace where
  provider : DirectProviderConfig
  clock : Int
  limitedAt : Option Int := none
  shown : Bool := false
  resets : List Int := []

namespace DirectProviderConfig

/-- The row of the provider after an event. -/
def after (provider : DirectProviderConfig) : QuotaEvent → DirectProviderConfig
  | .observe quota observed => provider.recordProviderQuota quota observed
  | .quotaLimited observed retryAfterSeconds =>
    provider.recordProviderResolutionError "source_quota_limited" observed retryAfterSeconds
  | .refresh now => (provider.refreshExpiredProviderQuota now).1
  | .available _ => provider

end DirectProviderConfig

namespace QuotaTrace

def Initial (trace : QuotaTrace) : Prop :=
  trace.provider.state ≠ .rateLimited ∧ trace.limitedAt = none

/-- The trace after an event. -/
def advance (trace : QuotaTrace) (event : QuotaEvent) : QuotaTrace where
  provider := trace.provider.after event
  clock := event.at
  limitedAt := match event with
    | .quotaLimited observed _ => some observed
    | _ => trace.limitedAt
  shown := match event with
    | .observe quota _ => trace.shown || quota.remaining.any (0 < ·)
    | .quotaLimited _ _ => false
    | .refresh _ | .available _ => trace.shown
  resets := (trace.provider.after event).resetAt.toList ++ trace.resets

def apply (trace : QuotaTrace) (event : QuotaEvent) : Option QuotaTrace :=
  if trace.clock ≤ event.at then some (trace.advance event) else none

/-- A reset time later than the error has passed. -/
def Passed (trace : QuotaTrace) (limited now : Int) : Prop :=
  ∃ reset ∈ trace.resets, limited < reset ∧ reset ≤ now

/-- What holds of a provider after its errors: automatic downloads wait for a reset time later
than the last one or for an observation, and a rate-limited state ends. -/
structure Governed (trace : QuotaTrace) : Prop where
  notSkipped : ∀ limited now, trace.limitedAt = some limited → trace.clock ≤ now →
    trace.provider.automaticQuotaAvailable now = true → trace.shown = true ∨
      trace.Passed limited now
  wayBack : trace.provider.enabled = true → trace.provider.state = .rateLimited →
    ∃ reset, ∀ now, reset ≤ now → trace.provider.automaticQuotaAvailable now = true

/-- The hint of the error names a wait that is not over at once. -/
def LaterHint (retryAfterSeconds : Option Int) : Prop :=
  ∃ wait, retryAfterSeconds = some wait ∧ 0 < wait ∧ wait ≤ 86400

/-- What is known of the quota when an error arrives at the time names a later reset time: the
stored one lies ahead or, if there is none, the window is positive or else the hint is. -/
def LaterReset (current : Option ProviderQuotaSnapshot) (observed : Int)
    (retryAfterSeconds : Option Int) : Prop :=
  match current with
  | none => LaterHint retryAfterSeconds
  | some quota =>
    match quota.resetAt, quota.windowSeconds with
    | some reset, _ => observed < reset
    | none, some window => 0 < window
    | none, none => LaterHint retryAfterSeconds

/-- An observation does not take the way back from a rate-limited provider, or lift the limit
for a quota it does not know. -/
def Safe (trace : QuotaTrace) (quota : DirectQuotaStatus) (observed limited : Int) : Prop :=
  match quota.remaining with
  | some (_ + 1) => True
  | some 0 => ∃ reset, quota.resetTime observed = some (.aware reset) ∧
      (limited < reset ∨ trace.Passed limited observed)
  | none => trace.Passed limited observed ∨
      ∃ reset, quota.resetTime observed = some (.aware reset) ∧ limited < reset ∧
        reset ≤ observed

/-- The events after which the policy still governs the provider. -/
def Admitted (event : QuotaEvent) (trace : QuotaTrace) : Prop :=
  match event with
  | .observe quota observed => trace.provider.state = .rateLimited →
      ∀ limited, trace.limitedAt = some limited → trace.Safe quota observed limited
  | .quotaLimited observed retryAfterSeconds =>
    LaterReset trace.provider.quotaStatus observed retryAfterSeconds
  | .refresh _ | .available _ => True

/-- The states of the runs whose events are admitted. -/
def Reached (trace : QuotaTrace) : Prop :=
  Durable.Reachable Initial Admitted (fun event trace after => trace.apply event = some after)
    trace

/-! ### Governed states -/

variable {trace : QuotaTrace} {event : QuotaEvent} {quota : DirectQuotaStatus}

theorem Passed.advance {limited now later : Int} (passed : trace.Passed limited now)
    (follows : now ≤ later) : (trace.advance event).Passed limited later := by
  obtain ⟨reset, known, ahead, past⟩ := passed
  exact ⟨reset, List.mem_append_right _ known, ahead, past.trans follows⟩

/-- A rate-limited provider that is governed names a reset time that is late enough. -/
theorem Governed.reset (governed : Governed trace) {limited : Int}
    (enabled : trace.provider.enabled = true) (state : trace.provider.state = .rateLimited)
    (unshown : trace.shown = false) (error : trace.limitedAt = some limited) :
    ∃ reset, trace.provider.resetAt = some reset ∧
      (limited < reset ∨ trace.Passed limited trace.clock) := by
  obtain ⟨ends, free⟩ := governed.wayBack enabled state
  have waits (now : Int) := trace.provider.available_of_limited now state enabled
  obtain ⟨reset, stored, -⟩ :=
    (trace.provider.resetPassed_iff ends).1 ((waits ends).symm.trans (free ends le_rfl))
  have free' : trace.provider.automaticQuotaAvailable (max trace.clock reset) = true := by
    rw [waits, trace.provider.resetPassed_iff]
    exact ⟨reset, stored, le_max_right _ _⟩
  refine ⟨reset, stored, ?_⟩
  rcases governed.notSkipped limited _ error (le_max_left _ _) free' with shown | passed
  · rw [unshown] at shown
    cases shown
  · obtain ⟨other, known, ahead, past⟩ := passed
    rcases le_max_iff.1 past with soon | early
    · exact .inr ⟨other, known, ahead, soon⟩
    · exact .inl (ahead.trans_le early)

/-- What the steps keep. -/
structure Sound (trace : QuotaTrace) : Prop where
  limited : trace.provider.state = .rateLimited → trace.shown = false ∧
    ∃ limited reset, trace.limitedAt = some limited ∧ trace.provider.resetAt = some reset ∧
      reset ∈ trace.resets ∧ (limited < reset ∨ trace.Passed limited trace.clock)
  lifted : trace.provider.state ≠ .rateLimited → ∀ limited, trace.limitedAt = some limited →
    trace.shown = true ∨ trace.Passed limited trace.clock

theorem Sound.governed (sound : Sound trace) : Governed trace where
  notSkipped := by
    intro limited now error follows available
    by_cases state : trace.provider.state = .rateLimited
    · obtain ⟨-, other, reset, same, stored, known, late⟩ := sound.limited state
      cases same.symm.trans error
      by_cases enabled : trace.provider.enabled = true
      · rw [trace.provider.available_of_limited now state enabled,
          trace.provider.resetPassed_iff] at available
        obtain ⟨passed, here, past⟩ := available
        cases stored.symm.trans here
        rcases late with ahead | ⟨earlier, known', ahead, past'⟩
        · exact .inr ⟨reset, known, ahead, past⟩
        · exact .inr ⟨earlier, known', ahead, past'.trans follows⟩
      · simp [DirectProviderConfig.automaticQuotaAvailable, enabled] at available
    · rcases sound.lifted state limited error with shown | ⟨reset, known, ahead, past⟩
      · exact .inl shown
      · exact .inr ⟨reset, known, ahead, past.trans follows⟩
  wayBack := by
    intro enabled state
    obtain ⟨-, _, reset, -, stored, -, -⟩ := sound.limited state
    refine ⟨reset, ?_⟩
    intro now past
    rw [trace.provider.available_of_limited now state enabled, trace.provider.resetPassed_iff]
    exact ⟨reset, stored, past⟩

/-! ### Steps -/

theorem retryWindow_eq {retryAfterSeconds : Option Int} {wait : Int} :
    DirectProviderConfig.retryWindow retryAfterSeconds = some wait ↔
      retryAfterSeconds = some wait ∧ 0 ≤ wait ∧ wait ≤ 86400 := by
  simp [DirectProviderConfig.retryWindow, filter_eq_some_iff]

/-- The hint of an error gives a later reset time exactly when it names a wait. -/
theorem laterHint_iff (observed : Int) (retryAfterSeconds : Option Int) :
    LaterHint retryAfterSeconds ↔
      ∃ reset, (DirectProviderConfig.retryWindow retryAfterSeconds).map (observed + ofSeconds ·) =
        some reset ∧ observed < reset := by
  constructor
  · rintro ⟨wait, rfl, positive, short⟩
    refine ⟨observed + ofSeconds wait, ?_, ?_⟩
    · rw [retryWindow_eq.2 ⟨rfl, positive.le, short⟩, map_some]
    · unfold ofSeconds
      omega
  · rintro ⟨reset, found, ahead⟩
    obtain ⟨wait, hint, rfl⟩ := map_eq_some_iff.1 found
    obtain ⟨given, _, short⟩ := retryWindow_eq.1 hint
    refine ⟨wait, given, ?_, short⟩
    unfold ofSeconds at ahead
    omega

theorem laterReset_iff (current : Option ProviderQuotaSnapshot) (observed : Int)
    (retryAfterSeconds : Option Int) :
    LaterReset current observed retryAfterSeconds ↔
      ∃ reset, DirectProviderConfig.limitedReset current observed retryAfterSeconds =
        some reset ∧ observed < reset := by
  unfold LaterReset DirectProviderConfig.limitedReset
  cases current with
  | none => simpa using laterHint_iff observed retryAfterSeconds
  | some quota =>
    cases stored : quota.resetAt with
    | some reset => simp [stored]
    | none =>
      cases window : quota.windowSeconds with
      | some length =>
        have positive : 0 < length ↔ observed < observed + ofSeconds length := by
          unfold ofSeconds
          omega
        simpa [stored, window] using positive
      | none => simpa [stored, window] using laterHint_iff observed retryAfterSeconds

/-- The trace after an error that leaves a later reset time. -/
theorem sound_quotaLimited {observed : Int} {retryAfterSeconds : Option Int}
    (admitted : LaterReset trace.provider.quotaStatus observed retryAfterSeconds) :
    Sound (trace.advance (.quotaLimited observed retryAfterSeconds)) where
  limited := by
    intro _
    obtain ⟨reset, found, ahead⟩ := (laterReset_iff _ _ _).1 admitted
    have stored : (trace.advance (.quotaLimited observed retryAfterSeconds)).provider.resetAt =
        some reset := by
      rw [← found]
      exact trace.provider.resetAt_limitQuota observed retryAfterSeconds
    refine ⟨rfl, observed, reset, rfl, stored, ?_, .inl ahead⟩
    exact List.mem_append_left _ (mem_toList.2 stored)
  lifted := fun other => absurd rfl other

/-- A provider that stays lifted. -/
theorem Sound.lift (sound : Sound trace) (follows : trace.clock ≤ event.at)
    (state : trace.provider.state ≠ .rateLimited)
    (kept : (trace.advance event).provider.state ≠ .rateLimited)
    (error : (trace.advance event).limitedAt = trace.limitedAt)
    (shown : trace.shown = true → (trace.advance event).shown = true) :
    Sound (trace.advance event) where
  limited := fun state => absurd state kept
  lifted := by
    intro _ limited found
    rw [error] at found
    rcases sound.lifted state limited found with before | passed
    · exact .inl (shown before)
    · exact .inr (passed.advance follows)

theorem Safe.unknown {observed limited : Int}
    (unknown : quota.remaining = none) :
    trace.Safe quota observed limited ↔
      (trace.advance (.observe quota observed)).Passed limited observed := by
  simp only [Safe, unknown, Passed, advance, DirectProviderConfig.after,
    DirectProviderConfig.resetAt_recordProviderQuota, List.mem_append, mem_toList]
  constructor
  · rintro (⟨reset, known, ahead, past⟩ | ⟨reset, given, ahead, past⟩)
    · exact ⟨reset, .inr known, ahead, past⟩
    · exact ⟨reset, .inl (by rw [given]; rfl), ahead, past⟩
  · rintro ⟨reset, stored | known, ahead, past⟩
    · exact .inr ⟨reset, parseDatetime_eq_some.1 stored, ahead, past⟩
    · exact .inl ⟨reset, known, ahead, past⟩

/-- The trace after an observation that reports no remaining quota. -/
theorem Safe.exhausted {observed limited : Int}
    (exhausted : quota.remaining = some 0) :
    trace.Safe quota observed limited ↔
      ∃ reset, (trace.advance (.observe quota observed)).provider.resetAt = some reset ∧
        (limited < reset ∨ (trace.advance (.observe quota observed)).Passed limited observed) := by
  simp only [Safe, exhausted, Passed, advance, DirectProviderConfig.after,
    DirectProviderConfig.resetAt_recordProviderQuota, List.mem_append, mem_toList,
    parseDatetime_eq_some]
  constructor
  · rintro ⟨reset, given, late⟩
    refine ⟨reset, given, late.imp_right ?_⟩
    rintro ⟨other, known, ahead, past⟩
    exact ⟨other, .inr known, ahead, past⟩
  · rintro ⟨reset, given, late⟩
    refine ⟨reset, given, ?_⟩
    rcases late with ahead | ⟨other, stored | known, ahead, past⟩
    · exact .inl ahead
    · cases given.symm.trans stored
      exact .inl ahead
    · exact .inr ⟨other, known, ahead, past⟩

theorem Sound.observe (sound : Sound trace) {observed : Int}
    (follows : trace.clock ≤ observed)
    (admitted : Admitted (.observe quota observed) trace) :
    Sound (trace.advance (.observe quota observed)) := by
  have remembers : trace.shown = true →
      (trace.advance (.observe quota observed)).shown = true := by
    intro shown
    simp [advance, shown]
  by_cases state : trace.provider.state = .rateLimited
  · obtain ⟨unshown, limited, _, error, -⟩ := sound.limited state
    have safe := admitted state limited error
    have ended := trace.provider.limited_recordProviderQuota quota observed state
    constructor
    · intro still
      have exhausted := ended.1 still
      obtain ⟨reset, stored, late⟩ := (Safe.exhausted exhausted).1 safe
      refine ⟨?_, limited, reset, error, stored, ?_, late⟩
      · simp [advance, unshown, exhausted]
      · exact List.mem_append_left _ (mem_toList.2 stored)
    · intro lifted other same
      cases same.symm.trans error
      cases remaining : quota.remaining with
      | none => exact .inr ((Safe.unknown remaining).1 safe)
      | some number =>
        have positive : 0 < number :=
          Nat.pos_of_ne_zero fun zero => lifted (ended.2 (zero ▸ remaining))
        exact .inl (by simp [advance, remaining, positive])
  · exact sound.lift follows state
      (trace.provider.recordProviderQuota_lifted quota observed state) rfl remembers

theorem Sound.refresh (sound : Sound trace) {now : Int} (follows : trace.clock ≤ now) :
    Sound (trace.advance (.refresh now)) := by
  by_cases state : trace.provider.state = .rateLimited
  · obtain ⟨unshown, limited, reset, error, stored, known, late⟩ := sound.limited state
    have later : trace.Passed limited trace.clock →
        (trace.advance (.refresh now)).Passed limited now := fun passed => passed.advance follows
    cases passed : trace.provider.resetPassed now with
    | true =>
      have ended := trace.provider.refresh_passed now state passed
      obtain ⟨other, here, past⟩ := (trace.provider.resetPassed_iff now).1 passed
      cases stored.symm.trans here
      constructor
      · intro still
        cases ended.symm.trans still
      · intro _ other same
        cases same.symm.trans error
        rcases late with ahead | earlier
        · exact .inr ⟨reset, List.mem_append_right _ known, ahead, past⟩
        · exact .inr (later earlier)
    | false =>
      have same := trace.provider.refresh_waiting now passed
      constructor
      · intro _
        refine ⟨unshown, limited, reset, error, ?_, List.mem_append_right _ known, ?_⟩
        · exact (congrArg DirectProviderConfig.resetAt same).trans stored
        · exact late.imp_right later
      · intro other
        exact absurd ((congrArg DirectProviderConfig.state same).trans state) other
  · exact sound.lift follows state (trace.provider.refresh_lifted now state) rfl id

theorem Sound.available (sound : Sound trace) {now : Int} (follows : trace.clock ≤ now) :
    Sound (trace.advance (.available now)) := by
  by_cases state : trace.provider.state = .rateLimited
  · obtain ⟨unshown, limited, reset, error, stored, known, late⟩ := sound.limited state
    constructor
    · intro _
      refine ⟨unshown, limited, reset, error, stored, List.mem_append_right _ known, ?_⟩
      exact late.imp_right fun passed => passed.advance follows
    · exact fun other => absurd state other
  · exact sound.lift follows state state rfl id

/-- An admitted event keeps the provider governed. -/
theorem Sound.advance (sound : Sound trace) (follows : trace.clock ≤ event.at)
    (admitted : Admitted event trace) : Sound (trace.advance event) := by
  cases event with
  | observe quota observed => exact sound.observe follows admitted
  | quotaLimited observed retryAfterSeconds => exact sound_quotaLimited admitted
  | refresh now => exact sound.refresh follows
  | available now => exact sound.available follows

/-- An enabled provider is governed after an event only if the event is admitted. -/
theorem Sound.admitted (sound : Sound trace) (enabled : trace.provider.enabled = true)
    (governed : Governed (trace.advance event)) : Admitted event trace := by
  cases event with
  | observe quota observed =>
    intro state limited error
    obtain ⟨unshown, -⟩ := sound.limited state
    have ended := trace.provider.limited_recordProviderQuota quota observed state
    cases remaining : quota.remaining with
    | none =>
      refine (Safe.unknown remaining).2 ?_
      have free := trace.provider.available_of_unknown quota observed remaining state enabled
      rcases governed.notSkipped limited observed error le_rfl free with shown | passed
      · simp [QuotaTrace.advance, unshown, remaining] at shown
      · exact passed
    | some number =>
      cases number with
      | succ number => simp [Safe, remaining]
      | zero =>
        refine (Safe.exhausted remaining).2 ?_
        apply governed.reset enabled (ended.2 remaining) ?_ error
        simp [QuotaTrace.advance, unshown, remaining]
  | quotaLimited observed retryAfterSeconds =>
    refine (laterReset_iff _ _ _).2 ?_
    obtain ⟨reset, stored, late⟩ := governed.reset enabled rfl rfl rfl
    refine ⟨reset, ?_, ?_⟩
    · rw [← stored]
      exact (trace.provider.resetAt_limitQuota observed retryAfterSeconds).symm
    · rcases late with ahead | ⟨other, -, ahead, past⟩
      · exact ahead
      · exact absurd (ahead.trans_le past) (lt_irrefl observed)
  | refresh | available => trivial

theorem Reached.sound (reached : Reached trace) : Sound trace := by
  refine Durable.Reachable.invariant reached ?_ ?_
  · rintro trace ⟨state, error⟩
    constructor
    · exact fun limited => absurd limited state
    · intro _ limited same
      rw [error] at same
      cases same
  · intro event trace after sound admitted applied
    obtain ⟨follows, same⟩ := ite_none_right_eq_some.1 applied
    cases same
    exact sound.advance follows admitted

/-- In every run whose events are admitted, automatic downloads from a provider wait after a
quota-limited error until a later reset time has passed or an observation has shown remaining
quota, and a rate-limited state ends; an event that is not admitted breaks this at once. -/
theorem reached_governed (reached : Reached trace) :
    Governed trace ∧ ∀ event after, trace.apply event = some after →
      trace.provider.enabled = true → (Governed after ↔ Admitted event trace) := by
  have sound := Reached.sound reached
  refine ⟨sound.governed, ?_⟩
  intro event after applied enabled
  obtain ⟨follows, same⟩ := ite_none_right_eq_some.1 applied
  cases same
  constructor
  · exact sound.admitted enabled
  · intro admitted
    exact (sound.advance follows admitted).governed

def healthyProvider : DirectProviderConfig where
  enabled := true
  state := .healthy

/-- One download is left in a window of a minute. -/
def lastDownload : DirectQuotaStatus where
  remaining := some 1
  limit := some 25
  windowSeconds := some 60
  resetAt := none
  windowPositive := by simp

def freshQuota : QuotaTrace where
  provider := healthyProvider
  clock := 0

/-- The quota is exhausted ten seconds into the window. -/
theorem exhausted_in_window :
    ∃ trace, [QuotaEvent.observe lastDownload 0, .quotaLimited (ofSeconds 10) none].foldlM apply
        freshQuota = some trace ∧
      trace.provider.state = .rateLimited ∧ Governed trace := by
  refine ⟨_, rfl, rfl, (reached_governed ?_).1⟩
  have started : Reached freshQuota := .start ⟨by decide, rfl⟩
  have first : Admitted (.observe lastDownload 0) freshQuota :=
    fun limited => absurd limited (by decide)
  have observed : Reached (freshQuota.advance (.observe lastDownload 0)) := started.next first rfl
  have second : Admitted (.quotaLimited (ofSeconds 10) none)
      (freshQuota.advance (.observe lastDownload 0)) := by
    change ofSeconds 10 < 0 + ofSeconds 60
    decide
  exact observed.next second rfl

/-- An error that comes a second after the end of the window finds the reset time of the window
still stored: the provider is available again at once. -/
theorem stale_reset_skips :
    ¬ ∀ (events : List QuotaEvent) (trace : QuotaTrace),
      events.foldlM apply freshQuota = some trace → Governed trace := by
  intro governed
  have holds := governed [.observe lastDownload 0, .quotaLimited (ofSeconds 61) none] _ rfl
  rcases holds.notSkipped (ofSeconds 61) (ofSeconds 61) rfl (by decide) (by decide) with
    shown | ⟨reset, known, ahead, -⟩
  · cases shown
  · have earlier : ∀ reset ∈ [ofSeconds 60, ofSeconds 60], ¬ ofSeconds 61 < reset := by decide
    exact earlier reset known ahead

end QuotaTrace

end Pullbox.Direct
