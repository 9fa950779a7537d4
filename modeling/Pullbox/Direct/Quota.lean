import Mathlib.Algebra.Order.Ring.Int

/-!
# The quota of a direct provider

What a provider's account still allows is kept in the metadata of its row
(`direct_provider_quota.py`). Automatic downloads leave a reserve, and a provider whose quota
is exhausted waits for the reset time that the status names.

An instant is a number of microseconds.
-/

namespace Pullbox.Direct

inductive DirectProviderState where
  | disabled | healthy | degraded | rateLimited | authenticationRequired | incompatible
  | unavailable
deriving DecidableEq

/-- A `datetime`, which `isoformat` writes and `fromisoformat` reads with or without an
offset. -/
inductive GivenTime where
  | aware (instant : Int)
  | naive (reading : Int)

/-- `timedelta(seconds=number)`. -/
def ofSeconds (number : Int) : Int :=
  number * 1000000

/-- `DirectQuotaStatus`, as a provider reports it. -/
structure DirectQuotaStatus where
  remaining : Option Nat
  limit : Option Nat
  windowSeconds : Option Nat
  resetAt : Option GivenTime
  windowPositive : ∀ window, windowSeconds = some window → 1 ≤ window

/-- The entry `quota_status` of the metadata. -/
structure QuotaEntry where
  remaining : Option Int
  limit : Option Int
  windowSeconds : Option Int
  resetAt : Option GivenTime
  observedAt : Option GivenTime

/-- The entries of `configuration_metadata` that the quota policy reads. -/
structure ProviderMetadata where
  quotaStatus : Option QuotaEntry := none
  automaticBackoffUntil : Option GivenTime := none
  automaticQuotaReserve : Option Int := none

/-- What the row of a provider says of its quota. -/
structure DirectProviderConfig where
  enabled : Bool
  state : DirectProviderState
  lastErrorCode : Option String := none
  configurationMetadata : ProviderMetadata := {}

/-- The quota as a provider reports it. -/
structure ProviderQuotaSnapshot where
  remaining : Option Int
  limit : Option Int
  windowSeconds : Option Int
  resetAt : Option Int
  observedAt : Int

/-- `DEFAULT_AUTOMATIC_QUOTA_RESERVE`. -/
def defaultAutomaticQuotaReserve : Int :=
  5

/-- `_TRANSIENT_BACKOFF`: fifteen minutes. -/
def transientBackoff : Int :=
  ofSeconds 900

/-- `_parse_datetime`: a time without an offset is not used. -/
def parseDatetime : Option GivenTime → Option Int
  | some (.aware instant) => some instant
  | some (.naive _) | none => none

@[simp]
theorem parseDatetime_eq_some {value : Option GivenTime} {instant : Int} :
    parseDatetime value = some instant ↔ value = some (.aware instant) := by
  rcases value with _ | time
  · simp [parseDatetime]
  · cases time <;> simp [parseDatetime]

/-- `_optional_nonnegative_int`. -/
def optionalNonnegativeInt (value : Option Int) : Option Int :=
  value.filter (0 ≤ ·)

namespace DirectQuotaStatus

/-- The reset time that an observation stores: the one reported, or the end of the window. -/
def resetTime (quota : DirectQuotaStatus) (observed : Int) : Option GivenTime :=
  quota.resetAt <|> quota.windowSeconds.map fun window => .aware (observed + ofSeconds window)

end DirectQuotaStatus

namespace DirectProviderConfig

/-- `automatic_quota_reserve`. -/
def automaticQuotaReserve (provider : DirectProviderConfig) : Int :=
  (optionalNonnegativeInt provider.configurationMetadata.automaticQuotaReserve).getD
    defaultAutomaticQuotaReserve

/-- `provider_quota_status`. -/
def quotaStatus (provider : DirectProviderConfig) : Option ProviderQuotaSnapshot := do
  let entry ← provider.configurationMetadata.quotaStatus
  let observedAt ← parseDatetime entry.observedAt
  some
    { remaining := optionalNonnegativeInt entry.remaining
      limit := optionalNonnegativeInt entry.limit
      windowSeconds := optionalNonnegativeInt entry.windowSeconds
      resetAt := parseDatetime entry.resetAt
      observedAt := observedAt }

/-- `current.reset_at if current else None`. -/
def resetAt (provider : DirectProviderConfig) : Option Int :=
  provider.quotaStatus.bind ProviderQuotaSnapshot.resetAt

/-- `record_provider_quota`. -/
def recordProviderQuota (provider : DirectProviderConfig) (quota : DirectQuotaStatus)
    (observed : Int) : DirectProviderConfig where
  enabled := provider.enabled
  state :=
    if (provider.state = .rateLimited ∨ provider.state = .unavailable) ∧
        quota.remaining.all (0 < ·) then .healthy
    else provider.state
  lastErrorCode := none
  configurationMetadata :=
    { provider.configurationMetadata with
      quotaStatus := some
        { remaining := quota.remaining.map Int.ofNat
          limit := quota.limit.map Int.ofNat
          windowSeconds := quota.windowSeconds.map Int.ofNat
          resetAt := quota.resetTime observed
          observedAt := some (.aware observed) }
      automaticBackoffUntil := none }

/-- The hint of an error that names a wait of at most a day. -/
def retryWindow (retryAfterSeconds : Option Int) : Option Int :=
  retryAfterSeconds.filter fun wait => 0 ≤ wait ∧ wait ≤ 86400

/-- The reset time that a quota-limited error stores. -/
def limitedReset (current : Option ProviderQuotaSnapshot) (observed : Int)
    (retryAfterSeconds : Option Int) : Option Int :=
  current.bind ProviderQuotaSnapshot.resetAt
    <|> (current.bind ProviderQuotaSnapshot.windowSeconds).map (observed + ofSeconds ·)
    <|> (retryWindow retryAfterSeconds).map (observed + ofSeconds ·)

/-- The branch of `source_quota_limited`. -/
def limitQuota (provider : DirectProviderConfig) (observed : Int)
    (retryAfterSeconds : Option Int) : DirectProviderConfig :=
  let current := provider.quotaStatus
  { provider with
    lastErrorCode := some "source_quota_limited"
    state := .rateLimited
    configurationMetadata :=
      { provider.configurationMetadata with
        quotaStatus := some
          { remaining := some 0
            limit := current.bind ProviderQuotaSnapshot.limit
            windowSeconds :=
              match current with
              | some quota => quota.windowSeconds
              | none => retryWindow retryAfterSeconds
            resetAt := (limitedReset current observed retryAfterSeconds).map .aware
            observedAt := some (.aware observed) } } }

/-- `record_provider_resolution_error`. -/
def recordProviderResolutionError (provider : DirectProviderConfig) (code : String)
    (observed : Int) (retryAfterSeconds : Option Int) : DirectProviderConfig :=
  if code = "source_quota_limited" then provider.limitQuota observed retryAfterSeconds
  else if code = "source_authentication_required" then
    { provider with lastErrorCode := some code, state := .authenticationRequired }
  else if code = "source_unavailable" ∨ code = "source_malformed_response" then
    { provider with
      lastErrorCode := some code
      state := .degraded
      configurationMetadata :=
        { provider.configurationMetadata with
          automaticBackoffUntil := some (.aware (observed + transientBackoff)) } }
  else { provider with lastErrorCode := some code }

/-- The reset time of the status has passed. -/
def resetPassed (provider : DirectProviderConfig) (now : Int) : Bool :=
  provider.resetAt.any (· ≤ now)

/-- `automatic_quota_available`. -/
def automaticQuotaAvailable (provider : DirectProviderConfig) (now : Int) : Bool :=
  if !provider.enabled then false
  else match provider.state with
    | .rateLimited => provider.resetPassed now
    | .disabled | .authenticationRequired | .incompatible | .unavailable => false
    | .healthy | .degraded =>
      if (parseDatetime provider.configurationMetadata.automaticBackoffUntil).any (now < ·) then
        false
      else if provider.resetPassed now then true
      else match provider.quotaStatus.bind ProviderQuotaSnapshot.remaining with
        | none => true
        | some remaining => provider.automaticQuotaReserve < remaining

/-- `refresh_expired_provider_quota`, with its answer. -/
def refreshExpiredProviderQuota (provider : DirectProviderConfig) (now : Int) :
    DirectProviderConfig × Bool :=
  if provider.resetPassed now then
    let discarded :=
      { provider with
        configurationMetadata := { provider.configurationMetadata with quotaStatus := none } }
    if provider.state = .rateLimited then
      ({ discarded with state := .degraded, lastErrorCode := none }, true)
    else (discarded, true)
  else (provider, false)

/-! ### What each operation leaves -/

variable (provider : DirectProviderConfig) (quota : DirectQuotaStatus) (now : Int)
  (retryAfterSeconds : Option Int)

@[simp]
theorem resetAt_recordProviderQuota :
    (provider.recordProviderQuota quota now).resetAt = parseDatetime (quota.resetTime now) :=
  rfl

@[simp]
theorem resetAt_limitQuota :
    (provider.limitQuota now retryAfterSeconds).resetAt =
      limitedReset provider.quotaStatus now retryAfterSeconds := by
  change parseDatetime ((limitedReset provider.quotaStatus now retryAfterSeconds).map .aware) = _
  cases limitedReset provider.quotaStatus now retryAfterSeconds <;> rfl

/-- An observation ends the rate limit unless it reports that nothing remains. -/
theorem limited_recordProviderQuota (limited : provider.state = .rateLimited) :
    (provider.recordProviderQuota quota now).state = .rateLimited ↔ quota.remaining = some 0 := by
  cases known : quota.remaining with
  | none => simp [recordProviderQuota, limited, known]
  | some remaining => cases remaining <;> simp [recordProviderQuota, limited, known]

/-- An observation never begins one. -/
theorem recordProviderQuota_lifted (lifted : provider.state ≠ .rateLimited) :
    (provider.recordProviderQuota quota now).state ≠ .rateLimited := by
  simp only [recordProviderQuota]
  split_ifs
  · decide
  · exact lifted

theorem refresh_lifted (lifted : provider.state ≠ .rateLimited) :
    (provider.refreshExpiredProviderQuota now).1.state ≠ .rateLimited := by
  unfold refreshExpiredProviderQuota
  split_ifs
  · exact lifted
  · exact lifted

/-- A refresh ends the rate limit of a provider whose reset time has passed. -/
theorem refresh_passed (limited : provider.state = .rateLimited)
    (passed : provider.resetPassed now = true) :
    (provider.refreshExpiredProviderQuota now).1.state = .degraded := by
  simp [refreshExpiredProviderQuota, limited, passed]

theorem refresh_waiting (waits : provider.resetPassed now = false) :
    (provider.refreshExpiredProviderQuota now).1 = provider := by
  simp [refreshExpiredProviderQuota, waits]

/-- While it is rate-limited, an enabled provider waits for the reset time of its status. -/
theorem available_of_limited (limited : provider.state = .rateLimited)
    (enabled : provider.enabled = true) :
    provider.automaticQuotaAvailable now = provider.resetPassed now := by
  simp [automaticQuotaAvailable, limited, enabled]

theorem resetPassed_iff :
    provider.resetPassed now = true ↔ ∃ reset, provider.resetAt = some reset ∧ reset ≤ now := by
  simp [resetPassed, Option.any_eq_true]

/-- An observation that names no remaining quota makes the provider available at once. -/
theorem available_of_unknown (unknown : quota.remaining = none)
    (limited : provider.state = .rateLimited) (enabled : provider.enabled = true) :
    (provider.recordProviderQuota quota now).automaticQuotaAvailable now = true := by
  have lifted : (provider.recordProviderQuota quota now).state = .healthy := by
    simp [recordProviderQuota, limited, unknown]
  have stored : (provider.recordProviderQuota quota now).quotaStatus.bind
      ProviderQuotaSnapshot.remaining = none := by
    simp [recordProviderQuota, quotaStatus, parseDatetime, optionalNonnegativeInt, unknown]
  have still : (provider.recordProviderQuota quota now).enabled = true := enabled
  have backoff : (provider.recordProviderQuota quota now).configurationMetadata.automaticBackoffUntil
      = none := rfl
  simp [automaticQuotaAvailable, lifted, stored, still, backoff, parseDatetime]

end DirectProviderConfig

end Pullbox.Direct
