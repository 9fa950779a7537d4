import Pullbox.Limits.Login
import Pullbox.Text.Characters

/-!
# The limiter of requests

Requests to the API are counted for each address and each tier of endpoints. A window of
requests that is full refuses more of them until the next one starts. Response headers are left
out.
-/

namespace Pullbox.Limits

/-- `_WINDOW_SECONDS`. -/
def apiWindowSeconds : Seconds :=
  60

/-- The tiers of requests. -/
inductive Tier where
  | tier1 | tier2 | tier3 | exempt
deriving DecidableEq

/-! ### Tiers of endpoints -/

/-- A part of a path pattern. -/
inductive PathPart where
  | text (value : String)
  /-- `\d+`. -/
  | digits

/-- What is left of a path after some parts in front of it. -/
def afterParts : List PathPart → List Char → Option (List Char)
  | [], path => some path
  | .text value :: parts, path =>
    if value.toList.isPrefixOf path then afterParts parts (path.drop value.length) else none
  | .digits :: parts, path =>
    if path.takeWhile (fun char => (Text.digitValue char).isSome) = [] then none
    else afterParts parts (path.dropWhile fun char => (Text.digitValue char).isSome)

/-- A pattern that starts where the path does. -/
structure PathPattern where
  parts : List PathPart
  /-- `$`. -/
  closed : Bool

def PathPattern.accepts (pattern : PathPattern) (path : String) : Bool :=
  match afterParts pattern.parts path.toList with
  | none => false
  | some rest => !pattern.closed || rest == [] || rest == ['\n']

/-- `_TIER1_PATTERNS`. -/
def tier1Patterns : List PathPattern :=
  [{ parts := [.text "/api/v1/series/", .digits, .text "/search"], closed := true },
    { parts := [.text "/api/v1/series/", .digits, .text "/refresh"], closed := true },
    { parts := [.text "/api/v1/search/"], closed := false },
    { parts := [.text "/api/v1/system/backup"], closed := true },
    { parts := [.text "/api/v1/system/restore/"], closed := false },
    { parts := [.text "/api/v1/library/scan"], closed := true }]

/-- `_EXEMPT_PREFIXES`. -/
def exemptPrefixes : List String :=
  ["/ping", "/health", "/static/", "/covers/"]

/-- `_EXEMPT_API_PATTERNS`. -/
def exemptApiPatterns : List PathPattern :=
  [{ parts := [.text "/api/v1/series/", .digits, .text "/cover"], closed := true },
    { parts := [.text "/api/v1/issues/", .digits, .text "/cover"], closed := true }]

/-- `_RATE_LIMITED_PREFIXES`. -/
def rateLimitedPrefixes : List String :=
  ["/api/"]

/-- `_WRITE_METHODS`. -/
def writeMethods : List String :=
  ["POST", "PUT", "PATCH", "DELETE"]

def classify (path method : String) : Tier :=
  let starts := fun text : String => text.toList.isPrefixOf path.toList
  if !rateLimitedPrefixes.any starts then .exempt
  else if exemptPrefixes.any starts then .exempt
  else if exemptApiPatterns.any (·.accepts path) then .exempt
  else if tier1Patterns.any (·.accepts path) then .tier1
  else if method ∈ writeMethods then .tier2
  else .tier3

/-! ### The limiter -/

/-- `_WindowCounter`. -/
structure WindowCounter where
  count : Int
  windowStart : Seconds

/-- The requests a minute of each tier. -/
structure ApiSettings where
  tier1 : Int := 10
  tier2 : Int := 30
  tier3 : Int := 120
  enabled : Bool := true

/-- An exempt tier has no limit to look up. -/
def ApiSettings.limit (settings : ApiSettings) : Tier → Int
  | .tier1 => settings.tier1
  | .tier2 => settings.tier2
  | .tier3 => settings.tier3
  | .exempt => 0

/-- What is raised for a refused request. -/
structure PullboxError where
  message : String
  code : String
  statusCode : Nat

def rateLimited : PullboxError where
  message := "Rate limit exceeded. Try again in 60 seconds."
  code := "RATE_LIMITED"
  statusCode := 429

/-- The counters of each address. -/
structure APIRateLimiter where
  counters : String → Tier → Option WindowCounter
  lastCleanup : Seconds

def WindowCounter.expired (counter : WindowCounter) (now : Seconds) : Bool :=
  decide (apiWindowSeconds ≤ now - counter.windowStart)

namespace APIRateLimiter

variable (settings : ApiSettings)

def setCounter (limiter : APIRateLimiter) (ip : String) (tier : Tier) (counter : WindowCounter) :
    APIRateLimiter :=
  { limiter with
    counters := Function.update limiter.counters ip
      (Function.update (limiter.counters ip) tier (some counter)) }

/-- `_cleanup`. -/
def cleanup (limiter : APIRateLimiter) (now : Seconds) : APIRateLimiter :=
  if now - limiter.lastCleanup < cleanupIntervalSeconds then limiter
  else
    { counters := fun ip tier => (limiter.counters ip tier).filter fun counter =>
        !counter.expired now
      lastCleanup := now }

/-- Count a request of a tier, or refuse it. -/
def count (limiter : APIRateLimiter) (ip : String) (tier : Tier) (now : Seconds) :
    Except PullboxError Unit × APIRateLimiter :=
  let first := limiter.setCounter ip tier { count := 1, windowStart := now }
  match limiter.counters ip tier with
  | none => (.ok (), first)
  | some counter =>
    if counter.expired now then (.ok (), first)
    else if settings.limit tier ≤ counter.count then (.error rateLimited, limiter)
    else (.ok (), limiter.setCounter ip tier { counter with count := counter.count + 1 })

/-- `check`. -/
def check (limiter : APIRateLimiter) (ip path method : String) (began now : Seconds) :
    Except PullboxError Unit × APIRateLimiter :=
  if !settings.enabled then (.ok (), limiter)
  else
    match classify path method with
    | .exempt => (.ok (), limiter)
    | tier => (limiter.cleanup began).count settings ip tier now

/-- `get_remaining`. -/
def getRemaining (limiter : APIRateLimiter) (ip path method : String) (now : Seconds) : Int :=
  match classify path method with
  | .exempt => 0
  | tier =>
    let limit := settings.limit tier
    match limiter.counters ip tier with
    | none => limit
    | some counter => if counter.expired now then limit else max 0 (limit - counter.count)

/-- `get_limit`. -/
def getLimit (path method : String) : Int :=
  settings.limit (classify path method)

/-- A new limiter. -/
def fresh (now : Seconds) : APIRateLimiter where
  counters := fun _ _ => none
  lastCleanup := now

end APIRateLimiter

/-! ### Runs -/

/-- A request that was admitted. -/
structure Admission where
  ip : String
  tier : Tier
  now : Seconds

/-- When the admitted requests of an address and a tier were. The newest is first. -/
def admittedAt (ip : String) (tier : Tier) (history : List Admission) : List Seconds :=
  (history.filter fun admission =>
    decide (admission.ip = ip) && decide (admission.tier = tier)).map Admission.now

/-- A request, with the times of its two readings. -/
structure ApiRequest where
  ip : String
  path : String
  method : String
  began : Seconds
  now : Seconds

def ApiRequest.tier (request : ApiRequest) : Tier :=
  classify request.path request.method

/-- The limiter along a run, with what it admitted. -/
structure ApiTrace where
  limiter : APIRateLimiter
  clock : Seconds
  history : List Admission

namespace ApiTrace

variable (settings : ApiSettings)

def Initial (trace : ApiTrace) : Prop :=
  trace.limiter = .fresh trace.clock ∧ trace.history = []

def apply (trace : ApiTrace) (request : ApiRequest) : Option ApiTrace :=
  if trace.clock ≤ request.began ∧ request.began ≤ request.now then
    let checked := trace.limiter.check settings request.ip request.path request.method
      request.began request.now
    some
      { limiter := checked.2
        clock := request.now
        history :=
          match checked.1 with
          | .ok () => { ip := request.ip, tier := request.tier, now := request.now } ::
              trace.history
          | .error _ => trace.history }
  else
    none

/-- The admitted requests of an address and a tier in a span of 60 seconds. -/
def admittedIn (trace : ApiTrace) (ip : String) (tier : Tier) (start : Seconds) : Nat :=
  (admittedAt ip tier trace.history).countP fun time =>
    decide (start ≤ time ∧ time < start + apiWindowSeconds)

end ApiTrace

/-- One step of a run. -/
def ApiStep (settings : ApiSettings) (request : ApiRequest) (trace after : ApiTrace) : Prop :=
  trace.apply settings request = some after

end Pullbox.Limits
