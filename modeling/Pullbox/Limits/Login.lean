import Mathlib.Data.Rat.Floor
import Pullbox.Durable.Reachable

/-!
# The limiter of login attempts

Failed logins are counted for each address in memory. Enough of them in one window lock the
address out for a while. Calls do not interleave, and times are numbers of seconds.
-/

namespace Pullbox.Limits

/-- A reading of the monotonic clock, or a duration. -/
abbrev Seconds : Type :=
  Rat

/-- `_CLEANUP_INTERVAL_SECONDS`. -/
def cleanupIntervalSeconds : Seconds :=
  60

/-- `_AttemptRecord`. -/
structure AttemptRecord where
  count : Nat
  windowStart : Seconds
  lockedUntil : Option Seconds := none

/-- The attempts, the window and the lockout. -/
structure LoginSettings where
  maxAttempts : Nat := 5
  windowSeconds : Seconds := 300
  lockoutSeconds : Seconds := 900

structure LoginRateLimitError where
  retryAfterSeconds : Int
  message : String
deriving DecidableEq

/-- The record of each address. -/
structure LoginRateLimiter where
  records : String → Option AttemptRecord
  lastCleanup : Seconds

/-- What an address asks of the limiter, with the clock readings that it takes. -/
inductive LoginCall where
  | check (began now : Seconds)
  | failure (now : Seconds)
  | success
  | reset

variable (settings : LoginSettings)

namespace AttemptRecord

variable (record : AttemptRecord) (now : Seconds)

/-- The failures of the record are too old to be counted with another one. -/
def windowExpired : Bool :=
  decide (settings.windowSeconds < now - record.windowStart)

def locked : Bool :=
  record.lockedUntil.any fun lockedUntil => decide (now < lockedUntil)

/-- A further failure in the window. -/
def fail : AttemptRecord :=
  let count := record.count + 1
  { record with
    count := count
    lockedUntil :=
      if settings.maxAttempts ≤ count then some (now + settings.lockoutSeconds)
      else record.lockedUntil }

end AttemptRecord

/-- The error of an address that is locked out for some more seconds. -/
def loginRateLimitError (remainingSeconds : Seconds) : LoginRateLimitError :=
  let retryAfterMinutes := max 1 ⌊(remainingSeconds + 59999 / 1000) / 60⌋
  { retryAfterSeconds := max 1 ⌊remainingSeconds + 999 / 1000⌋
    message := s!"Too many login attempts. Try again in {retryAfterMinutes} minutes." }

namespace LoginRateLimiter

def setRecord (limiter : LoginRateLimiter) (ip : String) (record : Option AttemptRecord) :
    LoginRateLimiter :=
  { limiter with records := Function.update limiter.records ip record }

/-- `_cleanup`. -/
def cleanup (limiter : LoginRateLimiter) (now : Seconds) : LoginRateLimiter :=
  if now - limiter.lastCleanup < cleanupIntervalSeconds then limiter
  else
    { records := fun ip => (limiter.records ip).filter fun record =>
        !(record.windowExpired settings now && !record.locked now)
      lastCleanup := now }

/-- `check_rate_limit`. -/
def checkRateLimit (limiter : LoginRateLimiter) (ip : String) (began now : Seconds) :
    Except LoginRateLimitError Unit × LoginRateLimiter :=
  let limiter := limiter.cleanup settings began
  match (limiter.records ip).bind AttemptRecord.lockedUntil with
  | none => (.ok (), limiter)
  | some lockedUntil =>
    if now < lockedUntil then (.error (loginRateLimitError (lockedUntil - now)), limiter)
    else (.ok (), limiter.setRecord ip none)

/-- `record_failure`. -/
def recordFailure (limiter : LoginRateLimiter) (ip : String) (now : Seconds) :
    LoginRateLimiter :=
  match limiter.records ip with
  | none => limiter.setRecord ip (some { count := 1, windowStart := now })
  | some record =>
    if record.windowExpired settings now then
      limiter.setRecord ip (some { count := 1, windowStart := now })
    else
      limiter.setRecord ip (some (record.fail settings now))

/-- `record_success`, and `reset`. -/
def clear (limiter : LoginRateLimiter) (ip : String) : LoginRateLimiter :=
  limiter.setRecord ip none

/-- The limiter after a call. -/
def after (limiter : LoginRateLimiter) (ip : String) : LoginCall → LoginRateLimiter
  | .check began now => (limiter.checkRateLimit settings ip began now).2
  | .failure now => limiter.recordFailure settings ip now
  | .success | .reset => limiter.clear ip

/-- A new limiter. -/
def fresh (now : Seconds) : LoginRateLimiter where
  records := fun _ => none
  lastCleanup := now

end LoginRateLimiter

/-! ### Runs -/

/-- What happened to the failures of an address. -/
inductive LoginEntry where
  | failed (ip : String) (now : Seconds)
  | cleared (ip : String)

/-- When the failures of an address were, since they were cleared. The newest is first. -/
def failuresOf (ip : String) : List LoginEntry → List Seconds
  | [] => []
  | .failed other now :: earlier =>
    if other = ip then now :: failuresOf ip earlier else failuresOf ip earlier
  | .cleared other :: earlier => if other = ip then [] else failuresOf ip earlier

/-- What a call adds to the history. -/
def LoginCall.entries (ip : String) : LoginCall → List LoginEntry
  | .check _ _ => []
  | .failure now => [.failed ip now]
  | .success | .reset => [.cleared ip]

/-- The clock does not run backwards from the last reading of it. -/
def LoginCall.Follows (clock : Seconds) : LoginCall → Prop
  | .check began now => clock ≤ began ∧ began ≤ now
  | .failure now => clock ≤ now
  | .success | .reset => True

instance (clock : Seconds) (call : LoginCall) : Decidable (call.Follows clock) := by
  cases call <;> unfold LoginCall.Follows <;> infer_instance

/-- The last reading of the clock. -/
def LoginCall.clock (clock : Seconds) : LoginCall → Seconds
  | .check _ now | .failure now => now
  | .success | .reset => clock

/-- The limiter along a run, with its entries. -/
structure LoginTrace where
  limiter : LoginRateLimiter
  clock : Seconds
  history : List LoginEntry

/-- A call of an address. -/
structure LoginEvent where
  ip : String
  call : LoginCall

namespace LoginTrace

def Initial (trace : LoginTrace) : Prop :=
  trace.limiter = .fresh trace.clock ∧ trace.history = []

def apply (trace : LoginTrace) (event : LoginEvent) : Option LoginTrace :=
  if event.call.Follows trace.clock then
    some
      { limiter := trace.limiter.after settings event.ip event.call
        clock := event.call.clock trace.clock
        history := event.call.entries event.ip ++ trace.history }
  else
    none

/-- A check of the address is refused whenever it comes before some time. -/
def Refused (trace : LoginTrace) (ip : String) (lockedUntil : Seconds) : Prop :=
  ∀ began now, trace.clock ≤ began → began ≤ now → now < lockedUntil →
    ∃ error, (trace.limiter.checkRateLimit settings ip began now).1 = .error error

end LoginTrace

/-- One step of a run. -/
def LoginStep (event : LoginEvent) (trace after : LoginTrace) : Prop :=
  trace.apply settings event = some after

end Pullbox.Limits
