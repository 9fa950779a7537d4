import Pullbox.Async.Semaphore
import Pullbox.Direct.State
import Pullbox.Text.Characters

/-!
# Artifact transfer limits

The permits that bound artifact transfers (`limiter.py`): one global, one for each artifact
host and one for each direct provider. `slot` acquires its permits one after the other,
each raced against the cancel event, and gives them back when the body ends.

An event is one piece of work of the event loop: a task runs from one await to the next, or
a `CancelledError` is delivered at the await a call stands at.
-/

namespace Pullbox.Direct

open Async

/-- The source's `_global`, `_hosts` and `_providers`. -/
inductive Permit where
  | global
  | host (hostKind : DirectArtifactHostKind)
  | provider (identity : List Char)
deriving DecidableEq

def DirectArtifactHostKind.all : List DirectArtifactHostKind :=
  [.genericHttps, .pixeldrain, .mega, .rootz, .mediafire, .terabox, .datanodes]

/-- The limits over all hosts and of each. -/
structure ArtifactTransferLimiter where
  globalLimit : Nat
  perHostLimit : Nat
  hostLimits : DirectArtifactHostKind → Option Nat
  globalPositive : 1 ≤ globalLimit
  perHostPositive : 1 ≤ perHostLimit
  hostsPositive : ∀ hostKind limit, hostLimits hostKind = some limit → 1 ≤ limit

/-- The limit of each provider. -/
structure DirectProviderTransferLimiter where
  perProviderLimit : Nat
  positive : 1 ≤ perProviderLimit

/-- `ArtifactTransferLimiter.__init__`. -/
def ArtifactTransferLimiter.create (globalLimit perHostLimit : Int)
    (hostLimits : DirectArtifactHostKind → Option Int) :
    Except String ArtifactTransferLimiter :=
  if globalLow : globalLimit < 1 then
    .error "Global artifact transfer limit must be at least 1."
  else if perHostLow : perHostLimit < 1 then
    .error "Default per-host transfer limit must be at least 1."
  else if low : ∃ hostKind ∈ DirectArtifactHostKind.all,
      (hostLimits hostKind).any (· < 1) = true then
    .error "Every artifact host transfer limit must be at least 1."
  else
    .ok {
      globalLimit := globalLimit.toNat
      perHostLimit := perHostLimit.toNat
      hostLimits := fun hostKind => (hostLimits hostKind).map Int.toNat
      globalPositive := by omega
      perHostPositive := by omega
      hostsPositive := by
        intro hostKind limit found
        obtain ⟨given, override, rfl⟩ := Option.map_eq_some_iff.1 found
        have listed : hostKind ∈ DirectArtifactHostKind.all := by cases hostKind <;> decide
        have positive : ¬ given < 1 := by
          intro negative
          exact low ⟨hostKind, listed, by simp [override, negative]⟩
        omega }

/-- `DirectProviderTransferLimiter.__init__`. -/
def DirectProviderTransferLimiter.create (perProviderLimit : Int) :
    Except String DirectProviderTransferLimiter :=
  if low : perProviderLimit < 1 then
    .error "Default per-provider transfer limit must be at least 1."
  else .ok ⟨perProviderLimit.toNat, by omega⟩

/-- The two limiters of an executor. -/
structure TransferLimits where
  artifacts : ArtifactTransferLimiter
  providers : DirectProviderTransferLimiter

/-- What each semaphore is created with; a provider's is created at its first use. -/
def TransferLimits.limit (limits : TransferLimits) : Permit → Nat
  | .global => limits.artifacts.globalLimit
  | .host hostKind => (limits.artifacts.hostLimits hostKind).getD limits.artifacts.perHostLimit
  | .provider _ => limits.providers.perProviderLimit

/-- Whose slot is asked for. -/
inductive SlotRequest where
  | artifact (hostKind : DirectArtifactHostKind)
  | provider (identity : List Char)

/-- The permits a slot acquires, in order. -/
def SlotRequest.path : SlotRequest → Except String (List Permit)
  | .artifact hostKind => .ok [.host hostKind, .global]
  | .provider identity =>
    let normalized := Text.strip identity
    if normalized = [] then .error "Direct provider identity cannot be empty."
    else .ok [.provider normalized]

/-- What ends a call without its slot. -/
inductive SlotFailure where
  | value (message : String)
  | transferCancelled
  | cancelled
deriving DecidableEq

/-- The task of `semaphore.acquire()` in `_acquire_with_cancel`. -/
inductive AcquireTask where
  | created | waiting | acquired
deriving DecidableEq

/-- An acquire task after its `cancel()`. `dropped` had not run at all, `withdrawing` waits
to leave the semaphore's queue. -/
inductive CancelledTask where
  | dropped | withdrawing | done
deriving DecidableEq

/-- `acquire_task.cancel()`: nothing happens to a task that is done. -/
def AcquireTask.cancel : AcquireTask → CancelledTask
  | .created => .dropped
  | .waiting => .withdrawing
  | .acquired => .done

/-- The await a call stands at. -/
inductive SlotPhase where
  /-- About to acquire its next permit, or to enter the body. -/
  | ready
  /-- In `semaphore.acquire()` without a cancel event; `leaving` once it is cancelled. -/
  | direct (permit : Permit) (leaving : Bool)
  /-- At `asyncio.wait`; `noticed` when the task of the cancel event is done. -/
  | racing (permit : Permit) (task : AcquireTask) (noticed : Bool)
  /-- At the `gather` of the cancelled event task, with the permit. -/
  | settling (permit : Permit)
  /-- At a `gather` of the acquire task that is followed by `raise`. -/
  | gathering (permit : Permit) (task : CancelledTask) (failure : SlotFailure)
  | body
deriving DecidableEq

/-- A call that acquires or holds its permits. -/
structure SlotTask where
  cancelEvent : Option Nat
  remaining : List Permit
  /-- The permits `slot` gives back in its `finally`, the last acquired first. -/
  acquired : List Permit
  phase : SlotPhase
deriving DecidableEq

/-- A call, or what ended it. -/
inductive SlotCall where
  | running (task : SlotTask)
  | ended (failure : Option SlotFailure)
deriving DecidableEq

/-- The semaphores, the cancel events that are set, and the calls. -/
structure LimiterState where
  semaphores : Permit → Semaphore Nat
  events : Nat → Bool
  calls : List SlotCall

namespace LimiterState

def initial (limits : TransferLimits) : LimiterState where
  semaphores permit := ⟨limits.limit permit, []⟩
  events _ := false
  calls := []

def update (state : LimiterState) (permit : Permit) (change : Semaphore Nat → Semaphore Nat) :
    LimiterState :=
  { state with
    semaphores := Function.update state.semaphores permit (change (state.semaphores permit)) }

def put (state : LimiterState) (index : Nat) (call : SlotCall) : LimiterState :=
  { state with calls := state.calls.set index call }

/-- The call goes on with another phase. -/
def move (state : LimiterState) (index : Nat) (task : SlotTask) (phase : SlotPhase) :
    LimiterState :=
  state.put index (.running { task with phase })

/-- `_acquire_with_cancel` returns: the slot has the permit and goes on. -/
def obtain (state : LimiterState) (index : Nat) (task : SlotTask) (permit : Permit) :
    LimiterState :=
  state.put index (.running { task with acquired := permit :: task.acquired, phase := .ready })

def releaseAll (state : LimiterState) (permits : List Permit) : LimiterState :=
  permits.foldl (fun state permit => state.update permit Semaphore.release) state

/-- The `finally` of `slot`. -/
def finish (state : LimiterState) (index : Nat) (task : SlotTask)
    (failure : Option SlotFailure) : LimiterState :=
  (state.releaseAll task.acquired).put index (.ended failure)

/-- The call runs from the start of an `_acquire_with_cancel` to its first await. -/
def acquire (state : LimiterState) (index : Nat) (task : SlotTask) (permit : Permit)
    (rest : List Permit) : LimiterState :=
  let task := { task with remaining := rest }
  match task.cancelEvent with
  | none =>
    if (state.semaphores permit).locked then
      (state.update permit (·.enqueue index)).move index task (.direct permit false)
    else (state.update permit Semaphore.take).obtain index task permit
  | some event =>
    if state.events event then state.finish index task (some .transferCancelled)
    else state.move index task (.racing permit .created false)

/-- `acquire_task.cancel()` on the semaphore: a task that waits has its future cancelled. -/
def cancelInner (state : LimiterState) (index : Nat) (permit : Permit) (inner : AcquireTask) :
    LimiterState :=
  if inner = .waiting then state.update permit (·.cancelWaiter index) else state

/-- `asyncio.wait` returns. -/
def settle (state : LimiterState) (index : Nat) (task : SlotTask) (permit : Permit)
    (inner : AcquireTask) (noticed : Bool) : Option LimiterState :=
  if noticed then
    if inner = .acquired then
      (state.update permit Semaphore.release).move index task
        (.gathering permit .done .transferCancelled)
    else
      (state.cancelInner index permit inner).move index task
        (.gathering permit inner.cancel .transferCancelled)
  else if inner = .acquired then state.move index task (.settling permit)
  else none

/-- The task of the call runs. -/
def resume (state : LimiterState) (index : Nat) (task : SlotTask) : Option LimiterState :=
  match task.phase with
  | .ready =>
    match task.remaining with
    | [] => state.move index task .body
    | permit :: rest => state.acquire index task permit rest
  | .direct permit false =>
    if (index, .granted) ∈ (state.semaphores permit).waiters then
      (state.update permit (·.collect index)).obtain index task permit
    else none
  | .direct permit true =>
    (state.update permit (·.withdraw index)).finish index task (some .cancelled)
  | .racing permit inner noticed => state.settle index task permit inner noticed
  | .settling permit => state.obtain index task permit
  | .gathering _ inner failure =>
    if inner = .done then state.finish index task (some failure) else none
  | .body => state.finish index task none

/-- The acquire task of the call runs. -/
def inner (state : LimiterState) (index : Nat) (task : SlotTask) : Option LimiterState :=
  match task.phase with
  | .racing permit .created noticed =>
    if (state.semaphores permit).locked then
      (state.update permit (·.enqueue index)).move index task (.racing permit .waiting noticed)
    else
      (state.update permit Semaphore.take).move index task (.racing permit .acquired noticed)
  | .racing permit .waiting noticed =>
    if (index, .granted) ∈ (state.semaphores permit).waiters then
      (state.update permit (·.collect index)).move index task (.racing permit .acquired noticed)
    else none
  | .gathering permit .dropped failure => state.move index task (.gathering permit .done failure)
  | .gathering permit .withdrawing failure =>
    (state.update permit (·.withdraw index)).move index task (.gathering permit .done failure)
  | _ => none

/-- The task that waits for the cancel event is done. -/
def notice (state : LimiterState) (index : Nat) (task : SlotTask) : Option LimiterState :=
  match task.phase, task.cancelEvent with
  | .racing permit acquire false, some event =>
    if state.events event then state.move index task (.racing permit acquire true) else none
  | _, _ => none

/-- The task of the call is cancelled at its await. -/
def cancel (state : LimiterState) (index : Nat) (task : SlotTask) : Option LimiterState :=
  match task.phase with
  | .ready => none
  | .direct permit _ =>
    (state.update permit (·.cancelWaiter index)).move index task (.direct permit true)
  | .racing permit acquire _ =>
    (state.cancelInner index permit acquire).move index task
      (.gathering permit acquire.cancel .cancelled)
  | .settling _ => state.finish index task (some .cancelled)
  | .gathering permit acquire _ => state.move index task (.gathering permit acquire .cancelled)
  | .body => state.finish index task (some .cancelled)

end LimiterState

/-- What the loop runs next. -/
inductive LimiterEvent where
  | enter (request : SlotRequest) (cancelEvent : Option Nat)
  | resume (index : Nat)
  | inner (index : Nat)
  | notice (index : Nat)
  | cancel (index : Nat)
  | setEvent (event : Nat)

namespace LimiterState

def withTask (state : LimiterState) (index : Nat)
    (act : SlotTask → Option LimiterState) : Option LimiterState :=
  match state.calls[index]? with
  | some (.running task) => act task
  | _ => none

def enter (state : LimiterState) (request : SlotRequest) (cancelEvent : Option Nat) :
    LimiterState :=
  let call := match request.path with
    | .error message => .ended (some (.value message))
    | .ok path => .running ⟨cancelEvent, path, [], .ready⟩
  { state with calls := state.calls ++ [call] }

/-- One event, or `none` where it cannot happen. -/
def step (state : LimiterState) : LimiterEvent → Option LimiterState
  | .enter request cancelEvent => state.enter request cancelEvent
  | .resume index => state.withTask index (state.resume index)
  | .inner index => state.withTask index (state.inner index)
  | .notice index => state.withTask index (state.notice index)
  | .cancel index => state.withTask index (state.cancel index)
  | .setEvent event => some { state with events := Function.update state.events event true }

end LimiterState

end Pullbox.Direct
