import Mathlib.Algebra.BigOperators.Group.List.Basic
import Mathlib.Algebra.GroupWithZero.Nat
import Pullbox.Direct.Limiter

/-!
# Permits are conserved

Every permit is at its semaphore, granted to a waiter, or with a call. An event moves
permits between these three, with one exception: a cancellation that reaches a call after its
acquire task has obtained the permit and before `_acquire_with_cancel` has returned.
-/

namespace Pullbox.Direct

open Async List Option Semaphore

/-- The semaphore in whose queue the call or its acquire task stands. -/
def SlotPhase.awaits : SlotPhase → Option Permit
  | .direct permit _ => some permit
  | .racing permit .waiting _ => some permit
  | .gathering permit .withdrawing _ => some permit
  | _ => none

/-- The permit that the acquire task has obtained and `slot` does not know of yet. -/
def SlotPhase.inHand : SlotPhase → List Permit
  | .racing permit .acquired _ => [permit]
  | .settling permit => [permit]
  | _ => []

def SlotCall.awaits : SlotCall → Option Permit
  | .running task => task.phase.awaits
  | .ended _ => none

/-- The permits with a call. -/
def SlotCall.permits : SlotCall → List Permit
  | .running task => task.phase.inHand ++ task.acquired
  | .ended _ => []

namespace LimiterState

/-- How many permits of a semaphore are with calls. -/
def held (state : LimiterState) (permit : Permit) : Nat :=
  (state.calls.map (fun call => call.permits.count permit)).sum

/-- The permits at the semaphore, granted, and with calls. -/
def total (state : LimiterState) (permit : Permit) : Nat :=
  (state.semaphores permit).permits + state.held permit

/-- Who stands in a queue is a call that awaits this semaphore, once. -/
structure Linked (state : LimiterState) : Prop where
  distinct : ∀ permit, (ids (state.semaphores permit).waiters).Nodup
  waits : ∀ permit index, index ∈ ids (state.semaphores permit).waiters →
    ∃ task, state.calls[index]? = some (.running task) ∧ task.phase.awaits = some permit

/-! ### One semaphore at a time -/

variable {state mid : LimiterState} {index : Nat} {task : SlotTask} {call : SlotCall}
  {permit other : Permit} {after : LimiterState}

@[simp]
theorem update_calls (change : Semaphore Nat → Semaphore Nat) :
    (state.update permit change).calls = state.calls := rfl

@[simp]
theorem update_semaphores (change : Semaphore Nat → Semaphore Nat) :
    (state.update permit change).semaphores other =
      if other = permit then change (state.semaphores permit) else state.semaphores other := by
  simp [update, Function.update_apply]

theorem update_ids {change : Semaphore Nat → Semaphore Nat}
    (same : ids (change (state.semaphores permit)).waiters = ids (state.semaphores permit).waiters) :
    ids ((state.update permit change).semaphores other).waiters =
      ids (state.semaphores other).waiters := by
  by_cases here : other = permit
  · subst here
    simpa using same
  · simp [here]

@[simp]
theorem releaseAll_calls (permits : List Permit) :
    (state.releaseAll permits).calls = state.calls := by
  induction permits generalizing state with
  | nil => rfl
  | cons first rest ih => exact ih.trans (update_calls _)

@[simp]
theorem releaseAll_ids (permits : List Permit) :
    ids ((state.releaseAll permits).semaphores other).waiters =
      ids (state.semaphores other).waiters := by
  induction permits generalizing state with
  | nil => rfl
  | cons first rest ih => exact ih.trans (update_ids (release_ids _))

@[simp]
theorem releaseAll_permits (permits : List Permit) :
    ((state.releaseAll permits).semaphores other).permits =
      (state.semaphores other).permits + permits.count other := by
  induction permits generalizing state with
  | nil => rfl
  | cons first rest ih =>
    refine ih.trans ?_
    by_cases here : other = first
    · subst here
      simp
      omega
    · simp [here, Ne.symm here]

@[simp]
theorem cancelInner_calls (acquire : AcquireTask) :
    (state.cancelInner index permit acquire).calls = state.calls := by
  unfold cancelInner
  split <;> rfl

@[simp]
theorem cancelInner_ids (acquire : AcquireTask) :
    ids ((state.cancelInner index permit acquire).semaphores other).waiters =
      ids (state.semaphores other).waiters := by
  unfold cancelInner
  split
  · exact update_ids (cancelWaiter_ids _ _)
  · rfl

@[simp]
theorem cancelInner_permits (acquire : AcquireTask) :
    ((state.cancelInner index permit acquire).semaphores other).permits =
      (state.semaphores other).permits := by
  unfold cancelInner
  split
  · by_cases here : other = permit
    · subst here
      simp
    · simp [here]
  · rfl

/-! ### One call at a time -/

theorem sum_map_set (weight : SlotCall → Nat) (call : SlotCall) {calls : List SlotCall}
    {before : SlotCall}
    (found : calls[index]? = some before) :
    ((calls.set index call).map weight).sum + weight before =
      (calls.map weight).sum + weight call := by
  induction calls generalizing index with
  | nil => simp at found
  | cons first rest ih =>
    cases index with
    | zero =>
      simp only [List.getElem?_cons_zero, Option.some.injEq] at found
      subst found
      simp only [set_cons_zero, map_cons, sum_cons]
      omega
    | succ index =>
      have later := ih (by simpa using found)
      simp only [set_cons_succ, map_cons, sum_cons]
      omega

/-- What a call's event does to the queues before the call is put back. -/
structure Queues (state mid : LimiterState) (index : Nat) (call : SlotCall) : Prop where
  calls : mid.calls = state.calls
  distinct : ∀ permit, (ids (mid.semaphores permit).waiters).Nodup
  others : ∀ permit waiter, waiter ∈ ids (mid.semaphores permit).waiters → waiter ≠ index →
    waiter ∈ ids (state.semaphores permit).waiters
  awaiting : ∀ permit, index ∈ ids (mid.semaphores permit).waiters → call.awaits = some permit

theorem Linked.put (linked : Linked state) (found : state.calls[index]? = some (.running task))
    (queues : Queues state mid index call) : Linked (mid.put index call) where
  distinct := queues.distinct
  waits := by
    intro permit waiter queued
    have bound : index < state.calls.length := (List.getElem?_eq_some_iff.1 found).1
    by_cases self : waiter = index
    · subst self
      have awaits := queues.awaiting permit queued
      cases call with
      | running after => exact ⟨after, by simp [LimiterState.put, queues.calls, bound], awaits⟩
      | ended failure => cases awaits
    · obtain ⟨before, stands, awaits⟩ :=
        linked.waits permit waiter (queues.others permit waiter queued self)
      refine ⟨before, ?_, awaits⟩
      simp [LimiterState.put, queues.calls, List.getElem?_set_ne (Ne.symm self), stands]

/-- Queues whose waiters are the same leave a call where it stood. -/
theorem Queues.same (linked : Linked state)
    (found : state.calls[index]? = some (.running task)) (calls : mid.calls = state.calls)
    (queues : ∀ permit, ids (mid.semaphores permit).waiters =
      ids (state.semaphores permit).waiters)
    (awaits : call.awaits = task.phase.awaits) : Queues state mid index call where
  calls := calls
  distinct permit := by
    rw [queues]
    exact linked.distinct permit
  others permit waiter queued _ := queues permit ▸ queued
  awaiting permit queued := by
    rw [queues] at queued
    obtain ⟨_, stands, waiting⟩ := linked.waits permit index queued
    cases stands.symm.trans found
    exact awaits.trans waiting

/-- A call that stood in no queue starts to wait. -/
theorem Queues.enqueue (linked : Linked state)
    (found : state.calls[index]? = some (.running task)) (idle : task.phase.awaits = none)
    (awaits : call.awaits = some permit) :
    Queues state (state.update permit (·.enqueue index)) index call where
  calls := rfl
  distinct other := by
    by_cases here : other = permit
    · subst here
      simp only [update_semaphores, if_true, enqueue_ids]
      rw [← concat_eq_append]
      apply List.Nodup.concat _ (linked.distinct other)
      intro queued
      obtain ⟨_, stands, waiting⟩ := linked.waits other index queued
      cases stands.symm.trans found
      exact some_ne_none _ (waiting.symm.trans idle)
    · simpa [here] using linked.distinct other
  others other waiter queued elsewhere := by
    by_cases here : other = permit
    · subst here
      simpa [elsewhere] using queued
    · simpa [here] using queued
  awaiting other queued := by
    by_cases here : other = permit
    · exact here ▸ awaits
    · rw [update_semaphores, if_neg here] at queued
      obtain ⟨_, stands, waiting⟩ := linked.waits other index queued
      cases stands.symm.trans found
      exact absurd (waiting.symm.trans idle) (some_ne_none _)

/-- A call that stood in a queue has left it. -/
theorem Queues.erase (linked : Linked state)
    (found : state.calls[index]? = some (.running task))
    (waiting : task.phase.awaits = some permit) (calls : mid.calls = state.calls)
    (left : ids (mid.semaphores permit).waiters =
      (ids (state.semaphores permit).waiters).erase index)
    (queues : ∀ other, other ≠ permit → ids (mid.semaphores other).waiters =
      ids (state.semaphores other).waiters) : Queues state mid index call where
  calls := calls
  distinct other := by
    by_cases here : other = permit
    · rw [here, left]
      exact (linked.distinct permit).erase index
    · rw [queues other here]
      exact linked.distinct other
  others other waiter queued elsewhere := by
    by_cases here : other = permit
    · rw [here, left] at queued
      exact here ▸ mem_of_mem_erase queued
    · exact queues other here ▸ queued
  awaiting other queued := by
    by_cases here : other = permit
    · rw [here, left] at queued
      exact absurd queued (linked.distinct permit).not_mem_erase
    · rw [queues other here] at queued
      obtain ⟨_, stands, awaits⟩ := linked.waits other index queued
      cases stands.symm.trans found
      exact absurd (Option.some.inj (awaits.symm.trans waiting)) here

/-- What an event does to the queues and to the number of permits. -/
structure Accounted (state after : LimiterState) (lost : Permit → Nat) : Prop where
  linked : Linked after
  total : ∀ permit, after.total permit + lost permit = state.total permit

/-- A call's event keeps the permits of a semaphore and of the call together. -/
theorem Accounted.put {lost : Permit → Nat} (linked : Linked state)
    (found : state.calls[index]? = some (.running task)) (queues : Queues state mid index call)
    (counted : ∀ permit, (mid.semaphores permit).permits + call.permits.count permit +
      lost permit = (state.semaphores permit).permits +
        (SlotCall.running task).permits.count permit) :
    Accounted state (mid.put index call) lost where
  linked := linked.put found queues
  total permit := by
    have sums := sum_map_set (fun call => call.permits.count permit) call found
    have permits := counted permit
    simp only [LimiterState.total, LimiterState.held, LimiterState.put, queues.calls] at sums ⊢
    omega

/-! ### One event at a time -/

@[simp]
theorem running_permits : (SlotCall.running task).permits = task.phase.inHand ++ task.acquired :=
  rfl

@[simp]
theorem ended_permits (failure : Option SlotFailure) : (SlotCall.ended failure).permits = [] := rfl

theorem count_cons (permits : List Permit) :
    (permit :: permits).count other = permits.count other + if other = permit then 1 else 0 := by
  by_cases here : other = permit
  · simp [here]
  · simp [here, Ne.symm here]

/-- One semaphore hands permits to a call, or gets them back. -/
theorem Accounted.exchange (handed returned : Nat)
    {change : Semaphore Nat → Semaphore Nat} {lost : Permit → Nat} (linked : Linked state)
    (found : state.calls[index]? = some (.running task))
    (queues : Queues state (state.update permit change) index call)
    (changed : (change (state.semaphores permit)).permits + handed =
      (state.semaphores permit).permits + returned)
    (carried : ∀ other, call.permits.count other + (if other = permit then returned else 0) +
      lost other = (task.phase.inHand ++ task.acquired).count other +
        (if other = permit then handed else 0)) :
    Accounted state ((state.update permit change).put index call) lost := by
  apply Accounted.put linked found queues
  intro other
  have counted := carried other
  by_cases here : other = permit
  · subst here
    simp only [update_semaphores, if_true, running_permits] at counted ⊢
    omega
  · simp only [update_semaphores, here, if_false, running_permits] at counted ⊢
    omega

section Events

variable (linked : Linked state) (found : state.calls[index]? = some (.running task))
include linked found

/-- A call that ends gives back what `slot` knows of. -/
theorem finish_accounted (idle : task.phase.awaits = none) (failure : Option SlotFailure) :
    Accounted state (state.finish index task failure)
      (fun permit => task.phase.inHand.count permit) := by
  apply Accounted.put linked found
  · exact .same linked found (releaseAll_calls _) (fun _ => releaseAll_ids _) idle.symm
  · intro permit
    simp only [releaseAll_permits, ended_permits, running_permits, count_append,
      count_nil]
    omega

/-- A call moves on while the semaphores stay as they are. -/
theorem stay_accounted {after : SlotTask} (acquired : after.acquired = task.acquired)
    (awaits : after.phase.awaits = task.phase.awaits)
    (hand : after.phase.inHand = task.phase.inHand) :
    Accounted state (state.put index (.running after)) (fun _ => 0) := by
  apply Accounted.put linked found
  · exact .same linked found rfl (fun _ => rfl) awaits
  · intro permit
    simp [hand, acquired]

theorem acquire_accounted (ready : task.phase = .ready) (rest : List Permit) :
    Accounted state (state.acquire index task permit rest) (fun _ => 0) := by
  have idle : task.phase.awaits = none := by rw [ready]; rfl
  have empty : task.phase.inHand = [] := by rw [ready]; rfl
  unfold acquire
  cases event : task.cancelEvent with
  | none =>
    by_cases locked : (state.semaphores permit).locked = true
    · simp only [locked, if_true]
      apply Accounted.exchange 0 0 linked found
      · exact .enqueue linked found idle rfl
      · exact enqueue_permits _ _
      · intro other
        rw [empty]
        simp [SlotPhase.inHand]
    · simp only [locked]
      apply Accounted.exchange 1 0 linked found
      · exact .same linked found rfl (fun _ => update_ids (take_ids _)) idle.symm
      · exact take_permits (Bool.eq_false_iff.2 locked)
      · intro other
        rw [empty]
        simp [SlotPhase.inHand, count_cons]
  | some flag =>
    by_cases raised : state.events flag = true
    · simp only [raised, if_true]
      have finished := finish_accounted linked found idle (some .transferCancelled)
      rw [empty] at finished
      exact finished
    · simp only [raised]
      exact stay_accounted linked found rfl idle.symm empty.symm

/-- The waiter's grant becomes the call's permit. -/
theorem collect_accounted {after : SlotTask} (awaiting : task.phase.awaits = some permit)
    (granted : (index, .granted) ∈ (state.semaphores permit).waiters)
    (carried : ∀ other, (SlotCall.running after).permits.count other =
      (SlotCall.running task).permits.count other + if other = permit then 1 else 0) :
    Accounted state ((state.update permit (·.collect index)).put index (.running after))
      (fun _ => 0) := by
  apply Accounted.exchange 1 0 linked found
  · apply Queues.erase linked found awaiting
    · rfl
    · simp
    · intro other elsewhere
      simp [elsewhere]
  · exact collect_permits (linked.distinct permit) granted
  · intro other
    simpa using carried other

/-- A cancelled waiter leaves the queue with nothing. -/
theorem withdraw_queues (awaiting : task.phase.awaits = some permit) (permits : List Permit) :
    Queues state ((state.update permit (·.withdraw index)).releaseAll permits) index call := by
  apply Queues.erase linked found awaiting
  · simp
  · simp
  · intro other elsewhere
    simp [elsewhere]

omit found in
theorem withdraw_counted :
    ((state.update permit (·.withdraw index)).semaphores other).permits =
      (state.semaphores other).permits := by
  by_cases here : other = permit
  · subst here
    simpa using withdraw_permits index (linked.distinct other)
  · simp [here]

theorem settle_accounted {acquire : AcquireTask} {noticed : Bool}
    (phase : task.phase = .racing permit acquire noticed)
    (settled : state.settle index task permit acquire noticed = some after) :
    Accounted state after (fun _ => 0) := by
  unfold settle at settled
  cases noticed with
  | true =>
    by_cases acquired : acquire = .acquired
    · simp only [acquired, if_true, Option.some.injEq] at settled
      subst settled
      apply Accounted.exchange 0 1 linked found
      · apply Queues.same linked found
        · rfl
        · exact fun _ => update_ids (release_ids _)
        · simp [phase, acquired, SlotPhase.awaits, SlotCall.awaits]
      · exact release_permits _
      · intro other
        simp [phase, acquired, SlotPhase.inHand, count_cons]
    · simp only [acquired, if_true, if_false, Option.some.injEq] at settled
      subst settled
      apply Accounted.put linked found
      · apply Queues.same linked found
        · exact cancelInner_calls _
        · exact fun _ => cancelInner_ids _
        · rw [phase]
          cases acquire <;> rfl
      · intro other
        rw [cancelInner_permits, running_permits, running_permits, phase]
        cases acquire with
        | created | waiting => rfl
        | acquired => exact absurd rfl acquired
  | false =>
    by_cases acquired : acquire = .acquired
    · simp only [acquired, if_true, Bool.false_eq_true, if_false, Option.some.injEq] at settled
      subst settled
      apply stay_accounted linked found
      · rfl
      · simp [phase, acquired, SlotPhase.awaits]
      · simp [phase, acquired, SlotPhase.inHand]
    · simp [acquired] at settled

theorem resume_accounted (resumed : state.resume index task = some after) :
    Accounted state after (fun _ => 0) := by
  unfold resume at resumed
  cases phase : task.phase with
  | ready =>
    rw [phase] at resumed
    cases path : task.remaining with
    | nil =>
      simp only [path, Option.some.injEq] at resumed
      subst resumed
      exact stay_accounted linked found rfl (by rw [phase]; rfl) (by rw [phase]; rfl)
    | cons permit rest =>
      simp only [path, Option.some.injEq] at resumed
      subst resumed
      exact acquire_accounted linked found phase rest
  | direct permit leaving =>
    rw [phase] at resumed
    have awaiting : task.phase.awaits = some permit := by rw [phase]; rfl
    cases leaving with
    | false =>
      obtain ⟨granted, obtained⟩ := ite_none_right_eq_some.1 resumed
      cases obtained
      apply collect_accounted linked found awaiting granted
      intro other
      simp [phase, SlotPhase.inHand, count_cons]
    | true =>
      simp only [Option.some.injEq] at resumed
      subst resumed
      apply Accounted.put linked found
      · exact withdraw_queues linked found awaiting task.acquired
      · intro other
        rw [releaseAll_permits, withdraw_counted linked]
        simp [phase, SlotPhase.inHand]
  | racing permit acquire noticed =>
    rw [phase] at resumed
    exact settle_accounted linked found phase resumed
  | settling permit =>
    rw [phase] at resumed
    simp only [Option.some.injEq] at resumed
    subst resumed
    apply Accounted.put linked found
    · exact .same linked found rfl (fun _ => rfl) (by rw [phase]; rfl)
    · intro other
      simp [phase, SlotPhase.inHand]
  | gathering permit acquire failure =>
    rw [phase] at resumed
    obtain ⟨rfl, finished⟩ := ite_none_right_eq_some.1 resumed
    cases finished
    have accounted := finish_accounted linked found (by rw [phase]; rfl) (some failure)
    rw [phase] at accounted
    exact accounted
  | body =>
    rw [phase] at resumed
    simp only [Option.some.injEq] at resumed
    subst resumed
    have accounted := finish_accounted linked found (by rw [phase]; rfl) none
    rw [phase] at accounted
    exact accounted

theorem inner_accounted (ran : state.inner index task = some after) :
    Accounted state after (fun _ => 0) := by
  unfold inner at ran
  split at ran
  case h_1 permit noticed phase =>
    by_cases locked : (state.semaphores permit).locked = true
    · simp only [locked, if_true, Option.some.injEq] at ran
      subst ran
      apply Accounted.exchange 0 0 linked found
      · exact .enqueue linked found (by rw [phase]; rfl) rfl
      · exact enqueue_permits _ _
      · intro other
        simp [phase, SlotPhase.inHand]
    · simp only [locked, if_false, Option.some.injEq, Bool.false_eq_true] at ran
      subst ran
      apply Accounted.exchange 1 0 linked found
      · apply Queues.same linked found
        · rfl
        · exact fun _ => update_ids (take_ids _)
        · rw [phase]
          rfl
      · exact take_permits (Bool.eq_false_iff.2 locked)
      · intro other
        simp [phase, SlotPhase.inHand, count_cons]
  case h_2 permit noticed phase =>
    obtain ⟨granted, obtained⟩ := ite_none_right_eq_some.1 ran
    cases obtained
    apply collect_accounted linked found _ granted
    · intro other
      simp [phase, SlotPhase.inHand, count_cons]
    · rw [phase]
      rfl
  case h_3 permit failure phase =>
    cases ran
    apply stay_accounted linked found
    · rfl
    · simp [phase, SlotPhase.awaits]
    · simp [phase, SlotPhase.inHand]
  case h_4 permit failure phase =>
    cases ran
    apply Accounted.put linked found
    · exact withdraw_queues linked found (by rw [phase]; rfl) []
    · intro other
      rw [withdraw_counted linked]
      simp [phase, SlotPhase.inHand]
  case h_5 => cases ran

theorem notice_accounted (noticed : state.notice index task = some after) :
    Accounted state after (fun _ => 0) := by
  unfold notice at noticed
  split at noticed
  case h_1 permit acquire event phase _ =>
    obtain ⟨_, moved⟩ := ite_none_right_eq_some.1 noticed
    cases moved
    apply stay_accounted linked found
    · rfl
    · cases acquire <;> simp [phase, SlotPhase.awaits]
    · cases acquire <;> simp [phase, SlotPhase.inHand]
  case h_2 => cases noticed

/-- A cancellation loses what the acquire task has obtained, and nothing else. -/
theorem cancel_accounted (cancelled : state.cancel index task = some after) :
    Accounted state after (fun permit => task.phase.inHand.count permit) := by
  unfold cancel at cancelled
  split at cancelled
  case h_1 => cases cancelled
  case h_2 permit leaving phase =>
    cases cancelled
    apply Accounted.exchange 0 0 linked found
    · apply Queues.same linked found
      · rfl
      · exact fun _ => update_ids (cancelWaiter_ids _ _)
      · rw [phase]
        rfl
    · exact cancelWaiter_permits _ _
    · intro other
      simp [phase, SlotPhase.inHand]
  case h_3 permit acquire noticed phase =>
    cases cancelled
    apply Accounted.put linked found
    · apply Queues.same linked found
      · exact cancelInner_calls _
      · exact fun _ => cancelInner_ids _
      · rw [phase]
        cases acquire <;> rfl
    · intro other
      simp only [running_permits, phase, cancelInner_permits, SlotPhase.inHand,
        count_append, count_nil]
      omega
  case h_4 permit phase =>
    cases cancelled
    exact finish_accounted linked found (by rw [phase]; rfl) _
  case h_5 permit acquire failure phase =>
    cases cancelled
    rw [phase]
    apply stay_accounted linked found
    · rfl
    · cases acquire <;> simp [phase, SlotPhase.awaits]
    · simp [phase, SlotPhase.inHand]
  case h_6 phase =>
    cases cancelled
    exact finish_accounted linked found (by rw [phase]; rfl) _

end Events

/-! ### Runs -/

/-- The permits a cancellation takes from a call that does not know of them yet. -/
def lost (state : LimiterState) : LimiterEvent → Permit → Nat
  | .cancel index, permit =>
    match state.calls[index]? with
    | some (.running task) => task.phase.inHand.count permit
    | _ => 0
  | _, _ => 0

theorem enter_accounted (linked : Linked state) (request : SlotRequest)
    (cancelEvent : Option Nat) : Accounted state (state.enter request cancelEvent)
    (fun _ => 0) where
  linked := {
    distinct := linked.distinct
    waits := by
      intro permit index queued
      obtain ⟨task, found, awaits⟩ := linked.waits permit index queued
      refine ⟨task, ?_, awaits⟩
      have bound : index < state.calls.length := (List.getElem?_eq_some_iff.1 found).1
      rw [enter, List.getElem?_append_left bound]
      exact found }
  total := by
    intro permit
    cases path : request.path with
    | error message => simp [LimiterState.total, held, enter, path]
    | ok path => simp [LimiterState.total, held, enter, path, SlotPhase.inHand]

theorem withTask_eq_some {act : SlotTask → Option LimiterState}
    (acted : state.withTask index act = some after) :
    ∃ task, state.calls[index]? = some (.running task) ∧ act task = some after := by
  unfold withTask at acted
  split at acted
  case h_1 task found => exact ⟨task, found, acted⟩
  case h_2 => cases acted

/-- What an event loses is all that is missing after it. -/
theorem step_accounted {event : LimiterEvent} (linked : Linked state)
    (stepped : state.step event = some after) : Accounted state after (state.lost event) := by
  cases event with
  | enter request cancelEvent =>
    cases stepped
    exact enter_accounted linked request cancelEvent
  | resume index =>
    obtain ⟨task, found, resumed⟩ := withTask_eq_some stepped
    exact resume_accounted linked found resumed
  | inner index =>
    obtain ⟨task, found, ran⟩ := withTask_eq_some stepped
    exact inner_accounted linked found ran
  | notice index =>
    obtain ⟨task, found, noticed⟩ := withTask_eq_some stepped
    exact notice_accounted linked found noticed
  | cancel index =>
    obtain ⟨task, found, cancelled⟩ := withTask_eq_some stepped
    have taken : state.lost (.cancel index) = fun permit => task.phase.inHand.count permit := by
      funext permit
      simp only [lost, found]
    rw [taken]
    exact cancel_accounted linked found cancelled
  | setEvent event =>
    cases stepped
    exact ⟨⟨linked.distinct, linked.waits⟩, fun _ => rfl⟩

def run (state : LimiterState) (events : List LimiterEvent) : Option LimiterState :=
  events.foldlM step state

/-- The permits that are lost along a run. -/
def lostAlong (state : LimiterState) : List LimiterEvent → Permit → Nat
  | [], _ => 0
  | event :: rest, permit =>
    state.lost event permit +
      match state.step event with
      | some after => after.lostAlong rest permit
      | none => 0

/-- Along a run, what is missing from the permits is what was lost on the way. -/
theorem run_accounted {events : List LimiterEvent}
    (linked : Linked state) (ran : state.run events = some after) :
    Accounted state after (state.lostAlong events) := by
  induction events generalizing state with
  | nil =>
    cases ran
    exact ⟨linked, fun _ => rfl⟩
  | cons event rest ih =>
    obtain ⟨between, stepped, later⟩ := bind_eq_some_iff.1 ran
    have first := step_accounted linked stepped
    have others := ih first.linked later
    refine ⟨others.linked, fun permit => ?_⟩
    have atFirst := first.total permit
    have atOthers := others.total permit
    simp only [lostAlong, stepped]
    omega

theorem initial_linked (limits : TransferLimits) : Linked (initial limits) where
  distinct _ := nodup_nil
  waits _ _ queued := absurd queued not_mem_nil

/-- The event is no cancellation of a call with a permit in hand. -/
def Spares (state : LimiterState) (event : LimiterEvent) : Prop :=
  ∀ index task, event = .cancel index → state.calls[index]? = some (.running task) →
    task.phase.inHand = []

/-- No cancellation of the run reaches a call with a permit in hand. -/
def Spared (state : LimiterState) : List LimiterEvent → Prop
  | [] => True
  | event :: rest =>
    state.Spares event ∧ ∀ after, state.step event = some after → after.Spared rest

theorem lost_eq_zero_iff {event : LimiterEvent} :
    (∀ permit, state.lost event permit = 0) ↔ state.Spares event := by
  constructor
  · rintro nothing index task rfl found
    apply eq_nil_iff_forall_not_mem.2
    intro permit inside
    have none := nothing permit
    simp only [lost, found] at none
    exact count_eq_zero.1 none inside
  · intro spares permit
    unfold lost
    split
    case h_1 index =>
      split
      case h_1 task found => rw [spares index task rfl found, count_nil]
      case h_2 => rfl
    case h_2 => rfl

/-- No permit is lost exactly in the runs whose steps spare them. -/
theorem lostAlong_eq_zero_iff {events : List LimiterEvent}
    (ran : state.run events = some after) :
    (∀ permit, state.lostAlong events permit = 0) ↔ state.Spared events := by
  induction events generalizing state with
  | nil => simp [lostAlong, Spared]
  | cons event rest ih =>
    obtain ⟨between, stepped, later⟩ := bind_eq_some_iff.1 ran
    simp only [lostAlong, stepped, Nat.add_eq_zero_iff, forall_and, Spared,
      lost_eq_zero_iff, ih later, Option.some.injEq, forall_eq']

/-- All calls have left their slots. -/
def Ended (state : LimiterState) : Prop :=
  ∀ call ∈ state.calls, ∃ failure, call = .ended failure

/-- Nobody waits, holds or is granted anything when all calls have ended. -/
theorem total_of_ended (linked : Linked state) (ended : state.Ended) :
    state.total permit = (state.semaphores permit).value := by
  have idle : ids (state.semaphores permit).waiters = [] := by
    apply eq_nil_iff_forall_not_mem.2
    intro index queued
    obtain ⟨task, found, _⟩ := linked.waits permit index queued
    obtain ⟨failure, closed⟩ := ended _ (mem_of_getElem? found)
    cases closed
  have none : state.held permit = 0 := by
    apply sum_eq_zero
    intro weight listed
    obtain ⟨call, member, rfl⟩ := mem_map.1 listed
    obtain ⟨failure, rfl⟩ := ended call member
    rfl
  rw [total, permits_of_idle idle, none, Nat.add_zero]

/-- In every run, calls never hold more permits than the limit. As long as no cancellation
reaches a call that has obtained a permit inside `_acquire_with_cancel`, the permits that are
not with calls are at their semaphores; and when all calls have ended, every permit has been
returned if and only if there was no such cancellation. -/
theorem run_permits_returned_iff (limits : TransferLimits) {events : List LimiterEvent}
    {after : LimiterState} (ran : (initial limits).run events = some after) :
    (∀ permit, after.held permit ≤ limits.limit permit) ∧
      ((initial limits).Spared events → ∀ permit,
        (after.semaphores permit).permits + after.held permit = limits.limit permit) ∧
      (after.Ended → ((∀ permit, (after.semaphores permit).value = limits.limit permit) ↔
        (initial limits).Spared events)) := by
  have accounted := run_accounted (initial_linked limits) ran
  have totals : ∀ permit, after.total permit + (initial limits).lostAlong events permit =
      limits.limit permit := accounted.total
  have spared := lostAlong_eq_zero_iff ran
  refine ⟨fun permit => ?_, fun nothing permit => ?_, fun ended => ?_⟩
  · have atEnd := totals permit
    unfold total at atEnd
    omega
  · have atEnd := totals permit
    rw [spared.2 nothing permit, Nat.add_zero] at atEnd
    exact atEnd
  · rw [← spared]
    apply forall_congr'
    intro permit
    have atEnd := totals permit
    rw [total_of_ended accounted.linked ended] at atEnd
    omega

/-! ### Two runs -/

/-- The limits of an executor without settings. -/
def defaultLimits : TransferLimits where
  artifacts := ⟨3, 1, fun _ => none, by decide, by decide, nofun⟩
  providers := ⟨1, by decide⟩

/-- Two transfers from one host: the second is cancelled while it waits for the first. -/
def contendedEvents : List LimiterEvent :=
  [.enter (.artifact .pixeldrain) (some 0), .resume 0, .inner 0, .resume 0, .resume 0,
    .enter (.artifact .pixeldrain) none, .resume 1, .resume 0, .inner 0, .resume 0, .resume 0,
    .resume 0, .resume 0, .cancel 1, .resume 1]

theorem contendedEvents_end :
    ((initial defaultLimits).run contendedEvents).map LimiterState.calls =
      some [.ended none, .ended (some .cancelled)] := by
  decide +kernel

/-- Of two transfers of one host, one is cancelled while it waits. -/
theorem contended_permits_returned :
    ∃ after, (initial defaultLimits).run contendedEvents = some after ∧
      (∀ permit, after.held permit ≤ defaultLimits.limit permit) ∧
      ((∀ permit, (after.semaphores permit).value = defaultLimits.limit permit) ↔
        (initial defaultLimits).Spared contendedEvents) := by
  obtain ⟨after, ran, calls⟩ := map_eq_some_iff.1 contendedEvents_end
  obtain ⟨bounded, _, returned⟩ := run_permits_returned_iff defaultLimits ran
  refine ⟨after, ran, bounded, returned ?_⟩
  intro call member
  simp only [calls, mem_cons, not_mem_nil, or_false] at member
  rcases member with rfl | rfl
  · exact ⟨_, rfl⟩
  · exact ⟨_, rfl⟩

/-- The acquire task obtains the host's permit; the transfer is cancelled before it runs. -/
def cancelledEvents : List LimiterEvent :=
  [.enter (.artifact .pixeldrain) (some 0), .resume 0, .inner 0, .cancel 0, .resume 0]

theorem cancelledEvents_end :
    ((initial defaultLimits).run cancelledEvents).map
        (fun after => (after.calls, (after.semaphores (.host .pixeldrain)).value)) =
      some ([.ended (some .cancelled)], 0) := by
  decide +kernel

/-- The only permit of a host is lost although all calls have ended. -/
theorem cancelled_permit_lost :
    ¬ ∀ limits events after, (initial limits).run events = some after → after.Ended →
      ∀ permit, (after.semaphores permit).value = limits.limit permit := by
  intro returned
  obtain ⟨after, ran, outcome⟩ := map_eq_some_iff.1 cancelledEvents_end
  obtain ⟨calls, value⟩ := Prod.mk.inj outcome
  have ended : after.Ended := by
    intro call member
    rw [calls, mem_singleton] at member
    exact ⟨_, member⟩
  have full := returned defaultLimits cancelledEvents after ran ended (.host .pixeldrain)
  exact absurd (value.symm.trans full) (by decide)

end LimiterState

end Pullbox.Direct
