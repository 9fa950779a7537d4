import Mathlib.Data.List.Nodup

/-!
# Counting semaphores with a queue of waiters

The semaphore of an event loop. A waiter stays in the queue until its task runs again,
granted or cancelled; a granted waiter already owns a permit. `permits` counts what the
semaphore still has to give away together with what it has granted and not yet handed over.
-/

namespace Async

open List

universe u

/-- The future of one waiter. -/
inductive WaiterState where
  | pending | granted | cancelled
deriving DecidableEq

/-- A counting semaphore: its value and its waiters, the longest waiting first. -/
structure Semaphore (α : Type u) where
  value : Nat
  waiters : List (α × WaiterState)

namespace Semaphore

variable {α : Type u} {semaphore : Semaphore α}

/-- `locked`: also while waiters that came first have yet to run. -/
def locked (semaphore : Semaphore α) : Bool :=
  semaphore.value == 0 || semaphore.waiters.any (fun waiter => waiter.2 != .cancelled)

/-- The part of `acquire` that finds the semaphore unlocked. -/
def take (semaphore : Semaphore α) : Semaphore α :=
  { semaphore with value := semaphore.value - 1 }

/-- The part of `acquire` that finds it locked and starts to wait. -/
def enqueue (semaphore : Semaphore α) (waiter : α) : Semaphore α :=
  { semaphore with waiters := semaphore.waiters ++ [(waiter, .pending)] }

/-- Grant the first waiter that is not done. -/
def grantFirst : List (α × WaiterState) → Option (List (α × WaiterState))
  | [] => none
  | (waiter, .pending) :: rest => some ((waiter, .granted) :: rest)
  | waiter :: rest => (grantFirst rest).map (waiter :: ·)

/-- `_wake_up_next`, or `none` when there was no one to wake up. -/
def wakeUpNext (semaphore : Semaphore α) : Option (Semaphore α) :=
  (grantFirst semaphore.waiters).map fun waiters => ⟨semaphore.value - 1, waiters⟩

/-- The loop at the end of `acquire`: wake up as many waiters as the value allows. -/
def wakeUp : Nat → List (α × WaiterState) → Semaphore α
  | 0, waiters => ⟨0, waiters⟩
  | value + 1, waiters =>
    match grantFirst waiters with
    | none => ⟨value + 1, waiters⟩
    | some woken => wakeUp value woken

/-- `release`. -/
def release (semaphore : Semaphore α) : Semaphore α :=
  let released := { semaphore with value := semaphore.value + 1 }
  released.wakeUpNext.getD released

/-- The waiter's future is cancelled, unless it has been granted. -/
def cancelWaiter [DecidableEq α] (semaphore : Semaphore α) (waiter : α) : Semaphore α :=
  { semaphore with
    waiters := semaphore.waiters.map fun entry =>
      if entry = (waiter, .pending) then (waiter, .cancelled) else entry }

def remove [DecidableEq α] (waiters : List (α × WaiterState)) (waiter : α) :
    List (α × WaiterState) :=
  waiters.eraseP (fun entry => entry.1 = waiter)

/-- A granted waiter runs again in `acquire`. -/
def collect [DecidableEq α] (semaphore : Semaphore α) (waiter : α) : Semaphore α :=
  wakeUp semaphore.value (remove semaphore.waiters waiter)

/-- A cancelled waiter runs again in `acquire`: a permit granted before is given back. -/
def withdraw [DecidableEq α] (semaphore : Semaphore α) (waiter : α) : Semaphore α :=
  let refund := if (waiter, .granted) ∈ semaphore.waiters then 1 else 0
  wakeUp (semaphore.value + refund) (remove semaphore.waiters waiter)

/-- The waiters in the queue. -/
def ids (waiters : List (α × WaiterState)) : List α :=
  waiters.map Prod.fst

/-- The waiters that own a permit without having run since. -/
def grants (waiters : List (α × WaiterState)) : Nat :=
  waiters.countP (fun entry => entry.2 = .granted)

/-- The permits that have not been handed to a task. -/
def permits (semaphore : Semaphore α) : Nat :=
  semaphore.value + grants semaphore.waiters

/-! ### Which waiters stay -/

theorem grantFirst_ids {waiters woken : List (α × WaiterState)}
    (granted : grantFirst waiters = some woken) : ids woken = ids waiters := by
  induction waiters generalizing woken with
  | nil => simp [grantFirst] at granted
  | cons entry rest ih =>
    obtain ⟨waiter, state⟩ := entry
    cases state with
    | pending =>
      simp only [grantFirst, Option.some.injEq] at granted
      subst granted
      rfl
    | granted | cancelled =>
      simp only [grantFirst, Option.map_eq_some_iff] at granted
      obtain ⟨later, found, rfl⟩ := granted
      simp [ids] at ih ⊢
      exact ih found

@[simp]
theorem wakeUp_ids (value : Nat) (waiters : List (α × WaiterState)) :
    ids (wakeUp value waiters).waiters = ids waiters := by
  induction value generalizing waiters with
  | zero => rfl
  | succ value ih =>
    unfold wakeUp
    split
    · rfl
    · next woken granted => rw [ih, grantFirst_ids granted]

@[simp]
theorem release_ids (semaphore : Semaphore α) :
    ids semaphore.release.waiters = ids semaphore.waiters := by
  unfold release wakeUpNext
  cases granted : grantFirst semaphore.waiters with
  | none => simp [granted]
  | some woken =>
    simp only [granted, Option.map_some, Option.getD_some]
    exact grantFirst_ids granted

@[simp]
theorem take_ids (semaphore : Semaphore α) :
    ids semaphore.take.waiters = ids semaphore.waiters := rfl

@[simp]
theorem enqueue_ids (semaphore : Semaphore α) (waiter : α) :
    ids (semaphore.enqueue waiter).waiters = ids semaphore.waiters ++ [waiter] := by
  simp [enqueue, ids]

section Removal

variable [DecidableEq α]

@[simp]
theorem cancelWaiter_ids (semaphore : Semaphore α) (waiter : α) :
    ids (semaphore.cancelWaiter waiter).waiters = ids semaphore.waiters := by
  simp only [ids, cancelWaiter, map_map]
  apply map_congr_left
  intro entry _
  by_cases same : entry = (waiter, .pending) <;> simp [same]

theorem remove_ids (waiters : List (α × WaiterState)) (waiter : α) :
    ids (remove waiters waiter) = (ids waiters).erase waiter := by
  induction waiters with
  | nil => rfl
  | cons entry rest ih =>
    by_cases same : entry.1 = waiter
    · simp [remove, ids, same]
    · simp only [remove, ids] at ih
      simp [remove, ids, same, ih]

@[simp]
theorem collect_ids (semaphore : Semaphore α) (waiter : α) :
    ids (semaphore.collect waiter).waiters = (ids semaphore.waiters).erase waiter := by
  rw [collect, wakeUp_ids, remove_ids]

@[simp]
theorem withdraw_ids (semaphore : Semaphore α) (waiter : α) :
    ids (semaphore.withdraw waiter).waiters = (ids semaphore.waiters).erase waiter := by
  rw [withdraw, wakeUp_ids, remove_ids]

end Removal

/-! ### How many permits stay -/

theorem grantFirst_grants {waiters woken : List (α × WaiterState)}
    (granted : grantFirst waiters = some woken) : grants woken = grants waiters + 1 := by
  induction waiters generalizing woken with
  | nil => simp [grantFirst] at granted
  | cons entry rest ih =>
    obtain ⟨waiter, state⟩ := entry
    cases state with
    | pending =>
      simp only [grantFirst, Option.some.injEq] at granted
      subst granted
      simp [grants]
    | granted | cancelled =>
      simp only [grantFirst, Option.map_eq_some_iff] at granted
      obtain ⟨later, found, rfl⟩ := granted
      have counted := ih found
      simp only [grants, countP_cons] at counted ⊢
      omega

@[simp]
theorem wakeUp_permits (value : Nat) (waiters : List (α × WaiterState)) :
    (wakeUp value waiters).permits = value + grants waiters := by
  induction value generalizing waiters with
  | zero => rfl
  | succ value ih =>
    unfold wakeUp
    split
    · rfl
    · next woken granted =>
        rw [ih, grantFirst_grants granted]
        omega

@[simp]
theorem release_permits (semaphore : Semaphore α) :
    semaphore.release.permits = semaphore.permits + 1 := by
  unfold release wakeUpNext
  cases granted : grantFirst semaphore.waiters with
  | none =>
    simp only [granted, Option.map_none, Option.getD_none, permits]
    omega
  | some woken =>
    simp only [granted, Option.map_some, Option.getD_some, permits]
    have counted := grantFirst_grants granted
    omega

theorem take_permits (free : semaphore.locked = false) :
    semaphore.take.permits + 1 = semaphore.permits := by
  have positive : semaphore.value ≠ 0 := by
    intro zero
    simp [locked, zero] at free
  simp only [permits, take]
  omega

@[simp]
theorem enqueue_permits (semaphore : Semaphore α) (waiter : α) :
    (semaphore.enqueue waiter).permits = semaphore.permits := by
  simp [permits, enqueue, grants]

section Removal

variable [DecidableEq α]

@[simp]
theorem cancelWaiter_permits (semaphore : Semaphore α) (waiter : α) :
    (semaphore.cancelWaiter waiter).permits = semaphore.permits := by
  simp only [permits, cancelWaiter, grants, countP_map]
  congr 1
  apply countP_congr
  intro entry _
  by_cases same : entry = (waiter, .pending) <;> simp [same]

/-- A waiter that is granted takes its grant along. -/
theorem remove_grants_of_granted {waiters : List (α × WaiterState)} {waiter : α}
    (distinct : (ids waiters).Nodup) (granted : (waiter, .granted) ∈ waiters) :
    grants (remove waiters waiter) + 1 = grants waiters := by
  induction waiters with
  | nil => exact absurd granted not_mem_nil
  | cons entry rest ih =>
    simp only [ids, map_cons, nodup_cons] at distinct
    by_cases same : entry.1 = waiter
    · have head : entry = (waiter, .granted) := by
        refine (mem_cons.1 granted).elim Eq.symm fun later => ?_
        exact absurd (mem_map.2 ⟨_, later, rfl⟩) (same ▸ distinct.1)
      simp [remove, grants, head]
    · have later : (waiter, .granted) ∈ rest :=
        (mem_cons.1 granted).resolve_left fun head => same (head ▸ rfl)
      have counted := ih distinct.2 later
      simp only [remove, grants, same, decide_false, eraseP_cons,
        countP_cons] at counted ⊢
      simp only [cond_false, countP_cons]
      omega

/-- A waiter that is not granted takes nothing along. -/
theorem remove_grants_of_waiting {waiters : List (α × WaiterState)} {waiter : α}
    (waiting : (waiter, .granted) ∉ waiters) :
    grants (remove waiters waiter) = grants waiters := by
  induction waiters with
  | nil => rfl
  | cons entry rest ih =>
    simp only [mem_cons, not_or] at waiting
    by_cases same : entry.1 = waiter
    · have idle : entry.2 ≠ .granted := by
        intro state
        exact waiting.1 (Prod.ext same.symm state.symm)
      simp [remove, grants, same, idle]
    · have counted := ih waiting.2
      simp only [remove, grants, same, decide_false, eraseP_cons,
        countP_cons] at counted ⊢
      simp only [cond_false, countP_cons]
      omega

theorem collect_permits {waiter : α}
    (distinct : (ids semaphore.waiters).Nodup)
    (granted : (waiter, .granted) ∈ semaphore.waiters) :
    (semaphore.collect waiter).permits + 1 = semaphore.permits := by
  have removed := remove_grants_of_granted distinct granted
  rw [collect, wakeUp_permits, permits]
  omega

/-- Neither a grant nor a place in the queue is lost with a cancelled waiter. -/
theorem withdraw_permits (waiter : α)
    (distinct : (ids semaphore.waiters).Nodup) :
    (semaphore.withdraw waiter).permits = semaphore.permits := by
  rw [withdraw, wakeUp_permits, permits]
  by_cases granted : (waiter, .granted) ∈ semaphore.waiters
  · have removed := remove_grants_of_granted distinct granted
    simp only [granted, if_true]
    omega
  · simp only [granted, if_false, remove_grants_of_waiting granted]
    omega

end Removal

/-- Nothing waits and nothing is granted: the permits are the value. -/
theorem permits_of_idle (idle : ids semaphore.waiters = []) :
    semaphore.permits = semaphore.value := by
  simp [permits, grants, map_eq_nil_iff.1 idle]

end Semaphore

end Async
