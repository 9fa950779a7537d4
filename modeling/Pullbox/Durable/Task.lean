import Mathlib.Tactic.Common

/-!
# Tasks that work in steps

A task changes a durable state one step at a time and pauses between its operations. At a pause
it can be cancelled; it can also end with an error, or the whole process can end. What it does
when it ends early is part of each step. An operation that is under way can be left behind: it
then goes on to its next pause while other tasks run.
-/

namespace Durable

universe u

variable {δ ε α β : Type u}

/-- A task: it has ended with a result, or it takes a step, which may depend on the state, or it
pauses. `undo` is what it does if it ends here. -/
inductive Task (δ ε α : Type u) : Type u where
  | done (result : Except ε α)
  | step (undo change : δ → δ) (next : δ → Task δ ε α)
  | pause (undo : δ → δ) (next : Task δ ε α)

namespace Task

/-- Run one task and hand its value to the next. -/
def andThen : Task δ ε α → (α → Task δ ε β) → Task δ ε β
  | done (.ok value), next => next value
  | done (.error raised), _ => done (.error raised)
  | step undo change rest, next => step undo change fun state => (rest state).andThen next
  | pause undo rest, next => pause undo (rest.andThen next)

instance : Monad (Task δ ε) where
  pure value := done (.ok value)
  bind := andThen

def raise (raised : ε) : Task δ ε α :=
  done (.error raised)

/-- Read the state. -/
def read (look : δ → α) : Task δ ε α :=
  step id id fun state => done (.ok (look state))

/-- Change the state in one step. -/
def change (update : δ → δ) : Task δ ε PUnit :=
  step id update fun _ => done (.ok ⟨⟩)

/-- The end of an operation that the task waited for. -/
def finished (value : α) : Task δ ε α :=
  pause id (done (.ok value))

/-- A result that may be an error. -/
def ofResult (result : Except ε α) : Task δ ε α :=
  done result

/-- A `finally` block, whatever ends the task. -/
def ensure (release : δ → δ) : Task δ ε α → Task δ ε α
  | done result => step release release fun _ => done result
  | step undo change next => step (release ∘ undo) change fun state => (next state).ensure release
  | pause undo next => pause (release ∘ undo) (next.ensure release)

/-- Every step that the task can take from a state, and every early end, is in the relation, and
the values that it returns are as required. -/
def Keeps (relation : δ → δ → Prop) (returns : α → δ → Prop) : Task δ ε α → δ → Prop
  | done (.ok value), state => returns value state
  | done (.error _), _ => True
  | step undo change next, state =>
    relation state (undo state) ∧ relation state (change state) ∧
      (next state).Keeps relation returns (change state)
  | pause undo next, state => relation state (undo state) ∧ next.Keeps relation returns state

variable {relation : δ → δ → Prop} {returns : α → δ → Prop} {finishes : β → δ → Prop} {state : δ}

@[simp] theorem keeps_raise {raised : ε} :
    (raise raised : Task δ ε α).Keeps relation returns state ↔ True :=
  Iff.rfl

theorem keeps_bind {first : Task δ ε α} {next : α → Task δ ε β} :
    (first >>= next).Keeps relation finishes state ↔
      first.Keeps relation (fun value after => (next value).Keeps relation finishes after)
        state := by
  change (first.andThen next).Keeps relation finishes state ↔ _
  induction first generalizing state with
  | done result => cases result <;> rfl
  | step undo change rest ih => simp only [andThen, Keeps, ih]
  | pause undo rest ih => simp only [andThen, Keeps, ih]

theorem keeps_mono {returns' : α → δ → Prop} {task : Task δ ε α}
    (kept : task.Keeps relation returns state)
    (weaker : ∀ value after, returns value after → returns' value after) :
    task.Keeps relation returns' state := by
  induction task generalizing state with
  | done result =>
    cases result with
    | ok value => exact weaker value state kept
    | error raised => trivial
  | step undo change next ih => exact ⟨kept.1, kept.2.1, ih _ kept.2.2⟩
  | pause undo next ih => exact ⟨kept.1, ih kept.2⟩

/-- Sequencing through what the first task returns. -/
theorem keeps_bind_of {first : Task δ ε α} {next : α → Task δ ε β} (middle : α → δ → Prop)
    (kept : first.Keeps relation middle state)
    (rest : ∀ value after, middle value after → (next value).Keeps relation finishes after) :
    (first >>= next).Keeps relation finishes state :=
  keeps_bind.2 (keeps_mono kept rest)

theorem keeps_ofResult {result : Except ε α}
    (accepted : ∀ value, result = .ok value → returns value state) :
    (ofResult result : Task δ ε α).Keeps relation returns state := by
  cases result with
  | ok value => exact accepted value rfl
  | error raised => trivial

theorem keeps_read {look : δ → α} (same : relation state state)
    (holds : returns (look state) state) :
    (read look : Task δ ε α).Keeps relation returns state :=
  ⟨same, same, holds⟩

theorem keeps_change {update : δ → δ} {returns : PUnit → δ → Prop} (same : relation state state)
    (changes : relation state (update state)) (holds : returns ⟨⟩ (update state)) :
    (change update : Task δ ε PUnit).Keeps relation returns state :=
  ⟨same, changes, holds⟩

theorem keeps_finished {value : α} (same : relation state state) (holds : returns value state) :
    (finished value : Task δ ε α).Keeps relation returns state :=
  ⟨same, holds⟩

/-- A `finally` block that may run anywhere. -/
theorem keeps_ensure {release : δ → δ} {task : Task δ ε α}
    (releases : ∀ before after, relation before after → relation before (release after))
    (same : ∀ state, relation state state)
    (kept : task.Keeps relation (fun value after => returns value (release after)) state) :
    (task.ensure release).Keeps relation returns state := by
  induction task generalizing state with
  | done result =>
    have changed := releases state state (same state)
    cases result with
    | ok value => exact ⟨changed, changed, kept⟩
    | error raised => exact ⟨changed, changed, trivial⟩
  | step undo change next ih => exact ⟨releases _ _ kept.1, kept.2.1, ih _ kept.2.2⟩
  | pause undo next ih => exact ⟨releases _ _ kept.1, ih kept.2⟩

end Task

/-! ## A host -/

/-- A durable state, the task that has the lock, and the operations that were left behind. -/
structure Host (δ ε α : Type u) where
  durable : δ
  task : Option (Task δ ε α) := none
  left : List (Task δ ε α) := []

/-- What happens to a host and its task. -/
inductive HostEvent (δ ε α : Type u) where
  /-- A task takes the lock. -/
  | start (task : Task δ ε α)
  /-- The task takes its next step. -/
  | tick
  /-- An error ends the task. -/
  | fail
  /-- A cancellation ends the task at a pause. -/
  | cancel
  /-- A cancellation of a task that is being cancelled ends it in the middle of an operation,
  which goes on. -/
  | abandon
  /-- An operation that was left behind takes its next step. -/
  | drift (index : Nat)
  /-- The process ends. -/
  | crash

namespace Host

/-- The task ends early. -/
def give (host : Host δ ε α) (undo : δ → δ) : Host δ ε α :=
  { host with durable := undo host.durable, task := none }

def tick (host : Host δ ε α) : Task δ ε α → Host δ ε α
  | .done _ => { host with task := none }
  | .step _ change next =>
    { host with durable := change host.durable, task := some (next host.durable) }
  | .pause _ next => { host with task := some next }

/-- An operation that was left behind ends at its next pause. -/
def drift (host : Host δ ε α) (index : Nat) : Task δ ε α → Host δ ε α
  | .step _ change next =>
    { host with durable := change host.durable, left := host.left.set index (next host.durable) }
  | _ => { host with left := host.left.eraseIdx index }

/-- What an event does, where it can happen. -/
def handle (host : Host δ ε α) : HostEvent δ ε α → Option (Host δ ε α)
  | .start task => if host.task.isSome then none else some { host with task := some task }
  | .tick => host.task.map host.tick
  | .fail =>
    match host.task with
    | some (.step undo _ _) | some (.pause undo _) => some (host.give undo)
    | _ => none
  | .cancel =>
    match host.task with
    | some (.pause undo _) => some (host.give undo)
    | _ => none
  | .abandon =>
    match host.task with
    | some (.step undo change next) =>
      some { host.give undo with left := .step undo change next :: host.left }
    | _ => none
  | .drift index => host.left[index]?.map (host.drift index)
  | .crash => some { host with task := none, left := [] }

/-- Nothing is left behind, and the task keeps the relation. -/
structure Orderly (relation : δ → δ → Prop) (host : Host δ ε α) : Prop where
  alone : host.left = []
  kept : ∀ task, host.task = some task → task.Keeps relation (fun _ _ => True) host.durable

/-- An event that leaves nothing behind keeps a host orderly and its durable state in the
relation. -/
theorem Orderly.handle {relation : δ → δ → Prop} (same : ∀ state, relation state state)
    {host after : Host δ ε α} {event : HostEvent δ ε α} (orderly : Orderly relation host)
    (starts : ∀ task, event = .start task → task.Keeps relation (fun _ _ => True) host.durable)
    (finishes : event ≠ .abandon) (handled : host.handle event = some after) :
    Orderly relation after ∧ relation host.durable after.durable := by
  obtain ⟨alone, kept⟩ := orderly
  cases event with
  | start task =>
    simp only [Host.handle] at handled
    split_ifs at handled with busy
    cases handled
    refine ⟨⟨alone, ?_⟩, same _⟩
    rintro _ ⟨⟩
    exact starts task rfl
  | tick =>
    obtain ⟨task, running, rfl⟩ := Option.map_eq_some_iff.1 handled
    have keeps := kept task running
    cases task with
    | done result => exact ⟨⟨alone, nofun⟩, same _⟩
    | step undo change next =>
      refine ⟨⟨alone, ?_⟩, keeps.2.1⟩
      rintro _ ⟨⟩
      exact keeps.2.2
    | pause undo next =>
      refine ⟨⟨alone, ?_⟩, same _⟩
      rintro _ ⟨⟩
      exact keeps.2
  | fail =>
    simp only [Host.handle] at handled
    split at handled
    · rename_i undo change next running
      cases handled
      exact ⟨⟨alone, nofun⟩, (kept _ running).1⟩
    · rename_i undo next running
      cases handled
      exact ⟨⟨alone, nofun⟩, (kept _ running).1⟩
    · cases handled
  | cancel =>
    simp only [Host.handle] at handled
    split at handled
    · rename_i undo next running
      cases handled
      exact ⟨⟨alone, nofun⟩, (kept _ running).1⟩
    · cases handled
  | abandon => exact absurd rfl finishes
  | drift index =>
    obtain ⟨task, found, _⟩ := Option.map_eq_some_iff.1 handled
    rw [alone] at found
    cases found
  | crash =>
    cases handled
    exact ⟨⟨rfl, nofun⟩, same _⟩

end Host

end Durable
