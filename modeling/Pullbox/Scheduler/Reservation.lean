import Mathlib.Tactic.Common

/-!
# Tasks that run alone

A ledger of runs: which of them hold the reservation, which are counted as running, the count of
each task and the task that the reservation is for. Its steps keep the runs of a task apart, and
the runs of an exclusive task from all others.
-/

namespace Reservation

open Function

universe u

/-- What the ledger knows about a run. -/
structure Entry (Task : Type u) where
  task : Task
  reserved : Bool
  counted : Bool

/-- The reservations, and how many each task has. -/
structure Ledger (Task : Type u) where
  entries : Nat → Option (Entry Task)
  count : Task → Nat
  active : Option Task

namespace Ledger

variable {Task : Type u} {exclusive : Task → Prop} {ledger after : Ledger Task}

def setEntry (ledger : Ledger Task) (id : Nat) (entry : Option (Entry Task)) : Ledger Task :=
  { ledger with entries := update ledger.entries id entry }

/-- The reservation belongs to one run of an exclusive task, the counts are those of the counted
runs, and a counted run of an exclusive task is the only one. -/
structure Sound (exclusive : Task → Prop) (ledger : Ledger Task) : Prop where
  holder : ∀ id entry, ledger.entries id = some entry → entry.reserved = true →
    exclusive entry.task ∧ ledger.active = some entry.task
  held : ∀ task, ledger.active = some task → ∃ id entry, ledger.entries id = some entry ∧
    entry.reserved = true ∧ entry.task = task
  oneHolder : ∀ id entry other another, ledger.entries id = some entry →
    ledger.entries other = some another → entry.reserved = true → another.reserved = true →
      id = other
  counted : ∀ id entry, ledger.entries id = some entry → entry.counted = true →
    ledger.count entry.task = 1 ∧ (exclusive entry.task → entry.reserved = true)
  running : ∀ task, 0 < ledger.count task → ∃ id entry, ledger.entries id = some entry ∧
    entry.counted = true ∧ entry.task = task
  once : ∀ id entry other another, ledger.entries id = some entry →
    ledger.entries other = some another → entry.counted = true → another.counted = true →
      entry.task = another.task → id = other
  alone : ∀ id entry other another, ledger.entries id = some entry →
    ledger.entries other = some another → entry.counted = true → another.counted = true →
      exclusive entry.task → id = other

section Steps

variable {id : Nat} {task : Task} {reserved : Bool}

theorem Sound.enter (sound : ledger.Sound exclusive) (absent : ledger.entries id = none) :
    (ledger.setEntry id (some ⟨task, false, false⟩)).Sound exclusive := by
  obtain ⟨holder, held, oneHolder, counted, running, once, alone⟩ := sound
  constructor <;> simp only [setEntry, update_apply] <;> grind

theorem Sound.leave (sound : ledger.Sound exclusive)
    (here : ledger.entries id = some ⟨task, false, false⟩) :
    (ledger.setEntry id none).Sound exclusive := by
  obtain ⟨holder, held, oneHolder, counted, running, once, alone⟩ := sound
  constructor <;> simp only [setEntry, update_apply] <;> grind

/-- Nobody holds a reservation that is free. -/
theorem Sound.reserve (sound : ledger.Sound exclusive)
    (here : ledger.entries id = some ⟨task, false, false⟩) (apart : exclusive task)
    (free : ledger.active = none) :
    ({ ledger.setEntry id (some ⟨task, true, false⟩) with active := some task } :
      Ledger Task).Sound exclusive := by
  have unheld : ∀ other entry, ledger.entries other = some entry → entry.reserved = false := by
    intro other entry there
    by_contra reserved
    have active := (sound.holder other entry there (by simpa using reserved)).2
    rw [free] at active
    cases active
  obtain ⟨holder, held, oneHolder, counted, running, once, alone⟩ := sound
  constructor <;> simp only [setEntry, update_apply]
  case held =>
    intro other active
    exact ⟨id, _, if_pos rfl, rfl, Option.some.inj active⟩
  all_goals grind

theorem Sound.release (sound : ledger.Sound exclusive)
    (here : ledger.entries id = some ⟨task, true, false⟩) :
    ({ ledger.setEntry id none with active := none } : Ledger Task).Sound exclusive := by
  have only : ∀ other entry, ledger.entries other = some entry → entry.reserved = true →
      other = id := by
    intro other entry there reserved
    exact sound.oneHolder other entry id _ there here reserved rfl
  obtain ⟨holder, held, oneHolder, counted, running, once, alone⟩ := sound
  constructor <;> simp only [setEntry, update_apply] <;> grind

variable [DecidableEq Task]

/-- The other tasks are not counted, and no other run of the task is: it would hold the
reservation as well. -/
theorem Sound.beginAlone (sound : ledger.Sound exclusive)
    (here : ledger.entries id = some ⟨task, true, false⟩)
    (quiet : ∀ other, other ≠ task → ledger.count other = 0) :
    ({ ledger.setEntry id (some ⟨task, true, true⟩) with
      count := update ledger.count task (ledger.count task + 1) } :
        Ledger Task).Sound exclusive := by
  have apart : exclusive task := (sound.holder id _ here rfl).1
  have uncounted : ∀ other entry, ledger.entries other = some entry → entry.counted = false := by
    intro other entry there
    by_contra counted
    have counted : entry.counted = true := by simpa using counted
    obtain ⟨one, reserves⟩ := sound.counted other entry there counted
    have same : entry.task = task := by
      by_contra different
      rw [quiet entry.task different] at one
      cases one
    have equal := sound.oneHolder other entry id _ there here (reserves (same ▸ apart)) rfl
    rw [equal, here] at there
    obtain rfl := Option.some.inj there
    cases counted
  have idle : ∀ other, ledger.count other = 0 := by
    intro other
    by_contra busy
    obtain ⟨one, entry, there, counted, -⟩ := sound.running other (Nat.pos_of_ne_zero busy)
    rw [uncounted one entry there] at counted
    cases counted
  obtain ⟨holder, held, oneHolder, counted, running, once, alone⟩ := sound
  constructor <;> simp only [setEntry, update_apply, idle] <;> grind

/-- While the reservation is free no exclusive task is counted. -/
theorem Sound.beginBeside (sound : ledger.Sound exclusive)
    (here : ledger.entries id = some ⟨task, false, false⟩) (shared : ¬ exclusive task)
    (free : ledger.active = none) (idle : ledger.count task = 0) :
    ({ ledger.setEntry id (some ⟨task, false, true⟩) with
      count := update ledger.count task (ledger.count task + 1) } :
        Ledger Task).Sound exclusive := by
  have beside : ∀ other entry, ledger.entries other = some entry → entry.counted = true →
      ¬ exclusive entry.task ∧ entry.task ≠ task := by
    intro other entry there counted
    obtain ⟨one, reserves⟩ := sound.counted other entry there counted
    constructor
    · intro exclusiveTask
      have active := (sound.holder other entry there (reserves exclusiveTask)).2
      rw [free] at active
      cases active
    · rintro rfl
      rw [idle] at one
      cases one
  obtain ⟨holder, held, oneHolder, counted, running, once, alone⟩ := sound
  constructor <;> simp only [setEntry, update_apply]
  case running =>
    intro other busy
    by_cases same : other = task
    · exact ⟨id, _, if_pos rfl, rfl, same.symm⟩
    · rw [if_neg same] at busy
      obtain ⟨one, entry, there, isCounted, named⟩ := running other busy
      have apart : one ≠ id := by
        rintro rfl
        rw [here] at there
        obtain rfl := Option.some.inj there
        cases isCounted
      exact ⟨one, entry, (if_neg apart).trans there, isCounted, named⟩
  all_goals grind

theorem Sound.finish (sound : ledger.Sound exclusive)
    (here : ledger.entries id = some ⟨task, reserved, true⟩) :
    ({ ledger.setEntry id (some ⟨task, reserved, false⟩) with
      count := update ledger.count task (ledger.count task - 1) } :
        Ledger Task).Sound exclusive := by
  have only : ∀ other entry, ledger.entries other = some entry → entry.counted = true →
      entry.task = task → other = id := by
    intro other entry there counted same
    exact sound.once other entry id _ there here counted rfl same
  have one : ledger.count task = 1 := (sound.counted id _ here rfl).1
  obtain ⟨holder, held, oneHolder, counted, running, once, alone⟩ := sound
  constructor <;> simp only [setEntry, update_apply, one]
  case running =>
    intro other busy
    have apart : other ≠ task := by
      rintro rfl
      rw [if_pos rfl] at busy
      exact absurd busy (Nat.lt_irrefl 0)
    rw [if_neg apart] at busy
    obtain ⟨another, entry, there, isCounted, named⟩ := running other busy
    have distinct : another ≠ id := by
      rintro rfl
      rw [here] at there
      obtain rfl := Option.some.inj there
      exact apart named.symm
    exact ⟨another, entry, (if_neg distinct).trans there, isCounted, named⟩
  all_goals grind

end Steps

end Ledger

end Reservation
