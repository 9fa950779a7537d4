import Mathlib.Data.List.Induction
import Mathlib.Data.List.Nodup

/-!
# Moves and their undoing

Entries that are moved from place to place, and moved back in reverse order. A move that fails can
leave something at the place it moved to. Moves of occupied places to vacant ones can be undone as
long as no two of them have one target; a move onto another's target loses an entry for good.
-/

namespace Files

open List

universe u v

variable {Place : Type u} {Entry : Type v}

/-- The entry at each place that has one. -/
abbrev Disk (Place : Type u) (Entry : Type v) :=
  Place → Option Entry

/-- What a move does: it moves, or it fails and leaves nothing or something at its target. -/
inductive MoveOutcome (Entry : Type v) where
  | moved
  | failed (left : Option Entry)
deriving DecidableEq

/-- A file goes from one place to another. -/
structure Shift (Place : Type u) where
  source : Place
  target : Place
deriving DecidableEq

namespace Disk

variable [DecidableEq Place]

def write (disk : Disk Place Entry) (place : Place) (entry : Option Entry) : Disk Place Entry :=
  Function.update disk place entry

/-- `rename`: what stood at the target is replaced. -/
def move (disk : Disk Place Entry) (shift : Shift Place) : Disk Place Entry :=
  (disk.write shift.target (disk shift.source)).write shift.source none

/-- What a failed move leaves; its source stays. -/
def leave (disk : Disk Place Entry) (place : Place) : Option Entry → Disk Place Entry
  | none => disk
  | some entry => disk.write place (some entry)

/-- One move, and whether it was made. Nothing can be moved from a vacant place. -/
def attempt (disk : Disk Place Entry) (shift : Shift Place) (outcome : MoveOutcome Entry) :
    Disk Place Entry × Bool :=
  match disk shift.source, outcome with
  | none, _ => (disk, false)
  | some _, .moved => (disk.move shift, true)
  | some _, .failed left => (disk.leave shift.target left, false)

/-- Each shift moved back if its target is taken and its source is free; a failure ends it. -/
def restore (outcome : ℕ → MoveOutcome Entry) :
    ℕ → List (Shift Place) → Disk Place Entry → Disk Place Entry
  | _, [], disk => disk
  | index, shift :: rest, disk =>
    if (disk shift.target).isSome ∧ disk shift.source = none then
      let (after, made) := disk.attempt ⟨shift.target, shift.source⟩ (outcome index)
      if made then restore outcome (index + 1) rest after else after
    else restore outcome (index + 1) rest disk

/-- The shifts, one after the other. -/
def moveAll (disk : Disk Place Entry) (shifts : List (Shift Place)) : Disk Place Entry :=
  shifts.foldl move disk

end Disk

variable {disk : Disk Place Entry} {shift : Shift Place} {shifts : List (Shift Place)}
  {place : Place}

/-! ### Shifts that do not disturb each other -/

/-- Occupied places, each once, to vacant ones. -/
structure Free (disk : Disk Place Entry) (shifts : List (Shift Place)) : Prop where
  once : (shifts.map Shift.source).Nodup
  occupied : ∀ shift ∈ shifts, (disk shift.source).isSome
  vacant : ∀ shift ∈ shifts, disk shift.target = none

namespace Free

theorem source_ne_target {one two : Shift Place} (free : Free disk shifts) (inOne : one ∈ shifts)
    (inTwo : two ∈ shifts) : one.source ≠ two.target := by
  intro same
  have occupied := free.occupied one inOne
  rw [same, free.vacant two inTwo] at occupied
  cases occupied

theorem sublist {part : List (Shift Place)} (free : Free disk shifts) (sub : part.Sublist shifts) :
    Free disk part where
  once := free.once.sublist (sub.map _)
  occupied shift inside := free.occupied shift (sub.subset inside)
  vacant shift inside := free.vacant shift (sub.subset inside)

theorem left {others : List (Shift Place)} (free : Free disk (shifts ++ others)) :
    Free disk shifts :=
  free.sublist (sublist_append_left shifts others)

theorem fresh_source (free : Free disk (shifts ++ [shift])) :
    shift.source ∉ shifts.map Shift.source := by
  have once := free.once
  rw [map_append, nodup_append] at once
  intro inside
  exact once.2.2 _ inside _ (mem_singleton_self _) rfl

end Free

/-! ### Single moves -/

namespace Disk

variable [DecidableEq Place]

theorem write_self (entry : Option Entry) : disk.write place entry place = entry := by
  unfold write
  exact Function.update_self place entry disk

theorem write_of_ne {other : Place} (apart : other ≠ place) (entry : Option Entry) :
    disk.write place entry other = disk other := by
  unfold write
  exact Function.update_of_ne apart entry disk

theorem write_write (first second : Option Entry) :
    (disk.write place first).write place second = disk.write place second := by
  unfold write
  rw [Function.update_idem]

/-- Writing what is there changes nothing. -/
theorem write_eq_self {entry : Option Entry} (here : disk place = entry) :
    disk.write place entry = disk := by
  subst here
  exact Function.update_eq_self place disk

theorem move_source : disk.move shift shift.source = none :=
  write_self none

theorem move_target (apart : shift.source ≠ shift.target) :
    disk.move shift shift.target = disk shift.source := by
  unfold move
  rw [write_of_ne apart.symm, write_self]

theorem move_of_ne (notSource : place ≠ shift.source) (notTarget : place ≠ shift.target) :
    disk.move shift place = disk place := by
  unfold move
  rw [write_of_ne notSource, write_of_ne notTarget]

/-- A move to a vacant place is undone by the move back. -/
theorem move_move (apart : shift.source ≠ shift.target) (vacant : disk shift.target = none) :
    (disk.move shift).move ⟨shift.target, shift.source⟩ = disk := by
  funext place
  by_cases atTarget : place = shift.target
  · subst atTarget
    exact move_source.trans vacant.symm
  · by_cases atSource : place = shift.source
    · subst atSource
      have back : ((disk.move shift).move ⟨shift.target, shift.source⟩) shift.source =
          disk.move shift shift.target := move_target apart.symm
      rw [back, move_target apart]
    · rw [move_of_ne atTarget atSource, move_of_ne atSource atTarget]

/-- A move by way of a third place. -/
theorem move_via {between : Place} (source target : Place) (vacant : disk between = none)
    (notSource : between ≠ source) (notTarget : between ≠ target) (apart : source ≠ target) :
    (disk.move ⟨source, between⟩).move ⟨between, target⟩ = disk.move ⟨source, target⟩ := by
  funext place
  by_cases atTarget : place = target
  · subst atTarget
    have arrived : (disk.move ⟨source, between⟩).move ⟨between, place⟩ place =
        disk.move ⟨source, between⟩ between := move_target notTarget
    have aside : disk.move ⟨source, between⟩ between = disk source := move_target notSource.symm
    have direct : disk.move ⟨source, place⟩ place = disk source := move_target apart
    rw [arrived, aside, direct]
  · by_cases atSource : place = source
    · subst atSource
      have left : disk.move ⟨place, between⟩ place = none := move_source
      have direct : disk.move ⟨place, target⟩ place = none := move_source
      rw [direct, ← left]
      exact move_of_ne notSource.symm atTarget
    · have direct : disk.move ⟨source, target⟩ place = disk place := move_of_ne atSource atTarget
      by_cases atBetween : place = between
      · subst atBetween
        rw [direct, vacant]
        exact move_source
      · have first : disk.move ⟨source, between⟩ place = disk place :=
          move_of_ne atSource atBetween
        rw [direct, ← first]
        exact move_of_ne atBetween atTarget

theorem leave_of_ne {other : Place} (apart : other ≠ place) (left : Option Entry) :
    disk.leave place left other = disk other := by
  cases left with
  | none => rfl
  | some entry => exact write_of_ne apart (some entry)

/-- A failed move that leaves what stands at its target changes nothing. -/
theorem leave_of_eq {entry : Entry} (here : disk place = some entry) :
    disk.leave place (some entry) = disk := by
  funext other
  by_cases same : other = place
  · subst same
    exact (write_self (some entry)).trans here.symm
  · exact leave_of_ne same (some entry)

/-- What fails changes its target only. -/
theorem attempt_of_not_made {outcome : MoveOutcome Entry} (failed : outcome ≠ .moved)
    (occupied : (disk shift.source).isSome) :
    ∃ left, disk.attempt shift outcome = (disk.leave shift.target left, false) := by
  obtain ⟨entry, here⟩ := Option.isSome_iff_exists.1 occupied
  unfold attempt
  rw [here]
  cases outcome with
  | moved => exact absurd rfl failed
  | failed left => exact ⟨left, rfl⟩

theorem attempt_moved (occupied : (disk shift.source).isSome) :
    disk.attempt shift .moved = (disk.move shift, true) := by
  obtain ⟨entry, here⟩ := Option.isSome_iff_exists.1 occupied
  unfold attempt
  rw [here]

/-! ### Moves one after the other -/

theorem moveAll_append_singleton :
    disk.moveAll (shifts ++ [shift]) = (disk.moveAll shifts).move shift :=
  foldl_append

theorem moveAll_of_not_mem (notSource : place ∉ shifts.map Shift.source)
    (notTarget : place ∉ shifts.map Shift.target) : disk.moveAll shifts place = disk place := by
  induction shifts using List.reverseRecOn with
  | nil => rfl
  | append_singleton before last ih =>
    rw [map_append, mem_append, not_or] at notSource notTarget
    rw [moveAll_append_singleton, move_of_ne]
    · exact ih notSource.1 notTarget.1
    · exact fun same => notSource.2 (mem_singleton.2 same)
    · exact fun same => notTarget.2 (mem_singleton.2 same)

/-- Every source is vacant in the end. -/
theorem moveAll_source (free : Free disk shifts) (inside : shift ∈ shifts) :
    disk.moveAll shifts shift.source = none := by
  induction shifts using List.reverseRecOn with
  | nil => cases inside
  | append_singleton before last ih =>
    rw [moveAll_append_singleton]
    by_cases same : shift.source = last.source
    · rw [same]
      exact move_source
    · have earlier : shift ∈ before := by
        obtain earlier | here := mem_append.1 inside
        · exact earlier
        · exact absurd (congrArg Shift.source (mem_singleton.1 here)) same
      rw [move_of_ne same (free.source_ne_target inside (by simp))]
      exact ih free.left earlier

/-- A source that is not moved yet is still occupied. -/
theorem moveAll_next (free : Free disk (shifts ++ [shift])) :
    disk.moveAll shifts shift.source = disk shift.source := by
  apply moveAll_of_not_mem free.fresh_source
  intro inside
  obtain ⟨other, here, same⟩ := mem_map.1 inside
  exact free.source_ne_target (by simp) (mem_append_left _ here) same.symm

/-- With distinct targets every entry arrives. -/
theorem moveAll_target (free : Free disk shifts) (distinct : (shifts.map Shift.target).Nodup)
    (inside : shift ∈ shifts) : disk.moveAll shifts shift.target = disk shift.source := by
  induction shifts using List.reverseRecOn with
  | nil => cases inside
  | append_singleton before last ih =>
    rw [moveAll_append_singleton]
    rw [map_append, nodup_append] at distinct
    obtain ⟨beforeDistinct, -, apart⟩ := distinct
    obtain earlier | here := mem_append.1 inside
    · rw [move_of_ne]
      · exact ih free.left beforeDistinct earlier
      · exact (free.source_ne_target (by simp) inside).symm
      · exact apart _ (mem_map_of_mem earlier) _ (mem_singleton_self _)
    · rw [mem_singleton.1 here, move_target (free.source_ne_target (by simp) (by simp))]
      exact moveAll_next free

/-- Every target is occupied in the end. -/
theorem moveAll_target_isSome (free : Free disk shifts) (inside : shift ∈ shifts) :
    (disk.moveAll shifts shift.target).isSome := by
  induction shifts using List.reverseRecOn with
  | nil => cases inside
  | append_singleton before last ih =>
    rw [moveAll_append_singleton]
    by_cases same : shift.target = last.target
    · rw [same, move_target (free.source_ne_target (by simp) (by simp)), moveAll_next free]
      exact free.occupied last (by simp)
    · have earlier : shift ∈ before := by
        obtain earlier | here := mem_append.1 inside
        · exact earlier
        · exact absurd (congrArg Shift.target (mem_singleton.1 here)) same
      rw [move_of_ne (free.source_ne_target (by simp) inside).symm same]
      exact ih free.left earlier

/-! ### Moving back -/

variable {outcome : ℕ → MoveOutcome Entry} {index : ℕ}

theorem restore_cons : disk.restore outcome index (shift :: shifts) =
    if (disk shift.target).isSome ∧ disk shift.source = none then
      if (disk.attempt ⟨shift.target, shift.source⟩ (outcome index)).2 then
        (disk.attempt ⟨shift.target, shift.source⟩ (outcome index)).1.restore outcome
          (index + 1) shifts
      else (disk.attempt ⟨shift.target, shift.source⟩ (outcome index)).1
    else disk.restore outcome (index + 1) shifts := rfl

theorem restore_skip (taken : ¬ ((disk shift.target).isSome ∧ disk shift.source = none)) :
    disk.restore outcome index (shift :: shifts) = disk.restore outcome (index + 1) shifts := by
  rw [restore_cons, if_neg taken]

theorem restore_made (occupied : (disk shift.target).isSome) (free : disk shift.source = none)
    (made : outcome index = .moved) : disk.restore outcome index (shift :: shifts) =
      (disk.move ⟨shift.target, shift.source⟩).restore outcome (index + 1) shifts := by
  rw [restore_cons, if_pos ⟨occupied, free⟩, made, attempt_moved occupied, if_pos rfl]

theorem restore_failed (rest : List (Shift Place)) (occupied : (disk shift.target).isSome)
    (free : disk shift.source = none) (failed : outcome index ≠ .moved) :
    ∃ left, disk.restore outcome index (shift :: rest) = disk.leave shift.source left := by
  obtain ⟨left, attempted⟩ : ∃ left, disk.attempt ⟨shift.target, shift.source⟩ (outcome index) =
      (disk.leave shift.source left, false) := attempt_of_not_made failed occupied
  refine ⟨left, ?_⟩
  rw [restore_cons, if_pos ⟨occupied, free⟩, attempted]
  rfl

/-- What holds of a disk and is kept by each move back holds when all are back. -/
theorem restore_induction (holds : Disk Place Entry → Prop) (here : holds disk)
    (moves : ∀ disk, ∀ shift ∈ shifts, (disk shift.target).isSome → disk shift.source = none →
      holds disk → holds (disk.move ⟨shift.target, shift.source⟩))
    (leaves : ∀ disk left, ∀ shift ∈ shifts, (disk shift.target).isSome →
      disk shift.source = none → holds disk → holds (disk.leave shift.source left)) :
    holds (disk.restore outcome index shifts) := by
  induction shifts generalizing disk index with
  | nil => exact here
  | cons shift rest ih =>
    have later {next : Disk Place Entry} (now : holds next) :
        holds (next.restore outcome (index + 1) rest) := by
      apply ih now
      · exact fun disk other inside => moves disk other (mem_cons_of_mem _ inside)
      · exact fun disk left other inside => leaves disk left other (mem_cons_of_mem _ inside)
    by_cases ready : (disk shift.target).isSome ∧ disk shift.source = none
    · obtain ⟨occupied, free⟩ := ready
      by_cases made : outcome index = .moved
      · rw [restore_made occupied free made]
        exact later (moves disk shift mem_cons_self occupied free here)
      · obtain ⟨left, failed⟩ := restore_failed rest occupied free made
        rw [failed]
        exact leaves disk left shift mem_cons_self occupied free here
    · rw [restore_skip ready]
      exact later here

/-- A place that is no source and no target stays as it is. -/
theorem restore_of_not_mem (notSource : place ∉ shifts.map Shift.source)
    (notTarget : place ∉ shifts.map Shift.target) :
    disk.restore outcome index shifts place = disk place := by
  apply restore_induction (fun after => after place = disk place) rfl
  · intro after shift inside _ _ same
    rw [move_of_ne]
    · exact same
    · exact fun here => notTarget (here ▸ mem_map_of_mem inside)
    · exact fun here => notSource (here ▸ mem_map_of_mem inside)
  · intro after left shift inside _ _ same
    rw [leave_of_ne]
    · exact same
    · exact fun here => notSource (here ▸ mem_map_of_mem inside)

/-- A vacant source whose target is vacant stays vacant. -/
theorem restore_vacant {source : Place} (target : Place) (noSource : disk source = none)
    (noTarget : disk target = none)
    (paired : ∀ shift ∈ shifts, shift.source = source → shift.target = target)
    (apart : ∀ shift ∈ shifts, shift.source ≠ target) :
    disk.restore outcome index shifts source = none := by
  have both : disk.restore outcome index shifts source = none ∧
      disk.restore outcome index shifts target = none := by
    apply restore_induction (fun after => after source = none ∧ after target = none)
      ⟨noSource, noTarget⟩
    · rintro after shift inside occupied - ⟨vacant, gone⟩
      have other : shift.target ≠ target := by
        intro same
        rw [same, gone] at occupied
        cases occupied
      have elsewhere : shift.source ≠ source := fun same => other (paired shift inside same)
      constructor
      · by_cases same : source = shift.target
        · subst same
          exact move_source
        · rw [move_of_ne same elsewhere.symm]
          exact vacant
      · rw [move_of_ne other.symm (apart shift inside).symm]
        exact gone
    · rintro after left shift inside occupied - ⟨vacant, gone⟩
      have other : shift.target ≠ target := by
        intro same
        rw [same, gone] at occupied
        cases occupied
      have elsewhere : shift.source ≠ source := fun same => other (paired shift inside same)
      rw [leave_of_ne elsewhere.symm, leave_of_ne (apart shift inside).symm]
      exact ⟨vacant, gone⟩
  exact both.1

/-- A vacant place that nothing is moved back to stays vacant. -/
theorem restore_vacant_of_not_source (vacant : disk place = none)
    (notSource : place ∉ shifts.map Shift.source) :
    disk.restore outcome index shifts place = none := by
  have never : ∀ shift ∈ shifts, shift.source ≠ place := by
    rintro shift inside rfl
    exact notSource (mem_map_of_mem inside)
  exact restore_vacant place vacant vacant
    (fun shift inside same => absurd same (never shift inside)) never

/-- What stood at a target is either still in the way there, or back at its source. -/
theorem restore_carries (outcome : ℕ → MoveOutcome Entry) (index : ℕ) {entry : Entry}
    (inside : shift ∈ shifts)
    (once : (shifts.map Shift.source).Nodup) (distinct : (shifts.map Shift.target).Nodup)
    (apart : ∀ one ∈ shifts, ∀ two ∈ shifts, one.source ≠ two.target)
    (here : disk shift.target = some entry) (free : disk shift.source = none) :
    (disk.restore outcome index shifts shift.target).isSome ∨
      disk.restore outcome index shifts shift.source = some entry := by
  induction shifts generalizing disk index with
  | nil => cases inside
  | cons head rest ih =>
    rw [map_cons, nodup_cons] at once distinct
    have restApart : ∀ one ∈ rest, ∀ two ∈ rest, one.source ≠ two.target :=
      fun one oneIn two twoIn =>
        apart one (mem_cons_of_mem _ oneIn) two (mem_cons_of_mem _ twoIn)
    by_cases same : shift = head
    · subst same
      have occupied : (disk shift.target).isSome := by
        rw [here]
        rfl
      have back : shift.source ≠ shift.target :=
        apart shift mem_cons_self shift mem_cons_self
      by_cases made : outcome index = .moved
      · right
        have returned : disk.move ⟨shift.target, shift.source⟩ shift.source =
            disk shift.target := move_target back.symm
        rw [restore_made occupied free made, restore_of_not_mem once.1]
        · exact returned.trans here
        · intro again
          obtain ⟨other, otherIn, taken⟩ := mem_map.1 again
          exact apart shift mem_cons_self other (mem_cons_of_mem _ otherIn) taken.symm
      · left
        obtain ⟨left, failed⟩ := restore_failed rest occupied free made
        rw [failed, leave_of_ne back.symm]
        exact occupied
    · have later : shift ∈ rest := by
        obtain this | later := mem_cons.1 inside
        · exact absurd this same
        · exact later
      have sources : shift.source ≠ head.source := by
        intro equal
        exact once.1 (equal ▸ mem_map_of_mem later)
      have targets : shift.target ≠ head.target := by
        intro equal
        exact distinct.1 (equal ▸ mem_map_of_mem later)
      have across : shift.source ≠ head.target := apart shift inside head mem_cons_self
      have back : shift.target ≠ head.source :=
        (apart head mem_cons_self shift inside).symm
      by_cases ready : (disk head.target).isSome ∧ disk head.source = none
      · obtain ⟨occupied, vacant⟩ := ready
        by_cases made : outcome index = .moved
        · rw [restore_made occupied vacant made]
          apply ih (index + 1) later once.2 distinct.2 restApart
          · rw [move_of_ne targets back]
            exact here
          · rw [move_of_ne across sources]
            exact free
        · left
          obtain ⟨left, failed⟩ := restore_failed rest occupied vacant made
          rw [failed, leave_of_ne back, here]
          rfl
      · rw [restore_skip ready]
        exact ih (index + 1) later once.2 distinct.2 restApart here free

/-- Moves with distinct targets are undone if each of them is moved back, and only then. -/
theorem restore_moveAll_iff (outcome : ℕ → MoveOutcome Entry) (index : ℕ)
    (free : Free disk shifts) (distinct : (shifts.map Shift.target).Nodup) :
    (disk.moveAll shifts).restore outcome index shifts.reverse = disk ↔
      ∀ position < shifts.length, outcome (index + position) = .moved := by
  induction shifts using List.reverseRecOn generalizing index with
  | nil => simp [restore, moveAll]
  | append_singleton before last ih =>
    have lastIn : last ∈ before ++ [last] := by simp
    have occupied := moveAll_target_isSome free lastIn
    have vacant := moveAll_source free lastIn
    have apart := free.source_ne_target lastIn lastIn
    have undone : (disk.moveAll (before ++ [last])).move ⟨last.target, last.source⟩ =
        disk.moveAll before := by
      rw [moveAll_append_singleton]
      apply move_move apart
      rw [moveAll_of_not_mem]
      · exact free.vacant last lastIn
      · intro inside
        obtain ⟨other, otherIn, same⟩ := mem_map.1 inside
        exact free.source_ne_target (mem_append_left _ otherIn) lastIn same
      · rw [map_append, nodup_append] at distinct
        exact fun inside => distinct.2.2 _ inside _ (mem_singleton_self _) rfl
    have earlier : (before.map Shift.target).Nodup := by
      rw [map_append] at distinct
      exact distinct.of_append_left
    rw [reverse_append, reverse_singleton, singleton_append,
      length_append, length_singleton]
    by_cases made : outcome index = .moved
    · rw [restore_made occupied vacant made, undone, ih (index + 1) free.left earlier]
      constructor
      · intro all position below
        cases position with
        | zero => exact made
        | succ position =>
          rw [← Nat.add_assoc, Nat.add_right_comm]
          exact all position (by omega)
      · intro all position below
        rw [Nat.add_right_comm, Nat.add_assoc]
        exact all (position + 1) (by omega)
    · constructor
      · intro same
        obtain ⟨left, failed⟩ := restore_failed before.reverse occupied vacant made
        rw [failed] at same
        have there := congrFun same last.target
        rw [leave_of_ne apart.symm, free.vacant last lastIn] at there
        rw [there] at occupied
        cases occupied
      · intro all
        exact absurd (all 0 (Nat.succ_pos _)) made

end Disk

end Files
