import Pullbox.Import.MisplacedRestore

/-!
# Restoring misplaced sources, all or nothing

The files are moved until one fails. Whatever fails, everything is as it was before if and only if
nothing moved was left off the undo list, no file was moved onto another, and every move back
succeeds.
-/

namespace Pullbox.Import.MisplacedSources

open Files List Sql

variable {Entry : Type} {paths : Paths Entry} {faults : Faults Entry} {world : World Entry}
  {context : RestoreContext} {contexts before rest : List RestoreContext} {tables : Tables}
  {left : List RestoreContext}

/-! ### How far the files are moved -/

/-- Nothing fails before these files are moved and registered. -/
structure Passed (paths : Paths Entry) (faults : Faults Entry) (world : World Entry)
    (before : List RestoreContext) : Prop where
  once : (before.map RestoreContext.source).Nodup
  moved : ∀ index < before.length, faults.moves index = .moved
  checked : ∀ index < before.length, faults.checks index = true
  updated : ∀ index < before.length, faults.updates index = true
  registered : (registerAll paths world before).isSome

theorem Passed.nil : Passed paths faults world [] where
  once := nodup_nil
  moved _ below := absurd below (Nat.not_lt_zero _)
  checked _ below := absurd below (Nat.not_lt_zero _)
  updated _ below := absurd below (Nat.not_lt_zero _)
  registered := rfl

theorem Passed.of_append (passed : Passed paths faults world (before ++ rest)) :
    Passed paths faults world before := by
  have shorter {index : ℕ} (below : index < before.length) : index < (before ++ rest).length := by
    rw [length_append]
    omega
  constructor
  · have once := passed.once
    rw [map_append] at once
    exact once.of_append_left
  · exact fun index below => passed.moved index (shorter below)
  · exact fun index below => passed.checked index (shorter below)
  · exact fun index below => passed.updated index (shorter below)
  · exact registerAll_of_append passed.registered

theorem Passed.append_singleton (passed : Passed paths faults world before)
    (fresh : context.source ∉ before.map RestoreContext.source)
    (moved : faults.moves before.length = .moved) (checked : faults.checks before.length = true)
    (updated : faults.updates before.length = true)
    (registered : (registerAll paths world (before ++ [context])).isSome) :
    Passed paths faults world (before ++ [context]) := by
  have last {index : ℕ} (below : index < (before ++ [context]).length) :
      index < before.length ∨ index = before.length := by
    rw [length_append, length_singleton] at below
    omega
  constructor
  · rw [map_append, nodup_append]
    refine ⟨passed.once, nodup_singleton _, ?_⟩
    rintro _ inside _ here rfl
    rw [mem_singleton.1 here] at inside
    exact fresh inside
  · intro index below
    obtain earlier | rfl := last below
    · exact passed.moved index earlier
    · exact moved
  · intro index below
    obtain earlier | rfl := last below
    · exact passed.checked index earlier
    · exact checked
  · intro index below
    obtain earlier | rfl := last below
    · exact passed.updated index earlier
    · exact updated
  · exact registered

/-- Files from different places, each checked, can be moved in any order. -/
theorem free_of_checked (checked : ∀ context ∈ before, Checked paths world context)
    (once : (before.map RestoreContext.source).Nodup) :
    Free world.disk (before.map RestoreContext.shift) where
  once := by
    rw [map_map]
    exact once
  occupied := by
    intro shift inside
    obtain ⟨context, listed, rfl⟩ := mem_map.1 inside
    exact (checked context listed).occupied
  vacant := by
    intro shift inside
    obtain ⟨context, listed, rfl⟩ := mem_map.1 inside
    exact (checked context listed).vacant

/-- The disk after these files were moved. -/
def movedDisk (world : World Entry) (before : List RestoreContext) : Disk String Entry :=
  world.disk.moveAll (before.map RestoreContext.shift)

theorem movedDisk_append_singleton :
    movedDisk world (before ++ [context]) = (movedDisk world before).move context.shift := by
  unfold movedDisk
  rw [map_append, map_singleton, Disk.moveAll_append_singleton]

/-- How the files after these are left. -/
inductive Ends (paths : Paths Entry) (faults : Faults Entry) (world : World Entry)
    (before : List RestoreContext) : List RestoreContext → Progress Entry × Bool → Prop where
  | finished {tables : Tables} (registered : registerAll paths world before = some tables) :
      Ends paths faults world before []
        (⟨movedDisk world before, tables, before.map RestoreContext.shift⟩, true)
  | gone {context : RestoreContext} {rest : List RestoreContext} {tables : Tables}
      (moved : context.source ∈ before.map RestoreContext.source) :
      Ends paths faults world before (context :: rest)
        (⟨movedDisk world before, tables, before.map RestoreContext.shift⟩, false)
  | failed {context : RestoreContext} {rest : List RestoreContext} {tables : Tables}
      {left : Option Entry} (fresh : context.source ∉ before.map RestoreContext.source)
      (outcome : faults.moves before.length = .failed left) :
      Ends paths faults world before (context :: rest)
        (⟨(movedDisk world before).leave context.destination left, tables,
          before.map RestoreContext.shift⟩, false)
  | unchecked {context : RestoreContext} {rest : List RestoreContext} {tables : Tables}
      (fresh : context.source ∉ before.map RestoreContext.source)
      (outcome : faults.moves before.length = .moved)
      (unchecked : faults.checks before.length = false) :
      Ends paths faults world before (context :: rest)
        (⟨movedDisk world (before ++ [context]), tables, before.map RestoreContext.shift⟩, false)
  | unregistered {context : RestoreContext} {rest : List RestoreContext} {tables : Tables}
      (fresh : context.source ∉ before.map RestoreContext.source)
      (outcome : faults.moves before.length = .moved)
      (checked : faults.checks before.length = true)
      (unregistered : ¬ Passed paths faults world (before ++ [context])) :
      Ends paths faults world before (context :: rest)
        (⟨movedDisk world (before ++ [context]), tables,
          (before ++ [context]).map RestoreContext.shift⟩, false)

/-- A file that was not moved yet is where it was. -/
theorem source_stands (checked : ∀ other ∈ before ++ [context], Checked paths world other)
    (fresh : context.source ∉ before.map RestoreContext.source) :
    movedDisk world before context.source = world.disk context.source := by
  apply Disk.moveAll_of_not_mem
  · rw [map_map]
    exact fresh
  · intro inside
    obtain ⟨shift, listed, same⟩ := mem_map.1 inside
    obtain ⟨other, otherIn, rfl⟩ := mem_map.1 listed
    have here := (checked context (by simp)).occupied
    have vacant := (checked other (mem_append_left _ otherIn)).vacant
    rw [← same, show other.shift.target = other.destination from rfl, vacant] at here
    cases here

/-- A file that was moved is at its destination. -/
theorem destination_moved (checked : ∀ other ∈ before ++ [context], Checked paths world other)
    (fresh : context.source ∉ before.map RestoreContext.source) :
    movedDisk world (before ++ [context]) context.destination = world.disk context.source := by
  have mine := checked context (by simp)
  have apart : context.shift.source ≠ context.shift.target := by
    intro same
    have here := mine.occupied
    rw [show context.source = context.destination from same, mine.vacant] at here
    cases here
  rw [movedDisk_append_singleton]
  exact (Disk.move_target apart).trans (source_stands checked fresh)

/-- A file whose place is vacant is not moved; any other is moved as its move turns out. -/
theorem attempt_next (checked : ∀ other ∈ before ++ [context], Checked paths world other)
    (passed : Passed paths faults world before) (outcome : MoveOutcome Entry) :
    (movedDisk world before).attempt context.shift outcome =
      if context.source ∈ before.map RestoreContext.source then (movedDisk world before, false)
      else match outcome with
        | .moved => (movedDisk world (before ++ [context]), true)
        | .failed left => ((movedDisk world before).leave context.destination left, false) := by
  split
  · rename_i gone
    obtain ⟨other, inside, same⟩ := mem_map.1 gone
    have free := free_of_checked
      (fun other otherIn => checked other (mem_append_left _ otherIn)) passed.once
    have vacant : movedDisk world before other.shift.source = none :=
      Disk.moveAll_source free (mem_map_of_mem inside)
    unfold Disk.attempt
    rw [show context.shift.source = other.shift.source from same.symm, vacant]
  · rename_i fresh
    have occupied : (movedDisk world before context.shift.source).isSome := by
      rw [show context.shift.source = context.source from rfl, source_stands checked fresh]
      exact (checked context (by simp)).occupied
    cases outcome with
    | moved => rw [Disk.attempt_moved occupied, movedDisk_append_singleton]
    | failed left =>
      obtain ⟨entry, found⟩ := Option.isSome_iff_exists.1 occupied
      unfold Disk.attempt
      rw [found]
      rfl

/-- One more file is moved and registered, or the files after these are left. -/
theorem restoreSource_next (checked : ∀ other ∈ before ++ [context], Checked paths world other)
    (passed : Passed paths faults world before)
    (registered : registerAll paths world before = some tables) :
    let result := restoreSource paths faults before.length context
      ⟨movedDisk world before, tables, before.map RestoreContext.shift⟩
    (∃ after, registerAll paths world (before ++ [context]) = some after ∧
      Passed paths faults world (before ++ [context]) ∧
      result = (⟨movedDisk world (before ++ [context]), after,
        (before ++ [context]).map RestoreContext.shift⟩, true)) ∨
    ∃ progress, result = (progress, false) ∧
      ∀ rest, Ends paths faults world before (context :: rest) (progress, false) := by
  intro result
  have unfolded : result = restoreSource paths faults before.length context
    ⟨movedDisk world before, tables, before.map RestoreContext.shift⟩ := rfl
  unfold restoreSource at unfolded
  simp only [attempt_next checked passed] at unfolded
  by_cases gone : context.source ∈ before.map RestoreContext.source
  · rw [if_pos gone] at unfolded
    exact .inr ⟨_, unfolded, fun rest => .gone gone⟩
  · rw [if_neg gone] at unfolded
    cases outcome : faults.moves before.length with
    | failed left =>
      rw [outcome] at unfolded
      exact .inr ⟨_, unfolded, fun rest => .failed gone outcome⟩
    | moved =>
      rw [outcome] at unfolded
      have written : registerAll paths world (before ++ [context]) =
          (movedDisk world (before ++ [context]) context.destination).bind fun entry =>
            updateRestoreRegistration paths context entry tables := by
        rw [registerAll_append_singleton, registered, destination_moved checked gone]
        rfl
      have moves : (before ++ [context]).map RestoreContext.shift =
          before.map RestoreContext.shift ++ [context.shift] := by
        rw [map_append, map_singleton]
      simp only [← written, ← moves] at unfolded
      by_cases check : faults.checks before.length = true
      · rw [if_pos check] at unfolded
        by_cases update : faults.updates before.length = true
        · rw [if_pos update] at unfolded
          cases rows : registerAll paths world (before ++ [context]) with
          | some after =>
            rw [rows] at unfolded
            have further := passed.append_singleton gone outcome check update (by simp [rows])
            exact .inl ⟨after, rfl, further, unfolded⟩
          | none =>
            rw [rows] at unfolded
            refine .inr ⟨_, unfolded, fun rest => .unregistered gone outcome check ?_⟩
            intro further
            have some := further.registered
            rw [rows] at some
            cases some
        · rw [if_neg update] at unfolded
          refine .inr ⟨_, unfolded, fun rest => .unregistered gone outcome check ?_⟩
          intro further
          exact update (further.updated before.length (by simp))
      · rw [if_neg check] at unfolded
        exact .inr ⟨_, unfolded, fun rest =>
          .unchecked gone outcome (Bool.eq_false_iff.2 check)⟩

/-- Where the moves end. -/
theorem restoreSources_ends (rest : List RestoreContext)
    (checked : ∀ other ∈ before ++ rest, Checked paths world other)
    (passed : Passed paths faults world before)
    (registered : registerAll paths world before = some tables) :
    ∃ done left, before ++ rest = done ++ left ∧ Passed paths faults world done ∧
      Ends paths faults world done left (restoreSources paths faults before.length rest
        ⟨movedDisk world before, tables, before.map RestoreContext.shift⟩) := by
  induction rest generalizing before tables with
  | nil => exact ⟨before, [], rfl, passed, .finished registered⟩
  | cons context rest ih =>
    have here : ∀ other ∈ before ++ [context], Checked paths world other := by
      intro other inside
      apply checked other
      rw [mem_append, mem_singleton] at inside
      rw [mem_append, mem_cons]
      tauto
    unfold restoreSources
    obtain ⟨after, rows, further, result⟩ | ⟨progress, result, ends⟩ :=
      restoreSource_next here passed registered
    · have whole : before ++ context :: rest = (before ++ [context]) ++ rest := by simp
      rw [whole] at checked ⊢
      have length : before.length + 1 = (before ++ [context]).length := by simp
      rw [result, length]
      exact ih checked further rows
    · rw [result]
      exact ⟨before, context :: rest, rfl, passed, ends rest⟩

/-! ### When a failure leaves nothing behind -/

/-- The first moves back, of so many files, all succeed. -/
def Undone (faults : Faults Entry) (count : ℕ) : Prop :=
  ∀ position < count, faults.undo position = .moved

/-- What a failed move leaves is nothing, or what an earlier file brought there already. -/
def Harmless (world : World Entry) (before : List RestoreContext) (context : RestoreContext) :
    Option Entry → Prop
  | none => True
  | some entry => ∃ other ∈ before, other.destination = context.destination ∧
      world.disk other.source = some entry

/-- After these files, the next one goes well, or its failure can be undone. -/
def Fits (paths : Paths Entry) (faults : Faults Entry) (world : World Entry)
    (before : List RestoreContext) : List RestoreContext → Prop
  | [] => (faults.audit = true ∧ faults.commit = true) ∨ Undone faults before.length
  | context :: _ =>
    if context.source ∈ before.map RestoreContext.source then Undone faults before.length
    else match faults.moves before.length with
      | .failed left => Harmless world before context left ∧ Undone faults before.length
      | .moved => faults.checks before.length = true ∧
          (Passed paths faults world (before ++ [context]) ∨
            context.destination ∉ before.map RestoreContext.destination ∧
              Undone faults (before.length + 1))

/-- The files before one that passed fit. -/
theorem Passed.fits (passed : Passed paths faults world (before ++ [context])) :
    Fits paths faults world before (context :: rest) := by
  have last : before.length < (before ++ [context]).length := by simp
  have once := passed.once
  rw [map_append, nodup_append] at once
  have fresh : context.source ∉ before.map RestoreContext.source :=
    fun inside => once.2.2 _ inside _ (mem_singleton_self _) rfl
  simp only [Fits]
  rw [if_neg fresh, passed.moved _ last]
  exact ⟨passed.checked _ last, .inl passed⟩

/-- The files are left where one is not moved and registered. -/
theorem Ends.stopped {progress : Progress Entry × Bool}
    (ends : Ends paths faults world before left progress) :
    ∀ context rest, left = context :: rest → ¬ Passed paths faults world (before ++ [context]) := by
  rintro context rest rfl passed
  have last : before.length < (before ++ [context]).length := by simp
  cases ends with
  | gone moved =>
    have once := passed.once
    rw [map_append, nodup_append] at once
    exact once.2.2 _ moved _ (mem_singleton_self _) rfl
  | failed fresh outcome =>
    rw [passed.moved _ last] at outcome
    cases outcome
  | unchecked fresh outcome unchecked =>
    rw [passed.checked _ last] at unchecked
    cases unchecked
  | unregistered fresh outcome checked unregistered => exact unregistered passed

/-- All files fit if those fit where the moves end. -/
theorem fits_iff (whole : contexts = before ++ left)
    (passed : Passed paths faults world before)
    (stopped : ∀ context rest, left = context :: rest →
      ¬ Passed paths faults world (before ++ [context])) :
    (∀ done todo, contexts = done ++ todo → Passed paths faults world done →
      Fits paths faults world done todo) ↔ Fits paths faults world before left := by
  constructor
  · intro all
    exact all before left whole passed
  · intro fits done todo split donePassed
    obtain ⟨more, rfl, rest⟩ | ⟨more, rfl, rest⟩ :=
      append_eq_append_iff.1 (whole.symm.trans split)
    · cases more with
      | nil =>
        rw [nil_append] at rest
        rw [append_nil, ← rest]
        exact fits
      | cons context more =>
        have further : before ++ context :: more = (before ++ [context]) ++ more := by simp
        rw [further] at donePassed
        exact absurd donePassed.of_append (stopped context _ rest)
    · cases more with
      | nil =>
        rw [nil_append] at rest
        rw [rest]
        simpa using fits
      | cons context more =>
        have further : done ++ context :: more = (done ++ [context]) ++ more := by simp
        rw [further] at passed
        rw [rest]
        exact passed.of_append.fits

/-! ### What is left in each case -/

/-- The files that were moved are back if every move back succeeds, and only then. -/
theorem restore_iff (faults : Faults Entry)
    (checked : ∀ other ∈ before, Checked paths world other)
    (once : (before.map RestoreContext.source).Nodup)
    (distinct : (before.map RestoreContext.destination).Nodup) :
    (movedDisk world before).restore faults.undo 0 (before.map RestoreContext.shift).reverse =
      world.disk ↔ Undone faults before.length := by
  have targets : ((before.map RestoreContext.shift).map Shift.target).Nodup := by
    rw [map_map]
    exact distinct
  have back := Disk.restore_moveAll_iff faults.undo 0
    (free_of_checked checked once) targets
  rw [length_map] at back
  simp only [Nat.zero_add] at back
  exact back

/-- Two files moved to one place are not both back, whatever is moved back. -/
theorem restore_ne_of_shared (checked : ∀ other ∈ before ++ [context], Checked paths world other)
    (once : ((before ++ [context]).map RestoreContext.source).Nodup)
    (shared : context.destination ∈ before.map RestoreContext.destination) :
    (movedDisk world (before ++ [context])).restore faults.undo 0
      ((before ++ [context]).map RestoreContext.shift).reverse ≠ world.disk := by
  intro same
  obtain ⟨other, otherIn, there⟩ := mem_map.1 shared
  have listed : other ∈ before ++ [context] := mem_append_left _ otherIn
  have free := free_of_checked checked once
  have shifted {one : RestoreContext} (inside : one ∈ before ++ [context]) :
      one.shift ∈ (before ++ [context]).map RestoreContext.shift := mem_map_of_mem inside
  have mine : context ∈ before ++ [context] := by simp
  have vacant : movedDisk world (before ++ [context]) other.source = none :=
    Disk.moveAll_source free (shifted listed)
  have gone : movedDisk world (before ++ [context]) context.shift.source = none :=
    Disk.moveAll_source free (shifted mine)
  have occupied : (movedDisk world (before ++ [context]) context.shift.target).isSome :=
    Disk.moveAll_target_isSome free (shifted mine)
  have sources : other.source ≠ context.source := by
    intro equal
    rw [map_append, nodup_append] at once
    exact once.2.2 _ (mem_map_of_mem otherIn) _ (mem_singleton_self _) equal
  have across : other.source ≠ context.destination :=
    free.source_ne_target (shifted listed) (shifted mine)
  have lost := congrFun same other.source
  rw [map_append, map_singleton, reverse_append, reverse_singleton,
    singleton_append] at lost
  have back := (checked other listed).occupied
  rw [← lost] at back
  by_cases made : faults.undo 0 = .moved
  · rw [Disk.restore_made occupied gone made, Disk.restore_vacant context.destination]
      at back
    · cases back
    · rw [Disk.move_of_ne across sources]
      exact vacant
    · exact Disk.move_source
    · intro shift inside equal
      obtain ⟨one, oneIn, rfl⟩ := mem_map.1 (mem_reverse.1 inside)
      have again : one = other :=
        inj_on_of_nodup_map once (mem_append_left _ oneIn) listed equal
      rw [again]
      exact there
    · intro shift inside equal
      obtain ⟨one, oneIn, rfl⟩ := mem_map.1 (mem_reverse.1 inside)
      exact free.source_ne_target (shifted (mem_append_left _ oneIn)) (shifted mine) equal
  · obtain ⟨left, failed⟩ := Disk.restore_failed (before.map RestoreContext.shift).reverse
      occupied gone made
    have kept : other.source ≠ context.shift.source := sources
    rw [failed, Disk.leave_of_ne kept, vacant] at back
    cases back

/-- A file that was moved and is not on the undo list stays away. -/
theorem restore_ne_of_unrecorded
    (checked : ∀ other ∈ before ++ [context], Checked paths world other)
    (once : ((before ++ [context]).map RestoreContext.source).Nodup) :
    (movedDisk world (before ++ [context])).restore faults.undo 0
      (before.map RestoreContext.shift).reverse ≠ world.disk := by
  intro same
  have mine : context ∈ before ++ [context] := by simp
  have vacant : movedDisk world (before ++ [context]) context.source = none :=
    Disk.moveAll_source (free_of_checked checked once) (mem_map_of_mem mine)
  have lost := congrFun same context.source
  rw [Disk.restore_vacant_of_not_source vacant] at lost
  · have here := (checked context mine).occupied
    rw [← lost] at here
    cases here
  · intro inside
    obtain ⟨shift, listed, equal⟩ := mem_map.1 inside
    obtain ⟨other, otherIn, rfl⟩ := mem_map.1 (mem_reverse.1 listed)
    rw [map_append, nodup_append] at once
    exact once.2.2 _ (mem_map_of_mem otherIn) _ (mem_singleton_self _) equal

/-- An entry that is not the one that came there is not moved back for it. -/
theorem restore_ne_of_overwritten {other : RestoreContext} {entry : Entry}
    (free : Free world.disk (before.map RestoreContext.shift))
    (distinct : (before.map RestoreContext.destination).Nodup) (otherIn : other ∈ before)
    (brought : world.disk other.source ≠ some entry) :
    ((movedDisk world before).leave other.destination (some entry)).restore faults.undo 0
      (before.map RestoreContext.shift).reverse ≠ world.disk := by
  intro same
  have listed : other.shift ∈ before.map RestoreContext.shift := mem_map_of_mem otherIn
  have gone : movedDisk world before other.shift.source = none := Disk.moveAll_source free listed
  have apart : other.shift.source ≠ other.destination := free.source_ne_target listed listed
  have once : (((before.map RestoreContext.shift).reverse).map Shift.source).Nodup := by
    rw [map_reverse, nodup_reverse]
    exact free.once
  have targets : (((before.map RestoreContext.shift).reverse).map Shift.target).Nodup := by
    rw [map_reverse, nodup_reverse, map_map]
    exact distinct
  have across : ∀ one ∈ (before.map RestoreContext.shift).reverse,
      ∀ two ∈ (before.map RestoreContext.shift).reverse, one.source ≠ two.target :=
    fun one oneIn two twoIn =>
      free.source_ne_target (mem_reverse.1 oneIn) (mem_reverse.1 twoIn)
  have here : (movedDisk world before).leave other.destination (some entry) other.shift.target =
      some entry := Disk.write_self (some entry)
  have vacant : (movedDisk world before).leave other.destination (some entry) other.shift.source =
      none := by
    rw [Disk.leave_of_ne apart]
    exact gone
  have carried := Disk.restore_carries faults.undo 0
    (mem_reverse.2 listed) once targets across here vacant
  rw [same] at carried
  obtain occupied | home := carried
  · rw [free.vacant other.shift listed] at occupied
    cases occupied
  · exact brought home

/-- What a failed move leaves stays, unless it is nothing or what was there. -/
theorem restore_failed_iff {left : Option Entry}
    (checked : ∀ other ∈ before ++ [context], Checked paths world other)
    (passed : Passed paths faults world before) :
    ((movedDisk world before).leave context.destination left).restore faults.undo 0
      (before.map RestoreContext.shift).reverse = world.disk ↔
        Harmless world before context left ∧ Undone faults before.length := by
  have checkedBefore : ∀ other ∈ before, Checked paths world other :=
    fun other inside => checked other (mem_append_left _ inside)
  have free := free_of_checked checkedBefore passed.once
  have distinct := distinct_of_registerAll (nodup_library checkedBefore passed.once)
    passed.registered
  have back := restore_iff faults checkedBefore passed.once distinct
  have vacant := (checked context (by simp)).vacant
  cases left with
  | none =>
    rw [show Harmless world before context none ↔ True from Iff.rfl, true_and, ← back]
    rfl
  | some entry =>
    by_cases shared : context.destination ∈ before.map RestoreContext.destination
    · obtain ⟨other, otherIn, there⟩ := mem_map.1 shared
      by_cases brought : world.disk other.source = some entry
      · have arrived : movedDisk world before context.destination = some entry := by
          have targets : ((before.map RestoreContext.shift).map Shift.target).Nodup := by
            rw [map_map]
            exact distinct
          rw [← there, ← brought]
          exact Disk.moveAll_target free targets (mem_map_of_mem otherIn)
        rw [Disk.leave_of_eq arrived, back]
        exact ⟨fun undone => ⟨⟨other, otherIn, there, brought⟩, undone⟩, And.right⟩
      · constructor
        · intro same
          rw [← there] at same
          exact absurd same (restore_ne_of_overwritten free distinct otherIn brought)
        · rintro ⟨⟨one, oneIn, same, taken⟩, -⟩
          have again : one = other :=
            inj_on_of_nodup_map distinct oneIn otherIn (same.trans there.symm)
          exact absurd (again ▸ taken) brought
    · constructor
      · intro same
        have left : (movedDisk world before).leave context.destination (some entry)
            context.destination = some entry := Disk.write_self (some entry)
        have kept := congrFun same context.destination
        rw [Disk.restore_of_not_mem, left, vacant] at kept
        · cases kept
        · intro inside
          obtain ⟨shift, listed, equal⟩ := mem_map.1 inside
          have here := free.occupied shift (mem_reverse.1 listed)
          rw [equal, vacant] at here
          cases here
        · intro inside
          obtain ⟨shift, listed, equal⟩ := mem_map.1 inside
          obtain ⟨other, otherIn, rfl⟩ := mem_map.1 (mem_reverse.1 listed)
          exact shared (equal ▸ mem_map_of_mem otherIn)
      · rintro ⟨⟨one, oneIn, same, -⟩, -⟩
        exact absurd (same ▸ mem_map_of_mem oneIn) shared

/-- When every file was moved and registered, each is at its place with its rows. -/
theorem restored_of_passed (checked : ∀ context ∈ contexts, Checked paths world context)
    (files : (contexts.map (·.file.id)).Nodup) (passed : Passed paths faults world contexts)
    (registered : registerAll paths world contexts = some tables) {audit : List AuditEvent} :
    Restored world ⟨movedDisk world contexts, { tables with audit }⟩ contexts := by
  have free := free_of_checked checked passed.once
  have once := nodup_library checked passed.once
  have distinct := distinct_of_registerAll once passed.registered
  constructor
  · exact fun context inside => (checked context inside).vacant
  · exact distinct
  · intro context inside
    have targets : ((contexts.map RestoreContext.shift).map Shift.target).Nodup := by
      rw [map_map]
      exact distinct
    exact Disk.moveAll_target free targets (mem_map_of_mem inside)
  · intro context inside
    exact Disk.moveAll_source free (mem_map_of_mem (f := RestoreContext.shift) inside)
  · intro place notSource notDestination
    apply Disk.moveAll_of_not_mem
    · rw [map_map]
      exact notSource
    · rw [map_map]
      exact notDestination
  · intro context inside
    have there := file_of_registerAll checked files registered inside
    exact there
  · intro context inside
    have there := library_of_registerAll once registered inside
    exact there

/-! ### All or nothing -/

/-- What is left of the disk where the moves end is undone if that point fits, and only then;
where nothing failed, only what comes after the moves counts. -/
theorem Ends.undone_iff {progress : Progress Entry} {finished : Bool}
    (checked : ∀ other ∈ before ++ left, Checked paths world other)
    (passed : Passed paths faults world before)
    (ends : Ends paths faults world before left (progress, finished))
    (failed : ¬ (finished = true ∧ faults.audit = true ∧ faults.commit = true)) :
    progress.disk.restore faults.undo 0 progress.moved.reverse = world.disk ↔
      Fits paths faults world before left := by
  have checkedBefore : ∀ other ∈ before, Checked paths world other :=
    fun other inside => checked other (mem_append_left _ inside)
  have distinct := distinct_of_registerAll (nodup_library checkedBefore passed.once)
    passed.registered
  have back := restore_iff faults checkedBefore passed.once distinct
  have checkedNext {context : RestoreContext} {rest : List RestoreContext}
      (whole : left = context :: rest) :
      ∀ other ∈ before ++ [context], Checked paths world other := by
    intro other inside
    apply checked other
    rw [whole]
    rw [mem_append, mem_singleton] at inside
    rw [mem_append, mem_cons]
    tauto
  have onceNext {context : RestoreContext}
      (fresh : context.source ∉ before.map RestoreContext.source) :
      ((before ++ [context]).map RestoreContext.source).Nodup := by
    rw [map_append, nodup_append]
    refine ⟨passed.once, nodup_singleton _, ?_⟩
    rintro _ inside _ here rfl
    rw [mem_singleton.1 here] at inside
    exact fresh inside
  cases ends with
  | finished registered =>
    have stopped : ¬ (faults.audit = true ∧ faults.commit = true) :=
      fun both => failed ⟨rfl, both⟩
    rw [back]
    exact ⟨.inr, fun fits => fits.resolve_left stopped⟩
  | gone moved =>
    simp only [Fits]
    rw [if_pos moved]
    exact back
  | failed fresh outcome =>
    simp only [Fits]
    rw [if_neg fresh, outcome]
    exact restore_failed_iff (checkedNext rfl) passed
  | unchecked fresh outcome unchecked =>
    simp only [Fits]
    rw [if_neg fresh, outcome, unchecked]
    constructor
    · intro same
      exact absurd same (restore_ne_of_unrecorded (checkedNext rfl) (onceNext fresh))
    · rintro ⟨⟨⟩, -⟩
  | @unregistered context rest tables fresh outcome check unregistered =>
    simp only [Fits]
    rw [if_neg fresh, outcome]
    by_cases shared : context.destination ∈ before.map RestoreContext.destination
    · constructor
      · intro same
        exact absurd same (restore_ne_of_shared (checkedNext rfl) (onceNext fresh) shared)
      · rintro ⟨-, further | ⟨fresh, -⟩⟩
        · exact absurd further unregistered
        · exact absurd shared fresh
    · have distinctNext : ((before ++ [context]).map RestoreContext.destination).Nodup := by
        rw [map_append, nodup_append]
        refine ⟨distinct, nodup_singleton _, ?_⟩
        rintro _ inside _ here rfl
        rw [mem_singleton.1 here] at inside
        exact shared inside
      have backNext := restore_iff faults (checkedNext rfl) (onceNext fresh)
        distinctNext
      rw [length_append, length_singleton] at backNext
      rw [backNext]
      exact ⟨fun undone => ⟨check, .inr ⟨shared, undone⟩⟩,
        fun fits => (fits.2.resolve_left unregistered).2⟩

/-- Everything is restored or left as it was, if and only if every point where the moves can end
fits: the files that failed can all be moved back, and none of them was lost. -/
theorem allOrNothing_iff (paths : Paths Entry) (faults : Faults Entry) (actorId : ℕ)
    (payload : Option Payload) (world : World Entry) :
    AllOrNothing paths world
        (applyVerifiedMisplacedSourceCleanup paths faults actorId payload world) ↔
      (payload = some (expectedPayload paths world actorId) →
        missesRegistered paths world = false → ∀ before rest,
          (loadVerifiedRestoreContexts paths world).1 = before ++ rest →
          Passed paths faults world before → Fits paths faults world before rest) := by
  cases payload with
  | none =>
    constructor
    · rintro - ⟨⟩
    · intro _
      rfl
  | some payload =>
    unfold applyVerifiedMisplacedSourceCleanup
    cases missing : missesRegistered paths world with
    | true =>
      simp only [if_true]
      constructor
      · rintro - - ⟨⟩
      · intro _
        rfl
    | false =>
      simp only [Bool.false_eq_true, if_false]
      by_cases accepted : payload = expectedPayload paths world actorId
      · subst accepted
        have checked : ∀ context ∈ (loadVerifiedRestoreContexts paths world).1,
            Checked paths world context := fun context inside => checked_of_mem inside
        have files := nodup_files paths world
        simp only [ne_eq, not_true_eq_false, if_false, forall_const]
        by_cases empty : (loadVerifiedRestoreContexts paths world).1 = []
        · rw [if_pos empty]
          constructor
          · intro _ before rest whole _
            rw [empty] at whole
            obtain ⟨rfl, rfl⟩ := append_eq_nil_iff.1 whole.symm
            exact .inr fun position below => absurd below (Nat.not_lt_zero _)
          · intro _
            rfl
        · rw [if_neg empty]
          have start : Passed paths faults world [] := Passed.nil
          obtain ⟨done, left, whole, passed, ends⟩ := restoreSources_ends
            (loadVerifiedRestoreContexts paths world).1 checked start rfl
          rw [nil_append] at whole
          rw [fits_iff whole passed ends.stopped]
          change Ends paths faults world done left (restoreSources paths faults 0
            (loadVerifiedRestoreContexts paths world).1 ⟨world.disk, world.tables, []⟩) at ends
          cases result : restoreSources paths faults 0 (loadVerifiedRestoreContexts paths world).1
            ⟨world.disk, world.tables, []⟩ with
          | mk progress finished =>
            rw [result] at ends
            have stillChecked : ∀ other ∈ done ++ left, Checked paths world other := by
              rw [← whole]
              exact checked
            by_cases good : finished = true ∧ faults.audit = true ∧ faults.commit = true
            · rw [if_pos good]
              obtain ⟨rfl, recorded⟩ := good
              cases ends with
              | finished registered =>
                rw [append_nil] at whole
                constructor
                · exact fun _ => .inl recorded
                · intro _
                  change Restored world _ (loadVerifiedRestoreContexts paths world).1
                  rw [whole] at checked files ⊢
                  exact restored_of_passed checked files passed registered
            · rw [if_neg good, ← ends.undone_iff stillChecked passed good]
              change World.mk _ _ = world ↔ _
              constructor
              · exact fun same => congrArg World.disk same
              · intro same
                rw [same]
      · simp only [ne_eq]
        rw [if_pos accepted]
        constructor
        · intro _ same
          exact absurd (Option.some.inj same) accepted
        · intro _
          rfl

/-! ### Two files of one path -/

/-- Every path is resolved. -/
def openPaths : Paths String where
  printable _ := true
  spaceSeparator _ := false
  expanduser path := path
  absolute path := path
  isSymlink _ := false
  resolve := some
  resolveLoose := some
  isDir _ := true
  writable _ := true
  stat place content := some ⟨place, content.length, 0, 0, 0⟩

def noFaults : Faults String where
  moves _ := .moved
  checks _ := true
  updates _ := true
  audit := true
  commit := true
  undo _ := .moved

def misplacedFile (id : ℕ) (path content recorded : String) : ImportedFile where
  id := id
  importJobId := 1
  status := .imported
  filePath := path
  fileName := name path
  sourceSignature := some ⟨path, content.length, 0, 0, 0⟩
  matchedIssueId := some id
  libraryFileId := some id
  evidence := some ⟨"verified_cross_folder_issue_identity", "canonical", some recorded, none⟩

def referencedFile (id : ℕ) (path content : String) : LibraryFile where
  id := id
  issueId := some id
  storageMode := .referenced
  filePath := path
  fileName := name path
  fileSize := content.length
  sourceSignature := some ⟨path, content.length, 0, 0, 0⟩

/-- Mylar recorded both files at one path. -/
def sharedRecord : World String where
  disk place := if place = "/c/a/1.cbz" then some "one" else
    if place = "/c/a/2.cbz" then some "two" else none
  tables := {
    job := ⟨1, .completed, .mylar3⟩
    files := {
      rows := [misplacedFile 1 "/c/a/1.cbz" "one" "/c/b/1.cbz",
        misplacedFile 2 "/c/a/2.cbz" "two" "/c/b/1.cbz"]
      distinct := by decide }
    library := {
      rows := [referencedFile 1 "/c/a/1.cbz" "one", referencedFile 2 "/c/a/2.cbz" "two"]
      distinct := by decide
      unique := by
        intro first firstIn second secondIn value ofFirst ofSecond
        simp only [mem_cons, not_mem_nil, or_false] at firstIn secondIn
        obtain rfl | rfl := firstIn <;> obtain rfl | rfl := secondIn
        · rfl
        · exact absurd (ofFirst.trans ofSecond.symm) (by decide)
        · exact absurd (ofFirst.trans ofSecond.symm) (by decide)
        · rfl }
    actions := ⟨[], nodup_nil⟩
    roots := [⟨"/c", true, true⟩]
    audit := [] }

/-- The second file takes the place of the first, which does not come back. -/
theorem not_allOrNothing : ¬ AllOrNothing openPaths sharedRecord
    (applyVerifiedMisplacedSourceCleanup openPaths noFaults 1
      (some (expectedPayload openPaths sharedRecord 1)) sharedRecord) := by
  have kept : (applyVerifiedMisplacedSourceCleanup openPaths noFaults 1
      (some (expectedPayload openPaths sharedRecord 1)) sharedRecord).1.disk "/c/a/1.cbz" =
        none := by
    decide +kernel
  have raised : (applyVerifiedMisplacedSourceCleanup openPaths noFaults 1
      (some (expectedPayload openPaths sharedRecord 1)) sharedRecord).2.isOk = false := by
    decide +kernel
  intro either
  generalize applyVerifiedMisplacedSourceCleanup openPaths noFaults 1
    (some (expectedPayload openPaths sharedRecord 1)) sharedRecord = result at kept raised either
  obtain ⟨after, ok | error⟩ := result
  · rw [show after = sharedRecord from either] at kept
    have there : sharedRecord.disk "/c/a/1.cbz" = some "one" := by decide
    exact absurd (there.symm.trans kept) (Option.some_ne_none _)
  · cases raised
end Pullbox.Import.MisplacedSources
