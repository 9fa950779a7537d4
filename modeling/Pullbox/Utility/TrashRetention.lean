import Mathlib.Data.List.Nodup
import Mathlib.Data.List.Perm.Subperm
import Pullbox.Utility.Trash

/-!
# What retention keeps

A move puts its item where nothing is. Files that were moved alone and stamped are kept and deleted
by the time of their move; files inside folders, and one whose stamp failed, keep the time they had
before, and go by that. Symbolic links are left out: what is moved are files and folders.
-/

namespace Pullbox.Utility.Trash

open Files List

variable {trash after : Contents} {place path : List Name} {name : Name} {now : Moment}
  {sourceName : Name} {relativePath : Option (List Name)} {source : Item Name ℤ} {utime : Bool}
  {retentionDays : ℕ} {file : Trashed}

/-! ### Free destinations -/

/-- Numbers that are passed over are taken. -/
theorem taken_of_firstFree (taken : ℕ → Bool) {more counter : ℕ}
    (last : taken (firstFree taken more counter) = true) :
    ∀ number, counter ≤ number → number ≤ counter + more → taken number = true := by
  induction more generalizing counter with
  | zero =>
    intro number low high
    have same : number = counter := by omega
    rw [same]
    exact last
  | succ more ih =>
    intro number low high
    unfold firstFree at last
    split at last
    · rename_i here
      by_cases first : number = counter
      · rw [first]
        exact here
      · exact ih last number (by omega) (by omega)
    · rename_i free
      exact absurd last free

theorem numbered_injective : Function.Injective (numbered name) := by
  intro one two same
  unfold numbered at same
  simp only [append_assoc, append_cancel_left_eq] at same
  have lengths := congrArg List.length same
  simp only [length_append] at lengths
  obtain ⟨digits, -⟩ := append_inj same (by omega)
  have back := congrArg (Nat.ofDigitChars 10 · 0) digits
  simpa only [Nat.ofDigitChars_ten_toDigits] using back

theorem mem_names_of_child {folder : Contents} {item : Item Name Trashed}
    (found : folder.child name = some item) : name ∈ folder.names := by
  induction folder with
  | nil => cases found
  | file other old rest ih =>
    unfold Forest.child at found
    split at found
    · rename_i same
      subst same
      exact mem_cons_self
    · exact mem_cons_of_mem _ (ih found)
  | folder other under rest _ ih =>
    unfold Forest.child at found
    split at found
    · rename_i same
      subst same
      exact mem_cons_self
    · exact mem_cons_of_mem _ (ih found)

/-- A name is taken in a folder if the folder is there and has an entry of it. -/
theorem folderAt_of_holds {parent : List Name} (there : trash.holds (parent ++ [name]) = true) :
    ∃ folder, trash.folderAt parent = some folder ∧ name ∈ folder.names := by
  induction parent generalizing trash with
  | nil =>
    refine ⟨trash, rfl, ?_⟩
    cases found : trash.child name with
    | none => simp [Forest.holds, found] at there
    | some item => exact mem_names_of_child found
  | cons first rest ih =>
    rw [cons_append] at there
    unfold Forest.holds at there
    unfold Forest.folderAt
    cases found : trash.child first with
    | none =>
      rw [found] at there
      cases there
    | some item =>
      rw [found] at there
      cases item with
      | file old => simp at there
      | folder inside => exact ih there

/-- Nothing is at the destination of a move. -/
theorem not_holds_dedupe (trash : Contents) (some : path ≠ []) :
    trash.holds (dedupeDestinationPath trash path) = false := by
  unfold dedupeDestinationPath
  split
  · rename_i there
    have whole : path = path.dropLast ++ [path.getLastD []] := by
      rw [getLastD_eq_getLast?, List.getLast?_eq_some_getLast some, Option.getD_some]
      exact (dropLast_append_getLast some).symm
    rw [whole] at there
    obtain ⟨folder, found, -⟩ := folderAt_of_holds there
    rw [found, Option.map_some, Option.getD_some]
    rw [Bool.eq_false_iff]
    intro last
    have taken := taken_of_firstFree (fun counter =>
      trash.holds (path.dropLast ++ [numbered (path.getLastD []) counter])) last
    have names : (List.range (folder.names.length + 1)).map (fun number =>
        numbered (path.getLastD []) (number + 1)) ⊆ folder.names := by
      intro candidate inside
      obtain ⟨number, low, rfl⟩ := mem_map.1 inside
      rw [mem_range] at low
      obtain ⟨other, sameFolder, named⟩ := folderAt_of_holds
        (taken (number + 1) (by omega) (by omega))
      rw [found] at sameFolder
      cases sameFolder
      exact named
    have distinct : ((List.range (folder.names.length + 1)).map fun number =>
        numbered (path.getLastD []) (number + 1)).Nodup := by
      apply List.Nodup.map _ nodup_range
      intro one two same
      have next := numbered_injective same
      omega
    have fits := (subperm_of_subset distinct names).length_le
    rw [length_map, length_range] at fits
    omega
  · rename_i free
    exact Bool.eq_false_iff.2 free

theorem buildTrashDestination_ne_nil (sourceName : Name) (relativePath : Option (List Name)) :
    buildTrashDestination sourceName relativePath ≠ [] := by
  unfold buildTrashDestination
  split
  · exact cons_ne_nil _ _
  · exact cons_ne_nil _ _
  · rename_i relative notNil
    exact notNil

/-- A move takes nothing away. -/
theorem lawful_move (trash : Contents) (now : Moment) (sourceName : Name)
    (relativePath : Option (List Name)) (source : Item Name ℤ) (utime : Bool) :
    Lawful trash (.move now sourceName relativePath source utime) := by
  unfold Lawful movePathToUtilityTrash
  have free := not_holds_dedupe trash (buildTrashDestination_ne_nil sourceName relativePath)
  cases put : trash.put (stamped now utime source)
      (dedupeDestinationPath trash (buildTrashDestination sourceName relativePath)) with
  | none =>
    simp only [put]
    refine ⟨fun entry inside => inside, ?_⟩
    rintro _ ⟨⟩
  | some after =>
    simp only [put]
    refine ⟨fun entry inside => Forest.entries_of_put free put inside, ?_⟩
    intro trashDest returned own inside
    obtain ⟨-, same⟩ := Option.ite_none_right_eq_some.1 returned
    rw [← Option.some.inj same]
    exact Forest.mem_of_put put inside

/-! ### What stays true of the trash -/

/-- Every file was moved at a time with a date, and one that was stamped has that time. -/
def Stamped (trash : Contents) : Prop :=
  ∀ place file, (place, some file) ∈ trash.entries →
    Dated file.movedAt ∧ (file.stamped = true → file.modified = file.movedAt)

theorem stamped_nil : Stamped .nil := by
  rintro place file ⟨⟩

/-- What is put into the trash says when. -/
theorem stamped_item (inside : (place, some file) ∈ (stamped now utime source).entries) :
    Dated file.movedAt ∧ (file.stamped = true → file.modified = file.movedAt) := by
  cases source with
  | file modified =>
    obtain ⟨rfl, rfl⟩ : place = [] ∧
        file = if utime then ⟨now, now, true⟩ else ⟨modified, now, false⟩ := by
      simpa [stamped, Item.entries] using inside
    cases utime with
    | true => exact ⟨now.2, fun _ => rfl⟩
    | false => exact ⟨now.2, fun marked => by cases marked⟩
  | folder contents =>
    simp only [stamped, Item.entries, mem_cons, Prod.mk.injEq, reduceCtorEq, and_false,
      false_or, Forest.mem_map] at inside
    obtain ⟨modified, -, rfl⟩ := inside
    exact ⟨now.2, fun marked => by cases marked⟩

theorem stamped_move (stamped : Stamped trash) :
    Stamped (step trash (.move now sourceName relativePath source utime)) := by
  change Stamped (movePathToUtilityTrash now sourceName relativePath source utime trash).1
  unfold movePathToUtilityTrash
  dsimp only
  split
  · exact stamped
  · rename_i put
    intro place file inside
    obtain ⟨own, ownIn, -⟩ | there := Forest.files_of_put put inside
    · exact stamped_item ownIn
    · exact stamped place file there

/-! ### Clean-ups -/

/-- Every file has a time with a date. -/
def AllDated (trash : Contents) : Prop :=
  trash.AllFiles fun file => Dated file.modified

/-- Where every file has a date, a clean-up keeps those that were modified since the cutoff. -/
theorem files_of_cleanup (dated : AllDated trash) :
    (place, some file) ∈ (step trash (.cleanup now retentionDays)).entries ↔
      (place, some file) ∈ trash.entries ∧ cutoff now retentionDays < file.modified := by
  have stepped : step trash (.cleanup now retentionDays) =
      (cleanupUtilityTrashRetention now retentionDays trash).1 := rfl
  rw [stepped]
  unfold cleanupUtilityTrashRetention
  by_cases sayable : Dated (cutoff now retentionDays)
  · rw [if_pos sayable]
    have calm (files : List (Name × Trashed)) (all : ∀ one ∈ files, Dated one.2.modified) :
        retention (cutoff now retentionDays) files =
          ⟨fun _ file => Dated file.modified ∧ ¬ cutoff now retentionDays < file.modified,
            false⟩ := by
      have none : ¬ ∃ one ∈ files, ¬ Dated one.2.modified := by
        rintro ⟨one, inside, undated⟩
        exact undated (all one inside)
      unfold retention
      congr 1
      · funext name file
        rw [decide_eq_decide]
        constructor
        · exact fun ⟨date, old, _⟩ => ⟨date, old⟩
        · exact fun ⟨date, old⟩ => ⟨date, old, fun one inside undated =>
            absurd (all one inside) undated⟩
      · exact decide_eq_false none
    rw [(Forest.sweep_files calm dated).2]
    refine and_congr_right fun inside => ?_
    have date := dated place file inside
    simp [date]
  · rw [if_neg sayable]
    refine ⟨fun inside => ⟨inside, ?_⟩, And.left⟩
    have ofFile := dated place file inside
    have ofNow := now.2
    unfold Dated cutoff day at *
    omega

/-- A file inside a moved folder, or whose stamp failed, goes by the time it had before: the clean-up
is right about it if that time and the time of the move lie on one side of the cutoff. -/
def Agrees (trash : Contents) (now : Moment) (retentionDays : ℕ) : Prop :=
  ∀ place file, (place, some file) ∈ trash.entries → file.stamped = false →
    (cutoff now retentionDays < file.modified ↔ cutoff now retentionDays < file.movedAt)

theorem lawful_cleanup_iff (stamped : Stamped trash) (dated : AllDated trash) :
    Lawful trash (.cleanup now retentionDays) ↔ Agrees trash now retentionDays := by
  constructor
  · intro lawful place file inside _
    have kept := lawful place file inside
    rw [files_of_cleanup dated] at kept
    exact (and_iff_right inside).symm.trans kept
  · intro agrees place file inside
    rw [files_of_cleanup dated, and_iff_right inside]
    cases marked : file.stamped with
    | false => exact agrees place file inside marked
    | true => rw [(stamped place file inside).2 marked]

/-! ### Runs -/

/-- Before a clean-up, every file has a time with a date, and those that were not stamped are on
the side of the cutoff where their moves are. -/
def Calm (trash : Contents) : Event → Prop
  | .move .. => True
  | .cleanup now retentionDays => AllDated trash ∧ Agrees trash now retentionDays

theorem stamped_step (stamped : Stamped trash) {event : Event} (calm : Calm trash event) :
    Stamped (step trash event) := by
  cases event with
  | move => exact stamped_move stamped
  | cleanup now retentionDays =>
    intro place file inside
    exact stamped place file ((files_of_cleanup calm.1).1 inside).1

theorem lawful_of_calm (stamped : Stamped trash) {event : Event} (calm : Calm trash event) :
    Lawful trash event := by
  cases event with
  | move now sourceName relativePath source utime =>
    exact lawful_move trash now sourceName relativePath source utime
  | cleanup now retentionDays => exact (lawful_cleanup_iff stamped calm.1).2 calm.2

theorem along_lawful_of_stamped {events : List Event} (stamped : Stamped trash)
    (calm : Along Calm trash events) : Along Lawful trash events := by
  induction events generalizing trash with
  | nil => trivial
  | cons event rest ih =>
    obtain ⟨here, later⟩ := calm
    exact ⟨lawful_of_calm stamped here, ih (stamped_step stamped here) later⟩

/-- In every run from an empty trash whose clean-ups find the files that were not stamped on the
right side of the cutoff, every move and every clean-up is lawful. -/
theorem along_lawful (events : List Event) (calm : Along Calm .nil events) :
    Along Lawful .nil events :=
  along_lawful_of_stamped stamped_nil calm

/-- The time, in days of the epoch. -/
def dayOf (number : ℕ) (small : number < 1000) : Moment :=
  ⟨number * day, by
    unfold Dated day
    omega⟩

/-- An old file alone, and a folder with a file of the day before. -/
def twoMoves : List Event :=
  [.move (dayOf 100 (by decide)) "a.cbz".toList none (.file 0) true,
    .move (dayOf 100 (by decide)) "Series".toList none
      (.folder (.file "b.cbz".toList (99 * day) .nil)) true]

/-- The files of the two moves. -/
def twoFiles : List Trashed :=
  [⟨99 * day, 100 * day, false⟩, ⟨100 * day, 100 * day, true⟩]

theorem calm_twoFiles {number : ℕ} {small : number < 1000} (late : number = 101 ∨ number = 140)
    (files : ∀ place file, (place, some file) ∈ trash.entries → file ∈ twoFiles) :
    Calm trash (.cleanup (dayOf number small) 30) := by
  have both : ∀ file ∈ twoFiles, Dated file.modified ∧
      (cutoff (dayOf number small) 30 < file.modified ↔
        cutoff (dayOf number small) 30 < file.movedAt) := by
    obtain rfl | rfl := late <;> revert small <;> decide
  exact ⟨fun place file inside => (both file (files place file inside)).1,
    fun place file inside _ => (both file (files place file inside)).2⟩

/-- Both are kept on the next day and deleted after forty. -/
theorem along_lawful_twoMoves : Along Lawful .nil
    (twoMoves ++ [.cleanup (dayOf 101 (by decide)) 30, .cleanup (dayOf 140 (by decide)) 30]) := by
  have moved : ∀ entry ∈ (twoMoves.foldl step .nil).entries,
      ∀ file ∈ entry.2, file ∈ twoFiles := by
    decide +kernel
  have nextDay : Calm (twoMoves.foldl step .nil) (.cleanup (dayOf 101 (by decide)) 30) :=
    calm_twoFiles (.inl rfl) fun place file inside => moved _ inside file rfl
  have later : Calm (step (twoMoves.foldl step .nil) (.cleanup (dayOf 101 (by decide)) 30))
      (.cleanup (dayOf 140 (by decide)) 30) :=
    calm_twoFiles (.inr rfl) fun place file inside =>
      moved _ ((files_of_cleanup nextDay.1).1 inside).1 file rfl
  exact along_lawful _ ⟨trivial, trivial, nextDay, later, trivial⟩

/-- A file inside a folder is deleted on the day after its move when it was last modified longer
ago than the retention. -/
theorem not_along_lawful : ¬ Along Lawful .nil
    [.move (dayOf 100 (by decide)) "Series".toList none
        (.folder (.file "a.cbz".toList 0 .nil)) true,
      .cleanup (dayOf 101 (by decide)) 30] := by
  rintro ⟨-, cleanup, -⟩
  have before : (["Series".toList, "a.cbz".toList],
      some (⟨0, dayOf 100 (by decide), false⟩ : Trashed)) ∈
      (step .nil (.move (dayOf 100 (by decide)) "Series".toList none
        (.folder (.file "a.cbz".toList 0 .nil)) true)).entries := by
    decide +kernel
  have kept := (cleanup _ _ before).2 (by decide)
  revert kept
  decide +kernel

end Pullbox.Utility.Trash
