import Mathlib.Data.List.Basic

/-!
# Forests of named files and folders

What a folder holds: files, and folders that hold the like. An item is put at a path, whose missing
folders are made; a walk from the leaves drops files and prunes the folders that are empty then.
-/

namespace Files

open List

universe u v w

/-- What a folder holds, one entry after the other. -/
inductive Forest (Name : Type u) (File : Type v) where
  | nil
  | file (name : Name) (file : File) (rest : Forest Name File)
  | folder (name : Name) (inside rest : Forest Name File)

/-- A file, or a folder with what is in it. -/
inductive Item (Name : Type u) (File : Type v) where
  | file (file : File)
  | folder (inside : Forest Name File)

namespace Forest

variable {Name : Type u} {File : Type v}

/-- All entries beneath by their paths; folders have no file. -/
def entries : Forest Name File → List (List Name × Option File)
  | nil => []
  | file name old rest => ([name], some old) :: rest.entries
  | folder name inside rest =>
    ([name], none) :: (inside.entries.map fun entry => (name :: entry.1, entry.2)) ++
      rest.entries

/-- The names of the entries of the folder itself. -/
def names : Forest Name File → List Name
  | nil => []
  | file name _ rest => name :: rest.names
  | folder name _ rest => name :: rest.names

/-- The files of the folder itself. -/
def level : Forest Name File → List (Name × File)
  | nil => []
  | file name old rest => (name, old) :: rest.level
  | folder _ _ rest => rest.level

/-- The same forest with other files. -/
def map {Other : Type w} (change : File → Other) : Forest Name File → Forest Name Other
  | nil => nil
  | file name old rest => file name (change old) (rest.map change)
  | folder name inside rest => folder name (inside.map change) (rest.map change)

def add (name : Name) : Item Name File → Forest Name File → Forest Name File
  | .file new, forest => file name new forest
  | .folder inside, forest => folder name inside forest

section Paths

variable [DecidableEq Name]

/-- The entry of a name. -/
def child (name : Name) : Forest Name File → Option (Item Name File)
  | nil => none
  | file other old rest => if other = name then some (.file old) else rest.child name
  | folder other inside rest => if other = name then some (.folder inside) else rest.child name

/-- The folder without the entry of a name. -/
def remove (name : Name) : Forest Name File → Forest Name File
  | nil => nil
  | file other old rest => if other = name then rest else file other old (rest.remove name)
  | folder other inside rest =>
    if other = name then rest else folder other inside (rest.remove name)

/-- `exists`. -/
def holds : Forest Name File → List Name → Bool
  | _, [] => true
  | forest, name :: rest =>
    match forest.child name with
    | none => false
    | some (.file _) => rest.isEmpty
    | some (.folder inside) => inside.holds rest

/-- The folder at a path, if there is one. -/
def folderAt : Forest Name File → List Name → Option (Forest Name File)
  | forest, [] => some forest
  | forest, name :: rest =>
    match forest.child name with
    | some (.folder inside) => inside.folderAt rest
    | _ => none

/-- `mkdir` of the parents and `rename` to the path; what stood there is replaced. A file among
the parents is in the way. -/
def put (item : Item Name File) : List Name → Forest Name File → Option (Forest Name File)
  | [], _ => none
  | [name], forest => some ((forest.remove name).add name item)
  | name :: next :: rest, forest =>
    match forest.child name with
    | none => (put item (next :: rest) nil).map fun inside => forest.add name (.folder inside)
    | some (.file _) => none
    | some (.folder inside) =>
      (put item (next :: rest) inside).map fun inside =>
        (forest.remove name).add name (.folder inside)

end Paths

/-! ### Walking from the leaves -/

/-- What is done about the files of one folder, and whether the walk ends there. -/
structure Decision (Name : Type u) (File : Type v) where
  drops : Name → File → Bool
  ends : Bool

/-- The folder without some of its files. -/
def dropFiles (drops : Name → File → Bool) : Forest Name File → Forest Name File
  | nil => nil
  | file name old rest =>
    if drops name old then rest.dropFiles drops else file name old (rest.dropFiles drops)
  | folder name inside rest => folder name inside (rest.dropFiles drops)

/-- The folder without its empty folders. -/
def prune : Forest Name File → Forest Name File
  | nil => nil
  | file name old rest => file name old rest.prune
  | folder _ nil rest => rest.prune
  | folder name (file other old inside) rest => folder name (file other old inside) rest.prune
  | folder name (folder other under inside) rest =>
    folder name (folder other under inside) rest.prune

/-- One folder whose folders were walked: its files, then its empty folders. -/
def settle (decide : List (Name × File) → Decision Name File) (forest : Forest Name File) :
    Forest Name File × Bool :=
  let decision := decide forest.level
  let left := forest.dropFiles decision.drops
  if decision.ends then (left, true) else (left.prune, false)

/-- The folders of a folder, one after the other, until the walk ends. -/
def sweepFolders (decide : List (Name × File) → Decision Name File) :
    Forest Name File → Forest Name File × Bool
  | nil => (nil, false)
  | file name old rest =>
    let (rest, ended) := rest.sweepFolders decide
    (file name old rest, ended)
  | folder name inside rest =>
    let (inside, ended) := inside.sweepFolders decide
    let (inside, ended) := if ended then (inside, true) else inside.settle decide
    if ended then (folder name inside rest, true)
    else
      let (rest, ended) := rest.sweepFolders decide
      (folder name inside rest, ended)

/-- `walk(top_down=False)`, from the leaves to the folder itself. -/
def sweep (decide : List (Name × File) → Decision Name File) (forest : Forest Name File) :
    Forest Name File × Bool :=
  let (forest, ended) := forest.sweepFolders decide
  if ended then (forest, true) else forest.settle decide

end Forest

/-- The entries of an item by their paths from it. -/
def Item.entries {Name : Type u} {File : Type v} : Item Name File → List (List Name × Option File)
  | .file old => [([], some old)]
  | .folder inside => ([], none) :: inside.entries

/-! ### Putting -/

namespace Forest

variable {Name : Type u} {File : Type v} {forest after inside : Forest Name File} {name : Name}
  {item : Item Name File} {path : List Name} {entry : List Name × Option File}

theorem mem_entries_add : entry ∈ (forest.add name item).entries ↔
    (∃ own ∈ item.entries, entry = (name :: own.1, own.2)) ∨ entry ∈ forest.entries := by
  cases item with
  | file new => simp [add, entries, Item.entries]
  | folder inside =>
    simp only [add, entries, Item.entries, mem_cons, cons_append, mem_append,
      mem_map, exists_eq_or_imp, or_assoc]
    simp only [eq_comm]

variable [DecidableEq Name]

/-- The entries at and beneath a name, and the others. -/
theorem mem_entries_of_child (found : forest.child name = some item) : entry ∈ forest.entries ↔
    (∃ own ∈ item.entries, entry = (name :: own.1, own.2)) ∨
      entry ∈ (forest.remove name).entries := by
  induction forest with
  | nil => cases found
  | file other old rest ih =>
    unfold child at found
    unfold remove
    split at found
    · rename_i same
      cases found
      subst same
      rw [if_pos rfl]
      simp [entries, Item.entries]
    · rename_i apart
      rw [if_neg apart]
      simp only [entries, mem_cons, ih found]
      exact or_left_comm
  | folder other under rest _ ih =>
    unfold child at found
    unfold remove
    split at found
    · rename_i same
      cases found
      subst same
      rw [if_pos rfl]
      simp only [entries, Item.entries, mem_cons, cons_append, mem_append,
        mem_map, exists_eq_or_imp, or_assoc]
      simp only [eq_comm]
    · rename_i apart
      rw [if_neg apart]
      simp only [entries, cons_append, mem_cons, mem_append, ih found]
      exact (or_congr_right or_left_comm).trans or_left_comm

theorem remove_of_child (none : forest.child name = none) : forest.remove name = forest := by
  induction forest with
  | nil => rfl
  | file other old rest ih =>
    unfold child at none
    unfold remove
    split at none
    · cases none
    · rename_i apart
      rw [if_neg apart, ih none]
  | folder other under rest _ ih =>
    unfold child at none
    unfold remove
    split at none
    · cases none
    · rename_i apart
      rw [if_neg apart, ih none]

/-- An item put where there is nothing leaves every entry there is. -/
theorem entries_of_put (free : forest.holds path = false) (made : put item path forest = some after)
    (inside : entry ∈ forest.entries) : entry ∈ after.entries := by
  induction path generalizing forest after entry with
  | nil => cases made
  | cons name rest ih =>
    unfold holds at free
    cases rest with
    | nil =>
      cases made
      cases found : forest.child name with
      | none =>
        rw [mem_entries_add, remove_of_child found]
        exact .inr inside
      | some old =>
        rw [found] at free
        cases old with
        | file => cases free
        | folder => cases free
    | cons next rest =>
      unfold put at made
      cases found : forest.child name with
      | none =>
        rw [found] at made
        obtain ⟨under, -, rfl⟩ := Option.map_eq_some_iff.1 made
        rw [mem_entries_add]
        exact .inr inside
      | some old =>
        rw [found] at made free
        cases old with
        | file => cases made
        | folder under =>
          obtain ⟨changed, put, rfl⟩ := Option.map_eq_some_iff.1 made
          rw [mem_entries_add]
          rw [mem_entries_of_child found] at inside
          obtain ⟨own, ownIn, rfl⟩ | other := inside
          · left
            refine ⟨own, ?_, rfl⟩
            simp only [Item.entries, mem_cons] at ownIn ⊢
            exact ownIn.imp_right (ih free put)
          · exact .inr other

/-- What is there after an item was put: its own files, and those that were there. -/
theorem files_of_put {place : List Name} {file : File} (made : put item path forest = some after)
    (inside : (place, some file) ∈ after.entries) :
    (∃ own, (own, some file) ∈ item.entries ∧ place = path ++ own) ∨
      (place, some file) ∈ forest.entries := by
  induction path generalizing forest after place with
  | nil => cases made
  | cons name rest ih =>
    cases rest with
    | nil =>
      cases made
      rw [mem_entries_add] at inside
      obtain ⟨⟨own, held⟩, ownIn, same⟩ | other := inside
      · cases same
        exact .inl ⟨own, ownIn, rfl⟩
      · right
        cases found : forest.child name with
        | none => rwa [remove_of_child found] at other
        | some old => exact (mem_entries_of_child found).2 (.inr other)
    | cons next rest =>
      unfold put at made
      cases found : forest.child name with
      | none =>
        rw [found] at made
        obtain ⟨under, put, rfl⟩ := Option.map_eq_some_iff.1 made
        rw [mem_entries_add] at inside
        obtain ⟨⟨own, held⟩, ownIn, same⟩ | other := inside
        · cases same
          simp only [Item.entries, mem_cons, Prod.mk.injEq, reduceCtorEq, and_false,
            false_or] at ownIn
          obtain ⟨inner, innerIn, rfl⟩ | absent := ih put ownIn
          · exact .inl ⟨inner, innerIn, rfl⟩
          · cases absent
        · exact .inr other
      | some old =>
        rw [found] at made
        cases old with
        | file => cases made
        | folder under =>
          obtain ⟨changed, put, rfl⟩ := Option.map_eq_some_iff.1 made
          rw [mem_entries_add] at inside
          rw [mem_entries_of_child found]
          obtain ⟨⟨own, held⟩, ownIn, same⟩ | other := inside
          · cases same
            simp only [Item.entries, mem_cons, Prod.mk.injEq, reduceCtorEq,
              and_false, false_or] at ownIn
            obtain ⟨inner, innerIn, rfl⟩ | there := ih put ownIn
            · exact .inl ⟨inner, innerIn, rfl⟩
            · right
              left
              refine ⟨(own, some file), ?_, rfl⟩
              simp only [Item.entries, mem_cons]
              exact .inr there
          · exact .inr (.inr other)

/-- What is put is there. -/
theorem mem_of_put (made : put item path forest = some after) {own : List Name × Option File}
    (ownIn : own ∈ item.entries) : (path ++ own.1, own.2) ∈ after.entries := by
  induction path generalizing forest after with
  | nil => cases made
  | cons name rest ih =>
    cases rest with
    | nil =>
      cases made
      exact mem_entries_add.2 (.inl ⟨own, ownIn, rfl⟩)
    | cons next rest =>
      unfold put at made
      cases found : forest.child name with
      | none =>
        rw [found] at made
        obtain ⟨under, put, rfl⟩ := Option.map_eq_some_iff.1 made
        refine mem_entries_add.2 (.inl ⟨(next :: rest ++ own.1, own.2), ?_, rfl⟩)
        exact mem_cons_of_mem _ (ih put)
      | some old =>
        rw [found] at made
        cases old with
        | file => cases made
        | folder under =>
          obtain ⟨changed, put, rfl⟩ := Option.map_eq_some_iff.1 made
          refine mem_entries_add.2 (.inl ⟨(next :: rest ++ own.1, own.2), ?_, rfl⟩)
          exact mem_cons_of_mem _ (ih put)

/-! ### Walking -/

section Walks

variable {Name : Type u} {File : Type v} {forest : Forest Name File} {name : Name} {file : File}
  {place : List Name} {drops : Name → File → Bool} {dropped : File → Bool} {good : File → Prop}
  {decide : List (Name × File) → Decision Name File}

theorem ne_nil_of_mem_entries {entry : List Name × Option File} (inside : entry ∈ forest.entries) :
    entry.1 ≠ [] := by
  induction forest with
  | nil => cases inside
  | file name old rest ih =>
    obtain rfl | later := mem_cons.1 inside
    · exact cons_ne_nil _ _
    · exact ih later
  | folder name under rest _ ih =>
    rw [entries, cons_append, mem_cons, mem_append, mem_map] at inside
    obtain rfl | ⟨own, _, rfl⟩ | later := inside
    · exact cons_ne_nil _ _
    · exact cons_ne_nil _ _
    · exact ih later

theorem mem_entries_folder {under rest : Forest Name File} :
    (place, some file) ∈ (folder name under rest).entries ↔
      (∃ own, (own, some file) ∈ under.entries ∧ place = name :: own) ∨
        (place, some file) ∈ rest.entries := by
  simp only [entries, cons_append, mem_cons, mem_append, mem_map,
    Prod.mk.injEq, reduceCtorEq, and_false, false_or, Prod.exists]
  constructor
  · rintro (⟨own, held, inside, rfl, rfl⟩ | later)
    · exact .inl ⟨own, inside, rfl⟩
    · exact .inr later
  · rintro (⟨own, inside, rfl⟩ | later)
    · exact .inl ⟨own, _, inside, rfl, rfl⟩
    · exact .inr later

theorem mem_level : (name, file) ∈ forest.level ↔ ([name], some file) ∈ forest.entries := by
  induction forest with
  | nil => simp [level, entries]
  | file other old rest ih => simp [level, entries, ih]
  | folder other under rest _ ih =>
    rw [level, ih, mem_entries_folder]
    constructor
    · exact .inr
    · rintro (⟨own, inside, same⟩ | later)
      · cases same
        exact absurd rfl (ne_nil_of_mem_entries inside)
      · exact later

theorem mem_dropFiles : (place, some file) ∈ (forest.dropFiles drops).entries ↔
    (place, some file) ∈ forest.entries ∧ ∀ name, place = [name] → drops name file = false := by
  induction forest with
  | nil => simp [dropFiles, entries]
  | file other old rest ih =>
    unfold dropFiles
    split
    · rename_i gone
      rw [ih, entries, mem_cons]
      constructor
      · rintro ⟨later, kept⟩
        exact ⟨.inr later, kept⟩
      · rintro ⟨same | later, kept⟩
        · cases same
          rw [kept other rfl] at gone
          cases gone
        · exact ⟨later, kept⟩
    · rename_i stays
      rw [entries, mem_cons, ih, entries, mem_cons]
      constructor
      · rintro (same | ⟨later, kept⟩)
        · cases same
          refine ⟨.inl rfl, fun name same => ?_⟩
          cases same
          exact Bool.eq_false_iff.2 stays
        · exact ⟨.inr later, kept⟩
      · rintro ⟨same | later, kept⟩
        · exact .inl same
        · exact .inr ⟨later, kept⟩
  | folder other under rest _ ih =>
    rw [dropFiles, mem_entries_folder, ih, mem_entries_folder]
    constructor
    · rintro (⟨own, inside, rfl⟩ | ⟨later, kept⟩)
      · refine ⟨.inl ⟨own, inside, rfl⟩, fun name same => ?_⟩
        cases same
        exact absurd rfl (ne_nil_of_mem_entries inside)
      · exact ⟨.inr later, kept⟩
    · rintro ⟨own | later, kept⟩
      · exact .inl own
      · exact .inr ⟨later, kept⟩

/-- Pruning takes no file. -/
theorem mem_prune : (place, some file) ∈ forest.prune.entries ↔
    (place, some file) ∈ forest.entries := by
  induction forest with
  | nil => rfl
  | file other old rest ih => simp [prune, entries, ih]
  | folder other under rest _ ih =>
    cases under with
    | nil => simp [prune, ih, entries]
    | file => simp [prune, mem_entries_folder, ih]
    | folder => simp [prune, mem_entries_folder, ih]

/-- Every file of the forest is a good one. -/
def AllFiles (good : File → Prop) (forest : Forest Name File) : Prop :=
  ∀ place file, (place, some file) ∈ forest.entries → good file

theorem AllFiles.of_folder {under rest : Forest Name File}
    (all : AllFiles good (folder name under rest)) : AllFiles good under ∧ AllFiles good rest := by
  constructor
  · intro place file inside
    exact all (name :: place) file (mem_entries_folder.2 (.inl ⟨place, inside, rfl⟩))
  · intro place file inside
    exact all place file (mem_entries_folder.2 (.inr inside))

/-- What is left where the folders of a folder were walked, none of them ending the walk. -/
structure Swept (dropped : File → Bool) (forest : Forest Name File)
    (result : Forest Name File × Bool) : Prop where
  ran : result.2 = false
  level : result.1.level = forest.level
  files : ∀ place file, (place, some file) ∈ result.1.entries ↔
    (place, some file) ∈ forest.entries ∧ (place.length = 1 ∨ dropped file = false)

/-- A folder is settled after its folders. -/
theorem Swept.settle {result : Forest Name File × Bool} (swept : Swept dropped forest result)
    (calm : decide forest.level = ⟨fun _ file => dropped file, false⟩) :
    (result.1.settle decide).2 = false ∧ ∀ place file,
      (place, some file) ∈ (result.1.settle decide).1.entries ↔
        (place, some file) ∈ forest.entries ∧ dropped file = false := by
  have settled : result.1.settle decide =
      ((result.1.dropFiles fun _ file => dropped file).prune, false) := by
    unfold Forest.settle
    rw [swept.level, calm]
    rfl
  rw [settled]
  refine ⟨rfl, fun place file => ?_⟩
  rw [mem_prune, mem_dropFiles, swept.files]
  constructor
  · rintro ⟨⟨inside, single | kept⟩, own⟩
    · obtain ⟨name, rfl⟩ := length_eq_one_iff.1 single
      exact ⟨inside, own name rfl⟩
    · exact ⟨inside, kept⟩
  · rintro ⟨inside, kept⟩
    exact ⟨⟨inside, .inr kept⟩, fun _ _ => kept⟩

/-- Where no folder ends the walk, every folder's folders are walked. -/
theorem swept_sweepFolders
    (calm : ∀ files : List (Name × File), (∀ one ∈ files, good one.2) →
      decide files = ⟨fun _ file => dropped file, false⟩)
    (all : AllFiles good forest) : Swept dropped forest (forest.sweepFolders decide) := by
  induction forest with
  | nil => exact ⟨rfl, rfl, by simp [sweepFolders, entries]⟩
  | file name old rest ih =>
    have swept := ih fun place file inside => all place file (mem_cons_of_mem _ inside)
    refine ⟨swept.ran, ?_, ?_⟩
    · exact congrArg (List.cons (name, old)) swept.level
    · intro place file
      simp only [sweepFolders, entries, mem_cons, swept.files]
      constructor
      · rintro (same | ⟨later, kept⟩)
        · cases same
          exact ⟨.inl rfl, .inl rfl⟩
        · exact ⟨.inr later, kept⟩
      · rintro ⟨same | later, kept⟩
        · exact .inl same
        · exact .inr ⟨later, kept⟩
  | folder name under rest underIh restIh =>
    obtain ⟨underAll, restAll⟩ := all.of_folder
    have underSwept := underIh underAll
    have restSwept := restIh restAll
    have quiet := calm under.level fun one inside =>
      underAll [one.1] one.2 (mem_level.1 inside)
    obtain ⟨settledRan, settled⟩ := underSwept.settle quiet
    have result : (folder name under rest).sweepFolders decide =
        (folder name ((under.sweepFolders decide).1.settle decide).1
          (rest.sweepFolders decide).1, false) := by
      rw [sweepFolders]
      simp only [underSwept.ran, settledRan, restSwept.ran, Bool.false_eq_true, if_false]
    rw [result]
    refine ⟨rfl, restSwept.level, fun place file => ?_⟩
    simp only [mem_entries_folder, settled, restSwept.files]
    constructor
    · rintro (⟨own, ⟨inside, kept⟩, rfl⟩ | ⟨later, kept⟩)
      · exact ⟨.inl ⟨own, inside, rfl⟩, .inr kept⟩
      · exact ⟨.inr later, kept⟩
    · rintro ⟨⟨own, inside, rfl⟩ | later, kept⟩
      · refine .inl ⟨own, ⟨inside, ?_⟩, rfl⟩
        refine kept.resolve_left fun single => ?_
        rw [length_cons, Nat.add_eq_right, length_eq_zero_iff] at single
        exact ne_nil_of_mem_entries inside single
      · exact .inr ⟨later, kept⟩

/-- Where no folder ends the walk, it drops the files that are to be dropped, and no other. -/
theorem sweep_files
    (calm : ∀ files : List (Name × File), (∀ one ∈ files, good one.2) →
      decide files = ⟨fun _ file => dropped file, false⟩)
    (all : AllFiles good forest) : (forest.sweep decide).2 = false ∧ ∀ place file,
      (place, some file) ∈ (forest.sweep decide).1.entries ↔
        (place, some file) ∈ forest.entries ∧ dropped file = false := by
  have swept := swept_sweepFolders calm all
  have quiet := calm forest.level fun one inside => all [one.1] one.2 (mem_level.1 inside)
  have result : forest.sweep decide = (forest.sweepFolders decide).1.settle decide := by
    unfold sweep
    simp only [swept.ran, Bool.false_eq_true, if_false]
  rw [result]
  exact swept.settle quiet

/-! ### Other files -/

theorem mem_map {Other : Type w} {change : File → Other} {other : Other} :
    (place, some other) ∈ (forest.map change).entries ↔
      ∃ file, (place, some file) ∈ forest.entries ∧ change file = other := by
  induction forest generalizing place with
  | nil => simp [map, entries]
  | file name old rest ih =>
    simp only [map, entries, mem_cons, Prod.mk.injEq, Option.some.injEq, ih]
    constructor
    · rintro (⟨rfl, rfl⟩ | ⟨file, inside, rfl⟩)
      · exact ⟨old, .inl ⟨rfl, rfl⟩, rfl⟩
      · exact ⟨file, .inr inside, rfl⟩
    · rintro ⟨file, ⟨rfl, rfl⟩ | inside, rfl⟩
      · exact .inl ⟨rfl, rfl⟩
      · exact .inr ⟨file, inside, rfl⟩
  | folder name under rest underIh restIh =>
    simp only [map, mem_entries_folder, underIh, restIh]
    constructor
    · rintro (⟨own, ⟨file, inside, rfl⟩, rfl⟩ | ⟨file, inside, rfl⟩)
      · exact ⟨file, .inl ⟨own, inside, rfl⟩, rfl⟩
      · exact ⟨file, .inr inside, rfl⟩
    · rintro ⟨file, ⟨own, inside, rfl⟩ | inside, rfl⟩
      · exact .inl ⟨own, ⟨file, inside, rfl⟩, rfl⟩
      · exact .inr ⟨file, inside, rfl⟩

end Walks

end Forest

end Files
