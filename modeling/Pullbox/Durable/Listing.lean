import Mathlib.Data.List.Nodup

/-!
# Maps and lists of their entries

A directory of named values, and a list that names each of them once. Two maps with one list are
the same map.
-/

namespace Durable

open Function List

universe u v

variable {κ : Type u} {ν : Type v}

/-- The list has the entries of the map, each once. -/
structure Lists (files : κ → Option ν) (entries : List (κ × ν)) : Prop where
  once : (entries.map Prod.fst).Nodup
  entry : ∀ name file, files name = some file ↔ (name, file) ∈ entries

namespace Lists

variable {files other : κ → Option ν} {entries : List (κ × ν)} {name : κ} {file : ν}

theorem unique (lists : Lists files entries) (same : Lists other entries) : other = files := by
  funext name
  cases found : files name with
  | some file => exact (same.entry name file).2 ((lists.entry name file).1 found)
  | none =>
    cases stored : other name with
    | none => rfl
    | some file => cases found.symm.trans ((lists.entry name file).2 ((same.entry name file).1 stored))

/-- A name is free when no entry has it. -/
theorem free_iff (lists : Lists files entries) :
    files name = none ↔ name ∉ entries.map Prod.fst := by
  constructor
  · intro free member
    obtain ⟨⟨_, file⟩, known, rfl⟩ := mem_map.1 member
    cases free.symm.trans ((lists.entry _ file).2 known)
  · intro absent
    cases found : files name with
    | none => rfl
    | some file =>
      exact absurd (mem_map_of_mem ((lists.entry name file).1 found)) absent

section Update

variable [DecidableEq κ]

/-- A value under a new name is a further entry. -/
theorem insert (lists : Lists files entries) (free : files name = none) :
    Lists (update files name (some file)) ((name, file) :: entries) where
  once := nodup_cons.2 ⟨lists.free_iff.1 free, lists.once⟩
  entry := by
    intro key value
    by_cases same : key = name
    · subst same
      rw [update_self, mem_cons]
      constructor
      · rintro ⟨⟩
        exact .inl rfl
      · rintro (here | known)
        · cases here
          rfl
        · cases free.symm.trans ((lists.entry key value).2 known)
    · rw [update_of_ne same, lists.entry, mem_cons]
      constructor
      · exact .inr
      · rintro (here | known)
        · cases here
          exact absurd rfl same
        · exact known

/-- There are two entries of a name that was taken. -/
theorem insert_iff (lists : Lists files entries) :
    Lists (update files name (some file)) ((name, file) :: entries) ↔
      files name = none := by
  constructor
  · intro grown
    exact lists.free_iff.2 (nodup_cons.1 grown.once).1
  · exact lists.insert

/-- The list stays when what is put under a name was there. -/
theorem put_iff {value : Option ν} (lists : Lists files entries) :
    Lists (update files name value) entries ↔ files name = value := by
  constructor
  · intro same
    rw [← update_self name value files, lists.unique same]
  · rintro rfl
    rw [update_eq_self]
    exact lists

theorem erase (lists : Lists files entries) :
    Lists (update files name none) (entries.filter fun entry => entry.1 ≠ name) where
  once := lists.once.sublist (filter_sublist.map _)
  entry := by
    intro key value
    rw [mem_filter, decide_eq_true_eq]
    by_cases same : key = name
    · subst same
      rw [update_self]
      exact ⟨nofun, fun known => absurd rfl known.2⟩
    · rw [update_of_ne same, lists.entry]
      exact (and_iff_left same).symm

end Update

/-- Dropping values drops their entries. -/
theorem filter (lists : Lists files entries) (keep : κ → ν → Bool) :
    Lists (fun name => (files name).filter (keep name))
      (entries.filter fun entry => keep entry.1 entry.2) where
  once := lists.once.sublist (filter_sublist.map _)
  entry := by
    intro key value
    rw [mem_filter, ← lists.entry, Option.filter_eq_some_iff]

end Lists

end Durable
