import Mathlib.Data.List.Nodup
import Mathlib.Order.Lattice

/-!
# Dictionaries in insertion order

A key is entered once and stays at its place when its value is replaced. `improve` replaces a
value only by one that is less.
-/

namespace Search

open List

universe u v w

/-- A dictionary, by its entries in their order. -/
structure Dict (Key : Type u) (Value : Type v) where
  entries : List (Key × Value)
  distinct : (entries.map Prod.fst).Nodup

namespace Dict

variable {Key : Type u} {Value : Type v} {Order : Type w} [DecidableEq Key]
  {dict : Dict Key Value} {key other : Key} {value : Value}

def empty : Dict Key Value where
  entries := []
  distinct := nodup_nil

def singleton (key : Key) (value : Value) : Dict Key Value where
  entries := [(key, value)]
  distinct := nodup_singleton key

def get (dict : Dict Key Value) (key : Key) : Option Value :=
  (dict.entries.find? fun entry => entry.1 = key).map Prod.snd

theorem get_eq_some : dict.get key = some value ↔ (key, value) ∈ dict.entries := by
  unfold get
  constructor
  · intro found
    obtain ⟨entry, here, rfl⟩ := Option.map_eq_some_iff.1 found
    have named : entry.1 = key := by simpa using List.find?_some here
    exact named ▸ mem_of_find?_eq_some here
  · intro inside
    cases found : dict.entries.find? fun entry => entry.1 = key with
    | none =>
      have absent := List.find?_eq_none.1 found _ inside
      simp at absent
    | some entry =>
      have here := mem_of_find?_eq_some found
      have named : entry.1 = key := by simpa using List.find?_some found
      have same : entry = (key, value) :=
        inj_on_of_nodup_map dict.distinct here inside named
      rw [same]
      rfl

theorem get_empty : (empty : Dict Key Value).get key = none :=
  rfl

theorem get_singleton : (singleton key value).get key = some value :=
  get_eq_some.2 (mem_singleton.2 rfl)

/-- The value of a key is entered or replaced. -/
def set (dict : Dict Key Value) (key : Key) (value : Value) : Dict Key Value :=
  if present : key ∈ dict.entries.map Prod.fst then
    { entries := dict.entries.map fun entry => if entry.1 = key then (key, value) else entry
      distinct := by
        have same : (Prod.fst ∘ fun entry : Key × Value =>
            if entry.1 = key then (key, value) else entry) = Prod.fst := by
          funext entry
          rw [Function.comp_apply]
          split
          · rename_i named
            exact named.symm
          · rfl
        rw [map_map, same]
        exact dict.distinct }
  else
    { entries := dict.entries ++ [(key, value)]
      distinct := by
        rw [map_append]
        refine dict.distinct.append (nodup_singleton _) ?_
        intro one inside last
        have same : one = key := mem_singleton.1 last
        exact present (same ▸ inside) }

theorem get_set : (dict.set key value).get key = some value := by
  rw [get_eq_some, set]
  split
  · rename_i present
    obtain ⟨entry, inside, named⟩ := mem_map.1 present
    exact mem_map.2 ⟨entry, inside, if_pos named⟩
  · exact mem_append_right _ (mem_singleton.2 rfl)

theorem get_set_ne (apart : other ≠ key) : (dict.set key value).get other = dict.get other := by
  ext one
  rw [get_eq_some, get_eq_some, set]
  split
  · rw [mem_map]
    constructor
    · rintro ⟨entry, inside, moved⟩
      split at moved
      · exact absurd (congrArg Prod.fst moved).symm apart
      · exact moved ▸ inside
    · intro inside
      exact ⟨(other, one), inside, if_neg apart⟩
  · rw [mem_append, mem_singleton]
    constructor
    · rintro (inside | last)
      · exact inside
      · exact absurd (congrArg Prod.fst last) apart
    · exact .inl

/-- A key and its value are removed. -/
def erase (dict : Dict Key Value) (key : Key) : Dict Key Value where
  entries := dict.entries.filter fun entry => entry.1 ≠ key
  distinct := dict.distinct.sublist (filter_sublist.map _)

theorem get_erase : (dict.erase key).get other = if other = key then none else dict.get other := by
  ext value
  rw [get_eq_some, erase, mem_filter]
  split
  · rename_i same
    simp [same]
  · rename_i apart
    simp [get_eq_some, apart]

/-- Each value is changed at its place. -/
def each (dict : Dict Key Value) (change : Key → Value → Value) : Dict Key Value where
  entries := dict.entries.map fun entry => (entry.1, change entry.1 entry.2)
  distinct := by
    rw [map_map]
    exact dict.distinct

theorem get_each {change : Key → Value → Value} :
    (dict.each change).get key = (dict.get key).map (change key) := by
  ext value
  rw [get_eq_some, each, mem_map, Option.map_eq_some_iff]
  constructor
  · rintro ⟨entry, inside, same⟩
    cases same
    exact ⟨entry.2, get_eq_some.2 inside, rfl⟩
  · rintro ⟨before, found, rfl⟩
    exact ⟨(key, before), get_eq_some.1 found, rfl⟩

/-! ### Keeping the least -/

variable [LinearOrder Order] (rank : Value → Order)

/-- The value of a key is entered, or replaced if the new one is less. -/
def improve (dict : Dict Key Value) (key : Key) (value : Value) : Dict Key Value :=
  match dict.get key with
  | none => dict.set key value
  | some current => if rank value < rank current then dict.set key value else dict

variable {rank}

theorem get_improve_ne (apart : other ≠ key) :
    (dict.improve rank key value).get other = dict.get other := by
  unfold improve
  split
  · exact get_set_ne apart
  · split
    · exact get_set_ne apart
    · rfl

theorem get_improve_none (absent : dict.get key = none) :
    (dict.improve rank key value).get key = some value := by
  unfold improve
  rw [absent]
  exact get_set

theorem get_improve_some {current : Value} (found : dict.get key = some current) :
    (dict.improve rank key value).get key =
      some (if rank value < rank current then value else current) := by
  unfold improve
  rw [found]
  simp only
  split
  · exact get_set
  · exact found

/-- The least of some values, if there are any. -/
def IsBest (rank : Value → Order) (options : Value → Prop) : Option Value → Prop
  | none => ∀ value, ¬ options value
  | some best => options best ∧ ∀ value, options value → rank best ≤ rank value

/-- Improving by entries of other keys leaves a key as it is. -/
theorem get_foldl_improve_ne {entries : List (Key × Value)}
    (apart : ∀ entry ∈ entries, entry.1 ≠ key) :
    (entries.foldl (fun dict entry => dict.improve rank entry.1 entry.2) dict).get key =
      dict.get key := by
  induction entries generalizing dict with
  | nil => rfl
  | cons entry rest ih =>
    rw [foldl_cons, ih fun one inside => apart one (mem_cons_of_mem _ inside)]
    exact get_improve_ne (apart entry mem_cons_self).symm

/-- What improving does to a key only depends on the value of that key. -/
theorem get_improve_congr {first second : Dict Key Value} (same : first.get key = second.get key) :
    (first.improve rank key value).get key = (second.improve rank key value).get key := by
  cases found : first.get key with
  | none => rw [get_improve_none found, get_improve_none (same ▸ found)]
  | some current => rw [get_improve_some found, get_improve_some (same ▸ found)]

/-- Improving by entries of distinct keys improves each key once. -/
theorem get_foldl_improve {entries : List (Key × Value)}
    (distinct : (entries.map Prod.fst).Nodup) (inside : (key, value) ∈ entries) :
    (entries.foldl (fun dict entry => dict.improve rank entry.1 entry.2) dict).get key =
      (dict.improve rank key value).get key := by
  induction entries generalizing dict with
  | nil => cases inside
  | cons entry rest ih =>
    obtain ⟨fresh, distinct⟩ := nodup_cons.1 distinct
    rw [foldl_cons]
    rcases mem_cons.1 inside with rfl | later
    · refine get_foldl_improve_ne fun one member named => fresh ?_
      exact mem_map.2 ⟨one, member, named⟩
    · rw [ih distinct later]
      refine get_improve_congr (get_improve_ne fun same => fresh ?_)
      exact mem_map.2 ⟨(key, value), later, same⟩

end Dict

end Search
