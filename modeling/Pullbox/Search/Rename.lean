import Mathlib.Data.List.MinMax
import Mathlib.Data.List.Sort
import Pullbox.Search.Cover

/-!
# Searching renamed items

A search only sees its items through the rank of the plans and the mask of each item. Items that
are replaced by others of the same ranks and masks give the same plans of the others.
-/

namespace Search

open List

universe u v w x

/-! ### Lists -/

section Lists

variable {Item : Type u} {Other : Type v} {Order : Type w} [LinearOrder Order]

theorem argmin_map (rename : Item → Other) (key : Other → Order) (items : List Item) :
    (items.map rename).argmin key = (items.argmin (key ∘ rename)).map rename := by
  induction items using List.reverseRecOn with
  | nil => rfl
  | append_singleton before last ih =>
    rw [map_append, map_singleton, argmin_concat, argmin_concat, ih]
    cases before.argmin (key ∘ rename) with
    | none => rfl
    | some best =>
      simp only [Option.map_some, Function.comp_apply]
      split
      · rfl
      · rfl

theorem map_erase_of_injOn [DecidableEq Item] [DecidableEq Other] {rename : Item → Other}
    {items : List Item} {item : Item}
    (injective : ∀ one ∈ items, rename one = rename item → one = item) :
    (items.erase item).map rename = (items.map rename).erase (rename item) := by
  induction items with
  | nil => rfl
  | cons first rest ih =>
    rw [map_cons, erase_cons, erase_cons]
    by_cases same : first = item
    · rw [if_pos (beq_iff_eq.2 same), if_pos (beq_iff_eq.2 (congrArg rename same))]
    · have apart : rename first ≠ rename item := fun equal =>
        same (injective first mem_cons_self equal)
      rw [if_neg (by simpa using same), if_neg (by simpa using apart), map_cons,
        ih fun one inside => injective one (mem_cons_of_mem _ inside)]

theorem pairwise_insertionSort_key (key : Item → Order) (items : List Item) :
    (items.insertionSort fun one two => key one ≤ key two).Pairwise
      fun one two => key one ≤ key two := by
  have total : Std.Total fun one two => key one ≤ key two := ⟨fun one two => le_total _ _⟩
  have trans : IsTrans Item fun one two => key one ≤ key two := ⟨fun _ _ _ => le_trans⟩
  exact pairwise_insertionSort _ items

/-- Items with keys of their own are sorted the same from any order. -/
theorem insertionSort_eq_of_perm {key : Item → Order} {first second : List Item}
    (perm : first.Perm second)
    (injective : ∀ one ∈ first, ∀ two ∈ first, key one = key two → one = two) :
    (first.insertionSort fun one two => key one ≤ key two) =
      second.insertionSort fun one two => key one ≤ key two := by
  have sorted := perm_insertionSort (fun one two => key one ≤ key two)
  refine List.Perm.eq_of_pairwise ?_ (pairwise_insertionSort_key key first)
    (pairwise_insertionSort_key key second) ((sorted first).trans (perm.trans (sorted second).symm))
  intro one two inFirst inSecond below above
  exact injective one ((sorted first).subset inFirst) two
    (perm.symm.subset ((sorted second).subset inSecond)) (le_antisymm below above)

end Lists

/-! ### Dictionaries -/

namespace Dict

variable {Key : Type u} {Value : Type v} {Other : Type w} {Order : Type x} [DecidableEq Key]
  [LinearOrder Order] {dict : Dict Key Value} {key : Key} {value : Value}
  {rename : Value → Other}

def mapValues (rename : Value → Other) (dict : Dict Key Value) : Dict Key Other where
  entries := dict.entries.map fun entry => (entry.1, rename entry.2)
  distinct := by
    rw [map_map]
    exact dict.distinct

theorem get_mapValues : (dict.mapValues rename).get key = (dict.get key).map rename := by
  unfold get mapValues
  rw [List.find?_map, Option.map_map, Option.map_map]
  rfl

omit [DecidableEq Key] in
theorem entries_injective {first second : Dict Key Value} (same : first.entries = second.entries) :
    first = second := by
  cases first
  cases second
  cases same
  rfl

theorem set_mapValues :
    (dict.set key value).mapValues rename = (dict.mapValues rename).set key (rename value) := by
  apply entries_injective
  have keys : (dict.mapValues rename).entries.map Prod.fst = dict.entries.map Prod.fst :=
    map_map
  by_cases present : key ∈ dict.entries.map Prod.fst
  · have still : key ∈ (dict.mapValues rename).entries.map Prod.fst := keys ▸ present
    rw [set, set, dif_pos present, dif_pos still]
    simp only [mapValues, map_map]
    apply map_congr_left
    intro entry _
    simp only [Function.comp_apply]
    split
    · rfl
    · rfl
  · have still : key ∉ (dict.mapValues rename).entries.map Prod.fst := keys ▸ present
    rw [set, set, dif_neg present, dif_neg still]
    simp [mapValues]

theorem improve_mapValues {rank : Other → Order} :
    (dict.improve (rank ∘ rename) key value).mapValues rename =
      (dict.mapValues rename).improve rank key (rename value) := by
  unfold improve
  rw [get_mapValues]
  cases dict.get key with
  | none => exact set_mapValues
  | some current =>
    simp only [Option.map_some, Function.comp_apply]
    split
    · exact set_mapValues
    · rfl

end Dict

/-! ### The search -/

variable {Item : Type u} {Other : Type v} {Mask : Type w} {Order : Type x} [DecidableEq Mask]
  [LinearOrder Order] (rank : List Other → Order) (join : Mask → Mask → Mask) (mask : Other → Mask)
  (rename : Item → Other) {states : Plans Mask Item}

theorem offer_rename {states table : Plans Mask Item} {item : Item} {entry : Mask × List Item} :
    (offer (rank ∘ List.map rename) join (mask ∘ rename) states table item entry).mapValues
        (List.map rename) =
      offer rank join mask (states.mapValues (List.map rename)) (table.mapValues (List.map rename))
        (rename item) (entry.1, entry.2.map rename) := by
  unfold offer
  simp only [Function.comp_apply, Dict.get_mapValues]
  split
  · rfl
  · have current : ((table.get (join entry.1 (mask (rename item)))).map (List.map rename)).orElse
          (fun _ => (states.get (join entry.1 (mask (rename item)))).map (List.map rename)) =
        ((table.get (join entry.1 (mask (rename item)))).orElse fun _ =>
          states.get (join entry.1 (mask (rename item)))).map (List.map rename) := by
      cases table.get (join entry.1 (mask (rename item))) with
      | none => rfl
      | some plan => rfl
    have candidate : (entry.2 ++ [item]).map rename = entry.2.map rename ++ [rename item] :=
      map_append
    rw [current]
    cases (table.get (join entry.1 (mask (rename item)))).orElse fun _ =>
        states.get (join entry.1 (mask (rename item))) with
    | none =>
      simp only [Option.map_none]
      rw [Dict.set_mapValues, candidate]
    | some plan =>
      simp only [Option.map_some]
      rw [candidate]
      split
      · rw [Dict.set_mapValues, candidate]
      · rfl

theorem additions_rename {item : Item} :
    (additions (rank ∘ List.map rename) join (mask ∘ rename) states item).mapValues
        (List.map rename) =
      additions rank join mask (states.mapValues (List.map rename)) (rename item) := by
  have fold (entries : List (Mask × List Item)) (table : Plans Mask Item) :
      (entries.foldl (fun additions entry => offer (rank ∘ List.map rename) join (mask ∘ rename)
          states additions item entry) table).mapValues (List.map rename) =
        (entries.map fun entry => (entry.1, entry.2.map rename)).foldl
          (fun additions entry => offer rank join mask (states.mapValues (List.map rename))
            additions (rename item) entry) (table.mapValues (List.map rename)) := by
    induction entries generalizing table with
    | nil => rfl
    | cons entry rest ih =>
      rw [foldl_cons, ih, offer_rename]
      rfl
  exact fold states.entries Dict.empty

theorem extend_rename {item : Item} :
    (extend (rank ∘ List.map rename) join (mask ∘ rename) states item).mapValues
        (List.map rename) =
      extend rank join mask (states.mapValues (List.map rename)) (rename item) := by
  have fold (entries : List (Mask × List Item)) (table : Plans Mask Item) :
      (entries.foldl (fun states entry =>
          states.improve (rank ∘ List.map rename) entry.1 entry.2) table).mapValues
            (List.map rename) =
        (entries.map fun entry => (entry.1, entry.2.map rename)).foldl
          (fun states entry => states.improve rank entry.1 entry.2)
          (table.mapValues (List.map rename)) := by
    induction entries generalizing table with
    | nil => rfl
    | cons entry rest ih =>
      rw [foldl_cons, ih, Dict.improve_mapValues]
      rfl
  unfold extend
  rw [fold, ← additions_rename]
  rfl

/-- A search of renamed items renames the plans. -/
theorem search_rename {limit : Nat} {items : List Item} :
    search rank join mask limit (items.map rename) (states.mapValues (List.map rename)) =
      ((search (rank ∘ List.map rename) join (mask ∘ rename) limit items states).1.mapValues
          (List.map rename),
        (search (rank ∘ List.map rename) join (mask ∘ rename) limit items states).2) := by
  induction items generalizing states with
  | nil => rfl
  | cons item rest ih =>
    have size : (extend rank join mask (states.mapValues (List.map rename))
          (rename item)).entries.length =
        (extend (rank ∘ List.map rename) join (mask ∘ rename) states item).entries.length := by
      rw [← extend_rename]
      exact length_map _
    rw [map_cons, search, search, size]
    split
    · rw [extend_rename]
    · rw [← extend_rename]
      exact ih

end Search
