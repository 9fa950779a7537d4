import Mathlib.Data.List.Induction
import Pullbox.Search.Stable

/-!
# Groups and their best items

Items grouped by a key, and each group collapsed into its best item: what is collapsed into what
is decided item by item, from the key and the rank alone.
-/

namespace Grouping

open List Sorting

universe u v w

variable {Item : Type u} {Key : Type v} {Order : Type w}

/-! ### Lookups -/

section Lookup

variable [DecidableEq Key] {entries : List (Key × Item)} {key : Key} {item : Item}

theorem mem_of_lookup (found : entries.lookup key = some item) : (key, item) ∈ entries := by
  obtain ⟨before, after, rfl, -⟩ := lookup_eq_some_iff.1 found
  exact mem_append_right before mem_cons_self

/-- A key with one item only has that item. -/
theorem lookup_of_mem (inside : (key, item) ∈ entries)
    (once : ∀ other, (key, other) ∈ entries → other = item) : entries.lookup key = some item := by
  cases found : entries.lookup key with
  | none =>
    have absent := lookup_eq_none_iff.1 found _ inside
    simp at absent
  | some other => rw [once other (mem_of_lookup found)]

end Lookup

/-! ### Groups -/

section Groups

variable [DecidableEq Key] {key : Item → Option Key} {items : List Item} {item : Item}
  {groups : List (Key × List Item)} {value : Key} {group : List Item}

/-- `setdefault(key, []).append(item)`. -/
def append (key : Key) (item : Item) : List (Key × List Item) → List (Key × List Item)
  | [] => [(key, [item])]
  | (other, group) :: rest =>
    if other = key then (other, group ++ [item]) :: rest
    else (other, group) :: append key item rest

/-- The items by their keys, in the order in which the keys first come. Items without a key are
left out. -/
def groupBy (key : Item → Option Key) (items : List Item) : List (Key × List Item) :=
  items.foldl (fun groups item =>
    match key item with
    | none => groups
    | some value => append value item groups) []

/-- The groups of the items: each key once, with the items that have it. -/
structure Groups (key : Item → Option Key) (items : List Item)
    (groups : List (Key × List Item)) : Prop where
  distinct : (groups.map Prod.fst).Nodup
  group : ∀ value group, (value, group) ∈ groups ↔
    group = items.filter (key · = some value) ∧ group ≠ []

theorem mem_keys_append {value other : Key} :
    other ∈ (append value item groups).map Prod.fst ↔
      other = value ∨ other ∈ groups.map Prod.fst := by
  induction groups with
  | nil => simp [append]
  | cons first rest ih =>
    obtain ⟨here, group⟩ := first
    unfold append
    split
    · rename_i same
      simp [same]
    · rw [map_cons, mem_cons, ih, map_cons, mem_cons]
      exact or_left_comm

theorem nodup_keys_append (distinct : (groups.map Prod.fst).Nodup) :
    ((append value item groups).map Prod.fst).Nodup := by
  induction groups with
  | nil => exact nodup_singleton value
  | cons first rest ih =>
    obtain ⟨here, group⟩ := first
    rw [map_cons, nodup_cons] at distinct
    unfold append
    split
    · exact nodup_cons.2 distinct
    · rename_i apart
      rw [map_cons, nodup_cons, mem_keys_append]
      exact ⟨not_or.2 ⟨apart, distinct.1⟩, ih distinct.2⟩

theorem mem_append {value other : Key}
    (distinct : (groups.map Prod.fst).Nodup) :
    (other, group) ∈ append value item groups ↔
      other ≠ value ∧ (other, group) ∈ groups ∨
      other = value ∧ ((∃ before, (value, before) ∈ groups ∧ group = before ++ [item]) ∨
        value ∉ groups.map Prod.fst ∧ group = [item]) := by
  induction groups with
  | nil => simp [append]
  | cons first rest ih =>
    obtain ⟨here, before⟩ := first
    rw [map_cons, nodup_cons] at distinct
    obtain ⟨absent, distinct⟩ := distinct
    have unlisted : ∀ later, (here, later) ∉ rest := by
      intro later inside
      exact absent (mem_map.2 ⟨_, inside, rfl⟩)
    unfold append
    split
    · rename_i same
      subst same
      grind
    · rename_i apart
      rw [mem_cons, ih distinct]
      grind

theorem Groups.mem_keys (isGroups : Groups key items groups)
    (value : Key) :
    value ∈ groups.map Prod.fst ↔ items.filter (key · = some value) ≠ [] := by
  constructor
  · intro inside
    obtain ⟨⟨other, group⟩, here, rfl⟩ := mem_map.1 inside
    obtain ⟨rfl, nonempty⟩ := (isGroups.group other group).1 here
    exact nonempty
  · intro nonempty
    exact mem_map.2 ⟨_, (isGroups.group value _).2 ⟨rfl, nonempty⟩, rfl⟩

theorem Groups.append (isGroups : Groups key items groups) (named : key item = some value) :
    Groups key (items ++ [item]) (append value item groups) where
  distinct := nodup_keys_append isGroups.distinct
  group other group := by
    rw [mem_append isGroups.distinct, filter_append, isGroups.mem_keys]
    by_cases same : other = value
    · subst same
      have last : [item].filter (key · = some other) = [item] := by simp [named]
      rw [last]
      constructor
      · rintro (⟨apart, -⟩ | ⟨-, ⟨before, inside, rfl⟩ | ⟨absent, rfl⟩⟩)
        · exact absurd rfl apart
        · obtain ⟨rfl, -⟩ := (isGroups.group other before).1 inside
          exact ⟨rfl, by simp⟩
        · rw [not_not.1 absent]
          exact ⟨rfl, by simp⟩
      · rintro ⟨rfl, -⟩
        refine .inr ⟨rfl, ?_⟩
        by_cases empty : items.filter (key · = some other) = []
        · exact .inr ⟨not_not.2 empty, by rw [empty]; rfl⟩
        · exact .inl ⟨_, (isGroups.group other _).2 ⟨rfl, empty⟩, rfl⟩
    · have last : [item].filter (key · = some other) = [] := by
        have apart : key item ≠ some other := by
          rw [named]
          exact fun equal => same (Option.some.inj equal).symm
        simp [apart]
      rw [last, append_nil, ← isGroups.group]
      simp [same]

theorem Groups.skip (isGroups : Groups key items groups)
    (unnamed : key item = none) : Groups key (items ++ [item]) groups where
  distinct := isGroups.distinct
  group other group := by
    have last : [item].filter (key · = some other) = [] := by simp [unnamed]
    rw [filter_append, last, append_nil]
    exact isGroups.group other group

theorem groups_groupBy (key : Item → Option Key) (items : List Item) :
    Groups key items (groupBy key items) := by
  induction items using List.reverseRecOn with
  | nil =>
    refine ⟨nodup_nil, fun value group => ?_⟩
    constructor
    · intro absent
      cases absent
    · rintro ⟨rfl, nonempty⟩
      exact absurd rfl nonempty
  | append_singleton before item ih =>
    unfold groupBy
    rw [foldl_append]
    change Groups key (before ++ [item]) (match key item with
      | none => groupBy key before
      | some value => Grouping.append value item (groupBy key before))
    cases named : key item with
    | none => exact ih.skip named
    | some value => exact ih.append named

/-- A group is what its key picks from the items. -/
theorem mem_groupBy :
    (value, group) ∈ groupBy key items ↔ group = items.filter (key · = some value) ∧ group ≠ [] :=
  (groups_groupBy key items).group value group

theorem mem_group (inside : (value, group) ∈ groupBy key items) :
    item ∈ group ↔ item ∈ items ∧ key item = some value := by
  obtain ⟨rfl, -⟩ := mem_groupBy.1 inside
  rw [mem_filter, decide_eq_true_iff]

theorem exists_group (inside : item ∈ items) (named : key item = some value) :
    ∃ group, (value, group) ∈ groupBy key items := by
  refine ⟨items.filter (key · = some value), mem_groupBy.2 ⟨rfl, ?_⟩⟩
  intro empty
  have here : item ∈ items.filter (key · = some value) :=
    mem_filter.2 ⟨inside, decide_eq_true named⟩
  rw [empty] at here
  cases here

/-- Groups of different keys have no item in common. -/
theorem pairwise_groupBy (key : Item → Option Key) (items : List Item) :
    (groupBy key items).Pairwise fun one two => ∀ item ∈ one.2, item ∉ two.2 := by
  have distinct := pairwise_map.1 (groups_groupBy key items).distinct
  apply distinct.imp_of_mem
  intro one two insideOne insideTwo apart item inOne inTwo
  have named := ((mem_group insideOne).1 inOne).2
  rw [((mem_group insideTwo).1 inTwo).2] at named
  exact apart (Option.some.inj named).symm

/-- Lists drawn from the groups have no item twice if none of them has. -/
theorem nodup_flatMap_groupBy {draw : Key × List Item → List Item}
    (each : ∀ group ∈ groupBy key items, (draw group).Nodup)
    (drawn : ∀ group ∈ groupBy key items, draw group ⊆ group.2) :
    ((groupBy key items).flatMap draw).Nodup := by
  apply nodup_flatMap.2
  refine ⟨each, ?_⟩
  apply (pairwise_groupBy key items).imp_of_mem
  intro one two insideOne insideTwo apart item inOne inTwo
  exact apart item (drawn one insideOne inOne) (drawn two insideTwo inTwo)

end Groups

/-! ### Collapsing -/

section Collapse

variable [LinearOrder Order] {rank : Item → Order} {items : List Item} {item best : Item}

/-- The items by their rank, the highest first. -/
def byRank (rank : Item → Order) (items : List Item) : List Item :=
  sortOn (fun item => OrderDual.toDual (rank item)) items

/-- Every item but the best, with the best. -/
def collapse (rank : Item → Order) (items : List Item) : List (Item × Item) :=
  match byRank rank items with
  | [] => []
  | best :: others => others.map (·, best)

theorem mem_byRank (rank : Item → Order) : item ∈ byRank rank items ↔ item ∈ items := by
  rw [byRank, mem_sortOn]

theorem byRank_perm (rank : Item → Order) (items : List Item) :
    (byRank rank items).Perm items :=
  perm_insertionSort _ items

theorem nodup_byRank (rank : Item → Order) (distinct : items.Nodup) : (byRank rank items).Nodup :=
  (byRank_perm rank items).nodup_iff.2 distinct

theorem rank_le_of_byRank {others : List Item} (sorted : byRank rank items = best :: others) :
    ∀ other ∈ items, rank other ≤ rank best := by
  intro other inside
  have below := pairwise_sortOn (fun item => OrderDual.toDual (rank item)) items
  change (byRank rank items).Pairwise _ at below
  rw [sorted, pairwise_cons] at below
  obtain rfl | later := mem_cons.1 (sorted ▸ (mem_byRank rank).2 inside)
  · exact le_rfl
  · exact below.1 other later

/-- In a list of distinct ranks an item is collapsed into another if and only if that is the best
one. -/
theorem mem_collapse (distinct : items.Nodup)
    (injective : ∀ one ∈ items, ∀ two ∈ items, rank one = rank two → one = two) :
    (item, best) ∈ collapse rank items ↔
      item ∈ items ∧ best ∈ items ∧ item ≠ best ∧ ∀ other ∈ items, rank other ≤ rank best := by
  unfold collapse
  cases sorted : byRank rank items with
  | nil =>
    have empty : items = [] := List.Perm.eq_nil (sorted ▸ (byRank_perm rank items).symm)
    simp [empty]
  | cons first others =>
    have top := rank_le_of_byRank sorted
    have listed : ∀ other, other ∈ items ↔ other = first ∨ other ∈ others := by
      intro other
      rw [← mem_byRank rank, sorted, mem_cons]
    have once := nodup_cons.1 (sorted ▸ nodup_byRank rank distinct)
    constructor
    · intro inside
      obtain ⟨other, here, equal⟩ := mem_map.1 inside
      obtain ⟨rfl, rfl⟩ := Prod.mk.inj equal
      refine ⟨(listed other).2 (.inr here), (listed first).2 (.inl rfl), ?_, top⟩
      rintro rfl
      exact once.1 here
    · rintro ⟨inside, bestInside, apart, highest⟩
      have firstInside := (listed first).2 (.inl rfl)
      have same : best = first := injective best bestInside first firstInside
        (le_antisymm (top best bestInside) (highest first firstInside))
      subst same
      obtain equal | later := (listed item).1 inside
      · exact absurd equal apart
      · exact mem_map.2 ⟨item, later, rfl⟩

theorem collapse_of_length_lt (short : items.length < 2) : collapse rank items = [] := by
  match items with
  | [] => rfl
  | [item] => rfl

theorem nodup_map_fst_collapse (distinct : items.Nodup) :
    ((collapse rank items).map Prod.fst).Nodup := by
  have sortedDistinct := nodup_byRank rank distinct
  unfold collapse
  cases sorted : byRank rank items with
  | nil => exact nodup_nil
  | cons first others =>
    rw [sorted] at sortedDistinct
    have same : (others.map (·, first)).map Prod.fst = others := by
      rw [map_map]
      exact map_id others
    simp only [same]
    exact (nodup_cons.1 sortedDistinct).2

theorem map_fst_collapse_subset (rank : Item → Order) (items : List Item) :
    (collapse rank items).map Prod.fst ⊆ items := by
  intro item inside
  unfold collapse at inside
  cases sorted : byRank rank items with
  | nil =>
    rw [sorted] at inside
    cases inside
  | cons first others =>
    rw [sorted] at inside
    have later : item ∈ others := by simpa using inside
    exact (mem_byRank rank).1 (sorted ▸ mem_cons_of_mem _ later)

theorem exists_best (rank : Item → Order) (inside : item ∈ items) :
    ∃ best ∈ items, ∀ other ∈ items, rank other ≤ rank best := by
  cases sorted : byRank rank items with
  | nil =>
    have absent := (mem_byRank rank).2 inside
    rw [sorted] at absent
    cases absent
  | cons best others =>
    exact ⟨best, (mem_byRank rank).1 (sorted ▸ mem_cons_self),
      rank_le_of_byRank sorted⟩

end Collapse

/-! ### Collapsing the groups of a key -/

section CollapseBy

variable [DecidableEq Key] [LinearOrder Order] {key : Item → Option Key} {rank : Item → Order}
  {items : List Item} {item best : Item}

/-- In each group of the key, every item but the best, with the best. -/
def collapseBy (rank : Item → Order) (key : Item → Option Key) (items : List Item) :
    List (Item × Item) :=
  (groupBy key items).flatMap fun entry => collapse rank entry.2

theorem collapseBy_of_length_lt (short : items.length < 2) : collapseBy rank key items = [] := by
  apply flatMap_eq_nil_iff.2
  rintro ⟨value, group⟩ inside
  apply collapse_of_length_lt
  obtain ⟨rfl, -⟩ := mem_groupBy.1 inside
  exact (length_filter_le _ items).trans_lt short

/-- An item is collapsed into the best one of its key. -/
theorem mem_collapseBy (distinct : items.Nodup)
    (injective : ∀ one ∈ items, ∀ two ∈ items, rank one = rank two → one = two) :
    (item, best) ∈ collapseBy rank key items ↔
      item ∈ items ∧ best ∈ items ∧ item ≠ best ∧ ∃ value, key item = some value ∧
        key best = some value ∧
        ∀ other ∈ items, key other = some value → rank other ≤ rank best := by
  have collapsed : ∀ value group, (value, group) ∈ groupBy key items →
      ((item, best) ∈ collapse rank group ↔
        item ∈ group ∧ best ∈ group ∧ item ≠ best ∧ ∀ other ∈ group, rank other ≤ rank best) := by
    intro value group inside
    apply mem_collapse
    · obtain ⟨rfl, -⟩ := mem_groupBy.1 inside
      exact distinct.filter _
    · intro one inOne two inTwo
      exact injective one ((mem_group inside).1 inOne).1 two ((mem_group inside).1 inTwo).1
  unfold collapseBy
  rw [mem_flatMap]
  constructor
  · rintro ⟨⟨value, group⟩, inside, here⟩
    obtain ⟨inItem, inBest, apart, highest⟩ := (collapsed value group inside).1 here
    have ⟨itemInside, itemNamed⟩ := (mem_group inside).1 inItem
    have ⟨bestInside, bestNamed⟩ := (mem_group inside).1 inBest
    refine ⟨itemInside, bestInside, apart, value, itemNamed, bestNamed, ?_⟩
    intro other otherInside otherNamed
    exact highest other ((mem_group inside).2 ⟨otherInside, otherNamed⟩)
  · rintro ⟨itemInside, bestInside, apart, value, itemNamed, bestNamed, highest⟩
    obtain ⟨group, inside⟩ := exists_group itemInside itemNamed
    refine ⟨(value, group), inside, (collapsed value group inside).2 ?_⟩
    refine ⟨(mem_group inside).2 ⟨itemInside, itemNamed⟩,
      (mem_group inside).2 ⟨bestInside, bestNamed⟩, apart, ?_⟩
    intro other inOther
    have ⟨otherInside, otherNamed⟩ := (mem_group inside).1 inOther
    exact highest other otherInside otherNamed

/-- An item is collapsed if and only if its key has a better one. -/
theorem mem_map_fst_collapseBy (distinct : items.Nodup)
    (injective : ∀ one ∈ items, ∀ two ∈ items, rank one = rank two → one = two) :
    item ∈ (collapseBy rank key items).map Prod.fst ↔
      item ∈ items ∧ ∃ value, key item = some value ∧
        ∃ other ∈ items, key other = some value ∧ rank item < rank other := by
  rw [mem_map]
  constructor
  · rintro ⟨⟨same, best⟩, inside, rfl⟩
    obtain ⟨itemInside, bestInside, apart, value, itemNamed, bestNamed, highest⟩ :=
      (mem_collapseBy distinct injective).1 inside
    refine ⟨itemInside, value, itemNamed, best, bestInside, bestNamed, ?_⟩
    apply lt_of_le_of_ne (highest same itemInside itemNamed)
    exact fun equal => apart (injective same itemInside best bestInside equal)
  · rintro ⟨itemInside, value, itemNamed, other, otherInside, otherNamed, below⟩
    obtain ⟨group, inside⟩ := exists_group itemInside itemNamed
    obtain ⟨best, inBest, highest⟩ :=
      exists_best rank ((mem_group inside).2 ⟨itemInside, itemNamed⟩)
    have ⟨bestInside, bestNamed⟩ := (mem_group inside).1 inBest
    have above := highest other ((mem_group inside).2 ⟨otherInside, otherNamed⟩)
    refine ⟨(item, best), (mem_collapseBy distinct injective).2 ?_, rfl⟩
    refine ⟨itemInside, bestInside, ?_, value, itemNamed, bestNamed, ?_⟩
    · rintro rfl
      exact absurd (below.trans_le above) (lt_irrefl _)
    · intro third thirdInside thirdNamed
      exact highest third ((mem_group inside).2 ⟨thirdInside, thirdNamed⟩)

theorem nodup_map_fst_collapseBy (distinct : items.Nodup) :
    ((collapseBy rank key items).map Prod.fst).Nodup := by
  unfold collapseBy
  rw [map_flatMap]
  apply nodup_flatMap_groupBy
  · rintro ⟨value, group⟩ inside
    apply nodup_map_fst_collapse
    obtain ⟨rfl, -⟩ := mem_groupBy.1 inside
    exact distinct.filter _
  · intro entry inside
    exact map_fst_collapse_subset rank entry.2

end CollapseBy

end Grouping
