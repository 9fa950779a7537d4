import Mathlib.Data.List.Sort
import Mathlib.Data.Prod.Lex

/-!
# Stable sorting and cutting

A list sorted by insertion is decided by the comparisons of the earlier items with the later
ones. So it is the same whether it is cut before or after, and two orders that compare the items
of a list alike sort it alike.
-/

namespace Sorting

open List

universe u v w

variable {Item : Type u} {Order : Type v} {Other : Type w} {items : List Item} {item : Item}

theorem orderedInsert_congr {first second : Item → Item → Prop} [DecidableRel first]
    [DecidableRel second]
    (alike : ∀ other ∈ items, (first item other ↔ second item other)) :
    items.orderedInsert first item = items.orderedInsert second item := by
  induction items with
  | nil => rfl
  | cons head rest ih =>
    have here := alike head mem_cons_self
    rw [orderedInsert_cons, orderedInsert_cons,
      ih fun other inside => alike other (mem_cons_of_mem _ inside)]
    by_cases before : first item head
    · rw [if_pos before, if_pos (here.1 before)]
    · rw [if_neg before, if_neg (mt here.2 before)]

/-- Orders that compare every item with the later ones alike sort a list alike. -/
theorem insertionSort_congr {first second : Item → Item → Prop} [DecidableRel first]
    [DecidableRel second]
    (alike : items.Pairwise fun one two => (first one two ↔ second one two)) :
    items.insertionSort first = items.insertionSort second := by
  induction items with
  | nil => rfl
  | cons item rest ih =>
    obtain ⟨here, later⟩ := pairwise_cons.1 alike
    rw [insertionSort_cons, insertionSort_cons, ih later]
    apply orderedInsert_congr
    intro other inside
    exact here other ((mem_insertionSort second).1 inside)

/-- An item that is before all the others is inserted in front. -/
theorem orderedInsert_of_forall {before : Item → Item → Prop} [DecidableRel before]
    (all : ∀ other ∈ items, before item other) :
    items.orderedInsert before item = item :: items := by
  cases items with
  | nil => rfl
  | cons head rest => exact orderedInsert_cons_of_le _ rest (all head mem_cons_self)

section Sorted

variable {before : Item → Item → Prop} [DecidableRel before] [IsTrans Item before]

theorem filter_orderedInsert (keep : Item → Bool)
    (sorted : items.Pairwise before) :
    (items.orderedInsert before item).filter keep =
      if keep item then (items.filter keep).orderedInsert before item else items.filter keep := by
  induction items with
  | nil =>
    rw [orderedInsert_nil, filter_nil, orderedInsert_nil, filter_cons]
    rfl
  | cons head rest ih =>
    obtain ⟨below, restSorted⟩ := pairwise_cons.1 sorted
    by_cases front : before item head
    · rw [orderedInsert_cons_of_le _ rest front, filter_cons]
      split
      · rw [orderedInsert_of_forall]
        intro other inside
        obtain rfl | inside := mem_cons.1 (mem_of_mem_filter inside)
        · exact front
        · exact IsTrans.trans _ _ _ front (below other inside)
      · rfl
    · rw [orderedInsert_of_not_le _ rest front, filter_cons, ih restSorted,
        filter_cons]
      by_cases kept : keep head
      · rw [if_pos kept, if_pos kept, orderedInsert_of_not_le _ _ front]
        split <;> rfl
      · rw [if_neg kept, if_neg kept]

/-- Cutting a sorted list and sorting a cut list is one. -/
theorem filter_insertionSort [Std.Total before] (keep : Item → Bool) (items : List Item) :
    (items.insertionSort before).filter keep = (items.filter keep).insertionSort before := by
  induction items with
  | nil => rfl
  | cons item rest ih =>
    rw [insertionSort_cons,
      filter_orderedInsert keep (pairwise_insertionSort before rest), ih, filter_cons]
    split
    · rw [insertionSort_cons]
    · rfl

end Sorted

section Keys

variable [LinearOrder Order]

/-- `sort(key=…)`. -/
def sortOn (key : Item → Order) (items : List Item) : List Item :=
  items.insertionSort fun one two => key one ≤ key two

theorem sortOn_pair (key : Item → Order) (one two : Item) :
    sortOn key [one, two] = if key one ≤ key two then [one, two] else [two, one] := rfl

theorem mem_sortOn {key : Item → Order} :
    item ∈ sortOn key items ↔ item ∈ items :=
  mem_insertionSort _

theorem pairwise_sortOn (key : Item → Order) (items : List Item) :
    (sortOn key items).Pairwise fun one two => key one ≤ key two := by
  have total : Std.Total fun one two => key one ≤ key two := ⟨fun one two => le_total _ _⟩
  have trans : IsTrans Item fun one two => key one ≤ key two := ⟨fun _ _ _ => le_trans⟩
  exact pairwise_insertionSort _ items

theorem filter_sortOn (keep : Item → Bool) (key : Item → Order) (items : List Item) :
    (sortOn key items).filter keep = sortOn key (items.filter keep) := by
  have total : Std.Total fun one two => key one ≤ key two := ⟨fun one two => le_total _ _⟩
  have trans : IsTrans Item fun one two => key one ≤ key two := ⟨fun _ _ _ => le_trans⟩
  exact filter_insertionSort keep items

theorem sortOn_map (build : Item → Other) (key : Other → Order) (items : List Item) :
    sortOn key (items.map build) = (sortOn (fun item => key (build item)) items).map build :=
  (map_insertionSort _ _ build items fun _ _ _ _ => Iff.rfl).symm

theorem sortOn_congr {first second : Item → Order}
    (alike : items.Pairwise fun one two => (first one ≤ first two ↔ second one ≤ second two)) :
    sortOn first items = sortOn second items :=
  insertionSort_congr alike

end Keys

end Sorting
