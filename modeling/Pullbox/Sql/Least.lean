import Mathlib.Data.List.Induction
import Mathlib.Order.Lattice

/-!
# The first least of each key

Of the items of a list that share a key, the one of the least rank, and the first of these, with its
place.
-/

namespace Sql

universe u v w

variable {Item : Type u} {Key : Type v} {Rank : Type w} [DecidableEq Key] [LinearOrder Rank]
  (key : Item → Key) (rank : Item → Rank)

/-- An item at a place that no other of its key precedes. -/
structure IsFirstLeast (items : List Item) (id : Key) (item : Item) (index : Nat) : Prop where
  found : items[index]? = some item
  keyed : key item = id
  least : ∀ other place, items[place]? = some other → key other = id →
    rank item < rank other ∨ rank item = rank other ∧ index ≤ place

variable {key} {rank} {items : List Item} {id : Key} {item other : Item} {index place : Nat}

omit [DecidableEq Key] in
theorem IsFirstLeast.unique (first : IsFirstLeast key rank items id item index)
    (second : IsFirstLeast key rank items id other place) : item = other ∧ index = place := by
  have above := first.least other place second.found second.keyed
  have below := second.least item index first.found first.keyed
  have same : index = place := by
    rcases above with less | ⟨equal, before⟩
    · rcases below with more | ⟨equal, -⟩
      · exact absurd (lt_trans less more) (lt_irrefl _)
      · exact absurd equal.symm (ne_of_lt less)
    · rcases below with more | ⟨-, after⟩
      · exact absurd equal.symm (ne_of_lt more)
      · exact Nat.le_antisymm before after
  subst same
  exact ⟨Option.some.inj (first.found.symm.trans second.found), rfl⟩

/-- An item of a longer list is an item of the list or the last one. -/
theorem getElem?_append_last {last : Item} :
    (items ++ [last])[place]? = some other ↔
      items[place]? = some other ∨ place = items.length ∧ other = last := by
  rcases Nat.lt_trichotomy place items.length with before | rfl | after
  · rw [List.getElem?_append_left before]
    exact (or_iff_left fun at_end => by omega).symm
  · rw [List.getElem?_append_right (Nat.le_refl _), Nat.sub_self, List.getElem?_cons_zero,
      List.getElem?_eq_none (Nat.le_refl _)]
    simp [eq_comm]
  · rw [List.getElem?_eq_none (by simp; omega), List.getElem?_eq_none (by omega)]
    simp
    omega

theorem lt_of_getElem? (here : items[place]? = some other) : place < items.length :=
  (List.getElem?_eq_some_iff.1 here).1

omit [DecidableEq Key] in
/-- What was found stays the first least unless the last item is of the key and lower. -/
theorem IsFirstLeast.keep {last : Item} (first : IsFirstLeast key rank items id item index)
    (beaten : key last = id → ¬rank last < rank item) :
    IsFirstLeast key rank (items ++ [last]) id item index where
  found := getElem?_append_last.2 (.inl first.found)
  keyed := first.keyed
  least := by
    intro other place here keyed
    rcases getElem?_append_last.1 here with before | ⟨rfl, rfl⟩
    · exact first.least other place before keyed
    · have := lt_of_getElem? first.found
      rcases lt_or_eq_of_le (not_lt.1 (beaten keyed)) with less | equal
      · exact .inl less
      · exact .inr ⟨equal, by omega⟩

end Sql
