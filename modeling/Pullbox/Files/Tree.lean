import Mathlib.Data.List.Basic

/-!
# Trees of entries

The entries of a file system by their place, the names from the top. Removing a place takes
everything beneath it; an interrupted removal leaves part of it.
-/

namespace Files

universe u v

variable {Name : Type u} {Entry : Type v}

/-- The entry at each place that has one. -/
abbrev Tree (Name : Type u) (Entry : Type v) :=
  List Name → Option Entry

namespace Tree

/-- A place that an operation emptied. -/
def Lost (before after : Tree Name Entry) (place : List Name) : Prop :=
  before place ≠ none ∧ after place = none

variable {place : List Name}

theorem Lost.split {before after : Tree Name Entry}
    (lost : Lost before after place) (between : Tree Name Entry) :
    Lost before between place ∨ Lost between after place := by
  cases found : between place with
  | none => exact .inl ⟨lost.1, found⟩
  | some entry => exact .inr ⟨by simp [found], lost.2⟩

theorem not_lost_self (tree : Tree Name Entry) (place : List Name) : ¬ Lost tree tree place :=
  fun lost => lost.1 lost.2

/-- A tree with nothing that the other does not have. -/
def Within (smaller larger : Tree Name Entry) : Prop :=
  ∀ place, smaller place = none ∨ smaller place = larger place

theorem Within.refl (tree : Tree Name Entry) : Within tree tree :=
  fun _ => .inr rfl

theorem Within.trans {small middle large : Tree Name Entry} (inner : Within small middle)
    (outer : Within middle large) : Within small large := by
  intro place
  rcases inner place with absent | same
  · exact .inl absent
  · rw [same]
    exact outer place

theorem Within.eq_some {smaller larger : Tree Name Entry} (within : Within smaller larger)
    {entry : Entry} (present : smaller place = some entry) :
    larger place = some entry := by
  rcases within place with absent | same
  · simp [absent] at present
  · rw [← same, present]

/-- What two trees both have. -/
def meet (left right : Tree Name Entry) : Tree Name Entry :=
  fun place => if left place = none then none else right place

theorem meet_eq_some {left right : Tree Name Entry} {entry other : Entry}
    (leftPresent : left place = some other) (rightPresent : right place = some entry) :
    left.meet right place = some entry := by
  simp [meet, leftPresent, rightPresent]

variable [DecidableEq Name]

/-- The tree without a place and what is beneath it, save what is kept. -/
def without (tree : Tree Name Entry) (place : List Name) (kept : List Name → Bool) :
    Tree Name Entry :=
  fun other => if place <+: other ∧ kept other = false then none else tree other

theorem without_lost {tree : Tree Name Entry} {place other : List Name}
    {kept : List Name → Bool} (lost : Lost tree (tree.without place kept) other) :
    place <+: other := by
  by_contra apart
  exact lost.1 (by simpa [without, apart] using lost.2)

/-- Nothing appears. -/
theorem without_eq_none {tree : Tree Name Entry} {other : List Name} (absent : tree other = none)
    (place : List Name) (kept : List Name → Bool) : tree.without place kept other = none := by
  simp [without, absent]

/-- A removal that keeps nothing takes everything beneath its place. -/
theorem without_beneath (tree : Tree Name Entry) {place other : List Name}
    (beneath : place <+: other) : tree.without place (fun _ => false) other = none := by
  simp [without, beneath]

theorem without_within (tree : Tree Name Entry) (place : List Name) (kept : List Name → Bool) :
    Within (tree.without place kept) tree := by
  intro other
  by_cases gone : place <+: other ∧ kept other = false
  · exact .inl (by simp [without, gone])
  · exact .inr (by simp [without, gone])

/-- What a smaller tree shares with a whole removal, it keeps in a partial one. -/
theorem meet_within_without {smaller larger : Tree Name Entry} (within : Within smaller larger)
    (place : List Name) (kept : List Name → Bool) :
    Within (smaller.meet (larger.without place fun _ => false)) (smaller.without place kept) := by
  intro other
  by_cases beneath : place <+: other
  · exact .inl (by simp [meet, without, beneath])
  · rcases within other with absent | same
    · exact .inl (by simp [meet, absent])
    · right
      simp only [meet, without, beneath, same, false_and, if_false]
      split_ifs with absent
      · exact absent.symm
      · rfl

/-- A removal that keeps everything takes nothing. -/
theorem without_all_kept (tree : Tree Name Entry) (place : List Name) :
    tree.without place (fun _ => true) = tree := by
  funext other
  simp [without]

end Tree

end Files
