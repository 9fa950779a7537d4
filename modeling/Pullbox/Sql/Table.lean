import Mathlib.Data.List.Nodup

/-!
# Tables

Rows that carry their key, each key once: looking a row up, changing rows, deleting one, and
how many rows a condition selects.
-/

namespace Sql

open List

universe u

/-- Rows of which no two have the same key. -/
structure Table (Row : Type u) (key : Row → Nat) where
  rows : List Row
  distinct : (rows.map key).Nodup

namespace Table

variable {Row : Type u} {key : Row → Nat} {table : Table Row key} {id other : Nat} {row : Row}
  {change : Row → Row} {condition : Row → Bool} {after : Table Row key}

/-- The row of a key. -/
def find (table : Table Row key) (id : Nat) : Option Row :=
  table.rows.find? fun row => key row == id

theorem find_eq_some : table.find id = some row ↔ row ∈ table.rows ∧ key row = id := by
  constructor
  · intro found
    exact ⟨mem_of_find?_eq_some found, by simpa using List.find?_some found⟩
  · rintro ⟨member, rfl⟩
    cases found : table.find (key row) with
    | none =>
      have absent := List.find?_eq_none.1 found row member
      simp at absent
    | some other =>
      have inside := mem_of_find?_eq_some found
      have same : key other = key row := by simpa using List.find?_some found
      rw [inj_on_of_nodup_map table.distinct inside member same]

theorem find_key (member : row ∈ table.rows) : table.find (key row) = some row :=
  find_eq_some.2 ⟨member, rfl⟩

theorem mem_of_find (found : table.find id = some row) : row ∈ table.rows :=
  (find_eq_some.1 found).1

theorem key_of_find (found : table.find id = some row) : key row = id :=
  (find_eq_some.1 found).2

/-- The table with each row changed, but for its key. -/
def each (table : Table Row key) (change : Row → Row)
    (keeps : ∀ row, key (change row) = key row) : Table Row key where
  rows := table.rows.map change
  distinct := by
    have same : key ∘ change = key := funext keeps
    rw [map_map, same]
    exact table.distinct

theorem find_each (keeps : ∀ row, key (change row) = key row) :
    (table.each change keeps).find id = (table.find id).map change := by
  have same : (fun row => key row == id) ∘ change = fun row => key row == id :=
    funext fun row => congrArg (· == id) (keeps row)
  unfold find each
  rw [List.find?_map, same]

/-- The table with one row changed, but for its key. -/
def modify (table : Table Row key) (id : Nat) (change : Row → Row)
    (keeps : ∀ row, key (change row) = key row) : Table Row key :=
  table.each (fun row => if key row = id then change row else row) fun row => by
    split
    · exact keeps row
    · rfl

theorem find_modify (keeps : ∀ row, key (change row) = key row) :
    (table.modify id change keeps).find other =
      if other = id then (table.find other).map change else table.find other := by
  rw [modify, find_each]
  cases found : table.find other with
  | none => simp
  | some row =>
    have named := key_of_find found
    subst named
    split <;> simp_all

theorem find_modify_self (keeps : ∀ row, key (change row) = key row) :
    (table.modify id change keeps).find id = (table.find id).map change := by
  rw [find_modify, if_pos rfl]

theorem find_modify_ne (keeps : ∀ row, key (change row) = key row)
    (different : other ≠ id) : (table.modify id change keeps).find other = table.find other := by
  rw [find_modify, if_neg different]

/-- The same, for a table whose rows are the changed rows of another. -/
theorem find_of_rows (rows : after.rows = table.rows.map change)
    (keeps : ∀ row, key (change row) = key row) :
    after.find id = (table.find id).map change := by
  have same : after.find id = (table.each change keeps).find id := by
    unfold find
    rw [rows]
    rfl
  rw [same, find_each]

/-- `UPDATE`: the rows that a condition selects are written, but for their key. -/
def update (table : Table Row key) (condition : Row → Bool) (write : Row → Row)
    (keeps : ∀ row, key (write row) = key row) : Table Row key :=
  table.each (fun row => if condition row then write row else row) fun row => by
    split
    · exact keeps row
    · rfl

/-- An update that selects no row writes nothing. -/
theorem eq_of_rows {write : Row → Row}
    (rows : after.rows = table.rows.map fun row => if condition row then write row else row)
    (none : ∀ row ∈ table.rows, condition row = false) : after = table := by
  have same : (table.rows.map fun row => if condition row then write row else row) =
      table.rows := by
    refine (map_congr_left fun row member => ?_).trans (map_id _)
    simp [none row member]
  cases table
  cases after
  cases rows.trans same
  rfl

/-! ### Rows in place -/

/-- Each row is rewritten in place, as a relation allows. -/
def Moves (relation : Row → Row → Prop) (table after : Table Row key) : Prop :=
  ∃ write : Row → Row, after.rows = table.rows.map write ∧
    ∀ row ∈ table.rows, key (write row) = key row ∧ relation row (write row)

/-- The rows that a condition selects are written, but for their key. -/
theorem moves_of_rows {relation : Row → Row → Prop}
    {condition : Row → Prop} [DecidablePred condition] {write : Row → Row}
    (rows : after.rows = table.rows.map fun row => if condition row then write row else row)
    (keeps : ∀ row, key (write row) = key row)
    (related : ∀ row ∈ table.rows, relation row (if condition row then write row else row)) :
    Moves relation table after := by
  refine ⟨_, rows, fun row member => ⟨?_, related row member⟩⟩
  split
  · exact keeps row
  · rfl

namespace Moves

variable {relation next whole : Row → Row → Prop} {later : Table Row key}

theorem refl (related : ∀ row ∈ table.rows, relation row row) : Moves relation table table :=
  ⟨fun row => row, (map_id _).symm, fun row member => ⟨rfl, related row member⟩⟩

theorem trans (first : Moves relation table after) (second : Moves next after later)
    (composed : ∀ row ∈ table.rows, ∀ middle last, relation row middle → next middle last →
      whole row last) : Moves whole table later := by
  obtain ⟨write, rows, wrote⟩ := first
  obtain ⟨rewrite, laterRows, rewrote⟩ := second
  refine ⟨fun row => rewrite (write row), ?_, ?_⟩
  · rw [laterRows, rows, map_map]
    rfl
  · intro row member
    have moved : write row ∈ after.rows := by
      rw [rows]
      exact mem_map_of_mem member
    obtain ⟨named, related⟩ := wrote row member
    obtain ⟨renamed, rerelated⟩ := rewrote _ moved
    exact ⟨renamed.trans named, composed row member _ _ related rerelated⟩

theorem mono (moves : Moves relation table after)
    (wider : ∀ row ∈ table.rows, ∀ last, relation row last → whole row last) :
    Moves whole table after := by
  obtain ⟨write, rows, wrote⟩ := moves
  exact ⟨write, rows, fun row member =>
    ⟨(wrote row member).1, wider row member _ (wrote row member).2⟩⟩

/-- Where a row comes from. -/
theorem source (moves : Moves relation table after) (member : row ∈ after.rows) :
    ∃ before ∈ table.rows, key before = key row ∧ relation before row := by
  obtain ⟨write, rows, wrote⟩ := moves
  rw [rows] at member
  obtain ⟨before, inside, rfl⟩ := mem_map.1 member
  exact ⟨before, inside, (wrote before inside).1.symm, (wrote before inside).2⟩

/-- Where a row goes. -/
theorem target (moves : Moves relation table after) (member : row ∈ table.rows) :
    ∃ last ∈ after.rows, key last = key row ∧ relation row last := by
  obtain ⟨write, rows, wrote⟩ := moves
  refine ⟨write row, ?_, wrote row member⟩
  rw [rows]
  exact mem_map_of_mem member

/-- A table whose rows stay as they are. -/
theorem eq (moves : Moves relation table after)
    (still : ∀ row ∈ table.rows, ∀ last, relation row last → last = row) : after = table := by
  obtain ⟨write, rows, wrote⟩ := moves
  have same : table.rows.map write = table.rows :=
    (map_congr_left fun row member => still row member _ (wrote row member).2).trans
      (map_id _)
  cases table
  cases after
  cases rows.trans same
  rfl

theorem find (moves : Moves relation table after) (found : table.find id = some row) :
    ∃ last, after.find id = some last ∧ relation row last := by
  obtain ⟨member, rfl⟩ := find_eq_some.1 found
  obtain ⟨last, inside, named, related⟩ := moves.target member
  exact ⟨last, named ▸ find_key inside, related⟩

end Moves

/-- The table without a row. -/
def delete (table : Table Row key) (id : Nat) : Table Row key where
  rows := table.rows.filter fun row => key row ≠ id
  distinct := table.distinct.sublist (filter_sublist.map key)

theorem mem_delete : row ∈ (table.delete id).rows ↔ row ∈ table.rows ∧ key row ≠ id := by
  simp [delete]

theorem find_delete :
    (table.delete id).find other = if other = id then none else table.find other := by
  split
  · rename_i same
    subst same
    cases found : (table.delete other).find other with
    | none => rfl
    | some row =>
      obtain ⟨member, named⟩ := find_eq_some.1 found
      exact absurd named (mem_delete.1 member).2
  · rename_i different
    ext row
    rw [find_eq_some, find_eq_some, mem_delete]
    constructor
    · rintro ⟨⟨member, _⟩, named⟩
      exact ⟨member, named⟩
    · rintro ⟨member, rfl⟩
      exact ⟨⟨member, different⟩, rfl⟩

theorem find_delete_ne (different : other ≠ id) :
    (table.delete id).find other = table.find other := by
  rw [find_delete, if_neg different]

/-- `DELETE`: the table without the rows that a condition selects. -/
def deleteWhere (table : Table Row key) (condition : Row → Bool) : Table Row key where
  rows := table.rows.filter fun row => !condition row
  distinct := table.distinct.sublist (filter_sublist.map key)

/-- A key above those of all rows. -/
def nextKey (table : Table Row key) : Nat :=
  table.rows.foldr (fun row next => max next (key row + 1)) 1

theorem lt_nextKey (member : row ∈ table.rows) : key row < table.nextKey := by
  have above : ∀ rows : List Row, row ∈ rows →
      key row < rows.foldr (fun row next => max next (key row + 1)) 1 := by
    intro rows inside
    induction rows with
    | nil => cases inside
    | cons head rest ih =>
      rw [foldr_cons]
      rcases mem_cons.1 inside with rfl | inside
      · omega
      · have later := ih inside
        omega
  exact above table.rows member

/-- The table with one more row, under a new key. -/
def insert (table : Table Row key) (build : Nat → Row) (keyed : ∀ id, key (build id) = id) :
    Table Row key where
  rows := table.rows ++ [build table.nextKey]
  distinct := by
    rw [map_append, map_singleton, keyed]
    refine table.distinct.append (nodup_singleton _) ?_
    intro id inside last
    obtain ⟨row, member, rfl⟩ := mem_map.1 inside
    have below := lt_nextKey member
    have same := mem_singleton.1 last
    omega

theorem find_insert {build : Nat → Row} (keyed : ∀ id, key (build id) = id) :
    (table.insert build keyed).find id =
      if id = table.nextKey then some (build id) else table.find id := by
  split
  · rename_i last
    subst last
    refine find_eq_some.2 ⟨?_, keyed _⟩
    simp [insert]
  · rename_i different
    ext row
    rw [find_eq_some, find_eq_some, insert, mem_append, mem_singleton]
    constructor
    · rintro ⟨member | rfl, named⟩
      · exact ⟨member, named⟩
      · exact absurd (named ▸ keyed _) different
    · rintro ⟨member, named⟩
      exact ⟨.inl member, named⟩

/-- The new key is no row's. -/
theorem find_nextKey : table.find table.nextKey = none := by
  cases found : table.find table.nextKey with
  | none => rfl
  | some row =>
    have below := lt_nextKey (mem_of_find found)
    have named := key_of_find found
    omega

/-! ### Counting rows -/

/-- How many rows a condition selects. -/
def count (table : Table Row key) (condition : Row → Bool) : Nat :=
  table.rows.countP condition

theorem count_pos :
    0 < table.count condition ↔ ∃ row ∈ table.rows, condition row = true :=
  countP_pos_iff

/-- The rows before and after one of the table, none of which has its key. -/
theorem split_of_find (found : table.find id = some row) :
    ∃ before after, table.rows = before ++ row :: after ∧
      ∀ other ∈ before ++ after, key other ≠ id := by
  obtain ⟨member, rfl⟩ := find_eq_some.1 found
  obtain ⟨before, after, whole⟩ := append_of_mem member
  refine ⟨before, after, whole, ?_⟩
  have distinct := table.distinct
  rw [whole, map_append, map_cons, nodup_middle, nodup_cons,
    ← map_append] at distinct
  intro other inside same
  exact distinct.1 (same ▸ mem_map_of_mem inside)

/-- A condition that selects rows of one key selects at most one. -/
theorem count_eq_one (found : table.find id = some row)
    (selected : condition row = true) (only : ∀ row, condition row = true → key row = id) :
    table.count condition = 1 := by
  obtain ⟨before, after, whole, others⟩ := split_of_find found
  have none (rows : List Row) (apart : ∀ other ∈ rows, key other ≠ id) :
      rows.countP condition = 0 := by
    rw [countP_eq_zero]
    intro other inside chosen
    exact apart other inside (only other chosen)
  have left := none before fun other inside => others other (mem_append_left _ inside)
  have right := none after fun other inside => others other (mem_append_right _ inside)
  rw [count, whole, countP_append, countP_cons, left, right, if_pos selected]

theorem count_delete (found : table.find id = some row) (condition : Row → Bool) :
    (table.delete id).count condition + (if condition row = true then 1 else 0) =
      table.count condition := by
  obtain ⟨before, after, whole, others⟩ := split_of_find found
  have left : before.filter (fun row => key row ≠ id) = before :=
    filter_eq_self.2 fun other inside => by
      simpa using others other (mem_append_left _ inside)
  have right : after.filter (fun row => key row ≠ id) = after :=
    filter_eq_self.2 fun other inside => by
      simpa using others other (mem_append_right _ inside)
  have named := key_of_find found
  simp only [count, delete, whole, filter_append, filter_cons, left, right, named,
    countP_append, countP_cons]
  simp
  omega

theorem count_modify (keeps : ∀ row, key (change row) = key row)
    (found : table.find id = some row) (condition : Row → Bool) :
    (table.modify id change keeps).count condition + (if condition row = true then 1 else 0) =
      table.count condition + (if condition (change row) = true then 1 else 0) := by
  obtain ⟨before, after, whole, others⟩ := split_of_find found
  have untouched : ∀ rows : List Row, (∀ other ∈ rows, key other ≠ id) →
      rows.map (fun row => if key row = id then change row else row) = rows := by
    intro rows apart
    exact (map_congr_left fun other inside => if_neg (apart other inside)).trans
      (map_id rows)
  have left := untouched before fun other inside => others other (mem_append_left _ inside)
  have right := untouched after fun other inside => others other (mem_append_right _ inside)
  have named := key_of_find found
  simp only [count, modify, each, whole, map_append, map_cons, left, right, named,
    countP_append, countP_cons]
  simp
  omega

end Table

end Sql
