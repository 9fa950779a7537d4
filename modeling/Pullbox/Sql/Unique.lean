import Pullbox.Sql.Table

/-!
# Tables with a uniqueness constraint

Each row may own a value, and no two rows own the same one; a row that owns nothing is free of
the constraint, as a row with a `NULL` is. A write that would break the constraint fails.
Writing several rows one after the other succeeds exactly when the values they come to own are
distinct and nobody's.
-/

namespace Sql

open List

universe u v

/-- Rows of which no two own the same value. -/
structure UniqueTable (Row : Type u) (key : Row → Nat) {Value : Type v}
    (owned : Row → Option Value) extends Table Row key where
  unique : ∀ first ∈ rows, ∀ second ∈ rows, ∀ value, owned first = some value →
    owned second = some value → key first = key second

namespace UniqueTable

variable {Row : Type u} {key : Row → Nat} {Value : Type v} {owned : Row → Option Value}
  {table after : UniqueTable Row key owned} {row before : Row} {value : Value} {id : Nat}

/-- Some row owns the value. -/
def Owns (table : UniqueTable Row key owned) (value : Value) : Prop :=
  ∃ row ∈ table.rows, owned row = some value

/-- Another row owns what the row is to own. -/
def Clash (table : UniqueTable Row key owned) (row : Row) : Prop :=
  ∃ other ∈ table.rows, key other ≠ key row ∧ owned row ≠ none ∧ owned other = owned row

instance [DecidableEq Value] (table : UniqueTable Row key owned) (row : Row) :
    Decidable (table.Clash row) :=
  inferInstanceAs (Decidable (∃ other ∈ table.rows,
    key other ≠ key row ∧ owned row ≠ none ∧ owned other = owned row))

/-- The rows after one of them was replaced. -/
def replace (table : Table Row key) (row : Row) : Table Row key :=
  table.each (fun before => if key before = key row then row else before) fun before => by
    split
    · next same => exact same.symm
    · rfl

/-- The row takes the place of the one with its key, or the constraint fails. -/
def write [DecidableEq Value] (table : UniqueTable Row key owned) (row : Row) :
    Option (UniqueTable Row key owned) :=
  if clash : table.Clash row then none
  else some {
    toTable := replace table.toTable row
    unique := by
      intro first firstIn second secondIn value ownsFirst ownsSecond
      obtain ⟨one, oneIn, rfl⟩ := mem_map.1 firstIn
      obtain ⟨two, twoIn, rfl⟩ := mem_map.1 secondIn
      by_cases oneHere : key one = key row <;> by_cases twoHere : key two = key row
      · simp [oneHere, twoHere]
      · rw [if_pos oneHere] at ownsFirst
        rw [if_neg twoHere] at ownsSecond
        refine absurd ⟨two, twoIn, twoHere, ?_, ?_⟩ clash
        · rw [ownsFirst]
          exact Option.some_ne_none _
        · rw [ownsFirst, ownsSecond]
      · rw [if_neg oneHere] at ownsFirst
        rw [if_pos twoHere] at ownsSecond
        refine absurd ⟨one, oneIn, oneHere, ?_, ?_⟩ clash
        · rw [ownsSecond]
          exact Option.some_ne_none _
        · rw [ownsFirst, ownsSecond]
      · rw [if_neg oneHere] at ownsFirst ⊢
        rw [if_neg twoHere] at ownsSecond ⊢
        exact table.unique one oneIn two twoIn value ownsFirst ownsSecond }

section Writes

variable [DecidableEq Value] {steps : List (Nat × (Row → Row))} {change : Row → Row}

theorem write_isSome_iff : (table.write row).isSome ↔ ¬ table.Clash row := by
  unfold write
  split
  · next clash => simp [clash]
  · next free => simp [free]

theorem rows_of_write (written : table.write row = some after) :
    after.rows = table.rows.map fun before => if key before = key row then row else before := by
  unfold write at written
  split at written
  · cases written
  · cases written
    rfl

theorem find_of_write (written : table.write row = some after) :
    after.find id =
      if id = key row then (table.find id).map fun _ => row else table.find id := by
  have keeps : ∀ before, key (if key before = key row then row else before) = key before := by
    intro before
    split
    · next same => exact same.symm
    · rfl
  rw [Table.find_of_rows (rows_of_write written) keeps]
  cases found : table.find id with
  | none => simp
  | some before =>
    have named := Table.key_of_find found
    subst named
    split <;> simp_all

/-- What a written row owned before does not matter when it owned nothing. -/
theorem owns_of_write (found : table.find (key row) = some before)
    (kept : owned before = none ∨ owned before = owned row)
    (written : table.write row = some after) :
    after.Owns value ↔ table.Owns value ∨ owned row = some value := by
  obtain ⟨member, named⟩ := Table.find_eq_some.1 found
  unfold Owns
  rw [rows_of_write written]
  constructor
  · rintro ⟨_, inside, owns⟩
    obtain ⟨source, sourceIn, rfl⟩ := mem_map.1 inside
    by_cases here : key source = key row
    · rw [if_pos here] at owns
      exact .inr owns
    · rw [if_neg here] at owns
      exact .inl ⟨source, sourceIn, owns⟩
  · rintro (⟨source, sourceIn, owns⟩ | owns)
    · refine ⟨_, mem_map_of_mem sourceIn, ?_⟩
      by_cases here : key source = key row
      · have same : source = before :=
          inj_on_of_nodup_map table.distinct sourceIn member (here.trans named.symm)
        rw [if_pos here]
        rcases kept with nothing | same'
        · exact absurd (same ▸ owns) (by simp [nothing])
        · rw [← same', ← same]
          exact owns
      · rwa [if_neg here]
    · refine ⟨_, mem_map_of_mem member, ?_⟩
      rwa [if_pos named]

/-- One row after the other is read and written back; keys without a row are passed over. -/
def writeAll (table : UniqueTable Row key owned) :
    List (Nat × (Row → Row)) → Option (UniqueTable Row key owned)
  | [] => some table
  | (id, change) :: rest =>
    match table.find id with
    | none => table.writeAll rest
    | some row => (table.write (change row)).bind fun table => table.writeAll rest

/-- The value that a row comes to own. -/
def gained (table : UniqueTable Row key owned) (step : Nat × (Row → Row)) : Option Value :=
  (table.find step.1).bind fun row => if owned row = none then owned (step.2 row) else none

/-- Each step keeps the key of its row, and what the row owns if it owns something. -/
def Keeps (table : UniqueTable Row key owned) (step : Nat × (Row → Row)) : Prop :=
  ∀ row, table.find step.1 = some row →
    key (step.2 row) = key row ∧ (owned row = none ∨ owned (step.2 row) = owned row)

theorem find_of_writeAll (keeps : ∀ step ∈ steps, table.Keeps step)
    (distinct : (steps.map Prod.fst).Nodup) (written : table.writeAll steps = some after) :
    after.find id = match steps.find? fun step => step.1 = id with
      | some step => (table.find id).map step.2
      | none => table.find id := by
  induction steps generalizing table with
  | nil =>
    cases written
    rfl
  | cons step rest ih =>
    obtain ⟨here, change⟩ := step
    simp only [map_cons, nodup_cons] at distinct
    have absent (same : here = id) : rest.find? (fun step => step.1 = id) = none := by
      apply List.find?_eq_none.2
      intro step member
      simp only [decide_eq_true_eq]
      rintro rfl
      exact distinct.1 (same ▸ mem_map_of_mem member)
    cases found : table.find here with
    | none =>
      simp only [writeAll, found] at written
      have later := ih (fun step member => keeps step (mem_cons_of_mem _ member))
        distinct.2 written
      rw [later, List.find?_cons]
      by_cases same : here = id
      · subst same
        simp [absent rfl, found]
      · simp [same]
    | some row =>
      simp only [writeAll, found, Option.bind_eq_some_iff] at written
      obtain ⟨between, first, rest'⟩ := written
      obtain ⟨named, _⟩ := keeps _ mem_cons_self row found
      have rowKey := Table.key_of_find found
      have reads (other : Nat) (apart : other ≠ here) :
          between.find other = table.find other := by
        rw [find_of_write first, if_neg]
        rw [named, rowKey]
        exact apart
      have keepsRest : ∀ step ∈ rest, between.Keeps step := by
        intro step member other otherFound
        have apart : step.1 ≠ here := by
          intro same
          exact distinct.1 (same ▸ mem_map_of_mem member)
        rw [reads _ apart] at otherFound
        exact keeps step (mem_cons_of_mem _ member) other otherFound
      have later := ih keepsRest distinct.2 rest'
      rw [later, List.find?_cons]
      by_cases same : here = id
      · subst same
        have stands : between.find here = some (change row) := by
          rw [find_of_write first, if_pos (by rw [named, rowKey]), found]
          rfl
        simp [absent rfl, stands, found]
      · simp only [same, decide_false]
        rw [reads id (Ne.symm same)]

/-- Rows that are written one after the other are the changed rows in place. -/
theorem rows_of_writeAll (keeps : ∀ step ∈ steps, ∀ row, key (step.2 row) = key row)
    (distinct : (steps.map Prod.fst).Nodup) (written : table.writeAll steps = some after) :
    after.rows = table.rows.map fun row =>
      match steps.find? fun step => step.1 = key row with
      | some step => step.2 row
      | none => row := by
  induction steps generalizing table with
  | nil =>
    cases written
    exact (map_id _).symm
  | cons step rest ih =>
    obtain ⟨here, change⟩ := step
    rw [map_cons, nodup_cons] at distinct
    have keepsRest : ∀ step ∈ rest, ∀ row, key (step.2 row) = key row :=
      fun step member => keeps step (mem_cons_of_mem _ member)
    have absent : rest.find? (fun step => step.1 = here) = none := by
      apply List.find?_eq_none.2
      intro step member
      simp only [decide_eq_true_eq]
      intro same
      have inside : step.1 ∈ rest.map Prod.fst := mem_map_of_mem member
      exact distinct.1 (same ▸ inside)
    cases found : table.find here with
    | none =>
      simp only [writeAll, found] at written
      rw [ih keepsRest distinct.2 written]
      apply map_congr_left
      intro row member
      have other : here ≠ key row := by
        rintro rfl
        rw [Table.find_key member] at found
        cases found
      simp [other]
    | some row =>
      simp only [writeAll, found, Option.bind_eq_some_iff] at written
      obtain ⟨between, first, later⟩ := written
      have named : key (change row) = here :=
        (keeps _ mem_cons_self row).trans (Table.key_of_find found)
      rw [ih keepsRest distinct.2 later, rows_of_write first, map_map]
      apply map_congr_left
      intro other member
      rw [Function.comp_apply, named, List.find?_cons]
      by_cases same : key other = here
      · have itself : other = row := by
          rw [← same, Table.find_key member] at found
          exact Option.some.inj found
        subst itself
        simp [same, named, absent]
      · simp [same, Ne.symm same]

/-- One change of several rows. -/
theorem rows_of_writeAll_map {ids : List Nat}
    (keeps : ∀ row, key (change row) = key row) (distinct : ids.Nodup)
    (written : table.writeAll (ids.map fun id => (id, change)) = some after) :
    after.rows = table.rows.map fun row => if key row ∈ ids then change row else row := by
  have once : ((ids.map fun id => (id, change)).map Prod.fst).Nodup := by
    rw [map_map]
    simpa [Function.comp_def] using distinct
  have each : ∀ step ∈ ids.map fun id => (id, change), ∀ row, key (step.2 row) = key row := by
    intro step member
    obtain ⟨id, -, rfl⟩ := mem_map.1 member
    exact keeps
  rw [rows_of_writeAll each once written]
  apply map_congr_left
  intro row _
  have composed : ((fun step : ℕ × (Row → Row) => decide (step.1 = key row)) ∘ fun id =>
      (id, change)) = fun id => decide (id = key row) := rfl
  rw [List.find?_map, composed]
  by_cases here : key row ∈ ids
  · obtain ⟨id, found⟩ : ∃ id, ids.find? (fun id => decide (id = key row)) = some id := by
      apply Option.isSome_iff_exists.1
      rw [List.find?_isSome]
      exact ⟨key row, here, decide_eq_true rfl⟩
    rw [found, if_pos here]
    rfl
  · have nowhere : ids.find? (fun id => decide (id = key row)) = none := by
      apply List.find?_eq_none.2
      intro id inside same
      exact here (of_decide_eq_true same ▸ inside)
    rw [nowhere, if_neg here]
    rfl

/-- What a row owns stays its own. -/
theorem owned_of_writeAll (keeps : ∀ step ∈ steps, table.Keeps step)
    (distinct : (steps.map Prod.fst).Nodup) (written : table.writeAll steps = some after)
    (member : row ∈ table.rows) (owns : owned row = some value) :
    ∃ last ∈ after.rows, key last = key row ∧ owned last = some value := by
  have found := Table.find_key member
  have reads : after.find (key row) = match steps.find? fun step => step.1 = key row with
      | some step => (table.find (key row)).map step.2
      | none => table.find (key row) := find_of_writeAll keeps distinct written
  cases here : steps.find? fun step => step.1 = key row with
  | none =>
    rw [here, found] at reads
    exact ⟨row, Table.mem_of_find reads, rfl, owns⟩
  | some step =>
    rw [here, found] at reads
    have named := List.find?_some here
    simp only [decide_eq_true_eq] at named
    obtain ⟨same, kept⟩ := keeps step (mem_of_find?_eq_some here) row (named ▸ found)
    refine ⟨step.2 row, Table.mem_of_find reads, same, ?_⟩
    rcases kept with nothing | kept
    · rw [owns] at nothing
      cases nothing
    · exact kept.trans owns

omit [DecidableEq Value] in
/-- What a step that can be written gains was owned by nobody. -/
theorem not_owns_of_gained {row : Row} (found : table.find id = some row)
    (named : key (change row) = key row) (gains : table.gained (id, change) = some value)
    (free : ¬ table.Clash (change row)) : ¬ table.Owns value := by
  rintro ⟨other, member, owns⟩
  simp only [gained, found, Option.bind_some, Option.ite_none_right_eq_some] at gains
  obtain ⟨nothing, comes⟩ := gains
  refine free ⟨other, member, ?_, ?_, ?_⟩
  · intro same
    have stands := Table.find_key member
    rw [same, named, Table.key_of_find found, found] at stands
    cases stands
    rw [nothing] at owns
    cases owns
  · rw [comes]
    exact Option.some_ne_none _
  · rw [owns, comes]

omit [DecidableEq Value] in
/-- A step that cannot be written gains a value that a row owns. -/
theorem gained_of_clash {row : Row} (found : table.find id = some row)
    (named : key (change row) = key row)
    (kept : owned row = none ∨ owned (change row) = owned row) (clash : table.Clash (change row)) :
    ∃ value, table.gained (id, change) = some value ∧ table.Owns value := by
  obtain ⟨other, member, apart, something, same⟩ := clash
  obtain ⟨value, comes⟩ := Option.ne_none_iff_exists'.1 something
  have rowIn := Table.mem_of_find found
  have nothing : owned row = none := by
    rcases kept with nothing | kept
    · exact nothing
    · refine absurd ?_ apart
      rw [named]
      exact table.unique other member row rowIn value (same.trans comes) (kept.symm.trans comes)
  refine ⟨value, ?_, other, member, same.trans comes⟩
  simp [gained, found, nothing, comes]

/-- Who owns what after a step, in terms of what the step gains. -/
theorem owns_of_gained {row : Row} (found : table.find id = some row)
    (named : key (change row) = key row)
    (kept : owned row = none ∨ owned (change row) = owned row)
    (written : table.write (change row) = some after) :
    after.Owns value ↔ table.Owns value ∨ table.gained (id, change) = some value := by
  have stands : table.find (key (change row)) = some row := by
    rw [named, Table.key_of_find found]
    exact found
  rw [owns_of_write stands (kept.imp_right Eq.symm) written]
  simp only [gained, found, Option.bind_some, Option.ite_none_right_eq_some]
  rcases kept with nothing | kept
  · simp [nothing]
  · by_cases nothing : owned row = none
    · simp [nothing]
    · rw [kept]
      constructor
      · rintro (owns | owns)
        · exact .inl owns
        · exact .inl ⟨row, Table.mem_of_find found, owns⟩
      · rintro (owns | ⟨none, _⟩)
        · exact .inl owns
        · exact absurd none nothing

/-- Rows can be written one after the other exactly when the values they gain are distinct and
owned by nobody before. -/
theorem writeAll_isSome_iff (keeps : ∀ step ∈ steps, table.Keeps step)
    (distinct : (steps.map Prod.fst).Nodup) :
    (table.writeAll steps).isSome ↔
      (steps.filterMap table.gained).Nodup ∧
        ∀ value ∈ steps.filterMap table.gained, ¬ table.Owns value := by
  induction steps generalizing table with
  | nil => simp [writeAll]
  | cons step rest ih =>
    obtain ⟨here, change⟩ := step
    simp only [map_cons, nodup_cons] at distinct
    cases found : table.find here with
    | none =>
      have nothing : table.gained (here, change) = none := by simp [gained, found]
      simp only [writeAll, found, filterMap_cons, nothing]
      exact ih (fun step member => keeps step (mem_cons_of_mem _ member)) distinct.2
    | some row =>
      obtain ⟨named, kept⟩ := keeps _ mem_cons_self row found
      simp only [writeAll, found, filterMap_cons]
      by_cases clash : table.Clash (change row)
      · obtain ⟨value, gains, owns⟩ := gained_of_clash found named kept clash
        have refused : table.write (change row) = none := dif_pos clash
        simp [refused, gains, owns]
      · obtain ⟨between, written⟩ :=
          Option.isSome_iff_exists.1 (write_isSome_iff.2 clash)
        have reads (step) (member : step ∈ rest) :
            between.find step.1 = table.find step.1 := by
          rw [find_of_write written, if_neg]
          rw [named, Table.key_of_find found]
          intro same
          exact distinct.1 (same ▸ mem_map_of_mem member)
        have gains : rest.filterMap between.gained = rest.filterMap table.gained := by
          apply filterMap_congr
          intro step member
          rw [gained, gained, reads step member]
        have keepsRest : ∀ step ∈ rest, between.Keeps step := by
          intro step member other otherFound
          rw [reads step member] at otherFound
          exact keeps step (mem_cons_of_mem _ member) other otherFound
        simp only [written, Option.bind_some]
        rw [ih keepsRest distinct.2, gains]
        simp only [owns_of_gained found named kept written]
        cases gain : table.gained (here, change) with
        | none => simp
        | some value =>
          have free := not_owns_of_gained found named gain clash
          simp only [nodup_cons, mem_cons, forall_eq_or_imp, free,
            not_false_eq_true, true_and, not_or, Option.some.injEq]
          constructor
          · rintro ⟨once, others⟩
            exact ⟨⟨fun again => (others value again).2 rfl, once⟩,
              fun other member => (others other member).1⟩
          · rintro ⟨⟨absent, once⟩, others⟩
            refine ⟨once, fun other member => ⟨others other member, ?_⟩⟩
            rintro rfl
            exact absent member

end Writes

end UniqueTable

end Sql
