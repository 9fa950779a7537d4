import Mathlib.Data.List.Pairwise
import Mathlib.Tactic.Common

/-!
# Reading a table in pages behind a key

The rows of a table in the order of a key, read a page at a time: those behind a cursor, so many at
most. The key of the last row of a page is the cursor for the next one. A scan reads each row once,
and so does a reader who asks for one page after the other while there are further rows.
-/

namespace Sql.Keyset

open List

universe u v

variable {Row : Type u} {State : Type v} (key : Row → ℕ)

/-- The rows behind a cursor. -/
def rowsAfter (rows : List Row) (cursor : ℕ) : List Row :=
  rows.filter fun row => cursor < key row

def page (rows : List Row) (cursor limit : ℕ) : List Row :=
  (rowsAfter key rows cursor).take limit

/-- The cursor for the next page, if there are further rows. -/
def nextCursor (rows : List Row) (cursor limit : ℕ) : Option ℕ :=
  if limit < (rowsAfter key rows cursor).length then
    (page key rows cursor limit).getLast?.map key
  else none

/-- The rows are in the order of their keys. -/
def Increasing (rows : List Row) : Prop :=
  rows.Pairwise fun first second => key first < key second

variable {key} {rows front back listed : List Row} {last : Row} {cursor limit next : ℕ}

theorem Increasing.rowsAfter (increasing : Increasing key rows) :
    Increasing key (rowsAfter key rows cursor) :=
  increasing.sublist filter_sublist

theorem mem_rowsAfter {row : Row} :
    row ∈ rowsAfter key rows cursor ↔ row ∈ rows ∧ cursor < key row := by
  unfold rowsAfter
  rw [mem_filter, decide_eq_true_eq]

/-- With positive keys, all rows are behind zero. -/
theorem rowsAfter_zero (positive : ∀ row ∈ rows, 0 < key row) : rowsAfter key rows 0 = rows := by
  apply filter_eq_self.2
  intro row inside
  exact decide_eq_true (positive row inside)

/-- A row behind a cursor has all that is behind it there too. -/
theorem rowsAfter_of_mem (here : last ∈ rowsAfter key rows cursor) :
    rowsAfter key rows (key last) =
      (rowsAfter key rows cursor).filter fun row => key last < key row := by
  have behind : cursor < key last := (mem_rowsAfter.1 here).2
  unfold rowsAfter
  rw [filter_filter]
  apply filter_congr
  intro row _
  rw [Bool.eq_iff_iff, Bool.and_eq_true, decide_eq_true_eq, decide_eq_true_eq]
  constructor
  · intro later
    exact ⟨later, Nat.lt_trans behind later⟩
  · exact And.left

/-- The rows behind a row of those behind a cursor. -/
theorem rowsAfter_last (increasing : Increasing key rows)
    (split : rowsAfter key rows cursor = front ++ last :: back) :
    rowsAfter key rows (key last) = back := by
  have here : last ∈ rowsAfter key rows cursor := by
    rw [split]
    exact mem_append_right _ mem_cons_self
  have ordered : Increasing key (front ++ last :: back) := split ▸ increasing.rowsAfter
  obtain ⟨_, rest, across⟩ := pairwise_append.1 ordered
  have before : front.filter (fun row => key last < key row) = [] := by
    apply filter_eq_nil_iff.2
    intro row inside
    have := across row inside last mem_cons_self
    rw [decide_eq_true_eq]
    omega
  have after : back.filter (fun row => key last < key row) = back := by
    apply filter_eq_self.2
    intro row inside
    exact decide_eq_true ((pairwise_cons.1 rest).1 row inside)
  rw [rowsAfter_of_mem here, split, filter_append, before, nil_append,
    filter_cons_of_neg (by simp), after]

/-- A page and what is behind its last row are what is behind the cursor. -/
theorem page_append (increasing : Increasing key rows)
    (found : (page key rows cursor limit).getLast? = some last) :
    page key rows cursor limit ++ rowsAfter key rows (key last) = rowsAfter key rows cursor := by
  obtain ⟨front, shape⟩ := List.getLast?_eq_some_iff.1 found
  have joined : page key rows cursor limit ++ (rowsAfter key rows cursor).drop limit =
      rowsAfter key rows cursor :=
    take_append_drop limit _
  have split : rowsAfter key rows cursor =
      front ++ last :: (rowsAfter key rows cursor).drop limit := by
    rw [shape, append_assoc, singleton_append] at joined
    exact joined.symm
  rw [rowsAfter_last increasing split]
  exact joined

theorem mem_of_last (found : (page key rows cursor limit).getLast? = some last) :
    last ∈ rowsAfter key rows cursor :=
  mem_of_mem_take (mem_of_getLast? found)

/-- Behind the last row of a page there are fewer rows. -/
theorem length_rowsAfter_last (found : (page key rows cursor limit).getLast? = some last) :
    (rowsAfter key rows (key last)).length < (rowsAfter key rows cursor).length := by
  rw [rowsAfter_of_mem (mem_of_last found)]
  apply length_filter_lt_length_iff_exists.2
  exact ⟨last, mem_of_last found, by simp⟩

/-- An empty page has nothing behind it. -/
theorem rowsAfter_eq_nil (found : (page key rows cursor limit).getLast? = none)
    (positive : 0 < limit) : rowsAfter key rows cursor = [] := by
  have none : (rowsAfter key rows cursor).take limit = [] := List.getLast?_eq_none_iff.1 found
  rcases take_eq_nil_iff.1 none with zero | empty
  · omega
  · exact empty

/-! ### Scans -/

/-- Read page after page, until one is not full. -/
def scan (key : Row → ℕ) (step : State → List Row → Option State) (size : ℕ) (rows : List Row)
    (cursor : ℕ) (state : State) : Option State :=
  match step state (page key rows cursor size) with
  | none => none
  | some next =>
    match _found : (page key rows cursor size).getLast? with
    | none => some next
    | some last =>
      if (page key rows cursor size).length < size then some next
      else scan key step size rows (key last) next
termination_by (rowsAfter key rows cursor).length
decreasing_by exact length_rowsAfter_last _found

/-- A scan takes all rows behind its cursor, if the step takes one list after another. -/
theorem scan_eq {step : State → List Row → Option State} {size : ℕ}
    (append : ∀ state front back,
      step state (front ++ back) = (step state front).bind fun next => step next back)
    (increasing : Increasing key rows) (positive : 0 < size) (cursor : ℕ) (state : State) :
    scan key step size rows cursor state = step state (rowsAfter key rows cursor) := by
  fun_induction scan key step size rows cursor state with
  | case1 cursor state fails =>
    have split := append state (page key rows cursor size) ((rowsAfter key rows cursor).drop size)
    unfold page at fails split
    rw [take_append_drop, fails] at split
    exact split.symm
  | case2 cursor state next taken found =>
    have empty := rowsAfter_eq_nil found positive
    unfold page at taken
    rw [empty, take_nil] at taken
    rw [empty, taken]
  | case3 cursor state next taken last _ short =>
    have whole : page key rows cursor size = rowsAfter key rows cursor := by
      apply take_of_length_le
      unfold page at short
      rw [length_take] at short
      omega
    rw [← whole, taken]
  | case4 cursor state next taken last found _ ih =>
    rw [ih, ← page_append increasing found, append, taken, Option.bind_some]

/-! ### Following the cursors -/

/-- The rows that a reader lists from a cursor on, with pages of any of the sizes. -/
inductive Followed (key : Row → ℕ) (rows : List Row) (sizes : ℕ → Prop) : ℕ → List Row → Prop
  | last {cursor limit : ℕ} (allowed : sizes limit)
      (done : nextCursor key rows cursor limit = none) :
      Followed key rows sizes cursor (page key rows cursor limit)
  | next {cursor limit next : ℕ} {rest : List Row} (allowed : sizes limit)
      (more : nextCursor key rows cursor limit = some next)
      (followed : Followed key rows sizes next rest) :
      Followed key rows sizes cursor (page key rows cursor limit ++ rest)

theorem nextCursor_eq_none (done : nextCursor key rows cursor limit = none)
    (positive : 0 < limit) : page key rows cursor limit = rowsAfter key rows cursor := by
  unfold nextCursor at done
  split at done
  · have empty := rowsAfter_eq_nil (Option.map_eq_none_iff.1 done) positive
    unfold page
    rw [empty, take_nil]
  · next few => exact take_of_length_le (Nat.le_of_not_lt few)

theorem nextCursor_eq_some (more : nextCursor key rows cursor limit = some next) :
    ∃ last, (page key rows cursor limit).getLast? = some last ∧ key last = next := by
  unfold nextCursor at more
  split at more
  · exact Option.map_eq_some_iff.1 more
  · cases more

variable {sizes : ℕ → Prop} (positive : ∀ size, sizes size → 0 < size)

include positive in
/-- A reader lists each row behind the first cursor once, in order. -/
theorem Followed.eq (increasing : Increasing key rows)
    (followed : Followed key rows sizes cursor listed) : listed = rowsAfter key rows cursor := by
  induction followed with
  | last allowed done => exact nextCursor_eq_none done (positive _ allowed)
  | next _ more _ ih =>
    obtain ⟨last, found, rfl⟩ := nextCursor_eq_some more
    rw [ih]
    exact page_append increasing found

/-- Cursors come to an end. -/
theorem exists_followed (allowed : sizes limit) (rows : List Row) (cursor : ℕ) :
    ∃ listed, Followed key rows sizes cursor listed := by
  induction count : (rowsAfter key rows cursor).length using Nat.strongRecOn
    generalizing cursor with
  | _ _ ih =>
    subst count
    cases more : nextCursor key rows cursor limit with
    | none => exact ⟨_, .last allowed more⟩
    | some next =>
      obtain ⟨last, found, rfl⟩ := nextCursor_eq_some more
      obtain ⟨rest, followed⟩ := ih _ (length_rowsAfter_last found) _ rfl
      exact ⟨_, .next allowed more followed⟩

end Sql.Keyset
