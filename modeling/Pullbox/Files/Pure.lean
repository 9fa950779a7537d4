import Pullbox.Files.Links

/-!
# Paths as they are spelled

The steps that a text with slashes spells, where nothing and single dots between slashes do not
count, and one path under another.
-/

namespace Files

open List

/-- A path without a file system. -/
structure PurePath where
  absolute : Bool
  steps : Path (List Char)
deriving DecidableEq

/-- A step of a path, if a text between slashes is one. -/
def stepOf (text : List Char) : Option (Step (List Char)) :=
  if text = [] ∨ text = ['.'] then none
  else if text = ['.', '.'] then some .up
  else some (.name text)

/-- What is between separators has none. -/
theorem not_mem_of_mem_splitOnP {sep : Char} {text piece : List Char}
    (inside : piece ∈ text.splitOnP (· == sep)) : sep ∉ piece := by
  induction text generalizing piece with
  | nil =>
    rw [splitOnP_nil, mem_singleton] at inside
    subst inside
    exact not_mem_nil
  | cons first rest ih =>
    rw [splitOnP_cons_eq_if_modifyHead] at inside
    split at inside
    · rcases mem_cons.1 inside with rfl | later
      · exact not_mem_nil
      · exact ih later
    · rename_i other
      cases pieces : rest.splitOnP (· == sep) with
      | nil => exact absurd pieces (splitOnP_ne_nil _ _)
      | cons head tail =>
        rw [pieces, modifyHead_cons] at inside
        rw [pieces] at ih
        rcases mem_cons.1 inside with rfl | later
        · rw [mem_cons, not_or]
          refine ⟨?_, ih mem_cons_self⟩
          rintro rfl
          exact other (beq_self_eq_true _)
        · exact ih (mem_cons_of_mem _ later)

/-- What is between separators is in the text. -/
theorem sublist_of_mem_splitOnP {sep : Char} {text piece : List Char}
    (inside : piece ∈ text.splitOnP (· == sep)) : piece.Sublist text := by
  induction text generalizing piece with
  | nil =>
    rw [splitOnP_nil, mem_singleton] at inside
    rw [inside]
  | cons first rest ih =>
    rw [splitOnP_cons_eq_if_modifyHead] at inside
    split at inside
    · rcases mem_cons.1 inside with rfl | later
      · exact nil_sublist _
      · exact (ih later).cons first
    · cases pieces : rest.splitOnP (· == sep) with
      | nil => exact absurd pieces (splitOnP_ne_nil _ _)
      | cons head tail =>
        rw [pieces, modifyHead_cons] at inside
        rw [pieces] at ih
        rcases mem_cons.1 inside with rfl | later
        · exact (ih mem_cons_self).cons_cons first
        · exact (ih (mem_cons_of_mem _ later)).cons first

/-- The suffix of a file name, with its dot. -/
def nameSuffix (name : List Char) : List Char :=
  let after := name.reverse.takeWhile (· ≠ '.')
  if after = [] ∨ name.length ≤ after.length + 1 then [] else '.' :: after.reverse

namespace PurePath

/-- The path that a text spells. -/
def parse (text : List Char) : PurePath where
  absolute := text.head? == some '/'
  steps := (text.splitOnP (· == '/')).filterMap stepOf

/-- `PurePath.name`. -/
def finalName (text : List Char) : List Char :=
  match (parse text).steps.getLast? with
  | some (.name name) => name
  | some .up => ['.', '.']
  | none => []

/-- The last step of a path is between slashes, if it has one. -/
theorem finalName_cases (text : List Char) :
    finalName text = [] ∨ finalName text ∈ text.splitOnP (· == '/') := by
  unfold finalName
  cases last : (parse text).steps.getLast? with
  | none => exact .inl rfl
  | some step =>
    refine .inr ?_
    obtain ⟨piece, listed, spelled⟩ := mem_filterMap.1 (mem_of_getLast? last)
    unfold stepOf at spelled
    split at spelled
    · cases spelled
    · split at spelled
      · rename_i dots
        cases spelled
        rwa [← dots]
      · cases spelled
        exact listed

/-- One path under another, unless it begins anew. -/
def join (base other : PurePath) : PurePath :=
  if other.absolute then other else { base with steps := base.steps ++ other.steps }

/-- A text that names one entry of a folder. -/
def IsName (text : List Char) : Prop :=
  text ≠ [] ∧ text ≠ ['.'] ∧ text ≠ ['.', '.'] ∧ '/' ∉ text

theorem parse_name {text : List Char} (name : IsName text) :
    parse text = { absolute := false, steps := [.name text] } := by
  obtain ⟨some, dot, dots, plain⟩ := name
  have single : text.splitOnP (· == '/') = [text] := by
    apply splitOnP_eq_singleton
    intro char inside
    rw [beq_eq_false_iff_ne]
    rintro rfl
    exact plain inside
  have relative : (text.head? == Option.some '/') = false := by
    rw [beq_eq_false_iff_ne]
    intro first
    exact plain (mem_of_head? first)
  have step : stepOf text = Option.some (.name text) := by
    unfold stepOf
    rw [if_neg (not_or.2 ⟨some, dot⟩), if_neg dots]
  unfold parse
  rw [single, relative, filterMap_cons, step]
  rfl

theorem join_name {base : PurePath} {text : List Char} (name : IsName text) :
    base.join (parse text) = { base with steps := base.steps ++ [.name text] } := by
  rw [parse_name name]
  rfl

end PurePath

end Files
