import Mathlib.Data.List.Infix

/-!
# SQL patterns

`LIKE` without an escape character: `%` stands for any text, `_` for any character, and
every other character for itself up to the case of ASCII letters.
-/

namespace Sql

/-- A pattern character against one character of the text. -/
def likeChar (pattern char : Char) : Bool :=
  pattern == '_' || pattern.toLower == char.toLower

/-- `text LIKE pattern`. -/
def like : List Char → List Char → Bool
  | [], text => text.isEmpty
  | '%' :: pattern, text => text.tails.any fun rest => like pattern rest
  | _ :: _, [] => false
  | wanted :: pattern, char :: text => likeChar wanted char && like pattern text

/-- `text LIKE prefix%` with the characters of the prefix escaped. -/
def startsWith (start text : List Char) : Bool :=
  start.length ≤ text.length &&
    (text.take start.length).map Char.toLower == start.map Char.toLower

theorem like_nil (text : List Char) : like [] text = true ↔ text = [] := by
  simp [like]

theorem like_percent (pattern text : List Char) :
    like ('%' :: pattern) text = true ↔ ∃ rest, rest <:+ text ∧ like pattern rest = true := by
  simp [like, List.any_eq_true, List.mem_tails]

theorem like_cons {wanted : Char} (plain : wanted ≠ '%') (pattern text : List Char) :
    like (wanted :: pattern) text = true ↔
      ∃ char rest, text = char :: rest ∧ likeChar wanted char = true ∧ like pattern rest = true := by
  cases text with
  | nil => simp [like]
  | cons char rest => simp [like]

/-- `pattern%` is what begins like the pattern. -/
theorem like_append_percent (pattern text : List Char) :
    like (pattern ++ ['%']) text = true ↔
      ∃ head rest, text = head ++ rest ∧ like pattern head = true := by
  induction pattern generalizing text with
  | nil =>
    simp only [List.nil_append, like_percent, like_nil]
    constructor
    · rintro _
      exact ⟨[], text, rfl, rfl⟩
    · rintro _
      exact ⟨[], List.nil_suffix, rfl⟩
  | cons wanted pattern ih =>
    by_cases wild : wanted = '%'
    · subst wild
      simp only [List.cons_append, like_percent, ih]
      constructor
      · rintro ⟨_, ⟨skipped, rfl⟩, head, rest, rfl, matched⟩
        exact ⟨skipped ++ head, rest, by simp, head, List.suffix_append _ _, matched⟩
      · rintro ⟨_, rest, rfl, head, ⟨skipped, rfl⟩, matched⟩
        exact ⟨head ++ rest, ⟨skipped, by simp⟩, head, rest, rfl, matched⟩
    · simp only [List.cons_append, like_cons wild, ih]
      constructor
      · rintro ⟨char, _, rfl, same, head, rest, rfl, matched⟩
        exact ⟨char :: head, rest, rfl, char, head, rfl, same, matched⟩
      · rintro ⟨_, rest, rfl, char, head, rfl, same, matched⟩
        exact ⟨char, head ++ rest, rfl, same, head, rest, rfl, matched⟩

/-- Every text is like itself. -/
theorem like_self (text : List Char) : like text text = true := by
  induction text with
  | nil => rfl
  | cons char text ih =>
    by_cases wild : char = '%'
    · subst wild
      exact (like_percent text _).2 ⟨text, List.suffix_cons _ _, ih⟩
    · exact (like_cons wild _ _).2 ⟨char, text, rfl, by simp [likeChar], ih⟩

end Sql
