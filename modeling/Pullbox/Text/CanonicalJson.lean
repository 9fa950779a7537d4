import Pullbox.Text.Decimal
import Pullbox.Text.Json

/-!
# Canonical JSON texts

What `json.dumps` writes with sorted keys and without spaces. A dictionary is given by its entries
in the order of its keys, so equal values have equal texts; here is the converse.
-/

namespace Text

open List Nat

/-- `float.__repr__`: different floats have different texts, none of which is that of another
scalar or holds a character that JSON uses around values. -/
structure FloatRepr where
  text : Rat → List Char
  injective : ∀ {left right}, text left = text right → left = right
  plain : ∀ value, ∀ char ∈ text value, char ∉ [',', ']', '}', '[', '{', '"', ':']
  inhabited : ∀ value, text value ≠ []
  proper : ∀ value, text value ∉ ["null".toList, "true".toList, "false".toList]
  marked : ∀ value, ∃ char ∈ text value, char.isDigit = false ∧ char ≠ '-'

/-- A number as `int.__repr__` writes it. -/
def integerText : Int → List Char
  | .ofNat value => toDigits 10 value
  | .negSucc value => '-' :: toDigits 10 (value + 1)

section Writer

variable (floats : FloatRepr)

mutual

/-- `json.dumps` with `sort_keys` and `separators=(",", ":")`. -/
def canonical : Json → List Char
  | .null => "null".toList
  | .boolean value => if value then "true".toList else "false".toList
  | .integer value => integerText value
  | .real value => floats.text value
  | .text value => quoted value.toList
  | .array items => '[' :: canonicalItems items
  | .object entries => '{' :: canonicalEntries entries

/-- The first item, and what follows it. -/
def canonicalItems : List Json → List Char
  | [] => [']']
  | item :: items => canonical item ++ canonicalMore items

def canonicalMore : List Json → List Char
  | [] => [']']
  | item :: items => ',' :: (canonical item ++ canonicalMore items)

def canonicalEntries : List (String × Json) → List Char
  | [] => ['}']
  | (key, value) :: entries =>
    quoted key.toList ++ ':' :: (canonical value ++ canonicalRest entries)

def canonicalRest : List (String × Json) → List Char
  | [] => ['}']
  | (key, value) :: entries =>
    ',' :: (quoted key.toList ++ ':' :: (canonical value ++ canonicalRest entries))

end

end Writer

/-! ### Scalars -/

variable {floats : FloatRepr} {char : Char} {text left right : List Char} {value : Json}
  {first second : List Char}

/-- The characters that JSON puts around values. -/
def structural : List Char :=
  [',', ']', '}', '[', '{', '"', ':']

/-- The text of a value that is neither a text nor a container. -/
def scalarText (floats : FloatRepr) : Json → Option (List Char)
  | .null => some "null".toList
  | .boolean value => some (if value then "true".toList else "false".toList)
  | .integer value => some (integerText value)
  | .real value => some (floats.text value)
  | _ => none

theorem mem_integerText {value : Int} (inside : char ∈ integerText value) :
    char.isDigit = true ∨ char = '-' := by
  cases value with
  | ofNat value => exact .inl (isDigit_of_mem_toDigits (by decide) (by decide) inside)
  | negSucc value =>
    rcases mem_cons.1 inside with rfl | digit
    · exact .inr rfl
    · exact .inl (isDigit_of_mem_toDigits (by decide) (by decide) digit)

theorem toDigits_ne_minus {first second : Nat} :
    toDigits 10 first ≠ '-' :: toDigits 10 second := by
  intro same
  have digit := isDigit_of_mem_toDigits (b := 10) (n := first) (by decide) (by decide)
    (same ▸ mem_cons_self)
  revert digit
  decide

theorem toDigits_injective {first second : Nat}
    (same : toDigits 10 first = toDigits 10 second) : first = second := by
  have values := congrArg decimalValue same
  rwa [decimalValue_toDigits, decimalValue_toDigits] at values

theorem integerText_injective {first second : Int}
    (same : integerText first = integerText second) : first = second := by
  cases first with
  | ofNat first =>
    cases second with
    | ofNat second => exact congrArg Int.ofNat (toDigits_injective same)
    | negSucc second => exact absurd same toDigits_ne_minus
  | negSucc first =>
    cases second with
    | ofNat second => exact absurd same.symm toDigits_ne_minus
    | negSucc second =>
      have values := toDigits_injective (List.cons.inj same).2
      exact congrArg Int.negSucc (Nat.succ.inj values)

theorem structural_marked : ∀ char ∈ structural, char.isDigit = false ∧ char ≠ '-' :=
  forall_mem_of_all (by decide)

/-- A scalar is a run of characters that JSON does not put around values. -/
theorem scalarText_plain (scalar : scalarText floats value = some text) :
    text ≠ [] ∧ ∀ char ∈ text, char ∉ structural := by
  cases value with
  | null =>
    obtain rfl := Option.some.inj scalar
    exact ⟨by decide, forall_mem_of_all (by decide)⟩
  | boolean value =>
    obtain rfl := Option.some.inj scalar
    cases value <;> exact ⟨by decide, forall_mem_of_all (by decide)⟩
  | integer value =>
    obtain rfl := Option.some.inj scalar
    constructor
    · cases value with
      | ofNat value => exact toDigits_ne_nil
      | negSucc value => exact cons_ne_nil _ _
    · intro char inside surrounds
      obtain ⟨noDigit, noMinus⟩ := structural_marked char surrounds
      rcases mem_integerText inside with digit | minus
      · rw [noDigit] at digit
        cases digit
      · exact noMinus minus
  | real value =>
    obtain rfl := Option.some.inj scalar
    exact ⟨floats.inhabited value, floats.plain value⟩
  | text _ | array _ | object _ => cases scalar

/-- The text of a number that is no float is none of the three words. -/
theorem integerText_ne_word {value : Int} {word : List Char}
    (letter : ∃ char ∈ word, char.isDigit = false ∧ char ≠ '-') : integerText value ≠ word := by
  rintro rfl
  obtain ⟨char, inside, digit, minus⟩ := letter
  rcases mem_integerText inside with other | other
  · rw [digit] at other
    cases other
  · exact minus other

/-- Scalars with the same text are the same. -/
theorem scalarText_injective {other : Json} (first : scalarText floats value = some text)
    (second : scalarText floats other = some text) : value = other := by
  have null_marked : ∃ char ∈ "null".toList, char.isDigit = false ∧ char ≠ '-' :=
    ⟨'n', by decide, by decide, by decide⟩
  have bool_marked (flag : Bool) : ∃ char ∈ (if flag then "true".toList else "false".toList),
      char.isDigit = false ∧ char ≠ '-' := by
    cases flag <;> exact ⟨'e', by decide, by decide, by decide⟩
  rw [← second] at first
  cases value with
  | null =>
    cases other with
    | null => rfl
    | boolean flag => cases flag <;> exact absurd (Option.some.inj first) (by decide)
    | integer number =>
      exact absurd (Option.some.inj first).symm (integerText_ne_word null_marked)
    | real number =>
      exact absurd (by rw [← Option.some.inj first]; decide) (floats.proper number)
    | text _ | array _ | object _ => cases second
  | boolean flag =>
    cases other with
    | null => cases flag <;> exact absurd (Option.some.inj first) (by decide)
    | boolean other =>
      cases flag <;> cases other <;> first
        | rfl
        | exact absurd (Option.some.inj first) (by decide)
    | integer number =>
      exact absurd (Option.some.inj first).symm (integerText_ne_word (bool_marked flag))
    | real number =>
      refine absurd ?_ (floats.proper number)
      rw [← Option.some.inj first]
      cases flag <;> decide
    | text _ | array _ | object _ => cases second
  | integer number =>
    cases other with
    | null => exact absurd (Option.some.inj first) (integerText_ne_word null_marked)
    | boolean flag => exact absurd (Option.some.inj first) (integerText_ne_word (bool_marked flag))
    | integer other => exact congrArg Json.integer (integerText_injective (Option.some.inj first))
    | real other =>
      exact absurd (Option.some.inj first) (integerText_ne_word (floats.marked other))
    | text _ | array _ | object _ => cases second
  | real number =>
    cases other with
    | null => exact absurd (by rw [Option.some.inj first]; decide) (floats.proper number)
    | boolean flag =>
      refine absurd ?_ (floats.proper number)
      rw [Option.some.inj first]
      cases flag <;> decide
    | integer other =>
      exact absurd (Option.some.inj first).symm (integerText_ne_word (floats.marked number))
    | real other => exact congrArg Json.real (floats.injective (Option.some.inj first))
    | text _ | array _ | object _ => cases second
  | text _ | array _ | object _ => rw [second] at first; cases first

/-! ### Values -/

/-- A value can end here. -/
def Closed (rest : List Char) : Prop :=
  ∀ char, rest.head? = some char → char ∈ structural

/-- Texts that are closed by a quote are read back with what follows them. -/
theorem quoted_prefix
    (same : quoted first ++ left = quoted second ++ right) : first = second ∧ left = right := by
  have inner : first.flatMap escape ++ '"' :: left = second.flatMap escape ++ '"' :: right := by
    simpa [quoted] using same
  have one := readText_quoted first (lt_succ_of_le (le_add_right _ second.length)) left
  have two := readText_quoted second (lt_succ_of_le (le_add_left _ first.length)) right
  rw [inner, two] at one
  obtain ⟨texts, rests⟩ := Prod.mk.inj (Option.some.inj one)
  exact ⟨texts.symm, rests.symm⟩

/-- A run of plain characters ends where the value can end. -/
theorem plain_prefix (plain : ∀ char ∈ first, char ∉ structural)
    (other : ∀ char ∈ second, char ∉ structural) (closed : Closed left) (ended : Closed right)
    (same : first ++ left = second ++ right) : first = second ∧ left = right := by
  have run {run rest : List Char} (plain : ∀ char ∈ run, char ∉ structural) (closed : Closed rest) :
      (run ++ rest).takeWhile (· ∉ structural) = run := by
    rw [takeWhile_append_of_pos (by simpa using plain)]
    cases rest with
    | nil => simp
    | cons char rest =>
      rw [takeWhile_cons_of_neg (by simpa using closed char rfl), append_nil]
  have runs : first = second := by
    rw [← run plain closed, same, run other ended]
  refine ⟨runs, ?_⟩
  rw [runs] at same
  exact append_cancel_left same

/-- The character that a text or a container opens with. -/
def opening : Json → Option Char
  | .text _ => some '"'
  | .array _ => some '['
  | .object _ => some '{'
  | _ => none

/-- A value is a scalar, or it opens with its own character. -/
theorem canonical_cases (floats : FloatRepr) (value : Json) :
    (opening value = none ∧ scalarText floats value = some (canonical floats value)) ∨
      ∃ char rest, opening value = some char ∧ canonical floats value = char :: rest ∧
        char ∈ structural := by
  cases value with
  | null | boolean _ | integer _ | real _ => exact .inl ⟨rfl, rfl⟩
  | text text => exact .inr ⟨_, _, rfl, rfl, by decide⟩
  | array items => exact .inr ⟨_, _, rfl, rfl, by decide⟩
  | object entries => exact .inr ⟨_, _, rfl, rfl, by decide⟩

/-- No value is empty or begins with what ends a container. -/
theorem canonical_head (floats : FloatRepr) (value : Json) :
    ∃ char rest, canonical floats value = char :: rest ∧ char ∉ [']', '}'] := by
  rcases canonical_cases floats value with ⟨-, scalar⟩ | ⟨char, rest, opens, same, -⟩
  · obtain ⟨inhabited, plain⟩ := scalarText_plain scalar
    obtain ⟨char, rest, same⟩ := exists_cons_of_ne_nil inhabited
    refine ⟨char, rest, same, fun ends => plain char (same ▸ mem_cons_self) ?_⟩
    rcases mem_cons.1 ends with rfl | ends
    · decide
    · rw [mem_singleton.1 ends]
      decide
  · refine ⟨char, rest, same, ?_⟩
    cases value with
    | null | boolean _ | integer _ | real _ => cases opens
    | text _ | array _ | object _ =>
      obtain rfl := Option.some.inj opens
      decide

/-- Values whose texts begin alike open alike. -/
theorem opening_eq {first second : Json}
    (same : canonical floats first ++ left = canonical floats second ++ right) :
    opening first = opening second := by
  rcases canonical_cases floats first with ⟨none, scalar⟩ | ⟨char, rest, opens, here, inside⟩ <;>
    rcases canonical_cases floats second with ⟨none', scalar'⟩ | ⟨char', rest', opens', there, inside'⟩
  · rw [none, none']
  · obtain ⟨inhabited, plain⟩ := scalarText_plain scalar
    obtain ⟨head, tail, front⟩ := exists_cons_of_ne_nil inhabited
    rw [front, there] at same
    have heads : head = char' := (List.cons.inj same).1
    exact absurd inside' (plain char' (front ▸ heads ▸ mem_cons_self))
  · obtain ⟨inhabited, plain⟩ := scalarText_plain scalar'
    obtain ⟨head, tail, front⟩ := exists_cons_of_ne_nil inhabited
    rw [front, here] at same
    have heads : head = char := (List.cons.inj same).1.symm
    exact absurd inside (plain char (front ▸ heads ▸ mem_cons_self))
  · rw [here, there] at same
    rw [opens, opens', (List.cons.inj same).1]

/-- Scalars that are followed by the end of a value. -/
theorem scalar_prefix {first second : Json} (scalar : opening first = none)
    (closed : Closed left) (ended : Closed right)
    (same : canonical floats first ++ left = canonical floats second ++ right) :
    first = second ∧ left = right := by
  have other : opening second = none := (opening_eq same).symm.trans scalar
  rcases canonical_cases floats first with ⟨-, here⟩ | ⟨_, _, opens, -⟩
  · rcases canonical_cases floats second with ⟨-, there⟩ | ⟨_, _, opens, -⟩
    · obtain ⟨texts, rests⟩ := plain_prefix (scalarText_plain here).2 (scalarText_plain there).2
        closed ended same
      exact ⟨scalarText_injective here (texts ▸ there), rests⟩
    · rw [other] at opens
      cases opens
  · rw [scalar] at opens
    cases opens

theorem closed_more (items : List Json) : Closed (canonicalMore floats items ++ left) := by
  intro char head
  cases items <;>
    · obtain rfl := Option.some.inj head
      decide

theorem closed_rest (entries : List (String × Json)) :
    Closed (canonicalRest floats entries ++ left) := by
  intro char head
  cases entries <;>
    · obtain rfl := Option.some.inj head
      decide

mutual

/-- A value and what follows it are determined by their text. -/
theorem canonical_start : ∀ (first second : Json) {left right : List Char}, Closed left →
    Closed right → canonical floats first ++ left = canonical floats second ++ right →
    first = second ∧ left = right
  | .null, _, _, _, closed, ended, same => scalar_prefix rfl closed ended same
  | .boolean _, _, _, _, closed, ended, same => scalar_prefix rfl closed ended same
  | .integer _, _, _, _, closed, ended, same => scalar_prefix rfl closed ended same
  | .real _, _, _, _, closed, ended, same => scalar_prefix rfl closed ended same
  | .text first, second, left, right, closed, ended, same => by
      have opens := opening_eq same
      cases second with
      | text second =>
        obtain ⟨texts, rests⟩ := quoted_prefix same
        exact ⟨congrArg Json.text (String.ext texts), rests⟩
      | null | boolean _ | integer _ | real _ | array _ | object _ =>
        simp [opening] at opens
  | .array first, second, left, right, closed, ended, same => by
      have opens := opening_eq same
      cases second with
      | array second =>
        obtain ⟨items, rests⟩ := canonicalItems_prefix first second (List.cons.inj same).2
        exact ⟨congrArg Json.array items, rests⟩
      | null | boolean _ | integer _ | real _ | text _ | object _ =>
        simp [opening] at opens
  | .object first, second, left, right, closed, ended, same => by
      have opens := opening_eq same
      cases second with
      | object second =>
        obtain ⟨entries, rests⟩ := canonicalEntries_prefix first second (List.cons.inj same).2
        exact ⟨congrArg Json.object entries, rests⟩
      | null | boolean _ | integer _ | real _ | text _ | array _ =>
        simp [opening] at opens

theorem canonicalItems_prefix : ∀ (first second : List Json) {left right : List Char},
    canonicalItems floats first ++ left = canonicalItems floats second ++ right →
    first = second ∧ left = right
  | [], [], _, _, same => ⟨rfl, (List.cons.inj same).2⟩
  | [], item :: items, _, _, same => by
      obtain ⟨char, rest, front, other⟩ := canonical_head floats item
      rw [canonicalItems, canonicalItems, front] at same
      exact absurd (mem_cons.2 (.inl (List.cons.inj same).1.symm)) other
  | item :: items, [], _, _, same => by
      obtain ⟨char, rest, front, other⟩ := canonical_head floats item
      rw [canonicalItems, canonicalItems, front] at same
      exact absurd (mem_cons.2 (.inl (List.cons.inj same).1)) other
  | first :: rest, second :: others, _, _, same => by
      rw [canonicalItems, canonicalItems, append_assoc, append_assoc] at same
      obtain ⟨rfl, more⟩ := canonical_start first second (closed_more rest) (closed_more others) same
      obtain ⟨rfl, rests⟩ := canonicalMore_prefix rest others more
      exact ⟨rfl, rests⟩

theorem canonicalMore_prefix : ∀ (first second : List Json) {left right : List Char},
    canonicalMore floats first ++ left = canonicalMore floats second ++ right →
    first = second ∧ left = right
  | [], [], _, _, same => ⟨rfl, (List.cons.inj same).2⟩
  | [], _ :: _, _, _, same => absurd (List.cons.inj same).1 (by decide)
  | _ :: _, [], _, _, same => absurd (List.cons.inj same).1 (by decide)
  | first :: rest, second :: others, _, _, same => by
      rw [canonicalMore, canonicalMore, cons_append, cons_append, append_assoc,
        append_assoc] at same
      obtain ⟨rfl, more⟩ := canonical_start first second (closed_more rest) (closed_more others)
        (List.cons.inj same).2
      obtain ⟨rfl, rests⟩ := canonicalMore_prefix rest others more
      exact ⟨rfl, rests⟩

theorem canonicalEntries_prefix : ∀ (first second : List (String × Json)) {left right : List Char},
    canonicalEntries floats first ++ left = canonicalEntries floats second ++ right →
    first = second ∧ left = right
  | [], [], _, _, same => ⟨rfl, (List.cons.inj same).2⟩
  | [], _ :: _, _, _, same => absurd (List.cons.inj same).1 (by decide)
  | _ :: _, [], _, _, same => absurd (List.cons.inj same).1 (by decide)
  | (key, first) :: rest, (other, second) :: others, _, _, same => by
      rw [canonicalEntries, canonicalEntries, append_assoc, append_assoc] at same
      obtain ⟨keys, member⟩ := quoted_prefix same
      rw [cons_append, cons_append, append_assoc, append_assoc] at member
      have values := (List.cons.inj member).2
      obtain ⟨rfl, more⟩ := canonical_start first second (closed_rest rest) (closed_rest others)
        values
      obtain ⟨rfl, rests⟩ := canonicalRest_prefix rest others more
      exact ⟨by rw [String.ext keys], rests⟩

theorem canonicalRest_prefix : ∀ (first second : List (String × Json)) {left right : List Char},
    canonicalRest floats first ++ left = canonicalRest floats second ++ right →
    first = second ∧ left = right
  | [], [], _, _, same => ⟨rfl, (List.cons.inj same).2⟩
  | [], _ :: _, _, _, same => absurd (List.cons.inj same).1 (by decide)
  | _ :: _, [], _, _, same => absurd (List.cons.inj same).1 (by decide)
  | (key, first) :: rest, (other, second) :: others, _, _, same => by
      rw [canonicalRest, canonicalRest, cons_append, cons_append, append_assoc,
        append_assoc] at same
      obtain ⟨keys, member⟩ := quoted_prefix (List.cons.inj same).2
      rw [cons_append, cons_append, append_assoc, append_assoc] at member
      have values := (List.cons.inj member).2
      obtain ⟨rfl, more⟩ := canonical_start first second (closed_rest rest) (closed_rest others)
        values
      obtain ⟨rfl, rests⟩ := canonicalRest_prefix rest others more
      exact ⟨by rw [String.ext keys], rests⟩

end

/-- Values with the same text are the same. -/
theorem canonical_injective {first second : Json}
    (same : canonical floats first = canonical floats second) : first = second := by
  have closed : Closed [] := fun char head => nomatch head
  exact (canonical_start first second closed closed (congrArg (· ++ []) same)).1

/-! ### Floats as fractions -/

theorem cut_unique {separator : Char} (absent : separator ∉ first)
    (other : separator ∉ second)
    (same : first ++ separator :: left = second ++ separator :: right) :
    first = second ∧ left = right := by
  have run {run rest : List Char} (absent : separator ∉ run) :
      (run ++ separator :: rest).takeWhile (· ≠ separator) = run := by
    rw [takeWhile_append_of_pos]
    · simp
    · intro char inside
      simp only [decide_eq_true_eq]
      rintro rfl
      exact absent inside
  have runs : first = second := by
    rw [← takeWhile_of_not_mem absent, same, takeWhile_of_not_mem other]
  rw [runs] at same
  exact ⟨runs, (List.cons.inj (append_cancel_left same)).2⟩

theorem slash_not_mem_integerText {value : Int} : '/' ∉ integerText value := fun inside => by
  rcases mem_integerText inside with digit | minus
  · revert digit
    decide
  · revert minus
    decide

/-- Floats that are written as fractions behind a point. -/
def FloatRepr.fraction : FloatRepr where
  text value := '.' :: (integerText value.num ++ '/' :: integerText value.den)
  injective same := by
    obtain ⟨above, below⟩ :=
      cut_unique slash_not_mem_integerText slash_not_mem_integerText (List.cons.inj same).2
    exact Rat.ext (integerText_injective above) (Int.ofNat.inj (integerText_injective below))
  plain value char inside surrounds := by
    obtain ⟨digit, minus⟩ := structural_marked char surrounds
    rcases mem_cons.1 inside with rfl | inside
    · revert surrounds
      decide
    · rcases mem_append.1 inside with above | inside
      · rcases mem_integerText above with other | other
        · rw [digit] at other
          cases other
        · exact minus other
      · rcases mem_cons.1 inside with rfl | below
        · revert surrounds
          decide
        · rcases mem_integerText below with other | other
          · rw [digit] at other
            cases other
          · exact minus other
  inhabited _ := cons_ne_nil _ _
  proper value inside := by
    have heads : some '.' ∈ ["null".toList, "true".toList, "false".toList].map List.head? :=
      mem_map_of_mem (f := List.head?) inside
    revert heads
    decide
  marked _ := ⟨'.', mem_cons_self, by decide, by decide⟩

end Text
