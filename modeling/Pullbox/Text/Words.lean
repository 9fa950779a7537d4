import Mathlib.Algebra.GroupWithZero.Nat
import Mathlib.Data.List.TakeWhile
import Pullbox.Text.Characters

/-!
# Words, replacements and sizes

Text split at white space and joined again, all places of one text replaced by another, and
the bytes that text takes in UTF-8.
-/

namespace Text

open List

variable {char : Char} {word text : List Char} {several : List (List Char)} {drop : Char → Bool}

/-! ### Words -/

/-- The words of a text, the first of which has begun. -/
def wordsFrom (word : List Char) : List Char → List (List Char)
  | [] => if word = [] then [] else [word]
  | char :: rest =>
    if isSpace char then
      if word = [] then wordsFrom [] rest else word :: wordsFrom [] rest
    else
      wordsFrom (word ++ [char]) rest

/-- `split`. -/
def words (text : List Char) : List (List Char) :=
  wordsFrom [] text

/-- `join` with spaces. -/
def unwords : List (List Char) → List Char
  | [] => []
  | [word] => word
  | word :: next :: rest => word ++ ' ' :: unwords (next :: rest)

/-- White space collapsed to single spaces, and none around the text. -/
def collapse (text : List Char) : List Char :=
  unwords (words text)

theorem mem_wordsFrom_flatten :
    char ∈ (wordsFrom word text).flatten ↔ char ∈ word ∨ char ∈ text ∧ isSpace char = false := by
  induction text generalizing word with
  | nil =>
    unfold wordsFrom
    split
    · rename_i empty
      simp [empty]
    · simp
  | cons first rest ih =>
    unfold wordsFrom
    by_cases space : isSpace first = true
    · rw [if_pos space]
      have other : char ∈ first :: rest ∧ isSpace char = false ↔
          char ∈ rest ∧ isSpace char = false := by
        rw [mem_cons]
        constructor
        · rintro ⟨rfl | later, visible⟩
          · rw [space] at visible
            cases visible
          · exact ⟨later, visible⟩
        · rintro ⟨later, visible⟩
          exact ⟨.inr later, visible⟩
      split
      · rename_i empty
        rw [ih, other, empty]
      · rw [flatten_cons, mem_append, ih, other]
        simp
    · rw [if_neg space, ih, mem_append, mem_singleton, mem_cons, or_assoc]
      refine or_congr_right ?_
      constructor
      · rintro (rfl | ⟨later, visible⟩)
        · exact ⟨.inl rfl, by simpa using space⟩
        · exact ⟨.inr later, visible⟩
      · rintro ⟨rfl | later, visible⟩
        · exact .inl rfl
        · exact .inr ⟨later, visible⟩

theorem mem_unwords (inside : char ∈ unwords several) : char = ' ' ∨ char ∈ several.flatten := by
  induction several using unwords.induct with
  | case1 => cases inside
  | case2 word => exact .inr (by simpa [unwords] using inside)
  | case3 word next rest ih =>
    unfold unwords at inside
    rcases mem_append.1 inside with here | later
    · exact .inr (mem_append_left _ here)
    · rcases mem_cons.1 later with space | later
      · exact .inl space
      · exact (ih later).imp_right (mem_append_right word)

theorem mem_unwords_of_mem (inside : char ∈ several.flatten) : char ∈ unwords several := by
  induction several using unwords.induct with
  | case1 => cases inside
  | case2 word => simpa [unwords] using inside
  | case3 word next rest ih =>
    unfold unwords
    rcases mem_append.1 inside with here | later
    · exact mem_append_left _ here
    · exact mem_append_right _ (mem_cons_of_mem _ (ih later))

theorem mem_collapse (inside : char ∈ collapse text) :
    char = ' ' ∨ char ∈ text ∧ isSpace char = false := by
  refine (mem_unwords inside).imp_right fun here => ?_
  have there := mem_wordsFrom_flatten.1 here
  simpa using there

theorem mem_collapse_of_mem (inside : char ∈ text) (visible : isSpace char = false) :
    char ∈ collapse text :=
  mem_unwords_of_mem (mem_wordsFrom_flatten.2 (.inr ⟨inside, visible⟩))

/-- A text of words with single spaces between them, and no other white space. -/
def Spaced (text : List Char) : Prop :=
  ∃ several : List (List Char), (∀ word ∈ several, word ≠ [] ∧ ∀ char ∈ word, isSpace char = false) ∧
    text = unwords several

theorem wordsFrom_append {next : List Char} (visible : ∀ char ∈ next, isSpace char = false) :
    wordsFrom word (next ++ text) = wordsFrom (word ++ next) text := by
  induction next generalizing word with
  | nil => rw [append_nil, nil_append]
  | cons first rest ih =>
    have plain := visible first mem_cons_self
    rw [cons_append, wordsFrom, if_neg (by rw [plain]; exact Bool.false_ne_true),
      ih fun char inside => visible char (mem_cons_of_mem _ inside), append_assoc]
    rfl

/-- The words of words. -/
theorem words_unwords
    (proper : ∀ word ∈ several, word ≠ [] ∧ ∀ char ∈ word, isSpace char = false) :
    words (unwords several) = several := by
  induction several using unwords.induct with
  | case1 => rfl
  | case2 word =>
    obtain ⟨inhabited, visible⟩ := proper word mem_cons_self
    have whole : wordsFrom [] (word ++ []) = wordsFrom ([] ++ word) [] := wordsFrom_append visible
    rw [append_nil, nil_append] at whole
    unfold words unwords
    rw [whole, wordsFrom, if_neg inhabited]
  | case3 word next rest ih =>
    obtain ⟨inhabited, visible⟩ := proper word mem_cons_self
    have space : isSpace ' ' = true := by decide
    unfold words unwords
    rw [wordsFrom_append visible, nil_append, wordsFrom, if_pos space, if_neg inhabited]
    exact congrArg (word :: ·)
      (ih fun other member => proper other (mem_cons_of_mem _ member))

theorem Spaced.collapse_eq (spaced : Spaced text) : collapse text = text := by
  obtain ⟨several, proper, rfl⟩ := spaced
  unfold collapse
  rw [words_unwords proper]

theorem mem_wordsFrom_proper (visible : ∀ char ∈ word, isSpace char = false)
    {other : List Char} (member : other ∈ wordsFrom word text) :
    other ≠ [] ∧ ∀ char ∈ other, isSpace char = false := by
  induction text generalizing word with
  | nil =>
    unfold wordsFrom at member
    split at member
    · cases member
    · rename_i inhabited
      rw [mem_singleton.1 member]
      exact ⟨inhabited, visible⟩
  | cons first rest ih =>
    have none : ∀ char ∈ ([] : List Char), isSpace char = false := fun _ inside => nomatch inside
    unfold wordsFrom at member
    split at member
    · split at member
      · exact ih none member
      · rename_i inhabited
        rcases mem_cons.1 member with rfl | member
        · exact ⟨inhabited, visible⟩
        · exact ih none member
    · rename_i plain
      refine ih (fun char inside => ?_) member
      rcases mem_append.1 inside with earlier | last
      · exact visible char earlier
      · rw [mem_singleton.1 last]
        exact Bool.eq_false_iff.2 plain

theorem spaced_collapse : Spaced (collapse text) := by
  refine ⟨words text, fun word member => mem_wordsFrom_proper (fun char inside => ?_) member, rfl⟩
  cases inside

theorem spaced_nil : Spaced [] := by
  refine ⟨[], fun word member => ?_, rfl⟩
  cases member

theorem spaced_word (visible : ∀ char ∈ word, isSpace char = false) : Spaced word := by
  by_cases empty : word = []
  · rw [empty]
    exact spaced_nil
  · refine ⟨[word], fun other member => ?_, rfl⟩
    rw [mem_singleton.1 member]
    exact ⟨empty, visible⟩

/-- A word before a text of words. -/
theorem Spaced.cons_word (spaced : Spaced text) (inhabited : text ≠ []) (proper : word ≠ [])
    (visible : ∀ char ∈ word, isSpace char = false) : Spaced (word ++ ' ' :: text) := by
  obtain ⟨several, members, rfl⟩ := spaced
  cases several with
  | nil => exact absurd rfl inhabited
  | cons next rest =>
    refine ⟨word :: next :: rest, fun other member => ?_, rfl⟩
    rcases mem_cons.1 member with rfl | later
    · exact ⟨proper, visible⟩
    · exact members other later

theorem Spaced.cons (spaced : Spaced text) (visible : isSpace char = false) :
    Spaced (char :: text) := by
  obtain ⟨several, proper, rfl⟩ := spaced
  cases several with
  | nil => exact spaced_word fun other inside => by rwa [mem_singleton.1 inside]
  | cons first rest =>
    refine ⟨(char :: first) :: rest, fun word member => ?_, ?_⟩
    · rcases mem_cons.1 member with rfl | later
      · refine ⟨cons_ne_nil _ _, fun other inside => ?_⟩
        rcases mem_cons.1 inside with rfl | inside
        · exact visible
        · exact (proper first mem_cons_self).2 other inside
      · exact proper word (mem_cons_of_mem _ later)
    · cases rest with
      | nil => rfl
      | cons next rest => rfl

/-- What is cut from the end leaves words, unless it leaves a space. -/
theorem Spaced.of_prefix (spaced : Spaced text) {kept : List Char} (cut : kept <+: text)
    (last : kept.getLast? ≠ some ' ') : Spaced kept := by
  obtain ⟨several, proper, rfl⟩ := spaced
  induction several using unwords.induct generalizing kept with
  | case1 =>
    rw [prefix_nil.1 cut]
    exact spaced_nil
  | case2 word =>
    obtain ⟨_, visible⟩ := proper word mem_cons_self
    exact spaced_word fun char inside => visible char (cut.subset inside)
  | case3 word next rest ih =>
    obtain ⟨inhabited, visible⟩ := proper word mem_cons_self
    unfold unwords at cut
    rcases prefix_or_prefix_of_prefix cut (prefix_append word _) with short | long
    · exact spaced_word fun char inside => visible char (short.subset inside)
    · obtain ⟨tail, rfl⟩ := long
      rw [prefix_append_right_inj] at cut
      rcases prefix_cons_iff.1 cut with rfl | ⟨others, rfl, later⟩
      · rw [append_nil]
        exact spaced_word visible
      · have inside : others ≠ [] := by
          rintro rfl
          exact last (by simp)
        refine Spaced.cons_word ?_ inside inhabited visible
        refine ih (fun space => last ?_)
          (fun other member => proper other (mem_cons_of_mem _ member)) later
        rw [List.getLast?_append, List.getLast?_cons, space]
        rfl

/-! ### The end of a text -/

theorem rstripWhile_subset : rstripWhile drop text ⊆ text := by
  intro char inside
  have here := mem_reverse.1 inside
  exact mem_reverse.1 ((dropWhile_sublist drop).subset here)

/-- What is not dropped stays. -/
theorem mem_rstripWhile (inside : char ∈ text) (kept : drop char = false) :
    char ∈ rstripWhile drop text := by
  unfold rstripWhile
  rw [mem_reverse]
  have here := mem_reverse.2 inside
  rw [← takeWhile_append_dropWhile (p := drop) (l := text.reverse)] at here
  rcases mem_append.1 here with dropped | stays
  · have goes := mem_takeWhile_imp dropped
    rw [kept] at goes
    cases goes
  · exact stays

/-- Nothing that is dropped is left at the end. -/
theorem getLast?_rstripWhile (last : (rstripWhile drop text).getLast? = some char) :
    drop char = false := by
  unfold rstripWhile at last
  rw [List.getLast?_reverse] at last
  cases rest : text.reverse.dropWhile drop with
  | nil =>
    rw [rest] at last
    cases last
  | cons first others =>
    rw [rest] at last
    have same : first = char := Option.some.inj last
    have stays := List.head?_dropWhile_not drop text.reverse
    rw [rest] at stays
    simpa [same] using stays

theorem mem_strip (inside : char ∈ text) (visible : isSpace char = false) : char ∈ strip text := by
  apply mem_rstripWhile _ visible
  rw [← takeWhile_append_dropWhile (p := isSpace) (l := text)] at inside
  rcases mem_append.1 inside with dropped | stays
  · have space := mem_takeWhile_imp dropped
    rw [visible] at space
    cases space
  · exact stays

theorem strip_subset : strip text ⊆ text := by
  intro char inside
  exact (dropWhile_sublist isSpace).subset (rstripWhile_subset inside)

theorem rstripWhile_sublist : (rstripWhile drop text).Sublist text := by
  have kept := dropWhile_sublist drop (l := text.reverse)
  rw [← reverse_sublist] at kept
  rwa [reverse_reverse] at kept

theorem strip_sublist : (strip text).Sublist text :=
  rstripWhile_sublist.trans (dropWhile_sublist isSpace)

/-- White space around a text is not in its words. -/
theorem wordsFrom_spaces {spaces : List Char} (blank : ∀ char ∈ spaces, isSpace char = true) :
    wordsFrom word (text ++ spaces) = wordsFrom word text := by
  induction text generalizing word with
  | nil =>
    induction spaces generalizing word with
    | nil => rfl
    | cons first rest ih =>
      have after := @ih (fun char inside => blank char (mem_cons_of_mem _ inside)) []
      rw [nil_append] at after ⊢
      conv_lhs => rw [wordsFrom, if_pos (blank first mem_cons_self), after]
      by_cases empty : word = []
      · rw [if_pos empty, empty]
      · rw [if_neg empty, wordsFrom, wordsFrom, if_pos rfl, if_neg empty]
  | cons first rest ih =>
    rw [cons_append, wordsFrom, wordsFrom, ih, ih]

theorem words_dropWhile : words (text.dropWhile isSpace) = words text := by
  induction text with
  | nil => rfl
  | cons first rest ih =>
    rw [dropWhile_cons]
    split
    · rename_i space
      rw [ih]
      unfold words
      rw [wordsFrom, if_pos space, if_pos rfl]
    · rfl

theorem words_strip : words (strip text) = words text := by
  have blank : ∀ char ∈ ((text.dropWhile isSpace).reverse.takeWhile isSpace).reverse,
      isSpace char = true := fun char inside =>
    mem_takeWhile_imp (mem_reverse.1 inside)
  have whole : rstripWhile isSpace (text.dropWhile isSpace) ++
      ((text.dropWhile isSpace).reverse.takeWhile isSpace).reverse = text.dropWhile isSpace := by
    unfold rstripWhile
    rw [← reverse_append, takeWhile_append_dropWhile, reverse_reverse]
  have same := @wordsFrom_spaces [] (strip text) _ blank
  unfold strip at same
  rw [whole] at same
  exact same.symm.trans words_dropWhile

/-! ### Replacements -/

/-- `replace`, of a text that is not empty; so many characters are still those of a place that
was replaced. -/
def replaceFrom (old new : List Char) : Nat → List Char → List Char
  | _, [] => []
  | skipped + 1, _ :: rest => replaceFrom old new skipped rest
  | 0, char :: rest =>
    if old.isPrefixOf (char :: rest) then
      new ++ replaceFrom old new (old.length - 1) rest
    else
      char :: replaceFrom old new 0 rest

def replaceAll (old new text : List Char) : List Char :=
  replaceFrom old new 0 text

theorem replaceFrom_skip {old new : List Char} {skipped : Nat} :
    replaceFrom old new skipped text = replaceFrom old new 0 (text.drop skipped) := by
  induction text generalizing skipped with
  | nil =>
    rw [drop_nil]
    cases skipped with
    | zero => rfl
    | succ skipped => rfl
  | cons first rest ih =>
    cases skipped with
    | zero => rfl
    | succ skipped => exact ih

/-- The characters of a text with replacements are those of the text and, where a place is
replaced, those of the replacement. -/
theorem mem_replaceAll {old new : List Char} (some : old ≠ []) (other : char ∉ old) :
    char ∈ replaceAll old new text ↔ char ∈ text ∨ old <:+: text ∧ char ∈ new := by
  unfold replaceAll
  generalize size : text.length = count
  induction count using Nat.strong_induction_on generalizing text with
  | h count ih =>
    cases text with
    | nil =>
      simp only [replaceFrom, not_mem_nil, false_or, false_iff, not_and]
      intro inside
      exact absurd (infix_nil.1 inside) some
    | cons first rest =>
      unfold replaceFrom
      split
      · rename_i begins
        obtain ⟨after, split⟩ := isPrefixOf_iff_prefix.1 begins
        have left : rest.drop (old.length - 1) = after := by
          cases old with
          | nil => exact absurd rfl some
          | cons head tail =>
            have same := (List.cons.inj split).2
            rw [← same]
            exact drop_left
        have smaller : after.length < count := by
          have lengths := congrArg List.length split
          have positive := length_pos_iff.2 some
          rw [length_append] at lengths
          omega
        rw [mem_append, replaceFrom_skip, left, ih _ smaller rfl, ← split,
          mem_append]
        have here : old <:+: old ++ after := (prefix_append old after).isInfix
        tauto
      · rename_i differs
        have notPrefix : ¬ old <+: first :: rest := fun begins =>
          differs (List.isPrefixOf_iff_prefix.2 begins)
        have smaller : rest.length < count := by
          rw [← size, length_cons]
          omega
        rw [mem_cons, ih _ smaller rfl, mem_cons, infix_cons_iff]
        tauto

/-! ### Bytes -/

/-- The length of the text in UTF-8. -/
def utf8Size (text : List Char) : Nat :=
  (text.map Char.utf8Size).sum

/-! ### Tokens -/

universe u

/-- A character of a text, or a token that it has in place of some. -/
inductive Piece (Token : Type u) where
  | literal (char : Char)
  | token (token : Token)

/-- Where a run of characters ends in a text with more behind it. -/
theorem span_append (p : Char → Bool) (text after : List Char) :
    (text ++ after).takeWhile p = text ++ after.takeWhile p ∧
        (text ++ after).dropWhile p = after.dropWhile p ∨
      ∃ first rest, (text ++ after).dropWhile p = first :: (rest ++ after) ∧
        text = (text ++ after).takeWhile p ++ first :: rest := by
  induction text with
  | nil => exact .inl ⟨rfl, rfl⟩
  | cons char text ih =>
    rw [cons_append, takeWhile_cons, dropWhile_cons]
    split
    · rcases ih with ⟨taken, dropped⟩ | ⟨first, rest, dropped, whole⟩
      · exact .inl ⟨by rw [taken, cons_append], dropped⟩
      · exact .inr ⟨first, rest, dropped, by rw [cons_append, ← whole]⟩
    · exact .inr ⟨char, text, rfl, rfl⟩

/-- The pieces of a text by what a pattern matches, with its length, where a text begins; so many
characters are still those of a token. -/
def scanFrom {Token : Type u} (matchAt : List Char → Option (Token × Nat)) :
    Nat → List Char → List (Piece Token)
  | _, [] => []
  | skipped + 1, _ :: rest => scanFrom matchAt skipped rest
  | 0, char :: rest =>
    match matchAt (char :: rest) with
    | some (token, size) => .token token :: scanFrom matchAt (size - 1) rest
    | none => .literal char :: scanFrom matchAt 0 rest

/-- What `finditer` finds, and what is between. -/
def scan {Token : Type u} (matchAt : List Char → Option (Token × Nat)) (text : List Char) :
    List (Piece Token) :=
  scanFrom matchAt 0 text

def tokens {Token : Type u} (pieces : List (Piece Token)) : List Token :=
  pieces.filterMap fun
    | .literal _ => none
    | .token token => some token

def literals {Token : Type u} (pieces : List (Piece Token)) : List Char :=
  pieces.filterMap fun
    | .literal char => some char
    | .token _ => none

/-- What `sub` makes of the pieces. -/
def substitute {Token : Type u} (replace : Token → List Char) (pieces : List (Piece Token)) :
    List Char :=
  pieces.flatMap fun
    | .literal char => [char]
    | .token token => replace token

theorem literal_mem_scanFrom {Token : Type u} {matchAt : List Char → Option (Token × Nat)}
    {skipped : Nat} (inside : .literal char ∈ scanFrom matchAt skipped text) : char ∈ text := by
  induction text generalizing skipped with
  | nil => simp [scanFrom] at inside
  | cons first rest ih =>
    cases skipped with
    | succ skipped => exact mem_cons_of_mem _ (ih inside)
    | zero =>
      unfold scanFrom at inside
      split at inside
      · rcases mem_cons.1 inside with same | later
        · cases same
        · exact mem_cons_of_mem _ (ih later)
      · rcases mem_cons.1 inside with same | later
        · cases same
          exact mem_cons_self
        · exact mem_cons_of_mem _ (ih later)

theorem mem_substitute {Token : Type u} {replace : Token → List Char}
    {pieces : List (Piece Token)} :
    char ∈ substitute replace pieces ↔
      .literal char ∈ pieces ∨ ∃ token, .token token ∈ pieces ∧ char ∈ replace token := by
  unfold substitute
  rw [mem_flatMap]
  constructor
  · rintro ⟨piece, inside, here⟩
    cases piece with
    | literal other =>
      rw [mem_singleton.1 here]
      exact .inl inside
    | token token => exact .inr ⟨token, inside, here⟩
  · rintro (inside | ⟨token, inside, here⟩)
    · exact ⟨.literal char, inside, mem_singleton.2 rfl⟩
    · exact ⟨.token token, inside, here⟩

end Text
