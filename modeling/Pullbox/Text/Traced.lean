import Mathlib.Data.List.Infix
import Pullbox.Text.Words

/-!
# Where the characters of a text come from

A text made from a template by replacing tokens, one after another, with the origin of each of
its characters: a position of the template, or a value. Sequential replacement is compared with
a single pass over the template; the two agree where each token stands only where it stands in
the template.
-/

namespace Text

open List

/-- A character, and where it stands in the template unless it comes from a value. -/
structure Traced where
  char : Char
  origin : Option Nat

/-- The text without its origins. -/
def erase (text : List Traced) : List Char :=
  text.map Traced.char

/-- A template from a position on. -/
def traceFrom (position : Nat) : List Char → List Traced
  | [] => []
  | char :: rest => ⟨char, some position⟩ :: traceFrom (position + 1) rest

def trace (template : List Char) : List Traced :=
  traceFrom 0 template

/-- The text of a value. -/
def valued (value : List Char) : List Traced :=
  value.map fun char => ⟨char, none⟩

variable {old new template rest value : List Char} {text place : List Traced} {position : Nat}
  {first : Traced} {skipped : Nat}


@[simp] theorem erase_cons : erase (first :: text) = first.char :: erase text := rfl

@[simp] theorem erase_append {other : List Traced} :
    erase (text ++ other) = erase text ++ erase other :=
  map_append

@[simp] theorem erase_traceFrom : erase (traceFrom position template) = template := by
  induction template generalizing position with
  | nil => rfl
  | cons first rest ih => exact congrArg (first :: ·) ih

@[simp] theorem erase_trace : erase (trace template) = template := erase_traceFrom

@[simp] theorem erase_valued : erase (valued value) = value := by
  unfold erase valued
  rw [map_map]
  exact map_id value

theorem length_erase : (erase text).length = text.length :=
  length_map ..

theorem traceFrom_append :
    traceFrom position (template ++ rest) =
      traceFrom position template ++ traceFrom (position + template.length) rest := by
  induction template generalizing position with
  | nil => rfl
  | cons first more ih =>
    have shift : position + (first :: more).length = position + 1 + more.length := by
      rw [length_cons]
      omega
    rw [shift]
    exact congrArg (⟨first, some position⟩ :: ·) ih

theorem origin_traceFrom {before : List Traced} {after : List Traced}
    (split : traceFrom position template = before ++ first :: after) :
    first.origin = some (position + before.length) := by
  induction before generalizing position template with
  | nil =>
    cases template with
    | nil => cases split
    | cons char rest =>
      obtain ⟨same, _⟩ := List.cons.inj split
      rw [← same]
      rfl
  | cons head before ih =>
    cases template with
    | nil => cases split
    | cons char rest =>
      obtain ⟨_, later⟩ := List.cons.inj split
      rw [ih later, length_cons]
      exact congrArg some (by omega)

/-- A place of the template stands where its first character says. -/
theorem prefix_of_place (inside : first :: place <:+: trace template)
    (here : first.origin = some position) :
    erase (first :: place) <+: template.drop position := by
  obtain ⟨before, after, whole⟩ := inside
  rw [append_assoc] at whole
  have origin := origin_traceFrom whole.symm
  rw [here] at origin
  have size : position = before.length := by
    have same := Option.some.inj origin
    omega
  have text := congrArg erase whole
  rw [erase_trace, erase_append] at text
  rw [← text, size, ← length_erase, drop_left]
  exact ⟨erase after, by rw [erase_append]⟩

/-- Nothing that begins in a value is a place of the template. -/
theorem origin_of_place (inside : first :: place <:+: trace template) :
    first.origin ≠ none := by
  obtain ⟨before, after, whole⟩ := inside
  rw [append_assoc] at whole
  rw [origin_traceFrom whole.symm]
  exact Option.some_ne_none _

theorem suffix_append_suffix {tail text other : List Traced} (ends : tail <:+ text) :
    tail ++ other <:+ text ++ other := by
  obtain ⟨before, rfl⟩ := ends
  exact ⟨before, (append_assoc ..).symm⟩

/-! ### Replacing, one text after another -/

/-- `replaceFrom`, with origins. -/
def replaceTracedFrom (old new : List Char) : Nat → List Traced → List Traced
  | _, [] => []
  | skipped + 1, _ :: rest => replaceTracedFrom old new skipped rest
  | 0, first :: rest =>
    if old.isPrefixOf (erase (first :: rest)) then
      valued new ++ replaceTracedFrom old new (old.length - 1) rest
    else
      first :: replaceTracedFrom old new 0 rest

def replaceTraced (old new : List Char) (text : List Traced) : List Traced :=
  replaceTracedFrom old new 0 text

/-- The places that a replacement replaces. -/
def placesFrom (old : List Char) : Nat → List Traced → List (List Traced)
  | _, [] => []
  | skipped + 1, _ :: rest => placesFrom old skipped rest
  | 0, first :: rest =>
    if old.isPrefixOf (erase (first :: rest)) then
      (first :: rest).take old.length :: placesFrom old (old.length - 1) rest
    else
      placesFrom old 0 rest

def places (old : List Char) (text : List Traced) : List (List Traced) :=
  placesFrom old 0 text

/-- What is replaced, and by what, in turn. -/
abbrev Substitutions :=
  List (List Char × List Char)

def replaceEach (substitutions : Substitutions) (text : List Traced) : List Traced :=
  substitutions.foldl (fun text next => replaceTraced next.1 next.2 text) text

/-- The places that each of the replacements replaces in turn. -/
def eachPlaces : Substitutions → List Traced → List (List Traced)
  | [], _ => []
  | next :: later, text =>
    places next.1 text ++ eachPlaces later (replaceTraced next.1 next.2 text)

theorem erase_replaceTracedFrom :
    erase (replaceTracedFrom old new skipped text) = replaceFrom old new skipped (erase text) := by
  induction text generalizing skipped with
  | nil =>
    cases skipped with
    | zero => rfl
    | succ skipped => rfl
  | cons first rest ih =>
    cases skipped with
    | succ skipped => exact ih
    | zero =>
      unfold replaceTracedFrom
      rw [erase_cons]
      unfold replaceFrom
      split
      · rw [erase_append, erase_valued, ih]
      · rw [erase_cons, ih]

/-- Without origins the replacements are those of the plain text. -/
theorem erase_replaceEach {substitutions : Substitutions} :
    erase (replaceEach substitutions text) =
      substitutions.foldl (fun text next => replaceAll next.1 next.2 text) (erase text) := by
  induction substitutions generalizing text with
  | nil => rfl
  | cons next later ih =>
    have one : erase (replaceTraced next.1 next.2 text) = replaceAll next.1 next.2 (erase text) :=
      erase_replaceTracedFrom
    rw [foldl_cons, ← one, ← ih]
    rfl

theorem replaceTracedFrom_skip :
    replaceTracedFrom old new skipped text = replaceTraced old new (text.drop skipped) := by
  induction text generalizing skipped with
  | nil =>
    rw [drop_nil]
    cases skipped with
    | zero => rfl
    | succ skipped => rfl
  | cons first rest ih =>
    cases skipped with
    | zero => rfl
    | succ skipped => exact ih

theorem placesFrom_skip :
    placesFrom old skipped text = places old (text.drop skipped) := by
  induction text generalizing skipped with
  | nil =>
    rw [drop_nil]
    cases skipped with
    | zero => rfl
    | succ skipped => rfl
  | cons first rest ih =>
    cases skipped with
    | zero => rfl
    | succ skipped => exact ih

/-- The text that is replaced stands at the front. -/
theorem replaceTraced_match (inhabited : old ≠ []) (here : erase place = old) :
    replaceTraced old new (place ++ text) = valued new ++ replaceTraced old new text := by
  cases place with
  | nil => exact absurd here.symm inhabited
  | cons first more =>
    have begins : old.isPrefixOf (erase (first :: (more ++ text))) = true := by
      rw [List.isPrefixOf_iff_prefix, ← cons_append, erase_append, here]
      exact prefix_append _ _
    have size : old.length - 1 = more.length := by
      rw [← here, length_erase, length_cons]
      omega
    rw [cons_append, replaceTraced, replaceTracedFrom, if_pos begins, size,
      replaceTracedFrom_skip, drop_left]

/-- A segment in which the text that is replaced does not begin stays. -/
theorem replaceTraced_stays {segment : List Traced}
    (none : ∀ tail, tail <:+ segment → tail ≠ [] → ¬ old <+: erase (tail ++ text)) :
    replaceTraced old new (segment ++ text) = segment ++ replaceTraced old new text := by
  induction segment with
  | nil => rfl
  | cons first more ih =>
    have here := none (first :: more) (suffix_refl _) (cons_ne_nil _ _)
    have later : ∀ tail, tail <:+ more → tail ≠ [] → ¬ old <+: erase (tail ++ text) :=
      fun tail ends => none tail (ends.trans (suffix_cons _ _))
    rw [← isPrefixOf_iff_prefix, cons_append] at here
    rw [cons_append, replaceTraced, replaceTracedFrom, if_neg here]
    exact congrArg (first :: ·) (ih later)

/-! ### Tokens that do not run into each other -/

/-- None of the ends of a text begins like the first text, nor the other way round. -/
def clear (first : List Char) (tails : List (List Char)) : Bool :=
  tails.all fun tail => tail.isEmpty || !(tail.isPrefixOf first || first.isPrefixOf tail)

theorem clear_iff {first tail : List Char} {tails : List (List Char)}
    (separate : clear first tails = true) (member : tail ∈ tails) (inhabited : tail ≠ []) :
    ¬ tail <+: first ∧ ¬ first <+: tail := by
  have one := all_eq_true.1 separate tail member
  rw [Bool.or_eq_true_iff, List.isEmpty_iff] at one
  rcases one with empty | apart
  · exact absurd empty inhabited
  · rw [Bool.not_eq_true', Bool.or_eq_false_iff, Bool.eq_false_iff, Bool.eq_false_iff] at apart
    rw [← isPrefixOf_iff_prefix, ← isPrefixOf_iff_prefix]
    exact apart

/-- Two texts that stand at one place are not clear of each other. -/
theorem not_clear {first tail text : List Char} {tails : List (List Char)}
    (separate : clear first tails = true) (member : tail ∈ tails) (inhabited : tail ≠ [])
    (one : tail <+: text) (other : first <+: text) : False := by
  obtain ⟨not_short, not_long⟩ := clear_iff separate member inhabited
  rcases prefix_or_prefix_of_prefix one other with short | long
  · exact not_short short
  · exact not_long long

/-- Tokens of which none begins within itself, or at or within a later one. -/
structure Separate (tokens : List (List Char)) : Prop where
  inhabited : ∀ token ∈ tokens, token ≠ []
  solid : ∀ token ∈ tokens, clear token token.tails.tail = true
  apart : tokens.Pairwise fun first second => clear first second.tails = true

instance (tokens : List (List Char)) : Decidable (Separate tokens) :=
  decidable_of_iff
    ((∀ token ∈ tokens, token ≠ []) ∧ (∀ token ∈ tokens, clear token token.tails.tail = true) ∧
      tokens.Pairwise fun first second => clear first second.tails = true)
    ⟨fun ⟨inhabited, solid, apart⟩ => ⟨inhabited, solid, apart⟩,
      fun ⟨inhabited, solid, apart⟩ => ⟨inhabited, solid, apart⟩⟩

/-- A solid token is replaced wherever it stands. -/
theorem mem_places (inhabited : old ≠ []) (solid : clear old old.tails.tail = true)
    (here : erase place = old)
    (inside : place <:+: text) : place ∈ places old text := by
  obtain ⟨before, after, rfl⟩ := inside
  generalize size : before.length = count
  induction count using Nat.strongRecOn generalizing before with
  | ind count ih =>
    cases before with
    | nil =>
      cases place with
      | nil => exact absurd here.symm inhabited
      | cons first more =>
        have begins : old.isPrefixOf (erase (first :: (more ++ after))) = true := by
          rw [List.isPrefixOf_iff_prefix, ← cons_append, erase_append, here]
          exact prefix_append _ _
        have length : old.length = (first :: more).length := by
          rw [← here, length_erase]
        have taken : (first :: (more ++ after)).take old.length = first :: more := by
          rw [length, ← cons_append, take_left]
        rw [nil_append, cons_append, places, placesFrom, if_pos begins, taken]
        exact mem_cons_self
    | cons first more =>
      rw [cons_append, cons_append, places, placesFrom]
      split
      · rename_i begins
        refine mem_cons_of_mem _ ?_
        rw [placesFrom_skip]
        -- An earlier place that ran into this one would be one within the token itself.
        have long : old.length - 1 ≤ more.length := by
          by_contra short
          have first_place := isPrefixOf_iff_prefix.1 begins
          have tail_some : old.drop (more.length + 1) ≠ [] := by
            rw [Ne, drop_eq_nil_iff]
            omega
          have member : old.drop (more.length + 1) ∈ old.tails.tail := by
            cases old with
            | nil => exact absurd rfl inhabited
            | cons head others =>
              rw [tails_cons, drop_succ_cons]
              exact (mem_tails _ _).2 (drop_suffix _ _)
          have tail_here : old.drop (more.length + 1) <+: erase (place ++ after) := by
            obtain ⟨tail, whole⟩ := first_place
            have dropped := congrArg (List.drop (more.length + 1)) whole
            rw [drop_append_of_le_length (by omega), erase_cons, drop_succ_cons,
              append_assoc, erase_append, ← length_erase, drop_left] at dropped
            rw [← dropped, length_erase]
            exact prefix_append _ _
          have again : old <+: erase (place ++ after) := by
            rw [erase_append, here]
            exact prefix_append _ _
          exact not_clear solid member tail_some tail_here again
        rw [append_assoc, drop_append_of_le_length long, ← append_assoc]
        refine ih _ ?_ _ rfl
        rw [← size, length_cons, length_drop]
        omega
      · refine ih more.length ?_ more rfl
        rw [← size, length_cons]
        omega

/-- What is replaced are places of the text, and the token stands there. -/
theorem of_mem_places (member : place ∈ places old text) : place <:+: text ∧ erase place = old := by
  unfold places at member
  generalize 0 = skipped at member
  induction text generalizing skipped with
  | nil => cases skipped with
      | zero => cases member
      | succ skipped => cases member
  | cons first rest ih =>
    cases skipped with
    | succ skipped =>
      obtain ⟨inside, here⟩ := ih _ member
      exact ⟨inside.trans (suffix_cons _ _).isInfix, here⟩
    | zero =>
      unfold placesFrom at member
      split at member
      · rename_i begins
        rcases mem_cons.1 member with rfl | later
        · refine ⟨(List.take_prefix _ _).isInfix, ?_⟩
          have whole := prefix_iff_eq_take.1 (List.isPrefixOf_iff_prefix.1 begins)
          unfold erase at whole ⊢
          rw [map_take, ← whole]
        · obtain ⟨inside, here⟩ := ih _ later
          exact ⟨inside.trans (suffix_cons _ _).isInfix, here⟩
      · obtain ⟨inside, here⟩ := ih _ member
        exact ⟨inside.trans (suffix_cons _ _).isInfix, here⟩

/-! ### A single pass -/

/-- The token that stands at the front. -/
def tokenAt (substitutions : Substitutions) (text : List Char) :
    Option ((List Char × List Char) × Nat) :=
  (substitutions.find? fun next => next.1.isPrefixOf text).map fun next => (next, next.1.length)

/-- The template with each token replaced in a single pass. -/
def singlePass (substitutions : Substitutions) (template : List Char) : List Char :=
  substitute Prod.snd (scan (tokenAt substitutions) template)

/-- The pieces of a template with some of its tokens replaced; the other ones stay. -/
def written (done : Substitutions) : Nat → List (Piece (List Char × List Char)) → List Traced
  | _, [] => []
  | position, .literal char :: rest => ⟨char, some position⟩ :: written done (position + 1) rest
  | position, .token next :: rest =>
    (if next ∈ done then valued next.2 else traceFrom position next.1) ++
      written done (position + next.1.length) rest

/-- The template with some of the tokens replaced in a single pass. -/
def partPass (substitutions done : Substitutions) (template : List Char) : List Traced :=
  written done 0 (scan (tokenAt substitutions) template)

section Pass

variable {substitutions done later : Substitutions} {next : List Char × List Char}

theorem scanFrom_skip {Token : Type} {matchAt : List Char → Option (Token × Nat)}
    {text : List Char} : scanFrom matchAt skipped text = scan matchAt (text.drop skipped) := by
  induction text generalizing skipped with
  | nil =>
    rw [drop_nil]
    cases skipped with
    | zero => rfl
    | succ skipped => rfl
  | cons first rest ih =>
    cases skipped with
    | zero => rfl
    | succ skipped => exact ih

/-- The scan of a text is empty, goes on behind a token at its front, or behind its first
character where no token stands there. -/
theorem scan_cases (inhabited : ∀ next ∈ substitutions, next.1 ≠ []) (text : List Char) :
    text = [] ∨
    (∃ next rest, substitutions.find? (fun next => next.1.isPrefixOf text) = some next ∧
      text = next.1 ++ rest ∧
      scan (tokenAt substitutions) text = .token next :: scan (tokenAt substitutions) rest) ∨
    ∃ char rest, text = char :: rest ∧ (∀ next ∈ substitutions, ¬ next.1 <+: text) ∧
      scan (tokenAt substitutions) text = .literal char :: scan (tokenAt substitutions) rest := by
  cases text with
  | nil => exact .inl rfl
  | cons char rest =>
    right
    cases found : substitutions.find? (fun next => next.1.isPrefixOf (char :: rest)) with
    | some next =>
      left
      have begins : next.1 <+: char :: rest :=
        isPrefixOf_iff_prefix.1 (by simpa using List.find?_some found)
      obtain ⟨after, whole⟩ := begins
      refine ⟨next, after, rfl, whole.symm, ?_⟩
      have here : tokenAt substitutions (char :: rest) = some (next, next.1.length) := by
        rw [tokenAt, found]
        rfl
      have left : rest.drop (next.1.length - 1) = after := by
        cases token : next.1 with
        | nil => exact absurd token (inhabited next (mem_of_find?_eq_some found))
        | cons head tail =>
          rw [token] at whole
          rw [← (List.cons.inj whole).2]
          exact drop_left
      rw [scan, scanFrom, here]
      simp only
      rw [scanFrom_skip, left]
    | none =>
      right
      have nowhere : tokenAt substitutions (char :: rest) = none := by
        rw [tokenAt, found]
        rfl
      refine ⟨char, rest, rfl, fun next member begins => ?_, ?_⟩
      · have missed := List.find?_eq_none.1 found next member
        exact missed (List.isPrefixOf_iff_prefix.2 begins)
      · rw [scan, scanFrom, nowhere]
        rfl

/-- With no token replaced yet, the pieces are those of the template. -/
theorem written_nil (inhabited : ∀ next ∈ substitutions, next.1 ≠ []) :
    written [] position (scan (tokenAt substitutions) template) = traceFrom position template := by
  generalize size : template.length = count
  induction count using Nat.strongRecOn generalizing template position with
  | ind count ih =>
    rcases scan_cases inhabited template with rfl | ⟨next, rest, found, rfl, pieces⟩ |
      ⟨char, rest, rfl, _, pieces⟩
    · rfl
    · have positive := length_pos_iff.2 (inhabited next (mem_of_find?_eq_some found))
      have smaller : rest.length < count := by
        rw [← size, length_append]
        omega
      rw [pieces, written, if_neg not_mem_nil, ih _ smaller rfl, traceFrom_append]
    · have smaller : rest.length < count := by
        rw [← size, length_cons]
        omega
      rw [pieces, written, ih _ smaller rfl]
      rfl

theorem partPass_nil (inhabited : ∀ next ∈ substitutions, next.1 ≠ []) :
    partPass substitutions [] template = trace template :=
  written_nil inhabited

/-- With all tokens replaced, the text is that of the single pass. -/
theorem erase_partPass : erase (partPass substitutions substitutions template) =
    singlePass substitutions template := by
  have known {position : Nat} {pieces : List (Piece (List Char × List Char))}
      (known : ∀ next, .token next ∈ pieces → next ∈ substitutions) :
      erase (written substitutions position pieces) = substitute Prod.snd pieces := by
    induction pieces generalizing position with
    | nil => rfl
    | cons piece rest ih =>
      have others : ∀ next, .token next ∈ rest → next ∈ substitutions :=
        fun next inside => known next (mem_cons_of_mem _ inside)
      cases piece with
      | literal char => exact congrArg (char :: ·) (ih others)
      | token next =>
        rw [written, if_pos (known next mem_cons_self), erase_append, erase_valued,
          ih others]
        rfl
  refine known fun next inside => ?_
  have of_scan {skipped : Nat} {text : List Char}
      (inside : .token next ∈ scanFrom (tokenAt substitutions) skipped text) :
      next ∈ substitutions := by
    induction text generalizing skipped with
    | nil =>
      cases skipped with
      | zero => cases inside
      | succ skipped => cases inside
    | cons first rest ih =>
      cases skipped with
      | succ skipped => exact ih inside
      | zero =>
        unfold scanFrom at inside
        split at inside
        · rename_i token size here
          rcases mem_cons.1 inside with same | later
          · unfold tokenAt at here
            obtain ⟨found, search, pair⟩ := Option.map_eq_some_iff.1 here
            cases same
            cases pair
            exact mem_of_find?_eq_some search
          · exact ih later
        · rcases mem_cons.1 inside with same | later
          · cases same
          · exact ih later
  exact of_scan inside

/-- Where a token stands in a text, it stands in the template. -/
theorem stands_of_begins {token template : List Char} {text whole : List Traced}
    (inhabited : token ≠ [])
    (honest : ∀ place, place <:+: whole → erase place = token → place <:+: trace template)
    (inside : first :: text <:+ whole) (begins : token <+: erase (first :: text)) :
    ∃ more, first :: more <:+: trace template ∧ erase (first :: more) = token := by
  have whole := prefix_iff_eq_take.1 begins
  have shape : ∃ more, (first :: text).take token.length = first :: more := by
    cases length : token.length with
    | zero => exact absurd (length_eq_zero_iff.1 length) inhabited
    | succ count => exact ⟨text.take count, rfl⟩
  obtain ⟨more, shape⟩ := shape
  have spelled : erase (first :: more) = token := by
    rw [← shape]
    unfold erase at whole ⊢
    rw [map_take, ← whole]
  refine ⟨more, honest _ (List.IsInfix.trans ?_ inside.isInfix) spelled, spelled⟩
  rw [← shape]
  exact (List.take_prefix _ _).isInfix

/-- No end of a later token begins like the next one. -/
theorem clear_of_later (separate : Separate (substitutions.map Prod.fst))
    (order : substitutions = done ++ next :: later) {other : List Char × List Char}
    (member : other ∈ substitutions) (before : other ∉ done) (same : other ≠ next) :
    clear next.1 other.1.tails = true := by
  have ordered := separate.apart
  rw [order, map_append, map_cons] at ordered
  have tail := (pairwise_append.1 ordered).2.1
  refine (pairwise_cons.1 tail).1 _ (mem_map_of_mem ?_)
  rw [order] at member
  rcases mem_append.1 member with early | late
  · exact absurd early before
  · rcases mem_cons.1 late with equal | late
    · exact absurd equal same
    · exact late

/-- A token that stands in a text only where it stands in the template is replaced there, and
nowhere else. -/
theorem replaceTraced_written (separate : Separate (substitutions.map Prod.fst))
    (order : substitutions = done ++ next :: later) (here : rest = template.drop position)
    (honest : ∀ place, place <:+: written done position (scan (tokenAt substitutions) rest) →
      erase place = next.1 → place <:+: trace template) :
    replaceTraced next.1 next.2 (written done position (scan (tokenAt substitutions) rest)) =
      written (done ++ [next]) position (scan (tokenAt substitutions) rest) := by
  have inhabited : ∀ other ∈ substitutions, other.1 ≠ [] :=
    fun other member => separate.inhabited _ (mem_map_of_mem member)
  have known : next ∈ substitutions := by
    rw [order]
    exact mem_append_right _ mem_cons_self
  generalize size : rest.length = count
  induction count using Nat.strongRecOn generalizing rest position with
  | ind count ih =>
    rcases scan_cases inhabited rest with rfl | ⟨other, after, found, rfl, pieces⟩ |
      ⟨char, after, rfl, nowhere, pieces⟩
    · rfl
    · have member := mem_of_find?_eq_some found
      have positive := length_pos_iff.2 (inhabited other member)
      have smaller : after.length < count := by
        rw [← size, length_append]
        omega
      have there : after = template.drop (position + other.1.length) := by
        rw [← drop_drop, ← here, drop_left]
      rw [pieces] at honest ⊢
      have others := ih _ smaller there (fun place inside => honest place
        (inside.trans (suffix_append _ _).isInfix)) rfl
      rw [written] at honest ⊢
      rw [written]
      by_cases before : other ∈ done
      · rw [if_pos before] at honest ⊢
        rw [if_pos (mem_append_left _ before), ← others]
        refine replaceTraced_stays fun tail ends proper begins => ?_
        obtain ⟨first, text, rfl⟩ := exists_cons_of_ne_nil proper
        obtain ⟨more, place, _⟩ := stands_of_begins (inhabited next known) honest
          (suffix_append_suffix ends) begins
        have value : first.origin = none := by
          obtain ⟨char, _, same⟩ := mem_map.1 (ends.subset mem_cons_self)
          rw [← same]
        exact origin_of_place place value
      · rw [if_neg before] at honest ⊢
        by_cases same : other = next
        · subst same
          rw [if_pos (mem_append_right _ mem_cons_self),
            replaceTraced_match (inhabited other member) erase_traceFrom, others]
        · have new : other ∉ done ++ [next] := by
            rw [mem_append, mem_singleton]
            tauto
          rw [if_neg new, ← others]
          have apart := clear_of_later separate order member before same
          refine replaceTraced_stays fun tail ends proper begins => ?_
          obtain ⟨first, text, rfl⟩ := exists_cons_of_ne_nil proper
          obtain ⟨more, place, spelled⟩ := stands_of_begins (inhabited next known) honest
            (suffix_append_suffix ends) begins
          obtain ⟨earlier, split⟩ := ends
          have origin := origin_traceFrom split.symm
          have token := prefix_of_place place origin
          have erased := congrArg erase split
          rw [erase_append, erase_traceFrom] at erased
          rw [spelled, ← drop_drop, ← here, ← erased, ← length_erase, append_assoc,
            drop_left] at token
          refine not_clear apart ?_ ?_ (prefix_append _ _) token
          · rw [← erased]
            exact (mem_tails _ _).2 (suffix_append _ _)
          · exact cons_ne_nil _ _
    · have smaller : after.length < count := by
        rw [← size, length_cons]
        omega
      have there : after = template.drop (position + 1) := by
        rw [← drop_drop, ← here]
        rfl
      rw [pieces] at honest ⊢
      have others := ih _ smaller there (fun place inside => honest place
        (inside.trans (suffix_cons _ _).isInfix)) rfl
      rw [written] at honest ⊢
      rw [written, ← others]
      refine replaceTraced_stays fun tail (ends : tail <:+ [⟨char, some position⟩]) proper begins => ?_
      have whole : tail = [⟨char, some position⟩] := by
        rcases suffix_cons_iff.1 ends with same | empty
        · exact same
        · exact absurd (suffix_nil.1 empty) proper
      rw [whole] at begins
      obtain ⟨more, place, spelled⟩ :=
        stands_of_begins (inhabited next known) honest (suffix_refl _) begins
      have token := prefix_of_place place rfl
      rw [spelled, ← here] at token
      exact nowhere next known token

/-- Each token, in the template with the tokens before it replaced in a single pass, stands only
where it stands in the template. -/
def Unmistakable (substitutions : Substitutions) (template : List Char) : Prop :=
  ∀ done next later, substitutions = done ++ next :: later →
    ∀ place, place <:+: partPass substitutions done template → erase place = next.1 →
      place <:+: trace template

theorem replaceEach_partPass (separate : Separate (substitutions.map Prod.fst))
    (order : substitutions = done ++ later)
    (honest : ∀ middle next rest, later = middle ++ next :: rest →
      ∀ place, place <:+: partPass substitutions (done ++ middle) template →
        erase place = next.1 → place <:+: trace template) :
    replaceEach later (partPass substitutions done template) =
      partPass substitutions substitutions template := by
  induction later generalizing done with
  | nil =>
    rw [append_nil] at order
    rw [order]
    rfl
  | cons next later ih =>
    have step : replaceTraced next.1 next.2 (partPass substitutions done template) =
        partPass substitutions (done ++ [next]) template := by
      refine replaceTraced_written separate order rfl fun place inside => ?_
      refine honest [] next later rfl place ?_
      rwa [append_nil]
    rw [replaceEach, foldl_cons, step]
    refine ih (by rw [order, append_assoc]; rfl) fun middle other rest split => ?_
    have whole := honest (next :: middle) other rest (by rw [split]; rfl)
    rwa [append_assoc]

/-- Where no token is mistaken, replacing one after another is the single pass. -/
theorem Unmistakable.replaceEach_eq (separate : Separate (substitutions.map Prod.fst))
    (honest : Unmistakable substitutions template) :
    replaceEach substitutions (trace template) =
      partPass substitutions substitutions template := by
  have inhabited : ∀ other ∈ substitutions, other.1 ≠ [] :=
    fun other member => separate.inhabited _ (mem_map_of_mem member)
  have whole : replaceEach substitutions (partPass substitutions [] template) =
      partPass substitutions substitutions template := replaceEach_partPass separate rfl honest
  rwa [partPass_nil inhabited] at whole

theorem eachPlaces_partPass (template : List Char) (done : Substitutions)
    (separate : Separate (substitutions.map Prod.fst))
    (order : substitutions = done ++ later) :
    (∀ place ∈ eachPlaces later (partPass substitutions done template),
        place <:+: trace template) ↔
      ∀ middle next rest, later = middle ++ next :: rest →
        ∀ place, place <:+: partPass substitutions (done ++ middle) template →
          erase place = next.1 → place <:+: trace template := by
  induction later generalizing done with
  | nil =>
    refine ⟨fun _ middle next rest split => ?_, fun _ place member => ?_⟩
    · exact absurd split.symm (by simp)
    · cases member
  | cons next later ih =>
    have token : next.1 ∈ substitutions.map Prod.fst := by
      rw [order]
      exact mem_map_of_mem (mem_append_right _ mem_cons_self)
    have following : substitutions = (done ++ [next]) ++ later := by
      rw [order, append_assoc]
      rfl
    have step (honest : ∀ place, place <:+: partPass substitutions done template →
        erase place = next.1 → place <:+: trace template) :
        replaceTraced next.1 next.2 (partPass substitutions done template) =
          partPass substitutions (done ++ [next]) template :=
      replaceTraced_written separate order rfl honest
    constructor
    · intro replaced
      have first : ∀ place, place <:+: partPass substitutions done template →
          erase place = next.1 → place <:+: trace template := by
        intro place inside spelled
        exact replaced place (mem_append_left _
          (mem_places (separate.inhabited _ token) (separate.solid _ token) spelled inside))
      have others := (ih _ following).1 fun place member => by
        refine replaced place (mem_append_right _ ?_)
        rwa [step first]
      intro middle other rest split
      cases middle with
      | nil =>
        obtain ⟨rfl, _⟩ := List.cons.inj split
        rw [append_nil]
        exact first
      | cons head middle =>
        obtain ⟨rfl, following⟩ := List.cons.inj split
        have one := others middle other rest following
        rwa [append_assoc] at one
    · intro honest place member
      have first := honest [] next later rfl
      rw [append_nil] at first
      rcases mem_append.1 member with here | there
      · obtain ⟨inside, spelled⟩ := of_mem_places here
        exact first place inside spelled
      · rw [step first] at there
        refine (ih _ following).2 (fun middle other rest split => ?_) place there
        have one := honest (next :: middle) other rest (by rw [split]; rfl)
        rwa [append_assoc]

/-- What is replaced, one token after another, are places of the template, just where no token is
mistaken. -/
theorem eachPlaces_iff (separate : Separate (substitutions.map Prod.fst)) :
    (∀ place ∈ eachPlaces substitutions (trace template), place <:+: trace template) ↔
      Unmistakable substitutions template := by
  have inhabited : ∀ other ∈ substitutions, other.1 ≠ [] :=
    fun other member => separate.inhabited _ (mem_map_of_mem member)
  have whole := eachPlaces_partPass template [] separate rfl
  rwa [partPass_nil inhabited] at whole

end Pass

end Text
