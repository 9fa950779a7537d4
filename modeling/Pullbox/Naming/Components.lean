import Pullbox.Naming.Sanitize

/-!
# Sanitized names as components of paths

A sanitized name is what a file system takes as one component, and sanitizing it again leaves it
as it is, but for one kind of names: cutting a long name to size leaves a reserved device name
where nothing but dots and spaces stood behind it up to the cut.
-/

namespace Pullbox.Naming

open List Text

variable {char : Char} {name text kept other : List Char} {colonReplacement : String}

/-- The part before the first dot, as it is compared with the reserved names. -/
def stem (name : List Char) : List Char :=
  (name.takeWhile (· ≠ '.')).map Char.toUpper

/-- A component of a path on any file system. -/
structure Component (name : List Char) : Prop where
  inhabited : name ≠ []
  fits : utf8Size name ≤ 240
  legal : ∀ char ∈ name, isIllegal char = false
  ends : ∀ char, name.getLast? = some char → isTrailing char = false
  free : stem name ∉ reservedNames

/-- What a longer text is cut to. -/
def Cut (kept text : List Char) : Prop :=
  utf8Size kept ≤ 230 ∧
    ∃ next rest, text = kept ++ next :: rest ∧ 230 < utf8Size (kept ++ [next])

/-- A long text that begins with a reserved device name and, up to the cut, goes on with a space
and nothing but dots and spaces. -/
def ShortensToDevice (text : List Char) : Prop :=
  240 < utf8Size text ∧
    ∃ device fill, Cut (device ++ ' ' :: fill) text ∧
      device.map Char.toUpper ∈ reservedNames ∧ ∀ char ∈ fill, isTrailing char = true

/-- The text that sanitising cuts where it is long: legal, collapsed, and stripped at the end. -/
def legible (colonReplacement : String) (name : List Char) : List Char :=
  rstripWhile isTrailing (collapse (replaceIllegalCharacters colonReplacement name))

/-! ### Reserved names -/

theorem reservedNames_plain (reserved : other ∈ reservedNames) :
    other ≠ [] ∧ other.length ≤ 4 ∧ ∀ char ∈ other, char ≠ '_' ∧ char ≠ ' ' ∧ char ≠ '.' := by
  have every : ∀ other ∈ reservedNames, other ≠ [] ∧ other.length ≤ 4 ∧
      other.all (fun char => char ≠ '_' ∧ char ≠ ' ' ∧ char ≠ '.') = true := by
    decide
  obtain ⟨proper, short, plain⟩ := every other reserved
  exact ⟨proper, short, Text.forall_mem_of_all plain⟩

/-- A character that is no letter stays. -/
theorem not_mem_of_upper_reserved (reserved : name.map Char.toUpper ∈ reservedNames) :
    '_' ∉ name ∧ ' ' ∉ name ∧ '.' ∉ name := by
  obtain ⟨_, _, plain⟩ := reservedNames_plain reserved
  refine ⟨fun inside => ?_, fun inside => ?_, fun inside => ?_⟩
  · exact (plain '_' (mem_map.2 ⟨'_', inside, by decide⟩)).1 rfl
  · exact (plain ' ' (mem_map.2 ⟨' ', inside, by decide⟩)).2.1 rfl
  · exact (plain '.' (mem_map.2 ⟨'.', inside, by decide⟩)).2.2 rfl

theorem stem_append (first : '.' ∈ kept) : stem (kept ++ other) = stem kept := by
  unfold stem
  rw [takeWhile_append]
  have short : (kept.takeWhile (· ≠ '.')).length ≠ kept.length := by
    intro whole
    have same := (takeWhile_sublist (· ≠ '.')).eq_of_length whole
    rw [← same] at first
    have plain := mem_takeWhile_imp first
    simp at plain
  rw [if_neg short]

theorem stem_of_not_mem (none : '.' ∉ kept) : stem kept = kept.map Char.toUpper := by
  unfold stem
  rw [takeWhile_eq_self_iff.2 fun char inside => ?_]
  rw [decide_eq_true_eq]
  rintro rfl
  exact none inside

theorem stem_dot (none : '.' ∉ kept) : stem (kept ++ '.' :: other) = kept.map Char.toUpper := by
  unfold stem
  rw [takeWhile_append_of_pos fun char inside => ?_]
  · simp
  · rw [decide_eq_true_eq]
    rintro rfl
    exact none inside

/-- A marked name is not reserved. -/
theorem markReserved_free : stem (markReserved name) ∉ reservedNames := by
  unfold markReserved
  split
  · intro reserved
    have mark : '_' ∈ stem ('_' :: name) := by
      simp [stem]
    exact ((reservedNames_plain reserved).2.2 '_' mark).1 rfl
  · assumption

theorem markReserved_eq (free : stem name ∉ reservedNames) : markReserved name = name :=
  if_neg free

/-! ### The cut -/

theorem utf8Size_append : utf8Size (kept ++ other) = utf8Size kept + utf8Size other := by
  unfold utf8Size
  rw [map_append, sum_append]

theorem utf8Size_cons : utf8Size (char :: text) = char.utf8Size + utf8Size text := by
  unfold utf8Size
  rw [map_cons, sum_cons]

theorem utf8Size_reverse : utf8Size text.reverse = utf8Size text := by
  unfold utf8Size
  rw [map_reverse, sum_reverse]

theorem utf8Size_le (few : text.length ≤ 4) : utf8Size text ≤ 16 := by
  have bound : utf8Size text ≤ 4 * text.length := by
    clear few
    induction text with
    | nil => exact Nat.le_refl 0
    | cons first rest ih =>
      have one := first.utf8Size_le_four
      rw [utf8Size_cons, length_cons]
      omega
  omega

/-- There is one cut of a text. -/
theorem Cut.unique (cut : Cut kept text) (again : Cut other text) : kept = other := by
  -- The shorter of the two and the next character would fit as part of the longer one.
  have shorter {kept other : List Char} (cut : Cut kept text) (again : Cut other text)
      (begins : kept <+: other) : kept = other := by
    obtain ⟨_, next, rest, rfl, longer⟩ := cut
    obtain ⟨fits, last, later, same, _⟩ := again
    obtain ⟨tail, rfl⟩ := begins
    cases tail with
    | nil => rw [append_nil]
    | cons first tail =>
      rw [append_assoc, append_cancel_left_eq, cons_append] at same
      obtain ⟨rfl, _⟩ := List.cons.inj same
      rw [utf8Size_append, utf8Size_cons] at fits longer
      simp only [utf8Size, map_nil, sum_nil] at fits longer
      omega
  have first : kept <+: text := by
    obtain ⟨_, next, rest, rfl, _⟩ := cut
    exact prefix_append _ _
  have second : other <+: text := by
    obtain ⟨_, next, rest, rfl, _⟩ := again
    exact prefix_append _ _
  rcases prefix_or_prefix_of_prefix first second with begins | begins
  · exact shorter cut again begins
  · exact (shorter again cut begins).symm

/-- What `cutReversed` leaves of a long name, and what it takes away. -/
theorem cutReversed_spec (large : 230 < utf8Size name) :
    ∃ dropped next, name = dropped ++ next :: cutReversed name ∧
      utf8Size (cutReversed name) ≤ 230 ∧ 230 < utf8Size (next :: cutReversed name) := by
  induction name using cutReversed.induct with
  | case1 => exact absurd large (by decide)
  | case2 char =>
    have one := char.utf8Size_le_four
    rw [utf8Size_cons] at large
    simp only [utf8Size, map_nil, sum_nil] at large
    omega
  | case3 char next rest _ ih =>
    have step : cutReversed (char :: next :: rest) = cutReversed (next :: rest) := by
      conv => lhs; unfold cutReversed
      exact if_pos large
    rw [step]
    by_cases again : 230 < utf8Size (next :: rest)
    · obtain ⟨dropped, last, whole, fits, longer⟩ := ih again
      refine ⟨char :: dropped, last, ?_, fits, longer⟩
      rw [cons_append, ← whole]
    · have stays : cutReversed (next :: rest) = next :: rest := by
        cases rest with
        | nil => rfl
        | cons second rest =>
          unfold cutReversed
          exact if_neg again
      rw [stays]
      exact ⟨[], char, rfl, by omega, large⟩
  | case4 char next rest small => exact absurd large small

theorem cut_cutReversed (large : 230 < utf8Size text) :
    Cut (cutReversed text.reverse).reverse text := by
  obtain ⟨dropped, next, whole, fits, longer⟩ :=
    cutReversed_spec (show 230 < utf8Size text.reverse by rwa [utf8Size_reverse])
  refine ⟨by rwa [utf8Size_reverse], next, dropped.reverse, ?_, ?_⟩
  · have same := congrArg List.reverse whole
    rw [reverse_reverse, reverse_append, reverse_cons, append_assoc] at same
    exact same
  · rw [utf8Size_append, utf8Size_reverse]
    rw [utf8Size_cons] at longer
    simp only [utf8Size, map_cons, map_nil, sum_cons, sum_nil] at longer ⊢
    omega

/-! ### What is left of a legible text -/

/-- The end of `sanitize_for_filesystem`, of a text that is legible. -/
def shortened (text : List Char) : List Char :=
  if limitSize (markReserved text) = [] then unknown else limitSize (markReserved text)

theorem sanitize_eq :
    sanitizeForFilesystem true colonReplacement name =
      shortened (legible colonReplacement name) := by
  unfold sanitizeForFilesystem
  split
  · rename_i empty
    have blank : legible colonReplacement [] = [] := rfl
    rw [empty, blank]
    decide
  · rw [if_pos rfl]
    rfl

theorem rstripWhile_append (drop : Char → Bool) (text : List Char) :
    ∃ fill, text = rstripWhile drop text ++ fill ∧ ∀ char ∈ fill, drop char = true := by
  refine ⟨(text.reverse.takeWhile drop).reverse, ?_, fun char inside => ?_⟩
  · unfold rstripWhile
    rw [← reverse_append, takeWhile_append_dropWhile, reverse_reverse]
  · exact mem_takeWhile_imp (mem_reverse.1 inside)

/-- Stripping takes the fill and leaves what does not end in fill. -/
theorem rstripWhile_eq {drop : Char → Bool} {fill : List Char}
    (ends : ∀ char, kept.getLast? = some char → drop char = false)
    (filled : ∀ char ∈ fill, drop char = true) : rstripWhile drop (kept ++ fill) = kept := by
  unfold rstripWhile
  rw [reverse_append, dropWhile_append_of_pos fun char inside =>
    filled char (mem_reverse.1 inside)]
  cases back : kept.reverse with
  | nil =>
    rw [reverse_eq_nil_iff.1 back]
    rfl
  | cons last rest =>
    have stays : drop last = false := by
      apply ends
      rw [List.getLast?_eq_head?_reverse, back]
      rfl
    rw [dropWhile_cons_of_neg (by rw [stays]; exact Bool.false_ne_true), ← back,
      reverse_reverse]

theorem limitSize_large (large : 240 < utf8Size text) :
    limitSize text = rstripWhile isTrailing (cutReversed text.reverse).reverse :=
  if_pos large

theorem limitSize_small (small : utf8Size text ≤ 240) : limitSize text = text :=
  if_neg (by omega)

theorem utf8Size_limitSize : utf8Size (limitSize text) ≤ 240 := by
  by_cases large : 240 < utf8Size text
  · rw [limitSize_large large]
    obtain ⟨fits, _⟩ := cut_cutReversed (show 230 < utf8Size text by omega)
    obtain ⟨fill, whole, _⟩ := rstripWhile_append isTrailing (cutReversed text.reverse).reverse
    rw [whole, utf8Size_append] at fits
    omega
  · rw [limitSize_small (by omega)]
    omega

/-- A text is marked or else not reserved; a device with a space behind it is not reserved. -/
theorem ShortensToDevice.markReserved_eq (shortens : ShortensToDevice text) :
    markReserved text = text := by
  obtain ⟨_, device, fill, ⟨_, next, rest, rfl, _⟩, reserved, _⟩ := shortens
  obtain ⟨_, _, plain⟩ := not_mem_of_upper_reserved reserved
  refine Naming.markReserved_eq fun marked => ?_
  have space : ' ' ∈ stem (device ++ ' ' :: (fill ++ next :: rest)) := by
    unfold stem
    rw [takeWhile_append_of_pos fun char inside => ?_]
    · simp
    · rw [decide_eq_true_eq]
      rintro rfl
      exact plain inside
  rw [append_assoc, cons_append] at marked
  exact ((reservedNames_plain marked).2.2 ' ' space).2.1 rfl

/-- A text that shortens to a device leaves the device. -/
theorem ShortensToDevice.limitSize_eq (shortens : ShortensToDevice text) :
    limitSize (markReserved text) ≠ [] ∧ stem (limitSize (markReserved text)) ∈ reservedNames := by
  rw [shortens.markReserved_eq]
  obtain ⟨large, device, fill, cut, reserved, filled⟩ := shortens
  obtain ⟨_, blank, plain⟩ := not_mem_of_upper_reserved reserved
  have left : limitSize text = device := by
    rw [limitSize_large large, ← cut.unique (cut_cutReversed (by omega))]
    refine rstripWhile_eq (fun char last => ?_) fun char inside => ?_
    · have inside := mem_of_getLast? last
      rw [Bool.eq_false_iff]
      intro trailing
      rcases Bool.or_eq_true_iff.1 trailing with dot | space
      · rw [beq_iff_eq.1 dot] at inside
        exact plain inside
      · rw [beq_iff_eq.1 space] at inside
        exact blank inside
    · rcases mem_cons.1 inside with rfl | later
      · rfl
      · exact filled char later
  rw [left, stem_of_not_mem plain]
  refine ⟨?_, reserved⟩
  rintro rfl
  exact absurd reserved (by decide)

/-- Nothing else leaves a device. -/
theorem shortensToDevice_of_limitSize
    (device : stem (limitSize (markReserved text)) ∈ reservedNames) : ShortensToDevice text := by
  have free : stem (markReserved text) ∉ reservedNames := markReserved_free
  have large : 240 < utf8Size (markReserved text) := by
    by_contra small
    rw [limitSize_small (by omega)] at device
    exact free device
  have cut := cut_cutReversed (show 230 < utf8Size (markReserved text) by omega)
  rw [limitSize_large large] at device
  obtain ⟨fill, whole, filled⟩ :=
    rstripWhile_append isTrailing (cutReversed (markReserved text).reverse).reverse
  generalize rstripWhile isTrailing (cutReversed (markReserved text).reverse).reverse = kept
    at device whole
  rw [whole] at cut
  obtain ⟨fits, next, rest, all, longer⟩ := cut
  -- What is left has no dot: else the stem would have been the same before the cut.
  have plain : '.' ∉ kept := by
    intro dot
    rw [all, append_assoc, stem_append dot] at free
    exact free device
  rw [stem_of_not_mem plain] at device
  have few : kept.length ≤ 4 := by
    obtain ⟨_, short, _⟩ := reservedNames_plain device
    rwa [length_map] at short
  cases fill with
  | nil =>
    have small := utf8Size_le few
    have one := next.utf8Size_le_four
    rw [append_nil, utf8Size_append] at longer
    simp only [utf8Size, map_cons, map_nil, sum_cons, sum_nil] at longer small
    omega
  | cons first fill =>
    -- A dot would have ended the stem before the cut, so the fill begins with a space.
    have space : first = ' ' := by
      rcases Bool.or_eq_true_iff.1 (filled first mem_cons_self) with dot | space
      · rw [all, beq_iff_eq.1 dot, append_assoc, cons_append, stem_dot plain] at free
        exact absurd device free
      · exact beq_iff_eq.1 space
    have unmarked : markReserved text = text := by
      unfold markReserved at all ⊢
      split
      · rw [if_pos (by assumption)] at all
        obtain ⟨mark, _, _⟩ := not_mem_of_upper_reserved device
        cases kept with
        | nil => exact absurd device (by decide)
        | cons head tail =>
          obtain ⟨rfl, _⟩ := List.cons.inj all
          exact absurd mem_cons_self mark
      · rfl
    rw [unmarked] at all large
    rw [space] at all fits longer
    exact ⟨large, kept, fill, ⟨fits, next, rest, all, longer⟩, device,
      fun char inside => filled char (mem_cons_of_mem _ inside)⟩

/-- The stem is free unless the text shortens to a device. -/
theorem shortened_free : stem (shortened text) ∉ reservedNames ↔ ¬ ShortensToDevice text := by
  refine not_congr ⟨fun device => ?_, fun shortens => ?_⟩
  · unfold shortened at device
    split at device
    · exact absurd device (by decide)
    · exact shortensToDevice_of_limitSize device
  · obtain ⟨inhabited, device⟩ := shortens.limitSize_eq
    unfold shortened
    rwa [if_neg inhabited]

/-! ### Sanitizing again -/

theorem spaced_shortened (spaced : Spaced text) : Spaced (shortened text) := by
  have marked : Spaced (markReserved text) := by
    unfold markReserved
    split
    · exact spaced.cons (by decide)
    · exact spaced
  unfold shortened
  split
  · exact spaced_word (Text.forall_mem_of_all (by decide))
  · by_cases large : 240 < utf8Size (markReserved text)
    · rw [limitSize_large large]
      refine marked.of_prefix ?_ fun space => absurd (getLast?_rstripWhile space) (by decide)
      obtain ⟨_, next, rest, whole, _⟩ :=
        cut_cutReversed (show 230 < utf8Size (markReserved text) by omega)
      obtain ⟨fill, strip, _⟩ :=
        rstripWhile_append isTrailing (cutReversed (markReserved text).reverse).reverse
      refine List.IsPrefix.trans ?_ ⟨next :: rest, whole.symm⟩
      exact ⟨fill, strip.symm⟩
    · rw [limitSize_small (by omega)]
      exact marked

theorem spaced_sanitize : Spaced (sanitizeForFilesystem true colonReplacement name) := by
  rw [sanitize_eq]
  refine spaced_shortened ?_
  obtain ⟨fill, whole, _⟩ :=
    rstripWhile_append isTrailing (collapse (replaceIllegalCharacters colonReplacement name))
  exact spaced_collapse.of_prefix ⟨fill, whole.symm⟩
    fun space => absurd (getLast?_rstripWhile space) (by decide)

theorem replaceSlashSeparatorsFrom_plain {skipping : Bool} {output : List Char}
    (plain : ∀ char ∈ text, isSlash char = false) (steady : skipping = false) :
    replaceSlashSeparatorsFrom skipping output text = output ++ text := by
  subst steady
  induction text generalizing output with
  | nil => rw [replaceSlashSeparatorsFrom, append_nil]
  | cons first rest ih =>
    have one := plain first mem_cons_self
    rw [replaceSlashSeparatorsFrom, if_neg (by rw [one]; exact Bool.false_ne_true), Bool.false_and,
      if_neg Bool.false_ne_true, ih fun char inside => plain char (mem_cons_of_mem _ inside),
      append_assoc]
    rfl

theorem flatMap_colon_legal {replacement : List Char}
    (legal : ∀ char ∈ name, isIllegal char = false) :
    (name.flatMap fun char => if char = ':' then replacement else [char]) = name := by
  induction name with
  | nil => rfl
  | cons first rest ih =>
    have one := legal first mem_cons_self
    have other : first ≠ ':' := by
      rintro rfl
      exact absurd one (by decide)
    rw [flatMap_cons, if_neg other,
      ih fun char inside => legal char (mem_cons_of_mem _ inside)]
    rfl

/-- A legal name has nothing to replace. -/
theorem replaceIllegalCharacters_legal (legal : ∀ char ∈ name, isIllegal char = false) :
    replaceIllegalCharacters colonReplacement name = name := by
  have plain : ∀ char ∈ name, isSlash char = false := by
    intro char inside
    rw [Bool.eq_false_iff]
    intro slash
    have one := legal char inside
    simp [isIllegal, slash] at one
  unfold replaceIllegalCharacters replaceSlashSeparators
  simp only
  rw [flatMap_colon_legal legal, replaceSlashSeparatorsFrom_plain plain rfl, nil_append,
    filter_eq_self.2 fun char inside => by rw [legal char inside]; rfl]

/-- A component of words stays as it is. -/
theorem Component.sanitize_eq (component : Component name) (spaced : Spaced name) :
    sanitizeForFilesystem true colonReplacement name = name := by
  have whole : rstripWhile isTrailing name = name := by
    have strip : rstripWhile isTrailing (name ++ []) = name :=
      rstripWhile_eq component.ends fun char inside => nomatch inside
    rwa [append_nil] at strip
  rw [Naming.sanitize_eq, legible, replaceIllegalCharacters_legal component.legal, spaced.collapse_eq,
    whole]
  unfold shortened
  rw [markReserved_eq component.free, limitSize_small component.fits, if_neg component.inhabited]

/-- Of a component, sanitizing grants everything but a stem that is free. -/
theorem component_sanitize
    (free : stem (sanitizeForFilesystem true colonReplacement name) ∉ reservedNames) :
    Component (sanitizeForFilesystem true colonReplacement name) where
  inhabited := sanitizeForFilesystem_ne_nil
  fits := by
    rw [sanitize_eq, shortened]
    split
    · decide
    · exact utf8Size_limitSize
  legal := by
    have marked : ∀ char ∈ unknown, isIllegal char = false :=
      Text.forall_mem_of_all (by decide)
    intro char inside
    unfold sanitizeForFilesystem at inside
    split at inside
    · exact marked char inside
    · rw [if_pos rfl] at inside
      rcases mem_tidy inside with known | rfl | rfl | kept
      · exact marked char known
      · decide
      · decide
      · have legal := (mem_filter.1 kept).2
        rwa [Bool.not_eq_true'] at legal
  ends := fun _ last => sanitizeForFilesystem_getLast? last
  free := free

/-- A sanitized name is a component, and sanitizing leaves it, unless it was shortened to a
device. -/
theorem sanitize_component_iff (colonReplacement : String) (name : List Char) :
    (Component (sanitizeForFilesystem true colonReplacement name) ∧
      sanitizeForFilesystem true colonReplacement
        (sanitizeForFilesystem true colonReplacement name) =
        sanitizeForFilesystem true colonReplacement name) ↔
      ¬ ShortensToDevice (legible colonReplacement name) := by
  rw [← shortened_free, ← sanitize_eq]
  constructor
  · rintro ⟨component, _⟩
    exact component.free
  · intro free
    have component := component_sanitize free
    exact ⟨component, component.sanitize_eq spaced_sanitize⟩

/-- The cut leaves the device where dots follow it, and sanitizing again marks it. -/
theorem sanitize_leaves_device :
    sanitizeForFilesystem true "dash" ("CON ".toList ++ List.replicate 240 '.' ++ ['x']) =
        "CON".toList ∧
      ¬ Component "CON".toList ∧
      sanitizeForFilesystem true "dash" "CON".toList = "_CON".toList :=
  ⟨by decide +kernel, fun component => component.free (by decide), by decide +kernel⟩

end Pullbox.Naming
