import Pullbox.Files.Pure

/-!
# Normal spellings of paths

The text of a path, its normal spelling, and case folding. Folding the case of a path and taking
its normal spelling may be done in either order.
-/

namespace Files

open List

/-- `str`, of a path. -/
def PurePath.text (path : PurePath) : List Char :=
  let names := path.steps.map fun
    | .name name => name
    | .up => ['.', '.']
  if path.absolute then '/' :: ['/'].intercalate names
  else if names = [] then ['.'] else ['/'].intercalate names

/-! ### Normal paths -/

/-- The slashes that stay at the start of a path: two are not one. -/
def initialSlashes (text : List Char) : List Char :=
  match (text.takeWhile (· == '/')).length with
  | 0 => []
  | 2 => ['/', '/']
  | _ => ['/']

/-- A part of a path, put to the parts before it, of which the last comes first. -/
def addPart (rooted : Bool) (before : List (List Char)) (part : List Char) : List (List Char) :=
  if part = [] ∨ part = ['.'] then before
  else if part = ['.', '.'] then
    match before with
    | [] => if rooted then [] else [part]
    | last :: rest => if last = ['.', '.'] then part :: before else rest
  else part :: before

def normalParts (rooted : Bool) (text : List Char) : List (List Char) :=
  ((text.splitOnP (· == '/')).foldl (addPart rooted) []).reverse

/-- `os.path.normpath`. -/
def normpath (path : List Char) : List Char :=
  let normal := initialSlashes path ++
    ['/'].intercalate (normalParts (initialSlashes path ≠ []) path)
  if normal = [] then ['.'] else normal

def isAbsolute (path : List Char) : Bool :=
  path.head? == some '/'

/-- `os.path.join`, of a folder and a relative path. -/
def joinText (folder path : List Char) : List Char :=
  if folder = [] ∨ folder.getLast? = some '/' then folder ++ path else folder ++ '/' :: path

/-- `os.path.abspath`. -/
def abspath (workingFolder path : List Char) : List Char :=
  normpath (if isAbsolute path then path else joinText workingFolder path)

/-! ### Case folding -/

/-- A folding of characters. Slashes and dots stay, and nothing else becomes one. -/
structure Folding where
  fold : Char → List Char
  nonempty : ∀ char, fold char ≠ []
  slash : fold '/' = ['/']
  dot : fold '.' = ['.']
  slashOnly : ∀ char, '/' ∈ fold char → char = '/'
  dotOnly : ∀ char, '.' ∈ fold char → char = '.'

namespace Folding

variable (folding : Folding) {text : List Char}

/-- `casefold`, of a text. -/
def casefold (text : List Char) : List Char :=
  text.flatMap folding.fold

@[simp] theorem casefold_nil : folding.casefold [] = [] :=
  rfl

@[simp] theorem casefold_cons (char : Char) (rest : List Char) :
    folding.casefold (char :: rest) = folding.fold char ++ folding.casefold rest :=
  rfl

theorem casefold_append (front back : List Char) :
    folding.casefold (front ++ back) = folding.casefold front ++ folding.casefold back :=
  flatMap_append

/-- Only dots become dots. -/
theorem casefold_eq_dots {text dots : List Char} (all : ∀ char ∈ dots, char = '.') :
    folding.casefold text = dots ↔ text = dots := by
  induction text generalizing dots with
  | nil => rfl
  | cons char rest ih =>
    rw [casefold_cons]
    cases dots with
    | nil =>
      constructor
      · intro empty
        exact absurd (append_eq_nil_iff.1 empty).1 (folding.nonempty char)
      · nofun
    | cons first others =>
      obtain rfl := all first mem_cons_self
      have tail := ih fun char inside => all char (mem_cons_of_mem _ inside)
      constructor
      · intro same
        have first : '.' ∈ folding.fold char := by
          cases folded : folding.fold char with
          | nil => exact absurd folded (folding.nonempty char)
          | cons head more =>
            rw [folded] at same
            cases same
            exact mem_cons_self
        obtain rfl := folding.dotOnly char first
        rw [folding.dot] at same
        rw [tail.1 (tail_eq_of_cons_eq same)]
      · intro same
        obtain ⟨rfl, rfl⟩ := List.cons.inj same
        rw [folding.dot, tail.2 rfl]
        rfl

theorem casefold_eq_nil_iff : folding.casefold text = [] ↔ text = [] :=
  folding.casefold_eq_dots nofun

theorem casefold_eq_dot_iff : folding.casefold text = ['.'] ↔ text = ['.'] :=
  folding.casefold_eq_dots (by simp)

theorem casefold_eq_dots_iff :
    folding.casefold text = ['.', '.'] ↔ text = ['.', '.'] :=
  folding.casefold_eq_dots (by simp)

/-- What a character other than a slash becomes has none. -/
theorem fold_plain {char : Char} (other : char ≠ '/') :
    ∀ inner ∈ folding.fold char, (inner == '/') = false := by
  intro inner inside
  rw [beq_eq_false_iff_ne]
  rintro rfl
  exact other (folding.slashOnly char inside)

end Folding

theorem splitOnP_plain_append {front : List Char} (plain : ∀ char ∈ front, (char == '/') = false)
    (back : List Char) : (front ++ back).splitOnP (· == '/') =
      (back.splitOnP (· == '/')).modifyHead (front ++ ·) := by
  induction front with
  | nil => cases split : back.splitOnP (· == '/') <;> rw [nil_append, split] <;> rfl
  | cons first rest ih =>
    rw [cons_append, splitOnP_cons_eq_if_modifyHead,
      if_neg (by rw [plain first mem_cons_self]; exact Bool.false_ne_true),
      ih fun char inside => plain char (mem_cons_of_mem _ inside),
      modifyHead_modifyHead]
    rfl

namespace Folding

variable (folding : Folding)

theorem splitOnP_casefold (text : List Char) : (folding.casefold text).splitOnP (· == '/') =
    (text.splitOnP (· == '/')).map folding.casefold := by
  induction text with
  | nil => rfl
  | cons char rest ih =>
    rw [casefold_cons]
    by_cases slash : char = '/'
    · subst slash
      rw [folding.slash, singleton_append, splitOnP_cons_eq_if_modifyHead,
        splitOnP_cons_eq_if_modifyHead, ih]
      rfl
    · rw [splitOnP_plain_append (folding.fold_plain slash), ih,
        splitOnP_cons_eq_if_modifyHead, if_neg (by simpa using slash)]
      cases rest.splitOnP (· == '/') <;> rfl

theorem takeWhile_casefold (text : List Char) :
    (folding.casefold text).takeWhile (· == '/') = text.takeWhile (· == '/') := by
  induction text with
  | nil => rfl
  | cons char rest ih =>
    rw [casefold_cons]
    by_cases slash : char = '/'
    · subst slash
      rw [folding.slash, singleton_append, takeWhile_cons, takeWhile_cons, ih]
    · rw [takeWhile_cons, if_neg (by simpa using slash)]
      have plain := folding.fold_plain slash
      cases folded : folding.fold char with
      | nil => exact absurd folded (folding.nonempty char)
      | cons head more =>
        rw [folded] at plain
        rw [cons_append, takeWhile_cons, plain head mem_cons_self]
        rfl

theorem initialSlashes_casefold (text : List Char) :
    initialSlashes (folding.casefold text) = initialSlashes text := by
  unfold initialSlashes
  rw [takeWhile_casefold]

theorem casefold_initialSlashes (text : List Char) :
    folding.casefold (initialSlashes text) = initialSlashes text := by
  unfold initialSlashes
  split
  · rfl
  · rw [casefold_cons, casefold_cons, folding.slash]
    rfl
  · rw [casefold_cons, folding.slash]
    rfl

theorem addPart_casefold (rooted : Bool) (before : List (List Char)) (part : List Char) :
    addPart rooted (before.map folding.casefold) (folding.casefold part) =
      (addPart rooted before part).map folding.casefold := by
  unfold addPart
  simp only [casefold_eq_nil_iff, casefold_eq_dot_iff, casefold_eq_dots_iff]
  split
  · rfl
  · split
    · cases before with
      | nil => cases rooted <;> rfl
      | cons last rest =>
        simp only [map_cons, casefold_eq_dots_iff]
        split <;> rfl
    · rfl

theorem normalParts_casefold (rooted : Bool) (text : List Char) :
    normalParts rooted (folding.casefold text) =
      (normalParts rooted text).map folding.casefold := by
  unfold normalParts
  have parts (pieces before : List (List Char)) :
      (pieces.map folding.casefold).foldl (addPart rooted) (before.map folding.casefold) =
        (pieces.foldl (addPart rooted) before).map folding.casefold := by
    induction pieces generalizing before with
    | nil => rfl
    | cons piece rest ih =>
      rw [map_cons, foldl_cons, addPart_casefold, ih, foldl_cons]
  rw [splitOnP_casefold, map_reverse]
  exact congrArg List.reverse (parts _ [])

theorem casefold_intercalate (parts : List (List Char)) :
    folding.casefold (['/'].intercalate parts) =
      ['/'].intercalate (parts.map folding.casefold) := by
  induction parts with
  | nil => rfl
  | cons first rest ih =>
    cases rest with
    | nil => simp [List.intercalate]
    | cons second more =>
      rw [map_cons, map_cons, intercalate_cons_cons, intercalate_cons_cons,
        casefold_append, casefold_append, ih, casefold_cons, folding.slash]
      rfl

/-- Folding the case of a normal path spells the normal path of the folded one. -/
theorem casefold_normpath (path : List Char) :
    folding.casefold (normpath path) = normpath (folding.casefold path) := by
  have whole : initialSlashes (folding.casefold path) ++ ['/'].intercalate
      (normalParts (initialSlashes (folding.casefold path) ≠ []) (folding.casefold path)) =
        folding.casefold (initialSlashes path ++ ['/'].intercalate
          (normalParts (initialSlashes path ≠ []) path)) := by
    rw [initialSlashes_casefold, normalParts_casefold, casefold_append, casefold_initialSlashes,
      casefold_intercalate]
  unfold normpath
  simp only [whole, casefold_eq_nil_iff]
  split
  · exact folding.casefold_eq_dot_iff.2 rfl
  · rfl

theorem isAbsolute_casefold (path : List Char) :
    isAbsolute (folding.casefold path) = isAbsolute path := by
  have starts (text : List Char) : isAbsolute text = !(text.takeWhile (· == '/')).isEmpty := by
    cases text with
    | nil => rfl
    | cons first rest =>
      unfold isAbsolute
      rw [List.head?_cons, takeWhile_cons]
      cases same : first == '/' <;> simp_all
  rw [starts, takeWhile_casefold, ← starts]

theorem getLast?_casefold (folder : List Char) :
    (folding.casefold folder).getLast? = some '/' ↔ folder.getLast? = some '/' := by
  rcases eq_nil_or_concat folder with rfl | ⟨front, last, rfl⟩
  · rfl
  · rw [concat_eq_append, casefold_append, casefold_cons, casefold_nil, append_nil,
      List.getLast?_append_of_ne_nil _ (folding.nonempty last), List.getLast?_concat,
      Option.some_inj]
    constructor
    · intro slash
      exact folding.slashOnly last (mem_of_getLast? slash)
    · rintro rfl
      rw [folding.slash]
      rfl

theorem casefold_joinText (folder path : List Char) : folding.casefold (joinText folder path) =
    joinText (folding.casefold folder) (folding.casefold path) := by
  unfold joinText
  simp only [casefold_eq_nil_iff, getLast?_casefold]
  split
  · exact folding.casefold_append _ _
  · rw [casefold_append, casefold_cons, folding.slash]
    rfl

/-- Paths that are equal but for their case have absolute paths that are. -/
theorem casefold_abspath {workingFolder first second : List Char}
    (same : folding.casefold first = folding.casefold second) :
    folding.casefold (abspath workingFolder first) =
      folding.casefold (abspath workingFolder second) := by
  have absolute : isAbsolute first = isAbsolute second := by
    rw [← folding.isAbsolute_casefold, same, isAbsolute_casefold]
  unfold abspath
  rw [casefold_normpath, casefold_normpath, absolute]
  split
  · rw [same]
  · rw [casefold_joinText, casefold_joinText, same]

end Folding

end Files

/-!
## Paths as `pathlib` compares them

A path with its root and its parts, the path that leads from one path to another below it, and
paths joined with relative ones. Two slashes at the start are another root than one, and the parts
`..` stay.
-/

namespace Files

open List

/-- `PurePosixPath`. -/
structure PosixPath where
  root : List Char
  parts : List (List Char)
deriving DecidableEq

namespace PosixPath

/-- The path that a text spells. -/
def parse (text : List Char) : PosixPath where
  root := initialSlashes text
  parts := (text.splitOnP (· == '/')).filter fun part => part ≠ [] ∧ part ≠ ['.']

def isAbsolute (path : PosixPath) : Bool :=
  path.root ≠ []

/-- `str`. -/
def text (path : PosixPath) : List Char :=
  if path.root = [] ∧ path.parts = [] then ['.'] else path.root ++ ['/'].intercalate path.parts

/-- `relative_to`, with `none` for a `ValueError`. -/
def relativeTo (path other : PosixPath) : Option PosixPath :=
  if path.root = other.root ∧ other.parts.isPrefixOf path.parts then
    some { root := [], parts := path.parts.drop other.parts.length }
  else none

/-- `/`, of a path and a relative one. -/
def join (base relative : PosixPath) : PosixPath :=
  if relative.root = [] then { base with parts := base.parts ++ relative.parts } else relative

variable {path other base relative next first second : PosixPath}

theorem join_relative (rootless : relative.root = []) :
    base.join relative = { base with parts := base.parts ++ relative.parts } :=
  if_pos rootless

theorem join_join (rootless : relative.root = []) (further : next.root = []) :
    (base.join relative).join next = base.join (relative.join next) := by
  rw [join_relative further, join_relative rootless, join_relative further, join_relative,
    append_assoc]
  exact rootless

/-- A path is below another exactly where a relative path leads from the one to the other. -/
theorem relativeTo_eq_some_iff :
    path.relativeTo other = some relative ↔ relative.root = [] ∧ path = other.join relative := by
  unfold relativeTo
  constructor
  · intro found
    split at found
    · rename_i below
      obtain ⟨sameRoot, starts⟩ := below
      obtain rfl := Option.some.inj found
      obtain ⟨rest, whole⟩ := isPrefixOf_iff_prefix.1 starts
      refine ⟨rfl, ?_⟩
      rw [join_relative rfl]
      cases path with
      | mk root parts =>
        obtain rfl : root = other.root := sameRoot
        obtain rfl : other.parts ++ rest = parts := whole
        rw [drop_left]
    · cases found
  · rintro ⟨rootless, rfl⟩
    rw [join_relative rootless]
    refine (if_pos ⟨rfl, isPrefixOf_iff_prefix.2 (prefix_append _ _)⟩).trans ?_
    rw [drop_left, ← rootless]

/-- Of two paths above a third one, one is above the other. -/
theorem nested_of_relativeTo {firstRelative secondRelative : PosixPath}
    (belowFirst : path.relativeTo first = some firstRelative)
    (belowSecond : path.relativeTo second = some secondRelative) :
    (∃ between, second.relativeTo first = some between ∧
        firstRelative = between.join secondRelative) ∨
      ∃ between, first.relativeTo second = some between ∧
        secondRelative = between.join firstRelative := by
  obtain ⟨rootless₁, whole₁⟩ := relativeTo_eq_some_iff.1 belowFirst
  obtain ⟨rootless₂, whole₂⟩ := relativeTo_eq_some_iff.1 belowSecond
  have same := whole₁.symm.trans whole₂
  rw [join_relative rootless₁, join_relative rootless₂, PosixPath.mk.injEq] at same
  obtain ⟨roots, parts⟩ := same
  have above {upper lower : PosixPath} (roots : upper.root = lower.root) {rest : List (List Char)}
      (longer : lower.parts = upper.parts ++ rest) :
      lower.relativeTo upper = some { root := [], parts := rest } := by
    refine relativeTo_eq_some_iff.2 ⟨rfl, ?_⟩
    rw [join_relative rfl, ← longer, roots]
  rcases append_eq_append_iff.1 parts with ⟨rest, longer, tail⟩ | ⟨rest, longer, tail⟩
  · refine .inl ⟨_, above roots longer, ?_⟩
    rw [join_relative rootless₂, ← tail, ← rootless₁]
  · refine .inr ⟨_, above roots.symm longer, ?_⟩
    rw [join_relative rootless₁, ← tail, ← rootless₂]

end PosixPath

end Files
