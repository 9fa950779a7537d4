import Mathlib.Data.Char
import Mathlib.Data.List.Lex
import Pullbox.Durable.Results
import Pullbox.Files.Normal
import Pullbox.Import.MisplacedSources

/-!
# Path mappings of a Mylar import

`core/mylar3_path_mapping.py`: where the paths that Mylar has stored are seen by Pullbox. A list of
mappings is accepted if no two of them are about one stored path, and nested ones lead to the same
place; the scan then translates a path by the first mapping that it is below.
-/

namespace Pullbox.Import.PathMapping

open Durable (bind_eq_ok)
open Files (PosixPath)
open MisplacedSources (supportedPathFormatCharacters maxPathTextLength)

/-- A stored path and the one that Pullbox sees. -/
abbrev Mapping := List Char × List Char

/-- The Unicode tables. -/
structure Unicode where
  printable : Char → Bool
  spaceSeparator : Char → Bool

/-! ### Acceptance -/

/-- `MAX_MYLAR3_PATH_MAPPINGS`. -/
def maxMylar3PathMappings : ℕ := 16

def isInvalidPathText (unicode : Unicode) (value : List Char) : Bool :=
  value.isEmpty || maxPathTextLength < value.length ||
    value.any fun character =>
      !unicode.printable character && character ∉ supportedPathFormatCharacters &&
        !unicode.spaceSeparator character

/-- `_normalize_mapping_path`. -/
def normalizeMappingPath (unicode : Unicode) (value : List Char) (role : String) :
    Except String (List Char) :=
  let path := PosixPath.parse value
  if isInvalidPathText unicode value then
    .error s!"Mylar path mapping {role} prefix is invalid."
  else if !path.isAbsolute ∨ ['.', '.'] ∈ path.parts ∨ path = PosixPath.parse ['/'] then
    .error s!"Mylar path mapping {role} prefix must be a safe absolute directory path."
  else .ok path.text

/-- `_nested_mapping_conflicts`. -/
def nestedMappingConflicts (parentSource parentTarget childSource childTarget : PosixPath) : Bool :=
  match childSource.relativeTo parentSource with
  | none => false
  | some relative =>
    if relative.parts = [] then parentTarget ≠ childTarget
    else parentTarget.join relative ≠ childTarget

/-- Two mappings lead a path to different places. -/
def conflict (left right : Mapping) : Bool :=
  nestedMappingConflicts (PosixPath.parse left.1) (PosixPath.parse left.2)
      (PosixPath.parse right.1) (PosixPath.parse right.2) ||
    nestedMappingConflicts (PosixPath.parse right.1) (PosixPath.parse right.2)
      (PosixPath.parse left.1) (PosixPath.parse left.2)

/-- `has_conflicting_overlapping_mappings`. -/
def hasConflictingOverlappingMappings : List Mapping → Bool
  | [] => false
  | left :: rest => rest.any (conflict left) || hasConflictingOverlappingMappings rest

/-- One item of `normalize_mylar3_path_mapping_items`, after those in the dictionary. -/
def addMapping (unicode : Unicode) (normalized : List Mapping) (item : Mapping) :
    Except String (List Mapping) := do
  let normalizedSource ← normalizeMappingPath unicode item.1 "stored"
  let normalizedTarget ← normalizeMappingPath unicode item.2 "Pullbox-visible"
  if normalizedSource ∈ normalized.map Prod.fst then
    .error "Mylar path mapping contains a duplicate stored prefix."
  else if normalizedSource = normalizedTarget then
    .error "Mylar path mapping must not contain an identity entry; remove that mapping."
  else .ok (normalized ++ [(normalizedSource, normalizedTarget)])

/-- `normalize_mylar3_path_mapping_items`. -/
def normalizeMylar3PathMappingItems (unicode : Unicode) (items : List Mapping) :
    Except String (List Mapping) :=
  if maxMylar3PathMappings < items.length then
    .error s!"Mylar path mapping supports at most {maxMylar3PathMappings} entries."
  else do
    let normalized ← items.foldlM (addMapping unicode) []
    if hasConflictingOverlappingMappings normalized then
      .error
        "Mylar path mapping contains overlapping entries that resolve to different paths."
    else .ok normalized

/-! ### Translation -/

/-- Where a mapping leads a path, if the path is below what is stored. -/
def translated (path : PosixPath) (mapping : Mapping) : Option PosixPath :=
  (path.relativeTo (PosixPath.parse mapping.1)).map fun relative =>
    (PosixPath.parse mapping.2).join relative

/-- Where the first mapping leads that a path is below; `none` leaves the path alone. -/
def translate (mappings : List Mapping) (path : PosixPath) : Option PosixPath :=
  mappings.findSome? (translated path)

/-- The order of `sorted` by `(-len(parts), source, target)`. -/
def comesBefore (first second : Mapping) : Bool :=
  let firstParts := (PosixPath.parse first.1).parts.length
  let secondParts := (PosixPath.parse second.1).parts.length
  decide (secondParts < firstParts) ||
    (firstParts == secondParts &&
      (decide (first.1 < second.1) || (first.1 == second.1 && decide (first.2 ≤ second.2))))

/-- `ordered_mylar3_path_map_items`. -/
def orderedMylar3PathMapItems (mappings : List Mapping) : List Mapping :=
  mappings.insertionSort fun first second => comesBefore first second

variable {unicode : Unicode} {items mappings order : List Mapping} {first second left right : Mapping}
  {path firstTarget secondTarget : PosixPath}

/-! ### Nested mappings agree -/

/-- A path below two mappings of which the one is nested in the other. -/
theorem translated_nested {between firstRelative secondRelative : PosixPath}
    (consistent : nestedMappingConflicts (PosixPath.parse first.1) (PosixPath.parse first.2)
      (PosixPath.parse second.1) (PosixPath.parse second.2) = false)
    (nested : (PosixPath.parse second.1).relativeTo (PosixPath.parse first.1) = some between)
    (below : path.relativeTo (PosixPath.parse second.1) = some secondRelative)
    (whole : firstRelative = between.join secondRelative) :
    (PosixPath.parse first.2).join firstRelative =
      (PosixPath.parse second.2).join secondRelative := by
  obtain ⟨rootless, -⟩ := PosixPath.relativeTo_eq_some_iff.1 nested
  obtain ⟨further, -⟩ := PosixPath.relativeTo_eq_some_iff.1 below
  have targets : (PosixPath.parse first.2).join between = PosixPath.parse second.2 := by
    unfold nestedMappingConflicts at consistent
    simp only [nested] at consistent
    split at consistent
    · rename_i same
      rw [PosixPath.join_relative rootless, same, List.append_nil]
      simpa using consistent
    · simpa using consistent
  rw [whole, ← PosixPath.join_join rootless further, targets]

theorem translated_eq (consistent : conflict first second = false)
    (byFirst : translated path first = some firstTarget)
    (bySecond : translated path second = some secondTarget) : firstTarget = secondTarget := by
  obtain ⟨firstRelative, belowFirst, rfl⟩ := Option.map_eq_some_iff.1 byFirst
  obtain ⟨secondRelative, belowSecond, rfl⟩ := Option.map_eq_some_iff.1 bySecond
  obtain ⟨downwards, upwards⟩ := Bool.or_eq_false_iff.1 consistent
  rcases PosixPath.nested_of_relativeTo belowFirst belowSecond with
    ⟨between, nested, whole⟩ | ⟨between, nested, whole⟩
  · exact translated_nested downwards nested belowSecond whole
  · exact (translated_nested upwards nested belowFirst whole).symm

/-! ### Accepted mappings -/

/-- No path is led to different places. -/
def Unambiguous (mappings : List Mapping) (path : PosixPath) : Prop :=
  ∀ first ∈ mappings, ∀ second ∈ mappings, ∀ firstTarget secondTarget,
    translated path first = some firstTarget → translated path second = some secondTarget →
      firstTarget = secondTarget

theorem unambiguous_of_consistent (consistent : hasConflictingOverlappingMappings mappings = false)
    (path : PosixPath) : Unambiguous mappings path := by
  induction mappings with
  | nil => exact fun _ none => nomatch none
  | cons mapping rest ih =>
    obtain ⟨here, later⟩ := Bool.or_eq_false_iff.1 consistent
    have others : ∀ other ∈ rest, conflict mapping other = false := by
      intro other inside
      simpa using List.any_eq_false.1 here other inside
    intro first firstInside second secondInside firstTarget secondTarget byFirst bySecond
    rcases List.mem_cons.1 firstInside with rfl | firstLater <;>
      rcases List.mem_cons.1 secondInside with rfl | secondLater
    · exact Option.some.inj (byFirst.symm.trans bySecond)
    · exact translated_eq (others second secondLater) byFirst bySecond
    · exact (translated_eq (others first firstLater) bySecond byFirst).symm
    · exact ih later first firstLater second secondLater _ _ byFirst bySecond

theorem consistent_of_accepted
    (accepted : normalizeMylar3PathMappingItems unicode items = .ok mappings) :
    hasConflictingOverlappingMappings mappings = false := by
  unfold normalizeMylar3PathMappingItems at accepted
  split at accepted
  · cases accepted
  · obtain ⟨normalized, -, checked⟩ := bind_eq_ok.1 accepted
    split at checked
    · cases checked
    · rename_i consistent
      obtain rfl := Except.ok.inj checked
      exact Bool.not_eq_true _ ▸ consistent

/-- The first translation is that of every mapping that has one. -/
theorem translate_eq_some_iff (unambiguous : Unambiguous mappings path) {target : PosixPath} :
    translate mappings path = some target ↔
      ∃ mapping ∈ mappings, translated path mapping = some target := by
  constructor
  · intro found
    exact List.exists_of_findSome?_eq_some found
  · rintro ⟨mapping, inside, leads⟩
    cases found : translate mappings path with
    | none =>
      rw [List.findSome?_eq_none_iff.1 found mapping inside] at leads
      cases leads
    | some other =>
      obtain ⟨known, listed, leadsThere⟩ := List.exists_of_findSome?_eq_some found
      rw [unambiguous known listed mapping inside other target leadsThere leads]

theorem translate_eq_none_iff : translate mappings path = none ↔
    ∀ mapping ∈ mappings, path.relativeTo (PosixPath.parse mapping.1) = none := by
  unfold translate translated
  simp only [List.findSome?_eq_none_iff, Option.map_eq_none_iff]

/-- The order of mappings does not matter. -/
theorem translate_perm (unambiguous : Unambiguous mappings path) (reordered : order.Perm mappings) :
    translate order path = translate mappings path := by
  have ordered : Unambiguous order path := by
    intro first firstInside second secondInside
    exact unambiguous first (reordered.subset firstInside) second (reordered.subset secondInside)
  refine Option.ext fun target => ?_
  rw [translate_eq_some_iff ordered, translate_eq_some_iff unambiguous]
  simp only [reordered.mem_iff]

theorem ordered_perm (mappings : List Mapping) :
    (orderedMylar3PathMapItems mappings).Perm mappings :=
  List.perm_insertionSort _ _

/-- Accepted mappings lead a path to one place, whatever their order, and a path that is below none
of them is left alone. -/
theorem translate_unambiguous
    (accepted : normalizeMylar3PathMappingItems unicode items = .ok mappings) (path : PosixPath) :
    Unambiguous mappings path ∧
      (∀ order, order.Perm mappings → translate order path = translate mappings path) ∧
      (∀ order, order.Perm mappings →
        translate (orderedMylar3PathMapItems order) path = translate mappings path) ∧
      (translate mappings path = none ↔
        ∀ mapping ∈ mappings, path.relativeTo (PosixPath.parse mapping.1) = none) := by
  have unambiguous := unambiguous_of_consistent (consistent_of_accepted accepted) path
  refine ⟨unambiguous, fun order reordered => translate_perm unambiguous reordered,
    fun order reordered => ?_, translate_eq_none_iff⟩
  exact translate_perm unambiguous ((ordered_perm order).trans reordered)

/-- Comics in two stored folders, the one in the other, of which a slash too many is dropped. -/
def nestedItems : List Mapping :=
  [("/comics//marvel/".toList, "/library/marvel".toList), ("/comics".toList, "/library".toList)]

theorem nestedItems_accepted :
    normalizeMylar3PathMappingItems ⟨fun _ => true, fun _ => false⟩ nestedItems =
      .ok [("/comics/marvel".toList, "/library/marvel".toList),
        ("/comics".toList, "/library".toList)] := by
  decide +kernel

/-- The longest of two nested mappings applies. -/
theorem translate_unambiguous_nested :
    ∃ mappings,
      normalizeMylar3PathMappingItems ⟨fun _ => true, fun _ => false⟩ nestedItems = .ok mappings ∧
        Unambiguous mappings (PosixPath.parse "/comics/marvel/Thor".toList) ∧
        translate mappings (PosixPath.parse "/comics/marvel/Thor".toList) =
          some (PosixPath.parse "/library/marvel/Thor".toList) :=
  ⟨_, nestedItems_accepted, (translate_unambiguous nestedItems_accepted _).1, by decide +kernel⟩

/-- A folder that is led elsewhere takes along all that is below it, also where a mapping of its
own leads what is below. -/
theorem translate_join (accepted : normalizeMylar3PathMappingItems unicode items = .ok mappings)
    {target relative : PosixPath} (found : translate mappings path = some target)
    (rootless : relative.root = []) :
    translate mappings (path.join relative) = some (target.join relative) := by
  have unambiguous := unambiguous_of_consistent (consistent_of_accepted accepted)
  obtain ⟨mapping, inside, leads⟩ := (translate_eq_some_iff (unambiguous path)).1 found
  obtain ⟨rest, below, rfl⟩ := Option.map_eq_some_iff.1 leads
  obtain ⟨plain, rfl⟩ := PosixPath.relativeTo_eq_some_iff.1 below
  refine (translate_eq_some_iff (unambiguous _)).2 ⟨mapping, inside, ?_⟩
  rw [PosixPath.join_join plain rootless, PosixPath.join_join plain rootless]
  refine congrArg _ (PosixPath.relativeTo_eq_some_iff.2 ⟨?_, rfl⟩)
  rw [PosixPath.join_relative rootless]
  exact plain

/-- A path beneath both of two nested mappings goes by the inner one. -/
theorem translate_join_nested : ∃ mappings,
    normalizeMylar3PathMappingItems ⟨fun _ => true, fun _ => false⟩ nestedItems = .ok mappings ∧
      translate mappings (PosixPath.parse "/comics/marvel/Thor".toList) =
        some (PosixPath.parse "/library/marvel/Thor".toList) :=
  ⟨_, nestedItems_accepted, translate_join nestedItems_accepted
    (show translate _ (PosixPath.parse "/comics".toList) = some _ from rfl)
    (show (PosixPath.parse "marvel/Thor".toList).root = [] from rfl)⟩

end Pullbox.Import.PathMapping
