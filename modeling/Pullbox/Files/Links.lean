import Pullbox.Files.Tree

/-!
# Paths through links

A path is followed from the top of a tree, one step at a time; a link on the way leads on
from where it stands or from the top, and a path over too many links leads nowhere. A path
that a smaller tree still finds leads to the same place in the larger one.
-/

namespace Files

universe u

/-- One step of a path. -/
inductive Step (Name : Type u) where
  | up
  | name (name : Name)
deriving DecidableEq

instance lawfulStep : LawfulBEq (Step (List Char)) := inferInstance

/-- A path from the top. -/
abbrev Path (Name : Type u) :=
  List (Step Name)

/-- What is at a place. -/
inductive Node (Name : Type u) where
  | file
  | directory
  | link (fromTop : Bool) (target : Path Name)
deriving DecidableEq

namespace Tree

variable {Name : Type u}

/-- Follow a path up to the next link; `next` follows the rest from there. A link that is the
last step is followed only on demand. -/
def walk (tree : Tree Name (Node Name)) (follow : Bool)
    (next : List Name → Path Name → Option (List Name)) :
    List Name → Path Name → Option (List Name)
  | place, [] => some place
  | place, .up :: rest => walk tree follow next place.dropLast rest
  | place, .name name :: rest =>
    match tree (place ++ [name]) with
    | none => none
    | some .file => if rest.isEmpty then some (place ++ [name]) else none
    | some .directory => walk tree follow next (place ++ [name]) rest
    | some (.link fromTop target) =>
      if rest.isEmpty && !follow then
        some (place ++ [name])
      else
        next (if fromTop then [] else place) (target ++ rest)

/-- Follow a path over fewer than the given number of links. -/
def lookup (tree : Tree Name (Node Name)) (follow : Bool) :
    Nat → List Name → Path Name → Option (List Name)
  | 0, _, _ => none
  | links + 1, place, path => walk tree follow (lookup tree follow links) place path

/-- The links that one path may lead over. -/
def maxLinks : Nat := 40

/-- Where a path leads. -/
def find (tree : Tree Name (Node Name)) (path : Path Name) : Option (List Name) :=
  lookup tree true (maxLinks + 1) [] path

/-- Where the entry of a path is, a link itself when the path ends in one. -/
def entry (tree : Tree Name (Node Name)) (path : Path Name) : Option (List Name) :=
  lookup tree false (maxLinks + 1) [] path

/-- Follow a path up to the next link, past steps that are not there. -/
def resolveWalk (tree : Tree Name (Node Name)) (next : List Name → Path Name → List Name) :
    List Name → Path Name → List Name
  | place, [] => place
  | place, .up :: rest => resolveWalk tree next place.dropLast rest
  | place, .name name :: rest =>
    match tree (place ++ [name]) with
    | some (.link fromTop target) => next (if fromTop then [] else place) (target ++ rest)
    | _ => resolveWalk tree next (place ++ [name]) rest

/-- `resolve` over fewer than the given number of links; beyond them a path is read as it
is spelled. -/
def resolveOver (tree : Tree Name (Node Name)) : Nat → List Name → Path Name → List Name
  | 0, place, path =>
    path.foldl (fun place step =>
      match step with
      | .up => place.dropLast
      | .name name => place ++ [name]) place
  | links + 1, place, path => resolveWalk tree (resolveOver tree links) place path

/-- A path without its links, whether or not it leads anywhere. -/
def resolve (tree : Tree Name (Node Name)) (path : Path Name) : List Name :=
  resolveOver tree (maxLinks + 1) [] path

/-! ### Trees of a larger one -/

variable {smaller larger : Tree Name (Node Name)} {follow : Bool} {path : Path Name}
  {place : List Name}

theorem walk_mono (within : Within smaller larger)
    {inner outer : List Name → Path Name → Option (List Name)}
    (nexts : ∀ place path found, inner place path = some found → outer place path = some found)
    {found : List Name}
    (walked : walk smaller follow inner place path = some found) :
    walk larger follow outer place path = some found := by
  induction path generalizing place with
  | nil => exact walked
  | cons step rest ih =>
    cases step with
    | up => exact ih walked
    | name name =>
      simp only [walk] at walked ⊢
      cases here : smaller (place ++ [name]) with
      | none => simp [here] at walked
      | some node =>
        rw [here] at walked
        rw [within.eq_some here]
        cases node with
        | file => exact walked
        | directory => exact ih walked
        | link fromTop target =>
          split_ifs at walked ⊢ with last
          all_goals first | exact walked | exact nexts _ _ _ walked

theorem lookup_mono (within : Within smaller larger) {links : Nat} {found : List Name}
    (walked : lookup smaller follow links place path = some found) :
    lookup larger follow links place path = some found := by
  induction links generalizing place path found with
  | zero => exact walked
  | succ links ih => exact walk_mono within (fun _ _ _ => ih) walked

/-- A path that two trees find, what they share finds. -/
theorem walk_meet {left right : Tree Name (Node Name)} (leftWithin : Within left larger)
    (rightWithin : Within right larger)
    {leftNext rightNext next : List Name → Path Name → Option (List Name)}
    (nexts : ∀ place path found other, leftNext place path = some found →
      rightNext place path = some other → next place path = some found) {found other : List Name}
    (leftWalked : walk left follow leftNext place path = some found)
    (rightWalked : walk right follow rightNext place path = some other) :
    walk (left.meet right) follow next place path = some found := by
  induction path generalizing place with
  | nil => exact leftWalked
  | cons step rest ih =>
    cases step with
    | up => exact ih leftWalked rightWalked
    | name name =>
      simp only [walk] at leftWalked rightWalked ⊢
      cases leftHere : left (place ++ [name]) with
      | none => simp [leftHere] at leftWalked
      | some node =>
        cases rightHere : right (place ++ [name]) with
        | none => simp [rightHere] at rightWalked
        | some node' =>
          -- both are what the larger tree has there
          have same : node' = node :=
            Option.some.inj ((rightWithin.eq_some rightHere).symm.trans
              (leftWithin.eq_some leftHere))
          subst same
          rw [leftHere] at leftWalked
          rw [rightHere] at rightWalked
          rw [meet_eq_some leftHere rightHere]
          cases node' with
          | file => exact leftWalked
          | directory => exact ih leftWalked rightWalked
          | link fromTop target =>
            split_ifs at leftWalked rightWalked ⊢ with last
            all_goals
              first
                | exact leftWalked
                | exact nexts _ _ _ _ leftWalked rightWalked

theorem lookup_meet {left right : Tree Name (Node Name)} (leftWithin : Within left larger)
    (rightWithin : Within right larger) {links : Nat}
    {found other : List Name} (leftWalked : lookup left follow links place path = some found)
    (rightWalked : lookup right follow links place path = some other) :
    lookup (left.meet right) follow links place path = some found := by
  induction links generalizing place path found other with
  | zero => exact leftWalked
  | succ links ih =>
    exact walk_meet leftWithin rightWithin (fun _ _ _ _ => ih) leftWalked rightWalked

theorem find_mono (within : Within smaller larger)
    (found : smaller.find path = some place) : larger.find path = some place :=
  lookup_mono within found

theorem entry_mono (within : Within smaller larger)
    (found : smaller.entry path = some place) : larger.entry path = some place :=
  lookup_mono within found

/-- A path that leads nowhere in the larger tree leads nowhere in the smaller one. -/
theorem find_eq_none (within : Within smaller larger)
    (absent : larger.find path = none) : smaller.find path = none := by
  cases found : smaller.find path with
  | none => rfl
  | some place => simp [find_mono within found] at absent

variable [DecidableEq Name]

/-- A path that a removal from the larger tree does not break, a removal of any part of the
same from the smaller one does not break either. -/
theorem find_without (within : Within smaller larger)
    (kept : List Name → Bool) (found : smaller.find path ≠ none)
    (spared : (larger.without place fun _ => false).find path ≠ none) :
    (smaller.without place kept).find path ≠ none := by
  obtain ⟨here, left⟩ := Option.ne_none_iff_exists'.1 found
  obtain ⟨there, right⟩ := Option.ne_none_iff_exists'.1 spared
  have both := lookup_meet within (without_within larger place fun _ => false) left right
  have still := find_mono (meet_within_without within place kept) both
  exact Option.ne_none_iff_exists'.2 ⟨here, still⟩

/-! ### What a path names -/

/-- A path leads to a file; the top of a tree is a directory. -/
def isFile (tree : Tree Name (Node Name)) (path : Path Name) : Bool :=
  (tree.find path).any fun place => !place.isEmpty && tree place == some .file

def isDirectory (tree : Tree Name (Node Name)) (path : Path Name) : Bool :=
  (tree.find path).any fun place => place.isEmpty || tree place == some .directory

def isLink (tree : Tree Name (Node Name)) (path : Path Name) : Bool :=
  (tree.entry path).any fun place =>
    match tree place with
    | some (.link _ _) => true
    | _ => false

theorem isFile_iff {tree : Tree Name (Node Name)} :
    tree.isFile path = true ↔
      ∃ place, tree.find path = some place ∧ place ≠ [] ∧ tree place = some .file := by
  simp [isFile, Option.any_eq_true]

theorem isFile_mono (within : Within smaller larger)
    (file : smaller.isFile path = true) : larger.isFile path = true := by
  obtain ⟨place, found, inner, here⟩ := isFile_iff.1 file
  exact isFile_iff.2 ⟨place, find_mono within found, inner, within.eq_some here⟩

/-- No path leads to a file and to a directory. -/
theorem isDirectory_of_isFile {tree : Tree Name (Node Name)}
    (file : tree.isFile path = true) : tree.isDirectory path = false := by
  obtain ⟨place, found, inner, here⟩ := isFile_iff.1 file
  simp [isDirectory, found, inner, here]

end Tree

end Files
