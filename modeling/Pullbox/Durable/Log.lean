import Mathlib.Data.List.Infix

/-!
# Files with a write-ahead log

A store is a main file of pages and a log of committed transactions; what it says is the main file
with the log replayed. A file that is copied over in place passes through the prefixes of the
source.
-/

namespace Durable

universe u

variable {Page : Type u}

/-- A committed transaction of the log: the pages it writes, and the size it leaves. -/
structure LogTransaction (Page : Type u) where
  frames : List (Nat × Page)
  size : Nat

/-- A main file and its log. What follows the last commit in the log is never replayed. -/
structure LoggedStore (Page : Type u) where
  main : List Page
  log : List (LogTransaction Page) := []
  unfinished : List (Nat × Page) := []

section Replay

variable [Inhabited Page]

def writePage (pages : List Page) (frame : Nat × Page) : List Page :=
  if frame.1 < pages.length then pages.set frame.1 frame.2
  else pages ++ List.replicate (frame.1 - pages.length) default ++ [frame.2]

def LogTransaction.apply (transaction : LogTransaction Page) (pages : List Page) : List Page :=
  (transaction.frames.foldl writePage pages).take transaction.size

def replay (log : List (LogTransaction Page)) (pages : List Page) : List Page :=
  log.foldl (fun pages transaction => transaction.apply pages) pages

/-- What is read from the store. -/
def LoggedStore.content (store : LoggedStore Page) : List Page :=
  replay store.log store.main

end Replay

/-- What a file holds step by step while a source is copied over it: it is truncated first. -/
def copyStages (source : List Page) : List (List Page) :=
  source.inits

theorem length_copyStages (source : List Page) :
    (copyStages source).length = source.length + 1 :=
  source.length_inits

theorem copyStages_getElem? {source : List Page} {index : Nat} (within : index ≤ source.length) :
    (copyStages source)[index]? = some (source.take index) := by
  have inside : index < source.inits.length := by
    rw [source.length_inits]
    omega
  rw [copyStages, List.getElem?_eq_getElem inside, List.getElem_inits]

section Steps

universe v

variable {σ : Type v}

/-- The state after some of the steps. -/
def runSteps (steps : List (σ → σ)) (state : σ) : σ :=
  steps.foldl (fun state step => step state) state

theorem runSteps_append (first second : List (σ → σ)) (state : σ) :
    runSteps (first ++ second) state = runSteps second (runSteps first state) :=
  List.foldl_append

/-- Steps that each put a value in its place leave the last one there. -/
theorem runSteps_put {α : Type u} (put : α → σ → σ)
    (overwrites : ∀ first second state, put second (put first state) = put second state)
    (values : List α) (state : σ) :
    runSteps (values.map put) state =
      match values.getLast? with
      | none => state
      | some value => put value state := by
  induction values generalizing state with
  | nil => rfl
  | cons value rest ih =>
    change runSteps (rest.map put) (put value state) = _
    rw [ih, List.getLast?_cons]
    cases rest.getLast? with
    | none => rfl
    | some last => exact overwrites value last state

end Steps

end Durable
