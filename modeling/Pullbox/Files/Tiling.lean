import Mathlib.Data.List.Basic

/-!
# Pieces of a whole

Content together with the place it has in a larger whole, and pieces that follow one another
without a gap and without an overlap.
-/

namespace Files

universe u

/-- Content and where it begins. -/
structure Piece (α : Type u) where
  start : Nat
  content : List α

variable {α : Type u} {pieces more : List (Piece α)} {piece : Piece α}
  {start middle stop : Nat} {whole : List α}

/-- The contents in their order. -/
def contents (pieces : List (Piece α)) : List α :=
  pieces.flatMap (·.content)

@[simp]
theorem contents_cons : contents (piece :: pieces) = piece.content ++ contents pieces :=
  rfl

/-- Each piece begins where the one before it ended. -/
inductive Tiles : Nat → List (Piece α) → Nat → Prop where
  | nil {start : Nat} : Tiles start [] start
  | cons {piece : Piece α} {pieces : List (Piece α)} {stop : Nat}
      (rest : Tiles (piece.start + piece.content.length) pieces stop) :
      Tiles piece.start (piece :: pieces) stop

namespace Tiles

theorem one (piece : Piece α) :
    Tiles piece.start [piece] (piece.start + piece.content.length) :=
  .cons .nil

theorem append (first : Tiles start pieces middle) (second : Tiles middle more stop) :
    Tiles start (pieces ++ more) stop := by
  induction first with
  | nil => exact second
  | cons _ ih => exact .cons (ih second)

/-- What is written behind the pieces continues them. -/
theorem snoc (tiles : Tiles start pieces piece.start) :
    Tiles start (pieces ++ [piece]) (piece.start + piece.content.length) :=
  tiles.append (one piece)

theorem length_eq (tiles : Tiles start pieces stop) :
    start + (contents pieces).length = stop := by
  induction tiles with
  | nil => rfl
  | cons _ ih =>
    rw [contents_cons, List.length_append, ← Nat.add_assoc]
    exact ih

theorem length_contents (tiles : Tiles 0 pieces stop) : (contents pieces).length = stop := by
  have total := tiles.length_eq
  rwa [Nat.zero_add] at total

end Tiles

/-- A piece is what stands at its place of the whole. -/
def Piece.Of (whole : List α) (piece : Piece α) : Prop :=
  piece.content <+: whole.drop piece.start

/-- Pieces of one whole that tile a stretch of it are that stretch. -/
theorem Tiles.prefix_drop (tiles : Tiles start pieces stop)
    (same : ∀ piece ∈ pieces, piece.Of whole) : contents pieces <+: whole.drop start := by
  induction tiles with
  | nil => exact List.nil_prefix
  | @cons piece pieces stop _ ih =>
    obtain ⟨after, here⟩ := same piece List.mem_cons_self
    obtain ⟨last, there⟩ := ih fun other inside => same other (List.mem_cons_of_mem _ inside)
    refine ⟨last, ?_⟩
    rw [← List.drop_drop, ← here, List.drop_left] at there
    rw [contents_cons, List.append_assoc, there, here]

/-- Pieces of one whole that tile it from its beginning are its first part. -/
theorem Tiles.contents_eq_take (tiles : Tiles 0 pieces stop)
    (same : ∀ piece ∈ pieces, piece.Of whole) : contents pieces = whole.take stop := by
  have front := tiles.prefix_drop same
  rw [List.drop_zero] at front
  rw [← tiles.length_contents]
  exact List.prefix_iff_eq_take.1 front

end Files
