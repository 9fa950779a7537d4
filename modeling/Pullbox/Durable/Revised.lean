import Mathlib.Data.Int.Order.Basic
import Mathlib.Tactic.Common

/-!
# Values with a revision

A value is replaced only by one with a greater revision. The same revision is accepted with the
same value, which changes nothing.
-/

namespace Durable

universe u

/-- A value with the revision it was stored under. -/
structure Revised (Value : Type u) where
  revision : Nat
  value : Value

namespace Revised

/-- Why an offer is refused. -/
inductive Refusal where
  /-- The revision has another value. -/
  | differs
  /-- There is a greater revision. -/
  | old

variable {Value : Type u} [DecidableEq Value] {current after : Revised Value} {revision : Int}
  {value : Value}

/-- A value with its revision is offered. -/
def offer (current : Revised Value) (revision : Int) (value : Value) :
    Except Refusal (Revised Value) :=
  if revision = current.revision then
    if value = current.value then .ok current else .error .differs
  else if revision < current.revision then .error .old
  else .ok ⟨revision.toNat, value⟩

/-- The value that is already there. -/
theorem offer_same : current.offer current.revision current.value = .ok current := by
  rw [offer, if_pos rfl, if_pos rfl]

theorem offer_differs (other : value ≠ current.value) :
    current.offer current.revision value = .error .differs := by
  rw [offer, if_pos rfl, if_neg other]

theorem offer_old (less : revision < current.revision) :
    current.offer revision value = .error .old := by
  rw [offer, if_neg (Int.ne_of_lt less), if_pos less]

theorem offer_new (greater : current.revision < revision) :
    current.offer revision value = .ok ⟨revision.toNat, value⟩ := by
  rw [offer, if_neg (Int.ne_of_gt greater), if_neg (not_lt.2 (Int.le_of_lt greater))]

/-- What is accepted is the current value, or has a greater revision. -/
theorem offer_accepted (accepted : current.offer revision value = .ok after) :
    (after = current ∧ revision = current.revision ∧ value = current.value) ∨
      (current.revision < revision ∧ after = ⟨revision.toNat, value⟩) := by
  rcases lt_trichotomy revision (current.revision : Int) with less | same | greater
  · rw [offer_old less] at accepted
    cases accepted
  · subst same
    by_cases equal : value = current.value
    · rw [equal, offer_same] at accepted
      cases accepted
      exact .inl ⟨rfl, rfl, equal⟩
    · rw [offer_differs equal] at accepted
      cases accepted
  · rw [offer_new greater] at accepted
    cases accepted
    exact .inr ⟨greater, rfl⟩

theorem offer_revision (accepted : current.offer revision value = .ok after) :
    (after.revision : Int) = revision ∧ after.value = value ∧
      current.revision ≤ after.revision := by
  rcases offer_accepted accepted with ⟨rfl, same, equal⟩ | ⟨greater, rfl⟩
  · exact ⟨same.symm, equal.symm, Nat.le_refl _⟩
  · exact ⟨Int.toNat_of_nonneg (by omega), rfl, by simp only; omega⟩

/-- The same value, or one with a greater revision. -/
def Follows (current after : Revised Value) : Prop :=
  after = current ∨ current.revision < after.revision

omit [DecidableEq Value] in
theorem Follows.refl (current : Revised Value) : current.Follows current :=
  .inl rfl

omit [DecidableEq Value] in
theorem Follows.revision_le (follows : current.Follows after) :
    current.revision ≤ after.revision := by
  rcases follows with rfl | greater
  · exact Nat.le_refl _
  · exact Nat.le_of_lt greater

omit [DecidableEq Value] in
theorem Follows.trans {later : Revised Value} (first : current.Follows after)
    (second : after.Follows later) : current.Follows later := by
  rcases first with rfl | greater
  · exact second
  · exact .inr (Nat.lt_of_lt_of_le greater second.revision_le)

theorem offer_follows (accepted : current.offer revision value = .ok after) :
    current.Follows after := by
  rcases offer_accepted accepted with ⟨rfl, _⟩ | ⟨greater, rfl⟩
  · exact .refl _
  · right
    simp only
    omega

end Revised

end Durable
