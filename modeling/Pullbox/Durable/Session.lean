import Mathlib.Logic.Basic

/-!
# Sessions

A session reads and writes a state and may raise an exception; what it wrote before stays
written. `Session.Ends` says how it ends: one postcondition for a value and one for an
exception.
-/

namespace Durable

universe u

abbrev Session (ε σ α : Type u) : Type u :=
  EStateM ε σ α

namespace Session

variable {ε σ α β : Type u} {state : σ} {returns : α → σ → Prop} {raises : ε → σ → Prop}
  {session : Session ε σ α}

/-- The session returns into `returns` or raises into `raises`. -/
def Ends (session : Session ε σ α) (state : σ) (returns : α → σ → Prop)
    (raises : ε → σ → Prop) : Prop :=
  match session.run state with
  | .ok value after => returns value after
  | .error error after => raises error after

/-- Raise under a condition. -/
def refuseIf (condition : Prop) [Decidable condition] (error : ε) : Session ε σ PUnit :=
  if condition then throw error else pure ⟨⟩

/-- Run a session on the value of an option. -/
def whenSome {κ : Type u} (given : Option κ) (session : κ → Session ε σ PUnit) :
    Session ε σ PUnit :=
  match given with
  | some value => session value
  | none => pure ⟨⟩

/-- A session and what follows its value or its exception: handlers and final blocks. -/
def conclude (body : Session ε σ α) (returned : α → Session ε σ β) (raised : ε → Session ε σ β) :
    Session ε σ β := fun state =>
  match body.run state with
  | .ok value after => (returned value).run after
  | .error error after => (raised error).run after

theorem ends_pure {value : α} : Ends (pure value) state returns raises ↔ returns value state :=
  Iff.rfl

theorem ends_throw {error : ε} :
    Ends (throw error : Session ε σ α) state returns raises ↔ raises error state :=
  Iff.rfl

theorem ends_get {returns : σ → σ → Prop} :
    Ends get state returns raises ↔ returns state state :=
  Iff.rfl

theorem ends_modify {change : σ → σ} {returns : PUnit → σ → Prop} :
    Ends (modify change) state returns raises ↔ returns ⟨⟩ (change state) :=
  Iff.rfl

theorem ends_bind {first : Session ε σ α} {next : α → Session ε σ β} {returns : β → σ → Prop} :
    Ends (first >>= next) state returns raises ↔
      Ends first state (fun value after => Ends (next value) after returns raises) raises := by
  simp only [Ends, EStateM.run_bind]
  cases first.run state <;> rfl

theorem ends_conclude {body : Session ε σ α} {returned : α → Session ε σ β}
    {raised : ε → Session ε σ β} {returns : β → σ → Prop} :
    Ends (conclude body returned raised) state returns raises ↔
      Ends body state (fun value after => Ends (returned value) after returns raises)
        (fun error after => Ends (raised error) after returns raises) := by
  simp only [Ends, conclude, EStateM.run]
  cases body state <;> rfl

theorem ends_refuseIf {condition : Prop} [Decidable condition] {error : ε}
    {returns : PUnit → σ → Prop} :
    Ends (refuseIf condition error) state returns raises ↔
      (condition → raises error state) ∧ (¬ condition → returns ⟨⟩ state) := by
  unfold refuseIf
  by_cases holds : condition
  · simp [holds, ends_throw]
  · simp [holds, ends_pure]

theorem ends_whenSome {κ : Type u} {given : Option κ} {session : κ → Session ε σ PUnit}
    {returns : PUnit → σ → Prop} :
    Ends (whenSome given session) state returns raises ↔
      (given = none → returns ⟨⟩ state) ∧
        ∀ value, given = some value → Ends (session value) state returns raises := by
  cases given with
  | none => simp [whenSome, ends_pure]
  | some value => simp [whenSome]

/-- Weaker postconditions. -/
theorem Ends.mono {wider : α → σ → Prop} {widerRaises : ε → σ → Prop}
    (ends : Ends session state returns raises)
    (returned : ∀ value after, returns value after → wider value after)
    (raised : ∀ error after, raises error after → widerRaises error after) :
    Ends session state wider widerRaises := by
  unfold Ends at ends ⊢
  cases result : session.run state with
  | ok value after =>
    rw [result] at ends
    exact returned _ _ ends
  | error error after =>
    rw [result] at ends
    exact raised _ _ ends

theorem Ends.ok (ends : Ends session state returns raises) {value : α}
    {after : σ} (result : session.run state = .ok value after) : returns value after := by
  unfold Ends at ends
  rw [result] at ends
  exact ends

theorem Ends.error (ends : Ends session state returns raises)
    {error : ε} {after : σ} (result : session.run state = .error error after) :
    raises error after := by
  unfold Ends at ends
  rw [result] at ends
  exact ends

end Session

end Durable
