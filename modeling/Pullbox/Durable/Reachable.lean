import Pullbox.Durable.Program

/-!
# Runs of a system of programs

A system takes labelled steps between durable states. A program started on a durable state
leaves the state it ended with, or, if the process dies, the state its last durable step
made. Invariants of a guarded run are proved once, here, by induction on the run.
-/

namespace Durable

open Option

universe u

variable {σ δ μ ε α ι : Type u}

namespace Program

/-- The durable states one start of a program can leave: the final one, or the one made by
its last durable step before a crash. A crash before the first step leaves the start. -/
inductive Leaves (program : Program σ δ μ ε α) (frame : Frame σ δ) : Option μ → δ → Prop where
  | completed : Leaves program frame none (program frame).frame.durable
  | crashed {mark durable} (found : (mark, durable) ∈ (program frame).trail) :
      Leaves program frame (some mark) durable

/-- What a weakest precondition says about every state a program can leave. -/
theorem Leaves.of_wp {program : Program σ δ μ ε α} {frame : Frame σ δ} {mark : Option μ}
    {durable : δ} (leaves : Leaves program frame mark durable)
    {returns : α → Frame σ δ → Prop} {raises : ε → Frame σ δ → Prop} {crashes : μ → δ → Prop}
    (holds : wp program returns raises crashes frame) (post : Option μ → δ → Prop)
    (returned : ∀ value after, returns value after → post none after.durable)
    (raised : ∀ failure after, raises failure after → post none after.durable)
    (crashed : ∀ mark durable, crashes mark durable → post (some mark) durable) :
    post mark durable := by
  cases leaves with
  | completed =>
    cases result : (program frame).result with
    | ok value => exact returned value _ (holds.returned result)
    | error failure => exact raised failure _ (holds.raised result)
  | crashed found => exact crashed _ _ (holds.1 _ _ found)

end Program

/-- The states reached from an initial one by steps that an allowance admits. -/
inductive Reachable (initial : δ → Prop) (allowed : ι → δ → Prop) (step : ι → δ → δ → Prop) :
    δ → Prop where
  | start {state} (valid : initial state) : Reachable initial allowed step state
  | next {state label after} (prior : Reachable initial allowed step state)
      (admitted : allowed label state) (transition : step label state after) :
      Reachable initial allowed step after

namespace Reachable

variable {initial : δ → Prop} {allowed wider : ι → δ → Prop} {step : ι → δ → δ → Prop}
  {state after : δ} {labels : List ι}

/-- A property of the initial states that every admitted step keeps holds throughout. -/
theorem invariant {property : δ → Prop} {state : δ}
    (reachable : Reachable initial allowed step state)
    (starts : ∀ state, initial state → property state)
    (kept : ∀ label state after, property state → allowed label state →
      step label state after → property after) : property state := by
  induction reachable with
  | start valid => exact starts _ valid
  | next _ admitted transition ih => exact kept _ _ _ ih admitted transition

/-- The same, for a property that is kept by the steps from reachable states. -/
theorem induction {property : δ → Prop} {state : δ}
    (reachable : Reachable initial allowed step state)
    (starts : ∀ state, initial state → property state)
    (kept : ∀ label state after, Reachable initial allowed step state → property state →
      allowed label state → step label state after → property after) : property state := by
  induction reachable with
  | start valid => exact starts _ valid
  | next prior admitted transition ih => exact kept _ _ _ prior ih admitted transition

/-- Admitting more steps reaches at least as much. -/
theorem mono {state : δ} (reachable : Reachable initial allowed step state)
    (widens : ∀ label state, allowed label state → wider label state) :
    Reachable initial wider step state := by
  induction reachable with
  | start valid => exact .start valid
  | next _ admitted transition ih => exact .next ih (widens _ _ admitted) transition

/-- Labels that are admitted everywhere run from a reached state to a reached state. -/
theorem run {next : δ → ι → Option δ}
    (reachable : Reachable initial allowed (fun label state after => next state label = some after)
      state)
    (free : ∀ label ∈ labels, ∀ state, allowed label state)
    (ran : labels.foldlM next state = some after) :
    Reachable initial allowed (fun label state after => next state label = some after) after := by
  induction labels generalizing state with
  | nil => exact Option.some.inj ran ▸ reachable
  | cons label rest ih =>
    obtain ⟨between, first, later⟩ := bind_eq_some_iff.1 ran
    refine ih (.next reachable (free label List.mem_cons_self state) first) ?_ later
    intro other member
    exact free other (List.mem_cons_of_mem _ member)

/-- A run in which every label is checked is a run. -/
theorem foldlM_of_checked {next : δ → ι → Option δ}
    [∀ label state, Decidable (allowed label state)]
    (ran : labels.foldlM (fun state label => if allowed label state then next state label else none)
      state = some after) : labels.foldlM next state = some after := by
  induction labels generalizing state with
  | nil => exact ran
  | cons label rest ih =>
    obtain ⟨between, first, later⟩ := bind_eq_some_iff.1 ran
    obtain ⟨_, transition⟩ := ite_none_right_eq_some.1 first
    exact bind_eq_some_iff.2 ⟨between, transition, ih later⟩

/-- Labels that are admitted where they occur run from a reached state to a reached state. -/
theorem run_checked {next : δ → ι → Option δ}
    [∀ label state, Decidable (allowed label state)]
    (reachable : Reachable initial allowed (fun label state after => next state label = some after)
      state)
    (ran : labels.foldlM (fun state label => if allowed label state then next state label else none)
      state = some after) :
    Reachable initial allowed (fun label state after => next state label = some after) after := by
  induction labels generalizing state with
  | nil => exact Option.some.inj ran ▸ reachable
  | cons label rest ih =>
    obtain ⟨between, first, later⟩ := bind_eq_some_iff.1 ran
    obtain ⟨admitted, transition⟩ := ite_none_right_eq_some.1 first
    exact ih (.next reachable admitted transition) later

end Reachable

end Durable
