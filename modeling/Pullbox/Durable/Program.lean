import Mathlib.Logic.Basic

/-!
# Programs over volatile memory and a durable store

A process keeps volatile memory and changes a durable store (committed database
rows, a file tree) one indivisible step at a time. A crash throws the memory away
and leaves whatever the last durable step made, so a run is judged by three things:
what it returns, what it raises, and every durable state it passes through.
`Program.wp` is the corresponding weakest precondition with one postcondition for
each of the three.
-/

namespace Durable

universe u

/-- Volatile memory next to the durable store it works on. -/
structure Frame (σ δ : Type u) where
  memory : σ
  durable : δ

/-- One run: the marked durable steps in order, where it ended, and its result. -/
structure Outcome (σ δ μ ε α : Type u) where
  trail : List (μ × δ)
  frame : Frame σ δ
  result : Except ε α

/-- A deterministic program; `μ` marks the durable steps it takes. -/
def Program (σ δ μ ε α : Type u) : Type u :=
  Frame σ δ → Outcome σ δ μ ε α

namespace Program

variable {σ δ μ ε α β : Type u}

/-- Return a value without touching memory or store. -/
def ret (value : α) : Program σ δ μ ε α :=
  fun frame => ⟨[], frame, .ok value⟩

/-- Run one program and hand its value to the next; an exception skips the rest. -/
def andThen (first : Program σ δ μ ε α) (next : α → Program σ δ μ ε β) :
    Program σ δ μ ε β :=
  fun frame =>
    let before := first frame
    match before.result with
    | .ok value =>
      let after := next value before.frame
      ⟨before.trail ++ after.trail, after.frame, after.result⟩
    | .error raised => ⟨before.trail, before.frame, .error raised⟩

instance : Monad (Program σ δ μ ε) where
  pure := ret
  bind := andThen

/-- Raise an exception. -/
def raise (raised : ε) : Program σ δ μ ε α :=
  fun frame => ⟨[], frame, .error raised⟩

/-- Run a handler from the frame an exception left behind. -/
def handle (body : Program σ δ μ ε α) (handler : ε → Program σ δ μ ε α) :
    Program σ δ μ ε α :=
  fun frame =>
    let before := body frame
    match before.result with
    | .ok value => ⟨before.trail, before.frame, .ok value⟩
    | .error raised =>
      let after := handler raised before.frame
      ⟨before.trail ++ after.trail, after.frame, after.result⟩

/-- Read the volatile memory. -/
def peek : Program σ δ μ ε σ :=
  fun frame => ⟨[], frame, .ok frame.memory⟩

/-- Read the durable store. -/
def inspect : Program σ δ μ ε δ :=
  fun frame => ⟨[], frame, .ok frame.durable⟩

/-- Change the volatile memory only. -/
def remember (change : σ → σ) : Program σ δ μ ε PUnit :=
  fun frame => ⟨[], { frame with memory := change frame.memory }, .ok ⟨⟩⟩

/-- Reload memory from the durable store. -/
def reload (load : δ → σ → σ) : Program σ δ μ ε PUnit :=
  fun frame => ⟨[], { frame with memory := load frame.durable frame.memory }, .ok ⟨⟩⟩

/-- Take one indivisible durable step. -/
def persist (mark : μ) (change : σ → δ → δ) : Program σ δ μ ε PUnit :=
  fun frame =>
    let durable := change frame.memory frame.durable
    ⟨[(mark, durable)], { frame with durable := durable }, .ok ⟨⟩⟩

/-- Run a body once for every element, in order. -/
def each {κ : Type u} (body : κ → Program σ δ μ ε PUnit) :
    List κ → Program σ δ μ ε PUnit
  | [] => ret ⟨⟩
  | item :: rest => andThen (body item) fun _ => each body rest

/-- The weakest precondition: the run returns into `returns`, raises into `raises`,
and every durable state on its way satisfies `crashes`. -/
def wp (program : Program σ δ μ ε α) (returns : α → Frame σ δ → Prop)
    (raises : ε → Frame σ δ → Prop) (crashes : μ → δ → Prop) (frame : Frame σ δ) : Prop :=
  (∀ mark durable, (mark, durable) ∈ (program frame).trail → crashes mark durable) ∧
    match (program frame).result with
    | .ok value => returns value (program frame).frame
    | .error raised => raises raised (program frame).frame

variable {returns : α → Frame σ δ → Prop} {finishes : β → Frame σ δ → Prop}
  {raises : ε → Frame σ δ → Prop} {crashes : μ → δ → Prop} {frame : Frame σ δ}
  {program : Program σ δ μ ε α}

@[simp] theorem wp_pure {value : α} :
    wp (pure value : Program σ δ μ ε α) returns raises crashes frame ↔ returns value frame := by
  simp [wp, pure, ret]

@[simp] theorem wp_raise {raised : ε} :
    wp (raise raised : Program σ δ μ ε α) returns raises crashes frame ↔
      raises raised frame := by
  simp [wp, raise]

@[simp] theorem wp_peek {returns : σ → Frame σ δ → Prop} :
    wp (peek : Program σ δ μ ε σ) returns raises crashes frame ↔
      returns frame.memory frame := by
  simp [wp, peek]

@[simp] theorem wp_inspect {returns : δ → Frame σ δ → Prop} :
    wp (inspect : Program σ δ μ ε δ) returns raises crashes frame ↔
      returns frame.durable frame := by
  simp [wp, inspect]

@[simp] theorem wp_remember {returns : PUnit → Frame σ δ → Prop} {change : σ → σ} :
    wp (remember change : Program σ δ μ ε PUnit) returns raises crashes frame ↔
      returns ⟨⟩ { frame with memory := change frame.memory } := by
  simp [wp, remember]

@[simp] theorem wp_reload {returns : PUnit → Frame σ δ → Prop} {load : δ → σ → σ} :
    wp (reload load : Program σ δ μ ε PUnit) returns raises crashes frame ↔
      returns ⟨⟩ { frame with memory := load frame.durable frame.memory } := by
  simp [wp, reload]

@[simp] theorem wp_persist {returns : PUnit → Frame σ δ → Prop} {mark : μ}
    {change : σ → δ → δ} :
    wp (persist mark change : Program σ δ μ ε PUnit) returns raises crashes frame ↔
      crashes mark (change frame.memory frame.durable) ∧
        returns ⟨⟩ { frame with durable := change frame.memory frame.durable } := by
  simp [wp, persist]

@[simp] theorem wp_bind {first : Program σ δ μ ε α} {next : α → Program σ δ μ ε β} :
    wp (first >>= next) finishes raises crashes frame ↔
      wp first (fun value => wp (next value) finishes raises crashes) raises crashes frame := by
  simp only [wp, bind, andThen]
  cases (first frame).result with
  | ok value => grind
  | error raised => simp

@[simp] theorem wp_handle {body : Program σ δ μ ε α} {handler : ε → Program σ δ μ ε α} :
    wp (handle body handler) returns raises crashes frame ↔
      wp body returns (fun raised => wp (handler raised) returns raises crashes)
        crashes frame := by
  simp only [wp, handle]
  cases (body frame).result with
  | ok value => simp
  | error raised => grind

/-- Weaken all three postconditions at once. -/
theorem wp_mono {returns' : α → Frame σ δ → Prop}
    {raises' : ε → Frame σ δ → Prop} {crashes' : μ → δ → Prop}
    (holds : wp program returns raises crashes frame)
    (weakerReturns : ∀ value after, returns value after → returns' value after)
    (weakerRaises : ∀ raised after, raises raised after → raises' raised after)
    (weakerCrashes : ∀ mark durable, crashes mark durable → crashes' mark durable) :
    wp program returns' raises' crashes' frame := by
  obtain ⟨safe, post⟩ := holds
  refine ⟨fun mark durable found => weakerCrashes mark durable (safe mark durable found), ?_⟩
  cases equation : (program frame).result with
  | ok value =>
    rw [equation] at post
    exact weakerReturns value _ post
  | error raised =>
    rw [equation] at post
    exact weakerRaises raised _ post

/-- Sequencing through a midcondition, with one exceptional and one crash condition. -/
theorem wp_bind_of {first : Program σ δ μ ε α} {next : α → Program σ δ μ ε β}
    (middle : α → Frame σ δ → Prop) (holds : wp first middle raises crashes frame)
    (rest : ∀ value after, middle value after →
      wp (next value) finishes raises crashes after) :
    wp (first >>= next) finishes raises crashes frame :=
  wp_bind.2 (wp_mono holds rest (fun _ _ raised => raised) (fun _ _ crash => crash))

/-- Weaken the postcondition of a run that returns. -/
theorem wp_weaken {returns' : α → Frame σ δ → Prop}
    (holds : wp program returns raises crashes frame)
    (weaker : ∀ value after, returns value after → returns' value after) :
    wp program returns' raises crashes frame :=
  wp_mono holds weaker (fun _ _ raised => raised) (fun _ _ crash => crash)

/-- A loop keeps an invariant that its body keeps on every element. -/
theorem wp_each {κ : Type u} {body : κ → Program σ δ μ ε PUnit}
    (invariant : Frame σ δ → Prop) (items : List κ)
    (kept : ∀ item ∈ items, ∀ start, invariant start →
      wp (body item) (fun _ => invariant) raises crashes start)
    (start : Frame σ δ) (holds : invariant start) :
    wp (each body items) (fun _ => invariant) raises crashes start := by
  induction items generalizing start with
  | nil => exact wp_pure.2 holds
  | cons item rest ih =>
    refine wp_bind.2 (wp_mono (kept item (by simp) start holds) ?_ ?_ ?_)
    · exact fun _ after kept' => ih (fun next found => kept next (by simp [found])) after kept'
    · exact fun _ _ raised => raised
    · exact fun _ _ crash => crash

/-- Every run ends the way it ends. -/
theorem wp_self (program : Program σ δ μ ε α) (frame : Frame σ δ) :
    wp program
      (fun value after => (program frame).result = .ok value ∧ (program frame).frame = after)
      (fun raised after =>
        (program frame).result = .error raised ∧ (program frame).frame = after)
      (fun _ _ => True) frame := by
  refine ⟨fun _ _ _ => trivial, ?_⟩
  cases result : (program frame).result with
  | ok value => exact ⟨rfl, rfl⟩
  | error raised => exact ⟨rfl, rfl⟩

/-- A postcondition that holds however a run ends. -/
theorem wp_of_forall (returned : ∀ value after, returns value after)
    (raised : ∀ failure after, raises failure after) :
    wp program returns raises (fun _ _ => True) frame :=
  wp_mono (wp_self program frame) (fun _ _ _ => returned _ _) (fun _ _ _ => raised _ _)
    (fun _ _ _ => trivial)

/-- What a run returned satisfies its postcondition. -/
theorem wp.returned {value : α}
    (holds : wp program returns raises crashes frame)
    (result : (program frame).result = .ok value) : returns value (program frame).frame := by
  have post := holds.2
  rwa [result] at post

/-- What a run raised satisfies its exceptional postcondition. -/
theorem wp.raised {raised : ε}
    (holds : wp program returns raises crashes frame)
    (result : (program frame).result = .error raised) : raises raised (program frame).frame := by
  have post := holds.2
  rwa [result] at post

end Program

end Durable
