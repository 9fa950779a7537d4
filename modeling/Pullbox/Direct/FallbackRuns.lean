import Pullbox.Direct.Coherence
import Pullbox.Direct.Selection

/-!
# Fallbacks over a run

A worker executes the selected artifact and goes on with the artifact of the fallback, where the
executor queued one. An explicit retry and a switch only act while no worker runs. What the
executor and every other operation write is arbitrary, up to the keys of the artifacts and the
routes of the plan.
-/

namespace Pullbox.Direct.Acquisition

open AcquisitionRows Durable List

/-- The rows, and the worker if there is one. -/
structure RouteState where
  rows : RouteRows
  /-- The artifact that the worker executes. -/
  worker : Option Nat
  /-- A worker was started. -/
  dispatched : Bool
  /-- The routes that were selected so far. -/
  tried : List String
  /-- The fallbacks so far. -/
  fallbacks : List FallbackTaken
  /-- The candidate names an alternate attempt. -/
  hasAlternate : Bool

/-- What one call of the executor does. -/
structure Execution where
  /-- The rows when it ends, or when it asks for another route. -/
  wrote : RouteRows
  /-- It asks for another route: the routes that are blocked then, and the time. -/
  fallback : Option ((String → Bool) × Instant)
  /-- The rows when it ends without the route it asked for. -/
  rested : RouteRows

/-- What happens to the routes of one acquisition. -/
inductive RouteEvent where
  | plan (snapshot : PlanSnapshot) (identity : String) (hostKind : DirectArtifactHostKind)
      (expectedSize : Option Nat) (timestamp : Instant)
  | dispatch (timestamp : Instant)
  | execute (execution : Execution)
  /-- The worker dies. -/
  | interrupt
  | retry (blocked : String → Bool) (timestamp : Instant)
  | switchSource (blocked : String → Bool) (target : Option String) (blockCurrent : Bool)
      (timestamp : Instant)
  /-- Any other operation. -/
  | touch (after : RouteRows)

/-- `_supports_provider_fallback`. -/
def supportsProviderFallback (rows : RouteRows) (hasAlternate : Bool) : Bool :=
  decide (rows.attempt.state = .failed) && hasAlternate &&
    rows.attempt.failureClass.any fun failureClass =>
      supportsRouteFallback failureClass || decide (failureClass = .providerUnavailable) ||
        decide (failureClass = .candidateInvalid)

namespace RouteState

/-- Rows whose selected artifact is another one. -/
def select (state : RouteState) (rows : RouteRows) : RouteState :=
  { state with rows := rows, tried := state.tried ++ rows.selected.map (·.artifactIdentity) }

/-- The rows after a fallback from an artifact. -/
def fellBack (state : RouteState) (failed : ArtifactRow) (blocked : String → Bool)
    (after : RouteRows) (fallback : ArtifactRow) : RouteState :=
  { state.select after with
    fallbacks := state.fallbacks ++
      [⟨state.rows.routes, state.tried, blocked, failed.artifactIdentity,
        fallback.artifactIdentity⟩] }

/-- `_dispatch_locked`, with the transition of `_mark_queued`. -/
def dispatch (state : RouteState) (artifact : Nat) (timestamp : Instant) : RouteState :=
  { state with
    rows :=
      if state.rows.attempt.state = .planned then
        { state.rows with attempt := state.rows.attempt.moved .queued timestamp }
      else state.rows
    worker := some artifact
    dispatched := true }

/-- The end of a turn of `_run`: the artifact that the worker goes on with, if it does. -/
def settle (state : RouteState) (current : Nat) : RouteState :=
  { state with
    worker :=
      if supportsProviderFallback state.rows state.hasAlternate then none
      else if state.rows.attempt.state ≠ .queued then none
      else
        match state.rows.selected with
        | [artifact] => if artifact.id = current then none else some artifact.id
        | _ => none }

/-- A turn of `_run`. -/
def execute (state : RouteState) (execution : Execution) : RouteState :=
  match state.worker with
  | none => state
  | some current =>
    let wrote := { state with rows := execution.wrote }
    match execution.fallback, execution.wrote.find current with
    | some (blocked, timestamp), some failed =>
      match execution.wrote.queueNextArtifactRoute current blocked timestamp with
      | .ok (some (after, fallback)) =>
        (wrote.fellBack failed blocked after fallback).settle current
      | _ => { state with rows := execution.rested }.settle current
    | _, _ => wrote.settle current

/-- `retry`. -/
def retry (state : RouteState) (blocked : String → Bool) (timestamp : Instant) : RouteState :=
  match state.worker, state.rows.selected with
  | none, [artifact] =>
    match state.rows.resumed artifact with
    | .error _ => state
    | .ok resumed =>
      if blocked artifact.artifactIdentity then
        match resumed.queueNextArtifactRoute artifact.id blocked timestamp with
        | .ok (some (after, fallback)) =>
          ({ state with rows := resumed }.fellBack artifact blocked after fallback).dispatch
            fallback.id timestamp
        | _ => state
      else { state with rows := resumed }.dispatch artifact.id timestamp
  | _, _ => state

/-- The rest of `switch_source`, once the route is stopped. -/
def queueSwitch (state : RouteState) (blocked : String → Bool) (target : Option String)
    (blockCurrent : Bool) (timestamp : Instant) : RouteState :=
  match state.rows.selected with
  | [current] =>
    match state.rows.queueSourceSwitch current blocked target blockCurrent with
    | .error _ => state
    | .ok after =>
      match after.selected with
      | [replacement] => (state.select after).dispatch replacement.id timestamp
      | _ => state.select after
  | _ => state

/-- `switch_source`, once its workers have stopped. -/
def switchSource (state : RouteState) (blocked : String → Bool) (target : Option String)
    (blockCurrent : Bool) (timestamp : Instant) : RouteState :=
  match state.worker, state.rows.selected with
  | none, [current] =>
    if state.rows.attempt.state = .cancelled then
      state.queueSwitch blocked target blockCurrent timestamp
    else
      match state.rows.cancel current timestamp with
      | .error _ => state
      | .ok cancelled =>
        { state with rows := cancelled }.queueSwitch blocked target blockCurrent timestamp
  | _, _ => state

def step (state : RouteState) : RouteEvent → RouteState
  | .plan snapshot identity hostKind expectedSize timestamp =>
    match state.rows.planDirectAcquisition snapshot identity hostKind expectedSize timestamp with
    | .error _ => state
    | .ok after => state.select after
  | .dispatch timestamp =>
    match state.worker, state.rows.selected with
    | none, [artifact] => state.dispatch artifact.id timestamp
    | _, _ => state
  | .execute execution => state.execute execution
  | .interrupt => { state with worker := none }
  | .retry blocked timestamp => state.retry blocked timestamp
  | .switchSource blocked target blockCurrent timestamp =>
    state.switchSource blocked target blockCurrent timestamp
  | .touch after => { state with rows := after }

/-- What executors and other operations may write. -/
def Admits : RouteEvent → RouteState → Prop
  | .execute execution, state =>
    Keeps state.rows execution.wrote ∧ Keeps state.rows execution.rested
  | .touch after, state => Keeps state.rows after
  | _, _ => True

/-- A new acquisition. -/
structure Started (state : RouteState) : Prop where
  artifacts : state.rows.artifacts = []
  worker : state.worker = none
  dispatched : state.dispatched = false
  tried : state.tried = []
  fallbacks : state.fallbacks = []

/-- What every run keeps. -/
structure Valid (state : RouteState) : Prop where
  selection : state.rows.Selection
  discovered : state.rows.attempt.state = .discovered → state.rows.artifacts = []
  worker : ∀ current, state.worker = some current →
    ∃ artifact, state.rows.selected = [artifact] ∧ artifact.id = current
  dispatched : state.dispatched = true → state.rows.artifacts ≠ []
  tried : ∀ identity ∈ state.tried, identity ∈ state.rows.attempted
  fallbacks : ∀ taken ∈ state.fallbacks, taken.Sound

variable {state : RouteState} {after : RouteRows} {artifact fallback : ArtifactRow}
  {blocked : String → Bool} {timestamp : Instant} {current : Nat} {execution : Execution}

theorem Started.valid (started : state.Started) : state.Valid where
  selection :=
    { ids := by rw [started.artifacts]; exact nodup_nil
      below := by simp [started.artifacts]
      identities := by rw [attempted, started.artifacts]; exact nodup_nil
      single := .inl started.artifacts }
  discovered := fun _ => started.artifacts
  worker := by simp [started.worker]
  dispatched := by simp [started.dispatched]
  tried := by simp [started.tried]
  fallbacks := by simp [started.fallbacks]

/-- An operation that keeps the keys and the routes. -/
theorem Valid.keeps (valid : state.Valid) (keeps : Keeps state.rows after) :
    Valid { state with rows := after } where
  selection := valid.selection.keeps keeps
  discovered := fun discovered => keeps.nil_iff.2 (valid.discovered (keeps.discovered discovered))
  worker := by
    intro current working
    obtain ⟨artifact, selected, id⟩ := valid.worker current working
    obtain ⟨kept, same, key⟩ := keeps.of_selected selected
    exact ⟨kept, same, (congrArg (·.1) key).trans id⟩
  dispatched := fun dispatched none => valid.dispatched dispatched (keeps.nil_iff.1 none)
  tried := fun identity tried => keeps.attempted ▸ valid.tried identity tried
  fallbacks := valid.fallbacks

theorem Valid.idle (valid : state.Valid) : Valid { state with worker := none } :=
  { valid with worker := fun _ working => nomatch working }

/-- A worker that executes the selected artifact. -/
theorem Valid.working (valid : state.Valid) (selected : state.rows.selected = [artifact])
    (dispatched : Bool) :
    Valid { state with worker := some artifact.id, dispatched := dispatched } :=
  { valid with
    worker := fun _ working => ⟨artifact, selected, Option.some.inj working⟩
    dispatched := fun _ => ne_nil_of_selected selected }

/-- Rows in which another artifact is selected, without a worker. -/
theorem Valid.select (valid : state.Valid) (selection : after.Selection)
    (selected : after.selected = [artifact])
    (grown : ∀ identity ∈ state.rows.attempted, identity ∈ after.attempted)
    (moved : after.attempt.state ≠ .discovered) :
    Valid { state.select after with worker := none } where
  selection := selection
  discovered := fun discovered => absurd discovered moved
  worker := fun _ working => nomatch working
  dispatched := fun _ => ne_nil_of_selected selected
  tried := by
    intro identity tried
    rcases mem_append.1 tried with earlier | now
    · exact grown identity (valid.tried identity earlier)
    · rw [selected] at now
      have same := mem_singleton.1 now
      rw [same]
      exact mem_map_of_mem (mem_of_selected selected)
  fallbacks := valid.fallbacks

/-- A fallback that is queued, without a worker. -/
theorem Valid.fellBack (valid : state.Valid)
    (queued : state.rows.Queued artifact blocked after fallback) :
    Valid { state.fellBack artifact blocked after fallback with worker := none } := by
  have grown : ∀ identity ∈ state.rows.attempted, identity ∈ after.attempted := by
    intro identity tried
    rw [queued.attempted]
    exact mem_append_left _ tried
  have moved : after.attempt.state ≠ .discovered := by
    rw [queued.state]
    decide
  have chosen := valid.select queued.selection queued.selected grown moved
  refine { chosen with fallbacks := ?_ }
  intro taken member
  rcases mem_append.1 member with earlier | now
  · exact valid.fallbacks taken earlier
  · rw [mem_singleton.1 now]
    have sound := queued.sound
    exact ⟨fun tried => sound.untried (valid.tried _ tried), sound.unblocked, sound.equivalent⟩

/-- A worker that settles executes the selected artifact. -/
theorem Valid.settle (valid : Valid { state with worker := none }) (current : Nat) :
    (state.settle current).Valid := by
  refine { valid with worker := ?_ }
  intro next working
  unfold RouteState.settle at working
  simp only at working
  split_ifs at working with provider resting
  split at working
  · rename_i artifact selected
    split_ifs at working
    exact ⟨artifact, selected, Option.some.inj working⟩
  · cases working

/-- The selected artifact is dispatched. -/
theorem Valid.dispatch (valid : state.Valid) (selected : state.rows.selected = [artifact])
    (timestamp : Instant) : (state.dispatch artifact.id timestamp).Valid := by
  by_cases planned : state.rows.attempt.state = .planned
  · have keeps : Keeps state.rows
        { state.rows with attempt := state.rows.attempt.moved .queued timestamp } :=
      ⟨rfl, rfl, rfl, fun discovered => nomatch discovered⟩
    have working := (valid.keeps keeps).working selected true
    unfold RouteState.dispatch
    rw [if_pos planned]
    exact working
  · have working := valid.working selected true
    unfold RouteState.dispatch
    rw [if_neg planned]
    exact working

/-- What a turn of the worker leaves. -/
theorem execute_cases (valid : state.Valid)
    (working : state.worker = some current) (admits : Admits (.execute execution) state) :
    (∃ rows, Keeps state.rows rows ∧
        state.execute execution = { state with rows := rows }.settle current) ∨
      ∃ failed blocked after fallback, Keeps state.rows execution.wrote ∧
        execution.wrote.selected = [failed] ∧ failed.id = current ∧
          execution.wrote.Queued failed blocked after fallback ∧
            state.execute execution =
              ({ state with rows := execution.wrote }.fellBack failed blocked after
                fallback).settle current := by
  obtain ⟨wrote, rested⟩ := admits
  obtain ⟨artifact, selected, rfl⟩ := valid.worker current working
  obtain ⟨kept, same, key⟩ := wrote.of_selected selected
  have id : kept.id = artifact.id := congrArg (·.1) key
  have selection := valid.selection.keeps wrote
  unfold RouteState.execute
  rw [working]
  simp only
  split
  · rename_i blocked timestamp failed asked found
    split
    · rename_i after fallback queued
      rw [← id, find_selected selection same] at found
      cases found
      rw [← id] at queued
      exact .inr ⟨kept, blocked, after, fallback, wrote, same, id,
        queueNextArtifactRoute_queued selection same queued, rfl⟩
    · exact .inl ⟨execution.rested, rested, rfl⟩
  · exact .inl ⟨execution.wrote, wrote, rfl⟩

theorem Valid.execute (valid : state.Valid)
    (admits : Admits (.execute execution) state) : (state.execute execution).Valid := by
  cases working : state.worker with
  | none =>
    unfold RouteState.execute
    rw [working]
    exact valid
  | some current =>
    rcases execute_cases valid working admits with ⟨rows, keeps, left⟩ |
      ⟨failed, blocked, after, fallback, keeps, _, _, queued, left⟩
    · rw [left]
      exact ((valid.keeps keeps).idle).settle current
    · rw [left]
      exact ((valid.keeps keeps).fellBack queued).settle current

theorem Valid.retry (valid : state.Valid) (blocked : String → Bool) (timestamp : Instant) :
    (state.retry blocked timestamp).Valid := by
  unfold RouteState.retry
  split
  · rename_i artifact idle selected
    split
    · exact valid
    · rename_i resumed reopened
      have keeps := resumed_keeps valid.selection selected reopened
      obtain ⟨kept, same, key⟩ := keeps.of_selected selected
      have id : kept.id = artifact.id := congrArg (·.1) key
      have identity : kept.artifactIdentity = artifact.artifactIdentity := congrArg (·.2.1) key
      have resumedValid := valid.keeps keeps
      split_ifs with unavailable
      · split
        · rename_i after fallback queued
          rw [← id] at queued
          have left := queueNextArtifactRoute_queued resumedValid.selection same queued
          have fellBack := resumedValid.fellBack left
          rw [RouteState.fellBack, identity] at fellBack
          exact fellBack.dispatch left.selected timestamp
        · exact valid
      · rw [← id]
        exact resumedValid.dispatch same timestamp
  · exact valid

theorem Valid.queueSwitch (valid : state.Valid) (target : Option String)
    (blockCurrent : Bool) :
    (state.queueSwitch blocked target blockCurrent timestamp).Valid := by
  unfold RouteState.queueSwitch
  split
  · rename_i current selected
    split
    · exact valid
    · rename_i after switched
      obtain ⟨selection, ⟨replacement, flagged⟩, grown, queued⟩ :=
        queueSourceSwitch_selected valid.selection selected switched
      have moved : after.attempt.state ≠ .discovered := by
        rw [queued]
        decide
      have chosen := valid.select selection flagged grown moved
      rw [flagged]
      exact chosen.dispatch flagged timestamp
  · exact valid

theorem Valid.switchSource (valid : state.Valid) (target : Option String) (blockCurrent : Bool) :
    (state.switchSource blocked target blockCurrent timestamp).Valid := by
  unfold RouteState.switchSource
  split
  · rename_i current _ selected
    split_ifs
    · exact valid.queueSwitch target blockCurrent
    · split
      · exact valid
      · rename_i cancelled stopped
        have keeps := cancel_keeps valid.selection selected stopped
        exact (valid.keeps keeps).queueSwitch target blockCurrent
  · exact valid

/-- One step keeps what every run keeps. -/
theorem Valid.step {event : RouteEvent} (valid : state.Valid) (admits : Admits event state) :
    (state.step event).Valid := by
  cases event with
  | plan snapshot identity hostKind expectedSize timestamp =>
    simp only [RouteState.step]
    split
    · exact valid
    · rename_i after planned
      obtain ⟨none, selection, ⟨first, selected⟩, queued⟩ :=
        planDirectAcquisition_selected valid.discovered planned
      have untried : ∀ identity ∈ state.rows.attempted, identity ∈ after.attempted := by
        intro identity tried
        rw [attempted, none] at tried
        cases tried
      have moved : after.attempt.state ≠ .discovered := by
        rw [queued]
        decide
      have chosen := valid.select selection selected untried moved
      refine { chosen with worker := ?_ }
      intro current working
      obtain ⟨artifact, present, _⟩ := valid.worker current working
      exact absurd none (ne_nil_of_selected present)
  | dispatch timestamp =>
    simp only [RouteState.step]
    split
    · rename_i artifact _ selected
      exact valid.dispatch selected timestamp
    · exact valid
  | execute execution => exact valid.execute admits
  | interrupt => exact valid.idle
  | retry blocked timestamp => exact valid.retry blocked timestamp
  | switchSource blocked target blockCurrent timestamp =>
    exact valid.switchSource target blockCurrent
  | touch after => exact valid.keeps admits

/-! ## The loop of a worker -/

/-- The routes of the plan that were not tried. -/
def untried (rows : RouteRows) : Nat :=
  (rows.routes.map (·.artifactIdentity)).countP fun route =>
    route.any fun identity => !rows.attempted.contains identity

theorem untried_le (rows : RouteRows) : untried rows ≤ rows.routes.length := by
  have counted : untried rows ≤ (rows.routes.map (·.artifactIdentity)).length :=
    countP_le_length
  rwa [length_map] at counted

theorem untried_keeps {rows : RouteRows} (keeps : Keeps rows after) :
    untried after = untried rows := by
  rw [untried, keeps.allRoutes, keeps.attempted, untried]

/-- What holds of fewer elements, and of one element no longer. -/
theorem countP_lt {α : Type} {narrow wide : α → Bool} {list : List α} {element : α}
    (narrows : ∀ other ∈ list, narrow other = true → wide other = true)
    (member : element ∈ list) (out : narrow element = false) (held : wide element = true) :
    list.countP narrow < list.countP wide := by
  obtain ⟨before, rest, rfl⟩ := append_of_mem member
  have first : before.countP narrow ≤ before.countP wide := by
    apply countP_mono_left
    intro other found
    exact narrows other (mem_append_left _ found)
  have last : rest.countP narrow ≤ rest.countP wide := by
    apply countP_mono_left
    intro other found
    exact narrows other (mem_append_right _ (mem_cons_of_mem _ found))
  rw [countP_append, countP_append, countP_cons_of_pos held,
    countP_cons_of_neg (by rw [out]; exact Bool.false_ne_true)]
  omega

/-- A fallback tries one of them. -/
theorem untried_fellBack {rows : RouteRows} (queued : rows.Queued artifact blocked after fallback) :
    untried after < untried rows := by
  obtain ⟨route, member, chosen, _⟩ := queued.sound.equivalent
  have new := queued.sound.untried
  simp only at chosen new
  rw [untried, untried, queued.identities, queued.attempted]
  refine countP_lt ?_ (mem_map_of_mem member) ?_ ?_
  · intro other _
    cases other with
    | none => exact id
    | some identity =>
      simp only [Option.any_some, Bool.not_eq_true', contains_eq_mem,
        decide_eq_false_iff_not, mem_append, not_or]
      exact fun missing => missing.1
  · rw [chosen]
    simp
  · rw [chosen]
    simpa using new

/-- Executions that write what executors may. -/
def Executes : RouteState → List Execution → Prop
  | _, [] => True
  | state, execution :: rest =>
    Admits (.execute execution) state ∧ Executes (state.execute execution) rest

@[simp] theorem settle_rows (state : RouteState) (current : Nat) :
    (state.settle current).rows = state.rows := rfl

@[simp] theorem settle_fallbacks (state : RouteState) (current : Nat) :
    (state.settle current).fallbacks = state.fallbacks := rfl

/-- No worker goes on with the artifact that it executed. -/
theorem settle_idle (selected : state.rows.selected = [artifact]) (same : artifact.id = current) :
    (state.settle current).worker = none := by
  unfold settle
  rw [selected]
  simp only [same, if_true]
  split_ifs
  · rfl
  · rfl
  · rfl

theorem execute_idle (idle : state.worker = none) (execution : Execution) :
    state.execute execution = state := by
  unfold RouteState.execute
  rw [idle]

theorem executes_idle (idle : state.worker = none) (executions : List Execution) :
    executions.foldl execute state = state := by
  induction executions with
  | nil => rfl
  | cons execution rest ih => rw [foldl_cons, execute_idle idle, ih]

/-- A turn of the worker tries another route, or is its last one. -/
theorem execute_untried (valid : state.Valid)
    (admits : Admits (.execute execution) state) :
    ((state.execute execution).worker = none ∧
        (state.execute execution).fallbacks.length + untried (state.execute execution).rows ≤
          state.fallbacks.length + untried state.rows) ∨
      ((state.execute execution).fallbacks.length = state.fallbacks.length + 1 ∧
        untried (state.execute execution).rows < untried state.rows) := by
  cases working : state.worker with
  | none =>
    left
    unfold RouteState.execute
    rw [working]
    exact ⟨working, Nat.le_refl _⟩
  | some current =>
    rcases execute_cases valid working admits with ⟨rows, keeps, left⟩ |
      ⟨failed, blocked, after, fallback, keeps, _, _, queued, left⟩
    · left
      rw [left]
      obtain ⟨artifact, selected, id⟩ := valid.worker current working
      obtain ⟨kept, same, key⟩ := keeps.of_selected selected
      have ended : ({ state with rows := rows }.settle current).worker = none :=
        settle_idle same ((congrArg (·.1) key).trans id)
      refine ⟨ended, ?_⟩
      rw [settle_rows, settle_fallbacks, untried_keeps keeps]
    · right
      have fewer := untried_fellBack queued
      rw [untried_keeps keeps] at fewer
      rw [left]
      refine ⟨?_, fewer⟩
      rw [settle_fallbacks]
      exact length_append

/-- The fallbacks of a worker are at most the routes it has not tried, and so are its turns but
the last one. -/
theorem executes_untried {executions : List Execution} (valid : state.Valid)
    (executes : state.Executes executions) :
    (executions.foldl execute state).fallbacks.length +
          untried (executions.foldl execute state).rows ≤
        state.fallbacks.length + untried state.rows ∧
      ((executions.foldl execute state).worker = none ∨
        executions.length + untried (executions.foldl execute state).rows ≤
          untried state.rows) := by
  induction executions generalizing state with
  | nil => exact ⟨Nat.le_refl _, .inr (by simp)⟩
  | cons execution rest ih =>
    obtain ⟨admits, later⟩ := executes
    obtain ⟨bound, ended⟩ := ih (valid.execute admits) later
    rw [foldl_cons]
    rcases execute_untried valid admits with ⟨idle, first⟩ | ⟨fallback, fewer⟩
    · rw [executes_idle idle]
      exact ⟨first, .inl idle⟩
    · rw [length_cons]
      refine ⟨by omega, ?_⟩
      rcases ended with idle | turns
      · exact .inl idle
      · exact .inr (by omega)

/-- What a run reaches from a new acquisition. -/
abbrev Reached (state : RouteState) : Prop :=
  Reachable Started Admits (fun event before after => after = before.step event) state

/-- The selection stays unique in every run. -/
theorem Reached.valid (reached : state.Reached) : state.Valid := by
  refine reached.invariant (fun _ started => started.valid) ?_
  rintro event before after valid admits rfl
  exact valid.step admits

theorem Valid.selected_le (valid : state.Valid) : state.rows.selected.length ≤ 1 := by
  rcases valid.selection.single with none | ⟨artifact, selected⟩
  · rw [AcquisitionRows.selected, none]
    exact Nat.zero_le 1
  · rw [selected]
    exact Nat.le_refl 1

/-- In every state of a run: one artifact is selected, once there is a worker; every fallback so
far was sound; and the worker ends after at most as many fallbacks as there are routes. -/
theorem reached_fallbacks (reached : state.Reached) :
    state.rows.selected.length ≤ 1 ∧
      (state.dispatched = true → state.rows.selected.length = 1) ∧
        (∀ current, state.worker = some current →
          ∃ artifact, state.rows.selected = [artifact] ∧ artifact.id = current) ∧
          (∀ taken ∈ state.fallbacks, taken.Sound) ∧
            ∀ executions, state.Executes executions →
              (executions.foldl execute state).fallbacks.length ≤
                  state.fallbacks.length + state.rows.routes.length ∧
                (state.rows.routes.length < executions.length →
                  (executions.foldl execute state).worker = none) := by
  have valid := reached.valid
  refine ⟨valid.selected_le, ?_, valid.worker, valid.fallbacks, ?_⟩
  · intro dispatched
    obtain ⟨artifact, selected⟩ := valid.selection.of_single (valid.dispatched dispatched)
    rw [selected]
    rfl
  · intro executions executes
    obtain ⟨bound, ended⟩ := executes_untried valid executes
    have routes := untried_le state.rows
    refine ⟨by omega, ?_⟩
    intro long
    rcases ended with idle | turns
    · exact idle
    · omega

/-! A transfer that fails on the first of two routes. -/

def discoveredState : RouteState where
  rows := discovered
  worker := none
  dispatched := false
  tried := []
  fallbacks := []
  hasAlternate := false

def twoRoutes : PlanSnapshot where
  artifacts := some
    [⟨some "route:a", true, "eligible", some "saga-1", some "a", some .pixeldrain, some .direct,
        none⟩,
      ⟨some "route:b", true, "eligible", some "saga-1", some "b", some .mega, some .direct, none⟩]
  selectedArtifactIdentity := some "route:a"

def planTwoRoutes : RouteEvent :=
  .plan twoRoutes "route:a" .pixeldrain none 10

def dispatchedState : RouteState :=
  (discoveredState.step planTwoRoutes).step (.dispatch 20)

/-- The executor records that the host timed out. -/
def timedOut : RouteRows :=
  { dispatchedState.rows with
    attempt := { dispatchedState.rows.attempt with
      state := .resolving
      failureClass := some .transientHost
      failureCode := some "timeout" }
    artifacts := dispatchedState.rows.artifacts.map fun artifact =>
      { artifact with
        state := .resolving
        failureClass := some .transientHost
        failureCode := some "timeout" } }

theorem timedOut_keeps : Keeps dispatchedState.rows timedOut := by
  refine ⟨?_, rfl, rfl, fun discovered => nomatch discovered⟩
  rw [timedOut, map_map]
  rfl

def timeout : RouteEvent :=
  .execute ⟨timedOut, some (fun _ => false, 30), timedOut⟩

def secondRoute : RouteState :=
  dispatchedState.step timeout

/-- The second route is chosen after the first failed. -/
theorem secondRoute_fallbacks :
    secondRoute.worker = some 2 ∧ secondRoute.fallbacks.map (·.chosen) = ["route:b"] ∧
      secondRoute.rows.selected.length ≤ 1 := by
  have started : discoveredState.Started := ⟨rfl, rfl, rfl, rfl, rfl⟩
  have planAdmitted : Admits planTwoRoutes discoveredState := trivial
  have dispatchAdmitted : Admits (.dispatch 20) (discoveredState.step planTwoRoutes) := trivial
  have admitted : Admits timeout dispatchedState := ⟨timedOut_keeps, timedOut_keeps⟩
  have dispatched : dispatchedState.Reached :=
    .next (.next (.start started) planAdmitted rfl) dispatchAdmitted rfl
  have reached : secondRoute.Reached := .next dispatched admitted rfl
  exact ⟨by decide, by decide, (reached_fallbacks reached).1⟩

end RouteState

end Pullbox.Direct.Acquisition
