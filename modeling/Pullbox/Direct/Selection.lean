import Pullbox.Direct.Acquisition

/-!
# The routes of an acquisition

A failed route is replaced by the next one of the plan that was not tried, an explicit retry
replaces a blocked route, and the user switches to an equivalent one. Each of them moves the
selection flag from one artifact to another.
-/

namespace Pullbox.Direct.Acquisition

open Durable List Nat

/-- The rows with the snapshots of the coordinator. -/
abbrev RouteRows :=
  AcquisitionRows PlanSnapshot ProgressSnapshot

/-- What identifies an artifact, and whether it is selected. -/
def ArtifactRow.key (artifact : ArtifactRow) : Nat × String × Bool :=
  (artifact.id, artifact.artifactIdentity, artifact.isSelected)

/-- What an executor or another operation may not change: the keys of the artifacts, the routes
of the plan, and that no attempt is discovered again. -/
structure Keeps (rows after : RouteRows) : Prop where
  keys : after.artifacts.map (·.key) = rows.artifacts.map (·.key)
  routes : after.attempt.plan.value.artifacts = rows.attempt.plan.value.artifacts
  nextArtifactId : after.nextArtifactId = rows.nextArtifactId
  discovered : after.attempt.state = .discovered → rows.attempt.state = .discovered

/-- A fallback: the routes of the plan, those that were tried or blocked, the route that failed
and the one that was chosen. -/
structure FallbackTaken where
  routes : List PlanRoute
  tried : List String
  blocked : String → Bool
  failed : String
  chosen : String

/-- The route was not tried, is not blocked, is eligible, and is equivalent to the failed one. -/
structure FallbackTaken.Sound (taken : FallbackTaken) : Prop where
  untried : taken.chosen ∉ taken.tried
  unblocked : taken.blocked taken.chosen = false
  equivalent : ∃ route ∈ taken.routes, route.artifactIdentity = some taken.chosen ∧
    route.eligible = true ∧ route.snapshotFallbackIdentity.isSome = true ∧
      route.snapshotFallbackIdentity = routeFallbackIdentity taken.routes taken.failed

namespace AcquisitionRows

/-- The artifacts with the selection flag. -/
def selected (rows : RouteRows) : List ArtifactRow :=
  rows.artifacts.filter (·.isSelected)

/-- The routes of the plan. -/
def routes (rows : RouteRows) : List PlanRoute :=
  rows.attempt.plan.value.artifacts.getD []

/-- The routes that were tried. -/
def attempted (rows : RouteRows) : List String :=
  rows.artifacts.map (·.artifactIdentity)

/-- A plan with its first artifact, as `plan_direct_acquisition` records them. -/
def planDirectAcquisition (rows : RouteRows) (snapshot : PlanSnapshot) (identity : String)
    (hostKind : DirectArtifactHostKind) (expectedSize : Option Nat) (timestamp : Instant) :
    Except RecordError RouteRows :=
  if rows.attempt.state = .discovered ∨
      (rows.attempt.state = .intervention ∧ rows.artifacts = []) then do
    let attempt ← (rows.attempt.planned snapshot).transition .planned timestamp
    pure ({ rows with attempt := attempt.clearFailure.progressed ⟨.planned, none⟩ }.addArtifact 0
      identity hostKind expectedSize)
  else .error .notDiscovered

/-- The artifact row of the route that a fallback takes. -/
def fallbackRow (rows : RouteRows) (next : NextRoute) : ArtifactRow :=
  { plannedArtifact rows.nextArtifactId rows.nextSequenceNo next.artifactIdentity next.hostKind
      next.expectedSize with isSelected := true }

/-- The rows once the failed artifact is retired and the attempt queued. -/
def fallenBack (rows : RouteRows) (retired : ArtifactRow)
    (attempt : AttemptRow PlanSnapshot ProgressSnapshot) (next : NextRoute) : RouteRows :=
  { (rows.write { retired with isSelected := false, nextRetryAt := none }).addArtifact
      rows.nextSequenceNo next.artifactIdentity next.hostKind next.expectedSize with
    attempt :=
      { attempt.clearFailure.progressed ⟨.fallbackQueued, some rows.nextArtifactId⟩ with
        retryCount := 0
        nextRetryAt := none } }

/-- `queue_next_artifact_route` with the routes that are blocked when it looks; what it queues is
none where no route is left. -/
def queueNextArtifactRoute (rows : RouteRows) (failed : Nat) (blocked : String → Bool)
    (timestamp : Instant) : Except RecordError (Option (RouteRows × ArtifactRow)) :=
  match rows.attempt.plan.value.artifacts, rows.find failed with
  | some routes, some artifact =>
    match nextArtifactRoute routes artifact.toDirectArtifactAttempt rows.attempted blocked with
    | none => .ok none
    | some next => do
        let retired ← artifact.transition .failed timestamp
        let attempt ← (rows.attempt.planned (rows.attempt.plan.value.afterFallback routes
          artifact.toDirectArtifactAttempt next)).transition .queued timestamp
        pure (some (rows.fallenBack retired attempt next, rows.fallbackRow next))
  | _, _ => .ok none

/-- The rows that `retry` reopens or resumes. -/
def resumed (rows : RouteRows) (artifact : ArtifactRow) : Except RecordError RouteRows :=
  if rows.attempt.state = .failed ∨ rows.attempt.state = .cancelled then
    rows.reopenTerminalAcquisitionForRetry artifact.id ⟨.retryRequested, some artifact.id⟩
  else if rows.attempt.state = .intervention then
    .ok { rows with
      attempt := rows.attempt.progressed ⟨.retryRequested, some artifact.id⟩ }
  else .error .notTerminal

/-- The option a route of the plan offers, if it does. -/
def switchOption (rows : RouteRows) (current : ArtifactRow) (blocked : String → Bool)
    (fallbackIdentity : String) (route : PlanRoute) : Option DirectSourceSwitchOption := do
  let identity ← route.artifactIdentity
  let previous := rows.artifacts.find? (·.artifactIdentity = identity)
  let reselectable := previous.any (·.manuallyReselectable)
  let hostKind ← route.hostKind
  if identity = current.artifactIdentity ∨ (route.eligible = false ∧ reselectable = false) ∨
      (previous.isSome ∧ reselectable = false) ∨ blocked identity ∨
      route.snapshotFallbackIdentity ≠ some fallbackIdentity ∨ route.routeKind ≠ some .direct then
    none
  else some ⟨identity, hostKind, route.expectedSize⟩

/-- `list_source_switch_options`. -/
def listSourceSwitchOptions (rows : RouteRows) (current : ArtifactRow)
    (blocked : String → Bool) : List DirectSourceSwitchOption :=
  match routeFallbackIdentity rows.routes current.artifactIdentity with
  | none => []
  | some fallbackIdentity =>
    rows.routes.filterMap (rows.switchOption current blocked fallbackIdentity)

/-- `queue_source_switch`. -/
def queueSourceSwitch (rows : RouteRows) (current : ArtifactRow) (blocked : String → Bool)
    (target : Option String) (blockCurrent : Bool) : Except RecordError RouteRows :=
  if rows.attempt.state ≠ .cancelled then .error .switchNotCancelled
  else if current.state ≠ .cancelled ∨ current.isSelected = false then
    .error .switchArtifactNotCancelled
  else
    let options := rows.listSourceSwitchOptions current blocked
    let selectedOption :=
      match target with
      | none => options.head?
      | some identity => options.find? (·.artifactIdentity = identity)
    match selectedOption with
    | none => .error .routeUnavailable
    | some option =>
      let replacement := rows.replacement option
      rows.switchTo current.id option
        (rows.attempt.plan.value.switched current.toDirectArtifactAttempt
          replacement.toDirectArtifactAttempt blockCurrent)
        ⟨.sourceSwitchQueued, some replacement.id⟩

/-- `execute.cancel` of an artifact that no worker holds. -/
def cancel (rows : RouteRows) (artifact : ArtifactRow) (timestamp : Instant) :
    Except RecordError RouteRows :=
  if rows.attempt.state ∈ acquisitionTerminalStates ∨ rows.attempt.state = .postProcessing then
    .error .notCancellable
  else do
    let cancelled ← ArtifactRow.transition
      { artifact with
        quarantinePath := none
        bytesTransferred := 0
        failureClass := some .userAction
        failureCode := some "user_cancelled"
        errorMessage := some "Cancelled by user" } .cancelled timestamp
    let attempt ← AttemptRow.transition
      { rows.attempt with
        failureClass := some .userAction
        failureCode := some "user_cancelled"
        errorMessage := some "Cancelled by user" } .cancelled timestamp
    pure { rows.write cancelled with
      attempt := attempt.progressed ⟨.cancelled, some artifact.id⟩ }

end AcquisitionRows

end Pullbox.Direct.Acquisition

/-!
## One artifact is selected

An acquisition has no artifacts, or exactly one of them is selected. A fallback and a switch take
the flag from the selected artifact and give it to another one.
-/

namespace Pullbox.Direct.Acquisition

open Durable List Nat

variable {rows after : RouteRows} {artifact row fallback : ArtifactRow} {blocked : String → Bool}
  {timestamp : Instant}

/-- What only depends on the keys is the same. -/
theorem Keeps.map {β : Type} (keeps : Keeps rows after) (value : Nat × String × Bool → β) :
    after.artifacts.map (fun artifact => value artifact.key) =
      rows.artifacts.map fun artifact => value artifact.key := by
  have same := congrArg (List.map value) keeps.keys
  rw [map_map, map_map] at same
  exact same

theorem Keeps.ids (keeps : Keeps rows after) :
    after.artifacts.map (·.id) = rows.artifacts.map (·.id) :=
  keeps.map fun key => key.1

theorem Keeps.attempted (keeps : Keeps rows after) : after.attempted = rows.attempted :=
  keeps.map fun key => key.2.1

theorem Keeps.allRoutes (keeps : Keeps rows after) : after.routes = rows.routes := by
  rw [AcquisitionRows.routes, keeps.routes, AcquisitionRows.routes]

theorem Keeps.selected (keeps : Keeps rows after) :
    after.selected.map (·.key) = rows.selected.map (·.key) := by
  have filtered := congrArg (List.filter fun key => key.2.2) keeps.keys
  simp only [filter_map] at filtered
  exact filtered

/-- The selected artifact is the same one. -/
theorem Keeps.of_selected (keeps : Keeps rows after) (selected : rows.selected = [artifact]) :
    ∃ kept, after.selected = [kept] ∧ kept.key = artifact.key := by
  have keys := keeps.selected
  rw [selected] at keys
  obtain ⟨kept, same, key⟩ := map_eq_singleton_iff.1 keys
  exact ⟨kept, same, key⟩

theorem Keeps.nil_iff (keeps : Keeps rows after) :
    after.artifacts = [] ↔ rows.artifacts = [] := by
  have keys := keeps.keys
  constructor
  · intro none
    rw [none] at keys
    exact map_eq_nil_iff.1 keys.symm
  · intro none
    rw [none] at keys
    exact map_eq_nil_iff.1 keys

namespace AcquisitionRows

/-- Artifacts have their own numbers and routes. -/
structure Numbered (rows : RouteRows) : Prop where
  ids : (rows.artifacts.map (·.id)).Nodup
  below : ∀ artifact ∈ rows.artifacts, artifact.id < rows.nextArtifactId
  identities : rows.attempted.Nodup

/-- One of the artifacts is selected. -/
structure Selection (rows : RouteRows) : Prop extends Numbered rows where
  single : rows.artifacts = [] ∨ ∃ artifact, rows.selected = [artifact]

theorem mem_of_selected (selected : rows.selected = [artifact]) : artifact ∈ rows.artifacts := by
  have member : artifact ∈ rows.selected := selected ▸ mem_singleton_self artifact
  exact mem_of_mem_filter member

theorem ne_nil_of_selected (selected : rows.selected = [artifact]) : rows.artifacts ≠ [] :=
  ne_nil_of_mem (mem_of_selected selected)

theorem Selection.of_single (selection : rows.Selection) (present : rows.artifacts ≠ []) :
    ∃ artifact, rows.selected = [artifact] :=
  selection.single.resolve_left present

theorem Selection.keeps (selection : rows.Selection) (keeps : Keeps rows after) :
    after.Selection where
  ids := keeps.ids ▸ selection.ids
  identities := keeps.attempted ▸ selection.identities
  below := by
    intro artifact member
    have id : artifact.id ∈ rows.artifacts.map (·.id) := by
      rw [← keeps.ids]
      exact mem_map_of_mem member
    obtain ⟨earlier, found, same⟩ := mem_map.1 id
    rw [keeps.nextArtifactId, ← same]
    exact selection.below earlier found
  single := by
    rcases selection.single with none | ⟨artifact, selected⟩
    · exact .inl (keeps.nil_iff.2 none)
    · obtain ⟨kept, same, _⟩ := keeps.of_selected selected
      exact .inr ⟨kept, same⟩

/-! ## Rows that are written -/

/-- A row is written over rows that have the same of it. -/
theorem write_map {β : Type} {value : ArtifactRow → β}
    (same : ∀ other ∈ rows.artifacts, other.id = row.id → value other = value row) :
    (rows.write row).artifacts.map value = rows.artifacts.map value := by
  rw [write, map_map]
  refine map_congr_left ?_
  intro other member
  change value (if other.id = row.id then row else other) = value other
  by_cases number : other.id = row.id
  · rw [if_pos number, same other member number]
  · rw [if_neg number]

theorem write_ids (rows : RouteRows) (row : ArtifactRow) :
    (rows.write row).artifacts.map (·.id) = rows.artifacts.map (·.id) :=
  write_map fun _ _ same => same

/-- The selected artifact is written without its flag. -/
theorem write_deselected (selected : rows.selected = [artifact]) (same : row.id = artifact.id)
    (off : row.isSelected = false) : (rows.write row).selected = [] := by
  refine filter_eq_nil_iff.2 ?_
  intro written member
  obtain ⟨other, found, rfl⟩ := mem_map.1 member
  by_cases number : other.id = row.id
  · rw [if_pos number, off]
    exact Bool.false_ne_true
  · rw [if_neg number]
    intro on
    have selectedToo : other ∈ rows.selected := mem_filter.2 ⟨found, on⟩
    rw [selected, mem_singleton] at selectedToo
    exact number (selectedToo ▸ same.symm)

/-- A row is written with the flag where no artifact has it. -/
theorem write_selected (none : rows.selected = []) (ids : (rows.artifacts.map (·.id)).Nodup)
    (known : row.id ∈ rows.artifacts.map (·.id)) (on : row.isSelected = true) :
    (rows.write row).selected = [row] := by
  have off : ∀ other ∈ rows.artifacts, ¬ other.isSelected = true :=
    filter_eq_nil_iff.1 none
  have written : ∀ artifacts : List ArtifactRow, (artifacts.map (·.id)).Nodup →
      row.id ∈ artifacts.map (·.id) → (∀ other ∈ artifacts, ¬ other.isSelected = true) →
        (artifacts.map fun other => if other.id = row.id then row else other).filter
          (·.isSelected) = [row] := by
    intro artifacts
    induction artifacts with
    | nil => intro _ member; cases member
    | cons head rest ih =>
      intro nodup member off
      rw [map_cons, nodup_cons] at nodup
      have later : ∀ other ∈ rest, ¬ other.isSelected = true := fun other found =>
        off other (mem_cons_of_mem _ found)
      by_cases number : head.id = row.id
      · have unchanged : (rest.map fun other => if other.id = row.id then row else other) =
            rest := by
          refine (map_congr_left ?_).trans (map_id rest)
          intro other found
          have differs : other.id ≠ row.id := by
            intro same
            refine nodup.1 ?_
            rw [number, ← same]
            exact mem_map_of_mem found
          rw [if_neg differs, id]
        rw [map_cons, if_pos number, unchanged, filter_cons_of_pos on,
          filter_eq_nil_iff.2 later]
      · have found : row.id ∈ rest.map (·.id) := by
          rcases mem_cons.1 member with same | found
          · exact absurd same.symm number
          · exact found
        rw [map_cons, if_neg number,
          filter_cons_of_neg (off head mem_cons_self)]
        exact ih nodup.2 found later
  exact written rows.artifacts ids known off

theorem Numbered.same_id (numbered : rows.Numbered) (member : artifact ∈ rows.artifacts)
    (other : row ∈ rows.artifacts) (same : row.id = artifact.id) : row = artifact :=
  inj_on_of_nodup_map numbered.ids other member same

/-- A row is written over one with its number and its route. -/
theorem Numbered.write (numbered : rows.Numbered) (member : artifact ∈ rows.artifacts)
    (id : row.id = artifact.id) (identity : row.artifactIdentity = artifact.artifactIdentity) :
    (rows.write row).Numbered ∧ (rows.write row).attempted = rows.attempted := by
  have attempted : (rows.write row).attempted = rows.attempted := by
    refine write_map ?_
    intro other found same
    rw [numbered.same_id member found (same.trans id), identity]
  refine ⟨⟨?_, ?_, ?_⟩, attempted⟩
  · rw [write_ids]
    exact numbered.ids
  · intro written found
    have known : written.id ∈ rows.artifacts.map (·.id) := by
      rw [← write_ids rows row]
      exact mem_map_of_mem found
    obtain ⟨other, earlier, same⟩ := mem_map.1 known
    rw [← same]
    exact numbered.below other earlier
  · rw [attempted]
    exact numbered.identities

/-- A row is written over the one with its key. -/
theorem Numbered.write_keeps (numbered : rows.Numbered) (row : ArtifactRow)
    (member : artifact ∈ rows.artifacts)
    (key : row.key = artifact.key) :
    (rows.write row).artifacts.map (·.key) = rows.artifacts.map (·.key) := by
  refine write_map ?_
  intro other found same
  rw [numbered.same_id member found (same.trans (congrArg (·.1) key)), key]

/-- An artifact of a new route is appended where none is selected. -/
theorem Numbered.append (numbered : rows.Numbered) (none : rows.selected = [])
    (on : row.isSelected = true) (new : rows.nextArtifactId ≤ row.id)
    (route : row.artifactIdentity ∉ rows.attempted) (artifacts : after.artifacts =
      rows.artifacts ++ [row]) (next : row.id < after.nextArtifactId)
    (later : rows.nextArtifactId ≤ after.nextArtifactId) :
    after.Selection ∧ after.selected = [row] := by
  have selected : after.selected = [row] := by
    have off : rows.artifacts.filter (·.isSelected) = [] := none
    rw [AcquisitionRows.selected, artifacts, filter_append, off, nil_append,
      filter_cons_of_pos on, filter_nil]
  have other : row.id ∉ rows.artifacts.map (·.id) := by
    intro known
    obtain ⟨earlier, found, same⟩ := mem_map.1 known
    have below := numbered.below earlier found
    omega
  refine ⟨⟨⟨?_, ?_, ?_⟩, .inr ⟨row, selected⟩⟩, selected⟩
  · rw [artifacts, map_append, map_singleton, ← concat_eq_append]
    exact numbered.ids.concat other
  · intro artifact member
    rw [artifacts] at member
    rcases mem_append.1 member with earlier | last
    · exact lt_of_lt_of_le (numbered.below artifact earlier) later
    · exact mem_singleton.1 last ▸ next
  · rw [attempted, artifacts, map_append, map_singleton, ← concat_eq_append]
    exact numbered.identities.concat route

/-- The selected artifact loses its flag. -/
theorem Selection.deselect (selection : rows.Selection) (row : ArtifactRow)
    (selected : rows.selected = [artifact])
    (id : row.id = artifact.id) (identity : row.artifactIdentity = artifact.artifactIdentity)
    (off : row.isSelected = false) :
    (rows.write row).Numbered ∧ (rows.write row).attempted = rows.attempted ∧
      (rows.write row).selected = [] := by
  obtain ⟨numbered, attempted⟩ :=
    selection.toNumbered.write (mem_of_selected selected) id identity
  exact ⟨numbered, attempted, write_deselected selected id off⟩

/-- A row is entered with the flag where no artifact has it. -/
theorem Numbered.enter (numbered : rows.Numbered) (none : rows.selected = [])
    (on : row.isSelected = true)
    (route : (∃ other ∈ rows.artifacts, row.id = other.id ∧
        row.artifactIdentity = other.artifactIdentity) ∨
      (rows.nextArtifactId ≤ row.id ∧ row.artifactIdentity ∉ rows.attempted)) :
    (rows.enter row).Selection ∧ (rows.enter row).selected = [row] ∧
      ∀ identity ∈ rows.attempted, identity ∈ (rows.enter row).attempted := by
  rcases route with ⟨other, member, id, identity⟩ | ⟨new, route⟩
  · have known : rows.artifacts.any (·.id = row.id) = true := by
      refine any_eq_true.2 ⟨other, member, ?_⟩
      exact decide_eq_true id.symm
    have listed : row.id ∈ rows.artifacts.map (·.id) := id ▸ mem_map_of_mem member
    have selected := write_selected none numbered.ids listed on
    rw [AcquisitionRows.enter, if_pos known]
    obtain ⟨written, attempted⟩ := numbered.write member id identity
    exact ⟨⟨written, .inr ⟨row, selected⟩⟩, selected, fun _ tried => attempted.symm ▸ tried⟩
  · have unknown : ¬ rows.artifacts.any (·.id = row.id) = true := by
      intro known
      obtain ⟨other, member, same⟩ := any_eq_true.1 known
      have below := numbered.below other member
      have equal : other.id = row.id := of_decide_eq_true same
      omega
    rw [AcquisitionRows.enter, if_neg unknown]
    obtain ⟨selection, selected⟩ := numbered.append none on new route (rfl : AcquisitionRows.artifacts
        { rows with
          artifacts := rows.artifacts ++ [row]
          nextArtifactId := max rows.nextArtifactId (row.id + 1) } = _)
      (lt_of_lt_of_le (lt_succ_self _) (le_max_right rows.nextArtifactId (row.id + 1)))
      (le_max_left ..)
    refine ⟨selection, selected, ?_⟩
    intro identity tried
    rw [AcquisitionRows.attempted, map_append]
    exact mem_append_left _ tried

/-! ## The fallback -/

/-- What a fallback from an artifact leaves. -/
structure Queued (rows : RouteRows) (artifact : ArtifactRow) (blocked : String → Bool)
    (after : RouteRows) (fallback : ArtifactRow) : Prop where
  selection : after.Selection
  selected : after.selected = [fallback]
  attempted : after.attempted = rows.attempted ++ [fallback.artifactIdentity]
  identities : after.routes.map (·.artifactIdentity) = rows.routes.map (·.artifactIdentity)
  state : after.attempt.state = .queued
  cleared : after.attempt.failureClass = none
  id : fallback.id ≠ artifact.id
  sound : FallbackTaken.Sound ⟨rows.routes, rows.attempted, blocked, artifact.artifactIdentity,
    fallback.artifactIdentity⟩

end AcquisitionRows

/-- The route that a fallback settles on. -/
theorem nextArtifactRoute_sound {routes : List PlanRoute} {failed : DirectArtifactAttempt}
    {attempted : List String} {next : NextRoute}
    (settled : nextArtifactRoute routes failed attempted blocked = some next) :
    FallbackTaken.Sound ⟨routes, attempted, blocked, failed.artifactIdentity,
      next.artifactIdentity⟩ := by
  unfold nextArtifactRoute at settled
  obtain ⟨identity, fallbackIdentity, settled⟩ := Option.bind_eq_some_iff.1 settled
  obtain ⟨route, found, settled⟩ := Option.bind_eq_some_iff.1 settled
  obtain ⟨chosen, named, settled⟩ := Option.bind_eq_some_iff.1 settled
  obtain ⟨failureClass, _, settled⟩ := Option.bind_eq_some_iff.1 settled
  obtain ⟨failureCode, _, settled⟩ := Option.bind_eq_some_iff.1 settled
  obtain ⟨hostKind, _, settled⟩ := Option.bind_eq_some_iff.1 settled
  obtain ⟨routeKind, _, settled⟩ := Option.bind_eq_some_iff.1 settled
  obtain ⟨_, settled⟩ := Option.ite_none_right_eq_some.1 settled
  cases settled
  have untried := List.find?_some found
  simp only [PlanRoute.untried, named, Option.any_some, Bool.and_eq_true, decide_eq_true_eq,
    Bool.not_eq_true', Bool.or_eq_false_iff, contains_eq_mem, decide_eq_false_iff_not]
    at untried
  obtain ⟨⟨eligible, equivalent⟩, new, unblocked⟩ := untried
  exact ⟨new, unblocked, route, mem_of_find?_eq_some found, named, eligible,
    by rw [equivalent, Option.isSome_some], by rw [equivalent, fallbackIdentity]⟩

theorem closeRoute_identities (routeIdentity code : String) (routes : List PlanRoute) :
    (closeRoute routeIdentity code routes).map (·.artifactIdentity) =
      routes.map (·.artifactIdentity) := by
  induction routes with
  | nil => rfl
  | cons route rest ih =>
    unfold closeRoute
    by_cases same : route.artifactIdentity = some routeIdentity
    · rw [if_pos same]
      rfl
    · rw [if_neg same, map_cons, ih, map_cons]

theorem ArtifactRow.transition_key {moved : ArtifactRow} {newState : DirectArtifactState}
    (accepted : artifact.transition newState timestamp = .ok moved) :
    moved.key = artifact.key := by
  unfold ArtifactRow.transition Direct.transitionArtifact at accepted
  split_ifs at accepted
  · cases accepted
    rfl
  · cases accepted
    rfl

namespace AcquisitionRows

theorem find_selected (selection : rows.Selection) (selected : rows.selected = [artifact]) :
    rows.find artifact.id = some artifact := by
  have member := mem_of_selected selected
  cases found : rows.find artifact.id with
  | none =>
    have missing := List.find?_eq_none.1 found artifact member
    exact absurd (decide_eq_true rfl) missing
  | some other =>
    have matches_ := List.find?_some found
    have same : other.id = artifact.id := of_decide_eq_true matches_
    rw [selection.toNumbered.same_id member (mem_of_find?_eq_some found) same]

/-- What a fallback that is queued settled on. -/
theorem queueNextArtifactRoute_accepted (found : rows.find row.id = some artifact)
    (queued : rows.queueNextArtifactRoute row.id blocked timestamp =
      .ok (some (after, fallback))) :
    ∃ routes next retired attempt, rows.attempt.plan.value.artifacts = some routes ∧
      nextArtifactRoute routes artifact.toDirectArtifactAttempt rows.attempted blocked =
          some next ∧
        artifact.transition .failed timestamp = .ok retired ∧
          (rows.attempt.planned (rows.attempt.plan.value.afterFallback routes
            artifact.toDirectArtifactAttempt next)).transition .queued timestamp = .ok attempt ∧
            after = rows.fallenBack retired attempt next ∧ fallback = rows.fallbackRow next := by
  unfold queueNextArtifactRoute at queued
  rw [found] at queued
  cases listed : rows.attempt.plan.value.artifacts with
  | none =>
    rw [listed] at queued
    cases queued
  | some routes =>
    simp only [listed] at queued
    cases settled : nextArtifactRoute routes artifact.toDirectArtifactAttempt rows.attempted
      blocked with
    | none =>
      rw [settled] at queued
      cases queued
    | some next =>
      simp only [settled] at queued
      obtain ⟨retired, failed, queued⟩ := bind_eq_ok.1 queued
      obtain ⟨attempt, moved, queued⟩ := bind_eq_ok.1 queued
      have pair := Prod.mk.inj (Option.some.inj (Except.ok.inj queued))
      exact ⟨routes, next, retired, attempt, rfl, settled, failed, moved, pair.1.symm,
        pair.2.symm⟩

/-- A fallback from the selected artifact. -/
theorem queueNextArtifactRoute_queued (selection : rows.Selection)
    (selected : rows.selected = [artifact])
    (queued : rows.queueNextArtifactRoute artifact.id blocked timestamp =
      .ok (some (after, fallback))) : rows.Queued artifact blocked after fallback := by
  obtain ⟨routes, next, retired, attempt, listed, settled, failed, moved, rfl, rfl⟩ :=
    queueNextArtifactRoute_accepted (find_selected selection selected) queued
  have sound := nextArtifactRoute_sound settled
  have key := ArtifactRow.transition_key failed
  obtain ⟨numbered, attempted, unselected⟩ :=
    selection.deselect { retired with isSelected := false, nextRetryAt := none }
      selected (congrArg (·.1) key) (congrArg (·.2.1) key) rfl
  have untried : (rows.fallbackRow next).artifactIdentity ∉
      (rows.write { retired with isSelected := false, nextRetryAt := none }).attempted :=
    attempted.symm ▸ sound.untried
  have appended : (rows.fallenBack retired attempt next).Selection ∧
      (rows.fallenBack retired attempt next).selected = [rows.fallbackRow next] :=
    numbered.append unselected rfl (le_refl _) untried rfl (lt_succ_self _)
      (le_succ _)
  have listedRoutes : rows.routes = routes := by rw [AcquisitionRows.routes, listed, Option.getD_some]
  refine ⟨appended.1, appended.2, ?_, ?_, ?_, rfl, ?_, ?_⟩
  · rw [← attempted]
    exact map_append
  · have plan := AttemptRow.transition_plan moved
    have closed : (rows.fallenBack retired attempt next).routes =
        closeRoute artifact.artifactIdentity "route_failed" routes := by
      change attempt.plan.value.artifacts.getD [] = _
      rw [plan]
      rfl
    rw [closed, closeRoute_identities, listedRoutes]
  · have state : attempt.state = .queued := AttemptRow.transition_state moved
    exact state
  · have below := selection.below artifact (mem_of_selected selected)
    exact ne_of_gt below
  · rw [listedRoutes]
    exact sound

/-! ## A retry, a cancellation and a switch -/

theorem reopen_keeps {progress : ProgressSnapshot} (selection : rows.Selection)
    (selected : rows.selected = [artifact])
    (reopened : rows.reopenTerminalAcquisitionForRetry artifact.id progress = .ok after) :
    Keeps rows after := by
  unfold reopenTerminalAcquisitionForRetry at reopened
  rw [find_selected selection selected] at reopened
  simp only at reopened
  split_ifs at reopened
  cases reopened
  have keys := selection.toNumbered.write_keeps
    { artifact with
      state := .retryPending, retryCount := 0, nextRetryAt := none, completedAt := none }
    (mem_of_selected selected) rfl
  exact ⟨keys, rfl, rfl, fun discovered => nomatch discovered⟩

theorem resumed_keeps (selection : rows.Selection) (selected : rows.selected = [artifact])
    (resumed : rows.resumed artifact = .ok after) : Keeps rows after := by
  unfold AcquisitionRows.resumed at resumed
  split_ifs at resumed
  · exact reopen_keeps selection selected resumed
  · cases resumed
    exact ⟨rfl, rfl, rfl, id⟩

theorem cancel_keeps (selection : rows.Selection) (selected : rows.selected = [artifact])
    (cancelled : rows.cancel artifact timestamp = .ok after) : Keeps rows after := by
  unfold AcquisitionRows.cancel at cancelled
  split_ifs at cancelled
  obtain ⟨stopped, moved, cancelled⟩ := bind_eq_ok.1 cancelled
  obtain ⟨attempt, transition, cancelled⟩ := bind_eq_ok.1 cancelled
  cases cancelled
  have moved_key := ArtifactRow.transition_key moved
  have key : stopped.key = artifact.key := moved_key
  have keys := selection.toNumbered.write_keeps stopped (mem_of_selected selected) key
  have planned := AttemptRow.transition_plan transition
  have plan : attempt.plan = rows.attempt.plan := planned
  have state : attempt.state = .cancelled := AttemptRow.transition_state transition
  refine ⟨keys, ?_, rfl, ?_⟩
  · exact congrArg (·.value.artifacts) plan
  · intro discovered
    have impossible : DirectAcquisitionState.cancelled = .discovered := state.symm.trans discovered
    cases impossible

/-- A switch away from the selected artifact. -/
theorem switchTo_selected {option : DirectSourceSwitchOption} {plan : PlanSnapshot}
    {progress : ProgressSnapshot} (selection : rows.Selection)
    (selected : rows.selected = [artifact])
    (switched : rows.switchTo artifact.id option plan progress = .ok after) :
    after.Selection ∧ (∃ replacement, after.selected = [replacement]) ∧
      (∀ identity ∈ rows.attempted, identity ∈ after.attempted) ∧
        after.attempt.state = .queued := by
  unfold AcquisitionRows.switchTo at switched
  rw [find_selected selection selected] at switched
  simp only at switched
  split_ifs at switched
  cases switched
  obtain ⟨numbered, attempted, unselected⟩ :=
    selection.deselect artifact.switchedAway selected rfl rfl rfl
  have on : (rows.replacement option).isSelected = true := by
    unfold AcquisitionRows.replacement
    split
    · rfl
    · rfl
  have ids := write_ids rows artifact.switchedAway
  have route : (∃ other ∈ (rows.write artifact.switchedAway).artifacts,
        (rows.replacement option).id = other.id ∧
          (rows.replacement option).artifactIdentity = other.artifactIdentity) ∨
      ((rows.write artifact.switchedAway).nextArtifactId ≤ (rows.replacement option).id ∧
        (rows.replacement option).artifactIdentity ∉
          (rows.write artifact.switchedAway).attempted) := by
    unfold AcquisitionRows.replacement
    split
    · rename_i other found
      left
      have pairs : (rows.write artifact.switchedAway).artifacts.map
            (fun other => (other.id, other.artifactIdentity)) =
          rows.artifacts.map fun other => (other.id, other.artifactIdentity) := by
        refine write_map ?_
        intro earlier member same
        rw [selection.toNumbered.same_id (mem_of_selected selected) member same]
        rfl
      have listed : (other.id, other.artifactIdentity) ∈
          (rows.write artifact.switchedAway).artifacts.map
            fun other => (other.id, other.artifactIdentity) := by
        rw [pairs]
        exact mem_map.2 ⟨other, mem_of_find?_eq_some found, rfl⟩
      obtain ⟨written, member, same⟩ := mem_map.1 listed
      exact ⟨written, member, (congrArg (·.1) same).symm, (congrArg (·.2) same).symm⟩
    · rename_i missing
      right
      rw [attempted]
      refine ⟨le_refl _, ?_⟩
      intro tried
      obtain ⟨other, member, same⟩ := mem_map.1 tried
      exact List.find?_eq_none.1 missing other member (decide_eq_true same)
  obtain ⟨entered, flagged, grown⟩ := numbered.enter unselected on route
  refine ⟨⟨⟨entered.ids, entered.below, entered.identities⟩, entered.single⟩, ⟨_, flagged⟩, ?_,
    rfl⟩
  intro identity tried
  exact grown identity (attempted.symm ▸ tried)

theorem queueSourceSwitch_selected {target : Option String} {blockCurrent : Bool}
    (selection : rows.Selection) (selected : rows.selected = [artifact])
    (switched : rows.queueSourceSwitch artifact blocked target blockCurrent = .ok after) :
    after.Selection ∧ (∃ replacement, after.selected = [replacement]) ∧
      (∀ identity ∈ rows.attempted, identity ∈ after.attempted) ∧
        after.attempt.state = .queued := by
  unfold AcquisitionRows.queueSourceSwitch at switched
  split_ifs at switched
  simp only at switched
  split at switched
  · cases switched
  · exact switchTo_selected selection selected switched

/-- The first artifact of an acquisition. -/
theorem planDirectAcquisition_selected {snapshot : PlanSnapshot} {identity : String}
    {hostKind : DirectArtifactHostKind} {expectedSize : Option Nat}
    (discovered : rows.attempt.state = .discovered → rows.artifacts = [])
    (planned : rows.planDirectAcquisition snapshot identity hostKind expectedSize timestamp =
      .ok after) :
    rows.artifacts = [] ∧ after.Selection ∧ (∃ first, after.selected = [first]) ∧
      after.attempt.state = .planned := by
  unfold AcquisitionRows.planDirectAcquisition at planned
  split_ifs at planned with allowed
  have none : rows.artifacts = [] := by
    rcases allowed with new | reviewed
    · exact discovered new
    · exact reviewed.2
  obtain ⟨attempt, moved, planned⟩ := bind_eq_ok.1 planned
  have state : attempt.state = .planned := AttemptRow.transition_state moved
  have numbered : rows.Numbered :=
    { ids := by rw [none]; exact nodup_nil
      below := by simp [none]
      identities := by rw [attempted, none]; exact nodup_nil }
  have untried : identity ∉ rows.attempted := by
    rw [attempted, none]
    exact not_mem_nil
  have unselected : rows.selected = [] := by
    rw [AcquisitionRows.selected, none]
    rfl
  cases planned
  have first : AcquisitionRows.Selection _ ∧ AcquisitionRows.selected _ = [_] :=
    numbered.append unselected rfl (le_refl _) untried
      (rfl : ({ rows with
          attempt := attempt.clearFailure.progressed ⟨.planned, Option.none⟩ }.addArtifact 0
            identity hostKind expectedSize).artifacts =
        rows.artifacts ++ [{ plannedArtifact rows.nextArtifactId 0 identity hostKind
          expectedSize with isSelected := true }])
      (lt_succ_self _) (le_succ _)
  exact ⟨none, first.1, ⟨_, first.2⟩, state⟩

end AcquisitionRows

end Pullbox.Direct.Acquisition
