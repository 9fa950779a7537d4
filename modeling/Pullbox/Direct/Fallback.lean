import Pullbox.Direct.Session

/-!
# Route-scoped fallback

When a route of the plan fails for a reason another route can avoid, the failed
artifact is retired and the next untried eligible route of the same content becomes a
freshly planned artifact of a queued acquisition.
-/

namespace Pullbox.Direct

open Durable

/-- `_ROUTE_SCOPED_FAILURES`. -/
def routeScopedFailures : List DirectArtifactFailureClass :=
  [.transientHost, .permanentMirror, .unsupportedArtifactHost, .artifactHostAuthRequired,
    .artifactHostChallenge, .hostQuota, .resolver, .unsafeRoute]

/-- `supports_route_fallback`. -/
def supportsRouteFallback (failureClass : DirectArtifactFailureClass) : Bool :=
  failureClass ∈ routeScopedFailures

/-- `_snapshot_fallback_identity`. -/
def PlanRoute.snapshotFallbackIdentity (route : PlanRoute) : Option String :=
  route.fallbackIdentity.orElse fun _ => route.contentIdentity

/-- `_route_fallback_identity`. -/
def routeFallbackIdentity (routes : List PlanRoute) (routeIdentity : String) : Option String :=
  (routes.find? (·.artifactIdentity = some routeIdentity)).bind
    PlanRoute.snapshotFallbackIdentity

/-- A route the fallback may take. -/
def PlanRoute.untried (route : PlanRoute) (fallbackIdentity : String) (attempted : List String)
    (blocked : String → Bool) : Bool :=
  route.eligible && route.snapshotFallbackIdentity = some fallbackIdentity &&
    route.artifactIdentity.any fun identity => !(attempted.contains identity || blocked identity)

/-- The next artifact route with every field the new row needs. -/
structure NextRoute where
  artifactIdentity : String
  hostKind : DirectArtifactHostKind
  expectedSize : Option Nat
  failureClass : DirectArtifactFailureClass
  failureCode : String

/-- The route `queue_next_artifact_route` settles on, if any. -/
def nextArtifactRoute (routes : List PlanRoute) (failed : DirectArtifactAttempt)
    (attempted : List String) (blocked : String → Bool) : Option NextRoute := do
  let fallbackIdentity ← routeFallbackIdentity routes failed.artifactIdentity
  let route ← routes.find? (·.untried fallbackIdentity attempted blocked)
  let identity ← route.artifactIdentity
  let failureClass ← failed.failureClass
  let failureCode ← failed.failureCode
  let hostKind ← route.hostKind
  let routeKind ← route.routeKind
  if routeKind = .direct then
    some ⟨identity, hostKind, route.expectedSize, failureClass, failureCode⟩
  else
    none

/-- Close the first route with an identity. -/
def closeRoute (routeIdentity code : String) : List PlanRoute → List PlanRoute
  | [] => []
  | route :: rest =>
    if route.artifactIdentity = some routeIdentity then
      { route with eligible := false, eligibilityCode := code } :: rest
    else
      route :: closeRoute routeIdentity code rest

/-- A newly planned artifact row. -/
def plannedArtifact (id sequenceNo : Nat) (identity : String)
    (hostKind : DirectArtifactHostKind) (expectedSize : Option Nat) : DirectArtifactAttempt where
  id := id
  sequenceNo := sequenceNo
  artifactIdentity := identity
  routeKind := .direct
  hostKind := hostKind
  state := .planned
  expectedSize := expectedSize
  bytesTransferred := 0
  etag := none
  lastModifiedAt := none
  quarantinePath := none
  retryCount := 0
  maxRetries := 3
  nextRetryAt := none
  failureClass := none
  failureCode := none
  errorMessage := none
  completedAt := none

/-- One more than every sequence number of the acquisition. -/
def Rows.nextSequenceNo (rows : Rows) : Nat :=
  (rows.retired.map (·.sequenceNo)).foldl max rows.artifact.sequenceNo + 1

/-- The plan after one route failed and another was selected. -/
def PlanSnapshot.afterFallback (snapshot : PlanSnapshot) (routes : List PlanRoute)
    (failed : DirectArtifactAttempt) (next : NextRoute) : PlanSnapshot :=
  { snapshot with
    artifacts := some (closeRoute failed.artifactIdentity "route_failed" routes)
    routeFailures := snapshot.routeFailures ++
      [⟨failed.artifactIdentity, next.failureClass, next.failureCode, failed.hostKind,
        failed.sequenceNo⟩]
    selectedArtifactIdentity := some next.artifactIdentity }

/-- Retire the selected artifact and select a freshly planned one. -/
def Rows.selectFallback (rows : Rows) (routes : List PlanRoute) (next : NextRoute) : Rows :=
  { attempt := rows.attempt.planned
      (rows.attempt.planSnapshot.afterFallback routes rows.artifact next)
    artifact := plannedArtifact rows.nextArtifactId rows.nextSequenceNo next.artifactIdentity
      next.hostKind next.expectedSize
    retired := { rows.artifact with nextRetryAt := none } :: rows.retired
    nextArtifactId := rows.nextArtifactId + 1 }

/-- `queue_next_artifact_route`: whether a fallback was queued and committed. -/
def queueNextArtifactRoute (inputs : ExecutionInputs) : Exec Bool := do
  let rows ← Exec.rows
  match rows.attempt.planSnapshot.artifacts with
  | none => pure false
  | some routes => do
      Exec.await (inputs.signal .fallbackLookup)
      let attempted := (rows.artifact :: rows.retired).map (·.artifactIdentity)
      match nextArtifactRoute routes rows.artifact attempted inputs.blockedRoutes with
      | none => pure false
      | some next => do
          Exec.transitionArtifact inputs .failed
          Program.remember fun rows => rows.selectFallback routes next
          Exec.transitionAcquisition inputs .queued
          Exec.modifyAttempt fun attempt =>
            { attempt.clearFailure with retryCount := 0, nextRetryAt := none }
          Exec.write (inputs.signal .fallbackQueued) .fallbackQueued .fallbackQueued
          pure true

end Pullbox.Direct
