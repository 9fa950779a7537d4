import Pullbox.Limits.Api

/-!
# Spans of requests

How many requests a minute can hold, and what the remaining number of requests says about the
next one.
-/

namespace Pullbox.Limits

open Durable

variable {settings : ApiSettings} {limiter : APIRateLimiter} {ip other path method : String}
  {tier otherTier : Tier} {now began clock : Seconds} {counter : WindowCounter}
  {admitted : List Seconds}

namespace APIRateLimiter

theorem setCounter_same : (limiter.setCounter ip tier counter).counters ip tier = some counter := by
  simp [setCounter]

theorem setCounter_other (apart : ¬ (other = ip ∧ otherTier = tier)) :
    (limiter.setCounter ip tier counter).counters other otherTier =
      limiter.counters other otherTier := by
  by_cases same : other = ip
  · subst same
    have differs : otherTier ≠ tier := fun tiers => apart ⟨rfl, tiers⟩
    simp [setCounter, differs]
  · simp [setCounter, same]

/-- No window is open for the next request. -/
def Starts (limiter : APIRateLimiter) (ip : String) (tier : Tier) (now : Seconds) : Prop :=
  ∀ counter ∈ limiter.counters ip tier, counter.expired now = true

instance : Decidable (limiter.Starts ip tier now) := by
  unfold Starts
  infer_instance

/-- A window is open. -/
theorem not_starts (opened : ¬ limiter.Starts ip tier now) :
    ∃ counter, limiter.counters ip tier = some counter ∧ counter.expired now = false := by
  unfold Starts at opened
  push Not at opened
  obtain ⟨counter, found, fresh⟩ := opened
  exact ⟨counter, found, Bool.eq_false_iff.2 fresh⟩

/-- Pruning only removes counters whose window is over. -/
theorem cleanup_counters :
    (limiter.cleanup now).counters ip tier = limiter.counters ip tier ∨
      (limiter.cleanup now).counters ip tier = none ∧ limiter.Starts ip tier now := by
  unfold cleanup
  split
  · exact .inl rfl
  · cases found : limiter.counters ip tier with
    | none => exact .inl (by simp [found])
    | some counter =>
      cases expired : counter.expired now with
      | true =>
        refine .inr ⟨by simp [found, Option.filter, expired], fun other same => ?_⟩
        rw [found] at same
        exact Option.some.inj same ▸ expired
      | false => exact .inl (by simp [found, Option.filter, expired])

theorem expired_mono (expired : counter.expired began = true) (forward : began ≤ now) :
    counter.expired now = true := by
  have early : apiWindowSeconds ≤ began - counter.windowStart := of_decide_eq_true expired
  exact decide_eq_true (by linarith)

theorem Starts.mono (starts : limiter.Starts ip tier began) (forward : began ≤ now) :
    limiter.Starts ip tier now := fun counter found =>
  expired_mono (starts counter found) forward

/-- Pruning never ends a window that is open. -/
theorem cleanup_starts (forward : began ≤ now) :
    (limiter.cleanup began).Starts ip tier now ↔ limiter.Starts ip tier now := by
  rcases cleanup_counters with same | ⟨none, starts⟩
  · rw [Starts, Starts, same]
  · refine iff_of_true (fun counter found => ?_) (starts.mono forward)
    rw [none] at found
    cases found

theorem cleanup_open (opened : ¬ limiter.Starts ip tier now) (forward : began ≤ now) :
    (limiter.cleanup began).counters ip tier = limiter.counters ip tier := by
  rcases cleanup_counters with same | ⟨_, starts⟩
  · exact same
  · exact absurd (starts.mono forward) opened

theorem count_starts (starts : limiter.Starts ip tier now) :
    limiter.count settings ip tier now =
      (.ok (), limiter.setCounter ip tier { count := 1, windowStart := now }) := by
  unfold count
  simp only
  split
  · rfl
  · rename_i counter found
    rw [if_pos (starts counter found)]

theorem count_open (found : limiter.counters ip tier = some counter)
    (opened : counter.expired now = false) :
    limiter.count settings ip tier now =
      if settings.limit tier ≤ counter.count then (.error rateLimited, limiter)
      else (.ok (), limiter.setCounter ip tier { counter with count := counter.count + 1 }) := by
  unfold count
  rw [found]
  simp [opened]

theorem check_limited (enabled : settings.enabled = true)
    (limited : classify path method ≠ .exempt) :
    limiter.check settings ip path method began now =
      (limiter.cleanup began).count settings ip (classify path method) now := by
  unfold check
  rw [enabled]
  cases tier : classify path method with
  | exempt => exact absurd tier limited
  | tier1 | tier2 | tier3 => rfl

theorem getRemaining_limited (limited : classify path method ≠ .exempt) :
    limiter.getRemaining settings ip path method now =
      match limiter.counters ip (classify path method) with
      | none => settings.limit (classify path method)
      | some counter =>
        if counter.expired now then settings.limit (classify path method)
        else max 0 (settings.limit (classify path method) - counter.count) := by
  unfold getRemaining
  cases tier : classify path method with
  | exempt => exact absurd tier limited
  | tier1 | tier2 | tier3 => rfl

/-! ### The remaining requests -/

theorem getRemaining_starts (limited : classify path method ≠ .exempt)
    (starts : limiter.Starts ip (classify path method) now) :
    limiter.getRemaining settings ip path method now = settings.limit (classify path method) := by
  rw [getRemaining_limited limited]
  split
  · rfl
  · rename_i counter found
    rw [if_pos (starts counter found)]

theorem getRemaining_open (limited : classify path method ≠ .exempt)
    (found : limiter.counters ip (classify path method) = some counter)
    (opened : counter.expired now = false) :
    limiter.getRemaining settings ip path method now =
      max 0 (settings.limit (classify path method) - counter.count) := by
  rw [getRemaining_limited limited, found]
  simp [opened]

/-- The remaining number is positive exactly when the next request is admitted. -/
def RemainingAgrees (settings : ApiSettings) (limiter : APIRateLimiter) (ip path method : String)
    (now : Seconds) : Prop :=
  0 < limiter.getRemaining settings ip path method now ↔
    (limiter.check settings ip path method now now).1 = .ok ()

/-- It does, unless a limit that admits nothing meets a window that starts. -/
theorem remainingAgrees_iff (enabled : settings.enabled = true)
    (limited : classify path method ≠ .exempt) :
    RemainingAgrees settings limiter ip path method now ↔
      (limiter.Starts ip (classify path method) now →
        1 ≤ settings.limit (classify path method)) := by
  unfold RemainingAgrees
  rw [check_limited enabled limited]
  by_cases starts : limiter.Starts ip (classify path method) now
  · have cleaned := (cleanup_starts le_rfl).2 starts
    rw [getRemaining_starts limited starts, count_starts cleaned]
    simp [starts, Int.lt_iff_add_one_le]
  · obtain ⟨counter, found, opened⟩ := not_starts starts
    have kept : (limiter.cleanup now).counters ip (classify path method) = some counter :=
      (cleanup_open starts le_rfl).trans found
    rw [getRemaining_open limited found opened, count_open kept opened]
    refine iff_of_true ?_ fun starting => absurd starting starts
    split
    · rename_i full
      simp [full]
    · rename_i free
      simp
      omega

/-! ### One request -/

/-- What a request does to a counter and to the admitted requests that it counts. -/
inductive CounterStep (settings : ApiSettings) (limiter later : APIRateLimiter) (ip : String)
    (tier : Tier) (now : Seconds) (admitted : List Seconds) : List Seconds → Prop where
  | kept (same : later.counters ip tier = limiter.counters ip tier) :
      CounterStep settings limiter later ip tier now admitted admitted
  | dropped (none : later.counters ip tier = none) :
      CounterStep settings limiter later ip tier now admitted admitted
  | started (starts : limiter.Starts ip tier now)
      (first : later.counters ip tier = some { count := 1, windowStart := now }) :
      CounterStep settings limiter later ip tier now admitted (now :: admitted)
  | counted {counter : WindowCounter} (found : limiter.counters ip tier = some counter)
      (free : counter.count < settings.limit tier)
      (next : later.counters ip tier = some { counter with count := counter.count + 1 }) :
      CounterStep settings limiter later ip tier now admitted (now :: admitted)

/-- The times at which an answer adds an admission. -/
def admissions (answer : Except PullboxError Unit) (now : Seconds) : List Seconds :=
  match answer with
  | .ok () => [now]
  | .error _ => []

theorem count_own (following : began ≤ now) :
    CounterStep settings limiter ((limiter.cleanup began).count settings ip tier now).2 ip tier now
      admitted
      (admissions ((limiter.cleanup began).count settings ip tier now).1 now ++ admitted) := by
  by_cases starts : limiter.Starts ip tier now
  · rw [count_starts ((cleanup_starts following).2 starts)]
    exact .started starts setCounter_same
  · obtain ⟨counter, found, opened⟩ := not_starts starts
    have kept := cleanup_open starts following
    rw [count_open (kept.trans found) opened]
    split
    · exact .kept kept
    · rename_i free
      exact .counted found (not_le.1 free) setCounter_same

theorem count_other (apart : ¬ (other = ip ∧ otherTier = tier)) :
    CounterStep settings limiter ((limiter.cleanup began).count settings ip tier now).2 other
      otherTier now admitted admitted := by
  have same : ((limiter.cleanup began).count settings ip tier now).2.counters other otherTier =
      (limiter.cleanup began).counters other otherTier := by
    unfold count
    simp only
    split
    · exact setCounter_other apart
    · split
      · exact setCounter_other apart
      · split
        · rfl
        · exact setCounter_other apart
  rcases cleanup_counters with kept | ⟨none, _⟩
  · exact .kept (same.trans kept)
  · exact .dropped (same.trans none)

end APIRateLimiter

namespace ApiTrace

open APIRateLimiter

variable {trace after : ApiTrace} {request : ApiRequest}

theorem step_follows (step : ApiStep settings request trace after) :
    (trace.clock ≤ request.began ∧ request.began ≤ request.now) ∧ after.clock = request.now ∧
      after.limiter = (trace.limiter.check settings request.ip request.path request.method
        request.began request.now).2 ∧
      admittedAt ip tier after.history =
        (if request.ip = ip ∧ request.tier = tier then
          admissions (trace.limiter.check settings request.ip request.path request.method
            request.began request.now).1 request.now
        else []) ++ admittedAt ip tier trace.history := by
  obtain ⟨follows, same⟩ := Option.ite_none_right_eq_some.1 step
  have whole := (Option.some.inj same).symm
  subst whole
  refine ⟨follows, rfl, rfl, ?_⟩
  simp only [admittedAt]
  cases (trace.limiter.check settings request.ip request.path request.method
      request.began request.now).1 with
  | ok value =>
    by_cases named : request.ip = ip ∧ request.tier = tier
    · simp [named, admissions]
    · rw [if_neg named]
      by_cases same : request.ip = ip
      · have differs : ¬ request.tier = tier := fun tiers => named ⟨same, tiers⟩
        simp [differs]
      · simp [same]
  | error error => simp [admissions]

theorem step_counter (step : ApiStep settings request trace after)
    (enabled : settings.enabled = true) (limited : tier ≠ .exempt) (ip : String) :
    CounterStep settings trace.limiter after.limiter ip tier after.clock
      (admittedAt ip tier trace.history) (admittedAt ip tier after.history) := by
  obtain ⟨follows, clock, later, history⟩ := step_follows step
  rw [clock, later, history]
  by_cases exempt : request.tier = .exempt
  · have apart : ¬ (request.ip = ip ∧ request.tier = tier) := fun named =>
      limited (named.2.symm.trans exempt)
    have same : trace.limiter.check settings request.ip request.path request.method
        request.began request.now = (.ok (), trace.limiter) := by
      have tier : classify request.path request.method = .exempt := exempt
      simp [check, enabled, tier]
    rw [if_neg apart, same]
    exact .kept rfl
  · rw [check_limited enabled exempt]
    by_cases named : request.ip = ip ∧ request.tier = tier
    · rw [if_pos named]
      obtain ⟨rfl, rfl⟩ := named
      exact count_own follows.2
    · rw [if_neg named]
      exact count_other fun back => named ⟨back.1.symm, back.2.symm⟩

/-- The limiter is on, and the request does not start a window where its limit admits none or
where an admitted request is less than a minute old. -/
structure Apart (settings : ApiSettings) (request : ApiRequest) (trace : ApiTrace) : Prop where
  enabled : settings.enabled = true
  starts : request.tier ≠ .exempt → trace.limiter.Starts request.ip request.tier request.now →
    1 ≤ settings.limit request.tier ∧
      ∀ time ∈ admittedAt request.ip request.tier trace.history,
        apiWindowSeconds ≤ request.now - time

instance (request : ApiRequest) (trace : ApiTrace) : Decidable (Apart settings request trace) :=
  decidable_of_iff
    (settings.enabled = true ∧
      (request.tier ≠ .exempt → trace.limiter.Starts request.ip request.tier request.now →
        1 ≤ settings.limit request.tier ∧
          ∀ time ∈ admittedAt request.ip request.tier trace.history,
            apiWindowSeconds ≤ request.now - time))
    ⟨fun apart => ⟨apart.1, apart.2⟩, fun apart => ⟨apart.enabled, apart.starts⟩⟩

/-- The admitted requests that fall into a span of 60 seconds. -/
def spanCount (admitted : List Seconds) (start : Seconds) : Nat :=
  admitted.countP fun time => decide (start ≤ time ∧ time < start + apiWindowSeconds)

/-- What a counter says about the admitted requests. -/
structure Tracked (limit : Int) (counter : Option WindowCounter) (clock : Seconds)
    (admitted : List Seconds) : Prop where
  past : ∀ time ∈ admitted, time ≤ clock
  /-- The requests that a counter has not counted were a minute before its window. -/
  counts : ∀ found, counter = some found → ∃ newer older, admitted = newer ++ older ∧
    (newer.length : Int) = found.count ∧ found.windowStart ≤ clock ∧
      ∀ time ∈ older, apiWindowSeconds ≤ found.windowStart - time
  spans : ∀ start, (spanCount admitted start : Int) ≤ max 0 limit

/-- A span that holds a request holds only those that are less than a minute older. -/
theorem spanCount_le {newer older : List Seconds} {windowStart start : Seconds}
    (opened : windowStart ≤ now) (old : ∀ time ∈ older, apiWindowSeconds ≤ windowStart - time)
    (inside : now < start + apiWindowSeconds) :
    spanCount (newer ++ older) start ≤ newer.length := by
  have none : spanCount older start = 0 := by
    rw [spanCount, List.countP_eq_zero]
    intro time member recent
    have early := old time member
    obtain ⟨after, _⟩ := of_decide_eq_true recent
    linarith
  have whole : spanCount (newer ++ older) start = spanCount newer start + spanCount older start :=
    List.countP_append
  rw [whole, none, Nat.add_zero]
  exact List.countP_le_length

/-- A request outside of a span leaves its count. -/
theorem spanCount_outside {start : Seconds}
    (outside : ¬ (start ≤ now ∧ now < start + apiWindowSeconds)) :
    spanCount (now :: admitted) start = spanCount admitted start := by
  rw [spanCount, List.countP_cons_of_neg (by simpa using outside)]
  rfl

variable {later : APIRateLimiter} {next : Seconds} {laterAdmitted : List Seconds}

/-- A counter keeps counting the requests that are admitted, as long as a window that starts
loses none of them. -/
theorem counterStep_tracked
    (step : CounterStep settings limiter later ip tier next admitted laterAdmitted)
    (tracked : Tracked (settings.limit tier) (limiter.counters ip tier) clock admitted)
    (forward : clock ≤ next)
    (apart : laterAdmitted = next :: admitted → limiter.Starts ip tier next →
      1 ≤ settings.limit tier ∧ ∀ time ∈ admitted, apiWindowSeconds ≤ next - time) :
    Tracked (settings.limit tier) (later.counters ip tier) next laterAdmitted := by
  have kept : ∀ time ∈ admitted, time ≤ next := fun time inside =>
    (tracked.past time inside).trans forward
  have added : ∀ time ∈ next :: admitted, time ≤ next := by
    intro time inside
    rcases List.mem_cons.1 inside with rfl | old
    · exact le_rfl
    · exact kept time old
  cases step with
  | kept same =>
    refine ⟨kept, fun found counter => ?_, tracked.spans⟩
    obtain ⟨newer, older, whole, length, start, old⟩ :=
      tracked.counts found (same.symm.trans counter)
    exact ⟨newer, older, whole, length, start.trans forward, old⟩
  | dropped none =>
    refine ⟨kept, fun found counter => ?_, tracked.spans⟩
    rw [none] at counter
    cases counter
  | started starts first =>
    obtain ⟨positive, old⟩ := apart rfl starts
    refine ⟨added, fun found counter => ?_, fun start => ?_⟩
    · rw [first] at counter
      cases counter
      exact ⟨[next], admitted, rfl, rfl, le_rfl, old⟩
    · by_cases inside : start ≤ next ∧ next < start + apiWindowSeconds
      · have few : spanCount ([next] ++ admitted) start ≤ 1 :=
          spanCount_le le_rfl old inside.2
        rw [List.singleton_append] at few
        omega
      · rw [spanCount_outside inside]
        exact tracked.spans start
  | @counted counter found free counted =>
    obtain ⟨newer, older, whole, length, opened, old⟩ := tracked.counts counter found
    have longer : ((next :: newer).length : Int) = counter.count + 1 := by
      rw [List.length_cons, Nat.cast_add, length]
      rfl
    refine ⟨added, fun other same => ?_, fun start => ?_⟩
    · rw [counted] at same
      cases same
      refine ⟨next :: newer, older, ?_, longer, opened.trans forward, old⟩
      rw [whole, List.cons_append]
    · by_cases inside : start ≤ next ∧ next < start + apiWindowSeconds
      · have few : spanCount ((next :: newer) ++ older) start ≤ (next :: newer).length :=
          spanCount_le (opened.trans forward) old inside.2
        rw [whole, ← List.cons_append]
        omega
      · rw [spanCount_outside inside]
        exact tracked.spans start

/-- What the counters of all addresses say. -/
def Tracks (settings : ApiSettings) (trace : ApiTrace) : Prop :=
  ∀ ip tier, tier ≠ .exempt → Tracked (settings.limit tier) (trace.limiter.counters ip tier)
    trace.clock (admittedAt ip tier trace.history)

theorem initial_tracks (initial : trace.Initial) : Tracks settings trace := by
  obtain ⟨fresh, empty⟩ := initial
  intro ip tier _
  rw [empty, fresh]
  refine ⟨fun time inside => ?_, fun found counter => ?_, fun start => ?_⟩
  · cases inside
  · cases counter
  · exact le_max_left 0 _

theorem step_tracks (tracks : Tracks settings trace) (apart : Apart settings request trace)
    (step : ApiStep settings request trace after) : Tracks settings after := by
  intro ip tier limited
  obtain ⟨follows, clock, _, history⟩ := step_follows step
  have forward : trace.clock ≤ after.clock := clock ▸ follows.1.trans follows.2
  refine counterStep_tracked (step_counter step apart.enabled limited ip) (tracks ip tier limited)
    forward fun added starts => ?_
  have named : request.ip = ip ∧ request.tier = tier := by
    by_contra differs
    rw [history, if_neg differs] at added
    have longer := congrArg List.length added
    simp at longer
  obtain ⟨rfl, rfl⟩ := named
  rw [clock] at starts ⊢
  exact apart.starts limited starts

/-- In every run the counters follow what was admitted. -/
theorem run_tracks (run : Reachable Initial (Apart settings) (ApiStep settings) trace) :
    Tracks settings trace := by
  refine run.invariant (fun _ => initial_tracks) ?_
  intro request before next tracks apart step
  exact step_tracks tracks apart step

end ApiTrace

/-- As long as no window starts while an admitted request is less than a minute old, every span
of 60 seconds holds at most as many requests as the limit. The remaining number is positive
exactly when the next request is admitted, unless a window starts under a limit of none. -/
theorem api_rate_limit :
    (∀ trace, Reachable ApiTrace.Initial (ApiTrace.Apart settings) (ApiStep settings) trace →
      ∀ ip tier start, tier ≠ .exempt →
        (trace.admittedIn ip tier start : Int) ≤ max 0 (settings.limit tier)) ∧
    ∀ (limiter : APIRateLimiter) ip path method now, settings.enabled = true →
      classify path method ≠ .exempt →
        (limiter.RemainingAgrees settings ip path method now ↔
          (limiter.Starts ip (classify path method) now →
            1 ≤ settings.limit (classify path method))) :=
  ⟨fun _ run ip tier start limited => (ApiTrace.run_tracks run ip tier limited).spans start,
    fun _ _ _ _ _ => APIRateLimiter.remainingAgrees_iff⟩

/-- The trace of a new limiter after some requests, if the clock allows them. -/
def apiTraceAfter (settings : ApiSettings) (requests : List ApiRequest) : Option ApiTrace :=
  requests.foldlM (ApiTrace.apply settings)
    { limiter := .fresh 0, clock := 0, history := [] }

/-- A request that changes the library, at some time. -/
def writeAt (now : Seconds) : ApiRequest where
  ip := "192.0.2.1"
  path := "/api/v1/series"
  method := "POST"
  began := now
  now := now

/-- Two requests of a window, and the first of the next one. -/
def apartRun : List ApiRequest :=
  [0, 1, 70].map writeAt

/-- Requests of two windows. -/
theorem api_rate_limit_apart :
    ∃ trace, apiTraceAfter { tier2 := 2 } apartRun = some trace ∧
      trace.admittedIn "192.0.2.1" .tier2 0 ≤ 2 ∧
      trace.limiter.RemainingAgrees { tier2 := 2 } "192.0.2.1" "/api/v1/series" "POST" 71 := by
  have checked : (apartRun.foldlM (fun trace request =>
      if ApiTrace.Apart { tier2 := 2 } request trace then trace.apply { tier2 := 2 } request
      else none) { limiter := .fresh 0, clock := 0, history := [] }).isSome := by
    decide +kernel
  obtain ⟨trace, ran⟩ := Option.isSome_iff_exists.1 checked
  have run : Reachable ApiTrace.Initial (ApiTrace.Apart { tier2 := 2 }) (ApiStep { tier2 := 2 })
      trace := Reachable.run_checked (.start ⟨rfl, rfl⟩) ran
  have bounded := api_rate_limit.1 trace run "192.0.2.1" .tier2 0 (by decide)
  have limited : classify "/api/v1/series" "POST" ≠ .exempt := by decide +kernel
  refine ⟨trace, Reachable.foldlM_of_checked ran, ?_, ?_⟩
  · have two : max 0 (ApiSettings.limit { tier2 := 2 } .tier2) = 2 := by decide
    omega
  · refine (api_rate_limit.2 trace.limiter _ _ _ _ rfl limited).2 fun _ => ?_
    decide +kernel

/-- A window that is full, and one that starts two seconds after it. -/
def straddlingRun : List ApiRequest :=
  [0, 59, 61, 62].map writeAt

/-- Requests on both sides of the end of a window are all admitted. -/
theorem straddling_admitted :
    ∃ trace, Reachable ApiTrace.Initial (fun _ _ => True) (ApiStep { tier2 := 2 }) trace ∧
      ¬ (trace.admittedIn "192.0.2.1" .tier2 10 : Int) ≤
        max 0 (ApiSettings.limit { tier2 := 2 } .tier2) := by
  have facts : ∃ trace ∈ apiTraceAfter { tier2 := 2 } straddlingRun,
      ¬ (trace.admittedIn "192.0.2.1" .tier2 10 : Int) ≤
        max 0 (ApiSettings.limit { tier2 := 2 } .tier2) := by
    decide +kernel
  obtain ⟨trace, ran, exceeded⟩ := facts
  exact ⟨trace, Reachable.run (.start ⟨rfl, rfl⟩) (fun _ _ _ => trivial) ran, exceeded⟩

end Pullbox.Limits
