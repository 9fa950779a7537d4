import Pullbox.Airdcpp.Acquisition
import Pullbox.Durable.Reachable

/-!
# The search cooldown of an AirDC++ client

Searches of one client are reserved through a deadline in its settings
(`airdcpp_search_cooldown.py`). Any number of workers read the interval and then try a conditional
update; each statement on the database is one step, and between two of them anything else may
happen. The lock within a process only excludes interleavings and is left out.
-/

namespace Pullbox.Airdcpp

/-- `_MINIMUM_SECONDS`. -/
def minimumSeconds : Int := 45

/-- The columns of the cooldown. -/
structure AirDcppClientSettings where
  minimumSearchIntervalSeconds : Int
  nextSearchAllowedAt : Option Timestamp

/-- `timedelta(seconds=max(_MINIMUM_SECONDS, int(interval)))`. -/
def AirDcppClientSettings.effectiveInterval (settings : AirDcppClientSettings) : Timestamp :=
  max minimumSeconds settings.minimumSearchIntervalSeconds * 1000000

/-- `_remaining_seconds`: whole seconds, rounded up. -/
def remainingSeconds (deadline now : Timestamp) : Int :=
  max 0 (-((now - deadline) / 1000000))

/-- `AirDcppCooldownReservation`. -/
structure AirDcppCooldownReservation where
  granted : Bool
  notBefore : Timestamp
  nextAllowedAt : Timestamp
  waitSeconds : Int

/-- A call of `reserve` or `extend_from_sent`, by the statement it comes to next. -/
inductive CooldownCall where
  | reserveReading (checkedAt : Timestamp)
  | reserveUpdating (checkedAt interval : Timestamp)
  /-- The update matched no row; the deadline is read. -/
  | reserveRefused (checkedAt : Timestamp)
  | extendReading (confirmedAt : Timestamp)
  | extendUpdating (confirmedAt interval : Timestamp)
  | reserved (checkedAt : Timestamp) (reservation : AirDcppCooldownReservation)
  | extended (nextAllowedAt : Timestamp)
  /-- `AirDcppSearchCooldownError`. -/
  | unavailable

/-- The stored settings, and the calls under way. -/
structure CooldownState where
  settings : Option AirDcppClientSettings
  calls : List CooldownCall

namespace CooldownState

def put (state : CooldownState) (index : Nat) (call : CooldownCall) : CooldownState :=
  { state with calls := state.calls.set index call }

/-- `.values(next_search_allowed_at=deadline)`. -/
def store (state : CooldownState) (settings : AirDcppClientSettings) (deadline : Timestamp) :
    CooldownState :=
  { state with settings := some { settings with nextSearchAllowedAt := some deadline } }

/-- The conditional update of `reserve`, with its commit. -/
def tryReserve (state : CooldownState) (index : Nat) (checkedAt interval : Timestamp) :
    CooldownState :=
  match state.settings with
  | none => state.put index (.reserveRefused checkedAt)
  | some settings =>
    if settings.nextSearchAllowedAt.all (· ≤ checkedAt) then
      (state.store settings (checkedAt + interval)).put index
        (.reserved checkedAt ⟨true, checkedAt, checkedAt + interval, 0⟩)
    else state.put index (.reserveRefused checkedAt)

/-- The conditional update of `extend_from_sent`, and what is read before its commit. -/
def extend (state : CooldownState) (index : Nat) (confirmedAt interval : Timestamp) :
    CooldownState :=
  match state.settings with
  | none => state.put index .unavailable
  | some settings =>
    let deadline := confirmedAt + interval
    match settings.nextSearchAllowedAt with
    | none => (state.store settings deadline).put index (.extended deadline)
    | some current =>
      if current < deadline then (state.store settings deadline).put index (.extended deadline)
      else state.put index (.extended current)

/-- The next statement of a call. -/
def proceed (state : CooldownState) (index : Nat) : CooldownCall → Option CooldownState
  | .reserveReading checkedAt =>
    state.put index <| match state.settings with
      | none => .unavailable
      | some settings => .reserveUpdating checkedAt settings.effectiveInterval
  | .reserveUpdating checkedAt interval => state.tryReserve index checkedAt interval
  | .reserveRefused checkedAt =>
    state.put index <| match state.settings.bind (·.nextSearchAllowedAt) with
      | none => .unavailable
      | some deadline =>
        .reserved checkedAt ⟨false, deadline, deadline, remainingSeconds deadline checkedAt⟩
  | .extendReading confirmedAt =>
    state.put index <| match state.settings with
      | none => .unavailable
      | some settings => .extendUpdating confirmedAt settings.effectiveInterval
  | .extendUpdating confirmedAt interval => state.extend index confirmedAt interval
  | .reserved .. | .extended _ | .unavailable => none

end CooldownState

/-- One transaction of one call. -/
inductive CooldownEvent where
  | reserve (checkedAt : Timestamp)
  | extendFromSent (sentAt : Timestamp)
  | proceed (index : Nat)

namespace CooldownState

def step (state : CooldownState) : CooldownEvent → Option CooldownState
  | .reserve checkedAt => some { state with calls := state.calls ++ [.reserveReading checkedAt] }
  | .extendFromSent sentAt => some { state with calls := state.calls ++ [.extendReading sentAt] }
  | .proceed index => state.calls[index]?.bind (state.proceed index)

/-- The states that calls on one client lead to, in any order of their statements. -/
abbrev Reached : CooldownState → Prop :=
  Durable.Reachable (fun state => state.calls = []) (fun _ _ => True)
    (fun event state after => state.step event = some after)

end CooldownState

end Pullbox.Airdcpp

/-!
## Granted searches keep their distance

A reservation is granted only at or after the deadline, and moves it by the interval; nothing
moves it back. So the deadline stands behind every granted reservation, whoever reserved and
whatever the clocks said, and the next one granted comes after it.
-/

namespace Pullbox.Airdcpp

/-- The settings with the deadline where it was or later; one that is set stays set. -/
def NotEarlier : Option AirDcppClientSettings → Option AirDcppClientSettings → Prop
  | none, none => True
  | some before, some after =>
    after.minimumSearchIntervalSeconds = before.minimumSearchIntervalSeconds ∧
      ∀ deadline, before.nextSearchAllowedAt = some deadline →
        ∃ later, after.nextSearchAllowedAt = some later ∧ deadline ≤ later
  | _, _ => False

namespace NotEarlier

theorem refl (settings : Option AirDcppClientSettings) : NotEarlier settings settings := by
  cases settings with
  | none => trivial
  | some settings => exact ⟨rfl, fun deadline stored => ⟨deadline, stored, le_rfl⟩⟩

/-- A deadline that is stored over none or an earlier one. -/
theorem store {settings : AirDcppClientSettings} {deadline : Timestamp}
    (later : ∀ current, settings.nextSearchAllowedAt = some current → current ≤ deadline) :
    NotEarlier (some settings) (some { settings with nextSearchAllowedAt := some deadline }) :=
  ⟨rfl, fun current stored => ⟨deadline, rfl, later current stored⟩⟩

end NotEarlier

/-- The interval is never below the minimum of the protocol. -/
theorem minimumSeconds_le (settings : AirDcppClientSettings) :
    minimumSeconds * 1000000 ≤ settings.effectiveInterval :=
  Int.mul_le_mul_of_nonneg_right (le_max_left _ _) (by decide)

theorem effectiveInterval_pos (settings : AirDcppClientSettings) :
    0 < settings.effectiveInterval :=
  lt_of_lt_of_le (by decide) (minimumSeconds_le settings)

theorem remainingSeconds_pos {deadline now : Int} (ahead : now < deadline) :
    0 < remainingSeconds deadline now := by
  have whole : (now - deadline) / 1000000 < 0 := Int.ediv_lt_of_lt_mul (by decide) (by omega)
  exact lt_max_of_lt_right (Int.neg_pos_of_neg whole)

/-- What is known of a call, by the settings as they are. -/
def CooldownCall.Sound (settings : Option AirDcppClientSettings) : CooldownCall → Prop
  | .reserveUpdating _ interval | .extendUpdating _ interval =>
    ∀ stored, settings = some stored → interval = stored.effectiveInterval
  | .reserveRefused checkedAt =>
    ∀ stored, settings = some stored →
      ∃ deadline, stored.nextSearchAllowedAt = some deadline ∧ checkedAt < deadline
  | .reserved checkedAt reservation =>
    if reservation.granted then
      reservation.notBefore = checkedAt ∧ ∃ stored, settings = some stored ∧
        reservation.nextAllowedAt = checkedAt + stored.effectiveInterval ∧
        ∃ deadline, stored.nextSearchAllowedAt = some deadline ∧
          reservation.nextAllowedAt ≤ deadline
    else checkedAt < reservation.nextAllowedAt ∧ 0 < reservation.waitSeconds
  | .reserveReading _ | .extendReading _ | .extended _ | .unavailable => True

variable {call : CooldownCall}

/-- What is known of a call stays true while the deadline moves on. -/
theorem CooldownCall.Sound.mono {before after : Option AirDcppClientSettings}
    (sound : call.Sound before) (moved : NotEarlier before after) :
    call.Sound after := by
  cases before with
  | none =>
    cases after with
    | none => exact sound
    | some after => cases moved
  | some before =>
    cases after with
    | none => cases moved
    | some after =>
      obtain ⟨same, later⟩ := moved
      have interval : after.effectiveInterval = before.effectiveInterval := by
        rw [AirDcppClientSettings.effectiveInterval, same]
        rfl
      cases call with
      | reserveUpdating checkedAt _ | extendUpdating confirmedAt _ =>
        rintro _ ⟨⟩
        exact (sound before rfl).trans interval.symm
      | reserveRefused checkedAt =>
        rintro _ ⟨⟩
        obtain ⟨deadline, stored, ahead⟩ := sound before rfl
        obtain ⟨next, now, further⟩ := later deadline stored
        exact ⟨next, now, lt_of_lt_of_le ahead further⟩
      | reserved checkedAt reservation =>
        simp only [CooldownCall.Sound] at sound ⊢
        split_ifs at sound ⊢
        · obtain ⟨start, _, ⟨⟩, gap, deadline, stored, within⟩ := sound
          obtain ⟨next, now, further⟩ := later deadline stored
          exact ⟨start, after, rfl, by rw [gap, interval], next, now, within.trans further⟩
        · exact sound
      | reserveReading | extendReading | extended | unavailable => trivial

namespace CooldownState

variable {state after : CooldownState} {event : CooldownEvent} {index : Nat}

/-- The calls are as their settings allow, and any two granted reservations are apart. -/
structure Sound (state : CooldownState) : Prop where
  calls : ∀ call ∈ state.calls, call.Sound state.settings
  apart : ∀ (i j : Nat) (ci cj : Timestamp) (ri rj : AirDcppCooldownReservation), i ≠ j →
    state.calls[i]? = some (CooldownCall.reserved ci ri) →
    state.calls[j]? = some (CooldownCall.reserved cj rj) →
    ri.granted = true → rj.granted = true → ri.nextAllowedAt ≤ cj ∨ rj.nextAllowedAt ≤ ci

/-- What one statement of a call does: the call goes on as the new settings allow, a grant finds
the deadline passed, and only a grant or an extension writes. -/
structure Advanced (state after : CooldownState) (index : Nat) (call : CooldownCall) : Prop where
  calls : after.calls = state.calls.set index call
  moved : NotEarlier state.settings after.settings
  sound : call.Sound after.settings
  passed : ∀ checkedAt reservation, call = .reserved checkedAt reservation →
    reservation.granted = true → ∀ settings deadline, state.settings = some settings →
      settings.nextSearchAllowedAt = some deadline → deadline ≤ checkedAt
  wrote : after.settings = state.settings ∨
    (∃ checkedAt reservation, call = .reserved checkedAt reservation ∧
      reservation.granted = true) ∨ ∃ deadline, call = .extended deadline

/-- A call that goes on without a write. -/
theorem Advanced.put (sound : call.Sound state.settings)
    (waits : ∀ checkedAt reservation, call = .reserved checkedAt reservation →
      reservation.granted = false) : Advanced state (state.put index call) index call where
  calls := rfl
  moved := .refl _
  sound := sound
  passed := by
    intro checkedAt reservation same granted
    rw [waits checkedAt reservation same] at granted
    cases granted
  wrote := .inl rfl

theorem tryReserve_advanced {checkedAt interval : Timestamp}
    (sound : (CooldownCall.reserveUpdating checkedAt interval).Sound state.settings) :
    ∃ call, Advanced state (state.tryReserve index checkedAt interval) index call := by
  unfold tryReserve
  cases stored : state.settings with
  | none =>
    refine ⟨.reserveRefused checkedAt, .put ?_ nofun⟩
    rw [stored]
    rintro _ ⟨⟩
  | some settings =>
    have gap := sound settings stored
    dsimp only
    split
    · next passed =>
      refine ⟨.reserved checkedAt ⟨true, checkedAt, checkedAt + interval, 0⟩, ?_⟩
      have further : ∀ deadline, settings.nextSearchAllowedAt = some deadline →
          deadline ≤ checkedAt := by
        intro deadline here
        simpa [here] using passed
      have long := effectiveInterval_pos settings
      constructor
      · rfl
      · rw [stored]
        apply NotEarlier.store
        intro current here
        exact (further current here).trans (le_add_of_nonneg_right (gap ▸ long.le))
      · refine ⟨rfl, _, rfl, ?_, checkedAt + interval, rfl, le_rfl⟩
        rw [gap]
        rfl
      · rintro _ _ ⟨⟩ _ other deadline same here
        rw [stored] at same
        cases same
        exact further deadline here
      · exact .inr (.inl ⟨_, _, rfl, rfl⟩)
    · next waits =>
      refine ⟨.reserveRefused checkedAt, .put ?_ nofun⟩
      rw [stored]
      rintro _ ⟨⟩
      cases here : settings.nextSearchAllowedAt with
      | none => simp [here] at waits
      | some deadline =>
        rw [here, Option.all_some, decide_eq_true_eq, not_le] at waits
        exact ⟨deadline, rfl, waits⟩

/-- An extension that writes. -/
theorem Advanced.store {settings : AirDcppClientSettings} {deadline : Timestamp}
    (stored : state.settings = some settings)
    (later : ∀ current, settings.nextSearchAllowedAt = some current → current ≤ deadline) :
    Advanced state ((state.store settings deadline).put index (.extended deadline)) index
      (.extended deadline) where
  calls := rfl
  moved := by
    rw [stored]
    exact .store later
  sound := trivial
  passed := nofun
  wrote := .inr (.inr ⟨deadline, rfl⟩)

theorem extend_advanced {confirmedAt interval : Timestamp} :
    ∃ call, Advanced state (state.extend index confirmedAt interval) index call := by
  unfold extend
  cases stored : state.settings with
  | none => exact ⟨.unavailable, .put trivial nofun⟩
  | some settings =>
    cases here : settings.nextSearchAllowedAt with
    | none =>
      simp only [here]
      refine ⟨_, .store stored ?_⟩
      intro current same
      rw [here] at same
      cases same
    | some current =>
      by_cases earlier : current < confirmedAt + interval
      · simp only [here, earlier, if_true]
        refine ⟨_, .store stored ?_⟩
        intro other same
        rw [here] at same
        cases same
        exact earlier.le
      · simp only [here, earlier, if_false]
        exact ⟨.extended current, .put trivial nofun⟩

/-- Every statement of a call advances it. -/
theorem proceed_advanced (sound : call.Sound state.settings)
    (proceeded : state.proceed index call = some after) :
    ∃ next, Advanced state after index next := by
  cases call with
  | reserveReading checkedAt =>
    cases proceeded
    cases stored : state.settings with
    | none => exact ⟨.unavailable, .put trivial nofun⟩
    | some settings =>
      refine ⟨.reserveUpdating checkedAt settings.effectiveInterval, .put ?_ nofun⟩
      rw [stored]
      rintro _ ⟨⟩
      rfl
  | reserveUpdating checkedAt interval =>
    cases proceeded
    exact tryReserve_advanced sound
  | reserveRefused checkedAt =>
    cases proceeded
    cases stored : state.settings with
    | none => exact ⟨.unavailable, .put trivial nofun⟩
    | some settings =>
      obtain ⟨deadline, here, ahead⟩ := sound settings stored
      simp only [Option.bind_some, here]
      refine ⟨.reserved checkedAt ⟨false, deadline, deadline,
        remainingSeconds deadline checkedAt⟩, .put ⟨ahead, remainingSeconds_pos ahead⟩ ?_⟩
      rintro _ _ ⟨⟩
      rfl
  | extendReading confirmedAt =>
    cases proceeded
    cases stored : state.settings with
    | none => exact ⟨.unavailable, .put trivial nofun⟩
    | some settings =>
      refine ⟨.extendUpdating confirmedAt settings.effectiveInterval, .put ?_ nofun⟩
      rw [stored]
      rintro _ ⟨⟩
      rfl
  | extendUpdating confirmedAt interval =>
    cases proceeded
    exact extend_advanced
  | reserved | extended | unavailable => cases proceeded

theorem Advanced.mem {call other : CooldownCall} (advanced : Advanced state after index call)
    (member : other ∈ after.calls) : other = call ∨ other ∈ state.calls := by
  rw [advanced.calls] at member
  exact (List.mem_or_eq_of_mem_set member).symm

/-- A call advances soundly: a grant comes after all deadlines that were granted before. -/
theorem Sound.advance (sound : Sound state)
    (advanced : Advanced state after index call) : Sound after where
  calls := by
    intro other member
    rcases advanced.mem member with rfl | before
    · exact advanced.sound
    · exact (sound.calls other before).mono advanced.moved
  apart := by
    -- What was granted before ends at the stored deadline or earlier.
    have behind (i : Nat) (c checkedAt : Timestamp) (r reservation : AirDcppCooldownReservation)
        (found : state.calls[i]? = some (CooldownCall.reserved c r)) (granted : r.granted = true)
        (same : call = .reserved checkedAt reservation) (now : reservation.granted = true) :
        r.nextAllowedAt ≤ checkedAt := by
      have known := sound.calls _ (List.mem_of_getElem? found)
      rw [CooldownCall.Sound, if_pos granted] at known
      obtain ⟨_, settings, stored, _, deadline, here, within⟩ := known
      exact within.trans (advanced.passed _ _ same now settings deadline stored here)
    intro i j ci cj ri rj different atI atJ grantedI grantedJ
    rw [advanced.calls] at atI atJ
    by_cases hereI : index = i
    · subst hereI
      rw [List.getElem?_set_ne different] at atJ
      have same : call = .reserved ci ri := by
        rw [List.getElem?_set_self'] at atI
        obtain ⟨_, _, same⟩ := Option.map_eq_some_iff.1 atI
        exact same
      exact .inr (behind j cj ci rj ri atJ grantedJ same grantedI)
    · rw [List.getElem?_set_ne hereI] at atI
      by_cases hereJ : index = j
      · subst hereJ
        have same : call = .reserved cj rj := by
          rw [List.getElem?_set_self'] at atJ
          obtain ⟨_, _, same⟩ := Option.map_eq_some_iff.1 atJ
          exact same
        exact .inl (behind i ci cj ri rj atI grantedI same grantedJ)
      · rw [List.getElem?_set_ne hereJ] at atJ
        exact sound.apart i j ci cj ri rj different atI atJ grantedI grantedJ

/-- A call that only starts. -/
theorem Sound.start (sound : Sound state)
    (fresh : call.Sound state.settings)
    (waits : ∀ checkedAt reservation, call ≠ .reserved checkedAt reservation) :
    Sound { state with calls := state.calls ++ [call] } where
  calls := by
    intro other member
    rcases List.mem_append.1 member with before | last
    · exact sound.calls other before
    · rw [List.mem_singleton.1 last]
      exact fresh
  apart := by
    have earlier (i : Nat) (c : Timestamp) (r : AirDcppCooldownReservation)
        (found : (state.calls ++ [call])[i]? = some (CooldownCall.reserved c r)) :
        state.calls[i]? = some (CooldownCall.reserved c r) := by
      rw [List.getElem?_append] at found
      split at found
      · exact found
      · rw [List.getElem?_singleton] at found
        split at found
        · exact absurd (Option.some.inj found) (waits c r)
        · cases found
    intro i j ci cj ri rj different atI atJ
    exact sound.apart i j ci cj ri rj different (earlier i ci ri atI) (earlier j cj rj atJ)

/-- One event: a call starts, or a call advances. -/
theorem step_cases (sound : Sound state) (stepped : state.step event = some after) :
    (∃ call, after = { state with calls := state.calls ++ [call] } ∧
      call.Sound state.settings ∧ ∀ checkedAt reservation, call ≠ .reserved checkedAt reservation) ∨
    ∃ index call, Advanced state after index call := by
  cases event with
  | reserve checkedAt =>
    cases stepped
    exact .inl ⟨_, rfl, trivial, nofun⟩
  | extendFromSent sentAt =>
    cases stepped
    exact .inl ⟨_, rfl, trivial, nofun⟩
  | proceed index =>
    obtain ⟨call, found, proceeded⟩ := Option.bind_eq_some_iff.1 stepped
    have known := sound.calls call (List.mem_of_getElem? found)
    obtain ⟨next, advanced⟩ := proceed_advanced known proceeded
    exact .inr ⟨index, next, advanced⟩

/-- Granted reservations stay apart in every run. -/
theorem Reached.sound (reached : Reached state) : Sound state := by
  refine Durable.Reachable.invariant reached ?_ ?_
  · intro state fresh
    constructor
    · rw [fresh]
      exact fun _ member => absurd member List.not_mem_nil
    · intro i j ci cj ri rj _ atI
      rw [fresh] at atI
      cases atI
  · intro event state after sound _ stepped
    rcases step_cases sound stepped with ⟨call, rfl, fresh, waits⟩ | ⟨index, call, advanced⟩
    · exact sound.start fresh waits
    · exact sound.advance advanced

/-- In every state that calls lead to: two granted reservations are at least the effective
interval apart, which is never below the minimum of the protocol; a refused one reports a
deadline behind its clock reading. No event moves the deadline back, and one that changes the
settings at all grants a reservation or extends the deadline. -/
theorem reached_cooldown (reached : Reached state) :
    (∀ settings, state.settings = some settings →
      minimumSeconds * 1000000 ≤ settings.effectiveInterval ∧
      ∀ (i j : Nat) (ci cj : Timestamp) (ri rj : AirDcppCooldownReservation), i ≠ j →
        state.calls[i]? = some (CooldownCall.reserved ci ri) →
        state.calls[j]? = some (CooldownCall.reserved cj rj) →
        ri.granted = true → rj.granted = true →
        ci + settings.effectiveInterval ≤ cj ∨ cj + settings.effectiveInterval ≤ ci) ∧
      (∀ (checkedAt : Timestamp) (reservation : AirDcppCooldownReservation),
        CooldownCall.reserved checkedAt reservation ∈ state.calls → reservation.granted = false →
        checkedAt < reservation.nextAllowedAt ∧ 0 < reservation.waitSeconds) ∧
      ∀ event after, state.step event = some after →
        NotEarlier state.settings after.settings ∧
          (after.settings = state.settings ∨ ∃ (index : Nat) (call : CooldownCall),
            after.calls = state.calls.set index call ∧
              ((∃ checkedAt reservation, call = .reserved checkedAt reservation ∧
                reservation.granted = true) ∨ ∃ deadline, call = .extended deadline)) := by
  have sound := Reached.sound reached
  have gap {settings : AirDcppClientSettings} (stored : state.settings = some settings) {i : Nat}
      {c : Timestamp} {r : AirDcppCooldownReservation}
      (found : state.calls[i]? = some (CooldownCall.reserved c r)) (granted : r.granted = true) :
      r.nextAllowedAt = c + settings.effectiveInterval := by
    have known := sound.calls _ (List.mem_of_getElem? found)
    rw [CooldownCall.Sound, if_pos granted] at known
    obtain ⟨_, same, here, next, _⟩ := known
    cases stored.symm.trans here
    exact next
  refine ⟨fun settings stored => ⟨minimumSeconds_le settings, ?_⟩, ?_, ?_⟩
  · intro i j ci cj ri rj different atI atJ grantedI grantedJ
    rw [← gap stored atI grantedI, ← gap stored atJ grantedJ]
    exact sound.apart i j ci cj ri rj different atI atJ grantedI grantedJ
  · intro checkedAt reservation member refused
    have known := sound.calls _ member
    rw [CooldownCall.Sound, if_neg (by simp [refused])] at known
    exact known
  · intro event after stepped
    rcases step_cases sound stepped with ⟨call, rfl, _, _⟩ | ⟨index, call, advanced⟩
    · exact ⟨.refl _, .inl rfl⟩
    · exact ⟨advanced.moved, advanced.wrote.imp_right fun wrote =>
        ⟨index, call, advanced.calls, wrote⟩⟩

/-- Two workers with the same reading of the clock, and a third after the interval. -/
def threeWorkers : List CooldownEvent :=
  [.reserve 0, .reserve 0, .proceed 0, .proceed 1, .proceed 1, .proceed 0, .proceed 0,
    .reserve 60000000, .proceed 2, .proceed 2]

def freshCooldown : CooldownState where
  settings := some ⟨60, none⟩
  calls := []

/-- The second worker is granted at once and the third after a minute; the first is refused. -/
theorem threeWorkers_apart :
    ∃ state settings early late refused, threeWorkers.foldlM step freshCooldown = some state ∧
      state.settings = some settings ∧ state.calls = [.reserved 0 refused, .reserved 0 early,
        .reserved 60000000 late] ∧ early.granted = true ∧ late.granted = true ∧
      (0 + settings.effectiveInterval ≤ 60000000 ∨ 60000000 + settings.effectiveInterval ≤ 0) ∧
      refused.granted = false ∧ 0 < refused.nextAllowedAt ∧ 0 < refused.waitSeconds := by
  have ends : ∃ state settings early late refused, threeWorkers.foldlM step freshCooldown =
      some state ∧ state.settings = some settings ∧ state.calls = [.reserved 0 refused,
        .reserved 0 early, .reserved 60000000 late] ∧ early.granted = true ∧
      late.granted = true ∧ refused.granted = false :=
    ⟨_, _, _, _, _, rfl, rfl, rfl, rfl, rfl, rfl⟩
  obtain ⟨state, settings, early, late, refused, ran, stored, calls, first, second, third⟩ := ends
  have reached : Reached state :=
    Durable.Reachable.run (.start rfl) (fun _ _ _ => trivial) ran
  obtain ⟨apart, refusals, -⟩ := reached_cooldown reached
  have far := (apart settings stored).2 1 2 0 60000000 early late (by decide) (by rw [calls]; rfl)
    (by rw [calls]; rfl) first second
  exact ⟨state, settings, early, late, refused, ran, stored, calls, first, second, far, third,
    refusals 0 refused (by simp [calls]) third⟩

end CooldownState

end Pullbox.Airdcpp
