import Pullbox.Direct.Fallback
import Pullbox.Direct.Transport
import Pullbox.Durable.Reachable

/-!
# Resumed downloads

A partial file is unmixed when all of its parts were downloaded under one validator. The
comparison that decides a resume is made with the target's own validator: the row was overwritten
before the checkpoint was read back from it. So runs stay unmixed only where every new target of a
nonempty partial file has the validator of its bytes, or cannot be resumed, and where a response
that others may follow reports the validator of its target.
-/

namespace Pullbox.Direct

open Durable Option

variable {dates : HttpDates} {policy : ArtifactTransferPolicy} {resolved : ResolvedTransfer}
  {segments : List Segment}

/-- All bytes were downloaded under a validator. -/
def Held (segments : List Segment) (target : Validator) : Prop :=
  ∀ segment ∈ segments, segment.validator = target

/-- All bytes were downloaded under the same validator. -/
def Unmixed (segments : List Segment) : Prop :=
  segments.Pairwise fun earlier later => earlier.validator = later.validator

instance (segments : List Segment) (target : Validator) : Decidable (Held segments target) :=
  inferInstanceAs (Decidable (∀ segment ∈ segments, segment.validator = target))

theorem Held.nil (target : Validator) : Held [] target :=
  fun _ member => absurd member List.not_mem_nil

/-- Bytes appended under the validator they are held under. -/
theorem Held.append {target : Validator} (held : Held segments target)
    (bytes : Content) : Held (segments ++ [⟨target, bytes⟩]) target := by
  intro segment member
  rcases List.mem_append.1 member with earlier | last
  · exact held segment earlier
  · rw [List.mem_singleton.1 last]

theorem Held.unmixed {target : Validator}
    (held : Held segments target) : Unmixed segments :=
  List.Pairwise.imp_mem.2 <| List.pairwise_of_forall fun earlier later inEarlier inLater =>
    (held earlier inEarlier).trans (held later inLater).symm

/-! ### The comparison -/

/-- A target a partial file is resumed from, whatever its bytes are: it serves ranges and
has an entity tag, a modification date that survives the row, or a checksum and a size. -/
def ResolvedTransfer.resumable (resolved : ResolvedTransfer) (dates : HttpDates) : Bool :=
  let recorded := dates.formatLastModified (dates.parseLastModified resolved.lastModified)
  resolved.rangeSupported &&
    (truthy resolved.etag || truthy recorded && recorded == resolved.lastModified ||
      truthy resolved.checksum && resolved.expectedSize.isSome)

/-- A row that `_enter_downloading` left for a target. -/
structure EnteredFor (dates : HttpDates) (artifact : DirectArtifactAttempt)
    (resolved : ResolvedTransfer) : Prop where
  etag : artifact.etag = resolved.etag
  lastModified : artifact.lastModifiedAt = dates.parseLastModified resolved.lastModified
  expectedSize : resolved.expectedSize.isSome = true →
    artifact.expectedSize = resolved.expectedSize

theorem enterDownloading_enteredFor (artifact : DirectArtifactAttempt)
    (resolved : ResolvedTransfer) :
    EnteredFor dates (artifact.enterDownloading dates resolved) resolved where
  etag := rfl
  lastModified := rfl
  expectedSize known := by
    obtain ⟨size, found⟩ := isSome_iff_exists.1 known
    simp [DirectArtifactAttempt.enterDownloading, found]

/-- A resumable target protects the row it was entered in. -/
theorem EnteredFor.identityProtected {artifact : DirectArtifactAttempt}
    (entered : EnteredFor dates artifact resolved)
    (resumable : resolved.resumable dates = true) :
    identityProtected artifact resolved = true := by
  obtain ⟨etag, lastModified, expectedSize⟩ := entered
  simp only [ResolvedTransfer.resumable, Bool.and_eq_true, Bool.or_eq_true] at resumable
  obtain ⟨ranges, (tagged | ⟨dated, _⟩) | ⟨checksum, sized⟩⟩ := resumable
  · simp [Direct.identityProtected, etag, tagged]
  · have recorded : artifact.lastModifiedAt.isSome = true := by
      rw [lastModified]
      cases found : dates.parseLastModified resolved.lastModified with
      | none => simp [found, HttpDates.formatLastModified, truthy] at dated
      | some instant => rfl
    simp [Direct.identityProtected, recorded]
  · simp [Direct.identityProtected, ranges, checksum, sized, expectedSize sized]

/-- The comparison of a target with the checkpoint of its own row: the validator the bytes
were downloaded under has no part in it. -/
theorem eligibleResumeOffset_recovered {artifact : DirectArtifactAttempt}
    (entered : EnteredFor dates artifact resolved)
    (content : Content) :
    eligibleResumeOffset resolved
        (recoverHttpCheckpoint dates (some content) artifact resolved).checkpoint =
      if resolved.resumable dates then content.length else 0 := by
  by_cases removed : content = [] ∨ Direct.identityProtected artifact resolved = false
  · rw [recoverHttpCheckpoint, if_pos removed, eligibleResumeOffset]
    rcases removed with rfl | unprotected
    · simp
    · cases resumable : resolved.resumable dates with
      | false => simp
      | true =>
        rw [entered.identityProtected resumable] at unprotected
        cases unprotected
  · have compared : (resolved.expectedSize.isSome && artifact.expectedSize == resolved.expectedSize)
        = resolved.expectedSize.isSome := by
      cases known : resolved.expectedSize.isSome with
      | false => rfl
      | true => simp [entered.expectedSize known]
    rw [recoverHttpCheckpoint, if_neg removed]
    simp only [eligibleResumeOffset, validatorMatches, checksumProtected, entered.etag,
      entered.lastModified, beq_self_eq_true, Bool.and_true, Bool.and_assoc, compared,
      ResolvedTransfer.resumable]
    rfl

/-! ### What each event keeps -/

/-- A target whose broken stream is taken up again where its file ends. -/
def ResolvedTransfer.recoverable (resolved : ResolvedTransfer) : Bool :=
  resolved.preferSingleResponse && truthy resolved.checksum

/-- What holds of the transfer of this process. A request starts at byte zero or goes on with bytes
that were downloaded under the validator of its target; a body is written to bytes of its own
validator, which is that of the target where another body may follow. -/
def PhaseSound (dates : HttpDates) (system : TransportSystem) : TransferPhase → Prop
  | .idle => True
  | .entered resolved => EnteredFor dates system.artifact resolved ∧
      (Held system.segments resolved.validator ∨ resolved.resumable dates = false)
  | .ready resolved checkpoint =>
    Held system.segments resolved.validator ∨ eligibleResumeOffset resolved checkpoint = 0
  | .requesting run => run.offset = 0 ∨ Held system.segments run.active.validator
  | .streaming run stream =>
    Held system.segments stream.validator ∧
      (stream.rangeEnd.isSome = true → run.mode = .bounded) ∧
      (stream.validator = run.active.validator ∨
        stream.rangeEnd = none ∧ run.active.recoverable = false)

/-- The invariant of a run that keeps its object. -/
structure ResumeSound (dates : HttpDates) (system : TransportSystem) : Prop where
  unmixed : Unmixed system.segments
  phase : PhaseSound dates system system.phase

/-- A target that the transfer goes on with from byte zero. -/
def TransferPhase.Restarts (phase : TransferPhase) (target : ResolvedTransfer) : Prop :=
  match phase with
  | .ready _ checkpoint => eligibleResumeOffset target checkpoint = 0
  | .requesting run =>
    (match run.mode with
    | .single => eligibleResumeOffset target run.checkpoint
    | .bounded => run.offset) = 0
  | _ => False

instance (target : ResolvedTransfer) : (phase : TransferPhase) → Decidable (phase.Restarts target)
  | .ready _ _ | .requesting _ => inferInstanceAs (Decidable (_ = 0))
  | .idle | .entered _ | .streaming _ _ => inferInstanceAs (Decidable False)

/-- A response that reports the validator of its target, or whose body no other can follow. -/
def TransferRun.Reports (run : TransferRun) (response : TransferResponse) : Prop :=
  if response.statusCode = 200 then
    response.validator run.active.validator = run.active.validator ∨
      run.active.recoverable = false
  else
    response.validator
      (match run.mode with
      | .single => run.active.validator
      | .bounded => run.validator) = run.active.validator

instance (run : TransferRun) (response : TransferResponse) : Decidable (run.Reports response) :=
  inferInstanceAs (Decidable (if _ = 200 then _ = _ ∨ _ = false else _ = _))

/-- A response to the request of a phase, if it has one. -/
def TransferPhase.Reports (response : TransferResponse) : TransferPhase → Prop
  | .requesting run => run.Reports response
  | _ => True

instance (response : TransferResponse) :
    (phase : TransferPhase) → Decidable (phase.Reports response)
  | .requesting run => inferInstanceAs (Decidable (run.Reports response))
  | .idle | .entered _ | .ready _ _ | .streaming _ _ => inferInstanceAs (Decidable True)

/-- The events that keep the object: a new target has the validator of the bytes of the partial
file, or starts over, and a response reports that of its target. -/
def KeepsObject (dates : HttpDates) : TransportEvent → TransportSystem → Prop
  | .enter resolved, system =>
    Held system.segments resolved.validator ∨ resolved.resumable dates = false
  | .start (some (target, _)), system
  | .renew (some (target, _)), system
  | .breakOff (some (target, _)), system =>
    Held system.segments target.validator ∨ system.phase.Restarts target
  | .respond response, system => system.phase.Reports response
  | _, _ => True

instance (dates : HttpDates) :
    (event : TransportEvent) → (system : TransportSystem) → Decidable
    (KeepsObject dates event system)
  | .enter resolved, system =>
    inferInstanceAs (Decidable (Held system.segments resolved.validator ∨ _ = false))
  | .start (some (target, _)), system | .renew (some (target, _)), system
  | .breakOff (some (target, _)), system =>
    inferInstanceAs
      (Decidable (Held system.segments target.validator ∨ system.phase.Restarts target))
  | .respond response, system => inferInstanceAs (Decidable (system.phase.Reports response))
  | .recover, _ | .start none, _ | .renew none, _ | .breakOff none, _ | .chunk _ _, _
  | .report _, _ | .complete, _ | .fail _, _ | .pause, _ | .cancel, _ | .crash, _
  | .bridge _, _ | .finalize _ _, _ | .discard, _ =>
    inferInstanceAs (Decidable True)

namespace ResumeSound

variable {system after : TransportSystem} {refreshed : Option (ResolvedTransfer × Bool)}
  {run : TransferRun} {response : TransferResponse} {stream : TransferStream}

/-- Ending an attempt is sound. -/
theorem idle (sound : ResumeSound dates system) (artifact : DirectArtifactAttempt) :
    ResumeSound dates { system with artifact := artifact, phase := .idle } :=
  ⟨sound.unmixed, trivial⟩

theorem failed (sound : ResumeSound dates system) (retryable : Bool) :
    ResumeSound dates (system.failed retryable) := by
  refine ⟨?_, trivial⟩
  cases retryable with
  | false => exact List.Pairwise.nil
  | true => exact sound.unmixed

/-- A request from byte zero, or one that goes on with bytes that are held under its target. -/
theorem requesting (sound : ResumeSound dates system) (run : TransferRun)
    (offset : run.offset = 0 ∨ Held system.segments run.active.validator) :
    ResumeSound dates { system with phase := .requesting run } :=
  ⟨sound.unmixed, offset⟩

/-- A request from the offset a target is eligible for. -/
theorem eligible (sound : ResumeSound dates system) (run : TransferRun)
    (offset : run.offset = eligibleResumeOffset run.active run.checkpoint)
    (held : Held system.segments run.active.validator ∨
      eligibleResumeOffset run.active run.checkpoint = 0) :
    ResumeSound dates { system with phase := .requesting run } := by
  refine sound.requesting run ?_
  rw [offset]
  exact held.symm

/-- A body is written from byte zero, or to bytes of its own validator. -/
theorem opened (sound : ResumeSound dates system) (run : TransferRun) {offset : Nat}
    {validator : Validator} {rangeEnd : Option Nat}
    (held : offset = 0 ∨ Held system.segments validator)
    (bounded : rangeEnd.isSome = true → run.mode = .bounded)
    (reports : validator = run.active.validator ∨
      rangeEnd = none ∧ run.active.recoverable = false)
    (expected : Option Nat) :
    ResumeSound dates (system.opened run offset rangeEnd expected validator) := by
  unfold TransportSystem.opened
  by_cases appends : 0 < offset
  · rw [if_pos appends]
    exact ⟨sound.unmixed, held.resolve_left (by omega), bounded, reports⟩
  · rw [if_neg appends]
    exact ⟨List.Pairwise.nil, Held.nil _, bounded, reports⟩

/-- The transport starts on a target that identifies the bytes, or from byte zero. -/
theorem begin {target : ResolvedTransfer} {checkpoint : Option HttpTransferCheckpoint}
    (sound : ResumeSound dates system)
    (held : Held system.segments target.validator ∨ eligibleResumeOffset target checkpoint = 0) :
    ResumeSound dates (system.begin policy target checkpoint) :=
  sound.eligible _ rfl held

theorem streamResponse (sound : ResumeSound dates system) (run : TransferRun) {offset : Nat}
    (held : offset = 0 ∨ Held system.segments (response.validator run.active.validator))
    (reports : response.validator run.active.validator = run.active.validator ∨
      run.active.recoverable = false) :
    ResumeSound dates (system.streamResponse run response offset) := by
  unfold TransportSystem.streamResponse
  simp only
  split
  · exact sound.failed true
  · refine sound.opened { run with offset := offset } held (fun ranged => ?_) ?_ _
    · exact absurd ranged Bool.false_ne_true
    · exact reports.imp_right fun alone => ⟨rfl, alone⟩

/-- A response with the whole object continues no partial file. -/
theorem validPartialResponse_of_ok (whole : response.statusCode = 200) (offset : Nat)
    (checkpoint : Option HttpTransferCheckpoint) :
    validPartialResponse response offset checkpoint = false := by
  cases checkpoint with
  | none => rfl
  | some checkpoint => simp [validPartialResponse, whole]

theorem respondSingle (sound : ResumeSound dates system)
    (requesting : system.phase = .requesting run) (single : run.mode = .single)
    (reports : run.Reports response) :
    ResumeSound dates (system.respondSingle run response) := by
  have phase := sound.phase
  rw [requesting] at phase
  simp only [TransferRun.Reports, single] at reports
  unfold TransportSystem.respondSingle
  split
  · split
    · rename_i whole
      rw [if_pos whole] at reports
      exact sound.streamResponse run (.inl rfl) reports
    · split
      · exact sound.requesting _ (.inl rfl)
      · exact sound.failed true
  · rename_i continues
    split
    · exact sound.failed _
    · by_cases whole : response.statusCode = 200
      · rw [if_pos whole] at reports
        have zero : run.offset = 0 := by
          by_contra positive
          exact continues ⟨Nat.pos_of_ne_zero positive, validPartialResponse_of_ok whole _ _⟩
        exact sound.streamResponse run (.inl zero) reports
      · rw [if_neg whole] at reports
        refine sound.streamResponse run (phase.imp_right fun held => ?_) (.inl reports)
        rwa [reports]

theorem respondBounded (sound : ResumeSound dates system)
    (requesting : system.phase = .requesting run) (bounded : run.mode = .bounded)
    (reports : run.Reports response) (total : Nat) :
    ResumeSound dates (system.respondBounded policy run total response) := by
  have phase := sound.phase
  rw [requesting] at phase
  simp only [TransferRun.Reports, bounded] at reports
  unfold TransportSystem.respondBounded
  simp only
  split
  · rename_i whole
    rw [if_pos whole] at reports
    exact sound.streamResponse run (.inl rfl) reports
  · rename_i ranged
    rw [if_neg ranged] at reports
    split
    · exact sound.failed true
    · refine sound.opened { run with validator := response.validator run.validator }
        (phase.imp_right fun held => ?_) (fun _ => bounded) (.inl reports) _
      rwa [reports]

/-- The bounded loop goes on, with its target or a refreshed one, where it stands. -/
theorem breakOffBounded {position : Nat} (sound : ResumeSound dates system)
    (refreshed : Option (ResolvedTransfer × Bool))
    (held : ∀ active, TransportSystem.refreshRangeSource run refreshed = some active →
      position = 0 ∨ Held system.segments active.validator) :
    ResumeSound dates (system.breakOffBounded policy run position refreshed) := by
  unfold TransportSystem.breakOffBounded
  split
  · exact sound.failed true
  · split
    · exact sound.failed true
    · rename_i active found
      exact sound.requesting _ (held active found)

/-- The response recovery goes on from a checkpoint of the bytes that are there. -/
theorem breakOffSingle (sound : ResumeSound dates system)
    (streaming : system.phase = .streaming run stream) :
    ResumeSound dates (system.breakOffSingle policy run stream) := by
  have phase := sound.phase
  rw [streaming] at phase
  obtain ⟨held, -, reports⟩ := phase
  unfold TransportSystem.breakOffSingle
  simp only
  split
  · exact sound.failed true
  · rename_i again
    split
    · exact sound.failed true
    · -- what is taken up again reported the validator of its target
      have recoverable : run.active.recoverable = true := by
        simp only [canRetryRangeFailure, Bool.or_eq_true, Bool.not_eq_true', not_or,
          Bool.not_eq_false, Bool.and_eq_true] at again
        simp [ResolvedTransfer.recoverable, again.1, again.2.1]
      have same : stream.validator = run.active.validator := by
        rcases reports with same | ⟨-, alone⟩
        · exact same
        · rw [recoverable] at alone
          cases alone
      rw [same] at held
      exact sound.eligible _ rfl (.inl held)

/-- A chunk is appended to bytes of its own validator. -/
theorem chunk (sound : ResumeSound dates system)
    (streaming : system.phase = .streaming run stream) (bytes : Content) (transferred : Nat) :
    ResumeSound dates { system with
      partialFile := some (system.segments ++ [⟨stream.validator, bytes⟩])
      phase := .streaming run { stream with transferred } } := by
  have phase := sound.phase
  rw [streaming] at phase
  obtain ⟨held, bounded, reports⟩ := phase
  exact ⟨(held.append bytes).unmixed, held.append bytes, bounded, reports⟩

/-- A recovered checkpoint resumes only what the target identifies. -/
theorem recover (sound : ResumeSound dates system)
    (entered : system.phase = .entered resolved)
    (step : system.apply dates policy .recover = some after) : ResumeSound dates after := by
  have phase := sound.phase
  rw [entered] at phase
  obtain ⟨row, held⟩ := phase
  simp only [TransportSystem.apply, entered] at step
  obtain rfl := Option.some.inj step
  cases file : system.partialFile with
  | none =>
    exact ⟨List.Pairwise.nil, .inr rfl⟩
  | some segments =>
    have compared := eligibleResumeOffset_recovered row (bytesOf segments)
    have present : system.segments = segments := by simp [TransportSystem.segments, file]
    have unmixed := sound.unmixed
    rw [present] at unmixed held
    by_cases removed : bytesOf segments = [] ∨ identityProtected system.artifact resolved = false
    · refine ⟨?_, ?_⟩
      · simp [TransportSystem.segments, recoverHttpCheckpoint, removed, Unmixed]
      · exact .inr (by simp [recoverHttpCheckpoint, removed, eligibleResumeOffset])
    · refine ⟨?_, ?_⟩
      · simpa [TransportSystem.segments, recoverHttpCheckpoint, removed] using unmixed
      · rcases held with held | fresh
        · left
          simpa [TransportSystem.segments, recoverHttpCheckpoint, removed] using held
        · right
          rw [fresh] at compared
          simpa using compared

/-- Where the bounded loop goes on after a refresh that keeps the object. -/
theorem refreshed_held
    {active : ResolvedTransfer} {position : Nat}
    (found : TransportSystem.refreshRangeSource run refreshed = some active)
    (before : position = 0 ∨ Held segments run.active.validator)
    (keeps : ∀ target sameHost, refreshed = some (target, sameHost) →
      Held segments target.validator ∨ position = 0) :
    position = 0 ∨ Held segments active.validator := by
  cases refreshed with
  | none =>
    cases found
    exact before
  | some refreshed =>
    obtain ⟨target, sameHost⟩ := refreshed
    obtain ⟨_, rfl⟩ := ite_some_none_eq_some.1 found
    exact (keeps target sameHost rfl).symm

/-- The bytes of a range were downloaded under the validator of its target. -/
theorem held_of_range
    (sound : ResumeSound dates system) (streaming : system.phase = .streaming run stream)
    (ranged : stream.rangeEnd.isSome = true) : Held system.segments run.active.validator := by
  have phase := sound.phase
  rw [streaming] at phase
  obtain ⟨held, -, same | ⟨none, -⟩⟩ := phase
  · rwa [same] at held
  · rw [none] at ranged
    cases ranged

/-- A transfer begins, after a refresh if its URL is expired. -/
theorem start (sound : ResumeSound dates system)
    (keeps : KeepsObject dates (.start refreshed) system)
    (transition : TransportStep dates policy (.start refreshed) system after) :
    ResumeSound dates after := by
  cases ready : system.phase with
  | ready resolved checkpoint =>
    have phase := sound.phase
    rw [ready] at phase
    cases refreshed with
    | none =>
      simp only [TransportStep, TransportSystem.apply, ready] at transition
      obtain rfl := Option.some.inj transition
      exact sound.begin phase
    | some refreshed =>
      obtain ⟨target, sameHost⟩ := refreshed
      simp only [TransportStep, TransportSystem.apply, ready] at transition
      split at transition
      · obtain rfl := Option.some.inj transition
        exact sound.begin (by simpa [KeepsObject, ready, TransferPhase.Restarts]
          using keeps)
      · obtain rfl := Option.some.inj transition
        exact sound.failed true
  | _ => simp [TransportStep, TransportSystem.apply, ready] at transition

/-- The answer to a request. -/
theorem respond (sound : ResumeSound dates system)
    (keeps : KeepsObject dates (.respond response) system)
    (transition : TransportStep dates policy (.respond response) system after) :
    ResumeSound dates after := by
  cases requesting : system.phase with
  | requesting run =>
    have reports : run.Reports response := by
      simpa [KeepsObject, TransferPhase.Reports, requesting] using keeps
    simp only [TransportStep, TransportSystem.apply, requesting] at transition
    split at transition
    · cases transition
    · split at transition
      · rename_i single
        obtain rfl := Option.some.inj transition
        exact sound.respondSingle requesting single reports
      · split at transition
        · rename_i bounded _ _
          obtain rfl := Option.some.inj transition
          exact sound.respondBounded requesting bounded reports _
        · cases transition
      · cases transition
  | _ => simp [TransportStep, TransportSystem.apply, requesting] at transition

/-- A refresh after an expired URL. -/
theorem renew (sound : ResumeSound dates system) (requesting : system.phase = .requesting run)
    (keeps : KeepsObject dates (.renew refreshed) system)
    (transition : TransportStep dates policy (.renew refreshed) system after) :
    ResumeSound dates after := by
  have phase := sound.phase
  rw [requesting] at phase
  simp only [TransportStep, TransportSystem.apply, requesting] at transition
  cases mode : run.mode with
  | single =>
    simp only [mode] at transition
    split at transition
    · obtain rfl := Option.some.inj transition
      exact sound.failed true
    · split at transition
      · obtain rfl := Option.some.inj transition
        exact sound.eligible _ rfl
          (by simpa [KeepsObject, requesting, TransferPhase.Restarts, mode] using keeps)
      · obtain rfl := Option.some.inj transition
        exact sound.failed true
  | bounded =>
    simp only [mode] at transition
    split at transition
    · split at transition
      · obtain rfl := Option.some.inj transition
        exact sound.failed true
      · rename_i active found
        obtain rfl := Option.some.inj transition
        refine sound.requesting _ (refreshed_held found phase ?_)
        rintro target sameHost rfl
        simpa [KeepsObject, requesting, TransferPhase.Restarts, mode] using keeps
    · obtain rfl := Option.some.inj transition
      exact sound.failed true

/-- A host that went away. -/
theorem breakOff (sound : ResumeSound dates system)
    (keeps : KeepsObject dates (.breakOff refreshed) system)
    (transition : TransportStep dates policy (.breakOff refreshed) system after) :
    ResumeSound dates after := by
  cases found : system.phase with
  | requesting run =>
    have phase := sound.phase
    rw [found] at phase
    simp only [TransportStep, TransportSystem.apply, found] at transition
    cases mode : run.mode with
    | single =>
      simp only [mode] at transition
      obtain rfl := Option.some.inj transition
      exact sound.failed true
    | bounded =>
      simp only [mode] at transition
      obtain rfl := Option.some.inj transition
      refine sound.breakOffBounded refreshed fun active source => ?_
      refine refreshed_held source phase ?_
      rintro target sameHost rfl
      simpa [KeepsObject, found, TransferPhase.Restarts, mode] using keeps
  | streaming run stream =>
    have phase := sound.phase
    rw [found] at phase
    simp only [TransportStep, TransportSystem.apply, found] at transition
    split at transition
    · split at transition
      · obtain rfl := Option.some.inj transition
        exact sound.breakOffSingle found
      · obtain rfl := Option.some.inj transition
        exact sound.failed true
    · split at transition
      · obtain rfl := Option.some.inj transition
        exact sound.failed true
      · rename_i ranged _
        obtain rfl := Option.some.inj transition
        refine sound.breakOffBounded refreshed fun active source => ?_
        refine refreshed_held source (.inr (held_of_range sound found (by simp [ranged]))) ?_
        rintro target sameHost rfl
        have held : Held system.segments target.validator := by
          simpa [KeepsObject, found, TransferPhase.Restarts] using keeps
        exact .inl held
  | _ => simp [TransportStep, TransportSystem.apply, found] at transition

/-- A body, a range or the whole bounded loop that ended. -/
theorem complete (sound : ResumeSound dates system)
    (transition : TransportStep dates policy .complete system after) :
    ResumeSound dates after := by
  cases found : system.phase with
  | requesting run =>
    simp only [TransportStep, TransportSystem.apply, found] at transition
    obtain ⟨_, rfl⟩ := ite_some_none_eq_some.1 transition
    exact sound.idle _
  | streaming run stream =>
    have phase := sound.phase
    rw [found] at phase
    simp only [TransportStep, TransportSystem.apply, found] at transition
    split at transition
    · split at transition
      · rename_i ranged _
        obtain rfl := Option.some.inj transition
        have held := held_of_range sound found (by simp [ranged])
        exact sound.requesting _ (.inr held)
      · obtain rfl := Option.some.inj transition
        exact sound.failed true
    · split at transition
      · obtain rfl := Option.some.inj transition
        exact sound.idle _
      · obtain rfl := Option.some.inj transition
        exact sound.failed true
  | _ => simp [TransportStep, TransportSystem.apply, found] at transition

/-- Every admitted event keeps the invariant. -/
theorem step {event : TransportEvent} (sound : ResumeSound dates system)
    (keeps : KeepsObject dates event system)
    (transition : TransportStep dates policy event system after) : ResumeSound dates after := by
  cases event with
  | enter resolved =>
    obtain ⟨_, rfl⟩ := ite_some_none_eq_some.1 transition
    exact ⟨sound.unmixed, enterDownloading_enteredFor _ _, keeps⟩
  | recover =>
    cases entered : system.phase with
    | entered resolved => exact sound.recover entered transition
    | _ => simp [TransportStep, TransportSystem.apply, entered] at transition
  | start refreshed => exact sound.start keeps transition
  | respond response => exact sound.respond keeps transition
  | renew refreshed =>
    cases requesting : system.phase with
    | requesting run => exact sound.renew requesting keeps transition
    | _ => simp [TransportStep, TransportSystem.apply, requesting] at transition
  | chunk bytes written =>
    cases streaming : system.phase with
    | streaming run stream =>
      simp only [TransportStep, TransportSystem.apply, streaming] at transition
      split at transition
      · obtain rfl := Option.some.inj transition
        exact sound
      · split at transition
        · obtain rfl := Option.some.inj transition
          exact sound.failed true
        · obtain rfl := Option.some.inj transition
          exact sound.chunk streaming _ _
    | _ => simp [TransportStep, TransportSystem.apply, streaming] at transition
  | report total =>
    cases phase : system.phase with
    | requesting run | streaming run stream =>
      have sound_phase := sound.phase
      simp only [TransportStep, TransportSystem.apply, phase] at transition
      obtain rfl := Option.some.inj transition
      rw [phase] at sound_phase
      exact ⟨sound.unmixed, sound_phase⟩
    | _ => simp [TransportStep, TransportSystem.apply, phase] at transition
  | complete => exact sound.complete transition
  | breakOff refreshed => exact sound.breakOff keeps transition
  | fail retryable =>
    obtain rfl := Option.some.inj transition
    exact sound.failed retryable
  | pause =>
    cases streaming : system.phase with
    | streaming run stream =>
      simp only [TransportStep, TransportSystem.apply, streaming] at transition
      obtain rfl := Option.some.inj transition
      exact sound.idle _
    | _ => simp [TransportStep, TransportSystem.apply, streaming] at transition
  | cancel =>
    obtain rfl := Option.some.inj transition
    exact sound.failed false
  | crash =>
    obtain rfl := Option.some.inj transition
    exact sound.idle _
  | bridge bytes =>
    obtain ⟨_, rfl⟩ := ite_some_none_eq_some.1 transition
    exact ⟨List.pairwise_singleton _ _, trivial⟩
  | finalize suffix result =>
    obtain ⟨_, rfl⟩ := ite_some_none_eq_some.1 transition
    exact ⟨List.Pairwise.nil, trivial⟩
  | discard =>
    obtain ⟨idle, rfl⟩ := ite_some_none_eq_some.1 transition
    refine ⟨List.Pairwise.nil, ?_⟩
    rw [idle]
    trivial

end ResumeSound

/-! ### Histories of attempts -/

/-- An artifact nothing was downloaded for. -/
def Fresh (system : TransportSystem) : Prop :=
  system.phase = .idle ∧ system.partialFile = none

end Pullbox.Direct
