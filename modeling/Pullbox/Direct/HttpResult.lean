import Pullbox.Direct.HttpTransfer
import Pullbox.Durable.Results

/-!
# What a successful transfer leaves

A transfer that returns has written pieces that follow one another from the first byte of the
object, as many bytes as it reports, and exactly the expected size where that is known, as long as
every write takes its whole chunk. The one other way to miss the size is a checkpoint that is longer
than the expected size: the loop over bounded ranges then has nothing to do, and the transfer
returns what it found.
-/

namespace Pullbox.Direct

open List Nat

open Async (Pass loop loop_of_over loop_rule)
open Durable (bind_eq_ok)
open Files (Piece contents Tiles)

/-- A piece that a response carried, at the place that its head says. -/
def Exchange.Serves (exchange : Exchange) (piece : Piece UInt8) : Prop :=
  ∃ response before chunk after, exchange.opened = .ok response ∧
    exchange.body = before ++ chunk :: after ∧
    piece = ⟨response.firstByte + (before.flatMap (·.bytes)).length, chunk.bytes⟩

/-- All that an exchange serves is accepted, and is written whole. -/
structure Exchange.Delivers (accepted : Piece UInt8 → Prop) (exchange : Exchange) : Prop where
  serves : ∀ piece, exchange.Serves piece → accepted piece
  whole : ∀ chunk ∈ exchange.body, chunk.stored = chunk.bytes

/-- The partial file is there, and its pieces tile the first bytes of the object. -/
def Filled (accepted : Piece UInt8 → Prop) (file : PartialFile) (size : Nat) : Prop :=
  ∃ pieces, file = some pieces ∧ Tiles 0 pieces size ∧ ∀ piece ∈ pieces, accepted piece

variable {accepted : Piece UInt8 → Prop} {policy : HttpTransferPolicy} {exchange : Exchange}
  {response : HttpResponse} {file later : PartialFile} {pieces written : List (Piece UInt8)}
  {source original refreshed active : HttpSource} {failure : TransferFailure}
  {transferred place offset size total stop retries : Nat} {resolved : ResolvedTransfer}
  {result : ArtifactTransferResult} {checkpoint : Option HttpTransferCheckpoint}
  {state : ResponseRecovery}

theorem Filled.length_eq (filled : Filled accepted file size) :
    (contents (file.getD [])).length = size := by
  obtain ⟨pieces, rfl, tiles, -⟩ := filled
  exact tiles.length_contents

/-! ### Bodies -/

/-- The file that is open for appending holds what is behind the offset. -/
theorem openQuarantineFile_tiles (ready : offset = 0 ∨ Filled accepted file offset) :
    Tiles 0 (openQuarantineFile file (decide (0 < offset))) offset ∧
      ∀ piece ∈ openQuarantineFile file (decide (0 < offset)), accepted piece := by
  unfold openQuarantineFile
  rcases Nat.eq_zero_or_pos offset with rfl | positive
  · exact ⟨.nil, fun piece inside => absurd inside not_mem_nil⟩
  · rcases ready with zero | ⟨pieces, rfl, tiles, all⟩
    · omega
    · rw [if_pos (by simpa using positive)]
      exact ⟨tiles, all⟩

/-- However a body ends, the pieces written so far tile what was transferred. -/
theorem receive_spec {refuse : Nat → BodyChunk → Option TransferFailure} {full : Nat → Bool}
    {atEnd : Nat → Except TransferFailure Nat} {chunks : List BodyChunk}
    {outcome : Except TransferFailure Nat} (tiles : Tiles 0 pieces transferred)
    (all : ∀ piece ∈ pieces, accepted piece)
    (serves : ∀ before chunk after, chunks = before ++ chunk :: after →
      accepted ⟨transferred + (before.flatMap (·.bytes)).length, chunk.bytes⟩)
    (whole : ∀ chunk ∈ chunks, chunk.stored = chunk.bytes)
    (received : receive refuse full atEnd transferred transferred pieces chunks =
      (outcome, written)) :
    ∃ reached, Filled accepted (some written) reached ∧
      ∀ count, outcome = .ok count →
        full count = true ∧ count = reached ∨ atEnd reached = .ok count := by
  induction chunks generalizing transferred pieces with
  | nil =>
    obtain ⟨rfl, rfl⟩ := Prod.mk.inj received
    exact ⟨transferred, ⟨pieces, rfl, tiles, all⟩, fun count returned => .inr returned⟩
  | cons chunk rest ih =>
    unfold receive at received
    split at received
    · -- an empty chunk is read over
      rename_i empty
      refine ih tiles all (fun before later after split => ?_)
        (fun later member => whole later (mem_cons_of_mem _ member)) received
      have here := serves (chunk :: before) later after (by rw [split, cons_append])
      rwa [flatMap_cons, empty, nil_append] at here
    · cases refusal : refuse transferred chunk with
      | some failure =>
        rw [refusal] at received
        obtain ⟨rfl, rfl⟩ := Prod.mk.inj received
        refine ⟨transferred, ⟨pieces, rfl, tiles, all⟩, fun count returned => ?_⟩
        cases returned
      | none =>
        rw [refusal] at received
        simp only [whole chunk mem_cons_self] at received
        have here : accepted ⟨transferred, chunk.bytes⟩ := serves [] chunk rest rfl
        have longer : Tiles 0 (pieces ++ [⟨transferred, chunk.bytes⟩])
            (transferred + chunk.bytes.length) :=
          @Tiles.snoc _ _ ⟨transferred, chunk.bytes⟩ _ tiles
        have each : ∀ piece ∈ pieces ++ [⟨transferred, chunk.bytes⟩], accepted piece := by
          intro piece inside
          rcases mem_append.1 inside with old | new
          · exact all piece old
          · rw [mem_singleton.1 new]
            exact here
        split at received
        · rename_i complete
          obtain ⟨rfl, rfl⟩ := Prod.mk.inj received
          refine ⟨transferred + chunk.bytes.length, ⟨_, rfl, longer, each⟩, ?_⟩
          rintro count returned
          obtain rfl := Except.ok.inj returned
          exact .inl ⟨complete, rfl⟩
        · refine ih longer each (fun before later after split => ?_)
            (fun later member => whole later (mem_cons_of_mem _ member)) received
          have next := serves (chunk :: before) later after (by rw [split, cons_append])
          rwa [flatMap_cons, length_append, ← add_assoc] at next

theorem endOfBody_ok {ending : Option BodyFailure} {handed : HttpTransferCheckpoint} {good : Bool}
    {count : Nat} (ended : endOfBody ending handed good transferred = .ok count) :
    good = true ∧ count = transferred := by
  unfold endOfBody at ended
  split at ended
  · cases ended
  · split at ended
    · rename_i fine
      exact ⟨fine, (Except.ok.inj ended).symm⟩
    · cases ended

/-- The chunks of a taken response stand where the file ends. -/
theorem Exchange.serves_body (opened : exchange.opened = .ok response)
    (first : response.firstByte = offset) (served : exchange.Delivers accepted) :
    ∀ before chunk after, exchange.body = before ++ chunk :: after →
      accepted ⟨offset + (before.flatMap (·.bytes)).length, chunk.bytes⟩ := by
  intro before chunk after split
  refine served.serves _ ⟨response, before, chunk, after, opened, split, ?_⟩
  rw [first]

/-! ### Failures that are taken up again -/

/-- Only a host that is gone or idle is asked again. -/
theorem canRetry_eq_false {error : ArtifactTransferError}
    (other : error.code ∉ ["artifact_host_unavailable", "artifact_transfer_idle_timeout"]) :
    (TransferFailure.error error).canRetry resolved retries policy = false := by
  simp only [TransferFailure.canRetry, decide_eq_false other, Bool.false_and]

theorem validateExpectedSize_error {size : Option Nat}
    (refused : validateExpectedSize size policy = .error failure) :
    failure.canRetry resolved retries policy = false := by
  unfold validateExpectedSize at refused
  split at refused
  · obtain rfl := Except.error.inj refused
    exact canRetry_eq_false (by decide)
  · cases refused

theorem checkDiskBudget_error {free size : Option Nat} {existing : Nat}
    (refused : checkDiskBudget free size existing policy = .error failure) :
    failure.canRetry resolved retries policy = false := by
  unfold checkDiskBudget at refused
  split at refused
  · obtain rfl := Except.error.inj refused
    exact canRetry_eq_false (by decide)
  · split at refused
    · obtain rfl := Except.error.inj refused
      exact canRetry_eq_false (by decide)
    · cases refused

/-- A range that is complete ends behind its last byte; a failure that is taken up again leaves a
file that holds all of its bytes. -/
theorem streamBoundedResponse_spec {outcome : Except TransferFailure Nat} {validator : Validator}
    (opened : exchange.opened = .ok response) (first : response.firstByte = offset)
    (served : exchange.Delivers accepted)
    (ready : offset = 0 ∨ Filled accepted file offset)
    (streamed : streamBoundedResponse exchange response file offset stop total validator =
      (outcome, later)) :
    (∀ count, outcome = .ok count → count = stop + 1 ∧ Filled accepted later count) ∧
      ∀ failure, outcome = .error failure →
        ∀ resolved retries policy, failure.canRetry resolved retries policy = true →
          ∃ reached, Filled accepted later reached := by
  unfold streamBoundedResponse at streamed
  split at streamed
  · obtain ⟨tiles, all⟩ := openQuarantineFile_tiles ready
    rw [first] at streamed
    simp only at streamed
    obtain ⟨rfl, rfl⟩ := Prod.mk.inj streamed
    obtain ⟨reached, filled, returns⟩ := receive_spec tiles all
      (exchange.serves_body opened first served) served.whole rfl
    refine ⟨fun count returned => ?_, fun failure _ _ _ _ _ => ⟨reached, filled⟩⟩
    rcases returns count returned with ⟨whole, rfl⟩ | ended
    · exact ⟨of_decide_eq_true whole, filled⟩
    · obtain ⟨whole, rfl⟩ := endOfBody_ok ended
      exact ⟨of_decide_eq_true whole, filled⟩
  · obtain ⟨rfl, rfl⟩ := Prod.mk.inj streamed
    refine ⟨fun count returned => (nomatch returned), fun failure broken _ _ _ again => ?_⟩
    obtain rfl := Except.error.inj broken
    rw [canRetry_eq_false (by decide)] at again
    cases again

/-- What `_stream_response` returns has the size that the response or the target knows. -/
structure Agrees (source : HttpSource) (result : ArtifactTransferResult) : Prop where
  reported : ∀ size, result.expectedSize = some size → result.bytesTransferred = size
  known : ∀ size, source.expectedSize = some size → result.bytesTransferred = size

theorem streamResponse_spec {outcome : Except TransferFailure ArtifactTransferResult}
    (opened : exchange.opened = .ok response) (first : response.firstByte = offset)
    (served : exchange.Delivers accepted)
    (ready : offset = 0 ∨ Filled accepted file offset)
    (streamed : streamResponse policy exchange response source file offset = (outcome, later)) :
    (∀ result, outcome = .ok result →
      Filled accepted later result.bytesTransferred ∧ Agrees source result) ∧
      ∀ failure, outcome = .error failure →
        ∀ resolved retries, failure.canRetry resolved retries policy = true →
          ∃ reached, Filled accepted later reached := by
  -- what is refused before the file is opened is not taken up again
  have refusal {refused : TransferFailure}
      (final : ∀ {resolved retries}, refused.canRetry resolved retries policy = false)
      (same : outcome = .error refused) :
      (∀ result, outcome = .ok result →
        Filled accepted later result.bytesTransferred ∧ Agrees source result) ∧
        ∀ failure, outcome = .error failure →
          ∀ resolved retries, failure.canRetry resolved retries policy = true →
            ∃ reached, Filled accepted later reached := by
    rw [same]
    refine ⟨fun result returned => (nomatch returned), fun failure broken _ _ again => ?_⟩
    obtain rfl := Except.error.inj broken
    rw [final] at again
    cases again
  unfold streamResponse at streamed
  simp only at streamed
  split at streamed
  · rename_i failure tooLarge
    exact refusal (validateExpectedSize_error tooLarge) (Prod.mk.inj streamed).1.symm
  · split at streamed
    · exact refusal (canRetry_eq_false (by decide)) (Prod.mk.inj streamed).1.symm
    · rename_i agreeing
      split at streamed
      · rename_i failure noSpace
        exact refusal (checkDiskBudget_error noSpace) (Prod.mk.inj streamed).1.symm
      · split at streamed
        · obtain ⟨tiles, all⟩ := openQuarantineFile_tiles ready
          rw [first] at streamed
          split at streamed
          · rename_i failed
            obtain ⟨reached, filled, -⟩ := receive_spec tiles all
              (exchange.serves_body opened first served) served.whole (Prod.ext failed rfl)
            obtain ⟨rfl, rfl⟩ := Prod.mk.inj streamed
            refine ⟨fun result returned => ?_, fun failure _ _ _ _ => ⟨reached, filled⟩⟩
            cases returned
          · rename_i transferred received
            obtain ⟨reached, filled, returns⟩ := receive_spec tiles all
              (exchange.serves_body opened first served) served.whole (Prod.ext received rfl)
            obtain ⟨rfl, rfl⟩ := Prod.mk.inj streamed
            rcases returns transferred rfl with ⟨whole, -⟩ | ended
            · cases whole
            obtain ⟨size, rfl⟩ := endOfBody_ok ended
            refine ⟨fun result returned => ?_, fun failure broken => nomatch broken⟩
            obtain rfl := Except.ok.inj returned
            refine ⟨filled, ⟨fun expected reported => ?_, fun expected known => ?_⟩⟩
            · simp only at reported
              rw [reported] at size
              exact of_decide_eq_true size
            · rw [known] at agreeing size
              cases answered : response.total offset with
              | none =>
                rw [answered] at size
                exact of_decide_eq_true size
              | some total =>
                rw [answered] at agreeing size
                have same : expected = total := by simpa using agreeing
                rw [same]
                exact of_decide_eq_true size
        · exact refusal (canRetry_eq_false (by decide)) (Prod.mk.inj streamed).1.symm

/-! ### Refreshed targets -/

/-- A refreshed target keeps a size that was known. -/
theorem takeRefreshed_size (taken : takeRefreshed policy original refreshed = .ok active)
    (known : original.expectedSize = some size) : active.expectedSize = some size := by
  obtain ⟨_, identity, rest⟩ := bind_eq_ok.1 taken
  obtain ⟨_, -, same⟩ := bind_eq_ok.1 rest
  obtain rfl := Except.ok.inj same
  obtain ⟨_, -, checked⟩ := bind_eq_ok.1 identity
  split at checked
  · rename_i sameObject
    simp only [refreshedIdentity, known, Bool.and_eq_true, Bool.or_eq_true] at sameObject
    simpa using sameObject.1.1.2
  · cases checked

theorem refreshedRangeSource_size {refresh : Refresh} {next : HttpSource}
    (asked : refreshedRangeSource policy original active refresh = .ok next)
    (known : original.expectedSize = some size) (same : active.expectedSize = some size) :
    next.expectedSize = some size := by
  cases refresh with
  | missing =>
    obtain rfl := Except.ok.inj asked
    exact same
  | failed error =>
    simp only [refreshedRangeSource] at asked
    split at asked
    · obtain rfl := Except.ok.inj asked
      exact same
    · cases asked
  | answered refreshed => exact takeRefreshed_size asked known
  | unhandled => cases asked

/-! ### Runs -/

/-- What holds of a transfer that returned. -/
def TransferEnd.Sound (accepted : Piece UInt8 → Prop) (source : HttpSource) (last : TransferEnd) :
    Prop :=
  ∀ result, last.outcome = .ok result →
    Filled accepted last.file result.bytesTransferred ∧ Agrees source result

theorem sound_raised : (raised failure file).Sound accepted source :=
  fun _ returned => nomatch returned

/-- The invariant of `_transfer_with_response_recovery`: a request goes on from the beginning or
from a checkpoint, and the partial file holds what the checkpoint says. -/
structure ResponseRecovery.Sound (accepted : Piece UInt8 → Prop) (source : HttpSource)
    (state : ResponseRecovery) : Prop where
  resumes : state.resumeOffset = 0 ∨
    ∃ kept, state.checkpoint = some kept ∧ state.resumeOffset = kept.bytesTransferred
  holds : ∀ kept, state.checkpoint = some kept → Filled accepted state.file kept.bytesTransferred
  size : ∀ size, source.expectedSize = some size → state.active.expectedSize = some size

theorem ResponseRecovery.Sound.ready (sound : state.Sound accepted source) :
    state.resumeOffset = 0 ∨ Filled accepted state.file state.resumeOffset := by
  rcases sound.resumes with zero | ⟨kept, saved, same⟩
  · exact .inl zero
  · exact .inr (same ▸ sound.holds kept saved)

/-- What one pass does to a state that is sound. -/
def SoundPass {σ : Type} (accepted : Piece UInt8 → Prop) (source : HttpSource) (good : σ → Prop) :
    Pass σ TransferEnd → Prop
  | .again next => good next
  | .done last => last.Sound accepted source

theorem recoverStream_sound (sound : state.Sound accepted source)
    (opened : exchange.opened = .ok response) (first : response.firstByte = offset)
    (served : exchange.Delivers accepted)
    (ready : offset = 0 ∨ Filled accepted state.file offset) :
    SoundPass accepted source (ResponseRecovery.Sound accepted source)
      (recoverStream policy state exchange response offset) := by
  unfold recoverStream
  split
  · rename_i result later streamed
    intro returned same
    obtain rfl := Except.ok.inj same
    have spec := streamResponse_spec opened first served ready streamed
    obtain ⟨filled, agrees⟩ := spec.1 result rfl
    exact ⟨filled, ⟨agrees.reported, fun size known => agrees.known size (sound.size size known)⟩⟩
  · rename_i failure later streamed
    split
    · exact sound_raised
    · rename_i again
      dsimp only
      split
      · exact sound_raised
      · simp only [Bool.or_eq_true, Bool.not_eq_true', not_or, Bool.not_eq_false] at again
        obtain ⟨reached, filled⟩ :=
          (streamResponse_spec opened first served ready streamed).2 failure rfl _ _ again.2
        have whole := filled.length_eq
        refine ⟨?_, fun kept saved => ?_, sound.size⟩
        · dsimp only
          exact eligibleResumeOffset_cases _ _
        · obtain rfl := Option.some.inj saved
          exact whole ▸ filled

/-- One pass keeps the invariant, or returns what is asked of it. -/
theorem recoverResponse_sound (policy : HttpTransferPolicy)
    (sound : state.Sound accepted source)
    (served : exchange.Delivers accepted) :
    SoundPass accepted source (ResponseRecovery.Sound accepted source)
      (recoverResponse policy source state exchange) := by
  unfold recoverResponse
  split
  · exact sound_raised
  · exact sound_raised
  · rename_i response opened
    split
    · -- an expired URL
      split
      · exact sound_raised
      · split
        · exact sound_raised
        · rename_i active refreshed
          obtain ⟨target, -, taken⟩ := bind_eq_ok.1 refreshed
          refine ⟨eligibleResumeOffset_cases _ _, sound.holds, fun size known => ?_⟩
          exact takeRefreshed_size taken known
    · split
      · split
        · rename_i whole
          exact recoverStream_sound sound opened (HttpResponse.firstByte_of_ok whole) served (.inl rfl)
        · split
          · exact ⟨.inl rfl, sound.holds, sound.size⟩
          · exact sound_raised
      · rename_i continues
        split
        · exact sound_raised
        · rename_i fresh
          refine recoverStream_sound sound opened ?_ served sound.ready
          rcases Nat.eq_zero_or_pos state.resumeOffset with zero | positive
          · rw [zero]
            refine HttpResponse.firstByte_of_ok ?_
            by_contra other
            exact fresh ⟨zero, other⟩
          · have valid : response.validPartial state.resumeOffset state.checkpoint = true := by
              by_contra other
              exact continues ⟨positive, Bool.not_eq_true _ ▸ other⟩
            exact HttpResponse.firstByte_of_validPartial valid

/-- The invariant of `_transfer_bounded_ranges`: the next range begins where the partial file
ends, which is not behind the end of the object. -/
structure BoundedRanges.Sound (accepted : Piece UInt8 → Prop) (source : HttpSource) (total : Nat)
    (state : BoundedRanges) : Prop where
  ready : state.transferred = 0 ∨ Filled accepted state.file state.transferred
  within : state.transferred ≤ total
  size : state.active.expectedSize = some total

theorem retryRange_sound {state : BoundedRanges} {refresh : Refresh}
    (known : source.expectedSize = some total) (sound : state.Sound accepted source total) :
    SoundPass accepted source (BoundedRanges.Sound accepted source total)
      (retryRange policy source state refresh) := by
  unfold retryRange
  split
  · exact sound_raised
  · rename_i active asked
    exact ⟨sound.ready, sound.within, refreshedRangeSource_size asked known sound.size⟩

/-- One pass keeps the invariant, or returns what is asked of it. -/
theorem transferRange_sound (policy : HttpTransferPolicy) {state : BoundedRanges}
    (known : source.expectedSize = some total)
    (sound : state.Sound accepted source total) (inside : stop + 1 ≤ total)
    (served : exchange.Delivers accepted) :
    SoundPass accepted source (BoundedRanges.Sound accepted source total)
      (transferRange policy source total stop state exchange) := by
  unfold transferRange
  split
  · dsimp only
    split
    · exact retryRange_sound known sound
    · exact sound_raised
  · rename_i response opened
    split
    · split
      · exact sound_raised
      · exact retryRange_sound known sound
    · split
      · -- the whole object from byte zero
        rename_i whole
        rcases streamed : streamResponse policy exchange response state.active state.file 0 with
          ⟨outcome, later⟩
        intro result returned
        have spec := streamResponse_spec opened (HttpResponse.firstByte_of_ok whole) served (.inl rfl)
          streamed
        obtain ⟨filled, agrees⟩ := spec.1 result returned
        refine ⟨filled, agrees.reported, fun size same => agrees.known size ?_⟩
        rw [sound.size, ← known]
        exact same
      · split
        · exact sound_raised
        · rename_i valid
          dsimp only
          rw [Bool.not_eq_false] at valid
          have first := HttpResponse.firstByte_of_validBounded valid
          split
          · rename_i transferred later streamed
            have spec := streamBoundedResponse_spec opened first served sound.ready streamed
            obtain ⟨rfl, filled⟩ := spec.1 transferred rfl
            exact ⟨.inr filled, inside, sound.size⟩
          · rename_i failure later streamed
            split
            · rename_i again
              have spec := streamBoundedResponse_spec opened first served sound.ready streamed
              obtain ⟨reached, filled⟩ := spec.2 failure rfl _ _ _ again
              have whole := filled.length_eq
              split
              · exact sound_raised
              · rename_i fits
                rw [whole] at fits ⊢
                refine retryRange_sound known ⟨.inr filled, ?_, sound.size⟩
                simp only
                omega
            · exact sound_raised

section Runs

variable {answers : List Exchange} {last : TransferEnd}

/-- Whatever a run of one response after another returns is sound. -/
theorem transferWithResponseRecovery_sound
    (saved : ∀ kept, checkpoint = some kept → Filled accepted file kept.bytesTransferred)
    (served : ∀ exchange ∈ answers, exchange.Delivers accepted)
    (run : transferWithResponseRecovery policy source checkpoint file answers = some last) :
    last.Sound accepted source := by
  refine loop_rule (ResponseRecovery.Sound accepted source) _ ?_ ?_ ?_ ?_ run
  · intro state answer next inside sound _ pass
    have each := recoverResponse_sound policy sound (served answer inside)
    rwa [pass] at each
  · intro state result _ ended
    cases ended
  · intro state answer result inside sound _ pass
    have each := recoverResponse_sound policy sound (served answer inside)
    rwa [pass] at each
  · exact ⟨eligibleResumeOffset_cases _ _, saved, fun size known => known⟩

theorem rangesOver_eq_none {state : BoundedRanges} :
    rangesOver total state = none ↔ state.transferred < total := by
  unfold rangesOver
  split
  · rename_i unfinished
    exact iff_of_true rfl unfinished
  · rename_i beyond
    exact iff_of_false (by simp) beyond

/-- A range stays inside the object. -/
theorem rangeEnd_lt (policy : HttpTransferPolicy) (source : HttpSource)
    (unfinished : transferred < total) :
    rangeEnd policy source total transferred + 1 ≤ total := by
  have front := min_le_left (total - 1) (transferred +
    rangeRequestBytes source.toResolvedTransfer policy.toArtifactTransferPolicy - 1)
  unfold rangeEnd
  omega

/-- Whatever a run beyond bounded ranges returns is sound, unless it starts behind the end. -/
theorem transferBoundedRanges_sound (known : source.expectedSize = some total) (some_ : 0 < total)
    (within : eligibleResumeOffset source.toResolvedTransfer checkpoint ≤ total)
    (saved : ∀ kept, checkpoint = some kept → Filled accepted file kept.bytesTransferred)
    (served : ∀ exchange ∈ answers, exchange.Delivers accepted)
    (run : transferBoundedRanges policy source total checkpoint file answers = some last) :
    last.Sound accepted source := by
  refine loop_rule (BoundedRanges.Sound accepted source total) _ ?_ ?_ ?_ ?_ run
  · intro state answer next inside sound ongoing pass
    have last := rangeEnd_lt policy source (rangesOver_eq_none.1 ongoing)
    have each := transferRange_sound policy known sound last (served answer inside)
    rwa [pass] at each
  · intro state result sound ended returned same
    unfold rangesOver at ended
    split at ended
    · cases ended
    · rename_i beyond
      obtain rfl := Option.some.inj ended
      obtain rfl := Except.ok.inj same
      have whole : state.transferred = total := Nat.le_antisymm sound.within (Nat.le_of_not_lt beyond)
      refine ⟨?_, ⟨fun size reported => ?_, fun size same => ?_⟩⟩
      · rcases sound.ready with zero | filled
        · omega
        · exact filled
      · exact whole.trans (Option.some.inj reported)
      · rw [known] at same
        exact whole.trans (Option.some.inj same)
  · intro state answer result inside sound ongoing pass
    have last := rangeEnd_lt policy source (rangesOver_eq_none.1 ongoing)
    have each := transferRange_sound policy known sound last (served answer inside)
    rwa [pass] at each
  · refine ⟨?_, within, known⟩
    rcases eligibleResumeOffset_cases source.toResolvedTransfer checkpoint with
      zero | ⟨kept, present, same⟩
    · exact .inl zero
    · exact .inr (same ▸ saved kept present)

end Runs

namespace HttpTransfer

variable {transfer : HttpTransfer} {answers : List Exchange} {digests : Digests} {last : TransferEnd}

/-- A piece of the file: what the transfer found, or what it was served. -/
def Accepted (transfer : HttpTransfer) (answers : List Exchange) (piece : Piece UInt8) : Prop :=
  (∃ content, transfer.existing = some content ∧ piece = ⟨0, content⟩) ∨
    ∃ exchange ∈ answers, exchange.Serves piece

/-- What a result promises of the file: its length is what is reported and what is expected, and
it consists of accepted pieces that cover the object from its first byte without a gap or an
overlap. -/
structure Exact (transfer : HttpTransfer) (answers : List Exchange)
    (result : ArtifactTransferResult) (pieces : List (Piece UInt8)) : Prop where
  length : (contents pieces).length = result.bytesTransferred
  expected : ∀ size, transfer.source.expectedSize = some size ∨ result.expectedSize = some size →
    (contents pieces).length = size
  tiles : Tiles 0 pieces (contents pieces).length
  accepted : ∀ piece ∈ pieces, transfer.Accepted answers piece

/-- The transfer goes over bounded ranges to an object that is shorter than the checkpoint it may
be resumed from, and nothing that is checked before and after refuses that. -/
def Overshoots (policy : HttpTransferPolicy) (digests : Digests) (transfer : HttpTransfer) : Prop :=
  ∃ active size, transfer.prepare policy = .ok active ∧
    useBoundedRanges active.toResolvedTransfer policy.toArtifactTransferPolicy = true ∧
    active.expectedSize = some size ∧
    size < eligibleResumeOffset active.toResolvedTransfer transfer.checkpoint ∧
    verifyChecksum digests (contents (transfer.found.getD [])) active.checksum = .ok ()

/-- A transfer that gets as far as a request has checked its checkpoint against the file. -/
theorem found_filled (answers : List Exchange) (prepared : transfer.prepare policy = .ok active) :
    ∀ kept, transfer.checkpoint = some kept →
      Filled (transfer.Accepted answers) transfer.found kept.bytesTransferred := by
  intro kept saved
  obtain ⟨_, -, rest⟩ := bind_eq_ok.1 prepared
  obtain ⟨_, -, rest⟩ := bind_eq_ok.1 rest
  obtain ⟨_, -, rest⟩ := bind_eq_ok.1 rest
  obtain ⟨_, checked, -⟩ := bind_eq_ok.1 rest
  simp only [saved, validateCheckpoint] at checked
  split at checked
  · rename_i same
    obtain ⟨content, present, length⟩ := Option.map_eq_some_iff.1 same
    refine ⟨[⟨0, content⟩], by rw [found, present]; rfl, ?_, ?_⟩
    · rw [← length, ← zero_add content.length]
      exact Tiles.one ⟨0, content⟩
    · intro piece inside
      exact .inl ⟨content, present, mem_singleton.1 inside⟩
  · cases checked

/-- The target that a transfer goes to has the size that was known before. -/
theorem prepare_size (prepared : transfer.prepare policy = .ok active)
    (known : transfer.source.expectedSize = some size) : active.expectedSize = some size := by
  obtain ⟨_, -, rest⟩ := bind_eq_ok.1 prepared
  obtain ⟨_, -, rest⟩ := bind_eq_ok.1 rest
  obtain ⟨_, -, rest⟩ := bind_eq_ok.1 rest
  obtain ⟨_, -, rest⟩ := bind_eq_ok.1 rest
  obtain ⟨_, -, rest⟩ := bind_eq_ok.1 rest
  split at rest
  · obtain ⟨target, -, taken⟩ := bind_eq_ok.1 rest
    exact takeRefreshed_size taken known
  · obtain rfl := Except.ok.inj rest
    exact known

/-- A range is never asked for of an object that fits into one. -/
theorem size_pos (bounded : useBoundedRanges resolved policy.toArtifactTransferPolicy = true)
    (known : resolved.expectedSize = some size) : 0 < size := by
  simp only [useBoundedRanges, known, Bool.and_eq_true, Option.any_some, decide_eq_true_eq] at bounded
  exact zero_lt_of_lt bounded.2

/-- Every write of the answers takes its whole chunk. -/
def WritesWhole (answers : List Exchange) : Prop :=
  ∀ exchange ∈ answers, ∀ chunk ∈ exchange.body, chunk.stored = chunk.bytes

/-- A transfer that does not overshoot is sound, whatever it is answered. -/
theorem download_sound (whole : WritesWhole answers)
    (prepared : transfer.prepare policy = .ok active)
    (within : ∀ size, active.expectedSize = some size →
      useBoundedRanges active.toResolvedTransfer policy.toArtifactTransferPolicy = true →
      eligibleResumeOffset active.toResolvedTransfer transfer.checkpoint ≤ size)
    (run : transfer.download policy active answers = some last) :
    last.Sound (transfer.Accepted answers) active := by
  have saved := found_filled answers prepared
  have served : ∀ exchange ∈ answers, exchange.Delivers (transfer.Accepted answers) :=
    fun exchange inside =>
      ⟨fun piece serves => .inr ⟨exchange, inside, serves⟩, whole exchange inside⟩
  unfold download at run
  split at run
  · rename_i total known
    split at run
    · rename_i bounded
      exact transferBoundedRanges_sound known (size_pos bounded known) (within total known bounded)
        saved served run
    · exact transferWithResponseRecovery_sound saved served run
  · exact transferWithResponseRecovery_sound saved served run

/-- What a run returned, and the file it returned it for. -/
theorem run_ok {file : PartialFile}
    (returned : transfer.run policy digests answers = some ⟨.ok result, file⟩) :
    ∃ active, transfer.prepare policy = .ok active ∧
      transfer.download policy active answers = some ⟨.ok result, file⟩ ∧
      verifyChecksum digests (contents (file.getD [])) active.checksum = .ok () := by
  unfold run at returned
  split at returned
  · cases returned
  · rename_i active prepared
    obtain ⟨⟨outcome, left⟩, downloaded, settled⟩ := Option.map_eq_some_iff.1 returned
    refine ⟨active, prepared, ?_⟩
    cases outcome with
    | error failure => cases failure <;> cases settled
    | ok final =>
      simp only at settled
      split at settled
      · rename_i verified
        obtain ⟨same, rfl⟩ := TransferEnd.mk.inj settled
        obtain rfl := Except.ok.inj same
        exact ⟨downloaded, verified⟩
      · cases settled

/-- Behind the end of the object there is no range to ask for. -/
theorem download_of_beyond (known : active.expectedSize = some size)
    (bounded : useBoundedRanges active.toResolvedTransfer policy.toArtifactTransferPolicy = true)
    (beyond : size < eligibleResumeOffset active.toResolvedTransfer transfer.checkpoint)
    (answers : List Exchange) :
    ∃ result, transfer.download policy active answers = some ⟨.ok result, transfer.found⟩ ∧
      result.expectedSize = some size := by
  unfold download
  rw [known]
  simp only [bounded, if_true]
  unfold transferBoundedRanges
  rw [loop_of_over (by rw [rangesOver, if_neg (not_lt_of_gt beyond)])]
  exact ⟨_, rfl, rfl⟩

/-- Where a transfer overshoots, it returns at once what it found. -/
theorem run_of_overshoots (past : transfer.Overshoots policy digests) (answers : List Exchange) :
    ∃ result size, transfer.run policy digests answers = some ⟨.ok result, transfer.found⟩ ∧
      result.expectedSize = some size ∧ size < (contents (transfer.found.getD [])).length := by
  obtain ⟨active, size, prepared, bounded, known, beyond, verified⟩ := past
  obtain ⟨result, downloaded, reported⟩ := download_of_beyond known bounded beyond answers
  refine ⟨result, size, ?_, reported, ?_⟩
  · unfold run
    rw [prepared]
    simp only [downloaded, Option.map_some, verified]
  · rcases eligibleResumeOffset_cases active.toResolvedTransfer transfer.checkpoint with
      zero | ⟨kept, present, same⟩
    · omega
    · have filled : Filled (transfer.Accepted answers) transfer.found kept.bytesTransferred :=
        found_filled answers prepared kept present
      rw [filled.length_eq, ← same]
      exact beyond

/-- A transfer that returns, over writes that take their whole chunks, has what it promises if and
only if it does not overshoot. -/
theorem run_exact_iff (policy : HttpTransferPolicy) (digests : Digests) (transfer : HttpTransfer)
    (answers : List Exchange) (whole : WritesWhole answers) :
    (∀ result file, transfer.run policy digests answers = some ⟨.ok result, file⟩ →
      ∃ pieces, file = some pieces ∧ transfer.Exact answers result pieces) ↔
      ¬ transfer.Overshoots policy digests := by
  constructor
  · intro exact_ past
    obtain ⟨result, size, returned, reported, beyond⟩ := run_of_overshoots past answers
    obtain ⟨pieces, present, same⟩ := exact_ result _ returned
    rw [present, Option.getD_some, same.expected size (.inr reported)] at beyond
    exact lt_irrefl _ beyond
  · intro inside result file returned
    obtain ⟨active, prepared, downloaded, verified⟩ := run_ok returned
    have within : ∀ size, active.expectedSize = some size →
        useBoundedRanges active.toResolvedTransfer policy.toArtifactTransferPolicy = true →
        eligibleResumeOffset active.toResolvedTransfer transfer.checkpoint ≤ size := by
      intro size known bounded
      by_contra short
      -- a transfer that has nothing to ask for leaves the file it found
      have beyond := Nat.lt_of_not_le short
      obtain ⟨early, same, -⟩ := download_of_beyond known bounded beyond answers
      rw [downloaded] at same
      obtain ⟨-, rfl⟩ := TransferEnd.mk.inj (Option.some.inj same)
      exact inside ⟨active, size, prepared, bounded, known, beyond, verified⟩
    obtain ⟨⟨pieces, rfl, tiles, all⟩, agrees⟩ :=
      download_sound whole prepared within downloaded result rfl
    have length := tiles.length_contents
    refine ⟨pieces, rfl, ⟨length, ?_, by rwa [length], all⟩⟩
    rintro size (known | reported)
    · exact length.trans (agrees.known size (prepare_size prepared known))
    · exact length.trans (agrees.reported size reported)

/-- Ranges of one byte. -/
def singleBytes : HttpTransferPolicy where
  rangeRequestBytes := 1
  minFreeBytes := 0

/-- Three bytes under an entity tag whose object has two. -/
def shrunken : HttpTransfer where
  source :=
    { expectedSize := some 2
      etag := some "v1"
      rangeSupported := true
      hostKind := .genericHttps }
  checkpoint := some ⟨3, none, some "v1", none⟩
  existing := some [1, 2, 3]
  free := some 10
  now := 0

/-- One byte under the same entity tag, and a range with the second one. -/
def continued : HttpTransfer :=
  { shrunken with checkpoint := some ⟨1, none, some "v1", none⟩, existing := some [1] }

def secondByte : Exchange where
  opened := .ok { statusCode := 206, contentRange := "bytes 1-1/2".toList, etag := some "v1" }
  body := [{ bytes := [2] }]

theorem secondByte_writesWhole : WritesWhole [secondByte] := by
  intro exchange inside chunk member
  obtain rfl := mem_singleton.1 inside
  obtain rfl := mem_singleton.1 member
  rfl

/-- A transfer that is continued over a range returns exactly what it promises. -/
theorem run_exact_iff_continued :
    ∃ result pieces, continued.run singleBytes (fun _ _ => []) [secondByte] =
        some ⟨.ok result, some pieces⟩ ∧ continued.Exact [secondByte] result pieces := by
  have inside : ¬ continued.Overshoots singleBytes fun _ _ => [] := by
    rintro ⟨active, size, prepared, -, known, beyond, -⟩
    obtain rfl := Except.ok.inj prepared
    obtain rfl := Option.some.inj known
    revert beyond
    decide
  obtain ⟨pieces, present, same⟩ := (run_exact_iff singleBytes (fun _ _ => []) continued [secondByte]
    secondByte_writesWhole).2 inside _ _ rfl
  obtain rfl := Option.some.inj present
  exact ⟨_, _, rfl, same⟩

/-- Two bytes to be fetched in one response. -/
def twoBytes : HttpTransfer where
  source := { expectedSize := some 2, hostKind := .genericHttps }
  checkpoint := none
  existing := none
  free := some 10
  now := 0

/-- A response with both bytes, of which the write takes the first only. -/
def shortWrite : Exchange where
  opened := .ok { statusCode := 200 }
  free := some 10
  body := [{ bytes := [1, 2], written := some 1 }]

/-- A partial file that is longer than the object is returned as it is, and so is a file that a
short write has left shorter. -/
theorem longer_than_expected :
    (¬ ∀ (policy : HttpTransferPolicy) (digests : Digests) (transfer : HttpTransfer)
      (answers : List Exchange) (result : ArtifactTransferResult) (file : PartialFile),
      WritesWhole answers → transfer.run policy digests answers = some ⟨.ok result, file⟩ →
        ∃ pieces, file = some pieces ∧ transfer.Exact answers result pieces) ∧
    ¬ ∀ (policy : HttpTransferPolicy) (digests : Digests) (transfer : HttpTransfer)
      (answers : List Exchange) (result : ArtifactTransferResult) (file : PartialFile),
      ¬ transfer.Overshoots policy digests →
        transfer.run policy digests answers = some ⟨.ok result, file⟩ →
          ∃ pieces, file = some pieces ∧ transfer.Exact answers result pieces := by
  refine ⟨fun promised => ?_, fun promised => ?_⟩
  · have none : WritesWhole [] := fun exchange inside => nomatch inside
    obtain ⟨pieces, present, same⟩ :=
      promised singleBytes (fun _ _ => []) shrunken [] _ _ none rfl
    obtain rfl := Option.some.inj present
    have two : 3 = 2 := same.expected 2 (.inl rfl)
    cases two
  · have inside : ¬ twoBytes.Overshoots singleBytes fun _ _ => [] := by
      rintro ⟨active, size, prepared, bounded, -, -, -⟩
      obtain rfl := Except.ok.inj prepared
      cases bounded
    obtain ⟨pieces, present, same⟩ :=
      promised singleBytes (fun _ _ => []) twoBytes [shortWrite] _ _ inside rfl
    obtain rfl := Option.some.inj present
    have two : 1 = 2 := same.expected 2 (.inl rfl)
    cases two

/-- Where all that is served belongs to one object, and so does what was found, a file holds the
first bytes of that object. -/
theorem contents_of_filled {size : Nat} {whole : Content}
    (filled : Filled (transfer.Accepted answers) file size)
    (found : ∀ content, transfer.existing = some content → content <+: whole)
    (served : ∀ exchange ∈ answers, ∀ piece, exchange.Serves piece → piece.Of whole) :
    ∃ pieces, file = some pieces ∧ contents pieces = whole.take size := by
  obtain ⟨pieces, present, tiles, all⟩ := filled
  refine ⟨pieces, present, tiles.contents_eq_take fun piece inside => ?_⟩
  rcases all piece inside with ⟨content, known, rfl⟩ | ⟨exchange, answer, serves⟩
  · exact found content known
  · exact served exchange answer piece serves

/-- A transfer that is served from one object, over whatever ranges, retries and refreshes, and whose
writes take whole chunks, returns a beginning of that object, and all of it where it reports the
size of the object. -/
theorem run_contents {whole : Content} (unbroken : WritesWhole answers)
    (returned : transfer.run policy digests answers = some ⟨.ok result, file⟩)
    (found : ∀ content, transfer.existing = some content → content <+: whole)
    (served : ∀ exchange ∈ answers, ∀ piece, exchange.Serves piece → piece.Of whole) :
    ∃ pieces, file = some pieces ∧ contents pieces <+: whole ∧
      (result.expectedSize = some whole.length → contents pieces = whole) := by
  obtain ⟨active, prepared, downloaded, -⟩ := run_ok returned
  by_cases within : ∀ size, active.expectedSize = some size →
      useBoundedRanges active.toResolvedTransfer policy.toArtifactTransferPolicy = true →
      eligibleResumeOffset active.toResolvedTransfer transfer.checkpoint ≤ size
  · obtain ⟨filled, agrees⟩ := download_sound unbroken prepared within downloaded result rfl
    obtain ⟨pieces, present, same⟩ := contents_of_filled filled found served
    refine ⟨pieces, present, same ▸ take_prefix _ _, fun reported => ?_⟩
    rw [same, agrees.reported _ reported, take_length]
  · -- nothing is asked for, and the file that was found is returned
    push Not at within
    obtain ⟨size, known, bounded, beyond⟩ := within
    obtain ⟨_, early, total⟩ := download_of_beyond known bounded beyond answers
    rw [downloaded] at early
    obtain ⟨same, rfl⟩ := TransferEnd.mk.inj (Option.some.inj early)
    obtain rfl := Except.ok.inj same
    rcases eligibleResumeOffset_cases active.toResolvedTransfer transfer.checkpoint with
      zero | ⟨kept, saved, offset⟩
    · omega
    · have filled := found_filled answers prepared kept saved
      obtain ⟨pieces, present, same⟩ := contents_of_filled filled found served
      refine ⟨pieces, present, same ▸ take_prefix _ _, fun reported => ?_⟩
      have short : size = whole.length := Option.some.inj (total.symm.trans reported)
      rw [same, take_of_length_le (by omega)]

/-- A file of one byte is continued with the second one. -/
theorem run_contents_resumed :
    ∃ result file, continued.run singleBytes (fun _ _ => []) [secondByte] =
        some ⟨.ok result, file⟩ ∧ ∃ pieces, file = some pieces ∧ contents pieces = [1, 2] := by
  have found : ∀ content, continued.existing = some content → content <+: [1, 2] := by
    rintro _ ⟨⟩
    exact prefix_append [1] [2]
  have served : ∀ exchange ∈ [secondByte], ∀ piece, exchange.Serves piece → piece.Of [1, 2] := by
    rintro _ inside piece ⟨_, before, chunk, after, opened, body, rfl⟩
    obtain rfl := mem_singleton.1 inside
    obtain rfl := Except.ok.inj opened
    cases before with
    | nil =>
      obtain ⟨rfl, -⟩ := List.cons.inj body
      exact prefix_refl [2]
    | cons _ _ => simp [secondByte] at body
  obtain ⟨pieces, present, -, whole⟩ := run_contents secondByte_writesWhole
    (show continued.run singleBytes (fun _ _ => []) [secondByte] = some ⟨.ok _, _⟩ from rfl)
    found served
  exact ⟨_, _, rfl, pieces, present, whole rfl⟩

end HttpTransfer

end Pullbox.Direct
