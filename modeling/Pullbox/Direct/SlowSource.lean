import Mathlib.Data.List.Induction
import Mathlib.Tactic.Linarith
import Pullbox.Async.Loop

/-!
# Slow sources

`_SlowSourceTracker` of `services/direct_acquisition_executor.py`: a transfer is slow while its
rate over the last minute is low, until its rate over half a minute is high again. The tracker
keeps the samples of a sliding window; its verdict is that of all samples since the number of
bytes last fell. Times and rates are exact.
-/

namespace Pullbox.Direct

open List

open Async (lastUpTo prune InOrder StandsFor)

/-- How many bytes there were at a time. -/
structure Sample where
  time : ℚ
  bytesTransferred : ℤ

/-- `_SLOW_SOURCE_THRESHOLD_BYTES_PER_SECOND`. -/
def slowSourceThresholdBytesPerSecond : ℚ := 500000 / 8

/-- `_SLOW_SOURCE_RECOVERY_BYTES_PER_SECOND`. -/
def slowSourceRecoveryBytesPerSecond : ℚ := 750000 / 8

/-- `_SLOW_SOURCE_WINDOW_SECONDS`. -/
def slowSourceWindowSeconds : ℚ := 60

/-- `_SLOW_SOURCE_RECOVERY_WINDOW_SECONDS`. -/
def slowSourceRecoveryWindowSeconds : ℚ := 30

/-- `_SLOW_SOURCE_MIN_BYTES`. -/
def slowSourceMinBytes : ℤ := 2 * 1024 ^ 2

/-- `_rolling_rate`. -/
def rollingRate (samples : List Sample) (now : Sample) (windowSeconds : ℚ) : Option ℚ :=
  match lastUpTo Sample.time (now.time - windowSeconds) samples with
  | none => none
  | some baseline =>
    if now.time - baseline.time < windowSeconds then none
    else
      let byteDelta := now.bytesTransferred - baseline.bytesTransferred
      if byteDelta ≤ 0 then none else some (byteDelta / (now.time - baseline.time))

/-- The verdict after a sample, which the samples end with. -/
def verdict (wasSlow : Bool) (samples : List Sample) (now : Sample) : Bool :=
  if wasSlow then
    !(rollingRate samples now slowSourceRecoveryWindowSeconds).any fun rate =>
      slowSourceRecoveryBytesPerSecond < rate
  else
    slowSourceMinBytes ≤ now.bytesTransferred &&
      (rollingRate samples now slowSourceWindowSeconds).any fun rate =>
        rate < slowSourceThresholdBytesPerSecond

/-- The bytes have fallen since the last sample. -/
def fell (samples : List Sample) (now : Sample) : Bool :=
  samples.getLast?.any fun last => now.bytesTransferred < last.bytesTransferred

/-- The samples of the window, and the verdict. -/
structure SlowSourceTracker where
  samples : List Sample := []
  isSlow : Bool := false

/-- `observe`. -/
def SlowSourceTracker.observe (tracker : SlowSourceTracker) (now : Sample) : SlowSourceTracker :=
  let tracker := if fell tracker.samples now then {} else tracker
  let samples := prune Sample.time (now.time - slowSourceWindowSeconds) (tracker.samples ++ [now])
  { samples, isSlow := verdict tracker.isSlow samples now }

/-- The tracker after a sequence of samples. -/
def SlowSourceTracker.observeAll (samples : List Sample) : SlowSourceTracker :=
  samples.foldl SlowSourceTracker.observe {}

/-! ### The full history -/

/-- All samples since the bytes last fell, the one after which they had fallen first. -/
def sinceReset (samples : List Sample) : List Sample :=
  samples.foldl (fun seen now => if fell seen now then [now] else seen ++ [now]) []

/-- The samples up to each of a history, with the verdict after it. -/
def judge (judged : List Sample × Bool) (now : Sample) : List Sample × Bool :=
  (judged.1 ++ [now], verdict judged.2 (judged.1 ++ [now]) now)

/-- The verdict at the end of a history of which nothing is dropped. -/
def fullVerdict (history : List Sample) : Bool :=
  (history.foldl judge ([], false)).2

variable {samples kept full history : List Sample} {now : Sample} {tracker : SlowSourceTracker}

theorem foldl_judge (history seen : List Sample) (wasSlow : Bool) :
    (history.foldl judge (seen, wasSlow)).1 = seen ++ history := by
  induction history generalizing seen wasSlow with
  | nil => exact (append_nil seen).symm
  | cons now rest ih =>
    rw [foldl_cons, judge, ih, append_assoc]
    rfl

theorem fullVerdict_concat (history : List Sample) (now : Sample) :
    fullVerdict (history ++ [now]) = verdict (fullVerdict history) (history ++ [now]) now := by
  have seen := foldl_judge history [] false
  rw [nil_append] at seen
  unfold fullVerdict
  rw [foldl_append, foldl_cons, foldl_nil, judge, seen]

theorem sinceReset_concat (samples : List Sample) (now : Sample) :
    sinceReset (samples ++ [now]) =
      if fell (sinceReset samples) now then [now] else sinceReset samples ++ [now] := by
  unfold sinceReset
  rw [foldl_append, foldl_cons, foldl_nil]

theorem observeAll_concat (samples : List Sample) (now : Sample) :
    SlowSourceTracker.observeAll (samples ++ [now]) =
      (SlowSourceTracker.observeAll samples).observe now := by
  unfold SlowSourceTracker.observeAll
  rw [foldl_append, foldl_cons, foldl_nil]

/-! ### What the kept samples stand for -/

theorem rollingRate_eq {cutoff windowSeconds : ℚ} (stands : StandsFor Sample.time cutoff kept full)
    (asked : cutoff ≤ now.time - windowSeconds) :
    rollingRate kept now windowSeconds = rollingRate full now windowSeconds := by
  unfold rollingRate
  rw [stands.agrees _ asked]

theorem verdict_eq (wasSlow : Bool)
    (stands : StandsFor Sample.time (now.time - slowSourceWindowSeconds) kept full) :
    verdict wasSlow kept now = verdict wasSlow full now := by
  have longer : now.time - slowSourceWindowSeconds ≤ now.time - slowSourceRecoveryWindowSeconds := by
    unfold slowSourceWindowSeconds slowSourceRecoveryWindowSeconds
    linarith
  unfold verdict
  rw [rollingRate_eq stands longer, rollingRate_eq stands le_rfl]

theorem fell_eq {cutoff : ℚ} (stands : StandsFor Sample.time cutoff kept full) :
    fell kept now = fell full now := by
  unfold fell
  rw [stands.last]

/-- The samples of a tracker stand for the history since the last reset, up to a last time, and its
verdict is that of this history. -/
structure Tracks (latest : ℚ) (tracker : SlowSourceTracker) (history : List Sample) : Prop where
  stands : StandsFor Sample.time (latest - slowSourceWindowSeconds) tracker.samples history
  ordered : InOrder Sample.time tracker.samples
  past : ∀ sample ∈ history, sample.time ≤ latest
  isSlow : tracker.isSlow = fullVerdict history

theorem tracks_empty (latest : ℚ) : Tracks latest {} [] where
  stands := ⟨List.Subset.refl _, rfl, fun _ _ => rfl⟩
  ordered := List.Pairwise.nil
  past := fun _ inside => nomatch inside
  isSlow := rfl

/-- A sample that does not fall is added on both sides. -/
theorem Tracks.add {latest : ℚ} (tracks : Tracks latest tracker history)
    (later : latest ≤ now.time) :
    Tracks now.time
      { samples := prune Sample.time (now.time - slowSourceWindowSeconds) (tracker.samples ++ [now])
        isSlow := verdict tracker.isSlow
          (prune Sample.time (now.time - slowSourceWindowSeconds) (tracker.samples ++ [now])) now }
      (history ++ [now]) := by
  have past : ∀ sample ∈ history, sample.time ≤ now.time :=
    fun sample inside => (tracks.past sample inside).trans later
  have ordered : InOrder Sample.time (tracker.samples ++ [now]) := by
    refine pairwise_append.2 ⟨tracks.ordered, pairwise_singleton _ _, ?_⟩
    intro sample inside other same
    exact mem_singleton.1 same ▸ past sample (tracks.stands.subset inside)
  have stands := tracks.stands.observe ordered past (sub_le_sub_right later slowSourceWindowSeconds)
  refine ⟨stands, ordered.sublist Async.prune_suffix.sublist, ?_, ?_⟩
  · intro sample inside
    rcases mem_append.1 inside with old | new
    · exact past sample old
    · exact mem_singleton.1 new ▸ le_rfl
  · rw [fullVerdict_concat, ← tracks.isSlow]
    exact verdict_eq tracker.isSlow stands

/-- One sample more. -/
theorem Tracks.observe {latest : ℚ} (tracks : Tracks latest tracker history)
    (later : latest ≤ now.time) :
    Tracks now.time (tracker.observe now)
      (if fell history now then [now] else history ++ [now]) := by
  unfold SlowSourceTracker.observe
  rw [fell_eq tracks.stands]
  cases fell history now with
  | true => exact (tracks_empty latest).add later
  | false => exact tracks.add later

theorem tracks_observeAll (ordered : InOrder Sample.time samples) :
    ∃ latest, (∀ last ∈ samples.getLast?, latest = last.time) ∧
      Tracks latest (SlowSourceTracker.observeAll samples) (sinceReset samples) := by
  induction samples using List.reverseRecOn with
  | nil => exact ⟨0, (fun _ none => nomatch none), tracks_empty 0⟩
  | append_singleton samples now ih =>
    obtain ⟨before, -, crossed⟩ := pairwise_append.1 ordered
    obtain ⟨latest, last, tracks⟩ := ih before
    rw [observeAll_concat, sinceReset_concat]
    refine ⟨now.time, ?_, ?_⟩
    · rw [List.getLast?_concat]
      exact fun other same => congrArg Sample.time (Option.some.inj same)
    · cases ended : samples.getLast? with
      | none =>
        obtain rfl := List.getLast?_eq_none_iff.1 ended
        exact (tracks_empty now.time).observe le_rfl
      | some final =>
        refine tracks.observe ?_
        rw [last final ended]
        exact crossed final (mem_of_getLast? ended) now (mem_singleton_self _)

/-- The verdict of the tracker is that of all samples since the last reset. -/
theorem observeAll_isSlow (ordered : InOrder Sample.time samples) :
    (SlowSourceTracker.observeAll samples).isSlow = fullVerdict (sinceReset samples) := by
  obtain ⟨_, -, tracks⟩ := tracks_observeAll ordered
  exact tracks.isSlow

/-- A slow minute, a fall of the bytes, and a minute in which the source is slow again. -/
def slowTwice : List Sample :=
  [⟨0, 0⟩, ⟨45, 1500000⟩, ⟨60, 2097152⟩, ⟨75, 2097153⟩, ⟨75, 0⟩, ⟨135, 3000000⟩]

/-- A source that is slow for two windows. -/
theorem observeAll_isSlow_slowTwice :
    (SlowSourceTracker.observeAll slowTwice).isSlow = true ∧
      (SlowSourceTracker.observeAll slowTwice).isSlow = fullVerdict (sinceReset slowTwice) := by
  refine ⟨by decide +kernel, observeAll_isSlow ?_⟩
  unfold slowTwice InOrder
  decide +kernel

end Pullbox.Direct
