import Mathlib.Data.List.Pairwise
import Mathlib.Data.List.TakeWhile
import Mathlib.Order.Lattice
import Mathlib.Tactic.Common

/-!
# Loops that ask their environment

A loop that tests its state, asks for one answer and then goes on or is over. The answers are
given as a list; a loop that needs more of them has no result yet.
-/

namespace Async

open List

universe u

/-- One pass of a loop: another pass follows, or the loop has its result. -/
inductive Pass (σ ρ : Type u) where
  | again (state : σ)
  | done (result : ρ)

variable {σ ε ρ : Type u}

/-- `test` is the test at the head of the loop. -/
def loop (test : σ → Option ρ) (body : σ → ε → Pass σ ρ) : σ → List ε → Option ρ
  | state, [] => test state
  | state, answer :: answers =>
    match test state with
    | some result => some result
    | none =>
      match body state answer with
      | .again next => loop test body next answers
      | .done result => some result

variable {test : σ → Option ρ} {body : σ → ε → Pass σ ρ} {state : σ} {answers : List ε}
  {result : ρ}

/-- A loop that is over asks for nothing. -/
theorem loop_of_over (ends : test state = some result) :
    loop test body state answers = some result := by
  cases answers with
  | nil => exact ends
  | cons answer answers =>
    unfold loop
    rw [ends]

/-- What one pass keeps, and what follows from it where the loop ends, holds of the result. -/
theorem loop_rule (kept : σ → Prop) (good : ρ → Prop)
    (stays : ∀ {state answer next}, answer ∈ answers → kept state → test state = none →
      body state answer = .again next → kept next)
    (leaves : ∀ {state result}, kept state → test state = some result → good result)
    (ends : ∀ {state answer result}, answer ∈ answers → kept state → test state = none →
      body state answer = .done result → good result)
    (before : kept state) (run : loop test body state answers = some result) : good result := by
  induction answers generalizing state with
  | nil => exact leaves before run
  | cons answer answers ih =>
    unfold loop at run
    cases tested : test state with
    | some early =>
      rw [tested] at run
      obtain rfl := Option.some.inj run
      exact leaves before tested
    | none =>
      rw [tested] at run
      cases pass : body state answer with
      | again next =>
        rw [pass] at run
        refine ih (fun inside => stays (mem_cons_of_mem _ inside))
          (fun inside => ends (mem_cons_of_mem _ inside)) ?_ run
        exact stays mem_cons_self before tested pass
      | done final =>
        rw [pass] at run
        obtain rfl := Option.some.inj run
        exact ends mem_cons_self before tested pass

end Async

/-!
## Sliding windows over samples

Samples in the order of their times, the last one up to a time, and what may be dropped of them
once no time before a cutoff is asked for any more.
-/

namespace Async

open List

universe u v

section Window

variable {Sample : Type u} {Time : Type v} [LinearOrder Time] (time : Sample → Time)

/-- The last sample before the first that is later than a time. -/
@[grind =]
def lastUpTo (cutoff : Time) (samples : List Sample) : Option Sample :=
  (samples.takeWhile fun sample => time sample ≤ cutoff).getLast?

/-- Samples without those that another one follows up to a time. -/
@[grind =]
def prune (cutoff : Time) : List Sample → List Sample
  | [] => []
  | [last] => [last]
  | first :: second :: rest =>
    if time second ≤ cutoff then prune cutoff (second :: rest) else first :: second :: rest

/-- No sample is later than one after it. -/
def InOrder (samples : List Sample) : Prop :=
  samples.Pairwise fun first second => time first ≤ time second

variable {time} {cutoff later : Time} {samples kept full : List Sample} {sample : Sample}

theorem prune_suffix : prune time cutoff samples <:+ samples := by
  induction samples using prune.induct time cutoff with
  | case1 => exact suffix_rfl
  | case2 last => exact suffix_rfl
  | case3 first second rest early ih =>
    rw [prune, if_pos early]
    exact ih.trans (suffix_cons first _)
  | case4 first second rest late =>
    exact ⟨[], by rw [prune, if_neg late, nil_append]⟩

/-- The last sample stays. -/
theorem getLast?_prune : (prune time cutoff samples).getLast? = samples.getLast? := by
  induction samples using prune.induct time cutoff with
  | case1 => rfl
  | case2 last => rfl
  | case3 first second rest early ih =>
    rw [prune, if_pos early, ih, List.getLast?_cons_cons]
  | case4 first second rest late => rw [prune, if_neg late]

/-- Pruning changes nothing for times from the cutoff on. -/
theorem lastUpTo_prune (ordered : InOrder time samples) (behind : cutoff ≤ later) :
    lastUpTo time later (prune time cutoff samples) = lastUpTo time later samples := by
  induction samples using prune.induct time cutoff with
  | case1 => rfl
  | case2 last => rfl
  | case3 first second rest early ih =>
    obtain ⟨least, tail⟩ := pairwise_cons.1 ordered
    have next : time second ≤ later := early.trans behind
    have here : time first ≤ later := (least second mem_cons_self).trans next
    rw [prune, if_pos early, ih tail]
    simp only [lastUpTo, takeWhile_cons, here, next, decide_true, if_true,
      List.getLast?_cons_cons]
  | case4 first second rest late => rw [prune, if_neg late]

/-- Where all samples are up to a time, the last one is the last up to it. -/
theorem lastUpTo_of_le (all : ∀ sample ∈ samples, time sample ≤ later) :
    lastUpTo time later samples = samples.getLast? := by
  unfold lastUpTo
  rw [takeWhile_eq_self_iff.2 fun sample inside => decide_eq_true (all sample inside)]

/-- A sample after a time does not count for it. -/
theorem lastUpTo_append_of_lt (after : later < time sample) :
    lastUpTo time later (samples ++ [sample]) = lastUpTo time later samples := by
  unfold lastUpTo
  rw [takeWhile_append]
  split
  · rw [takeWhile_cons_of_neg (by simpa using after), append_nil,
      takeWhile_eq_self_iff.2]
    rename_i whole
    exact takeWhile_eq_self_iff.1
      ((takeWhile_sublist _).eq_of_length whole)
  · rfl

variable (time) in
/-- Samples that stand for others: the last one and all that is asked from a cutoff on agree. -/
structure StandsFor (cutoff : Time) (kept full : List Sample) : Prop where
  subset : kept ⊆ full
  last : kept.getLast? = full.getLast?
  agrees : ∀ later, cutoff ≤ later → lastUpTo time later kept = lastUpTo time later full

/-- What stands for samples still does after one more, also pruned. -/
theorem StandsFor.observe {before : Time} (stands : StandsFor time before kept full)
    (ordered : InOrder time (kept ++ [sample])) (latest : ∀ other ∈ full, time other ≤ time sample)
    (behind : before ≤ cutoff) :
    StandsFor time cutoff (prune time cutoff (kept ++ [sample])) (full ++ [sample]) where
  subset := fun other inside =>
    append_subset.2 ⟨subset_append_of_subset_left _ stands.subset,
      subset_append_right _ _⟩ (prune_suffix.subset inside)
  last := by rw [getLast?_prune, List.getLast?_concat, List.getLast?_concat]
  agrees := by
    intro later asked
    rw [lastUpTo_prune ordered asked]
    rcases lt_or_ge later (time sample) with after | reached
    · rw [lastUpTo_append_of_lt after, lastUpTo_append_of_lt after,
        stands.agrees later (behind.trans asked)]
    · have all : ∀ other ∈ full ++ [sample], time other ≤ later := by
        intro other inside
        rcases mem_append.1 inside with old | new
        · exact (latest other old).trans reached
        · exact mem_singleton.1 new ▸ reached
      rw [lastUpTo_of_le all, lastUpTo_of_le, List.getLast?_concat, List.getLast?_concat]
      intro other inside
      exact all other (append_subset.2 ⟨subset_append_of_subset_left _ stands.subset,
        subset_append_right _ _⟩ inside)

end Window

end Async
