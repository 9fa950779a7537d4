import Mathlib.Data.List.Chain
import Pullbox.Progress.Projection

/-!
# Sequences of progress updates

Updates of one operation are published one after the other, in any order of their revisions and
event times. What the row shows over time is the list of its accepted updates.
-/

namespace Pullbox.Progress

open List

/-- An update with the reading of the clock that it is published at. -/
structure ProgressCall where
  update : OperationProgressUpdate
  clock : Int

/-- An update that was accepted, with the row that it left. -/
structure AcceptedUpdate where
  call : ProgressCall
  row : OperationProgress

/-- The row after some calls. -/
def rowAfter (row : Option OperationProgress) : List ProgressCall → Option OperationProgress
  | [] => row
  | call :: rest =>
    match publishOperationProgress row call.update call.clock with
    | .ok (after, _) => rowAfter (some after) rest
    | .error _ => rowAfter row rest

/-- The updates that calls get accepted. -/
@[grind =]
def acceptedUpdates (row : Option OperationProgress) : List ProgressCall → List AcceptedUpdate
  | [] => []
  | call :: rest =>
    match publishOperationProgress row call.update call.clock with
    | .ok (after, true) => ⟨call, after⟩ :: acceptedUpdates (some after) rest
    | .ok (after, false) => acceptedUpdates (some after) rest
    | .error _ => acceptedUpdates row rest

/-- The row after some calls is that of the last accepted one. -/
theorem rowAfter_eq (row : Option OperationProgress) (calls : List ProgressCall) :
    rowAfter row calls =
      ((acceptedUpdates row calls).getLast?.map AcceptedUpdate.row).or row := by
  induction calls generalizing row with
  | nil => rfl
  | cons call rest ih =>
    unfold rowAfter acceptedUpdates
    cases published : publishOperationProgress row call.update call.clock with
    | error message => exact ih row
    | ok answer =>
      obtain ⟨after, accepted⟩ := answer
      cases accepted with
      | true =>
        simp only [ih (some after), List.getLast?_cons]
        cases (acceptedUpdates (some after) rest).getLast? <;> rfl
      | false =>
        simp only [ih (some after), publish_rejected published]

section Chain

variable {R : AcceptedUpdate → AcceptedUpdate → Prop}
  (related : ∀ (prior : AcceptedUpdate) (call : ProgressCall) (after : OperationProgress),
    publishOperationProgress (some prior.row) call.update call.clock = .ok (after, true) →
      R prior ⟨call, after⟩)

include related

/-- What holds from a row to the next accepted update holds along all of them. -/
theorem isChain_cons_acceptedUpdates (prior : AcceptedUpdate) (calls : List ProgressCall) :
    (prior :: acceptedUpdates (some prior.row) calls).IsChain R := by
  induction calls generalizing prior with
  | nil => exact .singleton prior
  | cons call rest ih =>
    unfold acceptedUpdates
    cases published : publishOperationProgress (some prior.row) call.update call.clock with
    | error message => exact ih prior
    | ok answer =>
      obtain ⟨after, accepted⟩ := answer
      cases accepted with
      | true => exact .cons_cons (related prior call after published) (ih ⟨call, after⟩)
      | false =>
        cases publish_rejected published
        exact ih prior

theorem isChain_acceptedUpdates (calls : List ProgressCall) :
    (acceptedUpdates none calls).IsChain R := by
  induction calls with
  | nil => exact .nil
  | cons call rest ih =>
    unfold acceptedUpdates
    cases published : publishOperationProgress none call.update call.clock with
    | error message => exact ih
    | ok answer =>
      obtain ⟨after, accepted⟩ := answer
      cases accepted with
      | true => exact isChain_cons_acceptedUpdates related ⟨call, after⟩ rest
      | false => cases publish_rejected published

end Chain

/-- What every accepted update leaves holds of all of them. -/
theorem forall_acceptedUpdates {P : AcceptedUpdate → Prop}
    (left : ∀ (row : Option OperationProgress) (call : ProgressCall) (after : OperationProgress),
      publishOperationProgress row call.update call.clock = .ok (after, true) → P ⟨call, after⟩)
    (row : Option OperationProgress) (calls : List ProgressCall) :
    ∀ entry ∈ acceptedUpdates row calls, P entry := by
  induction calls generalizing row with
  | nil => exact fun _ member => absurd member not_mem_nil
  | cons call rest ih =>
    unfold acceptedUpdates
    cases published : publishOperationProgress row call.update call.clock with
    | error message => exact ih row
    | ok answer =>
      obtain ⟨after, accepted⟩ := answer
      cases accepted with
      | true =>
        intro entry member
        rcases mem_cons.1 member with rfl | later
        · exact left row call after published
        · exact ih (some after) entry later
      | false => exact ih (some after)

/-! ### What the rows show -/

/-- The row says what its state says: an operation that is over has a time of it, and a completed
one is complete. -/
structure AcceptedUpdate.Settled (entry : AcceptedUpdate) : Prop where
  completed : entry.row.state = .completed → entry.row.overall.percent = some fullPercent
  completedAt : entry.row.completedAt.isSome = true ↔ entry.row.state.isTerminal = true

theorem settled_project (existing : OperationProgress) (created : Bool) (call : ProgressCall)
    (revision : Nat) (now : Int) :
    AcceptedUpdate.Settled ⟨call, existing.project created call.update revision now⟩ where
  completed := nextOverall_completed
  completedAt := by
    simp only [OperationProgress.project]
    cases call.update.state.isTerminal <;> simp

theorem settled_of_accepted (row : Option OperationProgress) (call : ProgressCall)
    (after : OperationProgress)
    (accepted : publishOperationProgress row call.update call.clock = .ok (after, true)) :
    AcceptedUpdate.Settled ⟨call, after⟩ := by
  cases row with
  | none =>
    obtain ⟨revision, -, rfl⟩ := publish_created accepted
    exact settled_project _ _ _ _ _
  | some existing =>
    obtain ⟨-, revision, -, -, rfl⟩ := publish_accepted_iff.1 accepted
    exact settled_project _ _ _ _ _

/-- The next update does not restart an operation that is over. -/
def SameRun (prior next : AcceptedUpdate) : Prop :=
  prior.row.GoesOn next.call.update

instance : DecidableRel SameRun := fun prior next =>
  inferInstanceAs (Decidable (prior.row.state.isTerminal = true →
    next.call.update.state.isTerminal = true))

/-- Where both rows have a percentage, that of the second is at least that of the first. -/
def PercentLe (prior next : AcceptedUpdate) : Prop :=
  ∀ percent later, prior.row.overall.percent = some percent →
    next.row.overall.percent = some later → percent ≤ later

/-- What is to hold of a sequence of updates of one operation: the row is that of the last accepted
one and what is rejected changes nothing, revisions increase, event times do not decrease, the percentages that the rows of one run show do
not decrease, whatever lies between them, and each row says what its state says. -/
structure Projects (calls : List ProgressCall) : Prop where
  row : rowAfter none calls = (acceptedUpdates none calls).getLast?.map AcceptedUpdate.row
  rejected : ∀ before call after, calls = before ++ call :: after → ∀ left,
    publishOperationProgress (rowAfter none before) call.update call.clock = .ok (left, false) →
      rowAfter none before = some left
  revisions : (acceptedUpdates none calls).Pairwise
    fun prior next => prior.row.revision < next.row.revision
  times : (acceptedUpdates none calls).Pairwise
    fun prior next => prior.row.lastEventAt ≤ next.row.lastEventAt
  percentages : ∀ run, run <:+: acceptedUpdates none calls → run.IsChain SameRun →
    run.Pairwise PercentLe
  settled : ∀ entry ∈ acceptedUpdates none calls, entry.Settled

/-- An update that is accepted after others without taking anything back: where it has no event
time, the clock is not behind the row, and where the clamp does not cover it, its own percentage
is not less than any that its run has shown. -/
structure KeepsUp (before : List AcceptedUpdate) (call : ProgressCall) : Prop where
  time : ∀ prior ∈ before.getLast?, call.update.eventAt = none →
    prior.row.lastEventAt ≤ call.clock
  percentage : ∀ run prior, run ++ [prior] <:+ before → (run ++ [prior]).IsChain SameRun →
    prior.row.GoesOn call.update → prior.row.Unclamped call.update →
      ∀ shown ∈ run ++ [prior], ∀ percent own, shown.row.overall.percent = some percent →
        (normalizeMeasure call.update.overall).percent = some own → percent ≤ own

instance : Trans (fun prior next : AcceptedUpdate => prior.row.revision < next.row.revision)
    (fun prior next : AcceptedUpdate => prior.row.revision < next.row.revision)
    (fun prior next : AcceptedUpdate => prior.row.revision < next.row.revision) where
  trans := Nat.lt_trans

instance : Trans (fun prior next : AcceptedUpdate => prior.row.lastEventAt ≤ next.row.lastEventAt)
    (fun prior next : AcceptedUpdate => prior.row.lastEventAt ≤ next.row.lastEventAt)
    (fun prior next : AcceptedUpdate => prior.row.lastEventAt ≤ next.row.lastEventAt) where
  trans := Int.le_trans

/-- One update published on the row of another. -/
def Published (prior next : AcceptedUpdate) : Prop :=
  publishOperationProgress (some prior.row) next.call.update next.call.clock = .ok (next.row, true)

variable {calls : List ProgressCall} {prior next : AcceptedUpdate}
  {run before : List AcceptedUpdate}

theorem published_of_within (part : [prior, next] <:+: acceptedUpdates none calls) :
    Published prior next := by
  have whole := isChain_acceptedUpdates (R := Published) (fun _ _ _ accepted => accepted) calls
  have chain := List.IsChain.infix whole part
  exact (isChain_cons_cons.1 chain).1

theorem Published.lastEventAt (published : Published prior next) :
    next.row.lastEventAt = next.call.update.eventAt.getD next.call.clock := by
  obtain ⟨-, revision, -, -, same⟩ := publish_accepted_iff.1 published
  rw [same]
  rfl

theorem Published.overall (published : Published prior next) :
    next.row.overall = prior.row.nextOverall false next.call.update := by
  obtain ⟨-, revision, -, -, same⟩ := publish_accepted_iff.1 published
  rw [same]
  rfl

theorem Published.revision_lt (published : Published prior next) :
    prior.row.revision < next.row.revision := by
  obtain ⟨-, revision, -, newer, same⟩ := publish_accepted_iff.1 published
  rw [same]
  exact newer

/-- Only an update without an event time can be behind the row. -/
theorem Published.lastEventAt_le (published : Published prior next)
    (timely : next.call.update.eventAt = none → prior.row.lastEventAt ≤ next.call.clock) :
    prior.row.lastEventAt ≤ next.row.lastEventAt := by
  rw [published.lastEventAt]
  obtain ⟨follows, -⟩ := publish_accepted_iff.1 published
  cases given : next.call.update.eventAt with
  | none => exact timely given
  | some time => exact follows time given

/-- The last two of a list that is a part of another one. -/
theorem pair_within {accepted : List AcceptedUpdate}
    (part : (run ++ [prior]) ++ [next] <:+: accepted) : [prior, next] <:+: accepted := by
  rw [append_assoc] at part
  exact (suffix_append run [prior, next]).isInfix.trans part

/-- The percentages of a run go on not to decrease with one more update that keeps up. -/
theorem percentLe_of_keepsUp (published : Published prior next)
    (earlier : (run ++ [prior]).Pairwise PercentLe) (sameRun : SameRun prior next)
    (keepsUp : prior.row.Unclamped next.call.update → ∀ shown ∈ run ++ [prior],
      ∀ percent own, shown.row.overall.percent = some percent →
        (normalizeMeasure next.call.update.overall).percent = some own → percent ≤ own) :
    ∀ shown ∈ run ++ [prior], PercentLe shown next := by
  intro shown member percent later atShown atNext
  rw [published.overall] at atNext
  by_cases unclamped : prior.row.Unclamped next.call.update
  · rw [nextOverall_unclamped unclamped] at atNext
    exact keepsUp unclamped shown member percent later atShown atNext
  · rcases le_nextOverall unclamped sameRun atNext with completed | ⟨last, stored, le⟩
    · rw [nextOverall_completed completed] at atNext
      cases atNext
      exact le_fullPercent percent
    · have upToLast : percent ≤ last := by
        rcases mem_append.1 member with inRun | isLast
        · exact (pairwise_append.1 earlier).2.2 shown inRun prior mem_cons_self
            percent last atShown stored
        · rw [mem_singleton.1 isLast] at atShown
          cases atShown.symm.trans stored
          exact le_rfl
      exact upToLast.trans le

/-- A part of the accepted updates that ends with one of them follows updates that were accepted
before. -/
theorem suffix_of_infix {entry : AcceptedUpdate} {accepted : List AcceptedUpdate}
    (part : run ++ [entry] <:+: accepted) :
    ∃ before after, accepted = before ++ entry :: after ∧ run <:+ before := by
  obtain ⟨front, back, same⟩ := part
  refine ⟨front ++ run, back, ?_, suffix_append front run⟩
  rw [← same]
  simp

/-- Where every accepted update keeps up, the percentages of a run do not decrease. -/
theorem percentages_of_keepsUp
    (keepsUp : ∀ before entry after, acceptedUpdates none calls = before ++ entry :: after →
      KeepsUp before entry.call)
    (part : run <:+: acceptedUpdates none calls) (chain : run.IsChain SameRun) :
    run.Pairwise PercentLe := by
  induction run using List.reverseRecOn with
  | nil => exact .nil
  | append_singleton front next ih =>
    have smaller : front <:+: acceptedUpdates none calls :=
      (prefix_append front [next]).isInfix.trans part
    have earlier := ih smaller chain.left_of_append
    rw [pairwise_append]
    refine ⟨earlier, pairwise_singleton _ _, fun shown member other only => ?_⟩
    rw [mem_singleton.1 only]
    rcases eq_nil_or_concat front with rfl | ⟨run, prior, rfl⟩
    · cases member
    · rw [concat_eq_append] at *
      have sameRun : SameRun prior next := by
        have last := chain
        rw [append_assoc] at last
        exact (isChain_cons_cons.1 last.right_of_append).1
      obtain ⟨before, after, whole, suffix⟩ := suffix_of_infix part
      refine percentLe_of_keepsUp (published_of_within (pair_within part)) earlier sameRun ?_ shown
        member
      exact (keepsUp before next after whole).percentage run prior suffix chain.left_of_append
        sameRun

/-- A sequence of updates is projected as it is to be, if and only if every update that is accepted
keeps up with those before. -/
theorem projects_iff (calls : List ProgressCall) :
    Projects calls ↔ ∀ before entry after, acceptedUpdates none calls = before ++ entry :: after →
      KeepsUp before entry.call := by
  constructor
  · intro projects before entry after whole
    have times := projects.times
    refine ⟨fun prior last untimed => ?_, fun run prior suffix chain goesOn unclamped => ?_⟩
    · obtain ⟨front, rfl⟩ := List.getLast?_eq_some_iff.1 last
      have pair : [prior, entry] <:+: acceptedUpdates none calls := by
        rw [whole]
        exact ⟨front, after, by simp⟩
      have le : prior.row.lastEventAt ≤ entry.row.lastEventAt := by
        rw [whole] at times
        exact (pairwise_append.1 times).2.2 prior (by simp) entry mem_cons_self
      rwa [(published_of_within pair).lastEventAt, untimed] at le
    · obtain ⟨front, rfl⟩ := suffix
      have part : (run ++ [prior]) ++ [entry] <:+: acceptedUpdates none calls := by
        rw [whole]
        exact ⟨front, after, by simp⟩
      have longer : ((run ++ [prior]) ++ [entry]).IsChain SameRun := by
        rw [append_assoc]
        exact isChain_append_cons_cons.2 ⟨chain, goesOn, .singleton entry⟩
      have pairwise := projects.percentages _ part longer
      intro shown member percent own atShown atNext
      refine (pairwise_append.1 pairwise).2.2 shown member entry mem_cons_self percent own
        atShown ?_
      rw [(published_of_within (pair_within part)).overall, nextOverall_unclamped unclamped]
      exact atNext
  · intro keepsUp
    refine ⟨?_, ?_, ?_, ?_, fun run part chain => percentages_of_keepsUp keepsUp part chain, ?_⟩
    · rw [rowAfter_eq, Option.or_none]
    · intro _ _ _ _ left rejected
      exact publish_rejected rejected
    · apply List.IsChain.pairwise
      apply isChain_acceptedUpdates
      intro prior call after accepted
      have published : Published prior ⟨call, after⟩ := accepted
      exact published.revision_lt
    · apply List.IsChain.pairwise
      rw [isChain_iff_forall_rel_of_append_cons_cons]
      intro prior next front back whole
      have pair : [prior, next] <:+: acceptedUpdates none calls := by
        rw [whole]
        exact ⟨front, back, by simp⟩
      refine (published_of_within pair).lastEventAt_le fun untimed => ?_
      exact (keepsUp (front ++ [prior]) next back (by simp [whole])).time prior (by simp) untimed
    · exact forall_acceptedUpdates settled_of_accepted none calls

/-- A running update of one operation. -/
def runningAt (revision : Int) (percent : Option Rat) : ProgressCall where
  update :=
    { revision := some revision, state := .running, phase := "importing", title := "Folder import"
      overall := { percent := percent.map .finite } }
  clock := revision

/-- The same operation, failed. -/
def failedAt (revision : Int) (percent : Rat) : ProgressCall :=
  { runningAt revision (some percent) with
    update := { (runningAt revision (some percent)).update with state := .failed } }

/-- The percentages that the rows show. -/
def shown (calls : List ProgressCall) : List (Option Rat) :=
  (acceptedUpdates none calls).map fun entry => entry.row.overall.percent.map Subtype.val

/-- Where the rows of one run show a lesser percentage after a greater one, they are not projected as
they are to be. -/
theorem not_projects {calls : List ProgressCall} {early late : Rat}
    (sameRun : (acceptedUpdates none calls).IsChain SameRun) (taken : late < early)
    (part : [some early, some late].Sublist (shown calls)) : ¬ Projects calls := by
  intro projects
  have pairwise := (projects.percentages _ infix_rfl sameRun).map
    (fun entry : AcceptedUpdate => entry.row.overall.percent.map Subtype.val)
    (S := fun prior next : Option Rat => ∀ percent later, prior = some percent → next = some later →
      percent ≤ later) ?_
  · have two := pairwise.sublist part
    have le := (pairwise_cons.1 two).1 (some late) mem_cons_self early late rfl rfl
    exact absurd le (not_le.2 taken)
  · intro prior next le percent later atPrior atNext
    obtain ⟨one, shownOne, rfl⟩ := Option.map_eq_some_iff.1 atPrior
    obtain ⟨two, shownTwo, rfl⟩ := Option.map_eq_some_iff.1 atNext
    exact le one two shownOne shownTwo

/-- Sixty percent, then none, then twenty: an update without a percentage takes away what the clamp
compares with. So does a failure that reports less. -/
theorem percentage_taken_back :
    ¬ Projects [runningAt 1 (some 60), runningAt 2 none, runningAt 3 (some 20)] ∧
      ¬ Projects [runningAt 1 (some 60), failedAt 2 30] := by
  constructor
  · exact @not_projects _ 60 20 (by decide +kernel) (by norm_num) (by decide +kernel)
  · exact @not_projects _ 60 30 (by decide +kernel) (by norm_num) (by decide +kernel)

end Pullbox.Progress
