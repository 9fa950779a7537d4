import Pullbox.Utility.Sound

/-!
# Queue positions

Queued jobs have distinct positions that follow the order of their arrival, resumed jobs
before fresh ones. Positions are given up with the state `QUEUED`, but for a job that fails
for want of an executor.
-/

namespace Pullbox.Utility

open Durable List Nat Option

/-- One job is to be dispatched before another: a resumed job before a fresh one, and
otherwise the one that entered the queue first. -/
def System.Ahead (system : System) (left right : RowId) : Prop :=
  (left ∈ system.resumed ∧ right ∉ system.resumed) ∨
    ((left ∈ system.resumed ↔ right ∈ system.resumed) ∧
      system.arrived left < system.arrived right)

/-- The queued jobs stand in line. -/
structure InLine (system : System) : Prop where
  arrived : ∀ job ∈ system.jobs, job.state = .queued → system.arrived job.id < system.turn
  distinct : ∀ left ∈ system.jobs, ∀ right ∈ system.jobs, left.state = .queued →
    right.state = .queued → left.id ≠ right.id →
    system.arrived left.id ≠ system.arrived right.id
  /-- A resumed job has a start time, and a queued job with one was resumed. -/
  resumed : ∀ job ∈ system.jobs, job.id ∈ system.resumed → job.startedAt.isSome
  started : ∀ job ∈ system.jobs, job.state = .queued → job.startedAt.isSome →
    job.id ∈ system.resumed
  resumedIssued : ∀ id ∈ system.resumed, id ∈ system.issued
  positioned : ∀ job ∈ system.jobs, job.state = .queued → job.queuePosition.isSome
  ordered : ∀ left ∈ system.jobs, ∀ right ∈ system.jobs, left.state = .queued →
    right.state = .queued → system.Ahead left.id right.id →
    ∀ first second, left.queuePosition = some first → right.queuePosition = some second →
      first < second

namespace System.Ahead

variable {system : System} {left right : RowId}

theorem total (distinct : system.arrived left ≠ system.arrived right) :
    system.Ahead left right ∨ system.Ahead right left := by
  by_cases first : left ∈ system.resumed
  · by_cases second : right ∈ system.resumed
    · rcases lt_or_gt_of_ne distinct with earlier | later
      · exact .inl (.inr ⟨by simp [first, second], earlier⟩)
      · exact .inr (.inr ⟨by simp [first, second], later⟩)
    · exact .inl (.inl ⟨first, second⟩)
  · by_cases second : right ∈ system.resumed
    · exact .inr (.inl ⟨second, first⟩)
    · rcases lt_or_gt_of_ne distinct with earlier | later
      · exact .inl (.inr ⟨by simp [first, second], earlier⟩)
      · exact .inr (.inr ⟨by simp [first, second], later⟩)

theorem asymm (ahead : system.Ahead left right) : ¬ system.Ahead right left := by
  rintro (⟨second, first⟩ | ⟨same, later⟩)
  · rcases ahead with ⟨resumed, _⟩ | ⟨same, _⟩
    · exact first resumed
    · exact first (same.2 second)
  · rcases ahead with ⟨resumed, fresh⟩ | ⟨_, earlier⟩
    · exact fresh (same.2 resumed)
    · omega

end System.Ahead

theorem le_max?_of_mem {positions : List Nat} {position : Nat} (member : position ∈ positions) :
    ∃ last, positions.max? = some last ∧ position ≤ last := by
  cases found : positions.max? with
  | none =>
    rw [List.max?_eq_none_iff] at found
    simp [found] at member
  | some last => exact ⟨last, rfl, (List.max?_eq_some_iff.1 found).2 position member⟩

variable {jobs : Jobs} {job : UtilityJob}

/-- The next position is behind every queued job. -/
theorem lt_nextQueuePosition {position : Nat}
    (member : job ∈ jobs) (queued : job.state = .queued)
    (placed : job.queuePosition = some position) : position < nextQueuePosition jobs := by
  have listed : position ∈ jobs.queued.filterMap UtilityJob.queuePosition :=
    mem_filterMap.2 ⟨job, mem_filter.2 ⟨member, by simpa using queued⟩, placed⟩
  obtain ⟨last, found, le⟩ := le_max?_of_mem listed
  rw [nextQueuePosition, found]
  exact lt_succ_of_le le

/-! ### The order of the queue -/

instance : Std.Total fun left right : UtilityJob => left.dispatchKey ≤ right.dispatchKey :=
  ⟨fun _ _ => le_total _ _⟩

instance : IsTrans UtilityJob fun left right => left.dispatchKey ≤ right.dispatchKey :=
  ⟨fun _ _ _ => le_trans⟩

theorem dispatchKey_lt {left right : UtilityJob} {first second : Nat}
    (leftPlaced : left.queuePosition = some first)
    (rightPlaced : right.queuePosition = some second) (lt : first < second) :
    left.dispatchKey < right.dispatchKey := by
  unfold UtilityJob.dispatchKey
  rw [Prod.Lex.toLex_lt_toLex, leftPlaced, rightPlaced]
  exact .inl (succ_lt_succ lt)

/-- The queue in dispatch order is the line. -/
theorem InLine.pairwise {system : System} (line : InLine system)
    (rows : system.jobs.Distinct) :
    (queuedJobsInOrder system.jobs).Pairwise fun left right =>
      system.Ahead left.id right.id := by
  have sorted : (queuedJobsInOrder system.jobs).Pairwise fun left right =>
      left.dispatchKey ≤ right.dispatchKey := pairwise_insertionSort _ _
  have different : (queuedJobsInOrder system.jobs).Pairwise fun left right =>
      left.id ≠ right.id := by
    have perm : (queuedJobsInOrder system.jobs).Perm system.jobs.queued :=
      perm_insertionSort _ _
    have queued : (system.jobs.queued.map UtilityJob.id).Nodup :=
      rows.sublist ((filter_sublist).map _)
    exact pairwise_map.1 ((perm.map UtilityJob.id).nodup_iff.2 queued)
  refine (sorted.and different).imp_of_mem ?_
  rintro left right leftMember rightMember ⟨le, other⟩
  obtain ⟨leftPresent, leftQueued⟩ := mem_queuedJobsInOrder.1 leftMember
  obtain ⟨rightPresent, rightQueued⟩ := mem_queuedJobsInOrder.1 rightMember
  have arrivals := line.distinct left leftPresent right rightPresent leftQueued rightQueued other
  refine (System.Ahead.total arrivals).resolve_right fun behind => ?_
  obtain ⟨first, leftPlaced⟩ := isSome_iff_exists.1 (line.positioned left leftPresent leftQueued)
  obtain ⟨second, rightPlaced⟩ :=
    isSome_iff_exists.1 (line.positioned right rightPresent rightQueued)
  have lt := line.ordered right rightPresent left leftPresent rightQueued leftQueued behind
    second first rightPlaced leftPlaced
  exact absurd le (not_le_of_gt (dispatchKey_lt rightPlaced leftPlaced lt))

/-- In a list whose pairs are related, a pair that is related the other way round is in
order. -/
theorem idxOf_lt_of_pairwise {ids : List RowId} {related : RowId → RowId → Prop}
    (pairwise : ids.Pairwise related) (asymm : ∀ left right, related left right →
      ¬ related right left) {left right : RowId} (leftMember : left ∈ ids)
    (rightMember : right ∈ ids) (ahead : related left right) :
    ids.idxOf left < ids.idxOf right := by
  by_contra behind
  rcases lt_or_eq_of_le (Nat.not_lt.1 behind) with lt | same
  · have bound := idxOf_lt_length_of_mem leftMember
    have back := pairwise_iff_getElem.1 pairwise _ _ (lt.trans bound) bound lt
    rw [getElem_idxOf, getElem_idxOf] at back
    exact asymm _ _ ahead back
  · obtain rfl := (idxOf_inj rightMember).1 same
    exact asymm _ _ ahead ahead

/-! ### Steps -/

section Steps

variable {system after : System} {event : Event}

/-- A row that is queued after a change that is no resume was queued before. -/
theorem Kept.queued (kept : Kept system event jobs)
    (noResume : ∀ id, event ≠ .resume id) {row : UtilityJob} (member : row ∈ jobs)
    (queued : row.state = .queued) :
    ∃ old ∈ system.jobs, old.id = row.id ∧ old.state = .queued ∧
      old.queuePosition = row.queuePosition ∧ old.startedAt = row.startedAt := by
  obtain ⟨old, present, changed⟩ := kept row member
  have same := changed.change.queued queued noResume
  refine ⟨old, present, changed.id.symm, ?_, ?_, ?_⟩
  · exact (congrArg Control.state same).symm.trans queued
  · exact (congrArg Control.queuePosition same).symm
  · exact (congrArg Control.startedAt same).symm

/-- The line stays when rows only leave it. -/
theorem InLine.keep (line : InLine system) (kept : Kept system event jobs)
    (noResume : ∀ id, event ≠ .resume id) : InLine { system with jobs := jobs } := by
  constructor
  · intro row member queued
    obtain ⟨old, present, named, state, _⟩ := kept.queued noResume member queued
    exact named ▸ line.arrived old present state
  · intro left leftMember right rightMember leftQueued rightQueued other
    obtain ⟨first, firstPresent, firstNamed, firstState, _⟩ :=
      kept.queued noResume leftMember leftQueued
    obtain ⟨second, secondPresent, secondNamed, secondState, _⟩ :=
      kept.queued noResume rightMember rightQueued
    rw [← firstNamed, ← secondNamed] at other ⊢
    exact line.distinct first firstPresent second secondPresent firstState secondState other
  · intro row member listed
    obtain ⟨old, present, changed⟩ := kept row member
    exact changed.change.startedAt_isSome (line.resumed old present (changed.id ▸ listed))
  · intro row member queued started
    obtain ⟨old, present, named, state, _, same⟩ := kept.queued noResume member queued
    exact named ▸ line.started old present state (same ▸ started)
  · exact line.resumedIssued
  · intro row member queued
    obtain ⟨old, present, _, state, same, _⟩ := kept.queued noResume member queued
    exact same ▸ line.positioned old present state
  · intro left leftMember right rightMember leftQueued rightQueued ahead first second
      leftPlaced rightPlaced
    obtain ⟨head, headPresent, headNamed, headState, headPlace, _⟩ :=
      kept.queued noResume leftMember leftQueued
    obtain ⟨tail, tailPresent, tailNamed, tailState, tailPlace, _⟩ :=
      kept.queued noResume rightMember rightQueued
    refine line.ordered head headPresent tail tailPresent headState tailState ?_ first second
      (headPlace.trans leftPlaced) (tailPlace.trans rightPlaced)
    rw [headNamed, tailNamed]
    exact ahead

/-- A new job goes to the end of the line. -/
theorem InLine.append (line : InLine system) (job : UtilityJob)
    (drawn : ∀ row ∈ system.jobs, row.id ∈ system.issued) (new : job.id ∉ system.issued)
    (control : job.control = ⟨.queued, some (nextQueuePosition system.jobs), none⟩) :
    InLine (({ system with jobs := system.jobs ++ [job] }.issue job.id).enqueue job.id) := by
  have fresh : job.id ∉ system.resumed := fun listed => new (line.resumedIssued _ listed)
  have other (row) (member : row ∈ system.jobs) : row.id ≠ job.id :=
    fun same => new (same ▸ drawn row member)
  have placed : job.queuePosition = some (nextQueuePosition system.jobs) :=
    congrArg Control.queuePosition control
  have unstarted : job.startedAt = none := congrArg Control.startedAt control
  have member (row) : row ∈ system.jobs ++ [job] ↔ row ∈ system.jobs ∨ row = job := by simp
  have arrivedOld (row) (present : row ∈ system.jobs) :
      (({ system with jobs := system.jobs ++ [job] }.issue job.id).enqueue job.id).arrived row.id =
        system.arrived row.id := if_neg (other row present)
  have arrivedNew :
      (({ system with jobs := system.jobs ++ [job] }.issue job.id).enqueue job.id).arrived job.id =
        system.turn := if_pos rfl
  constructor
  · intro row present queued
    rcases (member row).1 present with old | rfl
    · rw [arrivedOld row old]
      exact lt_succ_of_lt (line.arrived row old queued)
    · rw [arrivedNew]
      exact lt_succ_self _
  · intro left leftMember right rightMember leftQueued rightQueued different
    rcases (member left).1 leftMember with leftOld | rfl <;>
      rcases (member right).1 rightMember with rightOld | rfl
    · rw [arrivedOld left leftOld, arrivedOld right rightOld]
      exact line.distinct left leftOld right rightOld leftQueued rightQueued different
    · rw [arrivedOld left leftOld, arrivedNew]
      exact Nat.ne_of_lt (line.arrived left leftOld leftQueued)
    · rw [arrivedOld right rightOld, arrivedNew]
      exact (Nat.ne_of_lt (line.arrived right rightOld rightQueued)).symm
    · exact absurd rfl different
  · intro row present listed
    rcases (member row).1 present with old | rfl
    · exact line.resumed row old listed
    · exact absurd listed fresh
  · intro row present queued started
    rcases (member row).1 present with old | rfl
    · exact line.started row old queued started
    · simp [unstarted] at started
  · intro id listed
    exact mem_cons_of_mem _ (line.resumedIssued id listed)
  · intro row present queued
    rcases (member row).1 present with old | rfl
    · exact line.positioned row old queued
    · simp [placed]
  · intro left leftMember right rightMember leftQueued rightQueued ahead first second
      leftPlaced rightPlaced
    rcases (member left).1 leftMember with leftOld | rfl
    · rcases (member right).1 rightMember with rightOld | rfl
      · refine line.ordered left leftOld right rightOld leftQueued rightQueued ?_ first second
          leftPlaced rightPlaced
        unfold System.Ahead at ahead ⊢
        rwa [arrivedOld left leftOld, arrivedOld right rightOld] at ahead
      · obtain rfl := Option.some.inj (placed.symm.trans rightPlaced)
        exact lt_nextQueuePosition leftOld leftQueued leftPlaced
    · -- nothing is behind the new job
      exfalso
      rcases ahead with ⟨listed, _⟩ | ⟨_, earlier⟩
      · exact fresh listed
      · rcases (member right).1 rightMember with rightOld | rfl
        · rw [arrivedNew, arrivedOld right rightOld] at earlier
          have := line.arrived right rightOld rightQueued
          omega
        · exact lt_irrefl _ earlier

/-- A resumed job goes behind the resumed jobs in line, and before the fresh ones. -/
theorem InLine.pairwise_resumeOrder (line : InLine system) (sound : Sound system)
    (member : job ∈ system.jobs) (paused : job.state = .paused) :
    ((resumeOrder system.jobs job).map UtilityJob.id).Pairwise
      (System.acceptResume job.id { system with jobs := jobs }).Ahead := by
  have other (row) (present : row ∈ system.jobs) (queued : row.state = .queued) :
      row.id ≠ job.id := by
    intro same
    obtain rfl := sound.distinct.eq present member same
    simp [paused] at queued
  have queuedOf (row) (listed : row ∈ queuedJobsInOrder system.jobs) :
      row ∈ system.jobs ∧ row.state = .queued := mem_queuedJobsInOrder.1 listed
  have kept : (queuedJobsInOrder system.jobs).Pairwise fun left right =>
      (System.acceptResume job.id { system with jobs := jobs }).Ahead left.id right.id := by
    refine (line.pairwise sound.distinct).imp_of_mem ?_
    intro left right leftMember rightMember ahead
    obtain ⟨leftPresent, leftQueued⟩ := queuedOf left leftMember
    obtain ⟨rightPresent, rightQueued⟩ := queuedOf right rightMember
    simpa [System.Ahead, System.acceptResume, System.enqueue, other left leftPresent leftQueued,
      other right rightPresent rightQueued] using ahead
  rw [pairwise_map, resumeOrder, buildResumeQueueOrder, pairwise_append,
    pairwise_cons]
  refine ⟨kept.filter _, ⟨?_, kept.filter _⟩, ?_⟩
  · -- fresh jobs are behind the resumed one
    intro row listed
    obtain ⟨listed, unstarted⟩ := mem_filter.1 listed
    obtain ⟨present, queued⟩ := queuedOf row listed
    refine .inl ⟨mem_cons_self, fun resumed => ?_⟩
    rcases mem_cons.1 resumed with same | resumed
    · exact other row present queued same
    · have started := line.resumed row present resumed
      rw [isNone_iff_eq_none.1 unstarted] at started
      cases started
  · intro row listed behind behindMember
    obtain ⟨listed, started⟩ := mem_filter.1 listed
    obtain ⟨present, queued⟩ := queuedOf row listed
    have resumed : row.id ∈ (System.acceptResume job.id { system with jobs := jobs }).resumed :=
      mem_cons_of_mem _ (line.started row present queued started)
    rcases mem_cons.1 behindMember with rfl | fresh
    · refine .inr ⟨iff_of_true resumed mem_cons_self, ?_⟩
      simpa [System.acceptResume, System.enqueue, UtilityJob.requeued,
        other row present queued] using line.arrived row present queued
    · obtain ⟨freshListed, unstarted⟩ := mem_filter.1 fresh
      obtain ⟨freshPresent, freshQueued⟩ := queuedOf behind freshListed
      refine .inl ⟨resumed, fun again => ?_⟩
      rcases mem_cons.1 again with same | again
      · exact other behind freshPresent freshQueued same
      · have freshStarted := line.resumed behind freshPresent again
        rw [isNone_iff_eq_none.1 unstarted] at freshStarted
        cases freshStarted

/-- The rows after a resume: a queued row stands where the new order has it. -/
theorem queued_of_resume {job row : UtilityJob}
    (member : row ∈ resequenceQueuedJobs (system.jobs.save job.requeued)
      (resumeOrder system.jobs job)) :
    ∃ source, (source = job.requeued ∨ source ∈ system.jobs ∧ source.id ≠ job.id) ∧
      row.id = source.id ∧ row.state = source.state ∧ row.startedAt = source.startedAt ∧
      (row.state = .queued →
        row.id ∈ (resumeOrder system.jobs job).map UtilityJob.id ∧ row.queuePosition =
          some (((resumeOrder system.jobs job).map UtilityJob.id).idxOf row.id)) := by
  obtain ⟨saved, inSaved, rfl⟩ := mem_map.1 member
  refine ⟨saved, ?_, ?_⟩
  · rcases Jobs.mem_save.1 inSaved with ⟨old, other⟩ | ⟨same, _⟩
    · exact .inr ⟨old, other⟩
    · exact .inl same
  · split_ifs with listed
    · exact ⟨rfl, rfl, rfl, fun _ => ⟨listed, rfl⟩⟩
    · refine ⟨rfl, rfl, rfl, fun queued => absurd ?_ listed⟩
      refine mem_map_of_mem (mem_resumeOrder.2 ?_)
      rcases Jobs.mem_save.1 inSaved with ⟨old, _⟩ | ⟨same, _⟩
      · exact .inr ⟨old, queued⟩
      · exact .inl same

theorem InLine.resume (line : InLine system) (sound : Sound system)
    (member : job ∈ system.jobs) (paused : job.state = .paused) :
    InLine (System.acceptResume job.id { system with
      jobs := resequenceQueuedJobs (system.jobs.save job.requeued)
        (resumeOrder system.jobs job) }) := by
  have started : job.startedAt.isSome := sound.started job member (by simp [paused])
  constructor
  · intro row present queued
    obtain ⟨source, origin, named, state, _⟩ := queued_of_resume present
    rcases origin with rfl | ⟨old, other⟩
    · simp [System.acceptResume, System.enqueue, named, UtilityJob.requeued]
    · have earlier := line.arrived source old (state.symm.trans queued)
      simp only [System.acceptResume, System.enqueue, named, if_neg other]
      omega
  · intro left leftMember right rightMember leftQueued rightQueued different
    obtain ⟨first, firstOrigin, firstNamed, firstState, _⟩ := queued_of_resume leftMember
    obtain ⟨second, secondOrigin, secondNamed, secondState, _⟩ := queued_of_resume rightMember
    rw [firstNamed, secondNamed] at different ⊢
    simp only [System.acceptResume, System.enqueue]
    rcases firstOrigin with rfl | ⟨firstOld, firstOther⟩ <;>
      rcases secondOrigin with rfl | ⟨secondOld, secondOther⟩
    · exact absurd rfl different
    · have earlier := line.arrived second secondOld (secondState.symm.trans rightQueued)
      rw [if_pos job.requeued_id, if_neg secondOther]
      omega
    · have earlier := line.arrived first firstOld (firstState.symm.trans leftQueued)
      rw [if_pos job.requeued_id, if_neg firstOther]
      omega
    · rw [if_neg firstOther, if_neg secondOther]
      exact line.distinct first firstOld second secondOld (firstState.symm.trans leftQueued)
        (secondState.symm.trans rightQueued) different
  · intro row present listed
    obtain ⟨source, origin, named, _, same, _⟩ := queued_of_resume present
    rw [same]
    rcases origin with rfl | ⟨old, other⟩
    · exact started
    · rcases mem_cons.1 listed with again | listed
      · exact absurd (named.symm.trans again) other
      · exact line.resumed source old (named ▸ listed)
  · intro row present queued begun
    obtain ⟨source, origin, named, state, same, _⟩ := queued_of_resume present
    rw [named]
    rcases origin with rfl | ⟨old, other⟩
    · exact mem_cons_self
    · exact mem_cons_of_mem _
        (line.started source old (state.symm.trans queued) (same ▸ begun))
  · intro id listed
    rcases mem_cons.1 listed with rfl | listed
    · exact sound.issued job member
    · exact line.resumedIssued id listed
  · intro row present queued
    obtain ⟨_, _, _, _, _, placed⟩ := queued_of_resume present
    simp [(placed queued).2]
  · intro left leftMember right rightMember leftQueued rightQueued ahead first second
      leftPlaced rightPlaced
    obtain ⟨_, _, _, _, _, leftPlace⟩ := queued_of_resume leftMember
    obtain ⟨_, _, _, _, _, rightPlace⟩ := queued_of_resume rightMember
    obtain ⟨leftListed, leftIndex⟩ := leftPlace leftQueued
    obtain ⟨rightListed, rightIndex⟩ := rightPlace rightQueued
    obtain rfl := Option.some.inj (leftIndex.symm.trans leftPlaced)
    obtain rfl := Option.some.inj (rightIndex.symm.trans rightPlaced)
    exact idxOf_lt_of_pairwise (line.pairwise_resumeOrder sound member paused)
      (fun _ _ ahead => ahead.asymm) leftListed rightListed ahead

/-- The line is a matter of the table and the arrivals. -/
theorem InLine.congr (line : InLine system) (jobs : after.jobs = system.jobs)
    (arrived : after.arrived = system.arrived) (turn : after.turn = system.turn)
    (resumed : after.resumed = system.resumed) (issued : after.issued = system.issued) :
    InLine after := by
  obtain ⟨_, _, _, _, _, _, _, _, _, _⟩ := after
  simp only at jobs arrived turn resumed issued
  subst jobs arrived turn resumed issued
  exact ⟨line.arrived, line.distinct, line.resumed, line.started, line.resumedIssued,
    line.positioned, line.ordered⟩

theorem InLine.dispatched (line : InLine system) (sound : Sound system)
    (transition : system.dispatched system.phase event = some after)
    (noResume : ∀ id, event ≠ .resume id) : InLine after := by
  have frame := Dispatches.of_dispatched transition
  have kept := line.keep (Kept.dispatched sound transition) noResume
  exact kept.congr rfl frame.arrived frame.turn frame.resumed frame.issued

/-- The line after a cancel, with the rollback job it may queue. -/
theorem InLine.cancel (line : InLine system) (sound : Sound system) {id : RowId}
    {rollback : Option RowId} {now : Timestamp} {table : Jobs}
    (drawn : ∀ child, rollback = some child → child ∉ system.issued)
    (accepted : cancelJob system.jobs id rollback now = .ok table) :
    InLine (System.acceptCancel id rollback { system with jobs := table }) := by
  obtain ⟨job, row, found, cancelled, rfl⟩ := cancelJob_ok accepted
  have saved : Kept system (.cancel id rollback now) (system.jobs.save row) :=
    .save found (.cancelled cancelled)
  have kept := line.keep saved nofun
  cases rollback with
  | none => exact kept.congr (by simp [System.acceptCancel]) rfl rfl rfl rfl
  | some child =>
    have issued : ∀ row' ∈ system.jobs.save row, row'.id ∈ system.issued := by
      intro other member
      obtain ⟨old, present, changed⟩ := saved other member
      exact changed.id ▸ sound.issued old present
    have queued := kept.append
      (buildRollbackJob row child (nextQueuePosition (system.jobs.save row)) now) issued
      (drawn child rfl) rfl
    exact queued.congr rfl rfl rfl rfl rfl

theorem InLine.step (line : InLine system) (sound : Sound system)
    (step : Step event system after) : InLine after := by
  cases event with
  | create id jobType displayName now =>
    simp only [Step, System.apply] at step
    split_ifs at step with drawn
    obtain rfl := Option.some.inj step
    exact line.append _ sound.issued drawn rfl
  | pause id now =>
    obtain rfl := Option.some.inj step
    cases accepted : pauseJob system.jobs id now with
    | error error => exact line
    | ok table =>
      have kept : Kept system (.pause id now) table := .pause accepted
      exact line.keep kept (by simp)
  | resume id =>
    obtain rfl := Option.some.inj step
    cases accepted : resumeJob system.jobs id with
    | error error => exact line
    | ok table =>
      obtain ⟨job, found, paused, rfl⟩ := resumeJob_ok accepted
      obtain ⟨member, rfl⟩ := Jobs.mem_of_get found
      exact line.resume sound member paused
  | cancel id rollback now =>
    simp only [Step, System.apply] at step
    split_ifs at step with drawn
    obtain rfl := Option.some.inj step
    cases accepted : cancelJob system.jobs id rollback now with
    | error error => exact line
    | ok table =>
      refine line.cancel sound ?_ accepted
      rintro child rfl
      simpa using drawn
  | queueRollback id child now =>
    simp only [Step, System.apply] at step
    split_ifs at step with drawn
    obtain rfl := Option.some.inj step
    cases accepted : queueRollbackJob system.jobs id child now with
    | error error => exact line
    | ok table =>
      obtain ⟨job, found, resting, rfl⟩ := queueRollbackJob_ok accepted
      exact line.append _ sound.issued drawn rfl
  | delete id =>
    obtain rfl := Option.some.inj step
    cases accepted : deleteJob system.jobs id with
    | error error => exact line
    | ok table =>
      have kept : Kept system (.delete id) table := .delete accepted
      exact line.keep kept (by simp)
  | clearHistory =>
    obtain rfl := Option.some.inj step
    have kept : Kept system .clearHistory (clearHistory system.jobs) := .without
    exact line.keep kept (by simp)
  | crash =>
    obtain rfl := Option.some.inj step
    exact line.congr rfl rfl rfl rfl rfl
  | recover now =>
    obtain ⟨_, rfl⟩ := ite_some_none_eq_some.1 step
    have kept : Kept system (.recover now)
        (System.recoverInterruptedJobs system.jobs now) := .recover
    exact (line.keep kept (by simp)).congr rfl rfl rfl rfl rfl
  | _ =>
    exact line.dispatched sound step (by simp)

theorem Fresh.inLine (fresh : Fresh system) : InLine system := by
  obtain ⟨jobs, _, _, _, _, _, resumed⟩ := fresh
  constructor <;> simp [jobs, resumed]

/-- The positions follow the arrivals in every run. -/
theorem inLine_of_reachable {allowed : Event → System → Prop}
    (reachable : Reachable Fresh allowed Step system) : InLine system :=
  reachable.induction (fun _ fresh => fresh.inLine) fun _ _ _ prior line _ step =>
    line.step (sound_of_reachable prior) step

/-! ### Positions -/

/-- The dispatcher takes no job it has no executor for. -/
def Registered : Event → System → Prop
  | .start false _, system => System.loadNextDispatchCandidate system.jobs = none
  | _, _ => True

/-- Jobs that are not queued have no position. -/
def Unplaced (system : System) : Prop :=
  ∀ job ∈ system.jobs, job.state ≠ .queued → job.queuePosition = none

theorem Unplaced.step (unplaced : Unplaced system) (sound : Sound system)
    (registered : Registered event system) (step : Step event system after) :
    Unplaced after := by
  by_cases missing : ∃ now, event = .start false now
  · obtain ⟨now, rfl⟩ := missing
    have kept : after.jobs = system.jobs := by
      cases phase : system.phase with
      | selecting =>
        have started : system.startNext false now = after := by
          simpa [Step, System.apply, System.dispatched, phase] using step
        rw [← started, System.startNext, show System.loadNextDispatchCandidate system.jobs = none
          from registered]
      | _ => simp [Step, System.apply, System.dispatched, phase] at step
    rw [Unplaced, kept]
    exact unplaced
  · intro row member unqueued
    rcases rows_of_step sound step row member with ⟨old, present, changed⟩ | entered
    · exact changed.change.queuePosition (unplaced old present)
        (fun now same => missing ⟨now, same⟩) unqueued
    · obtain ⟨position, control⟩ := entered.control
      exact absurd (congrArg Control.state control) unqueued

theorem unplaced_of_reachable (reachable : Reachable Fresh Registered Step system) :
    Unplaced system := by
  refine reachable.induction ?_ fun _ _ _ prior unplaced registered step =>
    unplaced.step (sound_of_reachable prior) registered step
  intro system fresh job member
  simp [fresh.1] at member

/-- What queue positions are to say. -/
structure PositionsKept (system : System) : Prop where
  queued : ∀ job ∈ system.jobs, job.queuePosition.isSome ↔ job.state = .queued
  distinct : ∀ left ∈ system.jobs, ∀ right ∈ system.jobs, left.state = .queued →
    right.state = .queued → left.id ≠ right.id → left.queuePosition ≠ right.queuePosition
  /-- The job the dispatcher takes is ahead of every other queued job. -/
  taken : ∀ job, System.loadNextDispatchCandidate system.jobs = some job →
    ∀ other ∈ system.jobs, other.state = .queued → other.id ≠ job.id →
      system.Ahead job.id other.id

/-- In every run in which the dispatcher has an executor for each job it takes, positions are
those of the queued jobs, and the dispatcher follows them. -/
theorem positions_kept (reachable : Reachable Fresh Registered Step system) :
    PositionsKept system := by
  have line := inLine_of_reachable reachable
  have sound := sound_of_reachable reachable
  refine ⟨?_, ?_, ?_⟩
  · intro job member
    constructor
    · intro placed
      by_contra unqueued
      simp [unplaced_of_reachable reachable job member unqueued] at placed
    · exact line.positioned job member
  · intro left leftMember right rightMember leftQueued rightQueued other same
    obtain ⟨first, leftPlaced⟩ :=
      isSome_iff_exists.1 (line.positioned left leftMember leftQueued)
    have rightPlaced : right.queuePosition = some first := same ▸ leftPlaced
    have arrivals := line.distinct left leftMember right rightMember leftQueued rightQueued other
    rcases System.Ahead.total arrivals with ahead | behind
    · exact lt_irrefl _ (line.ordered left leftMember right rightMember leftQueued
        rightQueued ahead first first leftPlaced rightPlaced)
    · exact lt_irrefl _ (line.ordered right rightMember left leftMember rightQueued
        leftQueued behind first first rightPlaced leftPlaced)
  · intro job taken other member queued different
    unfold System.loadNextDispatchCandidate at taken
    split_ifs at taken
    have order := line.pairwise sound.distinct
    have listed := mem_queuedJobsInOrder.2 ⟨member, queued⟩
    cases found : queuedJobsInOrder system.jobs with
    | nil => simp [found] at taken
    | cons head rest =>
      rw [found] at taken order listed
      obtain rfl := Option.some.inj taken
      rcases mem_cons.1 listed with rfl | later
      · exact absurd rfl different
      · exact (pairwise_cons.1 order).1 other later

end Steps

/-- Two jobs, the first of which is paused and resumed. -/
def resumedRun : List Event :=
  [.create 1 .massRename "Rename" 1, .create 2 .fileConvert "Convert" 2, .dispatch,
    .start true 3, .load, .prepare [10] 1, .pause 1 4, .checkpoint 5, .finalize none 6,
    .resume 1]

theorem resumedRun_reachable : Reachable Fresh Registered Step (queueAfter resumedRun) := by
  refine queueAfter_reachable resumedRun ?_ (by decide)
  intro event member system
  simp only [resumedRun, mem_cons, not_mem_nil, or_false] at member
  rcases member with rfl | rfl | rfl | rfl | rfl | rfl | rfl | rfl | rfl | rfl <;> trivial

/-- The queue after a pause and a resume. -/
theorem positions_kept_resumedRun : PositionsKept (queueAfter resumedRun) :=
  positions_kept resumedRun_reachable

/-- A job whose type has no executor. -/
def unregisteredRun : List Event :=
  [.create 1 .massRename "Rename" 1, .dispatch, .start false 2]

/-- A job that fails for want of an executor keeps its position. -/
theorem position_left_unregisteredRun :
    Reachable Fresh (fun _ _ => True) Step (queueAfter unregisteredRun) ∧
      ¬ PositionsKept (queueAfter unregisteredRun) := by
  refine ⟨queueAfter_reachable unregisteredRun (fun _ _ _ => trivial) (by decide), ?_⟩
  intro kept
  have queued := kept.queued
  revert queued
  decide

end Pullbox.Utility
