import Pullbox.Airdcpp.Reconciliation

/-!
# Who owns a bundle

A pass looks up the owners of bundles once, before it writes. Two of its acquisitions that come
to the same bundle are therefore both taken for its owner, and the second write fails. Without
such a pair the pass succeeds, and every acquisition that came to a bundle owns it or is marked
as a duplicate of the one that does.
-/

namespace Pullbox.Airdcpp

open List Text

variable {before current after : AcquisitionTable} {answers : QueueAnswers} {now : Timestamp}
  {clientConfigId cursor : Nat} {snapshot : ActiveSnapshot} {context : PassContext}
  {row : AirDcppAcquisition}

/-! ### The page of a pass -/

theorem activeRows_nodup (table : AcquisitionTable) (clientConfigId : Nat) :
    ((activeRows table clientConfigId).map AirDcppAcquisition.id).Nodup := by
  unfold activeRows
  rw [((perm_insertionSort _ _).map _).nodup_iff]
  exact table.distinct.sublist (filter_sublist.map _)

/-- No acquisition stands twice in a page, also when the page goes past the last one. -/
theorem snapshots_nodup (table : AcquisitionTable) (clientConfigId cursor : Nat) :
    ((snapshots table clientConfigId cursor).map ActiveSnapshot.acquisitionId).Nodup := by
  have rows := activeRows_nodup table clientConfigId
  have part (keep : AirDcppAcquisition → Bool) (count : Nat) :
      ((((activeRows table clientConfigId).filter keep).take count).map
        AirDcppAcquisition.id).Nodup :=
    rows.sublist (((take_sublist _ _).trans filter_sublist).map _)
  have same : (snapshots table clientConfigId cursor).map ActiveSnapshot.acquisitionId =
      (pageRows table clientConfigId cursor).map AirDcppAcquisition.id := by
    rw [snapshots, map_map]
    rfl
  rw [same]
  unfold pageRows
  dsimp only
  split
  · rw [map_append, nodup_append]
    refine ⟨part _ _, part _ _, ?_⟩
    intro first firstIn second secondIn
    obtain ⟨later, laterIn, rfl⟩ := mem_map.1 firstIn
    obtain ⟨earlier, earlierIn, rfl⟩ := mem_map.1 secondIn
    have above := (mem_filter.1 (mem_of_mem_take laterIn)).2
    have below := (mem_filter.1 (mem_of_mem_take earlierIn)).2
    simp only [decide_eq_true_eq] at above below
    omega
  · exact part _ _

/-- Only acquisitions that were read without a bundle are asked about. -/
theorem bundleId_of_resolution {page : List ActiveSnapshot} {found : Resolution}
    (resolved : resolution answers now page snapshot = some found) :
    snapshot.bundleId = none := by
  unfold resolution at resolved
  obtain ⟨asked, _⟩ := Option.ite_none_right_eq_some.1 resolved
  simpa using (mem_filter.1 (mem_of_mem_take asked)).2

/-! ### What is written to one acquisition -/

/-- The bundle that was found for an acquisition. -/
def Resolution.bundleId : Resolution → Option Nat
  | .adopted file => some file.bundleId
  | .recovered mutation => some mutation.bundleId
  | .retryFailure _ => none

theorem applyAirdcppBundle_kept (acquisition : AirDcppAcquisition) (bundle : AirDcppQueueBundle)
    (at_ : Timestamp) :
    (applyAirdcppBundle acquisition bundle at_).1.id = acquisition.id ∧
      (applyAirdcppBundle acquisition bundle at_).1.ownedBundle = acquisition.ownedBundle := by
  unfold applyAirdcppBundle
  dsimp only
  split_ifs <;> exact ⟨rfl, rfl⟩

theorem applyPreIdRetryFailure_kept (acquisition : AirDcppAcquisition) (code : String)
    (at_ : Timestamp) :
    (applyPreIdRetryFailure acquisition code at_).id = acquisition.id ∧
      (applyPreIdRetryFailure acquisition code at_).ownedBundle = acquisition.ownedBundle := by
  unfold applyPreIdRetryFailure
  dsimp only
  split_ifs <;> exact ⟨rfl, rfl⟩

theorem applyMissingBundle_kept (acquisition : AirDcppAcquisition) (at_ : Timestamp) :
    (applyMissingBundle acquisition at_).1.id = acquisition.id ∧
      (applyMissingBundle acquisition at_).1.ownedBundle = acquisition.ownedBundle := by
  unfold applyMissingBundle
  dsimp only
  split_ifs <;> exact ⟨rfl, rfl⟩

/-- The duplicate check either marks the acquisition or gives it the bundle. -/
theorem takeBundle_cases (context : PassContext) (snapshot : ActiveSnapshot)
    (row : AirDcppAcquisition) (bundleId : Nat) (taken : AirDcppAcquisition) :
    (∃ ownerId, context.existingOwner snapshot.clientIdentity bundleId = some ownerId ∧
      ownerId ≠ row.id ∧ (takeBundle context row snapshot bundleId taken).acquisition =
        applyExistingBundleOwner row ownerId context.now) ∨
    (context.existingOwner snapshot.clientIdentity bundleId = none ∨
        context.existingOwner snapshot.clientIdentity bundleId = some row.id) ∧
      (takeBundle context row snapshot bundleId taken).acquisition = taken := by
  unfold takeBundle
  cases owner : context.existingOwner snapshot.clientIdentity bundleId with
  | none => exact .inr ⟨.inl rfl, rfl⟩
  | some ownerId =>
    by_cases own : ownerId = row.id
    · subst own
      exact .inr ⟨.inr rfl, by simp⟩
    · exact .inl ⟨ownerId, rfl, own, by simp [own]⟩

/-- The bundle that an acquisition comes to, if it is still as it was read. -/
def PassContext.comesTo (context : PassContext) (snapshot : ActiveSnapshot)
    (row : AirDcppAcquisition) : Option Nat :=
  if activeSnapshotIsCurrent row snapshot then
    (context.resolution snapshot).bind Resolution.bundleId
  else none

/-- Acquisitions are asked about only when they were read without a bundle. -/
def PassContext.Asks (context : PassContext) : Prop :=
  ∀ snapshot found, context.resolution snapshot = some found → snapshot.bundleId = none

theorem bundleId_of_current (current : activeSnapshotIsCurrent row snapshot = true) :
    row.bundleId = snapshot.bundleId ∧ row.download.state.terminal = false := by
  simp only [activeSnapshotIsCurrent, Bool.and_eq_true, decide_eq_true_eq,
    Bool.not_eq_true'] at current
  exact ⟨current.1.1.2, current.1.1.1⟩

/-- What is written to an acquisition that comes to a bundle. -/
theorem applySnapshot_comesTo (asks : context.Asks) {bundleId : Nat}
    (comes : context.comesTo snapshot row = some bundleId) :
    row.bundleId = none ∧
      ((∃ ownerId, context.existingOwner snapshot.clientIdentity bundleId = some ownerId ∧
        ownerId ≠ row.id ∧ (applySnapshot context snapshot row).acquisition =
          applyExistingBundleOwner row ownerId context.now) ∨
      (context.existingOwner snapshot.clientIdentity bundleId = none ∨
          context.existingOwner snapshot.clientIdentity bundleId = some row.id) ∧
        (applySnapshot context snapshot row).acquisition.id = row.id ∧
        (applySnapshot context snapshot row).acquisition.ownedBundle =
          some (row.clientIdentity, bundleId)) := by
  unfold PassContext.comesTo at comes
  obtain ⟨current, comes⟩ := Option.ite_none_right_eq_some.1 comes
  obtain ⟨found, resolved, here⟩ := Option.bind_eq_some_iff.1 comes
  have unread := asks snapshot found resolved
  refine ⟨(bundleId_of_current current).1.trans unread, ?_⟩
  cases found with
  | adopted file =>
    cases here
    simp only [applySnapshot, unread, Option.bind_none, resolved, current, if_true]
    rcases takeBundle_cases context snapshot row file.bundleId
      (applyAdoptedFile row file context.now) with owned | ⟨free, taken⟩
    · exact .inl owned
    · exact .inr ⟨free, by rw [taken]; exact ⟨rfl, rfl⟩⟩
  | recovered mutation =>
    cases here
    simp only [applySnapshot, unread, Option.bind_none, resolved, current, if_true]
    rcases takeBundle_cases context snapshot row mutation.bundleId
      (applyRecoveredMutation row mutation context.now) with owned | ⟨free, taken⟩
    · exact .inl owned
    · exact .inr ⟨free, by rw [taken]; exact ⟨rfl, rfl⟩⟩
  | retryFailure code => cases here

/-- What is written to any other acquisition leaves its bundle as it is. -/
theorem applySnapshot_still (comes : context.comesTo snapshot row = none) :
    (applySnapshot context snapshot row).acquisition.id = row.id ∧
      (applySnapshot context snapshot row).acquisition.ownedBundle = row.ownedBundle := by
  unfold applySnapshot
  dsimp only
  split
  case h_1 bundle _ => exact applyAirdcppBundle_kept _ _ _
  case h_2 file _ resolved =>
    split
    · next current => simp [PassContext.comesTo, current, resolved, Resolution.bundleId] at comes
    · exact ⟨rfl, rfl⟩
  case h_3 mutation _ resolved =>
    split_ifs with current
    · simp [PassContext.comesTo, current, resolved, Resolution.bundleId] at comes
    · exact ⟨rfl, rfl⟩
    · exact ⟨rfl, rfl⟩
  case h_4 =>
    split_ifs
    · exact applyPreIdRetryFailure_kept _ _ _
    · exact ⟨rfl, rfl⟩
  case h_5 =>
    split_ifs
    · exact applyMissingBundle_kept _ _
    · exact ⟨rfl, rfl⟩

/-! ### A terminal download stays as it is -/

/-- A queue event, or what a pass reads of a bundle, never moves a terminal download. -/
theorem applyAirdcppBundle_terminal (bundle : AirDcppQueueBundle) (at_ : Timestamp)
    (terminal : row.download.state.terminal = true) :
    (applyAirdcppBundle row bundle at_).1.download.state = row.download.state := by
  have still : row.download.follows = false := by simp [DownloadHistory.follows, terminal]
  unfold applyAirdcppBundle
  simp only [still, Bool.false_eq_true, if_false]
  split_ifs <;> rfl

theorem applySnapshot_terminal (terminal : row.download.state.terminal = true) :
    (applySnapshot context snapshot row).acquisition.download.state = row.download.state := by
  have stale : activeSnapshotIsCurrent row snapshot = false := by
    simp [activeSnapshotIsCurrent, terminal]
  unfold applySnapshot
  dsimp only
  split
  case h_1 bundle _ => exact applyAirdcppBundle_terminal bundle _ terminal
  all_goals
    simp only [stale, Bool.and_false, Bool.false_eq_true, if_false]
    try split_ifs
    all_goals rfl

/-! ### The writes of a pass -/

/-- The bundle of a client that an acquisition is about to own. -/
def PassContext.newlyOwns (context : PassContext) (current : AcquisitionTable)
    (snapshot : ActiveSnapshot) : Option (String × Nat) :=
  (current.find snapshot.acquisitionId).bind fun row =>
    (context.comesTo snapshot row).bind fun bundleId =>
      if context.existingOwner snapshot.clientIdentity bundleId = none then
        some (row.clientIdentity, bundleId)
      else none

/-- The step of a snapshot. -/
def PassContext.step (context : PassContext) (snapshot : ActiveSnapshot) :
    Nat × (AirDcppAcquisition → AirDcppAcquisition) :=
  (snapshot.acquisitionId, fun row => (applySnapshot context snapshot row).acquisition)

theorem step_keeps (asks : context.Asks) : current.Keeps (context.step snapshot) := by
  intro row found
  cases comes : context.comesTo snapshot row with
  | none =>
    obtain ⟨named, kept⟩ := applySnapshot_still comes
    exact ⟨named, .inr kept⟩
  | some bundleId =>
    obtain ⟨nothing, written⟩ := applySnapshot_comesTo asks comes
    have unowned : row.ownedBundle = none := by
      rw [AirDcppAcquisition.ownedBundle, nothing]
      rfl
    rcases written with ⟨ownerId, _, _, duplicate⟩ | ⟨_, named, _⟩
    · refine ⟨?_, .inl unowned⟩
      change (applySnapshot context snapshot row).acquisition.id = row.id
      rw [duplicate]
      rfl
    · exact ⟨named, .inl unowned⟩

/-- The owners are rows of the table. -/
theorem existingOwner_eq_some {table : AcquisitionTable} {candidates : List (String × Nat)}
    {identity : String} {bundleId ownerId : Nat}
    (found : existingOwner table candidates identity bundleId = some ownerId) :
    ∃ owner ∈ table.rows, owner.id = ownerId ∧ owner.ownedBundle = some (identity, bundleId) := by
  obtain ⟨owner, here, rfl⟩ := Option.map_eq_some_iff.1 found
  have owns := List.find?_some here
  simp only [decide_eq_true_eq] at owns
  exact ⟨owner, mem_of_find?_eq_some here, rfl, owns.1⟩

/-- The owners a pass looks up are rows of the table it writes. -/
def PassContext.Loaded (context : PassContext) (current : AcquisitionTable) : Prop :=
  ∀ identity bundleId ownerId, context.existingOwner identity bundleId = some ownerId →
    ∃ owner ∈ current.rows, owner.id = ownerId ∧ owner.ownedBundle = some (identity, bundleId)

theorem gained_step (asks : context.Asks) (loaded : context.Loaded current) :
    current.gained (context.step snapshot) = context.newlyOwns current snapshot := by
  unfold Sql.UniqueTable.gained PassContext.newlyOwns PassContext.step
  cases found : current.find snapshot.acquisitionId with
  | none => rfl
  | some row =>
    simp only [Option.bind_some]
    cases comes : context.comesTo snapshot row with
    | none =>
      rw [(applySnapshot_still comes).2]
      simp
    | some bundleId =>
      obtain ⟨nothing, written⟩ := applySnapshot_comesTo asks comes
      have unowned : row.ownedBundle = none := by
        rw [AirDcppAcquisition.ownedBundle, nothing]
        rfl
      rw [if_pos unowned, Option.bind_some]
      rcases written with ⟨ownerId, owner, _, duplicate⟩ | ⟨free | own, _, owns⟩
      · rw [duplicate, owner, if_neg (Option.some_ne_none _)]
        exact unowned
      · rw [owns, if_pos free]
      · -- The row would own the bundle already.
        obtain ⟨owner, member, named, owns⟩ := loaded _ _ _ own
        have same : owner = row := inj_on_of_nodup_map current.distinct member
          (Sql.Table.mem_of_find found) named
        rw [same, unowned] at owns
        cases owns

/-- The acquisition is the owner of the bundle it came to, or marked as a duplicate of it. -/
def SettledAs (after : AcquisitionTable) (snapshot : ActiveSnapshot) (bundleId : Nat) : Prop :=
  ∃ last, after.find snapshot.acquisitionId = some last ∧
    (last.bundleId = some bundleId ∨
      last.clientState = some "duplicate" ∧ last.download.state = .failed ∧
        ∃ owner ∈ after.rows, owner.id ≠ last.id ∧
          owner.ownedBundle = some (snapshot.clientIdentity, bundleId))

section Pass

variable {page : List ActiveSnapshot}
  (distinct : (page.map ActiveSnapshot.acquisitionId).Nodup)

include distinct

theorem steps_nodup : ((page.map context.step).map Prod.fst).Nodup := by
  rw [map_map]
  exact distinct

/-- The row of a snapshot after the pass. -/
theorem find_snapshot (asks : context.Asks)
    (written : current.writeAll (page.map context.step) = some after) (member : snapshot ∈ page) :
    after.find snapshot.acquisitionId =
      (current.find snapshot.acquisitionId).map fun row =>
        (applySnapshot context snapshot row).acquisition := by
  have keeps : ∀ step ∈ page.map context.step, current.Keeps step := by
    intro step inside
    obtain ⟨snapshot, _, rfl⟩ := mem_map.1 inside
    exact step_keeps asks
  rw [Sql.UniqueTable.find_of_writeAll keeps (steps_nodup distinct) written]
  have first : (page.map context.step).find? (fun step => step.1 = snapshot.acquisitionId) =
      some (context.step snapshot) := by
    rw [List.find?_map]
    cases here : page.find? ((fun step : Nat × (AirDcppAcquisition → AirDcppAcquisition) =>
        decide (step.1 = snapshot.acquisitionId)) ∘ context.step) with
    | none =>
      have absent := List.find?_eq_none.1 here snapshot member
      simp [PassContext.step] at absent
    | some other =>
      have holds := List.find?_some here
      have named : other.acquisitionId = snapshot.acquisitionId := of_decide_eq_true holds
      have same : other = snapshot := inj_on_of_nodup_map distinct
        (mem_of_find?_eq_some here) member named
      rw [same]
      rfl
  rw [first]
  rfl

/-- What an acquisition came to is settled once the pass has been written. -/
theorem settled_of_written (asks : context.Asks) (loaded : context.Loaded current)
    (written : current.writeAll (page.map context.step) = some after) (member : snapshot ∈ page)
    (found : current.find snapshot.acquisitionId = some row) {bundleId : Nat}
    (comes : context.comesTo snapshot row = some bundleId) :
    SettledAs after snapshot bundleId := by
  have stands := find_snapshot distinct asks written member
  rw [found, Option.map_some] at stands
  obtain ⟨_, duplicate⟩ := applySnapshot_comesTo asks comes
  refine ⟨_, stands, ?_⟩
  rcases duplicate with ⟨ownerId, owner, other, same⟩ | ⟨_, _, owns⟩
  · right
    rw [same]
    obtain ⟨source, sourceIn, rfl, owns⟩ := loaded _ _ _ owner
    have keeps : ∀ step ∈ page.map context.step, current.Keeps step := by
      intro step inside
      obtain ⟨snapshot, _, rfl⟩ := mem_map.1 inside
      exact step_keeps asks
    obtain ⟨last, lastIn, named, kept⟩ :=
      Sql.UniqueTable.owned_of_writeAll keeps (steps_nodup distinct) written sourceIn owns
    exact ⟨rfl, rfl, last, lastIn, fun again => other (named.symm.trans again), kept⟩
  · left
    obtain ⟨last, here, pair⟩ := Option.map_eq_some_iff.1 owns
    exact here.trans (congrArg some (Prod.mk.inj pair).2)

/-- No terminal download is moved by the writes of a pass. -/
theorem terminal_of_written (asks : context.Asks)
    (written : current.writeAll (page.map context.step) = some after)
    (member : row ∈ current.rows) (terminal : row.download.state.terminal = true) :
    ∃ last, after.find row.id = some last ∧ last.download.state = row.download.state := by
  have found := Sql.Table.find_key member
  by_cases read : ∃ snapshot ∈ page, snapshot.acquisitionId = row.id
  · obtain ⟨snapshot, inside, same⟩ := read
    have stands := find_snapshot distinct asks written inside
    rw [same, found] at stands
    exact ⟨_, stands, applySnapshot_terminal terminal⟩
  · have keeps : ∀ step ∈ page.map context.step, current.Keeps step := by
      intro step inside
      obtain ⟨snapshot, _, rfl⟩ := mem_map.1 inside
      exact step_keeps asks
    have reads : after.find row.id = current.find row.id := by
      rw [Sql.UniqueTable.find_of_writeAll keeps (steps_nodup distinct) written]
      have absent : (page.map context.step).find? (fun step => step.1 = row.id) = none := by
        apply List.find?_eq_none.2
        intro step inside
        obtain ⟨snapshot, snapshotIn, rfl⟩ := mem_map.1 inside
        simp only [decide_eq_true_eq]
        exact fun same => read ⟨snapshot, snapshotIn, same⟩
      rw [absent]
    exact ⟨row, reads.trans found, rfl⟩

end Pass

/-! ### The whole pass -/

/-- What a pass is to do for the acquisitions it reads: it is carried out, no two acquisitions
own one bundle after it, and each that came to a bundle owns it or is its duplicate. -/
def SettlesBundles (before current : AcquisitionTable) (clientConfigId cursor : Nat)
    (answers : QueueAnswers) (now : Timestamp) : Prop :=
  ∃ after result,
    reconcileClient before current clientConfigId cursor answers now = some (after, result) ∧
      (∀ first ∈ after.rows, ∀ second ∈ after.rows, ∀ owned, first.ownedBundle = some owned →
        second.ownedBundle = some owned → first.id = second.id) ∧
      ∀ snapshot ∈ snapshots before clientConfigId cursor, ∀ row bundleId,
        current.find snapshot.acquisitionId = some row →
        activeSnapshotIsCurrent row snapshot = true →
        (resolution answers now (snapshots before clientConfigId cursor) snapshot).bind
          Resolution.bundleId = some bundleId → SettledAs after snapshot bundleId

/-- The bundles that acquisitions of the pass come to and nobody owned when it began to write:
the lookup of owners finds none for them. -/
def unownedBundles (before current : AcquisitionTable) (clientConfigId cursor : Nat)
    (answers : QueueAnswers) (now : Timestamp) : List (String × Nat) :=
  let page := snapshots before clientConfigId cursor
  page.filterMap ((passContext current answers now page).newlyOwns current)

theorem passContext_asks (page : List ActiveSnapshot) :
    (passContext current answers now page).Asks := by
  intro snapshot found resolved
  exact bundleId_of_resolution resolved

theorem passContext_loaded (page : List ActiveSnapshot) :
    (passContext current answers now page).Loaded current := by
  intro identity bundleId ownerId found
  exact existingOwner_eq_some found

/-- The table after a pass that reads nothing is the table it found. -/
theorem reconcileClient_after (before current : AcquisitionTable) (clientConfigId cursor : Nat)
    (answers : QueueAnswers) (now : Timestamp) :
    (reconcileClient before current clientConfigId cursor answers now).map Prod.fst =
      current.writeAll ((snapshots before clientConfigId cursor).map
        (passContext current answers now (snapshots before clientConfigId cursor)).step) := by
  unfold reconcileClient
  split
  · next empty =>
      rw [empty]
      rfl
  · unfold writePass
    rw [Option.map_map]
    exact Option.map_id'

/-- For every table, page, queue and answer: a pass settles every bundle its acquisitions came
to if and only if no two of them came to the same one that nobody owned, and no request that was
reported as new names an owned one. -/
theorem settlesBundles_iff (before current : AcquisitionTable) (clientConfigId cursor : Nat)
    (answers : QueueAnswers) (now : Timestamp) :
    SettlesBundles before current clientConfigId cursor answers now ↔
      (unownedBundles before current clientConfigId cursor answers now).Nodup ∧
        ∀ owned ∈ unownedBundles before current clientConfigId cursor answers now,
          ¬ current.Owns owned := by
  have written := reconcileClient_after before current clientConfigId cursor answers now
  have distinct := snapshots_nodup before clientConfigId cursor
  have asks : (passContext current answers now (snapshots before clientConfigId cursor)).Asks :=
    passContext_asks _
  have loaded :
      (passContext current answers now (snapshots before clientConfigId cursor)).Loaded current :=
    passContext_loaded _
  have same : unownedBundles before current clientConfigId cursor answers now =
      ((snapshots before clientConfigId cursor).map (passContext current answers now
        (snapshots before clientConfigId cursor)).step).filterMap current.gained := by
    rw [filterMap_map]
    exact filterMap_congr fun snapshot _ => (gained_step asks loaded).symm
  have keeps : ∀ step ∈ (snapshots before clientConfigId cursor).map (passContext current answers
      now (snapshots before clientConfigId cursor)).step, current.Keeps step := by
    intro step inside
    obtain ⟨snapshot, _, rfl⟩ := mem_map.1 inside
    exact step_keeps asks
  rw [same, ← Sql.UniqueTable.writeAll_isSome_iff keeps (steps_nodup distinct), ← written]
  constructor
  · rintro ⟨after, result, carried, _⟩
    rw [carried]
    rfl
  · intro carried
    rw [Option.isSome_map] at carried
    obtain ⟨⟨after, result⟩, carried⟩ := Option.isSome_iff_exists.1 carried
    rw [carried] at written
    refine ⟨after, result, carried, ?_, ?_⟩
    · intro first firstIn second secondIn owned
      exact after.unique first firstIn second secondIn owned
    · intro snapshot member row bundleId found current resolved
      apply settled_of_written distinct asks loaded written.symm member found
      exact (if_pos current).trans resolved

/-- What a pass does with bundles, exactly, and that neither a pass nor an event of the queue
moves a download out of a terminal state. -/
theorem reconcile_ownership (before current : AcquisitionTable) (clientConfigId cursor : Nat)
    (answers : QueueAnswers) (now : Timestamp) :
    (SettlesBundles before current clientConfigId cursor answers now ↔
      (unownedBundles before current clientConfigId cursor answers now).Nodup ∧
        ∀ owned ∈ unownedBundles before current clientConfigId cursor answers now,
          ¬ current.Owns owned) ∧
      (∀ after result,
        reconcileClient before current clientConfigId cursor answers now = some (after, result) →
        ∀ row ∈ current.rows, row.download.state.terminal = true →
          ∃ last, after.find row.id = some last ∧ last.download.state = row.download.state) ∧
      ∀ (row : AirDcppAcquisition) (bundle : AirDcppQueueBundle) (at_ : Timestamp),
        row.download.state.terminal = true →
        (applyAirdcppBundle row bundle at_).1.download.state = row.download.state := by
  refine ⟨settlesBundles_iff before current clientConfigId cursor answers now, ?_, ?_⟩
  · intro after result carried row member terminal
    have written := reconcileClient_after before current clientConfigId cursor answers now
    rw [carried] at written
    exact terminal_of_written (snapshots_nodup before clientConfigId cursor) (passContext_asks _)
      written.symm member terminal
  · intro row bundle at_ terminal
    exact applyAirdcppBundle_terminal bundle at_ terminal

/-! ### Two requests for one file -/

def waitingAcquisition (id : Nat) : AirDcppAcquisition where
  id := id
  clientConfigId := some 1
  clientIdentity := "airdcpp:1"
  tth := "TTH"
  sizeBytes := 100
  originalName := "Example 001.cbz"
  clientState := some "reconcile_pending"
  download := { state := .retryPending }

/-- Two acquisitions of the same file, both without a bundle. -/
def twoWaiting : AcquisitionTable where
  rows := [waitingAcquisition 1, waitingAcquisition 2]
  distinct := by decide
  unique := by
    intro first firstIn second secondIn owned owns
    simp only [mem_cons, not_mem_nil, or_false] at firstIn
    rcases firstIn with rfl | rfl <;> cases owns

/-- The file is in the queue once. -/
def oneFileQueued : QueueAnswers where
  filesByTth _ := .ok [⟨7, "/downloads/Example 001.cbz", 100, "queued"⟩]
  downloadSearchResult _ := .error .entityNotFound
  createFileBundle _ := .error .entityNotFound
  queueBundles _ := []

theorem twoWaiting_aborted :
    (reconcileClient twoWaiting twoWaiting 1 0 oneFileQueued 0).isNone = true := by
  decide +kernel

/-- Both acquisitions adopt the bundle, and the pass is rolled back. -/
theorem twoWaiting_unsettled : ¬ SettlesBundles twoWaiting twoWaiting 1 0 oneFileQueued 0 := by
  rintro ⟨after, result, carried, _⟩
  have aborted := twoWaiting_aborted
  rw [carried] at aborted
  cases aborted

end Pullbox.Airdcpp
