import Pullbox.Arc.Effects

/-!
# Which entries may be synchronized

What holds of the entries of an arc between two operations, and how the rewriting of rows
keeps it: an entry that may be synchronized is resolved to an issue, needs no order review,
and belongs to an active arc whose synchronization is enabled.
-/

namespace Pullbox.Arc

open List Sql

/-- An entry of the arc may be synchronized. -/
structure Fits (arc : StoryArc) (member : IssueStoryArc) : Prop where
  resolved : member.resolutionState = .resolved
  issue : member.issueId.isSome = true
  reviewed : requiresOrderReview member = false
  active : arc.lifecycle = .active
  enabled : arc.syncEnabled = true

namespace Database

/-- Only entries that may be synchronized are marked so. -/
def Sound (db : Database) : Prop :=
  ∀ member ∈ db.memberships.rows, member.syncEligible = true →
    ∃ arc, db.arcs.find member.storyArcId = some arc ∧ Fits arc member

/-- No arc has two entries of one issue. -/
def Single (db : Database) : Prop :=
  ∀ first ∈ db.memberships.rows, ∀ second ∈ db.memberships.rows, ∀ issueId,
    first.storyArcId = second.storyArcId → first.issueId = some issueId →
      second.issueId = some issueId → first.id = second.id

/-- The arc of each entry exists. -/
def Referenced (db : Database) : Prop :=
  ∀ member ∈ db.memberships.rows, ∃ arc, db.arcs.find member.storyArcId = some arc

/-- An arc whose entries differ has a later revision. -/
def Raises (db after : Database) : Prop :=
  ∀ arcId, after.membersOf arcId ≠ db.membersOf arcId →
    ∃ arc last, db.arcs.find arcId = some arc ∧ after.arcs.find arcId = some last ∧
      arc.revision < last.revision

/-- What an operation that returns keeps of the rows and of the revisions. -/
structure Accepts (db after : Database) : Prop where
  referenced : after.Referenced
  single : after.Single
  raises : Raises db after

/-- No entry of the issue is marked. -/
def SparesIssue (db : Database) (issueId : Nat) : Prop :=
  ∀ row ∈ db.memberships.rows, row.issueId = some issueId → row.syncEligible = false

variable {db after : Database}

theorem raises_of_rows (rows : after.memberships.rows = db.memberships.rows) :
    Raises db after := by
  intro arcId differs
  refine absurd ?_ differs
  rw [membersOf, membersOf, rows]

end Database

open Database

namespace Rewritten

variable {db after : Database} {member : IssueStoryArc → IssueStoryArc → Prop}
  {arc : StoryArc → StoryArc → Prop}

theorem referenced (rewritten : Rewritten db member arc after) (before : db.Referenced)
    (keepsArc : ∀ row last, member row last → last.storyArcId = row.storyArcId) :
    after.Referenced := by
  intro last inside
  obtain ⟨row, rowInside, _, moved⟩ := rewritten.memberships.source inside
  obtain ⟨found, foundAt⟩ := before row rowInside
  obtain ⟨lastArc, lastFound, _⟩ := rewritten.arcs.find foundAt
  exact ⟨lastArc, keepsArc row last moved ▸ lastFound⟩

theorem single (rewritten : Rewritten db member arc after) (before : db.Single)
    (keepsArc : ∀ row last, member row last → last.storyArcId = row.storyArcId)
    (keepsIssue : ∀ row last, member row last →
      last.issueId = row.issueId ∨ last.issueId = none) : after.Single := by
  intro first firstInside second secondInside issueId together names namesToo
  obtain ⟨row, rowInside, named, moved⟩ := rewritten.memberships.source firstInside
  obtain ⟨other, otherInside, otherNamed, otherMoved⟩ := rewritten.memberships.source secondInside
  rw [← named, ← otherNamed]
  refine before row rowInside other otherInside issueId ?_ ?_ ?_
  · rw [← keepsArc row first moved, ← keepsArc other second otherMoved, together]
  · rcases keepsIssue row first moved with same | none
    · rw [← same, names]
    · rw [none] at names
      cases names
  · rcases keepsIssue other second otherMoved with same | none
    · rw [← same, namesToo]
    · rw [none] at namesToo
      cases namesToo

theorem raises (rewritten : Rewritten db member arc after) (before : db.Referenced)
    (keepsArc : ∀ row last, member row last → last.storyArcId = row.storyArcId)
    (advances : ∀ row ∈ db.memberships.rows, ∀ last, member row last → last ≠ row →
      ∀ found lastArc, db.arcs.find row.storyArcId = some found → arc found lastArc →
        found.revision < lastArc.revision) : Raises db after := by
  intro arcId differs
  obtain ⟨write, rows, wrote⟩ := rewritten.memberships
  have touched : ∃ row ∈ db.membersOf arcId, write row ≠ row := by
    by_contra still
    refine differs ?_
    rw [membersOf, rows, filter_map]
    have kept : ∀ row ∈ db.memberships.rows,
        decide ((write row).storyArcId = arcId) = decide (row.storyArcId = arcId) :=
      fun row inside => by rw [keepsArc row _ (wrote row inside).2]
    calc (db.memberships.rows.filter fun row => decide ((write row).storyArcId = arcId)).map write
        = (db.membersOf arcId).map write := by rw [membersOf, filter_congr kept]
      _ = (db.membersOf arcId).map id := map_congr_left fun row inside => by
          by_contra changed
          exact still ⟨row, inside, changed⟩
      _ = db.membersOf arcId := map_id _
  obtain ⟨row, rowInside, changed⟩ := touched
  obtain ⟨inside, belongs⟩ := mem_filter.1 rowInside
  have named : row.storyArcId = arcId := of_decide_eq_true belongs
  obtain ⟨found, foundAt⟩ := before row inside
  obtain ⟨lastArc, lastFound, arcMoved⟩ := rewritten.arcs.find foundAt
  refine ⟨found, lastArc, named ▸ foundAt, named ▸ lastFound, ?_⟩
  exact advances row inside _ (wrote row inside).2 changed found lastArc foundAt arcMoved

theorem sound (rewritten : Rewritten db member arc after) (before : db.Referenced)
    (held : db.Sound)
    (keepsArc : ∀ row last, member row last → last.storyArcId = row.storyArcId)
    (fits : ∀ row ∈ db.memberships.rows, ∀ last, member row last → last.syncEligible = true →
      ∀ found lastArc, db.arcs.find row.storyArcId = some found → arc found lastArc →
        (row.syncEligible = true → Fits found row) → Fits lastArc last) : after.Sound := by
  intro last inside eligible
  obtain ⟨row, rowInside, _, moved⟩ := rewritten.memberships.source inside
  obtain ⟨found, foundAt⟩ := before row rowInside
  obtain ⟨lastArc, lastFound, arcMoved⟩ := rewritten.arcs.find foundAt
  refine ⟨lastArc, keepsArc row last moved ▸ lastFound, ?_⟩
  refine fits row rowInside last moved eligible found lastArc foundAt arcMoved fun marked => ?_
  obtain ⟨other, otherFound, fit⟩ := held row rowInside marked
  exact Option.some.inj (otherFound.symm.trans foundAt) ▸ fit

end Rewritten

/-! ### Revisions -/

variable {arc : StoryArc} {arcId : Nat} {row : IssueStoryArc} {arcIds : List Nat}

theorem advanced_lt (inside : arc.id ∈ arcIds) :
    arc.revision < (advanced arcIds arc).revision := by
  rw [advanced, if_pos inside]
  simp only
  omega

theorem Fits.advanced {member : IssueStoryArc}
    (fits : Fits arc member) : Fits (advanced arcIds arc) member := by
  unfold Arc.advanced
  split
  · exact ⟨fits.resolved, fits.issue, fits.reviewed, fits.active, fits.enabled⟩
  · exact fits

/-- An entry that an update leaves as it is still fits its arc, if its synchronization was not
written. -/
theorem Fits.updated {request : Service.UpdateRequest}
    {arc last : StoryArc} (fits : Fits arc row)
    (apart : request.syncEnabled = none ∨ arc.id ≠ arcId)
    (moved : Relabelled (Service.updatedArc arcId request arc) last) : Fits last row := by
  have active : last.lifecycle = arc.lifecycle := by
    rw [moved, Service.updatedArc]
    split <;> rfl
  have enabled : last.syncEnabled = arc.syncEnabled := by
    rw [moved, Service.updatedArc]
    split
    · rename_i named
      have unset : request.syncEnabled = none := apart.resolve_right fun differs => differs named
      simp [Service.UpdateRequest.flagged, unset]
    · rfl
  exact ⟨fits.resolved, fits.issue, fits.reviewed, active.trans fits.active,
    enabled.trans fits.enabled⟩

/-! ### The synchronization of an arc -/

namespace Service

variable {enabled : Bool}

theorem eligibilityWritten_storyArcId :
    (eligibilityWritten arcId enabled row).storyArcId = row.storyArcId := by
  unfold eligibilityWritten
  split <;> rfl

theorem eligibilityWritten_issueId :
    (eligibilityWritten arcId enabled row).issueId = row.issueId := by
  unfold eligibilityWritten
  split <;> rfl

theorem eligibilityWritten_apart (apart : row.storyArcId ≠ arcId) :
    eligibilityWritten arcId enabled row = row := by
  rw [eligibilityWritten, if_neg]
  simp [resolvedOf, apart]

theorem eligibilityWritten_marked (belongs : row.storyArcId = arcId)
    (resolved : row.resolutionState = .resolved) (reviewed : orderReviewFilter row = false) :
    eligibilityWritten arcId true row = { row with syncEligible := true } := by
  simp [eligibilityWritten, resolvedOf, belongs, resolved, reviewed]

/-- The entries of the arc that were sound are marked only if it is enabled, and the others
are as they were. -/
theorem eligibilityWritten_fits
    (eligible : (eligibilityWritten arcId enabled row).syncEligible = true)
    (before : row.syncEligible = true → Fits arc row) :
    row.storyArcId ≠ arcId ∧ eligibilityWritten arcId enabled row = row ∨
      row.storyArcId = arcId ∧ enabled = true ∧ row.resolutionState = .resolved ∧
        orderReviewFilter row = false := by
  by_cases resolved : resolvedOf arcId row = true
  · rw [eligibilityWritten, if_pos resolved] at eligible
    simp only [Bool.and_eq_true, Bool.not_eq_true'] at eligible
    simp only [resolvedOf, Bool.and_eq_true, decide_eq_true_eq] at resolved
    exact .inr ⟨resolved.1, eligible.1, resolved.2, eligible.2⟩
  · have same : eligibilityWritten arcId enabled row = row := by
      rw [eligibilityWritten, if_neg resolved]
    rw [same] at eligible
    refine .inl ⟨fun belongs => resolved ?_, same⟩
    simp [resolvedOf, belongs, (before eligible).resolved]

/-! ### What each operation keeps -/

variable {db after : Database} {Number : Type} {naming : Naming Number} {request : UpdateRequest}
  {name normalizedName : String}

/-- The arcs that are there stay when one is added. -/
theorem created_find {request : CreateRequest} (found : db.arcs.find arcId = some arc) :
    (db.arcs.insert (request.row name normalizedName) (request.row_id name normalizedName)).find
      arcId = some arc := by
  rw [Table.find_insert, if_neg]
  · exact found
  · rintro rfl
    rw [Table.find_nextKey] at found
    cases found

/-- `create` has no entries to change. -/
theorem created_accepts {request : CreateRequest}
    (created : after =
      { db with
        arcs := db.arcs.insert (request.row name normalizedName)
          (request.row_id name normalizedName) })
    (referenced : db.Referenced) (single : db.Single) : Accepts db after := by
  subst created
  refine ⟨fun member inside => ?_, single, raises_of_rows rfl⟩
  obtain ⟨arc, found⟩ := referenced member inside
  exact ⟨arc, created_find found⟩

theorem created_sound {request : CreateRequest}
    (created : after =
      { db with
        arcs := db.arcs.insert (request.row name normalizedName)
          (request.row_id name normalizedName) })
    (sound : db.Sound) : after.Sound := by
  subst created
  intro member inside eligible
  obtain ⟨arc, found, fits⟩ := sound member inside eligible
  exact ⟨arc, created_find found, fits⟩

theorem updatedMember_storyArcId :
    (updatedMember arcId request row).storyArcId = row.storyArcId := by
  unfold updatedMember
  split
  · exact eligibilityWritten_storyArcId
  · rfl

theorem updatedMember_issueId :
    (updatedMember arcId request row).issueId = row.issueId := by
  unfold updatedMember
  split
  · exact eligibilityWritten_issueId
  · rfl

theorem updatedMember_apart
    (apart : row.storyArcId ≠ arcId) : updatedMember arcId request row = row := by
  unfold updatedMember
  split
  · exact eligibilityWritten_apart apart
  · rfl

theorem updatedArc_revision {arc last : StoryArc}
    (named : arc.id = arcId) (moved : Relabelled (updatedArc arcId request arc) last) :
    arc.revision < last.revision := by
  rw [moved, updatedArc, if_pos named]
  simp only
  omega

theorem Updated.accepts
    (updated : Updated naming db arcId request after) (referenced : db.Referenced)
    (single : db.Single) : Accepts db after where
  referenced := updated.rewritten.referenced referenced fun row last moved =>
    moved ▸ updatedMember_storyArcId
  single := updated.rewritten.single single
    (fun row last moved => moved ▸ updatedMember_storyArcId)
    fun row last moved => .inl (moved ▸ updatedMember_issueId)
  raises := by
    refine updated.rewritten.raises referenced (fun row last moved => ?_) ?_
    · exact moved ▸ updatedMember_storyArcId
    · intro row _ last moved differs arc lastArc found arcMoved
      have belongs : row.storyArcId = arcId := by
        by_contra apart
        exact differs (moved.trans (updatedMember_apart apart))
      exact updatedArc_revision ((Table.key_of_find found).trans belongs) arcMoved

/-- No entry that an update enables is resolved without an issue. -/
def SparesUpdate (naming : Naming Number) (db : Database) (arcId : Nat)
    (request : UpdateRequest) : Prop :=
  Enables naming db arcId request → ∀ row ∈ db.memberships.rows, row.storyArcId = arcId →
    row.resolutionState = .resolved → row.issueId = none → orderReviewFilter row = true

theorem Updated.sound_iff
    (updated : Updated naming db arcId request after) (referenced : db.Referenced)
    (sound : db.Sound) : after.Sound ↔ SparesUpdate naming db arcId request := by
  constructor
  · intro later enables row inside belongs resolved none
    by_contra unreviewed
    have written : updatedMember arcId request row = { row with syncEligible := true } := by
      rw [updatedMember, enables.1]
      exact eligibilityWritten_marked belongs resolved (Bool.eq_false_iff.2 unreviewed)
    obtain ⟨last, lastInside, _, moved⟩ := updated.rewritten.memberships.target inside
    rw [written] at moved
    obtain ⟨_, _, fits⟩ := later last lastInside (by rw [moved])
    have issue := fits.issue
    rw [moved, none] at issue
    cases issue
  · intro spares
    refine updated.rewritten.sound referenced sound
      (fun row last moved => moved ▸ updatedMember_storyArcId) ?_
    rintro row inside last rfl eligible arc lastArc found arcMoved before
    have named : arc.id = row.storyArcId := Table.key_of_find found
    cases sync : request.syncEnabled with
    | none =>
      have same : updatedMember arcId request row = row := by rw [updatedMember, sync]
      rw [same] at eligible ⊢
      exact (before eligible).updated (.inl sync) arcMoved
    | some enabled =>
      have same : updatedMember arcId request row = eligibilityWritten arcId enabled row := by
        rw [updatedMember, sync]
      rw [same] at eligible ⊢
      rcases eligibilityWritten_fits eligible before with
        ⟨apart, still⟩ | ⟨belongs, rfl, resolved, reviewed⟩
      · rw [still] at eligible ⊢
        exact (before eligible).updated (.inr (named ▸ apart)) arcMoved
      · -- The arc is enabled, and the entry has an issue.
        have enables := updated.enables sync
        obtain ⟨other, otherFound, _, active, _⟩ := enables.2
        have sameArc : other = arc :=
          Option.some.inj (otherFound.symm.trans (belongs ▸ found))
        rw [eligibilityWritten_marked belongs resolved reviewed, arcMoved, updatedArc,
          if_pos (named.trans belongs)]
        refine ⟨resolved, ?_, requiresOrderReview_filter reviewed, sameArc ▸ active, ?_⟩
        · rw [Option.isSome_iff_ne_none]
          intro none
          have review := spares enables row inside belongs resolved none
          rw [reviewed] at review
          cases review
        · simp [UpdateRequest.flagged, sync]

/-! ### Archiving -/

theorem archived_accepts
    (archived : Rewritten db (fun row last => last = eligibilityWritten arcId false row)
      (fun row last => last = archivedArc arcId row) after)
    (referenced : db.Referenced) (single : db.Single) : Accepts db after where
  referenced := archived.referenced referenced fun row last moved =>
    moved ▸ eligibilityWritten_storyArcId
  single := archived.single single (fun row last moved => moved ▸ eligibilityWritten_storyArcId)
    fun row last moved => .inl (moved ▸ eligibilityWritten_issueId)
  raises := by
    refine archived.raises referenced (fun row last moved => ?_) ?_
    · exact moved ▸ eligibilityWritten_storyArcId
    · rintro row _ last rfl differs arc lastArc found rfl
      have belongs : row.storyArcId = arcId := by
        by_contra apart
        exact differs (eligibilityWritten_apart apart)
      rw [archivedArc, if_pos ((Table.key_of_find found).trans belongs)]
      simp only
      omega

theorem archived_sound
    (archived : Rewritten db (fun row last => last = eligibilityWritten arcId false row)
      (fun row last => last = archivedArc arcId row) after)
    (referenced : db.Referenced) (sound : db.Sound) : after.Sound := by
  refine archived.sound referenced sound
    (fun row last moved => moved ▸ eligibilityWritten_storyArcId) ?_
  rintro row inside last rfl eligible arc lastArc found rfl before
  rcases eligibilityWritten_fits eligible before with ⟨apart, still⟩ | ⟨_, enabled, _⟩
  · rw [still] at eligible ⊢
    rw [archivedArc, if_neg (Table.key_of_find found ▸ apart)]
    exact before eligible
  · cases enabled

/-! ### Entries -/

theorem Added.accepts {issueId : Option Nat}
    (added : Added db arcId issueId arc after) (referenced : db.Referenced)
    (single : db.Single) : Accepts db after := by
  obtain ⟨sequenceNumber, sourceOrdinal, exactNumber, sourceKind, rfl⟩ := added.inserted
  have named : arc.id = arcId := Table.key_of_find added.found
  have advance : db.arcs.Moves (fun row last => last = advanced [arcId] row)
      (db.advanceRevisions [arcId]).arcs := rewritten_advanceRevisions.arcs
  refine ⟨fun member inside => ?_, fun first firstInside second secondInside id => ?_, ?_⟩
  · rcases mem_append.1 inside with old | new
    · obtain ⟨other, found⟩ := referenced member old
      obtain ⟨last, lastFound, _⟩ := advance.find found
      exact ⟨last, lastFound⟩
    · obtain ⟨last, lastFound, _⟩ := advance.find added.found
      rw [mem_singleton.1 new]
      exact ⟨last, named ▸ lastFound⟩
  · intro together names namesToo
    rcases mem_append.1 firstInside with old | new <;>
      rcases mem_append.1 secondInside with oldToo | newToo
    · exact single first old second oldToo id together names namesToo
    · rw [mem_singleton.1 newToo] at together namesToo
      exact absurd names (added.single id namesToo first old (together.trans named))
    · rw [mem_singleton.1 new] at together names
      exact absurd namesToo (added.single id names second oldToo (together.symm.trans named))
    · rw [mem_singleton.1 new, mem_singleton.1 newToo]
  · intro other differs
    have same : other = arcId := by
      by_contra apart
      refine differs ?_
      have elsewhere : ¬ arc.id = other := fun here => apart (here.symm.trans named)
      simp [membersOf, Database.advanceRevisions, Table.insert, newMembership, elsewhere]
    subst same
    obtain ⟨last, lastFound, rfl⟩ := advance.find added.found
    exact ⟨arc, _, added.found, lastFound, advanced_lt (mem_singleton.2 named)⟩

theorem Added.sound {issueId : Option Nat}
    (added : Added db arcId issueId arc after) (sound : db.Sound) : after.Sound := by
  obtain ⟨sequenceNumber, sourceOrdinal, exactNumber, sourceKind, rfl⟩ := added.inserted
  have named : arc.id = arcId := Table.key_of_find added.found
  have advance : db.arcs.Moves (fun row last => last = advanced [arcId] row)
      (db.advanceRevisions [arcId]).arcs := rewritten_advanceRevisions.arcs
  intro member inside eligible
  rcases mem_append.1 inside with old | new
  · obtain ⟨other, found, fits⟩ := sound member old eligible
    obtain ⟨last, lastFound, rfl⟩ := advance.find found
    exact ⟨_, lastFound, fits.advanced⟩
  · obtain ⟨last, lastFound, rfl⟩ := advance.find added.found
    rw [mem_singleton.1 new] at eligible ⊢
    simp only [newMembership, Bool.and_eq_true] at eligible
    have fits : Fits arc (newMembership arc issueId sequenceNumber sourceOrdinal exactNumber
        sourceKind db.memberships.nextKey) := by
      refine ⟨?_, eligible.1, rfl, added.active, eligible.2⟩
      rw [newMembership, if_pos eligible.1]
    subst named
    exact ⟨_, lastFound, fits.advanced⟩

/-- Entries are rewritten in place, and the arcs of those that change advance. -/
theorem accepts_of_advanced {member : IssueStoryArc → IssueStoryArc → Prop}
    (rewritten : Rewritten db member (fun row last => last = advanced arcIds row) after)
    (referenced : db.Referenced) (single : after.Single)
    (keepsArc : ∀ row last, member row last → last.storyArcId = row.storyArcId)
    (listed : ∀ row ∈ db.memberships.rows, ∀ last, member row last → last ≠ row →
      row.storyArcId ∈ arcIds) : Accepts db after where
  referenced := rewritten.referenced referenced keepsArc
  single := single
  raises := by
    refine rewritten.raises referenced keepsArc ?_
    rintro row inside last moved differs arc _ found rfl
    have named : arc.id = row.storyArcId := Table.key_of_find found
    exact advanced_lt (named ▸ listed row inside last moved differs)

theorem sound_of_advanced {member : IssueStoryArc → IssueStoryArc → Prop}
    (rewritten : Rewritten db member (fun row last => last = advanced arcIds row) after)
    (referenced : db.Referenced) (sound : db.Sound)
    (keepsArc : ∀ row last, member row last → last.storyArcId = row.storyArcId)
    (fits : ∀ row ∈ db.memberships.rows, ∀ last, member row last → last.syncEligible = true →
      ∀ arc, db.arcs.find row.storyArcId = some arc →
        (row.syncEligible = true → Fits arc row) → Fits arc last) : after.Sound := by
  refine rewritten.sound referenced sound keepsArc ?_
  rintro row inside last moved eligible arc _ found rfl before
  exact (fits row inside last moved eligible arc found before).advanced

theorem Reviewed.keeps {member row last : IssueStoryArc}
    (reviewed : Reviewed arc member row last) :
    last.storyArcId = row.storyArcId ∧ last.issueId = row.issueId := by
  obtain ⟨middle, renumbered, rfl | ⟨skipped, rfl⟩⟩ := reviewed
  · rw [renumbered]
    exact ⟨rfl, rfl⟩
  · rw [renumbered]
    exact ⟨rfl, rfl⟩

variable {membershipId : Nat} {member : IssueStoryArc}

/-- The one entry that was edited. -/
theorem Edited.only {relation : StoryArc → IssueStoryArc → IssueStoryArc → Prop}
    (edited : Edited db membershipId relation member arc after)
    (inside : row ∈ db.memberships.rows) (named : row.id = membershipId) : row = member := by
  have found : db.memberships.find row.id = some row := Table.find_key inside
  rw [named] at found
  exact Option.some.inj (found.symm.trans edited.found)

theorem Edited.listed {relation : StoryArc → IssueStoryArc → IssueStoryArc → Prop}
    (edited : Edited db membershipId relation member arc after)
    (inside : row ∈ db.memberships.rows) (named : row.id = membershipId) :
    row.storyArcId ∈ [arc.id] := by
  rw [edited.only inside named, mem_singleton]
  exact (Table.key_of_find edited.arcFound).symm

theorem reviewed_accepts
    (edited : Edited db membershipId (fun arc => Reviewed arc member) member arc after)
    (referenced : db.Referenced) (single : db.Single) : Accepts db after := by
  have keepsArc : ∀ row last, last = row ∨ row.id = membershipId ∧ Reviewed arc member row last →
      last.storyArcId = row.storyArcId := by
    rintro row last (rfl | ⟨_, reviewed⟩)
    · rfl
    · exact reviewed.keeps.1
  refine accepts_of_advanced edited.rewritten referenced ?_ keepsArc ?_
  · refine edited.rewritten.single single keepsArc ?_
    rintro row last (rfl | ⟨_, reviewed⟩)
    · exact .inl rfl
    · exact .inl reviewed.keeps.2
  · rintro row inside last (rfl | ⟨named, _⟩) differs
    · exact absurd rfl differs
    · exact edited.listed inside named

/-- An entry that is taken back is marked only if it has an issue and needs no review. -/
theorem reviewed_sound
    (edited : Edited db membershipId (fun arc => Reviewed arc member) member arc after)
    (referenced : db.Referenced) (sound : db.Sound) : after.Sound := by
  refine sound_of_advanced edited.rewritten referenced sound ?_ ?_
  · rintro row last (rfl | ⟨_, reviewed⟩)
    · rfl
    · exact reviewed.keeps.1
  · rintro row inside last (rfl | ⟨named, middle, renumbered, rfl | ⟨skipped, rfl⟩⟩) eligible found
      foundAt before
    · exact before eligible
    · rw [renumbered] at eligible ⊢
      have fits := before eligible
      exact ⟨fits.resolved, fits.issue, fits.reviewed, fits.active, fits.enabled⟩
    · have same := edited.only inside named
      subst same
      have sameArc : found = arc := Option.some.inj (foundAt.symm.trans edited.arcFound)
      simp only [nextEligibility, Bool.and_eq_true, Bool.not_eq_true'] at eligible
      obtain ⟨⟨⟨taken, issue⟩, enabled⟩, review⟩ := eligible
      rw [renumbered, sameArc]
      refine ⟨?_, issue, review, edited.active, enabled⟩
      simp [nextState, taken, issue]

variable {issueId : Nat} {issue : Issue}

theorem Resolved.keepsArc {last : IssueStoryArc}
    (moved : last = row ∨ row.id = membershipId ∧ last = resolvedMembership arc issue row) :
    last.storyArcId = row.storyArcId := by
  rcases moved with rfl | ⟨_, rfl⟩
  · rfl
  · rfl

/-- The issue that an entry is resolved to is no other entry's of the arc. -/
theorem Resolved.later_single
    (resolved : Resolved db membershipId issueId member arc issue after) (single : db.Single) :
    after.Single := by
  intro first firstInside second secondInside id together names namesToo
  have moves := resolved.edited.rewritten.memberships
  obtain ⟨row, rowInside, rowNamed, rowMoved⟩ := moves.source firstInside
  obtain ⟨other, otherInside, otherNamed, otherMoved⟩ := moves.source secondInside
  have sameArc : row.storyArcId = other.storyArcId :=
    (Resolved.keepsArc rowMoved).symm.trans (together.trans (Resolved.keepsArc otherMoved))
  rw [← rowNamed, ← otherNamed]
  rcases rowMoved with rfl | ⟨named, rfl⟩
  · rcases otherMoved with rfl | ⟨otherEdited, rfl⟩
    · exact single _ rowInside _ otherInside id sameArc names namesToo
    · have same := resolved.edited.only otherInside otherEdited
      subst same
      have issueNamed : id = issueId := (Option.some.inj namesToo).symm.trans resolved.named
      exact resolved.single _ rowInside sameArc (issueNamed ▸ names)
  · have same := resolved.edited.only rowInside named
    subst same
    have issueNamed : id = issueId := (Option.some.inj names).symm.trans resolved.named
    rcases otherMoved with rfl | ⟨otherEdited, rfl⟩
    · exact (resolved.single _ otherInside sameArc.symm (issueNamed ▸ namesToo)).symm
    · rw [named, otherEdited]

theorem Resolved.accepts (resolved : Resolved db membershipId issueId member arc issue after)
    (referenced : db.Referenced) (single : db.Single) : Accepts db after := by
  refine accepts_of_advanced resolved.edited.rewritten referenced (resolved.later_single single)
    (fun row last => Resolved.keepsArc) ?_
  rintro row inside last (rfl | ⟨named, _⟩) differs
  · exact absurd rfl differs
  · exact resolved.edited.listed inside named

theorem Resolved.sound (resolved : Resolved db membershipId issueId member arc issue after)
    (referenced : db.Referenced) (sound : db.Sound) : after.Sound := by
  refine sound_of_advanced resolved.edited.rewritten referenced sound
    (fun row last => Resolved.keepsArc) ?_
  rintro row inside last (rfl | ⟨named, rfl⟩) eligible found foundAt before
  · exact before eligible
  · have same := resolved.edited.only inside named
    subst same
    have sameArc : found = arc := Option.some.inj (foundAt.symm.trans resolved.edited.arcFound)
    subst sameArc
    refine ⟨rfl, rfl, ?_, resolved.edited.active, eligible⟩
    rw [resolvedMembership]
    cases review : requiresOrderReview row with
    | false => exact review
    | true => rfl

/-! ### Missing issues -/

theorem WrittenWhere.listed {condition : IssueStoryArc → Bool}
    {write : IssueStoryArc → IssueStoryArc} {last : IssueStoryArc}
    (inside : row ∈ db.memberships.rows)
    (moved : last = if condition row then write row else row) (differs : last ≠ row) :
    row.storyArcId ∈ (db.memberships.rows.filter condition).map IssueStoryArc.storyArcId := by
  by_cases selected : condition row = true
  · exact mem_map_of_mem (mem_filter.2 ⟨inside, selected⟩)
  · rw [if_neg selected] at moved
    exact absurd moved differs

theorem writtenWhere_accepts {condition : IssueStoryArc → Bool}
    {write : IssueStoryArc → IssueStoryArc} (written : WrittenWhere db condition write after)
    (keepsArc : ∀ row, (write row).storyArcId = row.storyArcId)
    (keepsIssue : ∀ row, (write row).issueId = row.issueId ∨ (write row).issueId = none)
    (referenced : db.Referenced) (single : db.Single) : Accepts db after := by
  have sameArc : ∀ row last, last = (if condition row then write row else row) →
      last.storyArcId = row.storyArcId := by
    rintro row last rfl
    split
    · exact keepsArc row
    · rfl
  refine accepts_of_advanced written referenced ?_ sameArc
    fun row inside last moved => WrittenWhere.listed inside moved
  refine written.single single sameArc ?_
  rintro row last rfl
  split
  · exact keepsIssue row
  · exact .inl rfl

theorem detached_sound_iff
    (written : WrittenWhere db (namesIssue issueId)
      (detachedMembership (db.issues.find issueId)) after)
    (referenced : db.Referenced) (sound : db.Sound) : after.Sound ↔ db.SparesIssue issueId := by
  constructor
  · intro later row inside names
    obtain ⟨last, lastInside, _, moved⟩ := written.memberships.target inside
    rw [if_pos (by simp [namesIssue, names])] at moved
    subst moved
    by_contra marked
    obtain ⟨_, _, fits⟩ := later _ lastInside (by simpa [detachedMembership] using marked)
    exact absurd fits.issue (by simp [detachedMembership])
  · intro spares
    refine sound_of_advanced written referenced sound ?_ ?_
    · rintro row last rfl
      split <;> rfl
    · rintro row inside last rfl eligible found foundAt before
      by_cases names : namesIssue issueId row = true
      · rw [if_pos names] at eligible
        have unmarked := spares row inside (of_decide_eq_true names)
        rw [detachedMembership, unmarked] at eligible
        cases eligible
      · rw [if_neg names] at eligible ⊢
        exact before eligible

/-- An entry without an issue is not marked, so there is nothing to clear. -/
theorem reconciled_sound {only : Option Nat}
    (written : WrittenWhere db (missesIssue only)
      (fun member => { member with resolutionState := .missing }) after)
    (referenced : db.Referenced) (sound : db.Sound) : after.Sound := by
  refine sound_of_advanced written referenced sound ?_ ?_
  · rintro row last rfl
    split <;> rfl
  · rintro row inside last rfl eligible found foundAt before
    by_cases misses : missesIssue only row = true
    · rw [if_pos misses] at eligible
      have issue := (before eligible).issue
      simp only [missesIssue, Bool.and_eq_true, decide_eq_true_eq] at misses
      rw [misses.1.1] at issue
      cases issue
    · rw [if_neg misses] at eligible ⊢
      exact before eligible

/-! ### Order -/

theorem reordered_accepts {ordered : List Nat}
    (reordered : Rewritten db
      (fun row last => last = if row.storyArcId = arcId then placedMembership ordered row else row)
      (fun row last => last = advanced [arcId] row) after)
    (referenced : db.Referenced) (single : db.Single) : Accepts db after := by
  have keepsArc : ∀ row last : IssueStoryArc,
      last = (if row.storyArcId = arcId then placedMembership ordered row else row) →
        last.storyArcId = row.storyArcId := by
    rintro row last rfl
    split <;> rfl
  refine accepts_of_advanced reordered referenced ?_ keepsArc ?_
  · refine reordered.single single keepsArc ?_
    rintro row last rfl
    split <;> exact .inl rfl
  · rintro row inside last rfl differs
    by_cases belongs : row.storyArcId = arcId
    · exact mem_singleton.2 belongs
    · rw [if_neg belongs] at differs
      exact absurd rfl differs

theorem reordered_sound {ordered : List Nat}
    (reordered : Rewritten db
      (fun row last => last = if row.storyArcId = arcId then placedMembership ordered row else row)
      (fun row last => last = advanced [arcId] row) after)
    (referenced : db.Referenced) (sound : db.Sound) : after.Sound := by
  refine sound_of_advanced reordered referenced sound ?_ ?_
  · rintro row last rfl
    split <;> rfl
  · rintro row inside last rfl eligible found foundAt before
    split at eligible
    · have fits := before eligible
      rename_i belongs
      rw [if_pos belongs]
      exact ⟨fits.resolved, fits.issue, fits.reviewed, fits.active, fits.enabled⟩
    · rename_i apart
      rw [if_neg apart]
      exact before eligible

theorem Removed.inside_before (removed : Removed db member after) {other : IssueStoryArc}
    (inside : other ∈ after.memberships.rows) : other ∈ db.memberships.rows := by
  rw [removed.memberships] at inside
  exact (Sql.Table.mem_delete.1 inside).1

theorem Removed.accepts (removed : Removed db member after) (referenced : db.Referenced)
    (single : db.Single) : Accepts db after where
  referenced := by
    intro other inside
    obtain ⟨found, foundAt⟩ := referenced other (removed.inside_before inside)
    obtain ⟨last, lastFound, _⟩ := removed.arcs.find foundAt
    exact ⟨last, lastFound⟩
  single := fun first firstInside second secondInside =>
    single first (removed.inside_before firstInside) second (removed.inside_before secondInside)
  raises := by
    intro arcId differs
    have same : arcId = member.storyArcId := by
      by_contra apart
      refine differs ?_
      rw [membersOf, membersOf, removed.memberships, Table.delete, filter_filter]
      refine filter_congr fun row inside => ?_
      by_cases belongs : row.storyArcId = arcId
      · have other : row.id ≠ member.id := by
          intro named
          have found : db.memberships.find row.id = some row := Table.find_key inside
          rw [named, Table.find_key removed.inside] at found
          exact apart (Option.some.inj found ▸ belongs.symm)
        simp [belongs, other]
      · simp [belongs]
    subst same
    obtain ⟨found, foundAt⟩ := referenced member removed.inside
    obtain ⟨last, lastFound, rfl⟩ := removed.arcs.find foundAt
    refine ⟨found, _, foundAt, lastFound, advanced_lt ?_⟩
    exact mem_singleton.2 (Table.key_of_find foundAt)

theorem Removed.sound (removed : Removed db member after) (sound : db.Sound) : after.Sound := by
  intro other inside eligible
  obtain ⟨found, foundAt, fits⟩ := sound other (removed.inside_before inside) eligible
  obtain ⟨last, lastFound, rfl⟩ := removed.arcs.find foundAt
  exact ⟨_, lastFound, fits.advanced⟩

end Service

end Pullbox.Arc
