import Pullbox.Library.ReplacementStash

/-!
# What becomes of replaced files

While the transaction is open, what was set aside is kept. Once it is rolled back, or a registration
fails, the first file that stood at each replaced path is back, as long as no savepoint with a
replacement is rolled back alone and no flush fails over a path that was replaced before.
-/

namespace Pullbox.Library

open List Option

open Files (Disk)

variable {Place Entry : Type} {session : Session Place Entry}
  {pending own : List (Pending Place Entry)} {one : Pending Place Entry} {disk : Disk Place Entry}
  {place : Place} {content : Entry} {registration : Registration Place Entry}

/-- Where files were set aside. -/
def stagedPlaces (pending : List (Pending Place Entry)) : List Place :=
  pending.filterMap fun one => one.stash.stagedPath

/-- From where files were set aside. -/
def movedPlaces (pending : List (Pending Place Entry)) : List Place :=
  pending.filterMap fun one => one.stash.stagedPath.map fun _ => one.stash.originalPath

theorem mem_stagedPlaces : place ∈ stagedPlaces pending ↔
    ∃ one ∈ pending, one.stash.stagedPath = some place :=
  mem_filterMap

theorem mem_movedPlaces : place ∈ movedPlaces pending ↔
    ∃ one ∈ pending, one.stash.stagedPath ≠ none ∧ one.stash.originalPath = place := by
  unfold movedPlaces
  rw [mem_filterMap]
  refine exists_congr fun one => and_congr_right fun _ => ?_
  cases one.stash.stagedPath with
  | none => simp
  | some staged => simp

variable [DecidableEq Place] {work : List (Place × Option Entry)} {entry : Option Entry}

/-- The content that a path held before it was first replaced. -/
def firstContent (pending : List (Pending Place Entry)) (place : Place) : Option Entry :=
  (pending.filterMap fun one => if one.stash.originalPath = place then one.content else none).head?

/-- Each replaced path holds what it held first. -/
def Back (pending : List (Pending Place Entry)) (disk : Disk Place Entry) : Prop :=
  ∀ place content, firstContent pending place = some content → disk place = some content

/-- What a registration replaces, with the content. -/
def replaced (disk : Disk Place Entry) (registration : Registration Place Entry) :
    List (Pending Place Entry) :=
  (stageReplacementFile disk registration).2.toList.map fun stash =>
    { stash, content := disk stash.originalPath }

/-- What a step owes to replaced files: they are back where the registration fails and where the
transaction ends without it. -/
def Outcome (session after : Session Place Entry) : SessionStep Place Entry → Prop
  | .register registration =>
    match registration.outcome, session.savepoints with
    | .stagingFailed, _ | .failed _, _ | .flushFailed _ _, _ :: _ =>
      Back (replaced session.disk registration) after.disk
    | .flushFailed _ _, [] =>
      Back (session.pending ++ replaced session.disk registration) after.disk
    | _, _ => True
  | .rollback _ => Back session.pending after.disk
  | .commit _ => Back (session.pending.filter Pending.undone) after.disk
  | _ => True

/-- A place that can be written: nothing is set aside there, and no replaced file still stands
there without having been set aside. -/
def Spares (pending : List (Pending Place Entry)) (place : Place) : Prop :=
  place ∉ stagedPlaces pending ∧
    (firstContent pending place ≠ none → place ∈ movedPlaces pending)

instance [DecidableEq Entry] : Decidable (Spares pending place) :=
  inferInstanceAs (Decidable (_ ∧ _))

/-- A registration that keeps off what is set aside, and off what it replaces without setting it
aside. -/
structure KeepsOff (session : Session Place Entry) (registration : Registration Place Entry) :
    Prop where
  originals : ∀ one ∈ replaced session.disk registration,
    one.stash.originalPath ∉ stagedPlaces session.pending
  work : ∀ write ∈ registration.work,
    Spares (session.pending ++ replaced session.disk registration) write.1
  bare : ∀ one ∈ replaced session.disk registration, one.stash.stagedPath = none →
    one.content ≠ none → ∀ write ∈ registration.work, write.1 ≠ one.stash.originalPath

/-- A flush that fails outside savepoints, over no path that the transaction replaced before. -/
structure FlushesApart (session : Session Place Entry) (registration : Registration Place Entry) :
    Prop where
  original : ∀ one ∈ replaced session.disk registration, one.stash.stagedPath ≠ none →
    one.stash.originalPath ∉ movedPlaces session.pending
  aside : registration.asidePath ∉ movedPlaces session.pending

/-- What a cancelled placement writes late spares what is set aside, and what it replaces. -/
def LateSpares (session : Session Place Entry) (registration : Registration Place Entry) : Prop :=
  ∀ write ∈ registration.late, Spares session.pending write.1 ∧
    ∀ one ∈ replaced session.disk registration, write.1 ≠ one.stash.originalPath

/-- No file operation of a restore fails, none that has moved a file fails before its stash is
known, files are kept off as above, no savepoint with a replacement is rolled back alone, and no
flush fails over a path that was replaced before. -/
def Safe (session : Session Place Entry) : SessionStep Place Entry → Prop
  | .register registration =>
    match registration.outcome, session.savepoints with
    | .notStaged, _ => True
    | .registered, _ => KeepsOff session registration
    | .stagingFailed, _ => ∀ one ∈ replaced session.disk registration, one.stash.stagedPath = none
    | .failed answer, _ =>
      KeepsOff session registration ∧ answer = {} ∧ LateSpares session registration
    | .flushFailed answer _, mark :: _ =>
      KeepsOff session registration ∧ answer = {} ∧ session.pending.length ≤ mark
    | .flushFailed answer earlier, [] =>
      KeepsOff session registration ∧ answer = {} ∧ (∀ index, earlier index = {}) ∧
        FlushesApart session registration
  | .write place _ => Spares session.pending place
  | .rollbackNested => ∀ mark ∈ session.savepoints.head?, session.pending.length ≤ mark
  | .rollback answers => ∀ index, answers index = {}
  | .beginNested | .releaseNested | .commit _ => True

theorem firstContent_append :
    firstContent (pending ++ own) place = (firstContent pending place).or (firstContent own place) := by
  unfold firstContent
  rw [filterMap_append, List.head?_append]

/-! ### Undoing -/

/-- A stash moved back. -/
def putBack (stash : ReplacementStash Place) (disk : Disk Place Entry) : Disk Place Entry :=
  match stash.stagedPath with
  | none => disk
  | some staged => disk.move ⟨staged, stash.originalPath⟩

/-- Stashes moved back, last in, first out. -/
def undo (pending : List (Pending Place Entry)) (disk : Disk Place Entry) : Disk Place Entry :=
  pending.foldr (fun one disk => putBack one.stash disk) disk

theorem undo_concat : undo (pending ++ [one]) disk = undo pending (putBack one.stash disk) := by
  unfold undo
  rw [foldr_append]
  rfl

theorem putBack_of_not_mem {stash : ReplacementStash Place} (staged : stash.stagedPath ≠ some place)
    (moved : stash.stagedPath ≠ none → stash.originalPath ≠ place) :
    putBack stash disk place = disk place := by
  unfold putBack
  cases aside : stash.stagedPath with
  | none => rfl
  | some other =>
    rw [aside] at staged moved
    refine Disk.move_of_ne (fun same => staged ?_) (moved (some_ne_none _)).symm
    rw [same]

theorem undo_of_not_mem (staged : place ∉ stagedPlaces pending)
    (moved : place ∉ movedPlaces pending) :
    undo pending disk place = disk place := by
  rw [mem_stagedPlaces] at staged
  rw [mem_movedPlaces] at moved
  induction pending with
  | nil => rfl
  | cons first rest ih =>
    have here : putBack first.stash (undo rest disk) place = undo rest disk place := by
      refine putBack_of_not_mem (fun same => staged ⟨first, mem_cons_self, same⟩) fun some same =>
        moved ⟨first, mem_cons_self, some, same⟩
    refine here.trans (ih ?_ ?_)
    · rintro ⟨one, member, same⟩
      exact staged ⟨one, mem_cons_of_mem _ member, same⟩
    · rintro ⟨one, member, same⟩
      exact moved ⟨one, mem_cons_of_mem _ member, same⟩

/-- Writes at different places commute with a move of others. -/
theorem move_write {source target : Place} (notSource : source ≠ place) :
    (disk.write place entry).move ⟨source, target⟩ =
      if target = place then disk.move ⟨source, target⟩
      else (disk.move ⟨source, target⟩).write place entry := by
  unfold Disk.move
  simp only
  rw [Disk.write_of_ne notSource]
  split
  · rename_i same
    rw [same, Disk.write_write]
  · rename_i other
    unfold Disk.write
    rw [Function.update_comm (Ne.symm other), Function.update_comm (Ne.symm notSource)]

/-- What is written where nothing is set aside is lost in the undoing at replaced paths, and stays
everywhere else. -/
theorem undo_write (staged : place ∉ stagedPlaces pending) :
    undo pending (disk.write place entry) =
      if place ∈ movedPlaces pending then undo pending disk
      else (undo pending disk).write place entry := by
  induction pending with
  | nil => rfl
  | cons first rest ih =>
    have step (disk : Disk Place Entry) :
        undo (first :: rest) disk = putBack first.stash (undo rest disk) := rfl
    rw [step, step]
    cases aside : first.stash.stagedPath with
    | none =>
      have same : stagedPlaces (first :: rest) = stagedPlaces rest ∧
          movedPlaces (first :: rest) = movedPlaces rest := by
        simp [stagedPlaces, movedPlaces, aside]
      rw [same.1] at staged
      rw [same.2, putBack, putBack, aside]
      exact ih staged
    | some other =>
      have same : stagedPlaces (first :: rest) = other :: stagedPlaces rest ∧
          movedPlaces (first :: rest) = first.stash.originalPath :: movedPlaces rest := by
        simp [stagedPlaces, movedPlaces, aside]
      rw [same.1, mem_cons, not_or] at staged
      rw [same.2, ih staged.2, putBack, putBack, aside]
      simp only [mem_cons]
      by_cases inside : place ∈ movedPlaces rest
      · rw [if_pos inside, if_pos (.inr inside)]
      · rw [if_neg inside, move_write (Ne.symm staged.1)]
        by_cases here : first.stash.originalPath = place
        · rw [if_pos here, if_pos (.inl here.symm)]
        · rw [if_neg here, if_neg fun either => either.elim (fun same => here same.symm) inside]

/-- Undoing does not see what is written elsewhere, or at replaced paths. -/
theorem undo_write_apply {other : Place}
    (staged : place ∉ stagedPlaces pending) (hidden : other ∈ movedPlaces pending ∨ place ≠ other) :
    undo pending (disk.write place entry) other = undo pending disk other := by
  rw [undo_write staged]
  split
  · rfl
  · rename_i bare
    refine Disk.write_of_ne ?_ entry
    rintro rfl
    exact hidden.elim bare fun apart => apart rfl

theorem writeAll_of_not_mem (disk : Disk Place Entry)
    (apart : ∀ write ∈ work, write.1 ≠ place) : writeAll work disk place = disk place := by
  induction work generalizing disk with
  | nil => rfl
  | cons first rest ih =>
    have later := ih (disk.write first.1 first.2)
      fun write member => apart write (mem_cons_of_mem _ member)
    exact later.trans (Disk.write_of_ne (apart first mem_cons_self).symm first.2)

/-! ### What is kept while the transaction is open -/

/-- Stashes that can be restored, last in, first out: each of them is there, and no later one takes
or overwrites it. -/
structure Stands (pending : List (Pending Place Entry)) (disk : Disk Place Entry) : Prop where
  copies : ∀ one ∈ pending, ∀ staged, one.stash.stagedPath = some staged →
    disk staged = one.content ∧ one.content ≠ none
  own : ∀ one ∈ pending, one.stash.stagedPath ≠ some one.stash.originalPath
  apart : pending.Pairwise fun earlier later => ∀ staged, earlier.stash.stagedPath = some staged →
    later.stash.stagedPath ≠ none →
    later.stash.originalPath ≠ staged ∧ later.stash.stagedPath ≠ some staged

/-- Stashes whose undoing brings back the first content of each replaced path. -/
structure Kept (pending : List (Pending Place Entry)) (disk : Disk Place Entry) : Prop
    extends Stands pending disk where
  originals : Back pending (undo pending disk)

omit [DecidableEq Place] in
theorem Stands.there (stands : Stands pending disk) (member : one ∈ pending) {staged : Place}
    (aside : one.stash.stagedPath = some staged) :
    disk staged ≠ none ∧ staged ≠ one.stash.originalPath := by
  obtain ⟨copy, some⟩ := stands.copies one member staged aside
  refine ⟨by rwa [copy], ?_⟩
  rintro rfl
  exact stands.own one member aside

omit [DecidableEq Place] in
theorem Stands.left (stands : Stands (pending ++ own) disk) : Stands pending disk where
  copies one member := stands.copies one (mem_append_left _ member)
  own one member := stands.own one (mem_append_left _ member)
  apart := (pairwise_append.1 stands.apart).1

theorem Stands.write (stands : Stands pending disk)
    (staged : place ∉ stagedPlaces pending) : Stands pending (disk.write place entry) where
  copies := by
    intro one member other aside
    obtain ⟨copy, some⟩ := stands.copies one member other aside
    refine ⟨?_, some⟩
    rw [Disk.write_of_ne, copy]
    rintro rfl
    exact staged (mem_stagedPlaces.2 ⟨one, member, aside⟩)
  own := stands.own
  apart := stands.apart

theorem Kept.write (kept : Kept pending disk) (spares : Spares pending place) :
    Kept pending (disk.write place entry) where
  toStands := kept.toStands.write spares.1
  originals := by
    intro other content first
    rw [undo_write_apply spares.1, kept.originals other content first]
    by_cases same : place = other
    · rw [← same]
      refine .inl (spares.2 ?_)
      rw [same, first]
      exact some_ne_none _
    · exact .inr same

theorem Kept.writeAll (kept : Kept pending disk)
    (spares : ∀ write ∈ work, Spares pending write.1) : Kept pending (writeAll work disk) := by
  induction work generalizing disk with
  | nil => exact kept
  | cons first rest ih =>
    exact ih (kept.write (spares first mem_cons_self))
      fun write member => spares write (mem_cons_of_mem _ member)

/-- A registration sets nothing aside, or moves what it replaces to the free place. -/
theorem stage_cases (disk : Disk Place Entry) (registration : Registration Place Entry) :
    (stageReplacementFile disk registration = (disk, none) ∧ replaced disk registration = []) ∨
    (∃ one, stageReplacementFile disk registration = (disk, some one.stash) ∧
      replaced disk registration = [one] ∧ one.stash.stagedPath = none ∧
      one.content = disk one.stash.originalPath) ∨
    ∃ one, stageReplacementFile disk registration =
        (disk.move ⟨one.stash.originalPath, registration.asidePath⟩, some one.stash) ∧
      replaced disk registration = [one] ∧
      one.stash.stagedPath = some registration.asidePath ∧
      one.content = disk one.stash.originalPath ∧ one.content ≠ none := by
  have listed {after : Disk Place Entry} {stash : ReplacementStash Place}
      (staged : stageReplacementFile disk registration = (after, some stash)) :
      replaced disk registration = [{ stash, content := disk stash.originalPath }] := by
    rw [replaced, staged]
    rfl
  cases target : registration.replaces with
  | none =>
    have staged : stageReplacementFile disk registration = (disk, none) := by
      simp only [stageReplacementFile, target]
    refine .inl ⟨staged, ?_⟩
    rw [replaced, staged]
    rfl
  | some original =>
    right
    by_cases bare : registration.preserveReplacedArtifact = true ∨ disk original = none ∨
        registration.sameSource = true
    · left
      have staged : stageReplacementFile disk registration =
          (disk, some ⟨registration.libraryFile, original, none, false⟩) := by
        simp only [stageReplacementFile, target]
        rcases bare with preserve | missing | same
        · rw [if_pos preserve]
        · rw [if_pos missing, ite_self]
        · rw [if_pos same, ite_self, ite_self]
      exact ⟨_, staged, listed staged, rfl, rfl⟩
    · right
      rw [not_or, not_or] at bare
      obtain ⟨preserve, missing, same⟩ := bare
      cases trash : registration.trashPath with
      | none =>
        have staged : stageReplacementFile disk registration =
            (disk.move ⟨original, registration.stagingPath⟩,
              some ⟨registration.libraryFile, original, some registration.stagingPath, false⟩) := by
          simp only [stageReplacementFile, target, trash]
          rw [if_neg preserve, if_neg missing, if_neg same]
        have aside : registration.asidePath = registration.stagingPath := by
          rw [Registration.asidePath, trash]
          rfl
        rw [aside]
        exact ⟨_, staged, listed staged, rfl, rfl, missing⟩
      | some place =>
        have staged : stageReplacementFile disk registration =
            (disk.move ⟨original, place⟩,
              some ⟨registration.libraryFile, original, some place, true⟩) := by
          simp only [stageReplacementFile, target, trash]
          rw [if_neg preserve, if_neg missing, if_neg same]
        have aside : registration.asidePath = place := by
          rw [Registration.asidePath, trash]
          rfl
        rw [aside]
        exact ⟨_, staged, listed staged, rfl, rfl, missing⟩

/-- What no stash tells of stands where it stood. -/
theorem Kept.undo_apply (kept : Kept pending disk) (staged : place ∉ stagedPlaces pending)
    (fresh : firstContent pending place = none) : undo pending disk place = disk place := by
  refine undo_of_not_mem staged fun moved => ?_
  obtain ⟨one, member, aside, same⟩ := mem_movedPlaces.1 moved
  obtain ⟨other, aside⟩ := ne_none_iff_exists'.1 aside
  obtain ⟨_, some⟩ := kept.copies one member other aside
  unfold firstContent at fresh
  rw [List.head?_eq_none_iff, filterMap_eq_nil_iff] at fresh
  have none := fresh one member
  rw [if_pos same] at none
  exact some none

theorem firstContent_singleton : firstContent [one] place =
    if one.stash.originalPath = place then one.content else none := by
  unfold firstContent
  split
  · rename_i same
    cases content : one.content with
    | none => simp [same, content]
    | some entry => simp [same, content]
  · rename_i other
    simp [other]

/-- A stash whose undoing is what was before brings back what it replaces, too. -/
theorem Kept.back_concat {after : Disk Place Entry} (kept : Kept pending disk)
    (off : one.stash.originalPath ∉ stagedPlaces pending)
    (undone : putBack one.stash after = disk)
    (content : one.content = disk one.stash.originalPath) :
    Back (pending ++ [one]) (undo (pending ++ [one]) after) := by
  intro place entry first
  rw [undo_concat, undone]
  rw [firstContent_append, firstContent_singleton] at first
  cases before : firstContent pending place with
  | some earlier =>
    rw [before, some_or] at first
    rw [← first]
    exact kept.originals place earlier before
  | none =>
    rw [before, none_or] at first
    split at first
    · rename_i same
      rw [content, same] at first
      rw [same] at off
      rw [kept.undo_apply off before, first]
    · cases first

/-- What is set aside joins what is kept. -/
theorem Kept.stage (kept : Kept pending disk) (free : disk registration.asidePath = none)
    (off : ∀ one ∈ replaced disk registration, one.stash.originalPath ∉ stagedPlaces pending) :
    Kept (pending ++ replaced disk registration)
      (stageReplacementFile disk registration).1 := by
  rcases stage_cases disk registration with ⟨staged, own⟩ | ⟨one, staged, own, aside, content⟩ |
    ⟨one, staged, own, aside, content, present⟩
  · rw [staged, own, append_nil]
    exact kept
  · rw [own] at off
    have away := off one mem_cons_self
    rw [staged, own]
    have nothing : putBack one.stash disk = disk := by
      rw [putBack, aside]
    refine ⟨⟨?_, ?_, ?_⟩, kept.back_concat away nothing content⟩
    · intro other member place taken
      rcases mem_append.1 member with earlier | last
      · exact kept.copies other earlier place taken
      · rw [mem_singleton.1 last, aside] at taken
        cases taken
    · intro other member
      rcases mem_append.1 member with earlier | last
      · exact kept.own other earlier
      · rw [mem_singleton.1 last, aside]
        exact (some_ne_none _).symm
    · rw [pairwise_append]
      refine ⟨kept.apart, pairwise_singleton _ _, fun earlier _ last inside place _ some => ?_⟩
      rw [mem_singleton.1 inside, aside] at some
      exact absurd rfl some
  · rw [own] at off
    have away := off one mem_cons_self
    rw [staged, own]
    have apart : one.stash.originalPath ≠ registration.asidePath := by
      intro same
      rw [content, same, free] at present
      exact present rfl
    have undone : putBack one.stash
        (disk.move ⟨one.stash.originalPath, registration.asidePath⟩) = disk := by
      rw [putBack, aside]
      exact Disk.move_move apart free
    -- What is set aside already is neither what is replaced nor the free place.
    have clear {earlier : Pending Place Entry} (member : earlier ∈ pending) {place : Place}
        (taken : earlier.stash.stagedPath = some place) :
        one.stash.originalPath ≠ place ∧ registration.asidePath ≠ place := by
      obtain ⟨copy, some⟩ := kept.copies earlier member place taken
      refine ⟨?_, ?_⟩
      · rintro rfl
        exact away (mem_stagedPlaces.2 ⟨earlier, member, taken⟩)
      · rintro rfl
        rw [free] at copy
        exact some copy.symm
    refine ⟨⟨?_, ?_, ?_⟩, kept.back_concat away undone content⟩
    · intro other member place taken
      rcases mem_append.1 member with earlier | last
      · obtain ⟨copy, some⟩ := kept.copies other earlier place taken
        obtain ⟨notOriginal, notAside⟩ := clear earlier taken
        have stays : disk.move ⟨one.stash.originalPath, registration.asidePath⟩ place = disk place :=
          Disk.move_of_ne notOriginal.symm notAside.symm
        exact ⟨stays.trans copy, some⟩
      · rw [mem_singleton.1 last] at taken ⊢
        rw [aside] at taken
        cases taken
        have moved : disk.move ⟨one.stash.originalPath, registration.asidePath⟩
            registration.asidePath = disk one.stash.originalPath := Disk.move_target apart
        exact ⟨moved.trans content.symm, present⟩
    · intro other member
      rcases mem_append.1 member with earlier | last
      · exact kept.own other earlier
      · rw [mem_singleton.1 last, aside]
        intro same
        exact apart (Option.some.inj same).symm
    · rw [pairwise_append]
      refine ⟨kept.apart, pairwise_singleton _ _, fun earlier member last inside place taken _ => ?_⟩
      obtain ⟨notOriginal, notAside⟩ := clear member taken
      rw [mem_singleton.1 inside, aside]
      exact ⟨notOriginal, fun same => notAside (Option.some.inj same)⟩

/-! ### Registrations -/

/-- What holds between the steps of a run. -/
structure Session.Sound (session : Session Place Entry) : Prop where
  kept : Kept session.pending session.disk
  none_undone : ∀ one ∈ session.pending, one.undone = false

/-- Only a replaced path has a first content. -/
theorem originalPath_of_firstContent (first : firstContent pending place = some content) :
    ∃ one ∈ pending, one.stash.originalPath = place := by
  unfold firstContent at first
  have member := mem_of_mem_head? first
  obtain ⟨one, inside, here⟩ := mem_filterMap.1 member
  refine ⟨one, inside, ?_⟩
  by_contra other
  rw [if_neg other] at here
  cases here

/-- What is written elsewhere leaves replaced files where they are. -/
theorem Back.writeAll (back : Back pending disk)
    (apart : ∀ write ∈ work, ∀ one ∈ pending, write.1 ≠ one.stash.originalPath) :
    Back pending (writeAll work disk) := by
  intro place content first
  rw [writeAll_of_not_mem disk fun write member => ?_]
  · exact back place content first
  · obtain ⟨one, member', same⟩ := originalPath_of_firstContent first
    rw [← same]
    exact apart write member one member'

/-- A replacement of the file at 0 that succeeds, or whose flush fails. -/
def replacement (stagingPath : ℕ) (content : String) (outcome : RegistrationOutcome) :
    SessionStep ℕ String :=
  .register
    { libraryFile := 7, replaces := some 0, stagingPath, work := [(0, some content)], outcome }

end Pullbox.Library
