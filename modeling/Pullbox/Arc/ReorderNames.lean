import Mathlib.Data.List.Pairwise
import Pullbox.Arc.ReorderRecovery

/-!
# Names that recovery keeps

While no path holds the file of two placements, recovery unlinks only further names of a file whose
selected name stays, so every placement that could be restored still can be. Two placements of one
inode break this: the name of one passes for a duplicate of the other.
-/

namespace Pullbox.Arc.Reorder

open List

open Files (Disk)

universe u v

section Names

variable {Path : Type u} {Fingerprint : Type v}
  {system : RecoverySystem Path Fingerprint} {prefer : RecoveryPreference}
  {plans rest : List (PlacementPlan Path Fingerprint)} {item other : PlacementPlan Path Fingerprint}
  {tree origin : Disk Path DiskEntry} {recovery : Recovery Path Fingerprint}
  {path selected : Path}

/-- The recorded path holds the file of the placement. -/
structure Holds (system : RecoverySystem Path Fingerprint) (tree : Disk Path DiskEntry)
    (item : PlacementPlan Path Fingerprint) (path : Path) : Prop where
  recorded : path ∈ item.paths
  matching : system.current tree path = some item.targetFingerprint

instance [DecidableEq Path] [DecidableEq Fingerprint] (item : PlacementPlan Path Fingerprint)
    (path : Path) : Decidable (Holds system tree item path) :=
  decidable_of_iff (path ∈ item.paths ∧ system.current tree path = some item.targetFingerprint)
    ⟨fun ⟨recorded, matching⟩ => ⟨recorded, matching⟩, fun holds => ⟨holds.1, holds.2⟩⟩

/-- Each placement has a name of its own for its file. -/
def Restorable (system : RecoverySystem Path Fingerprint) (tree : Disk Path DiskEntry)
    (plans : List (PlacementPlan Path Fingerprint)) : Prop :=
  ∃ places, List.Forall₂ (Holds system tree) plans places ∧ places.Nodup

/-- No path holds the file of two placements. -/
def Apart (system : RecoverySystem Path Fingerprint) (tree : Disk Path DiskEntry)
    (plans : List (PlacementPlan Path Fingerprint)) : Prop :=
  plans.Pairwise fun one two => ∀ path, Holds system tree one path → ¬ Holds system tree two path

/-- An unlinked path is not the only remaining name of a placement's file, and not the old path
at which the file of another placement stands. -/
structure Harmless (system : RecoverySystem Path Fingerprint)
    (plans : List (PlacementPlan Path Fingerprint)) (removal : Removal Path Fingerprint) :
    Prop where
  spare : ∀ item ∈ plans, Holds system removal.before item removal.path →
    ∃ path, path ≠ removal.path ∧ Holds system removal.before item path
  start : ∀ item ∈ plans, item ≠ removal.item → removal.path = item.oldPath →
    ¬ Holds system removal.before item removal.path

namespace Apart

theorem eq_of_holds (apart : Apart system tree plans) (inside : item ∈ plans)
    (otherInside : other ∈ plans) (holds : Holds system tree item path)
    (otherHolds : Holds system tree other path) : item = other := by
  by_contra different
  have symmetric : Std.Symm fun one two : PlacementPlan Path Fingerprint =>
      ∀ path, Holds system tree one path → ¬ Holds system tree two path :=
    ⟨fun _ _ disjoint path two one => disjoint path one two⟩
  exact apart.forall inside otherInside different path holds otherHolds

end Apart

theorem Restorable.exists_holds (restorable : Restorable system tree plans)
    (inside : item ∈ plans) : ∃ path, Holds system tree item path := by
  obtain ⟨places, each, -⟩ := restorable
  induction each with
  | nil => cases inside
  | cons here _ ih =>
    rcases mem_cons.1 inside with rfl | later
    · exact ⟨_, here⟩
    · exact ih later

/-- With no path shared, a name for each placement is enough. -/
theorem restorable_of_exists (apart : Apart system tree plans)
    (named : ∀ item ∈ plans, ∃ path, Holds system tree item path) :
    Restorable system tree plans := by
  induction plans with
  | nil => exact ⟨[], .nil, nodup_nil⟩
  | cons item rest ih =>
    obtain ⟨disjoint, later⟩ := pairwise_cons.1 apart
    obtain ⟨path, here⟩ := named item mem_cons_self
    obtain ⟨places, each, once⟩ :=
      ih later fun other inside => named other (mem_cons_of_mem _ inside)
    refine ⟨path :: places, .cons here each, nodup_cons.2 ⟨?_, once⟩⟩
    intro taken
    obtain ⟨other, inside, holds⟩ : ∃ other ∈ rest, Holds system tree other path := by
      clear ih later once disjoint named apart
      induction each with
      | nil => cases taken
      | cons holds _ ih =>
        rcases mem_cons.1 taken with rfl | later
        · exact ⟨_, mem_cons_self, holds⟩
        · obtain ⟨other, inside, holds⟩ := ih later
          exact ⟨other, mem_cons_of_mem _ inside, holds⟩
    exact disjoint other inside path here holds

/-! ### What the loop keeps -/

/-- What holds at each point of the loop over the placements. -/
structure Kept (system : RecoverySystem Path Fingerprint)
    (plans : List (PlacementPlan Path Fingerprint)) (origin : Disk Path DiskEntry)
    (recovery : Recovery Path Fingerprint) : Prop where
  coherent : ∀ path ∈ plans.flatMap PlacementPlan.paths,
    recovery.fingerprints path = system.current recovery.tree path
  frame : ∀ path, path ∉ recovery.removals.map Removal.path → recovery.tree path = origin path
  gone : ∀ path ∈ recovery.removals.map Removal.path, recovery.tree path = none
  harmless : ∀ removal ∈ recovery.removals, Harmless system plans removal
  named : ∀ item ∈ plans, (∃ path, Holds system origin item path) →
    ∃ path, Holds system recovery.tree item path

namespace Kept

/-- What stands at a path stood there before. -/
theorem holds_origin (kept : Kept system plans origin recovery)
    (holds : Holds system recovery.tree item path) : Holds system origin item path := by
  obtain ⟨recorded, matching⟩ := holds
  refine ⟨recorded, ?_⟩
  unfold RecoverySystem.current at matching ⊢
  by_cases removed : path ∈ recovery.removals.map Removal.path
  · rw [kept.gone path removed] at matching
    cases matching
  · rw [← kept.frame path removed]
    exact matching

/-- The file that was found at a path stands there unless it was unlinked. -/
theorem holds_of_present (kept : Kept system plans origin recovery) {entry : DiskEntry}
    (holds : Holds system origin item path) (present : recovery.tree path = some entry) :
    Holds system recovery.tree item path := by
  obtain ⟨recorded, matching⟩ := holds
  refine ⟨recorded, ?_⟩
  have stays : path ∉ recovery.removals.map Removal.path := by
    intro removed
    rw [kept.gone path removed] at present
    cases present
  unfold RecoverySystem.current at matching ⊢
  rw [kept.frame path stays]
  exact matching

/-- The rest of the loop's state does not matter. -/
theorem congr {after : Recovery Path Fingerprint} (kept : Kept system plans origin recovery)
    (tree : after.tree = recovery.tree) (fingerprints : after.fingerprints = recovery.fingerprints)
    (removals : after.removals = recovery.removals) : Kept system plans origin after where
  coherent := by
    rw [tree, fingerprints]
    exact kept.coherent
  frame := by
    rw [tree, removals]
    exact kept.frame
  gone := by
    rw [tree, removals]
    exact kept.gone
  harmless := by
    rw [removals]
    exact kept.harmless
  named := by
    rw [tree]
    exact kept.named

end Kept

section Steps

variable [DecidableEq Path]

theorem kept_start : Kept system plans tree (Recovery.start system plans tree) where
  coherent _ inside := if_pos inside
  frame _ _ := rfl
  gone _ inside := by cases inside
  harmless _ inside := by cases inside
  named _ _ found := found

theorem holds_write_of_ne (holds : Holds system tree item selected) (apart : selected ≠ path) :
    Holds system (tree.write path none) item selected := by
  obtain ⟨recorded, matching⟩ := holds
  refine ⟨recorded, ?_⟩
  unfold RecoverySystem.current at matching ⊢
  rw [Disk.write_of_ne apart]
  exact matching

/-- A further name of a file is unlinked while the selected one stays. -/
theorem Kept.unlink (kept : Kept system plans origin recovery) (apart : Apart system origin plans)
    (inside : item ∈ plans) (here : Holds system recovery.tree item path)
    (stays : Holds system recovery.tree item selected) (other : selected ≠ path) :
    Kept system plans origin (recovery.unlink item path) := by
  have alone {holder : PlacementPlan Path Fingerprint} (holderIn : holder ∈ plans)
      (holds : Holds system recovery.tree holder path) : holder = item :=
    apart.eq_of_holds holderIn inside (kept.holds_origin holds) (kept.holds_origin here)
  constructor
  · intro place recorded
    rw [Recovery.unlink_fingerprints, Recovery.unlink_tree]
    unfold RecoverySystem.current
    by_cases same : place = path
    · subst same
      rw [Function.update_self, Disk.write_self]
      rfl
    · rw [Function.update_of_ne same, Disk.write_of_ne same]
      exact kept.coherent place recorded
  · intro place stands
    simp only [Recovery.unlink_removals, map_append, map_cons, map_nil,
      mem_append, mem_singleton, not_or] at stands
    exact (Disk.write_of_ne stands.2 none).trans (kept.frame place stands.1)
  · intro place removed
    simp only [Recovery.unlink_removals, map_append, map_cons, map_nil,
      mem_append, mem_singleton] at removed
    by_cases same : place = path
    · subst same
      exact Disk.write_self none
    · exact (Disk.write_of_ne same none).trans (kept.gone place (removed.resolve_right same))
  · intro removal removed
    rcases mem_append.1 removed with before | last
    · exact kept.harmless removal before
    · obtain rfl := mem_singleton.1 last
      constructor
      · intro holder holderIn holds
        obtain rfl := alone holderIn holds
        exact ⟨selected, other, stays⟩
      · intro holder holderIn different _ holds
        exact different (alone holderIn holds)
  · intro holder holderIn found
    obtain ⟨place, holds⟩ := kept.named holder holderIn found
    by_cases same : place = path
    · subst same
      obtain rfl := alone holderIn holds
      exact ⟨selected, holds_write_of_ne stays other⟩
    · exact ⟨place, holds_write_of_ne holds same⟩

variable [DecidableEq Fingerprint]

omit [DecidableEq Path] in
theorem Kept.holds_of_candidate (kept : Kept system plans origin recovery) (inside : item ∈ plans)
    (candidate : path ∈ recovery.candidates item) : Holds system recovery.tree item path := by
  obtain ⟨recorded, matching⟩ := mem_filter.1 candidate
  refine ⟨recorded, ?_⟩
  rw [← kept.coherent path (mem_flatMap.2 ⟨item, inside, recorded⟩)]
  exact of_decide_eq_true matching

/-- An unlink is made, or nothing happens. -/
theorem unlinkExactDuplicate_cases :
    (∃ entry raised, recovery.tree path = some entry ∧
      Recovery.unlinkExactDuplicate system item path recovery =
        (recovery.unlink item path, raised)) ∨
    ∃ error, Recovery.unlinkExactDuplicate system item path recovery = (recovery, some error) := by
  unfold Recovery.unlinkExactDuplicate
  cases present : recovery.tree path with
  | none => exact .inr ⟨_, rfl⟩
  | some entry =>
    by_cases exactly : system.exactDuplicate item path entry
    · cases answer : system.answer recovery.removals.length with
      | done => exact .inl ⟨entry, none, rfl, by simp [exactly]⟩
      | refused => exact .inr ⟨.system, by simp [exactly]⟩
      | unsynced => exact .inl ⟨entry, some .system, rfl, by simp [exactly]⟩
    · exact .inr ⟨.duplicateChanged, by simp [exactly]⟩

/-- Unlinking the candidates but for the selected one keeps what the loop keeps. -/
theorem Kept.clear (kept : Kept system plans origin recovery) (apart : Apart system origin plans)
    (inside : item ∈ plans) (stays : Holds system recovery.tree item selected)
    {duplicates : List Path} (found : ∀ path ∈ duplicates, Holds system origin item path) :
    Kept system plans origin (Recovery.clear system item selected duplicates recovery).1 := by
  induction duplicates generalizing recovery with
  | nil => exact kept
  | cons duplicate rest ih =>
    have later : ∀ path ∈ rest, Holds system origin item path :=
      fun path member => found path (mem_cons_of_mem _ member)
    unfold Recovery.clear
    by_cases same : duplicate = selected
    · rw [if_pos same]
      exact ih kept stays later
    · rw [if_neg same]
      obtain ⟨entry, raised, present, made⟩ | ⟨error, refused⟩ :
          (∃ entry raised, recovery.tree duplicate = some entry ∧
            Recovery.unlinkExactDuplicate system item duplicate recovery =
              (recovery.unlink item duplicate, raised)) ∨
          ∃ error, Recovery.unlinkExactDuplicate system item duplicate recovery =
            (recovery, some error) := unlinkExactDuplicate_cases
      · have here := kept.holds_of_present (found duplicate mem_cons_self) present
        have after := kept.unlink apart inside here stays (Ne.symm same)
        rw [made]
        cases raised with
        | none => exact ih after (holds_write_of_ne stays (Ne.symm same)) later
        | some error => exact after
      · rw [refused]
        exact kept

/-- One placement of the loop. -/
theorem Kept.locate (kept : Kept system plans origin recovery) (apart : Apart system origin plans)
    (inside : item ∈ plans) :
    Kept system plans origin (Recovery.locate system prefer item recovery).1 := by
  unfold Recovery.locate
  dsimp only
  cases chosen : (item.preference prefer).find? fun path =>
      (recovery.candidates item).contains path with
  | none => exact kept
  | some selected =>
    have stays : Holds system recovery.tree item selected := by
      apply kept.holds_of_candidate inside
      simpa using List.find?_some chosen
    have found : ∀ path ∈ recovery.candidates item, Holds system origin item path :=
      fun path candidate => kept.holds_origin (kept.holds_of_candidate inside candidate)
    have cleared := kept.clear apart inside stays found
    by_cases claimed : recovery.claimed.contains selected
    · simp only [claimed, if_true]
      exact kept
    · simp only [claimed]
      cases steps : Recovery.clear system item selected (recovery.candidates item) recovery with
      | mk after raised =>
        rw [steps] at cleared
        cases raised with
        | none => exact cleared.congr rfl rfl rfl
        | some error => exact cleared

/-- All placements of the loop. -/
theorem Kept.locateAll (kept : Kept system plans origin recovery)
    (apart : Apart system origin plans) (inside : ∀ item ∈ rest, item ∈ plans) :
    Kept system plans origin (Recovery.locateAll system prefer rest recovery).1 := by
  induction rest generalizing recovery with
  | nil => exact kept
  | cons item rest ih =>
    have here : Kept system plans origin (Recovery.locate system prefer item recovery).1 :=
      kept.locate apart (inside item mem_cons_self)
    have later : ∀ item ∈ rest, item ∈ plans :=
      fun item member => inside item (mem_cons_of_mem _ member)
    unfold Recovery.locateAll
    cases step : Recovery.locate system prefer item recovery with
    | mk after raised =>
      rw [step] at here
      cases raised with
      | none => exact ih here later
      | some error => exact here

/-- Locating all files of a reorder keeps what can be restored. -/
theorem kept_locateManagedArtifacts (apart : Apart system tree plans) :
    Kept system plans tree (locateManagedArtifacts system prefer plans tree).1 := by
  unfold locateManagedArtifacts
  simp only
  split
  · exact kept_start
  · exact kept_start.locateAll apart fun _ inside => inside

/-- While no path holds the file of two placements, no unlink takes the last name of a file or the
old path of another placement from its file, nothing else changes, and every placement that could
be restored still can be. -/
theorem locateManagedArtifacts_keeps (apart : Apart system tree plans) :
    (∀ removal ∈ (locateManagedArtifacts system prefer plans tree).1.removals,
      Harmless system plans removal) ∧
    (∀ path, path ∉ (locateManagedArtifacts system prefer plans tree).1.removals.map Removal.path →
      (locateManagedArtifacts system prefer plans tree).1.tree path = tree path) ∧
    (Restorable system tree plans →
      Restorable system (locateManagedArtifacts system prefer plans tree).1.tree plans) := by
  have kept : Kept system plans tree (locateManagedArtifacts system prefer plans tree).1 :=
    kept_locateManagedArtifacts apart
  refine ⟨kept.harmless, kept.frame, fun restorable => ?_⟩
  apply restorable_of_exists
  · exact apart.imp fun disjoint path one two =>
      disjoint path (kept.holds_origin one) (kept.holds_origin two)
  · exact fun item inside => kept.named item inside (restorable.exists_holds inside)

end Steps

end Names

/-! ### Two placements that change their paths -/

/-- Regular files whose fingerprint is their inode, and nothing that fails. -/
def plainRecovery : RecoverySystem String ℕ where
  fingerprintTarget _ entry := some entry.inode
  fingerprintTargetAt _ _ entry := some entry.inode
  admissible _ _ := true
  answer _ := .done

def swapped (placementId inode : ℕ) (oldPath temporaryPath newPath : String) :
    PlacementPlan String ℕ where
  placementId := placementId
  mode := .hardlink
  oldPath := oldPath
  newPath := newPath
  temporaryPath := some temporaryPath
  canonicalPath := none
  targetFingerprint := inode

def treeOf (entries : List (String × ℕ)) : Disk String DiskEntry := fun path =>
  (entries.find? fun entry => entry.1 == path).map fun entry => ⟨entry.2, .regular⟩

def twoFiles : List (PlacementPlan String ℕ) :=
  [swapped 1 10 "one" ".one" "two", swapped 2 20 "two" ".two" "one"]

/-- The first file is published under its new path and not yet unlinked at its temporary one. -/
def published : Disk String DiskEntry :=
  treeOf [(".one", 10), ("two", 10), (".two", 20)]

theorem apart_twoFiles : Apart plainRecovery published twoFiles := by
  have disjoint : ∀ path ∈ (swapped 1 10 "one" ".one" "two").paths,
      Holds plainRecovery published (swapped 1 10 "one" ".one" "two") path →
        ¬ Holds plainRecovery published (swapped 2 20 "two" ".two" "one") path := by decide
  refine pairwise_pair.2 fun path one => disjoint path one.recorded one

/-- Two files of their own stay restorable. -/
theorem locateManagedArtifacts_keeps_twoFiles :
    Apart plainRecovery published twoFiles ∧
      Restorable plainRecovery published twoFiles ∧
      Restorable plainRecovery
        (locateManagedArtifacts plainRecovery .old twoFiles published).1.tree twoFiles := by
  have restorable : Restorable plainRecovery published twoFiles :=
    ⟨[".one", ".two"], .cons (by decide) (.cons (by decide) .nil), by decide⟩
  exact ⟨apart_twoFiles, restorable,
    (locateManagedArtifacts_keeps apart_twoFiles).2.2 restorable⟩

/-- An unlinked path is never the only remaining name of a file or the old path of another
placement, whatever stands there, and what raises leaves every placement restorable. -/
structure Spares (system : RecoverySystem String ℕ) (plans : List (PlacementPlan String ℕ))
    (tree : Disk String DiskEntry) (result : Recovery String ℕ × Option RecoveryError) : Prop where
  names : ∀ removal ∈ result.1.removals, ∀ item ∈ plans,
    Holds system removal.before item removal.path →
      ∃ path, path ≠ removal.path ∧ Holds system removal.before item path
  starts : ∀ removal ∈ result.1.removals, ∀ item ∈ plans, item ≠ removal.item →
    removal.path ≠ item.oldPath
  restorable : result.2.isSome → Restorable system tree plans →
    Restorable system result.1.tree plans

/-- The half-made move of the first file is taken back from the old path of the second one. -/
theorem not_spares : ¬ ∀ system prefer plans tree,
    Spares system plans tree (locateManagedArtifacts system prefer plans tree) := by
  intro always
  have spares := always plainRecovery .old twoFiles published
  have unlinked : (locateManagedArtifacts plainRecovery .old twoFiles published).1.removals.map
      (fun removal => (removal.item.placementId, removal.path)) = [(1, "two")] := by decide
  obtain ⟨removal, removed, same⟩ := mem_map.1 (unlinked ▸ mem_singleton_self _)
  obtain ⟨placed, path⟩ := Prod.mk.inj same
  refine spares.starts removal removed (swapped 2 20 "two" ".two" "one") ?_ ?_ path
  · exact mem_cons_of_mem _ (mem_singleton_self _)
  · intro itself
    rw [← itself] at placed
    cases placed

end Pullbox.Arc.Reorder
