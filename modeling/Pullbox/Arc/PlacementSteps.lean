import Pullbox.Arc.Placement

/-!
# What the steps of a placement do to the target

Before the link is made the target stays vacant whatever fails, so such a failure leaves it as it
was; from then on a failure leaves it only if the cleanup is reached and nothing fails there.
-/

namespace Pullbox.Arc.Placement

open Files (Disk)
open Durable (Session)
open Durable.Session

/-! ### Reading in pieces -/

theorem flatten_readChunks {size : ℕ} (positive : 0 < size) :
    ∀ (fuel : ℕ) (bytes : List UInt8), bytes.length ≤ fuel →
      (readChunks size fuel bytes).flatten = bytes
  | 0, bytes, enough => by
      rw [List.length_eq_zero_iff.1 (Nat.le_zero.1 enough)]
      rfl
  | fuel + 1, [], _ => rfl
  | fuel + 1, byte :: bytes, enough => by
      unfold readChunks
      rw [List.flatten_cons, flatten_readChunks positive fuel, List.take_append_drop]
      rw [List.length_drop]
      omega

theorem statMatchesFingerprint_self (around : Surroundings) (file : FileNode) :
    statMatchesFingerprint file (around.fingerprintFile file) = true := by
  simp [statMatchesFingerprint, Surroundings.fingerprintFile]

theorem statMatchesFingerprint_source (around : Surroundings) :
    statMatchesFingerprint around.source around.sourceFingerprint = true :=
  statMatchesFingerprint_self around around.source

namespace PlacementRequest

variable {request : PlacementRequest} {folder : Folder} {step : PlacementStep} {α : Type}
  {raises : PlacementError → Folder → Prop} {returns : Published → Folder → Prop}
  {error : PlacementError}

theorem ends_attempt {returns : PUnit → Folder → Prop} :
    Ends (request.attempt step) folder returns raises ↔
      (request.fails step = true → raises (.failed step) folder) ∧
        (request.fails step = false → returns ⟨⟩ folder) := by
  unfold attempt
  rw [ends_refuseIf]
  simp

/-! ### While the target is vacant -/

/-- A failure with a vacant target is as it should be. -/
def Harmless (request : PlacementRequest) (raises : PlacementError → Folder → Prop) : Prop :=
  ∀ error after, after request.target = none → raises error after

section Vacant

variable (harmless : request.Harmless raises) (vacant : folder request.target = none)

include harmless vacant

theorem ends_attempt_vacant {returns : PUnit → Folder → Prop} :
    Ends (request.attempt step) folder returns raises ↔
      (request.fails step = false → returns ⟨⟩ folder) := by
  rw [ends_attempt]
  exact and_iff_right fun _ => harmless _ _ vacant

theorem ends_refuseIf_vacant {condition : Prop} [Decidable condition]
    {returns : PUnit → Folder → Prop} :
    Ends (refuseIf condition error) folder returns raises ↔ (¬ condition → returns ⟨⟩ folder) := by
  rw [ends_refuseIf]
  exact and_iff_right fun _ => harmless _ _ vacant

theorem ends_link {node : Node} {returns : PUnit → Folder → Prop} :
    Ends (request.link node) folder returns raises ↔
      (request.fails .link = false → returns ⟨⟩ (folder.write request.target (some node))) := by
  unfold link
  rw [ends_bind, ends_attempt_vacant harmless vacant]
  apply imp_congr_right
  intro _
  rw [ends_bind, ends_get, ends_bind, ends_refuseIf_vacant harmless vacant, vacant, ends_modify]
  simp

end Vacant

/-- The pieces are written one after the other. -/
theorem ends_writeChunks {index : ℕ} {written : List UInt8} {chunks : List (List UInt8)}
    {returns : PUnit → Folder → Prop} (harmless : request.Harmless raises)
    (vacant : folder request.target = none)
    (holds : folder request.temporary = some (.file (request.temporaryFile written))) :
    Ends (request.writeChunks index written chunks) folder returns raises ↔
      ((∀ step < chunks.length, request.fails (.cancelBeforeChunk (index + step)) = false ∧
        request.fails (.writeChunk (index + step)) = false) →
      returns ⟨⟩ (folder.write request.temporary
        (some (.file (request.temporaryFile (written ++ chunks.flatten)))))) := by
  induction chunks generalizing index written folder with
  | nil =>
    unfold writeChunks
    rw [ends_pure, List.flatten_nil, List.append_nil, Disk.write_eq_self holds]
    simp
  | cons chunk rest ih =>
    have still : folder.write request.temporary
        (some (.file (request.temporaryFile (written ++ chunk)))) request.target = none :=
      (Disk.write_of_ne request.apart.symm _).trans vacant
    unfold writeChunks
    rw [ends_bind, ends_attempt_vacant harmless vacant, ends_bind,
      ends_attempt_vacant harmless vacant, ends_bind, ends_modify,
      ih still (Disk.write_self _), Disk.write_write, List.flatten_cons, List.append_assoc]
    constructor
    · intro each all
      obtain ⟨cancel, write⟩ := all 0 (Nat.succ_pos _)
      refine each cancel write fun step within => ?_
      have here := all (step + 1) (Nat.succ_lt_succ within)
      rw [← Nat.add_assoc, Nat.add_right_comm] at here
      exact here
    · intro all cancel write later
      apply all
      intro step within
      cases step with
      | zero => exact ⟨cancel, write⟩
      | succ step =>
        have here := later step (Nat.lt_of_succ_lt_succ within)
        rw [Nat.add_right_comm, Nat.add_assoc] at here
        exact here

/-- Every piece is written, and the temporary file is linked to its name. -/
structure Fills (request : PlacementRequest) : Prop where
  chunks : ∀ step <
    (readChunks copyChunkBytes request.source.bytes.length request.source.bytes).length,
    request.fails (.cancelBeforeChunk step) = false ∧ request.fails (.writeChunk step) = false
  finished : request.fails .finishTemporary = false
  uncancelled : request.fails .cancelBeforeLink = false
  linked : request.fails .link = false

/-- The copy. -/
def copyNode (request : PlacementRequest) : Node :=
  .file (request.temporaryFile request.source.bytes)

theorem flatten_source :
    (readChunks copyChunkBytes request.source.bytes.length request.source.bytes).flatten =
      request.source.bytes :=
  flatten_readChunks (by decide) _ _ (Nat.le_refl _)

theorem ends_fillAndLink (harmless : request.Harmless raises)
    (vacant : folder request.target = none)
    (holds : folder request.temporary = some (.file (request.temporaryFile []))) :
    Ends request.fillAndLink folder returns raises ↔
      (request.Fills → returns
        { identity := request.copyNode.identity
          sha256 := some (request.sha256 request.source.bytes)
          linkText := none }
        ((folder.write request.temporary (some request.copyNode)).write request.target
          (some request.copyNode))) := by
  have still : folder.write request.temporary
      (some (.file (request.temporaryFile request.source.bytes))) request.target = none :=
    (Disk.write_of_ne request.apart.symm _).trans vacant
  have whole : ¬ (request.source.bytes.length ≠ request.sourceFingerprint.size ∨
      request.sha256 request.source.bytes ≠ request.sourceFingerprint.sha256 ∨
      statMatchesFingerprint request.source request.sourceFingerprint = false) := by
    rw [statMatchesFingerprint_source]
    simp [Surroundings.sourceFingerprint, Surroundings.fingerprintFile]
  unfold fillAndLink
  simp only [flatten_source]
  rw [ends_bind, ends_writeChunks harmless vacant holds, List.nil_append, flatten_source,
    ends_bind, ends_attempt_vacant harmless still, ends_bind,
    ends_refuseIf_vacant harmless still, ends_bind, ends_attempt_vacant harmless still, ends_bind,
    ends_link harmless still, ends_pure]
  simp only [whole, not_false_eq_true, forall_const, Nat.zero_add]
  constructor
  · intro each fills
    exact each fills.chunks fills.finished fills.uncancelled fills.linked
  · intro all chunks finished uncancelled linked
    exact all ⟨chunks, finished, uncancelled, linked⟩

/-! ### Publication -/

/-- The target is vacant. -/
def Left (request : PlacementRequest) (_ : PlacementError) (after : Folder) : Prop :=
  after request.target = none

theorem harmless_left : request.Harmless request.Left :=
  fun _ _ vacant => vacant

/-- What is closed after a session. -/
theorem ends_closing {body : Act α} {returns : α → Folder → Prop} :
    Ends (request.closing step body) folder returns request.Left ↔
      Ends body folder (fun value after => (request.fails step = true → after request.target = none)
        ∧ (request.fails step = false → returns value after)) request.Left := by
  have raised : (fun (error : PlacementError) (after : Folder) =>
      (request.fails step = true → request.Left (.failed step) after) ∧
        (request.fails step = false → request.Left error after)) = request.Left := by
    funext error after
    cases request.fails step <;> simp [Left]
  unfold closing
  simp only [ends_conclude, ends_bind, ends_attempt, ends_pure, ends_throw]
  rw [raised]
  rfl

/-- The folder after a publication; the temporary name may be left. -/
def withoutTemporary (request : PlacementRequest) (folder : Folder) : Folder :=
  if request.fails .unlinkTemporary then folder else folder.write request.temporary none

theorem withoutTemporary_target : request.withoutTemporary folder request.target =
    folder request.target := by
  unfold withoutTemporary
  split
  · rfl
  · exact Disk.write_of_ne request.apart.symm _

theorem ends_dropTemporary_published {returns : PUnit → Folder → Prop} :
    Ends (request.dropTemporary true) folder returns raises ↔
      returns ⟨⟩ (request.withoutTemporary folder) := by
  unfold dropTemporary withoutTemporary
  cases refused : request.fails .unlinkTemporary
  · simp [ends_bind, ends_attempt, ends_modify, refused]
  · simp [ends_pure]

/-- The temporary name after a failure. -/
theorem ends_dropTemporary_failed (vacant : folder request.target = none) :
    Ends (do request.dropTemporary false; throw error) folder returns request.Left := by
  have still : folder.write request.temporary none request.target = none :=
    (Disk.write_of_ne request.apart.symm _).trans vacant
  unfold dropTemporary
  simp only [Bool.false_eq_true, false_and, if_false]
  rw [ends_bind, ends_bind, ends_attempt_vacant _ vacant]
  · intro _
    rw [ends_modify, ends_throw]
    exact still
  · exact harmless_left

/-- The steps up to the link of a copy. -/
structure Copies (request : PlacementRequest) (folder : Folder) : Prop where
  source : request.fails .openSource = false
  unchanged : request.fails .statSource = false
  created : request.fails .createTemporary = false
  fresh : folder request.temporary = none
  fills : request.Fills

/-- The folder with the copy. -/
def copied (request : PlacementRequest) (folder : Folder) : Folder :=
  request.withoutTemporary ((folder.write request.temporary (some request.copyNode)).write
    request.target (some request.copyNode))

theorem copied_target : request.copied folder request.target = some request.copyNode :=
  withoutTemporary_target.trans (Disk.write_self _)

/-- After the link every failure leaves the target behind. -/
theorem unfailing_iff {first second : Bool} {result : Prop} {after : Folder} {node : Node}
    (occupied : after request.target = some node) :
    ((first = true → after request.target = none) ∧ (first = false →
      (second = true → after request.target = none) ∧ (second = false → result))) ↔
      first = false ∧ second = false ∧ result := by
  rw [occupied]
  cases first <;> cases second <;> simp

theorem ends_publishCopyAt (vacant : folder request.target = none) :
    Ends request.publishCopyAt folder returns request.Left ↔
      (request.Copies folder → request.fails .statPublished = false ∧
        request.fails .closeFiles = false ∧ returns
          { identity := request.copyNode.identity
            sha256 := some (request.sha256 request.source.bytes)
            linkText := none } (request.copied folder)) := by
  have still : folder.write request.temporary (some (.file (request.temporaryFile [])))
      request.target = none := (Disk.write_of_ne request.apart.symm _).trans vacant
  have cleans : request.Harmless fun error after => Ends (do
      request.dropTemporary false
      throw error : Act Published) after (fun value after =>
        (request.fails .closeFiles = true → after request.target = none) ∧
          (request.fails .closeFiles = false → returns value after)) request.Left :=
    fun error after gone => ends_dropTemporary_failed gone
  unfold publishCopyAt
  rw [ends_bind, ends_attempt_vacant harmless_left vacant, ends_closing, ends_bind,
    ends_attempt_vacant harmless_left vacant, ends_bind,
    ends_refuseIf_vacant harmless_left vacant, ends_bind,
    ends_attempt_vacant harmless_left vacant, ends_bind, ends_get, ends_bind,
    ends_refuseIf_vacant harmless_left vacant, ends_bind, ends_modify, ends_conclude,
    ends_fillAndLink cleans still (Disk.write_self _), Disk.write_write, ends_bind,
    ends_dropTemporary_published, ends_bind, ends_attempt, ends_pure,
    statMatchesFingerprint_source]
  have made : request.withoutTemporary ((folder.write request.temporary
      (some request.copyNode)).write request.target (some request.copyNode)) =
      request.copied folder := rfl
  rw [made, Left, unfailing_iff copied_target]
  constructor
  · intro steps copies
    refine steps copies.source copies.unchanged (by simp) copies.created ?_ copies.fills
    simp [copies.fresh]
  · intro all source unchanged _ created free fills
    have fresh : folder request.temporary = none := by simpa using free
    exact all ⟨source, unchanged, created, fresh, fills⟩

/-- The steps up to the link of a hard link. -/
structure LinksHard (request : PlacementRequest) : Prop where
  source : request.fails .openSource = false
  unchanged : request.fails .statSource = false
  device : request.source.device = request.device
  linked : request.fails .link = false

theorem ends_publishHardlinkAt (vacant : folder request.target = none) :
    Ends request.publishHardlinkAt folder returns request.Left ↔
      (request.LinksHard → request.fails .statPublished = false ∧
        request.fails .closeFiles = false ∧ returns
          { identity := Node.identity (.file request.source)
            sha256 := some request.sourceFingerprint.sha256
            linkText := none } (folder.write request.target (some (.file request.source)))) := by
  have occupied : folder.write request.target (some (.file request.source)) request.target =
      some (.file request.source) := Disk.write_self _
  unfold publishHardlinkAt
  rw [ends_bind, ends_attempt_vacant harmless_left vacant, ends_closing, ends_bind,
    ends_attempt_vacant harmless_left vacant, ends_bind,
    ends_refuseIf_vacant harmless_left vacant, ends_bind,
    ends_refuseIf_vacant harmless_left vacant, ends_bind, ends_link harmless_left vacant,
    ends_bind, ends_attempt, ends_pure, Left, unfailing_iff occupied,
    statMatchesFingerprint_source]
  constructor
  · intro steps links
    exact steps links.source links.unchanged (by simp) (not_not_intro links.device) links.linked
  · intro all source unchanged _ device linked
    exact all ⟨source, unchanged, not_not.1 device, linked⟩

/-- The steps up to a symbolic link. -/
structure LinksSoft (request : PlacementRequest) (style : StoryArcSymlinkStyle) : Prop where
  resolved : request.fails .resolveLink = false
  leads : request.resolve (request.linkText style) = some request.sourcePath
  linked : request.fails .link = false

theorem ends_publishSymlinkAt {style : StoryArcSymlinkStyle}
    (vacant : folder request.target = none) :
    Ends (request.publishSymlinkAt style) folder returns request.Left ↔
      (request.LinksSoft style → request.fails .statPublished = false ∧ returns
        { identity := (request.symlinkNode style).identity
          sha256 := none
          linkText := some (request.linkText style) }
        (folder.write request.target (some (request.symlinkNode style)))) := by
  have occupied : folder.write request.target (some (request.symlinkNode style)) request.target =
      some (request.symlinkNode style) := Disk.write_self _
  unfold publishSymlinkAt
  rw [ends_bind, ends_attempt_vacant harmless_left vacant, ends_bind,
    ends_refuseIf_vacant harmless_left vacant, ends_bind, ends_link harmless_left vacant,
    ends_bind, ends_attempt, ends_pure, Left, occupied]
  constructor
  · intro steps links
    obtain ⟨stays, rest⟩ := steps links.resolved (not_not_intro links.leads) links.linked
    have seen : request.fails .statPublished = false := by simpa using stays
    exact ⟨seen, rest seen⟩
  · intro all resolved leads linked
    obtain ⟨seen, rest⟩ := all ⟨resolved, not_not.1 leads, linked⟩
    simp [seen, rest]

/-! ### Every way to publish -/

/-- The entry that is published. -/
def publishedNode (request : PlacementRequest) : Option Node :=
  match request.mode, request.symlinkStyle with
  | .copy, _ => some request.copyNode
  | .hardlink, _ => some (.file request.source)
  | .symlink, some style => some (request.symlinkNode style)
  | _, _ => none

/-- The link is made: nothing fails before it. -/
def Links (request : PlacementRequest) (folder : Folder) : Prop :=
  match request.mode, request.symlinkStyle with
  | .copy, _ => request.Copies folder
  | .hardlink, _ => request.LinksHard
  | .symlink, some style => request.LinksSoft style
  | _, _ => False

/-- Nothing fails between the link and the part that cleans up. -/
def Bridges (request : PlacementRequest) : Prop :=
  request.fails .statPublished = false ∧
    (request.mode ≠ .symlink → request.fails .closeFiles = false)

/-- The folder with the published entry. -/
def linked (request : PlacementRequest) (folder : Folder) : Folder :=
  match request.mode with
  | .copy => request.copied folder
  | _ => folder.write request.target request.publishedNode

/-- What is known of the published entry. -/
def published (request : PlacementRequest) : Published :=
  match request.mode, request.symlinkStyle with
  | .symlink, some style =>
    { identity := (request.symlinkNode style).identity
      sha256 := none
      linkText := some (request.linkText style) }
  | .copy, _ =>
    { identity := request.copyNode.identity
      sha256 := some (request.sha256 request.source.bytes)
      linkText := none }
  | _, _ =>
    { identity := Node.identity (.file request.source)
      sha256 := some request.sourceFingerprint.sha256
      linkText := none }

theorem linked_target : request.linked folder request.target = request.publishedNode := by
  unfold linked publishedNode
  cases mode : request.mode with
  | copy => exact copied_target
  | hardlink => exact Disk.write_self _
  | symlink => exact Disk.write_self _
  | referenceOnly => exact Disk.write_self _

theorem ends_publish (vacant : folder request.target = none) :
    Ends request.publish folder returns request.Left ↔
      (request.Links folder → request.Bridges ∧
        returns request.published (request.linked folder)) := by
  unfold publish Links Bridges published linked publishedNode
  cases request.mode with
  | copy =>
    dsimp only
    rw [ends_publishCopyAt vacant]
    simp [and_assoc]
  | hardlink =>
    dsimp only
    rw [ends_publishHardlinkAt vacant]
    simp [and_assoc]
  | symlink =>
    cases request.symlinkStyle with
    | none =>
      dsimp only
      rw [ends_throw]
      simp [Left, vacant]
    | some style =>
      dsimp only
      rw [ends_publishSymlinkAt vacant]
      simp
  | referenceOnly =>
    dsimp only
    rw [ends_throw]
    simp [Left, vacant]

/-! ### Validation and cleanup -/

/-- A published entry that passes its validation, with its fingerprint. -/
structure Proper (request : PlacementRequest) (node : Node) (fingerprint : Fingerprint) :
    Prop where
  published : request.publishedNode = some node
  represented : request.representation request.mode request.symlinkStyle node = true
  taken : request.fingerprintTarget node = some fingerprint
  takenAt : request.fingerprintTargetAt (some request.sourcePath) node = some fingerprint
  content : fingerprint.content.sha256 = request.sourceFingerprint.sha256
  whole : request.mode = .symlink → fingerprint.content = request.sourceFingerprint
  own : request.isPublished request.published node = true

theorem proper_of_links (links : request.Links folder) :
    ∃ node fingerprint, request.Proper node fingerprint := by
  unfold Links at links
  cases mode : request.mode with
  | copy =>
    refine ⟨request.copyNode, .regular (request.fingerprintFile
      (request.temporaryFile request.source.bytes)), ?_⟩
    constructor
    · simp [publishedNode, mode]
    · simp [copyNode, Surroundings.representation, mode]
    · rfl
    · rfl
    · rfl
    · simp [mode]
    · simp [isPublished, published, mode, copyNode, temporaryFile]
  | hardlink =>
    refine ⟨.file request.source, .regular (request.fingerprintFile request.source), ?_⟩
    constructor
    · simp [publishedNode, mode]
    · simp [Surroundings.representation, mode, Surroundings.sourceFingerprint,
        Surroundings.fingerprintFile]
    · rfl
    · rfl
    · rfl
    · simp [mode]
    · simp [isPublished, published, mode, Surroundings.sourceFingerprint,
        Surroundings.fingerprintFile]
  | symlink =>
    cases style : request.symlinkStyle with
    | none => simp [mode, style] at links
    | some style' =>
      simp only [mode, style] at links
      have leads := links.leads
      refine ⟨request.symlinkNode style', .symlink (request.linkText style') request.device
        request.newInode request.now request.sourceFingerprint, ?_⟩
      constructor
      · simp [publishedNode, mode, style]
      · simp [symlinkNode, Surroundings.representation, mode, style]
      · simp [symlinkNode, Surroundings.fingerprintTarget, leads, request.sourceIsThere,
          Surroundings.sourceFingerprint]
      · simp [symlinkNode, Surroundings.fingerprintTargetAt, leads, request.sourceIsThere,
          Surroundings.sourceFingerprint]
      · rfl
      · exact fun _ => rfl
      · simp [isPublished, published, mode, style, symlinkNode]
  | referenceOnly => simp [mode] at links

section Settled

variable {node : Node} {fingerprint : Fingerprint} (proper : request.Proper node fingerprint)
  (here : folder request.target = some node) {returns : Fingerprint → Folder → Prop}

include proper here

theorem ends_validate :
    Ends request.validatePublishedTargetAt folder returns raises ↔
      (request.fails .validatePublished = true → raises (.failed .validatePublished) folder) ∧
        (request.fails .validatePublished = false → returns fingerprint folder) := by
  unfold validatePublishedTargetAt
  rw [ends_bind, ends_attempt]
  apply and_congr_right
  intro _
  apply imp_congr_right
  intro _
  rw [ends_bind, ends_get]
  simp only [here, proper.takenAt]
  rw [ends_bind, ends_refuseIf, ends_bind, ends_refuseIf, ends_bind, ends_refuseIf, ends_pure]
  simp only [proper.represented, proper.content, ne_eq, not_true_eq_false, false_implies,
    not_false_eq_true, forall_const, true_and, Bool.true_eq_false]
  constructor
  · rintro ⟨-, returned⟩
    exact returned fun ⟨mode, other⟩ => other (proper.whole mode)
  · intro returned
    exact ⟨fun ⟨mode, other⟩ => absurd (proper.whole mode) other, fun _ => returned⟩

/-- Nothing fails while a published entry is removed. -/
def Cleans (request : PlacementRequest) : Prop :=
  request.fails .cleanupStat = false ∧ request.fails .cleanupRead = false ∧
    request.fails .cleanupRestat = false ∧ request.fails .cleanupUnlink = false

/-- Nothing fails between the publication and the end of the cleanup's reach. -/
def Guards (request : PlacementRequest) : Prop :=
  request.fails .parentStable = false ∧ request.fails .validatePublished = false ∧
    request.fails .syncParent = false ∧ request.fails .parentStillStable = false

theorem ends_removeCreatedTargetAt :
    Ends (do request.removeCreatedTargetAt request.published; throw error) folder returns
      request.Left ↔ request.Cleans := by
  have emptied : folder.write request.target none request.target = none := Disk.write_self none
  unfold removeCreatedTargetAt removeIfPublished Cleans
  simp only [ends_bind, ends_conclude, ends_attempt, ends_get, ends_pure, ends_throw, here,
    proper.own, Left]
  simp only [Bool.true_eq_false, if_false, ends_bind, ends_attempt, ends_modify, here, emptied]
  cases request.fails .cleanupStat <;> cases request.fails .cleanupRead <;>
    cases request.fails .cleanupRestat <;> cases request.fails .cleanupUnlink <;> simp

/-- After the publication the entry is validated, or removed if the cleanup does not fail. -/
theorem ends_settle :
    Ends (request.settle request.published) folder returns request.Left ↔
      (request.Guards → returns fingerprint folder) ∧ (¬ request.Guards → request.Cleans) := by
  have cleanup (error : PlacementError) :
      Ends (request.removeCreatedTargetAt request.published) folder
        (fun _ after => Ends (throw error) after returns request.Left) request.Left ↔
          request.Cleans := by
    rw [← ends_bind]
    exact ends_removeCreatedTargetAt proper here
  unfold settle Guards
  rw [ends_conclude]
  simp only [ends_bind, ends_attempt, ends_pure, ends_validate proper here, cleanup]
  cases request.fails .parentStable <;> cases request.fails .validatePublished <;>
    cases request.fails .syncParent <;> cases request.fails .parentStillStable <;> simp

end Settled

end PlacementRequest

end Pullbox.Arc.Placement
