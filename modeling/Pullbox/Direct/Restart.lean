import Pullbox.Direct.System

/-!
# When a download can be finalized again

A careful run never leaves an unrecorded final file in the way of its next download: a
pass that downloads a complete payload finds its final name free, whatever was tried on
the artifact before.
-/

namespace Pullbox.Direct

open Durable Program Exec

variable {store : Store} {frame : Frame Rows Store} {inputs : ExecutionInputs}

/-- A pass from these rows goes through resolution and download. -/
structure Downloads (inputs : ExecutionInputs) (rows : Rows) : Prop where
  notCancelled : inputs.cancelRequested = false
  running : rows.attempt.state.Running
  resumption : rows.resumption (rows.artifact.quarantinePath.bind QuarantineEntry.suffix) =
    .download

/-- The frame in which a dispatched pass holds its downloaded payload. -/
structure DownloadedAt (inputs : ExecutionInputs) (store : Store)
    (result : ArtifactTransferResult) (found : Frame Rows Store) : Prop where
  downloads : Downloads inputs (store.dispatched inputs.now).rows
  result : (download inputs (store.dispatched inputs.now).begun).result = .ok result
  frame : (download inputs (store.dispatched inputs.now).begun).frame = found

/-- A complete payload: not empty, of a recognised type, and readable and renameable. -/
structure Payload (io : FinalizeIo) (filenameHint : Option String) (found : Frame Rows Store)
    (suffix : ComicSuffix) : Prop where
  file : ∃ content, content ≠ [] ∧ detectComicSuffix content filenameHint = some suffix ∧
    found.durable.workspaces.file found.memory.artifact.id .payloadPart = some content
  readable : io.readable = true
  replaceable : io.replaceable = true

/-- What a careful pass that goes on to download starts from: no final file. -/
theorem Downloads.fetching (downloads : Downloads inputs store.rows)
    (sound : StoreSound True store) (spared : PassCareful inputs store.rows) :
    Fetching True store store.begun :=
  (sound.begun downloads.running).fetching (fun _ => spared.reviewed downloads.notCancelled)
    downloads.resumption

/-- The end of a download in a careful pass: still no final file. -/
theorem DownloadedAt.downloading {result : ArtifactTransferResult} {found : Frame Rows Store}
    (downloaded : DownloadedAt inputs store result found) (sound : StoreSound True store)
    (spared : PassCareful inputs store.rows) :
    Downloading True (store.dispatched inputs.now) found := by
  obtain ⟨notValidating, notPostProcessing⟩ :=
    Rows.resumption_download downloaded.downloads.resumption
  have fetching := downloaded.downloads.fetching (sound.dispatched inputs.now)
    (spared.dispatched inputs.now)
  have finished : wp (download inputs)
      (fun _ => Downloading True (store.dispatched inputs.now))
      (FetchingFailed True inputs (store.dispatched inputs.now)) (fun _ => StoreSound True)
      (store.dispatched inputs.now).begun :=
    download_downloading fetching downloaded.downloads.running notValidating notPostProcessing
  exact downloaded.frame ▸ finished.returned downloaded.result

/-- A payload whose final name is free is renamed and recorded. -/
theorem Payload.finalized {suffix : ComicSuffix} {filenameHint : Option String}
    (payload : Payload inputs.finalizeIo filenameHint frame suffix)
    (free : frame.durable.workspaces.file frame.memory.artifact.id (.artifact suffix) = none)
    (chmodable : inputs.finalizeIo.chmodable = true) :
    (finalize inputs filenameHint frame).result = .ok suffix := by
  obtain ⟨content, nonempty, recognised, complete⟩ := payload.file
  have target : finalizeTarget (frame.durable.workspaces frame.memory.artifact.id) filenameHint
      inputs.finalizeIo = .ok suffix := by
    obtain ⟨directory, existing, entry⟩ := Option.bind_eq_some_iff.1 complete
    rw [Workspaces.file, existing] at free
    rw [existing]
    exact finalizeTarget_ok entry nonempty recognised free payload.readable payload.replaceable
  have returned : wp (finalize inputs filenameHint) (fun found _ => found = suffix)
      (fun _ _ => False) (fun _ _ => True) frame := by
    rw [finalize, wp_bind, wp_rows, wp_bind, wp_inspect]
    simp [target, chmodable]
  cases result : (finalize inputs filenameHint frame).result with
  | ok found => rw [returned.returned result]
  | error failure => exact (returned.raised result).elim

/-- In every careful run, no final file is left in the workspace of an artifact whose rows
send a pass through its download, and the complete payload it downloads is finalized. -/
theorem finalize_restartable (reachable : CarefulStore store)
    (spared : PassCareful inputs store.rows) :
    (Downloads inputs store.rows → ¬ store.workspaces.HasFinal store.rows.artifact.id) ∧
      ∀ result found suffix, DownloadedAt inputs store result found →
        Payload inputs.finalizeIo result.filenameHint found suffix →
          (finalize inputs result.filenameHint found).result = .ok suffix := by
  have sound := reachable.recorded
  constructor
  · rintro downloads ⟨suffix, present⟩
    have clear := (downloads.fetching sound spared).clear trivial suffix
    rw [Store.begun, Workspaces.file_prepare] at clear
    exact absurd (show store.workspaces.file store.rows.artifact.id (.artifact suffix) = none from
      clear) (Option.isSome_iff_ne_none.1 present)
  · intro result found suffix downloaded payload
    have downloading := downloaded.downloading sound spared
    exact payload.finalized (downloading.1.clear trivial suffix) spared.chmodable

/-- The answers of a pass whose post-processing raises. -/
def reviewInputs : ExecutionInputs :=
  { smoothInputs with postProcess := .raised }

/-- The store that pass leaves: both rows in intervention, the final file recorded. -/
def reviewedStore : Store :=
  (runPass reviewInputs ⟨plannedStore.rows, plannedStore⟩).frame.durable

/-- The user cancels, and the workspace is removed. -/
def abandonedStore : Store :=
  (cancel smoothInputs ⟨reviewedStore.rows, reviewedStore⟩).frame.durable

/-- The user retries. -/
def retriedStore : Store :=
  (retry smoothInputs ⟨abandonedStore.rows, abandonedStore⟩).frame.durable

theorem retriedStore_reachable : CarefulStore retriedStore := by
  have planned : PlannedClear plannedStore :=
    ⟨plannedStore_planned, fun _ _ ⟨_, present⟩ => nomatch present⟩
  have review : Step (.pass reviewInputs none) plannedStore reviewedStore :=
    Program.Leaves.completed
  have abandon : Step (.cancel smoothInputs none) reviewedStore abandonedStore :=
    Program.Leaves.completed
  have again : Step (.retry smoothInputs none) abandonedStore retriedStore :=
    Program.Leaves.completed
  have pathless : abandonedStore.rows.artifact.quarantinePath = none := rfl
  refine .next (.next (.next (.start planned) ?_ review) ?_ abandon) ?_ again
  · exact ⟨⟨rfl, nofun, nofun, nofun⟩, nofun⟩
  · exact fun _ _ _ => trivial
  · exact fun _ _ suffix => by simp [pathless]

/-- After a review that was cancelled and retried, the next pass downloads the payload again
and finds its final name free. -/
theorem finalize_restartable_retried :
    reviewedStore.workspaces.HasFinal 1 ∧ Downloads smoothInputs retriedStore.rows ∧
      (Downloads smoothInputs retriedStore.rows →
        ¬ retriedStore.workspaces.HasFinal retriedStore.rows.artifact.id) ∧
      ∀ result found suffix, DownloadedAt smoothInputs retriedStore result found →
        Payload smoothInputs.finalizeIo result.filenameHint found suffix →
          (finalize smoothInputs result.filenameHint found).result = .ok suffix :=
  ⟨⟨.cbz, rfl⟩, ⟨rfl, by decide, rfl⟩,
    finalize_restartable retriedStore_reachable ⟨rfl, nofun, nofun, nofun⟩⟩

/-- The store of a pass that crashed right after its rename. -/
def renamedStore : Store :=
  ((runPass smoothInputs ⟨plannedStore.rows, plannedStore⟩).trail.find?
    (·.1 = .finalized)).elim plannedStore (·.2)

theorem renamedStore_reachable : RunStore (fun _ _ => True) renamedStore := by
  have found : (runPass smoothInputs ⟨plannedStore.rows, plannedStore⟩).trail.find?
      (·.1 = .finalized) = some (.finalized, renamedStore) := rfl
  have step : Step (.pass smoothInputs (some .finalized)) plannedStore renamedStore :=
    .crashed (List.mem_of_find?_eq_some found)
  exact .next (.start plannedStore_planned) trivial step

/-- After a crash between the rename and its commit the rows are still downloading: the
next pass downloads the payload again and is refused its own final name. -/
theorem finalize_not_restartable_renamed : RunStore (fun _ _ => True) renamedStore ∧
    Downloads smoothInputs renamedStore.rows ∧ renamedStore.workspaces.HasFinal 1 ∧
      ∃ result found, DownloadedAt smoothInputs renamedStore result found ∧
        Payload smoothInputs.finalizeIo result.filenameHint found .cbz ∧
          (finalize smoothInputs result.filenameHint found).result =
            .error (.classified unsafeQuarantineError.classified) := by
  have downloads : Downloads smoothInputs renamedStore.rows := ⟨rfl, by decide, rfl⟩
  refine ⟨renamedStore_reachable, downloads, ⟨.cbz, rfl⟩, ⟨4, some 4, none, none, none⟩, _,
    ⟨downloads, rfl, rfl⟩, ⟨⟨_, ?_, ?_, rfl⟩, rfl, rfl⟩, rfl⟩
  · exact List.cons_ne_nil _ _
  · rfl

end Pullbox.Direct
