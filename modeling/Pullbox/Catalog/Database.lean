import Pullbox.Catalog.Contract

/-!
# Catalog databases

A snapshot is validated by its contents before it can become active, and a patch rebuilds the
latest version from the weekly base (`database.py`). The engine parameter stands for SQLite, for
the digests and for the archive format.
-/

namespace Pullbox.Catalog

open Text

/-- A value of a column. -/
inductive Value where
  | null
  | integer (value : Int)
  | real (value : Rat)
  | text (value : String)
deriving DecidableEq

abbrev Row : Type :=
  List Value

/-- `TABLES`. -/
inductive CatalogTable where
  | publishers
  | series
  | seriesAliases
  | issues

namespace CatalogTable

def all : List CatalogTable :=
  [.publishers, .series, .seriesAliases, .issues]

def name : CatalogTable → String
  | .publishers => "publishers"
  | .series => "series"
  | .seriesAliases => "series_aliases"
  | .issues => "issues"

/-- The prefix of the patch tables. -/
def patchName : CatalogTable → String
  | .publishers => "publisher"
  | .series => "series"
  | .seriesAliases => "series_alias"
  | .issues => "issue"

/-- The leading columns that are the key. -/
def keyColumns : CatalogTable → Nat
  | .seriesAliases => 2
  | .publishers | .series | .issues => 1

end CatalogTable

/-- What the pragmas and `sqlite_master` say. -/
structure Header where
  applicationId : Int
  userVersion : Int
  integrityCheck : String
  /-- The names and types of the tables, views and triggers. -/
  objects : List (String × String)


/-- A row of `series_fts`. -/
structure FtsRow where
  rowid : Value
  seriesId : Value
  name : Value


/-- What is read of a snapshot. -/
structure Database where
  header : Header
  foreignKeyViolation : Bool
  /-- `dataset_manifest`, with its values parsed. -/
  manifest : List (String × Json)
  rows : CatalogTable → List Row
  fts : List FtsRow

/-- What is read of a patch. -/
structure Patch where
  header : Header
  /-- `patch_manifest`. -/
  manifest : List (String × Json)
  /-- `target_dataset_manifest`. -/
  target : List (String × Json)
  deletes : CatalogTable → List Row
  upserts : CatalogTable → List Row

/-- The engine: reading a file as a snapshot or a patch (`none` for an error of SQLite or of a
manifest value), committing changes to a copy of a file (`none` where a constraint fails), the
digests of a file and of the rows, the stamp of a time with a time zone, and decompression, whose
error comes after the chunks. -/
structure Engine where
  readDatabase : ByteArray → Option Database
  readPatch : ByteArray → Option Patch
  commit : ByteArray → Database → Option ByteArray
  fileSha256 : ByteArray → String
  logicalHash : (CatalogTable → List Row) → String
  stamp : Json → Option String
  decompress : ByteArray → List ByteArray × Checked Unit

/-! ## Validation -/

def requiredTables : List String :=
  CatalogTable.all.map CatalogTable.name ++ ["series_fts", "dataset_manifest", "schema_migrations"]

def ftsTables : List String :=
  ["series_fts", "series_fts_config", "series_fts_content", "series_fts_data",
    "series_fts_docsize", "series_fts_idx"]

/-- `_check_database`. -/
def checkDatabase (header : Header) (applicationId : Int) (allowed : List String) :
    Checked Unit :=
  if header.applicationId ≠ applicationId ∨ header.userVersion ≠ 1 then
    .error "Catalog database format is not supported. Update Pullbox."
  else if header.integrityCheck ≠ "ok" then
    .error "Catalog database integrity check failed. Retry the download."
  else if (header.objects.filter fun entry => ¬ "sqlite_".isPrefixOf entry.1).any fun entry =>
      entry.2 ≠ "table" ∨ entry.1 ∉ allowed then
    .error "Catalog contains unsupported database objects."
  else .ok ()

/-- Equality with a number, as Python compares. -/
def equalsNumber (value : Json) (number : Int) : Bool :=
  match value with
  | .integer value => value = number
  | .real value => value = number
  | .boolean value => (if value then 1 else 0) = number
  | _ => false

/-- Equality of a manifest value with the counts of the tables. -/
def equalsCounts (value : Json) (rows : CatalogTable → List Row) : Bool :=
  match value.object? with
  | some entries =>
    entries.length = CatalogTable.all.length ∧
      CatalogTable.all.all fun table =>
        (Json.get? entries table.name).any fun count => equalsNumber count (rows table).length
  | none => false

/-- The search index has each series under its row. -/
def ftsConsistent (database : Database) : Bool :=
  (database.rows .series).all fun row =>
    (database.fts.filter fun entry => entry.rowid = row.headD .null).all (fun entry =>
      entry.seriesId = row.headD .null ∧
        (entry.name = .null ∨ row.getD 1 .null = .null ∨ entry.name = row.getD 1 .null)) ∧
    database.fts.any fun entry => entry.rowid = row.headD .null

/-- The values that identify a snapshot. -/
def identifies (manifest : List (String × Json)) (version : String) : Bool :=
  (field manifest "format_id").text? = some "pullbox-catalog-v2" ∧
    (field manifest "schema_version").text? = some "1" ∧
    (field manifest "compatibility_version").text? = some "pullbox-only" ∧
    equalsNumber (field manifest "application_id") 0x50424332 ∧
    (field manifest "dataset_version").text? = some version

/-- `validate_snapshot` of the content of a file. -/
def validateSnapshot (engine : Engine) (content : ByteArray) (version : String) :
    Checked (List (String × Json)) := do
  validVersion version
  let some database := engine.readDatabase content
    | .error "Catalog database could not be validated. Retry the download."
  checkDatabase database.header 0x50424332 (requiredTables ++ ftsTables)
  if database.foreignKeyViolation then .error "Catalog has invalid record relationships."
  if ¬ identifies database.manifest version then
    .error "Catalog identity does not match its signed publication."
  let cutoff := (Json.get? database.manifest "source_cutoff_at").getD (.text "")
  if engine.stamp cutoff ≠ some version then .error "Catalog source timestamp is invalid."
  if ¬ equalsCounts (field database.manifest "counts") database.rows ∨
      (field database.manifest "content_sha256").text? ≠ some (engine.logicalHash database.rows)
  then .error "Catalog content checksum failed. Retry the download."
  if database.fts.length ≠ (database.rows .series).length then
    .error "Catalog search index is incomplete."
  if ¬ ftsConsistent database then .error "Catalog search index is inconsistent."
  .ok database.manifest

/-! ## Patches -/

/-- `DELETE FROM table WHERE key = ?`. -/
def deleteKeys (table : CatalogTable) (keys rows : List Row) : List Row :=
  rows.filter fun row => row.take table.keyColumns ∉ keys

/-- `INSERT … ON CONFLICT (key) DO UPDATE`. -/
def upsertRow (table : CatalogTable) (rows : List Row) (row : Row) : List Row :=
  let key := row.take table.keyColumns
  if rows.any fun other => other.take table.keyColumns = key then
    rows.map fun other => if other.take table.keyColumns = key then row else other
  else rows ++ [row]

/-- `REBUILD_FTS`. -/
def rebuildFts (rows : CatalogTable → List Row) : List FtsRow :=
  (rows .series).map fun row =>
    { rowid := row.headD .null, seriesId := row.headD .null, name := row.getD 1 .null }

/-- The database after the deletes, the upserts and the new manifest. -/
def patched (base : Database) (patch : Patch) : Database :=
  let rows (table : CatalogTable) : List Row :=
    (patch.upserts table).foldl (upsertRow table)
      (deleteKeys table (patch.deletes table) (base.rows table))
  { base with manifest := patch.target, rows, fts := rebuildFts rows }

def patchTables : List String :=
  ["patch_manifest", "target_dataset_manifest"] ++
    CatalogTable.all.flatMap fun table =>
      [table.patchName ++ "_upserts", table.patchName ++ "_deletes"]

/-- The patch belongs to the base and leads to the target. -/
def matchesBase (engine : Engine) (manifest : List (String × Json)) (base : ByteArray)
    (baseVersion targetVersion : String) : Bool :=
  (field manifest "format_id").text? = some "pullbox-catalog-v2-patch" ∧
    (field manifest "schema_version").text? = some "1" ∧
    (field manifest "base_version").text? = some baseVersion ∧
    (field manifest "target_version").text? = some targetVersion ∧
    (field manifest "base_snapshot_sha256").text? = some (engine.fileSha256 base)

/-- The output of the changes to a copy of the base. -/
def rebuild (engine : Engine) (base : ByteArray) (changes : Patch) : Checked ByteArray :=
  match (engine.readDatabase base).bind fun database =>
      engine.commit base (patched database changes) with
  | some output => .ok output
  | none => .error "Catalog patch could not be applied. Retry the update."

/-- The output is the version that the patch promises. -/
def checkTarget (engine : Engine) (changes : Patch) (targetVersion : String)
    (output : ByteArray) : Checked ByteArray := do
  let result ← validateSnapshot engine output targetVersion
  if (field result "content_sha256").text? =
      (field changes.manifest "target_content_sha256").text? then .ok output
  else .error "Catalog patch target checksum failed."

/-- `apply_catalog_patch`: the content of the output. -/
def applyCatalogPatch (engine : Engine) (base patch : ByteArray)
    (baseVersion targetVersion : String) : Checked ByteArray := do
  let _ ← validateSnapshot engine base baseVersion
  match engine.readPatch patch with
  | none => .error "Catalog patch could not be applied. Retry the update."
  | some changes => do
      checkDatabase changes.header 0x50425044 patchTables
      if matchesBase engine changes.manifest base baseVersion targetVersion then do
        let output ← rebuild engine base changes
        checkTarget engine changes targetVersion output
      else .error "Catalog patch does not match the retained weekly base."

end Pullbox.Catalog
