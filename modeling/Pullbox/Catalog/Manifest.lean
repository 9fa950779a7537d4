import Mathlib
import Pullbox.Catalog.Contract
import Pullbox.Durable.Results

/-!
# The manifest and its cache

A run asks the server for the publication and keeps what it was sent, with the ETag, in
`manifest.json` (`service.py`, `storage.py`). The next run sends the ETag and takes what it kept
where the server answers that nothing changed.
-/

namespace Pullbox.Catalog

open Durable Nat Text

/-- What ends a run: a `CatalogError` with its message, an error of the HTTP client, or a text
that cannot be encoded or decoded. -/
inductive Failure where
  | catalog (message : String)
  | http
  | unicode

/-- A service with what it verifies publications with, and the texts that the HTTP client can
send as the value of a header. -/
structure Service where
  trust : Trust
  sendable : String → Bool

/-- A response with its body in chunks; a broken one fails after them. -/
structure Response where
  status : Nat
  etag : Option String := none
  chunks : List ByteArray := []
  broken : Bool := false

/-- How a server answers: a request without an ETag gets the current response or fails, and one
with an ETag gets a 304 where nothing was modified. -/
structure Server where
  current : Except Failure Response
  notModified : String → Bool
  unconditional : ∀ response, current = .ok response → response.status ≠ 304

def Server.answer (server : Server) (ifNoneMatch : Option String) : Except Failure Response :=
  match ifNoneMatch with
  | some tag =>
    if server.notModified tag then .ok { status := 304, etag := some tag } else server.current
  | none => server.current

/-! ## State files -/

/-- `load_json`. -/
def loadJson (reader : JsonReader) (file : Option ByteArray) :
    Checked (List (String × Json)) :=
  match file with
  | none => .ok []
  | some bytes =>
    if 1024 * 1024 < bytes.size then
      .error "Catalog state is invalid. Check the data volume."
    else
      match reader.loads bytes with
      | none => .error "Catalog state could not be read. Check the data volume."
      | some value =>
        match value.object? with
        | some entries => .ok entries
        | none => .error "Catalog state is invalid."

/-- What `atomic_json` writes for the manifest, with sorted keys. -/
def stored (text : List Char) (etag : Option String) : ByteArray :=
  encode (dumps [("etag", etag), ("raw", some (String.ofList text))])

/-! ## The manifest -/

def checked {α : Type} (result : Checked α) : Except Failure α :=
  result.mapError .catalog

/-- The body, chunk by chunk up to the limit. -/
def readBody (broken : Bool) : List ByteArray → ByteArray → Except Failure ByteArray
  | [], raw => if broken then .error .http else .ok raw
  | chunk :: rest, raw =>
    if maxManifestBytes < (raw ++ chunk).size then
      .error (.catalog "Catalog manifest is too large.")
    else readBody broken rest (raw ++ chunk)

/-- The publication of a response that is not a 304, and what is stored of it. -/
def fetched (service : Service) (response : Response) :
    Except Failure (Signed × Option ByteArray) := do
  if ¬ (200 ≤ response.status ∧ response.status < 300) then .error .http
  let raw ← readBody response.broken response.chunks .empty
  let publication ← checked (verifyManifest service.trust raw)
  match decode raw with
  | some text => .ok (publication, some (stored text response.etag))
  | none => .error .unicode

/-- The ETag that a request carries: that of a stored manifest, which is verified first. -/
def ifNoneMatch (service : Service) (cachedRaw etag : Option String) :
    Except Failure (Option String) :=
  match cachedRaw, etag with
  | some raw, some tag => do
      let _ ← checked (verifyManifest service.trust (encode raw.toList))
      if service.sendable tag then .ok (some tag) else .error .unicode
  | _, _ => .ok none

/-- What a run makes of the response: a 304 leaves the stored manifest. -/
def received (service : Service) (file : Option ByteArray) (cachedRaw : Option String)
    (response : Response) : Except Failure (Signed × Option ByteArray) :=
  match cachedRaw with
  | some raw =>
    if response.status = 304 then do
      let publication ← checked (verifyManifest service.trust (encode raw.toList))
      .ok (publication, file)
    else fetched service response
  | none => fetched service response

/-- `_manifest`: the publication and what `manifest.json` holds afterwards. -/
def manifest (service : Service) (file : Option ByteArray) (server : Server) :
    Except Failure (Signed × Option ByteArray) := do
  let cache ← checked (loadJson service.trust.reader file)
  let cachedRaw := (field cache "raw").text?
  let header ← ifNoneMatch service cachedRaw (field cache "etag").text?
  let response ← server.answer header
  received service file cachedRaw response

/-! ## What a run stores -/

variable {service : Service} {publication : Signed} {text : List Char} {etag : Option String}
  {server : Server} {file : Option ByteArray} {raw : ByteArray} {response : Response}

/-- What is fetched is a publication that verifies, and its text is stored. -/
theorem fetched_eq_ok (ran : fetched service response = .ok (publication, file)) :
    ∃ raw text, verifyManifest service.trust raw = .ok publication ∧ decode raw = some text ∧
      file = some (stored text response.etag) := by
  unfold fetched at ran
  split at ran
  · cases ran
  · obtain ⟨raw, _, ran⟩ := bind_eq_ok.1 ran
    obtain ⟨verified, accepted, ran⟩ := bind_eq_ok.1 ran
    cases decoded : decode raw with
    | none =>
      simp only [decoded] at ran
      cases ran
    | some text =>
      simp only [decoded] at ran
      cases ran
      exact ⟨raw, text, of_mapError_ok accepted, decoded, rfl⟩

/-- Without a stored manifest the response decides. -/
theorem manifest_none (service : Service) (server : Server) :
    manifest service none server = server.current >>= fetched service := by
  rfl

/-- A response other than a 304 decides alone. -/
theorem received_of_ne {cachedRaw : Option String}
    (fresh : response.status ≠ 304) :
    received service file cachedRaw response = fetched service response := by
  cases cachedRaw with
  | none => rfl
  | some raw => exact if_neg fresh

/-- `manifest.json` after successful runs that started without it. -/
inductive Reached (service : Service) : Option ByteArray → Prop where
  | empty : Reached service none
  | ran {before server publication after} (prior : Reached service before)
      (succeeded : manifest service before server = .ok (publication, after)) :
      Reached service after

/-- What is kept is what was kept or what was fetched. -/
theorem manifest_eq_ok {before : Option ByteArray}
    (ran : manifest service before server = .ok (publication, file)) :
    file = before ∨ ∃ response, fetched service response = .ok (publication, file) := by
  unfold manifest at ran
  obtain ⟨cache, _, ran⟩ := bind_eq_ok.1 ran
  obtain ⟨header, _, ran⟩ := bind_eq_ok.1 ran
  obtain ⟨response, _, ran⟩ := bind_eq_ok.1 ran
  by_cases fresh : response.status ≠ 304
  · rw [received_of_ne fresh] at ran
    exact .inr ⟨response, ran⟩
  · unfold received at ran
    split at ran
    · rw [if_pos (not_not.1 fresh)] at ran
      obtain ⟨verified, _, ran⟩ := bind_eq_ok.1 ran
      cases ran
      exact .inl rfl
    · exact .inr ⟨response, ran⟩

/-- A stored manifest verifies. -/
theorem Reached.shape (reached : Reached service file) :
    file = none ∨ ∃ raw text etag publication,
      verifyManifest service.trust raw = .ok publication ∧ decode raw = some text ∧
        file = some (stored text etag) := by
  induction reached with
  | empty => exact .inl rfl
  | ran _ succeeded ih =>
    rcases manifest_eq_ok succeeded with rfl | ⟨response, fetches⟩
    · exact ih
    · obtain ⟨raw, text, verified, decoded, stores⟩ := fetched_eq_ok fetches
      exact .inr ⟨raw, text, response.etag, _, verified, decoded, stores⟩

/-! ## Reading what was stored -/

theorem loadJson_stored (reader : JsonReader) (small : (stored text etag).size ≤ 1024 * 1024) :
    loadJson reader (some (stored text etag)) =
      .ok (ofEntries [("etag", etag), ("raw", some (String.ofList text))]) := by
  have loads := reader.loads_dumps [("etag", etag), ("raw", some (String.ofList text))] (by simp)
  rw [loadJson, if_neg (Nat.not_lt.2 small), stored, loads]
  rfl

theorem field_raw : (field (ofEntries [("etag", etag), ("raw", some (String.ofList text))])
    "raw").text? = some (String.ofList text) := by
  simp [field, ofEntries, Json.get?, Json.text?]

theorem field_etag : (field (ofEntries [("etag", etag), ("raw", some (String.ofList text))])
    "etag").text? = etag := by
  cases etag <;> simp [field, ofEntries, Json.get?, Json.text?]

/-- A stored file says what was stored. -/
theorem stored_inj (reader : JsonReader) {other : List Char} {tag : Option String}
    (same : stored text etag = stored other tag) : text = other ∧ etag = tag := by
  have first := reader.loads_dumps [("etag", etag), ("raw", some (String.ofList text))] (by simp)
  have second := reader.loads_dumps [("etag", tag), ("raw", some (String.ofList other))] (by simp)
  unfold stored at same
  rw [same, second] at first
  have entries := Json.object.inj (Option.some.inj first)
  have texts := congrArg (fun entries => (field entries "raw").text?) entries
  have tags := congrArg (fun entries => (field entries "etag").text?) entries
  simp only [field_raw, field_etag, Option.some.injEq] at texts tags
  exact ⟨(String.ofList_injective texts).symm, tags.symm⟩

/-! ## The cache against no cache -/

/-- The response is the one that was stored. -/
structure Response.Is (response : Response) (text : List Char) (tag : String) : Prop where
  status : response.status = 200
  etag : response.etag = some tag
  whole : response.broken = false
  body : response.chunks.foldl (· ++ ·) .empty = encode text

/-- A server says that nothing was modified only where the manifest that it was asked about is
the current one. -/
def Server.Honest (server : Server) (file : Option ByteArray) : Prop :=
  ∀ text tag, file = some (stored text (some tag)) → server.notModified tag = true →
    ∃ response, server.current = .ok response ∧ response.Is text tag

/-- A run that finds the file returns what a run without it returns, whatever the server. -/
def Transparent (service : Service) (file : Option ByteArray) : Prop :=
  ∀ server : Server, server.Honest file →
    (manifest service file server).map Prod.fst = (manifest service none server).map Prod.fst

/-- A file that is small enough to be read, with an ETag that can be sent. -/
def Usable (service : Service) (file : Option ByteArray) : Prop :=
  ∀ bytes, file = some bytes → bytes.size ≤ 1024 * 1024 ∧
    ∀ text tag, bytes = stored text (some tag) → service.sendable tag = true

theorem size_le_foldl (chunks : List ByteArray) (raw : ByteArray) :
    raw.size ≤ (chunks.foldl (· ++ ·) raw).size := by
  induction chunks generalizing raw with
  | nil => exact le_refl _
  | cons chunk rest ih =>
    have more := ih (raw ++ chunk)
    rw [ByteArray.size_append] at more
    rw [List.foldl_cons]
    omega

/-- A body within the limit is read to its end. -/
theorem readBody_of_small {chunks : List ByteArray}
    (small : (chunks.foldl (· ++ ·) raw).size ≤ maxManifestBytes) :
    readBody false chunks raw = .ok (chunks.foldl (· ++ ·) raw) := by
  induction chunks generalizing raw with
  | nil => rfl
  | cons chunk rest ih =>
    have within := size_le_foldl rest (raw ++ chunk)
    rw [List.foldl_cons] at small ⊢
    rw [readBody, if_neg (by omega), ih small]

/-- The current response of an honest server gives the stored publication. -/
theorem fetched_of_is {tag : String}
    (serves : response.Is text tag) (verified : verifyManifest service.trust raw = .ok publication)
    (decoded : decode raw = some text) :
    fetched service response = .ok (publication, some (stored text (some tag))) := by
  have body : response.chunks.foldl (· ++ ·) .empty = raw :=
    serves.body.trans (encode_of_decode decoded)
  have read : readBody response.broken response.chunks .empty = .ok raw := by
    rw [serves.whole, ← body]
    apply readBody_of_small
    rw [body]
    exact size_of_verified verified
  rw [fetched, if_neg (by rw [serves.status]; decide), read]
  simp only [bind, Except.bind, checked, verified, Except.mapError, decoded, serves.etag]

/-- The current response is no 304. -/
theorem received_current (cachedRaw : Option String) :
    (server.current >>= received service file cachedRaw) = server.current >>= fetched service := by
  cases current : server.current with
  | error failure => rfl
  | ok response => exact received_of_ne (server.unconditional response current)

/-- A run that can read the file. -/
theorem manifest_loaded {cache : List (String × Json)} {raw : Option String}
    (loaded : loadJson service.trust.reader file = .ok cache)
    (hasRaw : (field cache "raw").text? = raw) (hasEtag : (field cache "etag").text? = etag) :
    manifest service file server = ifNoneMatch service raw etag >>= fun header =>
      server.answer header >>= received service file raw := by
  subst hasRaw hasEtag
  rw [manifest, loaded]
  rfl

/-- A run that can read the stored manifest. -/
theorem manifest_stored (small : (stored text etag).size ≤ 1024 * 1024) :
    manifest service (some (stored text etag)) server =
      ifNoneMatch service (some (String.ofList text)) etag >>= fun header =>
        server.answer header >>=
          received service (some (stored text etag)) (some (String.ofList text)) :=
  manifest_loaded (loadJson_stored service.trust.reader small) field_raw field_etag

/-- A manifest that was stored without an ETag is not used. -/
theorem manifest_stored_none (small : (stored text none).size ≤ 1024 * 1024) :
    manifest service (some (stored text none)) server = server.current >>= fetched service := by
  rw [manifest_stored small, ← received_current]
  rfl

/-- A manifest that was stored with an ETag is used where nothing was modified. -/
theorem manifest_stored_some {tag : String}
    (small : (stored text (some tag)).size ≤ 1024 * 1024) (sendable : service.sendable tag = true)
    (verified : verifyManifest service.trust raw = .ok publication)
    (decoded : decode raw = some text) :
    manifest service (some (stored text (some tag))) server =
      if server.notModified tag then .ok (publication, some (stored text (some tag)))
      else server.current >>= fetched service := by
  have bytes := encode_of_decode decoded
  have header : ifNoneMatch service (some (String.ofList text)) (some tag) = .ok (some tag) := by
    simp [ifNoneMatch, bytes, verified, checked, Except.mapError, sendable, bind, Except.bind]
  rw [manifest_stored small, header]
  by_cases same : server.notModified tag = true
  · rw [if_pos same]
    simp [Server.answer, same, received, bytes, verified, checked, Except.mapError, bind,
      Except.bind]
  · have current : server.answer (some tag) = server.current := by simp [Server.answer, same]
    rw [if_neg same, ← received_current, ← current]
    rfl

/-- A file that is too large to be read fails every run. -/
theorem manifest_large {bytes : ByteArray} (large : ¬ bytes.size ≤ 1024 * 1024) :
    manifest service (some bytes) server =
      .error (.catalog "Catalog state is invalid. Check the data volume.") := by
  rw [manifest, loadJson, if_pos (Nat.lt_of_not_le large)]
  rfl

/-- An ETag that cannot be sent fails every run. -/
theorem manifest_unsendable {tag : String}
    (small : (stored text (some tag)).size ≤ 1024 * 1024)
    (unsendable : ¬ service.sendable tag = true)
    (verified : verifyManifest service.trust raw = .ok publication)
    (decoded : decode raw = some text) :
    manifest service (some (stored text (some tag))) server = .error .unicode := by
  have bytes := encode_of_decode decoded
  have header : ifNoneMatch service (some (String.ofList text)) (some tag) = .error .unicode := by
    simp [ifNoneMatch, bytes, verified, checked, Except.mapError, unsendable, bind, Except.bind]
  rw [manifest_stored small, header]
  rfl

/-- A server with this manifest, which it always sends. -/
def serving (raw : ByteArray) (etag : Option String) : Server where
  current := .ok { status := 200, etag, chunks := [raw] }
  notModified _ := false
  unconditional response same := by
    cases same
    exact (by decide : 200 ≠ 304)

/-- A run without a file takes what the server sends. -/
theorem manifest_serving (etag : Option String)
    (verified : verifyManifest service.trust raw = .ok publication)
    (decoded : decode raw = some text) :
    manifest service none (serving raw etag) = .ok (publication, some (stored text etag)) := by
  have body : [raw].foldl (· ++ ·) ByteArray.empty = raw := ByteArray.empty_append
  have read : readBody false [raw] .empty = .ok raw := by
    have small := readBody_of_small (show ([raw].foldl (· ++ ·) ByteArray.empty).size ≤
      maxManifestBytes by rw [body]; exact size_of_verified verified)
    rwa [body] at small
  rw [manifest_none]
  simp [serving, fetched, read, checked, Except.mapError, verified, decoded, bind, Except.bind]

/-- A stored manifest is transparent exactly when it is small enough to be read again and its
ETag can be sent. -/
theorem manifest_transparent_iff (reached : Reached service file) :
    Transparent service file ↔ Usable service file := by
  rcases reached.shape with rfl | ⟨raw, text, etag, publication, verified, decoded, rfl⟩
  · constructor
    · intro _ bytes stored
      cases stored
    · intro _ server _
      rfl
  · constructor
    · intro transparent
      have same := transparent (serving raw etag) (fun _ _ _ modified => Bool.noConfusion modified)
      rw [manifest_serving etag verified decoded] at same
      by_cases small : (stored text etag).size ≤ 1024 * 1024
      · rintro _ ⟨⟩
        refine ⟨small, ?_⟩
        intro other tag shape
        obtain ⟨rfl, rfl⟩ := stored_inj service.trust.reader shape
        by_contra unsendable
        rw [manifest_unsendable small unsendable verified decoded] at same
        cases same
      · rw [manifest_large small] at same
        cases same
    · intro usable server honest
      obtain ⟨small, sendable⟩ := usable _ rfl
      rw [manifest_none]
      cases etag with
      | none => rw [manifest_stored_none small]
      | some tag =>
        rw [manifest_stored_some small (sendable text tag rfl) verified decoded]
        split_ifs with unmodified
        · obtain ⟨response, current, serves⟩ := honest text tag rfl unmodified
          rw [current]
          have fetches := fetched_of_is serves verified decoded
          simp [bind, Except.bind, fetches, Except.map]
        · rfl

theorem escaped_le_stored (text : List Char) (etag : Option String) :
    (text.flatMap escape).length ≤ (stored text etag).size := by
  have whole := length_le_size_encode (dumps [("etag", etag), ("raw", some (String.ofList text))])
  simp only [dumps, members, member, scalar, quoted, String.toList_ofList, List.length_append,
    List.length_cons] at whole
  rw [stored]
  simp only [dumps, members, member, scalar, quoted, String.toList_ofList]
  omega

/-! ## A manifest with many line breaks -/

def weeklyPayload : List (String × Json) :=
  [("format_id", .text "pullbox-catalog-v2-publication"), ("schema_version", .text "1"),
    ("latest_version", .text "20260913T050000Z"),
    ("full_snapshot", .object
      [("version", .text "20260913T050000Z"), ("size_bytes", .integer 123),
        ("sha256", .text "aaaaaaaaaaaaaaaaaaaaaaaaaaaaaaaaaaaaaaaaaaaaaaaaaaaaaaaaaaaaaaaa"),
        ("download_path", .text "/api/v2/catalog/snapshots/20260913T050000Z")])]

def weeklyDocument : Json :=
  .object
    [("payload", .object weeklyPayload),
      ("signature", .object
        [("algorithm", .text "Ed25519"), ("key_id", .text "catalog-2026-09"),
          ("payload_sha256", .text "digest"), ("value", .text "signature")])]

def weeklyText : String :=
  "\x7b\"payload\":\x7b\"format_id\":\"pullbox-catalog-v2-publication\",\"schema_version\":\"1\"," ++
  "\"latest_version\":\"20260913T050000Z\",\"full_snapshot\":\x7b\"version\":\"20260913T050000Z\"," ++
  "\"size_bytes\":123," ++
  "\"sha256\":\"aaaaaaaaaaaaaaaaaaaaaaaaaaaaaaaaaaaaaaaaaaaaaaaaaaaaaaaaaaaaaaaa\"," ++
  "\"download_path\":\"/api/v2/catalog/snapshots/20260913T050000Z\"\x7d\x7d," ++
  "\"signature\":\x7b\"algorithm\":\"Ed25519\",\"key_id\":\"catalog-2026-09\"," ++
  "\"payload_sha256\":\"digest\",\"value\":\"signature\"\x7d\x7d"

theorem size_weeklyText : weeklyText.utf8ByteSize < 20000 := by
  decide +kernel

/-- The document after a line break and so many more, which JSON allows. -/
@[irreducible] def spacedText (lines : Nat) : List Char :=
  List.replicate (lines + 1) '\n' ++ weeklyText.toList

/-- The reader of UTF-8 with the spaced document. -/
def spacedReader (lines : Nat) : JsonReader where
  loads bytes :=
    if bytes = encode (spacedText lines) then some weeklyDocument else JsonReader.plain.loads bytes
  loads_dumps entries distinct := by
    have different : encode (dumps entries) ≠ encode (spacedText lines) := by
      intro same
      have texts := congrArg decode same
      rw [decode_encode, decode_encode, Option.some.injEq] at texts
      have heads := congrArg List.head? texts
      rw [spacedText, List.head?_append, List.head?_replicate, if_neg (succ_ne_zero _)] at heads
      exact absurd (Option.some.inj heads) (by decide)
    rw [if_neg different]
    exact JsonReader.plain.loads_dumps entries distinct

/-- A service that trusts the publisher of the document. -/
def spacedService (lines : Nat) : Service where
  trust :=
    { reader := spacedReader lines
      canonical := fun _ => some .empty
      sha256 := fun _ => "digest"
      keys := ["catalog-2026-09"]
      verify := fun _ _ _ => .ok () }
  sendable tag := tag.toList.all fun char => char.toNat < 128

variable {lines : Nat}

theorem size_encode_spaced :
    (encode (spacedText lines)).size = lines + 1 + weeklyText.utf8ByteSize := by
  have line : '\n'.utf8Size = 1 := by decide
  have rest : (encode weeklyText.toList).size = weeklyText.utf8ByteSize := by simp [encode]
  rw [spacedText, size_encode_append, size_encode_replicate, line, rest, mul_one]

/-- The spaced document is accepted. -/
theorem spaced_verified (few : lines ≤ 600000) : ∃ publication,
    verifyManifest (spacedService lines).trust (encode (spacedText lines)) = .ok publication := by
  have accepted : (publicationOf weeklyPayload).toOption.isSome = true := by decide +kernel
  have small : ¬ maxManifestBytes < (encode (spacedText lines)).size := by
    have size := size_weeklyText
    rw [size_encode_spaced, maxManifestBytes]
    omega
  have loaded : (spacedService lines).trust.reader.loads (encode (spacedText lines)) =
      some weeklyDocument := by
    simp only [spacedService, spacedReader, if_true]
  cases result : publicationOf weeklyPayload with
  | error message =>
    rw [result] at accepted
    cases accepted
  | ok publication =>
    refine ⟨publication, ?_⟩
    rw [verifyManifest, if_neg small, loaded]
    rw [← result]
    rfl

/-- Each line break is stored as two characters. -/
theorem escaped_spaced : (lines + 1) * 2 ≤ ((spacedText lines).flatMap escape).length := by
  have line : (escape '\n').length = 2 := by decide
  rw [spacedText, List.flatMap_append, List.length_append, List.length_flatMap,
    List.map_replicate, List.sum_replicate_nat, line]
  exact le_add_right _ _

theorem stored_spaced_large (etag : Option String) :
    ¬ (stored (spacedText 600000) etag).size ≤ 1024 * 1024 := by
  have stores := escaped_spaced.trans (escaped_le_stored (spacedText 600000) etag)
  exact Nat.not_le_of_lt (Nat.lt_of_lt_of_le (by decide) stores)

/-- A manifest of less than a megabyte fails every later run once it is stored. -/
theorem stored_manifest_blocks :
    ¬ ∀ (service : Service) (file : Option ByteArray), Reached service file →
      Transparent service file := by
  intro transparent
  obtain ⟨publication, verified⟩ := spaced_verified (le_refl 600000)
  have first := manifest_serving none verified (decode_encode (spacedText 600000))
  have same := transparent (spacedService 600000) _ (.ran .empty first)
    (serving (encode (spacedText 600000)) none) (fun _ _ _ modified => Bool.noConfusion modified)
  rw [first, manifest_large (stored_spaced_large none)] at same
  cases same

theorem length_escape_le (char : Char) : (escape char).length ≤ 12 := by
  unfold escape
  repeat' split
  all_goals simp [hex4]

/-- A character takes at most twelve escaped, each of at most four bytes. -/
theorem size_stored_le (text : List Char) :
    (stored text none).size ≤ 4 * (12 * text.length + 40) := by
  have escaped : (text.flatMap escape).length ≤ text.length * 12 := by
    have each := List.sum_le_card_nsmul (text.map fun char => (escape char).length) 12
      (List.forall_mem_map.2 fun char _ => length_escape_le char)
    rwa [List.length_map, smul_eq_mul, ← List.length_flatMap] at each
  have names : ("etag".toList.flatMap escape).length = 4 ∧
      ("raw".toList.flatMap escape).length = 3 := by decide
  have whole := size_encode_le (dumps [("etag", none), ("raw", some (String.ofList text))])
  rw [stored]
  simp only [dumps, members, member, scalar, quoted, String.toList_ofList, List.length_append,
    List.length_cons, List.length_nil] at whole ⊢
  omega

/-- The document itself stays below the limit. -/
theorem stored_spaced_small : (stored (spacedText 0) none).size ≤ 1024 * 1024 := by
  have stores := size_stored_le (spacedText 0)
  have length := length_le_size_encode (spacedText 0)
  have short := size_weeklyText
  rw [size_encode_spaced] at length
  generalize weeklyText.utf8ByteSize = bytes at length short
  omega

/-- The stored document is transparent with one line break, and not with too many. -/
theorem transparent_spaced_iff :
    Transparent (spacedService 0) (some (stored (spacedText 0) none)) ∧
      ¬ Transparent (spacedService 600000) (some (stored (spacedText 600000) none)) := by
  have reached {lines : Nat} (few : lines ≤ 600000) :
      Reached (spacedService lines) (some (stored (spacedText lines) none)) := by
    obtain ⟨publication, verified⟩ := spaced_verified few
    exact .ran .empty (manifest_serving none verified (decode_encode (spacedText lines)))
  constructor
  · rw [manifest_transparent_iff (reached (zero_le _))]
    rintro _ ⟨⟩
    refine ⟨?_, fun text tag same => ?_⟩
    · exact stored_spaced_small
    · cases (stored_inj JsonReader.plain same).2
  · rw [manifest_transparent_iff (reached le_rfl)]
    exact fun usable => stored_spaced_large none (usable _ rfl).1

end Pullbox.Catalog
