import DaonUser.RecoveryCapture.Written

/-!
# Captures are restored

`verify` and `restore` return what was captured, from the files that `capture` has left, and whatever else the
files hold, they raise or return the same (`captures_restored`).
-/

namespace DaonUser.RecoveryCapture

open Lib
open Call (bind_eq_ok)
open Snapshot (Bytes encode dumps loads number loads_dumps)

section

variable {ν : Type} [PythonNumber ν] {p : Primitives} {store : FileCaptureStore} {c : CaptureCall ν p}
  {root root' : Root} {receipt : Json ν}

/-- What `capture` has captured, `verify` and `restore` return, with one file for each object; whatever is
written to the files, they raise or return the same. -/
theorem captures_restored (h : capture p store c root = .ok (receipt, root')) (hfree : CollisionFree c) :
    (verify p store c.scope root' (some receipt) = .ok ⟨c.metadata.sorted, receipt.sorted⟩ ∧
      restore p store c.scope root' root' true receipt = .ok (destinationOf p (capturedContents c)) ∧
      ((destinationOf p (capturedContents c)).files.map (·.1)).Nodup) ∧
    ∀ root₁, (∀ v, verify p store c.scope root₁ (some receipt) = .ok v →
        v.metadata = c.metadata.sorted ∧ Json.same v.receipt receipt = true) ∧
      ∀ root₂ vacant d, restore p store c.scope root₁ root₂ vacant receipt = .ok d →
        d = destinationOf p (capturedContents c) := by
  obtain ⟨objects, records, owner, data, blob, nonces, hcapture, rfl, rfl⟩ := capture_eq_ok h
  obtain ⟨hverify, metadata, d, hrestore⟩ := verifyData_captured hcapture hfree
  have hread := readReceipt_captured hcapture
  have hat : Function.update root c.scope.captureId (some ⟨some owner, some data, some blob⟩)
      c.scope.captureId = some ⟨some owner, some data, some blob⟩ := Function.update_self _ _ _
  have hfolder : captureDir c.scope
      (Function.update root c.scope.captureId (some ⟨some owner, some data, some blob⟩)) =
        .ok ⟨some owner, some data, some blob⟩ := by
    simp only [captureDir, bind_eq_ok, orRaise_eq_ok]
    exact ⟨_, hcapture.name, hat⟩
  refine ⟨⟨?_, ?_, ?_⟩, fun root₁ => ⟨fun v hv => ?_, fun root₂ vacant d' hd => ?_⟩⟩
  · exact verify_eq_ok.2 ⟨_, _, _, hfolder, hread, hverify, rfl⟩
  · rw [← restore_sound hcapture hfree (same_sortedRow _) hrestore]
    exact restore_eq_ok.2 ⟨_, _, _, _, metadata, hfolder, hread, hverify, rfl, hat, hrestore⟩
  · have hmap : (destinationOf p (capturedContents c)).files.map (·.1) = objects.map (outputName p) := by
      rw [(checkObjects_eq_ok.1 hcapture.checked).2.2]
      simp [destinationOf, capturedContents]
    rw [hmap]
    exact names_nodup hcapture hfree
  · obtain ⟨folder, row, m, -, hrow, hdata, rfl⟩ := verify_eq_ok.1 hv
    have hsame := same_of_readReceipt hrow
    exact ⟨(verify_sound hcapture hfree hsame hdata).1, hsame⟩
  · obtain ⟨folder, row, y, folder', m, -, hrow, -, -, -, hdata⟩ := restore_eq_ok.1 hd
    exact restore_sound hcapture hfree (same_of_readReceipt hrow) hdata

end

def digestOf (digit : Char) : String := String.ofList (List.replicate 64 digit)

theorem isDigest_digestOf {digit : Char} (h : digit ∈ "0123456789abcdef".toList) :
    isDigest (digestOf digit) = true := by
  unfold isDigest digestOf
  rw [String.toList_ofList, List.length_replicate, Bool.and_eq_true]
  exact ⟨List.all_eq_true.2 fun c hc => by rw [List.eq_of_mem_replicate hc]; exact List.contains_iff_mem.2 h, rfl⟩

theorem length_dumps {ν : Type} [PythonNumber ν] (v : Json ν) : (dumps v).length ≤ v.weight :=
  Json.length_utf8_canonical v

theorem length_ownerText {ν : Type} [PythonNumber ν] {p : Primitives} (c : CaptureCall ν p) :
    (ownerText c).length ≤
      Json.weight (.obj [("scope", .obj c.scope.binding), ("owner_id", .str c.ownerId)] : Json ν) :=
  length_dumps _

/-! ## A capture of an empty object -/

namespace Sample

def scope : CaptureScope where
  captureId := "c"
  tenantId := "t"
  workspaceId := "w"
  notebookId := "n"
  sourceVersionIds := ["v"]
  selectionFingerprint := digestOf 'a'
  schemaRevision := "r"
  policyVersion := "p"
  retentionWatermark := "m"
  safe := by decide
  counted := by decide
  distinct := by simp
  ordered := by simp
  hashed := isDigest_digestOf (by simp)

def object : BackupObjectInput where
  objectId := "o"
  checksum := digestOf '1'
  byteSize := 0
  safe := by decide
  hashed := isDigest_digestOf (by simp)

def payload : Json Int := .obj
  [("object_id", .str "o"), ("byte_size", .num 0), ("content_digest_sha256", .str (digestOf '1'))]

def moment : String := "2024-01-01T00:00:00Z"

def canonRow (recordId : String) : Row Int :=
  [("tenant_id", .str "t"), ("workspace_id", .str "w"), ("record_id", .str recordId), ("aggregate_id", .str "g"),
    ("version", .num 1), ("schema_version", .num 1), ("canonical_json", payload),
    ("digest_sha256", .str (digestOf '0')), ("previous_version_id", .null), ("created_by", .str "u"),
    ("trace_id", .str "x"), ("created_at", .str moment)]

def tables : Tables Int where
  notebooks := [[("tenant_id", .str "t"), ("workspace_id", .str "w"), ("notebook_id", .str "n"),
    ("created_by", .str "u"), ("created_at", .str moment)]]
  titles := [[("tenant_id", .str "t"), ("workspace_id", .str "w"), ("notebook_id", .str "n"),
    ("version", .num 1), ("title", .str ""), ("description", .str ""), ("is_current", .bool true),
    ("updated_by", .str "u"), ("updated_at", .str moment)]]
  bindings := [[("tenant_id", .str "t"), ("workspace_id", .str "w"), ("notebook_id", .str "n"),
    ("binding_kind", .str "source"), ("record_id", .str "s"), ("version_id", .str "v"),
    ("created_by", .str "u"), ("created_at", .str moment)]]
  sources := [canonRow "s" ++ [("state", .str "")]]
  versions := [canonRow "v" ++ [("source_id", .str "s"), ("object_id", .str "o")]]
  objectRecords := [[("tenant_id", .str "t"), ("workspace_id", .str "w"), ("object_id", .str "o"),
    ("area", .str "source"), ("digest_sha256", .str (digestOf '1')), ("byte_size", .num 0),
    ("content_type", .str ""), ("status", .str "completed")]]

def table (rows : List (Row Int)) : Json Int := .arr (rows.map .obj)

def members : Row Int :=
  [("notebooks", table tables.notebooks), ("notebook_metadata_versions", table tables.titles),
    ("notebook_bindings", table tables.bindings), ("sources", table tables.sources),
    ("source_versions", table tables.versions), ("object_records", table tables.objectRecords)]

def metadata : Json Int := .obj members

variable {p : Primitives}

theorem hasKeys_of_map {ν : Type} {keys : List String} {row : Row ν} (h : row.map (·.1) = keys) :
    Json.HasKeys keys row := by
  subst h
  exact ⟨fun member hmem => List.mem_map_of_mem hmem, fun key hkey => hkey⟩

theorem checkTable_table {ν : Type} [PythonNumber ν] {scope : CaptureScope} {members : Row ν} {name : String}
    {rows : List (Row ν)} (hfield : Json.field? name members = some (.arr (rows.map .obj))) (hpos : rows ≠ [])
    (hmax : rows.length ≤ 100)
    (hrows : ∀ row ∈ rows, checkRow p scope ((metadataColumns.lookup name).getD []) (.obj row) = some row) :
    checkTable p scope members name = some rows := by
  have hall : (rows.map Json.obj).mapM (checkRow p scope ((metadataColumns.lookup name).getD [])) =
      some rows := by
    clear hfield hpos hmax
    induction rows with
    | nil => rfl
    | cons row rows ih =>
      rw [List.map_cons, List.mapM_cons, hrows row List.mem_cons_self,
        ih fun other hother => hrows other (List.mem_cons_of_mem _ hother)]
      rfl
  simp [checkTable, hfield, Json.items?, hpos, hmax, hall]

theorem readTables_metadata (hmoment : isInstant p (some moment) = true) :
    readTables p scope metadata = some tables := by
  have hfield : ∀ {name : String} {rows : List (Row Int)}, (name, table rows) ∈ members →
      Json.field? name members = some (.arr (rows.map .obj)) := fun h => by
    refine Json.field?_of_mem ?_ h
    simp [members]
  have hnotebooks : checkTable p scope members "notebooks" = some tables.notebooks :=
    checkTable_table (hfield (by simp [members])) (by simp [tables]) (by simp [tables]) (by
      simp [tables, metadataColumns, checkRow, Json.members?, hasKeys_of_map, Json.textOf?, Json.field?_cons,
        Json.text?, scope, hmoment])
  have htitles : checkTable p scope members "notebook_metadata_versions" = some tables.titles :=
    checkTable_table (hfield (by simp [members])) (by simp [tables]) (by simp [tables]) (by
      simp [tables, metadataColumns, List.lookup_cons, checkRow, Json.members?, hasKeys_of_map, Json.textOf?,
        Json.natOf?, Json.nat?, ReadableNumber.toInt?, Json.field?_cons, Json.text?, scope, hmoment])
  have hbindings : checkTable p scope members "notebook_bindings" = some tables.bindings :=
    checkTable_table (hfield (by simp [members])) (by simp [tables]) (by simp [tables]) (by
      simp [tables, metadataColumns, List.lookup_cons, checkRow, Json.members?, hasKeys_of_map, Json.textOf?,
        Json.field?_cons, Json.text?, scope, hmoment])
  have hsources : checkTable p scope members "sources" = some tables.sources :=
    checkTable_table (hfield (by simp [members])) (by simp [tables]) (by simp [tables]) (by
      simp [tables, metadataColumns, List.lookup_cons, canonRow, canonColumns, checkRow, Json.members?,
        hasKeys_of_map, Json.textOf?, Json.natOf?, Json.nat?, ReadableNumber.toInt?, Json.field?_cons,
        Json.text?, scope, hmoment])
  have hversions : checkTable p scope members "source_versions" = some tables.versions :=
    checkTable_table (hfield (by simp [members])) (by simp [tables]) (by simp [tables]) (by
      simp [tables, metadataColumns, List.lookup_cons, canonRow, canonColumns, checkRow, Json.members?,
        hasKeys_of_map, Json.textOf?, Json.natOf?, Json.nat?, ReadableNumber.toInt?, Json.field?_cons,
        Json.text?, scope, hmoment])
  have hobjects : checkTable p scope members "object_records" = some tables.objectRecords :=
    checkTable_table (hfield (by simp [members])) (by simp [tables]) (by simp [tables]) (by
      simp [tables, metadataColumns, List.lookup_cons, checkRow, Json.members?, hasKeys_of_map, Json.textOf?,
        Json.field?_cons, Json.text?, scope])
  have hkeys : Json.HasKeys (metadataColumns.map (·.1)) members := hasKeys_of_map rfl
  simp [readTables, metadata, Json.members?, hkeys, hnotebooks, htitles, hbindings, hsources, hversions, hobjects]

theorem checkTables_tables (hpayload : p.sha256 (dumps payload) = digestOf '0') :
    checkTables p scope [object] tables = some () := by
  have hids : isLongId "s" = true ∧ isLongId "v" = true ∧ isLongId "g" = true := by decide
  unfold payload at hpayload
  simp [checkTables, tables, OfNotebook, scope, Json.textOf?, Json.natOf?, Json.field?_cons, canonRow, Json.text?,
    isTrue, SameSet, object, binds, isCanonRow, hpayload, isCanonId, describes, records, payload, digestKey,
    Json.members?, Json.nat?, ReadableNumber.toInt?, hids]

theorem metadata_short : (dumps metadata).length ≤ maxMetadataBytes :=
  (length_dumps metadata).trans (by decide)

/-- The digest of the sample: it tells the bytes that a capture of it hashes from each other. -/
def sha256 (bytes : Bytes) : String :=
  if bytes = [] then digestOf '1' else if bytes = encode "o" then digestOf '2'
  else if bytes = dumps metadata then digestOf '3' else digestOf '0'

theorem digestOf_injective {a b : Char} (h : digestOf a = digestOf b) : a = b := by
  have hlist : List.replicate 64 a = List.replicate 64 b := String.ofList_injective h
  exact (List.replicate_right_inj (by decide)).1 hlist

def primitives : Primitives where
  sha256 := sha256
  hexdigest bytes := by
    unfold sha256
    split_ifs <;> exact isDigest_digestOf (by simp)
  derive _ _ := []
  encrypt _ _ raw _ := raw ++ List.replicate 16 0
  decrypt _ _ body _ := some (body.take (body.length - 16))
  length_encrypt _ _ raw _ := by simp
  decrypt_encrypt _ _ raw _ := by simp
  digit := Char.isDigit
  fromisoformat _ := some true

def store : FileCaptureStore where
  masterKey := List.replicate 32 0
  keyVersion := "k"
  keyReference := "f"
  strong := by simp
  safe := by decide

def call : CaptureCall Int primitives where
  scope := scope
  metadata := metadata
  objects := [object]
  source _ := []
  ownerId := "e"
  draws := {
    token := fun n => UInt8.ofNat n :: List.replicate 11 0
    length_token := fun _ => rfl }
  verifiedAt := { text := moment, aware := rfl, short := by simp [moment] }

theorem encode_injective {s t : String} (h : encode s = encode t) : s = t := by
  have hread := congrArg Snapshot.decode? h
  rw [Snapshot.decode?_encode, Snapshot.decode?_encode] at hread
  exact Option.some.inj hread

theorem dumps_ne_id (v : Json Int) : dumps v ≠ encode "o" := by
  intro h
  have hread := Json.read_canonical v
  rw [encode_injective h] at hread
  have hnone : (Json.read "o" : Option (Json Int)).isNone = true := by decide
  rw [hread] at hnone
  cases hnone

theorem dumps_ne_nil (v : Json Int) : dumps v ≠ [] := List.ne_nil_of_length_pos (dumps_pos v)

theorem payload_ne_metadata : dumps payload ≠ dumps metadata := by
  intro h
  have hread := congrArg (loads (ν := Int)) h
  rw [loads_dumps, loads_dumps] at hread
  have hmembers := congrArg (fun v => (Json.members? v).map List.length) (Option.some.inj hread)
  simp only [members?_sorted, Option.map_map, Function.comp_def] at hmembers
  have hlength : ∀ row : Row Int, (sortedRow row).length = row.length := fun row => by
    simpa using (keys_sortedRow row).length_eq
  simp [payload, metadata, members, Json.members?, hlength] at hmembers

theorem primitives_sha256 (bytes : Bytes) : primitives.sha256 bytes = sha256 bytes := rfl

theorem call_metadata : call.metadata = metadata := rfl

theorem sha256_payload : primitives.sha256 (dumps payload) = digestOf '0' := by
  rw [primitives_sha256, sha256, if_neg (dumps_ne_nil _), if_neg (dumps_ne_id _), if_neg payload_ne_metadata]

theorem collisionFree : CollisionFree call := by
  have hne : ∀ {a b : Char}, a ≠ b → digestOf a ≠ digestOf b := fun h heq => h (digestOf_injective heq)
  have hid : encode "o" ≠ [] := by decide
  constructor
  · intro bytes h
    rw [call_metadata] at h ⊢
    rw [primitives_sha256, primitives_sha256, sha256, sha256, if_neg (dumps_ne_nil metadata), if_neg (dumps_ne_id metadata), if_pos rfl] at h
    split_ifs at h with h₁ h₂ h₃
    · exact absurd h (hne (by decide))
    · exact absurd h (hne (by decide))
    · exact h₃
    · exact absurd h (hne (by decide))
  · intro item _ bytes h
    have hempty : content (call.source item) = [] := rfl
    rw [hempty] at h ⊢
    rw [primitives_sha256, primitives_sha256, sha256, sha256, if_pos rfl] at h
    split_ifs at h with h₁ h₂ h₃
    · exact h₁
    · exact absurd h (hne (by decide))
    · exact absurd h (hne (by decide))
    · exact absurd h (hne (by decide))
  · intro item hitem bytes h
    have hobject : item.objectId = "o" := congrArg (·.objectId) (List.mem_singleton.1 hitem)
    rw [hobject] at h ⊢
    rw [primitives_sha256, primitives_sha256, sha256, sha256, if_neg hid, if_pos rfl] at h
    split_ifs at h with h₁ h₂ h₃
    · exact absurd h (hne (by decide))
    · exact h₂
    · exact absurd h (hne (by decide))
    · exact absurd h (hne (by decide))

theorem valid : Valid store call (fun _ => none) [object] where
  checked := checkObjects_eq_ok.2 ⟨by simp [call], by simp [call, object], rfl⟩
  metadata := by
    have hmoment : isInstant primitives (some moment) = true := by decide
    have hscope : call.scope = scope := rfl
    rw [hscope, call_metadata, checkMetadata, readTables_metadata hmoment, Option.bind_some, checkTables_tables sha256_payload]
  short := metadata_short
  owner := by decide
  ownerShort := Nat.add_le_of_le_sub (by decide) ((length_ownerText call).trans (by decide))
  name := by
    simp only [directoryName, Call.bind_eq_ok, require_eq_ok, pure_eq_ok]
    exact ⟨(), by decide, trivial⟩
  vacant := rfl
  fresh := by
    have hcount : 3 + ([object].map (·.chunks)).sum = 4 := by decide
    rw [hcount]
    simp only [Draws.Fresh]
    decide
  delivered item hitem := by
    rw [List.mem_singleton.1 hitem]
    exact ⟨[], rfl, rfl, rfl⟩

end Sample

theorem captures_restored_sample : ∃ receipt root',
    capture Sample.primitives Sample.store Sample.call (fun _ => none) = .ok (receipt, root') ∧
      verify Sample.primitives Sample.store Sample.scope root' (some receipt) =
        .ok ⟨Sample.metadata.sorted, receipt.sorted⟩ := by
  obtain ⟨receipt, root', h⟩ := capture_returns Sample.valid
  exact ⟨receipt, root', h, (captures_restored h Sample.collisionFree).1.1⟩

end DaonUser.RecoveryCapture
