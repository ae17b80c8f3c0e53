import DaonUser.RecoveryCapture.Restored

/-!
# What is written is read

A run of `capture` on valid arguments returns: `_verify_data` accepts what was written (`capture_returns`).
The reader follows the writer frame by frame, with the nonces in the same order.
-/

namespace DaonUser.RecoveryCapture

open Lib
open Call (bind_eq_ok)
open Snapshot (Bytes encode dumps loads pack unpack number loads_dumps unpack_pack)

variable {ν : Type} [PythonNumber ν] {p : Primitives} {store : FileCaptureStore} {c : CaptureCall ν p}

/-! ## Metadata that are read again -/

section Metadata

omit [PythonNumber ν] in
theorem keys_sortedRow (row : Row ν) : ((sortedRow row).map (·.1)).Perm (row.map (·.1)) := by
  have hperm : (sortedRow row).Perm (Json.sortedMembers row) := List.perm_insertionSort _ _
  have hkeys : (Json.sortedMembers row).map (·.1) = row.map (·.1) := by
    rw [Json.sortedMembers_eq, List.map_map]
    rfl
  rw [← hkeys]
  exact hperm.map _

omit [PythonNumber ν] in
theorem hasKeys_sortedRow {keys : List String} {row : Row ν} :
    Json.HasKeys keys (sortedRow row) ↔ Json.HasKeys keys row := by
  have hkeys : ∀ row : Row ν, Json.HasKeys keys row ↔
      (∀ key ∈ row.map (·.1), key ∈ keys) ∧ ∀ key ∈ keys, key ∈ row.map (·.1) := fun row => by
    rw [Json.HasKeys, List.forall_mem_map]
  rw [hkeys, hkeys]
  simp only [(keys_sortedRow row).mem_iff]

omit [PythonNumber ν] in
@[simp] theorem textOf?_sortedRow (key : String) (row : Row ν) :
    Json.textOf? key (sortedRow row) = Json.textOf? key row := by
  rw [Json.textOf?, field?_sortedRow, Option.bind_map]
  exact congrArg _ (funext Json.text?_sorted)

@[simp] theorem natOf?_sortedRow (key : String) (row : Row ν) :
    Json.natOf? key (sortedRow row) = Json.natOf? key row := by
  rw [Json.natOf?, field?_sortedRow, Option.bind_map]
  exact congrArg _ (funext Json.nat?_sorted)

omit [PythonNumber ν] in
theorem members?_sorted (v : Json ν) : Json.members? v.sorted = (Json.members? v).map sortedRow := by
  cases v <;> rfl

omit [PythonNumber ν] in
theorem mapM_sortedRow {β : Type} {f : Row ν → Option β} (hf : ∀ row, f (sortedRow row) = f row)
    (rows : List (Row ν)) : (rows.map sortedRow).mapM f = rows.mapM f := by
  induction rows with
  | nil => rfl
  | cons row rows ih => rw [List.map_cons, List.mapM_cons, List.mapM_cons, hf, ih]

omit [PythonNumber ν] in
theorem all_sortedRow {f g : Row ν → Bool} (h : ∀ row, f (sortedRow row) = g row) (rows : List (Row ν)) :
    (rows.map sortedRow).all f = rows.all g := by
  rw [List.all_map]
  exact congrArg (List.all rows) (funext h)

variable {scope : CaptureScope} {objects : List BackupObjectInput}

theorem checkRow_sorted (columns : List String) (v : Json ν) :
    checkRow p scope columns v.sorted = (checkRow p scope columns v).map sortedRow := by
  unfold checkRow
  rw [members?_sorted]
  cases Json.members? v with
  | none => rfl
  | some row =>
    simp only [Option.map_some, Option.bind_eq_bind, Option.bind_some, hasKeys_sortedRow, textOf?_sortedRow,
      natOf?_sortedRow, Option.map_bind, Function.comp_def]
    rfl

theorem mapM_checkRow (columns : List String) (values : List (Json ν)) :
    (values.map Json.sorted).mapM (checkRow p scope columns) =
      (values.mapM (checkRow p scope columns)).map (·.map sortedRow) := by
  induction values with
  | nil => rfl
  | cons v values ih =>
    rw [List.map_cons, List.mapM_cons, List.mapM_cons, checkRow_sorted, ih]
    cases checkRow p scope columns v with
    | none => rfl
    | some row => cases values.mapM (checkRow p scope columns) <;> rfl

theorem checkTable_sorted (tables : Row ν) (table : String) :
    checkTable p scope (sortedRow tables) table = (checkTable p scope tables table).map (·.map sortedRow) := by
  unfold checkTable
  rw [field?_sortedRow]
  cases Json.field? table tables with
  | none => rfl
  | some v =>
    rw [Option.map_some, Option.bind_some, Option.bind_some, Json.items?_sorted]
    cases Json.items? v with
    | none => rfl
    | some values =>
      simp only [Option.map_some, Option.bind_eq_bind, Option.bind_some, mapM_checkRow, List.length_map, ne_eq,
        List.map_eq_nil_iff, Option.map_bind, Function.comp_def]

omit [PythonNumber ν] in
theorem isTrue_sortedRow (key : String) (row : Row ν) :
    isTrue (Json.field? key (sortedRow row)) = isTrue (Json.field? key row) := by
  rw [field?_sortedRow]
  cases Json.field? key row with
  | none => rfl
  | some v => cases v <;> rfl

omit [PythonNumber ν] in
theorem isCanonId_sortedRow (key : String) (row : Row ν) :
    isCanonId (Json.field? key (sortedRow row)) = isCanonId (Json.field? key row) :=
  congrArg (fun o => o.any isLongId) (textOf?_sortedRow key row)

theorem isCanonRow_sortedRow (row : Row ν) : isCanonRow p (sortedRow row) = isCanonRow p row := by
  unfold isCanonRow
  have hpayload : ((Json.field? "canonical_json" (sortedRow row)).any fun payload =>
        (Json.members? payload).isSome &&
          Json.textOf? "digest_sha256" row == some (p.sha256 (dumps payload))) =
      (Json.field? "canonical_json" row).any fun payload => (Json.members? payload).isSome &&
        Json.textOf? "digest_sha256" row == some (p.sha256 (dumps payload)) := by
    rw [field?_sortedRow]
    cases Json.field? "canonical_json" row with
    | none => rfl
    | some payload =>
      rw [Option.map_some, Option.any_some, Option.any_some, members?_sorted, Option.isSome_map,
        dumps_congr (Json.sorted_sorted payload)]
  rw [textOf?_sortedRow, hpayload, isCanonId_sortedRow, isCanonId_sortedRow]
  congr 1
  rw [field?_sortedRow]
  cases Json.field? "previous_version_id" row with
  | none => rfl
  | some v => cases v <;> rfl

omit [PythonNumber ν] in
theorem digestKey_sortedRow (payload : Row ν) : digestKey (sortedRow payload) = digestKey payload := by
  unfold digestKey
  rw [field?_sortedRow]
  cases Json.field? "origin_kind" payload with
  | none => rfl
  | some v => cases v <;> rfl

theorem describes_sortedRow (row : Row ν) : describes objects (sortedRow row) = describes objects row := by
  unfold describes
  rw [textOf?_sortedRow, field?_sortedRow]
  cases Json.field? "canonical_json" row with
  | none => rfl
  | some payload =>
    rw [Option.map_some, Option.bind_some, Option.bind_some, members?_sorted]
    cases Json.members? payload with
    | none => rfl
    | some members =>
      simp only [Option.map_some, Option.any_some, textOf?_sortedRow, natOf?_sortedRow, digestKey_sortedRow]

theorem records_sortedRow (row : Row ν) : records objects (sortedRow row) = records objects row := by
  simp only [records, textOf?_sortedRow, natOf?_sortedRow]

omit [PythonNumber ν] in
theorem binds_sortedRow (versions : List (Row ν)) (row : Row ν) :
    binds scope (versions.map sortedRow) (sortedRow row) = binds scope versions row := by
  simp only [binds, textOf?_sortedRow, List.find?_map, Option.any_map, Function.comp_def]

omit [PythonNumber ν] in
theorem ofNotebook_sortedRow {rows : List (Row ν)} :
    OfNotebook scope (rows.map sortedRow) ↔ OfNotebook scope rows := by
  unfold OfNotebook
  rw [List.map_map]
  exact iff_of_eq (congrArg (· = _) (List.map_congr_left fun row _ => textOf?_sortedRow _ row))

def Tables.sorted (t : Tables ν) : Tables ν where
  notebooks := t.notebooks.map sortedRow
  titles := t.titles.map sortedRow
  bindings := t.bindings.map sortedRow
  sources := t.sources.map sortedRow
  versions := t.versions.map sortedRow
  objectRecords := t.objectRecords.map sortedRow

theorem readTables_sorted (metadata : Json ν) :
    readTables p scope metadata.sorted = (readTables p scope metadata).map Tables.sorted := by
  unfold readTables
  rw [members?_sorted]
  cases Json.members? metadata with
  | none => rfl
  | some tables =>
    simp only [Option.map_some, Option.bind_eq_bind, Option.bind_some, hasKeys_sortedRow, checkTable_sorted,
      Option.bind_map, Option.map_bind, Function.comp_def]
    rfl

theorem checkTables_sorted (t : Tables ν) :
    checkTables p scope objects t.sorted = checkTables p scope objects t := by
  have htext : ∀ key, ∀ rows : List (Row ν), (rows.map sortedRow).mapM (Json.textOf? key) =
      rows.mapM (Json.textOf? key) := fun key => mapM_sortedRow (textOf?_sortedRow key)
  have hcurrent : ∀ rows : List (Row ν), ((rows.map sortedRow).all fun row =>
      isTrue (Json.field? "is_current" row)) = rows.all fun row => isTrue (Json.field? "is_current" row) :=
    all_sortedRow (isTrue_sortedRow "is_current")
  have hbinds : ∀ versions rows : List (Row ν), (rows.map sortedRow).all
      (binds scope (versions.map sortedRow)) = rows.all (binds scope versions) := fun versions =>
    all_sortedRow (binds_sortedRow versions)
  have hcanon : ∀ xs ys : List (Row ν), (xs.map sortedRow ++ ys.map sortedRow).all (isCanonRow p) =
      (xs ++ ys).all (isCanonRow p) := fun xs ys => by
    rw [← List.map_append]
    exact all_sortedRow isCanonRow_sortedRow _
  have hdescribes : ∀ rows : List (Row ν), (rows.map sortedRow).all (describes objects) =
      rows.all (describes objects) := all_sortedRow describes_sortedRow
  have hrecords : ∀ rows : List (Row ν), (rows.map sortedRow).all (records objects) =
      rows.all (records objects) := all_sortedRow records_sortedRow
  simp only [checkTables, Tables.sorted, ofNotebook_sortedRow, htext, hcurrent, hbinds, hcanon, hdescribes,
    hrecords, List.length_map]

theorem checkMetadata_sorted (metadata : Json ν) :
    checkMetadata p scope metadata.sorted objects = checkMetadata p scope metadata objects := by
  unfold checkMetadata
  rw [readTables_sorted, Option.bind_map]
  exact congrArg _ (funext checkTables_sorted)

end Metadata

theorem read_append {bytes tail seen : Bytes} {nonces : List Bytes} :
    read bytes.length ⟨bytes ++ tail, seen, nonces⟩ = .ok (bytes, ⟨tail, seen ++ bytes, nonces⟩) := by
  simp only [read, bind_eq_ok, require_eq_ok, pure_eq_ok, exists_const]
  refine ⟨by simp, ?_⟩
  rw [List.take_left, List.drop_left]

theorem readFrame_frame {blob size tail seen : Bytes} {limit : Nat} {nonces : List Bytes}
    (hsize : pack blob.length = some size) (hmin : 28 ≤ blob.length) (hmax : blob.length ≤ limit + 28) :
    readFrame limit ⟨size ++ blob ++ tail, seen, nonces⟩ =
      .ok (blob, ⟨tail, seen ++ (size ++ blob), nonces⟩) := by
  obtain ⟨hunpack, hlength⟩ := unpack_pack hsize
  simp only [readFrame, bind_eq_ok, require_eq_ok, Prod.exists, exists_const]
  refine ⟨size, ⟨blob ++ tail, seen ++ size, nonces⟩, ?_, ?_, ?_⟩
  · rw [List.append_assoc, ← hlength]
    exact read_append
  · rw [hunpack]
    exact ⟨hmin, hmax⟩
  · rw [hunpack, ← List.append_assoc]
    exact read_append

section Objects

variable {item : BackupObjectInput}

theorem length_fill {expected : Nat} {chunk : Bytes} {answers rest : List Bytes}
    (h : fill expected [] answers = .ok (chunk, rest)) : chunk.length = expected :=
  (fill_eq_ok h (Nat.zero_le _)).1

theorem readChunk_written {s s' : Writing} {index : Nat} (h : writeChunk p store c item s index = .ok s') :
    ∃ fr, s'.data = s.data ++ fr ∧ ∀ tail seen u,
      readChunk (ν := ν) p store c.scope ignore item ⟨⟨fr ++ tail, seen, s.nonces⟩, s.plain, s.cipher, u⟩
        index = .ok ⟨⟨tail, seen ++ fr, s'.nonces⟩, s'.plain, s'.cipher, ()⟩ := by
  obtain ⟨chunk, blob, hfill, hblob, hframe, hplain, hcipher⟩ := writeChunk_eq_ok h
  obtain ⟨size, hsize, hdata, -⟩ := frame_eq_ok hframe
  obtain ⟨hnew, rfl, hnonces⟩ := encrypt_eq_ok.1 hblob
  have hchunk := length_fill hfill
  have hlength : chunk.length ≤ chunkSize := hchunk.trans_le (min_le_left _ _)
  refine ⟨size ++ _, by rw [hdata, List.append_assoc], fun tail seen u => ?_⟩
  refine readChunk_eq_ok.2 ⟨_, ⟨tail, _, s.nonces⟩, chunk, s'.nonces, (), readFrame_frame hsize ?_ ?_, ?_, hchunk,
    rfl, ?_⟩
  · rw [List.length_append, p.length_encrypt, c.draws.length_token]
    omega
  · rw [List.length_append, p.length_encrypt, c.draws.length_token]
    omega
  · rw [hnonces]
    exact decrypt_sealed (c.draws.length_token _) hnew
  · rw [hplain, hcipher]

theorem readChunks_written {indices : List Nat} {s s' : Writing}
    (h : indices.foldlM (writeChunk p store c item) s = .ok s') :
    ∃ fr, s'.data = s.data ++ fr ∧ ∀ tail seen u,
      indices.foldlM (readChunk (ν := ν) p store c.scope ignore item)
        ⟨⟨fr ++ tail, seen, s.nonces⟩, s.plain, s.cipher, u⟩ =
          .ok ⟨⟨tail, seen ++ fr, s'.nonces⟩, s'.plain, s'.cipher, ()⟩ := by
  induction indices generalizing s with
  | nil =>
    cases h
    refine ⟨[], by simp, fun tail seen u => ?_⟩
    rw [List.nil_append, List.append_nil]
    rfl
  | cons index indices ih =>
    rw [List.foldlM_cons] at h
    obtain ⟨s₁, hround, hrest⟩ := bind_eq_ok.1 h
    obtain ⟨fr, hdata, hread⟩ := readChunk_written hround
    obtain ⟨fr', hdata', hread'⟩ := ih hrest
    refine ⟨fr ++ fr', by rw [hdata', hdata, List.append_assoc], fun tail seen u => ?_⟩
    rw [List.foldlM_cons, List.append_assoc]
    refine bind_eq_ok.2 ⟨_, hread (fr' ++ tail) seen u, ?_⟩
    rw [hread', List.append_assoc]

theorem readObject_written {s s' : Written × List (Json ν)} (h : writeObject p store c item s = .ok s') :
    ∃ fr cipher, s'.1.data = s.1.data ++ fr ∧ s'.2 = s.2 ++ [objectRecord p item cipher] ∧
      ∀ tail seen u, readObject (ν := ν) p store c.scope ignore item (⟨fr ++ tail, seen, s.1.nonces⟩, u)
        (recordMembers p item cipher) = .ok (⟨tail, seen ++ fr, s'.1.nonces⟩, ()) := by
  simp only [writeObject, bind_eq_ok, require_eq_ok, pure_eq_ok, exists_const] at h
  obtain ⟨final, hloop, -, hplain, rfl⟩ := h
  obtain ⟨fr, hdata, hread⟩ := readChunks_written hloop
  refine ⟨fr, final.cipher, hdata, rfl, fun tail seen u => ?_⟩
  refine readObject_eq_ok.2 ⟨?_, _, hread tail seen u, hplain.1, hplain.2, ?_, rfl⟩
  · rw [recordMembers_field (number item.chunks) (by simp [recordMembers])]
    exact nat?_number item.chunks
  · rw [recordMembers_field (.str (p.sha256 final.cipher)) (by simp [recordMembers])]
    exact Json.same_sorted (.str (p.sha256 final.cipher) : Json ν)

theorem readObjects_written {objects : List BackupObjectInput} {s s' : Written × List (Json ν)}
    (h : objects.foldlM (fun s item => writeObject p store c item s) s = .ok s') :
    ∃ fr rows, s'.1.data = s.1.data ++ fr ∧ s'.2 = s.2 ++ rows.map .obj ∧
      List.Forall₂ (fun item row => ∃ cipher, row = recordMembers (ν := ν) p item cipher) objects rows ∧
      ∀ tail seen u, (objects.zip rows).foldlM
        (fun s item => readObject p store c.scope ignore item.1 s item.2) (⟨fr ++ tail, seen, s.1.nonces⟩, u) =
          .ok (⟨tail, seen ++ fr, s'.1.nonces⟩, ()) := by
  induction objects generalizing s with
  | nil =>
    cases h
    refine ⟨[], [], by simp, by simp, .nil, fun tail seen u => ?_⟩
    rw [List.nil_append, List.append_nil]
    rfl
  | cons item objects ih =>
    rw [List.foldlM_cons] at h
    obtain ⟨s₁, hround, hrest⟩ := bind_eq_ok.1 h
    obtain ⟨fr, cipher, hdata, hrecord, hread⟩ := readObject_written hround
    obtain ⟨fr', rows, hdata', hrecords, hrows, hread'⟩ := ih hrest
    refine ⟨fr ++ fr', recordMembers p item cipher :: rows, by rw [hdata', hdata, List.append_assoc], ?_,
      .cons ⟨cipher, rfl⟩ hrows, fun tail seen u => ?_⟩
    · rw [hrecords, hrecord, List.append_assoc]
      rfl
    · rw [List.zip_cons_cons, List.foldlM_cons, List.append_assoc]
      refine bind_eq_ok.2 ⟨_, hread (fr' ++ tail) seen u, ?_⟩
      rw [hread', List.append_assoc]

end Objects

/-! ## The folder -/

section Folder

variable {objects : List BackupObjectInput} {records : List (Json ν)} {rows : List (Row ν)}
  {raw data : Bytes}

theorem receiptMembers_field {scope : CaptureScope} {key : String} (value : Json ν)
    (h : (key, value) ∈ receiptMembers p store scope raw records data) :
    Json.field? key (receiptMembers p store scope raw records data) = some value := by
  refine Json.field?_of_mem ?_ h
  have hkeys : (receiptMembers p store scope raw records data).map (·.1) =
      ["format_version", "capture_id", "tenant_id", "workspace_id", "notebook_id", "source_version_ids",
        "selection_fingerprint", "schema_revision", "policy_version", "retention_watermark", "key_version",
        "key_reference", "metadata_digest", "metadata_size", "objects", "data_digest", "data_size"] := rfl
  rw [hkeys]
  decide

theorem inputOf_record {item : BackupObjectInput} {cipher : Bytes} :
    inputOf (ν := ν) (.obj (recordMembers p item cipher)) = .ok (item, recordMembers p item cipher) := by
  refine inputOf_eq_ok.2 ⟨rfl, ?_, ?_, ?_⟩
  · rw [Json.textOf?, recordMembers_field (.str item.objectId) (by simp [recordMembers])]
    rfl
  · rw [Json.textOf?, recordMembers_field (.str item.checksum) (by simp [recordMembers])]
    rfl
  · rw [Json.natOf?, recordMembers_field (number item.byteSize) (by simp [recordMembers])]
    exact nat?_number _

theorem checkObjects_checked {xs : List BackupObjectInput} (h : checkObjects xs = .ok objects) :
    checkObjects objects = .ok objects := by
  have hsorted := pairwise_checkObjects h
  obtain ⟨⟨hpos, hmax, hids⟩, hsum, hobjects⟩ := checkObjects_eq_ok.1 h
  have hperm : objects.Perm xs := hobjects ▸ List.perm_insertionSort _ _
  refine checkObjects_eq_ok.2 ⟨⟨?_, ?_, ?_⟩, ?_, hsorted.insertionSort_eq.symm⟩
  · rwa [hperm.length_eq]
  · rwa [hperm.length_eq]
  · exact (hperm.map _).nodup_iff.2 hids
  · rwa [(hperm.map _).sum_eq]

theorem receiptObjects_written {scope : CaptureScope} (hchecked : checkObjects objects = .ok objects)
    (hrows : List.Forall₂ (fun item row => ∃ cipher, row = recordMembers (ν := ν) p item cipher) objects rows) :
    receiptObjects (receiptMembers p store scope raw (rows.map .obj) data) = .ok (objects.zip rows) := by
  have hinputs : List.Forall₂ (fun v x => inputOf v = .ok x) (rows.map Json.obj) (objects.zip rows) := by
    clear hchecked
    induction hrows with
    | nil => exact .nil
    | cons hrow _ ih =>
      obtain ⟨cipher, rfl⟩ := hrow
      exact .cons inputOf_record ih
  have hfst : (objects.zip rows).map (·.1) = objects := List.map_fst_zip hrows.length_eq.le
  have hsnd : (objects.zip rows).map (·.2) = rows := List.map_snd_zip hrows.length_eq.ge
  simp only [receiptObjects, bind_eq_ok, require_eq_ok, orRaise_eq_ok, pure_eq_ok, exists_const]
  refine ⟨rows.map .obj, ?_, objects.zip rows, mapM_eq_ok.2 hinputs, objects, ?_, ?_, ?_⟩
  · rw [receiptMembers_field (.arr (rows.map .obj)) (by simp [receiptMembers])]
    rfl
  · rw [hfst]
    exact hchecked
  · rw [← hfst, List.map_map, hfst]
    rfl
  · rw [hsnd]

/-- The text of `owner.bin`. -/
def ownerText (c : CaptureCall ν p) : Bytes :=
  dumps (.obj [("scope", .obj c.scope.binding), ("owner_id", .str c.ownerId)] : Json ν)

theorem readOwner_written {owner : Bytes} {nonces : List Bytes} {folder : Folder}
    (hfile : folder.owner = some owner) (hlength : owner.length ≤ 16384) (hsafe : isSafeId c.ownerId = true)
    (h : encrypt ν p store c.scope c.draws "owner" (ownerText c) [] [] = .ok (owner, nonces)) :
    readOwner (ν := ν) p store c.scope folder [] = .ok (c.ownerId, nonces) := by
  obtain ⟨hnew, howner, hnonces⟩ := encrypt_eq_ok.1 h
  have hread : readFile folder.owner 16384 = .ok owner := by
    simp only [readFile, bind_eq_ok, require_eq_ok, orRaise_eq_ok, pure_eq_ok, exists_const]
    exact ⟨owner, hfile, hlength, rfl⟩
  have hopen : decrypt ν p store c.scope "owner" owner [] [] = .ok (ownerText c, nonces) := by
    rw [howner, hnonces]
    exact decrypt_sealed (c.draws.length_token _) hnew
  have hnodup : (([("scope", .obj c.scope.binding), ("owner_id", .str c.ownerId)] : Row ν).map (·.1)).Nodup := by
    simp
  simp only [readOwner, bind_eq_ok, require_eq_ok, orRaise_eq_ok, pure_eq_ok, exists_const, Prod.exists]
  refine ⟨owner, hread, _, _, hopen, _, loads_dumps _, sortedRow _, rfl, ?_, ?_, c.ownerId, ?_, hsafe, rfl⟩
  · rw [hasKeys_sortedRow]
    simp [Json.HasKeys]
  · exact is_of_mem hnodup (by simp)
  · rw [textOf?_sortedRow]
    rfl

theorem readMetadata_written {blob size tail seen : Bytes} {nonces nonces' : List Bytes}
    (hpos : 0 < raw.length) (hmax : raw.length ≤ maxMetadataBytes) (hsize : pack blob.length = some size)
    (h : encrypt ν p store c.scope c.draws "metadata" raw [number raw.length, .str (p.sha256 raw)] nonces =
      .ok (blob, nonces')) :
    readMetadata p store c.scope (receiptMembers p store c.scope raw records data)
      ⟨size ++ blob ++ tail, seen, nonces⟩ = .ok (raw, ⟨tail, seen ++ (size ++ blob), nonces'⟩) := by
  obtain ⟨hnew, hblob, hnonces⟩ := encrypt_eq_ok.1 h
  have hlength : blob.length = raw.length + 28 := by
    rw [hblob, List.length_append, p.length_encrypt, c.draws.length_token]
    omega
  refine readMetadata_eq_ok.2 ⟨number raw.length, raw.length, blob, _, .str (p.sha256 raw), nonces',
    receiptMembers_field _ (by simp [receiptMembers]), nat?_number _, ⟨hpos, hmax⟩,
    readFrame_frame hsize (by omega) (by omega), receiptMembers_field _ (by simp [receiptMembers]), ?_, rfl, ?_, rfl⟩
  · rw [hblob, hnonces]
    exact decrypt_sealed (c.draws.length_token _) hnew
  · exact Json.same_sorted (.str (p.sha256 raw) : Json ν)

theorem verifyData_written {owner blob data : Bytes} {nonces₁ nonces₂ : List Bytes} {written : Written}
    {folder : Folder} (hchecked : checkObjects c.objects = .ok objects)
    (hvalid : validateMetadata p c.scope c.metadata objects = .ok (dumps c.metadata))
    (hpos : 0 < (dumps c.metadata).length) (hsafe : isSafeId c.ownerId = true)
    (howner : encrypt ν p store c.scope c.draws "owner" (ownerText c) [] [] = .ok (owner, nonces₁))
    (hlength : owner.length ≤ 16384) (hfile : folder.owner = some owner)
    (hblob : encrypt ν p store c.scope c.draws "metadata" (dumps c.metadata)
      [number (dumps c.metadata).length, .str (p.sha256 (dumps c.metadata))] nonces₁ = .ok (blob, nonces₂))
    (hframe : frame magic blob = .ok data)
    (hloop : objects.foldlM (fun s item => writeObject p store c item s) (⟨data, nonces₂⟩, []) =
      .ok (written, records))
    (hdata : folder.data = some written.data) :
    verifyData p store c.scope ignore folder
      (receiptMembers p store c.scope (dumps c.metadata) records written.data) () =
        .ok (c.metadata.sorted, ()) := by
  obtain ⟨hmetadata, hmax, -⟩ := validateMetadata_eq_ok.1 hvalid
  obtain ⟨size, hsize, hstart, -⟩ := frame_eq_ok hframe
  obtain ⟨fr, rows, hwritten, hrecords, hrows, hread⟩ := readObjects_written hloop
  rw [List.nil_append] at hrecords
  subst hrecords
  have hbytes : written.data = magic ++ (size ++ blob ++ fr) := by
    rw [hwritten, hstart]
    simp only [List.append_assoc]
  have hopen : openData (ν := ν) p store c.scope folder = .ok ⟨size ++ blob ++ fr, magic, nonces₁⟩ := by
    simp only [openData, bind_eq_ok, require_eq_ok, orRaise_eq_ok, pure_eq_ok, exists_const, Prod.exists]
    refine ⟨c.ownerId, nonces₁, readOwner_written hfile hlength hsafe howner, written.data, hdata, magic, _, ?_,
      rfl, rfl⟩
    rw [hbytes]
    exact read_append
  have hseen : magic ++ (size ++ blob) ++ fr = written.data := by
    rw [hbytes, List.append_assoc, List.append_assoc]
  refine verifyData_eq_ok.2 ⟨_, dumps c.metadata, ⟨fr, magic ++ (size ++ blob), nonces₂⟩, objects.zip rows,
    dumps c.metadata, ⟨[], written.data, written.nonces⟩, hopen, readMetadata_written hpos hmax hsize hblob,
    loads_dumps _, receiptObjects_written (checkObjects_checked hchecked) hrows, ?_, ?_, rfl, ?_, ?_⟩
  · rw [List.map_fst_zip hrows.length_eq.le]
    refine validateMetadata_eq_ok.2 ⟨?_, ?_, (dumps_congr (Json.sorted_sorted _)).symm⟩
    · rw [checkMetadata_sorted]
      exact hmetadata
    · rwa [dumps_congr (Json.sorted_sorted _)]
  · have hlast := hread [] (magic ++ (size ++ blob)) ()
    rw [List.append_nil, hseen] at hlast
    exact hlast
  · rw [receiptMembers_field (number written.data.length) (by simp [receiptMembers])]
    exact Json.same_sorted (number written.data.length : Json ν)
  · rw [receiptMembers_field (.str (p.sha256 written.data)) (by simp [receiptMembers])]
    exact Json.same_sorted (.str (p.sha256 written.data) : Json ν)

end Folder

/-! ## Captures that return -/

def reads : Nat → Bytes → List Bytes
  | 0, _ => []
  | n + 1, bytes => if bytes = [] then [] else bytes.take chunkSize :: reads n (bytes.drop chunkSize)

theorem fill_reads (n : Nat) (bytes : Bytes) : fill (min chunkSize bytes.length) [] (reads (n + 1) bytes) =
    .ok (bytes.take chunkSize, reads n (bytes.drop chunkSize)) := by
  by_cases h : bytes = []
  · subst h
    cases n <;> simp [reads, fill]
  · have hlength : (bytes.take chunkSize).length = min chunkSize bytes.length := List.length_take
    have hpos : ([] : Bytes).length < min chunkSize bytes.length :=
      lt_min (by decide) (List.length_pos_iff.2 h)
    have hpiece : bytes.take chunkSize ≠ [] := fun heq => by
      rw [heq] at hlength
      exact absurd hlength (Nat.ne_of_lt hpos)
    have hfull : ∀ answers, fill (min chunkSize bytes.length) (bytes.take chunkSize) answers =
        .ok (bytes.take chunkSize, answers) := fun answers => by
      cases answers <;> rw [fill, if_neg (by omega)]
    rw [reads, if_neg h, fill, if_pos hpos, if_neg, List.nil_append, hfull]
    rintro (heq | hlt)
    · exact hpiece heq
    · rw [hlength, List.length_nil, Nat.sub_zero] at hlt
      exact lt_irrefl _ hlt

def Drawn (draws : Draws) (n : Nat) (nonces : List Bytes) : Prop := nonces = (List.range n).map draws.token

/-- A nonce that was not drawn before. -/
def Draws.Fresh (draws : Draws) (n : Nat) : Prop := draws.token n ∉ (List.range n).map draws.token

theorem encrypt_runs (store : FileCaptureStore) (scope : CaptureScope) {draws : Draws} (purpose : String)
    (raw : Bytes) (detail : List (Json ν)) {n : Nat} {nonces : List Bytes} (hfresh : draws.Fresh n)
    (hdrawn : Drawn draws n nonces) :
    ∃ blob nonces', encrypt ν p store scope draws purpose raw detail nonces = .ok (blob, nonces') ∧
      blob.length = raw.length + 28 ∧ Drawn draws (n + 1) nonces' := by
  have hlength : nonces.length = n := by
    rw [hdrawn, List.length_map, List.length_range]
  have hnew : draws.token nonces.length ∉ nonces := by
    rw [hlength, hdrawn]
    exact hfresh
  refine ⟨_, _, encrypt_eq_ok.2 ⟨hnew, rfl, rfl⟩, ?_, ?_⟩
  · rw [List.length_append, p.length_encrypt, draws.length_token]
    omega
  · rw [hlength, Drawn, List.range_succ, List.map_append, ← hdrawn]
    rfl

theorem frame_runs (data blob : Bytes) (h : blob.length < 2 ^ 32) : ∃ data', frame data blob = .ok data' := by
  obtain ⟨size, hsize⟩ : ∃ size, pack blob.length = some size := ⟨_, if_pos h⟩
  refine ⟨data ++ size ++ blob, ?_⟩
  simp only [frame, bind_eq_ok, orRaise_eq_ok, pure_eq_ok]
  exact ⟨size, hsize, rfl⟩

section Returns

variable {item : BackupObjectInput}

theorem chunks_mul (item : BackupObjectInput) : item.byteSize ≤ item.chunks * chunkSize := by
  unfold BackupObjectInput.chunks chunkSize
  omega

theorem writeObject_runs {bytes : Bytes} {s : Written × List (Json ν)} {n : Nat}
    (hfresh : ∀ i < item.chunks, c.draws.Fresh (n + i)) (hsource : c.source item = reads item.chunks bytes)
    (hlength : bytes.length = item.byteSize) (hdigest : p.sha256 bytes = item.checksum)
    (hdrawn : Drawn c.draws n s.1.nonces) :
    ∃ s', writeObject p store c item s = .ok s' ∧ Drawn c.draws (n + item.chunks) s'.1.nonces := by
  have hstep : ∀ (i : Nat) (t : Writing), i < item.chunks → (t.plain = bytes.take (i * chunkSize) ∧
        t.answers = reads (item.chunks - i) (bytes.drop (i * chunkSize)) ∧
        Drawn c.draws (n + i) t.nonces) →
      ∃ t', writeChunk p store c item t i = .ok t' ∧ t'.plain = bytes.take ((i + 1) * chunkSize) ∧
        t'.answers = reads (item.chunks - (i + 1)) (bytes.drop ((i + 1) * chunkSize)) ∧
        Drawn c.draws (n + (i + 1)) t'.nonces := by
    rintro i t hi ⟨hplain, hanswers, hnonces⟩
    have hexpected : item.byteSize - t.plain.length = (bytes.drop (i * chunkSize)).length := by
      rw [hplain, List.length_take, List.length_drop]
      omega
    obtain ⟨k, hk⟩ : ∃ k, item.chunks - i = k + 1 := ⟨item.chunks - i - 1, by omega⟩
    have hfill := fill_reads k (bytes.drop (i * chunkSize))
    obtain ⟨blob, nonces', hblob, hbloblength, hnonces'⟩ := encrypt_runs (p := p) store c.scope "object"
      ((bytes.drop (i * chunkSize)).take chunkSize) (detail ν item i item.chunks) (hfresh i hi) hnonces
    have hchunk : ((bytes.drop (i * chunkSize)).take chunkSize).length ≤ chunkSize := by
      rw [List.length_take]
      exact min_le_left _ _
    obtain ⟨data', hframe⟩ := frame_runs t.data blob (by
      unfold chunkSize at hchunk hbloblength
      omega)
    have hnext : (i + 1) * chunkSize = i * chunkSize + chunkSize := Nat.succ_mul i chunkSize
    have hcount : item.chunks - (i + 1) = k := by omega
    refine ⟨⟨⟨data', nonces'⟩, reads k ((bytes.drop (i * chunkSize)).drop chunkSize),
      t.plain ++ (bytes.drop (i * chunkSize)).take chunkSize, t.cipher ++ blob⟩, ?_, ?_, ?_, hnonces'⟩
    · simp only [writeChunk, bind_eq_ok, pure_eq_ok, Prod.exists]
      refine ⟨_, _, ?_, blob, nonces', hblob, data', hframe, rfl⟩
      rw [hexpected, hanswers, hk]
      exact hfill
    · rw [hnext, List.take_add, hplain]
    · rw [hnext, ← List.drop_drop, hcount]
  obtain ⟨final, hloop, hplain, hanswers, hlast⟩ := foldlM_range_runs (s := ⟨s.1, c.source item, [], []⟩) hstep
    ⟨by simp, by simpa using hsource, hdrawn⟩
  have hall : final.plain = bytes := by
    rw [hplain, List.take_of_length_le]
    rw [hlength]
    exact chunks_mul item
  refine ⟨(final.toWritten, s.2 ++ [objectRecord p item final.cipher]), ?_, hlast⟩
  simp only [writeObject, bind_eq_ok, require_eq_ok, pure_eq_ok, exists_const]
  refine ⟨final, hloop, ?_, ?_, rfl⟩
  · rw [hanswers, Nat.sub_self]
    rfl
  · rw [hall]
    exact ⟨hlength, hdigest⟩

/-- Arguments that `capture` accepts, with sources that fill every read. -/
structure Valid (store : FileCaptureStore) (c : CaptureCall ν p) (root : Root)
    (objects : List BackupObjectInput) : Prop where
  checked : checkObjects c.objects = .ok objects
  metadata : checkMetadata p c.scope c.metadata objects = some ()
  short : (dumps c.metadata).length ≤ maxMetadataBytes
  owner : isSafeId c.ownerId = true
  ownerShort : (ownerText c).length + 28 ≤ 16384
  name : directoryName c.scope = .ok c.scope.captureId
  vacant : root c.scope.captureId = none
  fresh : ∀ n < 3 + (objects.map (·.chunks)).sum, c.draws.Fresh n
  delivered : ∀ item ∈ c.objects, ∃ bytes, c.source item = reads item.chunks bytes ∧
    bytes.length = item.byteSize ∧ p.sha256 bytes = item.checksum

theorem dumps_pos (v : Json ν) : 0 < (dumps v).length := by
  obtain ⟨ch, cs, hcs, -⟩ := Json.kindOf_head v.sorted []
  have hchars : v.canonical.toList = ch :: cs := by
    rw [Json.canonical, String.toList_ofList, ← hcs, List.append_nil]
  have hle := length_le_utf8 v.canonical.toList
  rw [hchars, List.length_cons] at hle
  unfold dumps encode
  rw [hchars]
  omega

theorem capture_returns {root : Root} {objects : List BackupObjectInput} (h : Valid store c root objects) :
    ∃ receipt root', capture p store c root = .ok (receipt, root') := by
  have hvalid : validateMetadata p c.scope c.metadata objects = .ok (dumps c.metadata) :=
    validateMetadata_eq_ok.2 ⟨h.metadata, h.short, rfl⟩
  obtain ⟨owner, nonces₁, howner, hownerlength, hdrawn₁⟩ := encrypt_runs (ν := ν) (p := p) store c.scope
    "owner" (ownerText c) [] (h.fresh 0 (by omega)) (rfl : Drawn c.draws 0 [])
  obtain ⟨blob, nonces₂, hblob, hbloblength, hdrawn₂⟩ := encrypt_runs (ν := ν) (p := p) store c.scope
    "metadata" (dumps c.metadata) [number (dumps c.metadata).length, .str (p.sha256 (dumps c.metadata))]
    (h.fresh 1 (by omega)) hdrawn₁
  obtain ⟨data, hframe⟩ := frame_runs magic blob (by
    have hshort := h.short
    unfold maxMetadataBytes at hshort
    omega)
  have hmem : ∀ item ∈ objects, item ∈ c.objects := by
    intro item hitem
    obtain ⟨-, -, rfl⟩ := checkObjects_eq_ok.1 h.checked
    exact (List.mem_insertionSort _).1 hitem
  have hround : ∀ (done : List BackupObjectInput) (item : BackupObjectInput) (rest : List BackupObjectInput)
      (s : Written × List (Json ν)), objects = done ++ item :: rest →
      Drawn c.draws (2 + (done.map (·.chunks)).sum) s.1.nonces → ∃ s', writeObject p store c item s = .ok s' ∧
        Drawn c.draws (2 + ((done ++ [item]).map (·.chunks)).sum) s'.1.nonces := by
    intro done item rest s heq hs
    have hsum : (objects.map (·.chunks)).sum =
        (done.map (·.chunks)).sum + (item.chunks + (rest.map (·.chunks)).sum) := by
      rw [heq, List.map_append, List.sum_append, List.map_cons, List.sum_cons]
    have hitem : item ∈ c.objects := hmem item (heq ▸ List.mem_append_right _ List.mem_cons_self)
    obtain ⟨bytes, hsource, hlength, hdigest⟩ := h.delivered item hitem
    obtain ⟨s', hrun, hdrawn'⟩ := writeObject_runs
      (fun i hi => h.fresh (2 + (done.map (·.chunks)).sum + i) (by omega)) hsource hlength hdigest hs
    refine ⟨s', hrun, ?_⟩
    rw [List.map_append, List.sum_append, List.map_singleton, List.sum_singleton, ← Nat.add_assoc]
    exact hdrawn'
  obtain ⟨⟨written, records⟩, hloop, hdrawn⟩ := foldlM_runs
    (P := fun (done : List BackupObjectInput) (s : Written × List (Json ν)) =>
      Drawn c.draws (2 + (done.map (·.chunks)).sum) s.1.nonces) hround
    (show Drawn c.draws 2 ((⟨data, nonces₂⟩, []) : Written × List (Json ν)).1.nonces from hdrawn₂)
  have hshort := h.ownerShort
  have hverify := verifyData_written h.checked hvalid (dumps_pos _) h.owner howner (by omega)
    (rfl : (⟨some owner, some written.data, none⟩ : Folder).owner = some owner) hblob hframe hloop rfl
  obtain ⟨last, nonces₃, hlast, -, -⟩ := encrypt_runs (ν := ν) (p := p) store c.scope "manifest"
    (dumps (.obj (receiptOf store c records written.data) : Json ν)) []
    (h.fresh (2 + (objects.map (·.chunks)).sum) (by omega)) hdrawn
  refine ⟨.obj (receiptOf store c records written.data), Function.update root c.scope.captureId
    (some ⟨some owner, some written.data, some last⟩), ?_⟩
  simp only [capture, bind_eq_ok, require_eq_ok, pure_eq_ok, exists_const, Prod.exists]
  exact ⟨objects, h.checked, _, hvalid, h.owner, _, h.name, by rw [h.vacant]; rfl, owner, nonces₁, howner, blob,
    nonces₂, hblob, data, hframe, written, records, hloop, _, _, hverify, last, nonces₃, hlast, rfl⟩

end Returns

end DaonUser.RecoveryCapture
