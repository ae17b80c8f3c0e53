import DaonUser.Lib.JsonSize
import DaonUser.RecoveryCapture.Frames
import Mathlib.Algebra.Group.Action.Defs
import Mathlib.Algebra.Order.BigOperators.Group.List

/-!
# What is read of a capture

A receipt that `verify` or `restore` accepts is the one of `capture`, so that what they read has its digests
(`verify_sound`, `restore_sound`), and the folder that `capture` has left is accepted
(`readReceipt_captured`, `verifyData_captured`): the order of the members of a receipt does not matter, and
its text is short enough.
-/

namespace DaonUser.RecoveryCapture

open Lib
open Call (bind_eq_ok)
open Snapshot (Bytes encode dumps loads pack unpack number loads_dumps)

variable {folder : Folder} {r r' : Reader} {raw : Bytes} {item : BackupObjectInput} {key : String}
  {d : Destination} {xs objects : List BackupObjectInput}

variable {ν : Type} [PythonNumber ν] {p : Primitives} {store : FileCaptureStore} {scope : CaptureScope}
  {σ : Type} {sink : Sink σ}

/-! ## The order of members -/

def sortedRow (row : Row ν) : Row ν := Json.sortMembers (Json.sortedMembers row)

omit [PythonNumber ν] in
theorem field?_sortedRow (key : String) (row : Row ν) :
    Json.field? key (sortedRow row) = (Json.field? key row).map Json.sorted := by
  rw [sortedRow, Json.field?_sortMembers, Json.field?_sortedMembers]

theorem nat?_number (n : Nat) : Json.nat? (number n : Json ν) = some n := by
  simp [number, Json.nat?, ReadableNumber.toInt?_ofInt]

theorem dumps_congr {v w : Json ν} (h : v.sorted = w.sorted) : dumps v = dumps w := by
  rw [dumps, dumps, Json.canonical, Json.canonical, h]

theorem decrypt_congr {purpose : String} {blob : Bytes} {detail detail' : List (Json ν)} {nonces : List Bytes}
    (h : aad ν store scope purpose detail = aad ν store scope purpose detail') :
    decrypt ν p store scope purpose blob detail nonces = decrypt ν p store scope purpose blob detail' nonces := by
  simp only [decrypt, h]

theorem is_sorted_str {o : Option (Json ν)} {s : String} :
    Is (o.map Json.sorted) (.str s) ↔ Is o (.str s) := by
  cases o with
  | none => rfl
  | some v => cases v <;> simp [Is, Json.sorted, Json.same]

theorem is_sorted_num {o : Option (Json ν)} {n : ν} : Is (o.map Json.sorted) (.num n) ↔ Is o (.num n) := by
  cases o with
  | none => rfl
  | some v => cases v <;> simp [Is, Json.sorted, Json.same]

theorem verifyData_eq_ok {receipt : Row ν} {out out' : σ} {metadata : Json ν} :
    verifyData p store scope sink folder receipt out = .ok (metadata, out') ↔
      ∃ start raw r items text r', openData (ν := ν) p store scope folder = .ok start ∧
        readMetadata p store scope receipt start = .ok (raw, r) ∧ loads raw = some metadata ∧
        receiptObjects receipt = .ok items ∧
        validateMetadata p scope metadata (items.map (·.1)) = .ok text ∧
        items.foldlM (fun s item => readObject p store scope sink item.1 s item.2) (r, out) =
          .ok (r', out') ∧
        r'.rest = [] ∧ Is (Json.field? "data_size" receipt) (number r'.seen.length) ∧
        Is (Json.field? "data_digest" receipt) (.str (p.sha256 r'.seen)) := by
  simp only [verifyData, bind_eq_ok, require_eq_ok, orRaise_eq_ok, pure_eq_ok, Prod.exists, exists_const]
  constructor
  · rintro ⟨start, hopen, raw, r, hmetadata, m, hloads, items, hitems, text, hvalid, r', o, hloop, hend,
      size, hsize, hlength, digest, hdigest, hhash, heq⟩
    obtain ⟨rfl, rfl⟩ := Prod.mk.inj heq
    rw [hsize, hdigest]
    exact ⟨start, raw, r, items, text, r', hopen, hmetadata, hloads, hitems, hvalid, hloop, hend, hlength,
      hhash⟩
  · rintro ⟨start, raw, r, items, text, r', hopen, hmetadata, hloads, hitems, hvalid, hloop, hend, hlength,
      hhash⟩
    obtain ⟨size, hsize, -⟩ := (Option.any_eq_true _ _).1 hlength
    obtain ⟨digest, hdigest, -⟩ := (Option.any_eq_true _ _).1 hhash
    rw [hsize] at hlength
    rw [hdigest] at hhash
    exact ⟨start, hopen, raw, r, hmetadata, metadata, hloads, items, hitems, text, hvalid, r', out', hloop,
      hend, size, hsize, hlength, digest, hdigest, hhash, rfl⟩

theorem readMetadata_eq_ok {receipt : Row ν} :
    readMetadata p store scope receipt r = .ok (raw, r') ↔
      ∃ value size blob r₁ digest nonces, Json.field? "metadata_size" receipt = some value ∧
        Json.nat? value = some size ∧ (0 < size ∧ size ≤ maxMetadataBytes) ∧
        readFrame maxMetadataBytes r = .ok (blob, r₁) ∧
        Json.field? "metadata_digest" receipt = some digest ∧
        decrypt ν p store scope "metadata" blob [value, digest] r₁.nonces = .ok (raw, nonces) ∧
        raw.length = size ∧ Is (some digest) (.str (p.sha256 raw)) ∧ r' = { r₁ with nonces } := by
  simp only [readMetadata, openBlob, bind_eq_ok, require_eq_ok, orRaise_eq_ok, pure_eq_ok, Prod.exists,
    exists_const]
  constructor
  · rintro ⟨value, hvalue, size, hsize, hbounds, blob, r₁, hframe, digest, hdigest, raw', r₂,
      ⟨raw₁, nonces, hopen, heq⟩, hraw, heq'⟩
    obtain ⟨rfl, rfl⟩ := Prod.mk.inj heq
    obtain ⟨rfl, rfl⟩ := Prod.mk.inj heq'
    exact ⟨value, size, blob, r₁, digest, nonces, hvalue, hsize, hbounds, hframe, hdigest, hopen, hraw.1,
      hraw.2, rfl⟩
  · rintro ⟨value, size, blob, r₁, digest, nonces, hvalue, hsize, hbounds, hframe, hdigest, hopen, hlength,
      hsame, rfl⟩
    exact ⟨value, hvalue, size, hsize, hbounds, blob, r₁, hframe, digest, hdigest, raw, _,
      ⟨raw, nonces, hopen, rfl⟩, ⟨hlength, hsame⟩, rfl⟩

theorem inputOf_eq_ok {v : Json ν} {row : Row ν} :
    inputOf v = .ok (item, row) ↔ v = .obj row ∧ Json.textOf? "object_id" row = some item.objectId ∧
      Json.textOf? "plaintext_digest" row = some item.checksum ∧
      Json.natOf? "byte_size" row = some item.byteSize := by
  simp only [inputOf, bind_eq_ok, orRaise_eq_ok]
  constructor
  · rintro ⟨members, hmembers, objectId, hid, checksum, hchecksum, byteSize, hsize, h⟩
    cases hid' : Json.text? objectId with
    | none => simp [hid'] at h
    | some s =>
      by_cases hsafe : isSafeId s = true
      · cases hsum : Json.text? checksum with
        | none => simp [hid', hsafe, hsum] at h
        | some t =>
          by_cases hhashed : isDigest t = true
          · cases hnat : Json.nat? byteSize with
            | none => simp [hid', hsafe, hsum, hhashed, hnat] at h
            | some n =>
              simp only [hid', hsafe, hsum, hhashed, hnat, dite_true, Except.ok.injEq, Prod.mk.injEq] at h
              obtain ⟨rfl, rfl⟩ := h
              refine ⟨?_, ?_, ?_, ?_⟩
              · cases v <;> simp_all [Json.members?]
              · rw [Json.textOf?, hid, Option.bind_some, hid']
              · rw [Json.textOf?, hchecksum, Option.bind_some, hsum]
              · rw [Json.natOf?, hsize, Option.bind_some, hnat]
          · simp [hid', hsafe, hsum, hhashed] at h
      · simp [hid', hsafe] at h
  · rintro ⟨rfl, hid, hchecksum, hsize⟩
    obtain ⟨objectId, hid₁, hid₂⟩ := Option.bind_eq_some_iff.1 hid
    obtain ⟨checksum, hsum₁, hsum₂⟩ := Option.bind_eq_some_iff.1 hchecksum
    obtain ⟨byteSize, hsize₁, hsize₂⟩ := Option.bind_eq_some_iff.1 hsize
    refine ⟨row, rfl, objectId, hid₁, checksum, hsum₁, byteSize, hsize₁, ?_⟩
    simp [hid₂, hsum₂, hsize₂, item.safe, item.hashed]

/-- The members of the receipt of `capture` in another order, and perhaps with `verified_at`. -/
def Reread (receipt again : Row ν) : Prop :=
  ∀ key, key ≠ "verified_at" → Json.field? key again = (Json.field? key receipt).map Json.sorted

variable {receipt again : Row ν}

theorem Reread.text (h : Reread receipt again) {s : String} (hkey : key ≠ "verified_at")
    (hs : Is (Json.field? key receipt) (.str s)) : Is (Json.field? key again) (.str s) := by
  rw [h key hkey]
  exact is_sorted_str.2 hs

theorem readMetadata_again (h : Reread receipt again) {y : Bytes × Reader}
    (hread : readMetadata p store scope receipt r = .ok y) :
    readMetadata p store scope again r = .ok y := by
  obtain ⟨value, size, blob, r₁, digest, nonces, hvalue, hsize, hbounds, hframe, hdigest, hopen, hlength,
    hsame, hr⟩ := readMetadata_eq_ok.1 hread
  have hdetail : aad ν store scope "metadata" [value.sorted, digest.sorted] =
      aad ν store scope "metadata" [value, digest] := by
    unfold aad
    apply dumps_congr
    simp only [Json.sorted, Json.sortedItems, Json.sorted_sorted]
  refine readMetadata_eq_ok.2 ⟨value.sorted, size, blob, r₁, digest.sorted, nonces, ?_, ?_, hbounds, hframe,
    ?_, ?_, hlength, is_sorted_str (o := some digest).2 hsame, hr⟩
  · rw [h _ (by decide), hvalue]
    rfl
  · rw [Json.nat?_sorted, hsize]
  · rw [h _ (by decide), hdigest]
    rfl
  · exact (decrypt_congr hdetail).trans hopen

theorem inputOf_sorted {v : Json ν} {row : Row ν} (h : inputOf v = .ok (item, row)) :
    inputOf v.sorted = .ok (item, sortedRow row) := by
  obtain ⟨rfl, hid, hchecksum, hsize⟩ := inputOf_eq_ok.1 h
  have hbind : ∀ {β : Type} (key : String) (f : Json ν → Option β), (∀ v, f v.sorted = f v) →
      (Json.field? key (sortedRow row)).bind f = (Json.field? key row).bind f := by
    intro β key f hf
    rw [field?_sortedRow, Option.bind_map]
    exact congrArg _ (funext hf)
  refine inputOf_eq_ok.2 ⟨rfl, ?_, ?_, ?_⟩
  · exact (hbind "object_id" _ Json.text?_sorted).trans hid
  · exact (hbind "plaintext_digest" _ Json.text?_sorted).trans hchecksum
  · exact (hbind "byte_size" _ Json.nat?_sorted).trans hsize

theorem receiptObjects_again (h : Reread receipt again) {items : List (BackupObjectInput × Row ν)}
    (hitems : receiptObjects receipt = .ok items) :
    receiptObjects again = .ok (items.map fun x => (x.1, sortedRow x.2)) := by
  simp only [receiptObjects, bind_eq_ok, require_eq_ok, orRaise_eq_ok, pure_eq_ok, exists_const] at hitems ⊢
  obtain ⟨values, hvalues, rows, hrows, objects, hobjects, hids, rfl⟩ := hitems
  obtain ⟨value, hfield, hlist⟩ := Option.bind_eq_some_iff.1 hvalues
  have hfst : ((rows.map fun x => (x.1, sortedRow x.2)).map (·.1)) = rows.map (·.1) := by
    rw [List.map_map]
    rfl
  refine ⟨values.map Json.sorted, ?_, rows.map fun x => (x.1, sortedRow x.2), ?_, objects, ?_, ?_, ?_⟩
  · rw [h _ (by decide), hfield, Option.map_some, Option.bind_some, Json.items?_sorted, hlist]
    rfl
  · rw [mapM_eq_ok, List.forall₂_map_left_iff, List.forall₂_map_right_iff]
    exact (mapM_eq_ok.1 hrows).imp fun v x hx => inputOf_sorted hx
  · rw [hfst]
    exact hobjects
  · rw [hids, List.map_map]
    rfl
  · have hsnd : (rows.map fun x => (x.1, sortedRow x.2)).map (·.2) = (rows.map (·.2)).map sortedRow := by
      rw [List.map_map, List.map_map]
      rfl
    rw [hsnd, List.zip_map_right]
    exact List.map_congr_left fun x _ => rfl

theorem readObject_reread {s s' : Reader × σ} {row : Row ν}
    (h : readObject p store scope sink item s row = .ok s') :
    readObject p store scope sink item s (sortedRow row) = .ok s' := by
  obtain ⟨hchunks, final, hloop, hlength, hdigest, hcipher, hs'⟩ := readObject_eq_ok.1 h
  refine readObject_eq_ok.2 ⟨?_, final, hloop, hlength, hdigest, ?_, hs'⟩
  · rw [field?_sortedRow, Option.bind_map]
    exact (congrArg _ (funext Json.nat?_sorted)).trans hchunks
  · rw [field?_sortedRow]
    exact is_sorted_str.2 hcipher

theorem verifyData_again (h : Reread receipt again) {out : σ} {y : Json ν × σ}
    (hverify : verifyData p store scope sink folder receipt out = .ok y) :
    verifyData p store scope sink folder again out = .ok y := by
  obtain ⟨start, raw, r, items, text, r', hopen, hmetadata, hloads, hitems, hvalid, hloop, hend, hlength,
    hhash⟩ := verifyData_eq_ok.1 hverify
  refine verifyData_eq_ok.2 ⟨start, raw, r, _, text, r', hopen, readMetadata_again h hmetadata, hloads,
    receiptObjects_again h hitems, ?_, ?_, hend, ?_, h.text (by decide) hhash⟩
  · rw [List.map_map]
    exact hvalid
  · rw [List.foldlM_map]
    refine foldlM_forall₂ (R := fun x y => x = y) ?_ (List.forall₂_refl items) hloop
    rintro x _ s s' rfl hx
    exact readObject_reread hx
  · rw [h _ (by decide)]
    exact is_sorted_num.2 hlength

def destinationOf (p : Primitives) (contents : List (BackupObjectInput × Bytes)) : Destination :=
  ⟨contents.map fun x => (outputName p x.1, x.2), contents.map fun x => (x.1.objectId, outputName p x.1)⟩

theorem destinationOf_add (contents : List (BackupObjectInput × Bytes)) (item : BackupObjectInput)
    (plain : Bytes) :
    (destinationOf p contents).add p item plain = destinationOf p (contents ++ [(item, plain)]) := by
  simp [destinationOf, Destination.add]

theorem destinationOf_new {contents : List (BackupObjectInput × Bytes)} :
    (destinationOf p contents).New p item ↔
      outputName p item ∉ (contents.map (·.1)).map (outputName p) := by
  simp [destinationOf, Destination.New]

theorem objects_restored {items : List (BackupObjectInput × Row ν)}
    (h : items.foldlM (fun s item => readObject p store scope (store_ p) item.1 s item.2) (r, ⟨[], []⟩) =
      .ok (r', d)) :
    ∃ contents, contents.map (·.1) = items.map (·.1) ∧
      (∀ x ∈ contents, p.sha256 x.2 = x.1.checksum) ∧ d = destinationOf p contents := by
  have hkeeps := foldlM_keeps
    (P := fun done (s : Reader × Destination) => ∃ contents, contents.map (·.1) = done.map (·.1) ∧
      (∀ x ∈ contents, p.sha256 x.2 = x.1.checksum) ∧ s.2 = destinationOf p contents)
    ?_ ⟨[], rfl, by simp, rfl⟩ h
  · exact hkeeps
  · rintro done x s s' ⟨contents, hmap, hdigests, hout⟩ hround
    obtain ⟨plain, hdigest, -, hadd⟩ := readObject_restores hround
    refine ⟨contents ++ [(x.1, plain)], by simp [hmap], ?_, ?_⟩
    · intro y hy
      rcases List.mem_append.1 hy with hy | hy
      · exact hdigests y hy
      · rw [List.mem_singleton.1 hy]
        exact hdigest
    · rw [hadd, hout, destinationOf_add]

theorem objects_again {items : List (BackupObjectInput × Row ν)} {u u' : Unit}
    (hnames : ((items.map (·.1)).map (outputName p)).Nodup)
    (h : items.foldlM (fun s item => readObject p store scope ignore item.1 s item.2) (r, u) =
      .ok (r', u')) :
    ∃ d, items.foldlM (fun s item => readObject p store scope (store_ p) item.1 s item.2) (r, ⟨[], []⟩) =
      .ok (r', d) := by
  have hkeeps := foldlM_keeps
    (P := fun done (s : Reader × Unit) => ((done.map (·.1)).map (outputName p)).Nodup →
      ∃ contents, contents.map (·.1) = done.map (·.1) ∧
        done.foldlM (fun s item => readObject p store scope (store_ p) item.1 s item.2) (r, ⟨[], []⟩) =
          .ok (s.1, destinationOf p contents))
    ?_ (fun _ => ⟨[], rfl, rfl⟩) h
  · obtain ⟨contents, -, hrun⟩ := hkeeps hnames
    exact ⟨_, hrun⟩
  · rintro done x ⟨r₁, u₁⟩ ⟨r₂, u₂⟩ hdone hround hnodup
    rw [List.map_append, List.map_append, List.nodup_append] at hnodup
    obtain ⟨contents, hmap, hrun⟩ := hdone hnodup.1
    have hnew : (destinationOf p contents).New p x.1 := by
      rw [destinationOf_new, hmap]
      intro hmem
      exact hnodup.2.2 _ hmem _ (by simp) rfl
    obtain ⟨plain, hread⟩ := readObject_again hnew hround
    refine ⟨contents ++ [(x.1, plain)], by simp [hmap], ?_⟩
    rw [List.foldlM_append, hrun, ← destinationOf_add]
    exact bind_eq_ok.2 ⟨_, rfl, bind_eq_ok.2 ⟨_, hread, rfl⟩⟩

/-! ## The receipt of `capture` -/

section Receipt

variable {c : CaptureCall ν p} {objects : List BackupObjectInput} {records : List (Json ν)} {data : Bytes}

/-- The members of the receipt that `capture` returns. -/
def receiptOf (store : FileCaptureStore) (c : CaptureCall ν p) (records : List (Json ν)) (data : Bytes) :
    Row ν :=
  receiptMembers p store c.scope (dumps c.metadata) records data ++
    [("verified_at", .str c.verifiedAt.text)]

theorem receiptOf_nodup : ((receiptOf store c records data).map (·.1)).Nodup := by
  have hkeys : (receiptOf store c records data).map (·.1) =
      ["format_version", "capture_id", "tenant_id", "workspace_id", "notebook_id", "source_version_ids",
        "selection_fingerprint", "schema_revision", "policy_version", "retention_watermark", "key_version",
        "key_reference", "metadata_digest", "metadata_size", "objects", "data_digest", "data_size",
        "verified_at"] := rfl
  rw [hkeys]
  decide

theorem receiptOf_field (value : Json ν) (h : (key, value) ∈ receiptOf store c records data) :
    Json.field? key (receiptOf store c records data) = some value :=
  Json.field?_of_mem receiptOf_nodup h

theorem field_of_same {w : Row ν} (hsame : Json.same (.obj w) (.obj (receiptOf store c records data)) = true)
    {v value : Json ν} (hv : Json.field? key w = some v)
    (h : (key, value) ∈ receiptOf store c records data) : Json.same v value = true := by
  obtain ⟨u, hu, hvu⟩ := Json.field?_of_same hsame hv
  rw [receiptOf_field _ h] at hu
  rwa [Option.some.inj hu]

def Recorded (p : Primitives) (objects : List BackupObjectInput) (records : List (Json ν)) : Prop :=
  List.Forall₂ (fun item v => ∃ cipher, v = objectRecord p item cipher) objects records

def recordMembers (p : Primitives) (item : BackupObjectInput) (cipher : Bytes) : Row ν :=
  [("object_id", .str item.objectId), ("plaintext_digest", .str item.checksum),
    ("byte_size", number item.byteSize), ("ciphertext_digest", .str (p.sha256 cipher)),
    ("chunks", number item.chunks)]

theorem recordMembers_field {cipher : Bytes} (value : Json ν)
    (h : (key, value) ∈ recordMembers p item cipher) :
    Json.field? key (recordMembers p item cipher) = some value := by
  refine Json.field?_of_mem ?_ h
  have hkeys : (recordMembers (ν := ν) p item cipher).map (·.1) =
      ["object_id", "plaintext_digest", "byte_size", "ciphertext_digest", "chunks"] := rfl
  rw [hkeys]
  decide

theorem input_of_record {v : Json ν} {item' : BackupObjectInput} {row : Row ν} {cipher : Bytes}
    (hinput : inputOf v = .ok (item', row)) (hsame : Json.same v (objectRecord p item cipher) = true) :
    item' = item := by
  obtain ⟨rfl, hid, hchecksum, hsize⟩ := inputOf_eq_ok.1 hinput
  have hfield : ∀ {key : String} {v : Json ν}, Json.field? key row = some v →
      ∃ u, Json.field? key (recordMembers p item cipher) = some u ∧ Json.same v u = true := fun h =>
    Json.field?_of_same hsame h
  have htext : ∀ {key s t : String}, Json.textOf? key row = some s →
      Json.field? key (recordMembers (ν := ν) p item cipher) = some (.str t) → s = t := by
    intro key s t hs ht
    obtain ⟨v, hv, hvs⟩ := Option.bind_eq_some_iff.1 hs
    obtain ⟨u, hfound, hvu⟩ := hfield hv
    rw [ht] at hfound
    rw [← Option.some.inj hfound] at hvu
    rw [Json.eq_of_same_str hvu] at hvs
    exact (Option.some.inj hvs).symm
  have hobject : item'.objectId = item.objectId := htext hid (recordMembers_field _ (by simp [recordMembers]))
  have hsum : item'.checksum = item.checksum := htext hchecksum (recordMembers_field _ (by simp [recordMembers]))
  have hbytes : item'.byteSize = item.byteSize := by
    obtain ⟨v, hv, hvn⟩ := Option.bind_eq_some_iff.1 hsize
    obtain ⟨u, hfound, hvu⟩ := hfield hv
    rw [recordMembers_field (number item.byteSize) (by simp [recordMembers])] at hfound
    rw [← Option.some.inj hfound] at hvu
    exact Json.nat?_of_same hvu hvn (nat?_number item.byteSize)
  cases item
  cases item'
  simp_all

theorem inputs_of_records {values : List (Json ν)} {rows : List (BackupObjectInput × Row ν)}
    (hrecords : Recorded p objects records)
    (hsame : List.Forall₂ (fun v w => Json.same v w = true) values records)
    (hrows : List.Forall₂ (fun v x => inputOf v = .ok x) values rows) : rows.map (·.1) = objects := by
  unfold Recorded at hrecords
  induction hrecords generalizing values rows with
  | nil =>
    cases hsame
    cases hrows
    rfl
  | cons hrecord _ ih =>
    cases hsame with
    | cons hhead htail =>
      cases hrows with
      | cons hinput hrest =>
        obtain ⟨cipher, rfl⟩ := hrecord
        rw [List.map_cons, ih htail hrest, input_of_record hinput hhead]

theorem checkObjects_eq_ok {ys : List BackupObjectInput} :
    checkObjects xs = .ok ys ↔ (1 ≤ xs.length ∧ xs.length ≤ 100 ∧ (xs.map (·.objectId)).Nodup) ∧
      (xs.map (·.byteSize)).sum ≤ maxSourceBytes ∧
      ys = xs.insertionSort fun a b => a.objectId ≤ b.objectId := by
  simp only [checkObjects, bind_eq_ok, require_eq_ok, pure_eq_ok, exists_const]
  simp only [eq_comm]

theorem pairwise_checkObjects {ys : List BackupObjectInput} (h : checkObjects xs = .ok ys) :
    ys.Pairwise fun a b => a.objectId ≤ b.objectId := by
  obtain ⟨-, -, rfl⟩ := checkObjects_eq_ok.1 h
  have htotal : Std.Total fun a b : BackupObjectInput => a.objectId ≤ b.objectId :=
    ⟨fun _ _ => le_total _ _⟩
  have htrans : IsTrans BackupObjectInput fun a b => a.objectId ≤ b.objectId := ⟨fun _ _ _ => le_trans⟩
  exact List.pairwise_insertionSort _ xs

theorem objects_of_same {w : Row ν} {items : List (BackupObjectInput × Row ν)}
    (hsame : Json.same (.obj w) (.obj (receiptOf store c records data)) = true)
    (hrecords : Recorded p objects records)
    (hsorted : objects.Pairwise fun a b => a.objectId ≤ b.objectId)
    (hitems : receiptObjects w = .ok items) : items.map (·.1) = objects := by
  simp only [receiptObjects, bind_eq_ok, require_eq_ok, orRaise_eq_ok, pure_eq_ok, exists_const] at hitems
  obtain ⟨values, hvalues, rows, hrows, checked, hchecked, -, rfl⟩ := hitems
  obtain ⟨v, hv, hlist⟩ := Option.bind_eq_some_iff.1 hvalues
  have hmem : ("objects", Json.arr records) ∈ receiptOf store c records data := by
    simp [receiptOf, receiptMembers]
  obtain ⟨xs, rfl, hall⟩ := Json.items_of_same (field_of_same hsame hv hmem)
  obtain rfl := Option.some.inj hlist
  have hinputs := inputs_of_records hrecords hall (mapM_eq_ok.1 hrows)
  obtain ⟨-, -, hinsertion⟩ := checkObjects_eq_ok.1 hchecked
  rw [hinputs, hsorted.insertionSort_eq] at hinsertion
  rw [hinsertion, List.map_fst_zip]
  rw [List.length_map, ← hinputs, List.length_map]

theorem metadata_of_same {w : Row ν}
    (hsame : Json.same (.obj w) (.obj (receiptOf store c records data)) = true)
    (hread : readMetadata p store scope w r = .ok (raw, r')) :
    p.sha256 raw = p.sha256 (dumps c.metadata) := by
  obtain ⟨value, size, blob, r₁, digest, nonces, -, -, -, -, hdigest, -, -, hhash, -⟩ :=
    readMetadata_eq_ok.1 hread
  have hmem : ("metadata_digest", Json.str (p.sha256 (dumps c.metadata))) ∈
      receiptOf store c records data := by
    simp [receiptOf, receiptMembers]
  have hstr := Json.eq_of_same_str (field_of_same hsame hdigest hmem)
  have heq := Json.eq_of_same_str (show Json.same digest (.str (p.sha256 raw)) = true from hhash)
  rw [hstr] at heq
  exact (Json.str.inj heq).symm

end Receipt

/-- A run of `capture` that returns. -/
structure Captured (store : FileCaptureStore) (c : CaptureCall ν p) (objects : List BackupObjectInput)
    (records : List (Json ν)) (owner data blob : Bytes) (nonces : List Bytes) : Prop where
  checked : checkObjects c.objects = .ok objects
  metadata : (dumps c.metadata).length ≤ maxMetadataBytes
  name : directoryName c.scope = .ok c.scope.captureId
  recorded : Recorded p objects records
  delivered : ∀ item ∈ objects, p.sha256 (content (c.source item)) = item.checksum ∧
    (content (c.source item)).length = item.byteSize
  bounded : data.length ≤ magic.length + frameBound + (objects.map (·.chunks)).sum * frameBound
  verified : ∃ y, verifyData p store c.scope ignore ⟨some owner, some data, none⟩
    (receiptMembers p store c.scope (dumps c.metadata) records data) () = .ok y
  sealed : blob = c.draws.token nonces.length ++
    p.encrypt (cipherKey ν p store c.scope "manifest") (c.draws.token nonces.length)
      (dumps (.obj (receiptOf store c records data) : Json ν)) (aad ν store c.scope "manifest" [])

section Capture

variable {c : CaptureCall ν p} {root root' : Root} {receipt : Json ν}

theorem encrypt_eq_ok {draws : Draws} {purpose : String} {blob : Bytes} {detail : List (Json ν)}
    {nonces nonces' : List Bytes} :
    encrypt ν p store scope draws purpose raw detail nonces = .ok (blob, nonces') ↔
      draws.token nonces.length ∉ nonces ∧
      blob = draws.token nonces.length ++ p.encrypt (cipherKey ν p store scope purpose)
        (draws.token nonces.length) raw (aad ν store scope purpose detail) ∧
      nonces' = nonces ++ [draws.token nonces.length] := by
  simp only [encrypt, bind_eq_ok, require_eq_ok, pure_eq_ok, exists_const, Prod.mk.injEq]
  simp only [eq_comm]

theorem validateMetadata_eq_ok {metadata : Json ν} :
    validateMetadata p scope metadata objects = .ok raw ↔ checkMetadata p scope metadata objects = some () ∧
      (dumps metadata).length ≤ maxMetadataBytes ∧ raw = dumps metadata := by
  simp only [validateMetadata, bind_eq_ok, require_eq_ok, orRaise_eq_ok, pure_eq_ok, exists_const]
  constructor
  · rintro ⟨_, hchecked, hlength, rfl⟩
    exact ⟨hchecked, hlength, rfl⟩
  · rintro ⟨hchecked, hlength, rfl⟩
    exact ⟨(), hchecked, hlength, rfl⟩

theorem objects_written {start final : Written} {records : List (Json ν)}
    (h : objects.foldlM (fun s item => writeObject p store c item s) (start, []) = .ok (final, records)) :
    Recorded p objects records ∧
      (∀ item ∈ objects, p.sha256 (content (c.source item)) = item.checksum ∧
        (content (c.source item)).length = item.byteSize) ∧
      final.data.length ≤ start.data.length + (objects.map (·.chunks)).sum * frameBound := by
  have hstart : Recorded p [] ([] : List (Json ν)) := List.Forall₂.nil
  have hkeeps := foldlM_keeps
    (P := fun done (s : Written × List (Json ν)) => Recorded p done s.2 ∧
      (∀ item ∈ done, p.sha256 (content (c.source item)) = item.checksum ∧
        (content (c.source item)).length = item.byteSize) ∧
      s.1.data.length ≤ start.data.length + (done.map (·.chunks)).sum * frameBound)
    ?_ ⟨hstart, by simp, by simp⟩ h
  · exact hkeeps
  · rintro done item s s' ⟨hrecorded, hdelivered, hlength⟩ hround
    obtain ⟨hdigest, hsize, hdata, cipher, hrecord⟩ := writeObject_eq_ok hround
    refine ⟨?_, ?_, ?_⟩
    · rw [hrecord]
      exact List.rel_append hrecorded (.cons ⟨cipher, rfl⟩ .nil)
    · intro other hother
      rcases List.mem_append.1 hother with hother | hother
      · exact hdelivered other hother
      · rw [List.mem_singleton.1 hother]
        exact ⟨hdigest, hsize⟩
    · rw [List.map_append, List.sum_append, List.map_singleton, List.sum_singleton, Nat.add_mul]
      omega

theorem capture_eq_ok (h : capture p store c root = .ok (receipt, root')) :
    ∃ objects records owner data blob nonces, Captured store c objects records owner data blob nonces ∧
      receipt = .obj (receiptOf store c records data) ∧
      root' = Function.update root c.scope.captureId (some ⟨some owner, some data, some blob⟩) := by
  simp only [capture, bind_eq_ok, require_eq_ok, pure_eq_ok, exists_const, Prod.exists, Prod.mk.injEq] at h
  obtain ⟨objects, hobjects, raw, hraw, -, name, hname, -, owner, nonces₀, -, blob₀, nonces₁, hmetadata, data₀,
    hframe, written, records, hloop, m, u, hverify, blob, nonces₂, hblob, rfl, rfl⟩ := h
  obtain ⟨-, hlength, rfl⟩ := validateMetadata_eq_ok.1 hraw
  obtain ⟨hrecorded, hdelivered, hbound⟩ := objects_written hloop
  obtain ⟨size, -, -, hdata⟩ := frame_eq_ok hframe
  obtain ⟨-, hreceipt, -⟩ := encrypt_eq_ok.1 hblob
  have hcaptureId : name = c.scope.captureId := by
    simp only [directoryName, bind_eq_ok, require_eq_ok, pure_eq_ok, exists_const] at hname
    exact hname.2.symm
  subst hcaptureId
  exact ⟨objects, records, owner, written.data, blob, written.nonces,
    ⟨hobjects, hlength, hname, hrecorded, hdelivered, hbound.trans (Nat.add_le_add_right hdata _),
      ⟨_, hverify⟩, hreceipt⟩, rfl, rfl⟩

/-! ## The length of a receipt -/

theorem isPlain_of_isIdChar {c : Char} (h : isIdChar c = true) : Json.IsPlain c := by
  rcases Bool.or_eq_true_iff.1 h with halnum | hother
  · exact Json.isPlain_of_isAlphanum halnum
  · have hall : ∀ d ∈ "._:-".toList, Json.IsPlain d := by simp [Json.IsPlain]
    exact hall c (List.contains_iff_mem.1 hother)

theorem weight_id {s : String} (h : isSafeId s = true) : Json.weight (.str s : Json ν) ≤ 130 := by
  unfold isSafeId at h
  split at h
  · cases h
  · next first rest heq =>
    simp only [Bool.and_eq_true, decide_eq_true_eq, List.all_eq_true] at h
    obtain ⟨⟨hfirst, hrest⟩, hlength⟩ := h
    rw [Json.weight, Json.textWeight_plain, heq, List.length_cons]
    · omega
    · rw [heq]
      exact List.forall_mem_cons.2
        ⟨Json.isPlain_of_isAlphanum hfirst, fun c hc => isPlain_of_isIdChar (hrest c hc)⟩

theorem weight_digest {s : String} (h : isDigest s = true) : Json.weight (.str s : Json ν) ≤ 66 := by
  simp only [isDigest, Bool.and_eq_true, decide_eq_true_eq, List.all_eq_true] at h
  have hall : ∀ d ∈ "0123456789abcdef".toList, Json.IsPlain d := by simp [Json.IsPlain]
  rw [Json.weight, Json.textWeight_plain fun c hc => hall c (List.contains_iff_mem.1 (h.1 c hc)), h.2]

theorem weight_number {n : Nat} (h : n < 10 ^ 15) : Json.weight (number n : Json ν) ≤ 15 := by
  rw [number, Json.weight, PythonNumber.chars_ofInt]
  exact length_intChars (by decide) h

theorem byteSize_le (h : checkObjects xs = .ok objects)
    (hmem : item ∈ objects) : item.byteSize ≤ maxSourceBytes := by
  obtain ⟨-, hsum, rfl⟩ := checkObjects_eq_ok.1 h
  rw [List.mem_insertionSort] at hmem
  exact (List.single_le_sum (fun _ _ => Nat.zero_le _) _ (List.mem_map_of_mem hmem)).trans hsum

theorem chunks_le (h : item.byteSize ≤ maxSourceBytes) : item.chunks ≤ 128 := by
  unfold BackupObjectInput.chunks chunkSize
  unfold maxSourceBytes at h
  omega

theorem weight_record (p : Primitives) (cipher : Bytes) (h : item.byteSize ≤ maxSourceBytes) :
    Json.weight (objectRecord (ν := ν) p item cipher) ≤ 400 := by
  have hid := weight_id (ν := ν) item.safe
  have hplain := weight_digest (ν := ν) item.hashed
  have hcipher := weight_digest (ν := ν) (p.hexdigest cipher)
  have hsize := weight_number (ν := ν) (n := item.byteSize) (by unfold maxSourceBytes at h; omega)
  have hchunks := weight_number (ν := ν) (n := item.chunks) (by have := chunks_le h; omega)
  have hkeys : Json.textWeight "object_id" + Json.textWeight "plaintext_digest" + Json.textWeight "byte_size" +
      Json.textWeight "ciphertext_digest" + Json.textWeight "chunks" = 67 := by decide
  simp only [objectRecord, Json.weight, Json.membersWeight] at *
  omega

theorem keys_weight : Json.textWeight "format_version" + Json.textWeight "capture_id" +
    Json.textWeight "tenant_id" + Json.textWeight "workspace_id" + Json.textWeight "notebook_id" +
    Json.textWeight "source_version_ids" + Json.textWeight "selection_fingerprint" +
    Json.textWeight "schema_revision" + Json.textWeight "policy_version" +
    Json.textWeight "retention_watermark" + Json.textWeight "key_version" +
    Json.textWeight "key_reference" + Json.textWeight "metadata_digest" +
    Json.textWeight "metadata_size" + Json.textWeight "objects" + Json.textWeight "data_digest" +
    Json.textWeight "data_size" + Json.textWeight "verified_at" = 269 := by
  decide

section

variable {c : CaptureCall ν p} {objects : List BackupObjectInput} {records : List (Json ν)}
  {owner data blob : Bytes} {nonces : List Bytes}

theorem weight_binding (scope : CaptureScope) :
    Json.weight (.arr (scope.sourceVersionIds.map .str) : Json ν) ≤ 13102 := by
  have hsafe := scope.safe
  rw [List.all_append, Bool.and_eq_true] at hsafe
  have hids : Json.itemsWeight (scope.sourceVersionIds.map (.str : String → Json ν)) ≤
      (scope.sourceVersionIds.map (.str : String → Json ν)).length * 131 := by
    refine Json.itemsWeight_le fun v hv => ?_
    obtain ⟨s, hs, rfl⟩ := List.mem_map.1 hv
    exact weight_id (ν := ν) (List.all_eq_true.1 hsafe.2 s hs)
  have hcount := Nat.mul_le_mul_right 131 scope.counted.2
  rw [List.length_map] at hids
  rw [Json.weight]
  omega

theorem itemsWeight_recorded (hrecorded : Recorded p objects records)
    (h : ∀ item ∈ objects, item.byteSize ≤ maxSourceBytes) :
    Json.itemsWeight records ≤ objects.length * 401 := by
  unfold Recorded at hrecorded
  induction hrecorded with
  | nil => exact Nat.zero_le _
  | cons hrecord _ ih =>
    obtain ⟨cipher, rfl⟩ := hrecord
    have hhead := weight_record (ν := ν) p cipher (h _ List.mem_cons_self)
    have htail := ih fun item hmem => h item (List.mem_cons_of_mem _ hmem)
    rw [Json.itemsWeight, List.length_cons, Nat.succ_mul]
    omega

theorem length_objects (h : Captured store c objects records owner data blob nonces) :
    objects.length ≤ 100 := by
  obtain ⟨hlength, -, hsorted⟩ := checkObjects_eq_ok.1 h.checked
  rw [hsorted, List.length_insertionSort]
  exact hlength.2.1

theorem length_data (h : Captured store c objects records owner data blob nonces) :
    data.length < 10 ^ 15 := by
  have hchunks : (objects.map (·.chunks)).sum ≤ objects.length * 128 := by
    have hall : ∀ n ∈ objects.map (·.chunks), n ≤ 128 := fun n hn => by
      obtain ⟨item, hitem, rfl⟩ := List.mem_map.1 hn
      exact chunks_le (byteSize_le h.checked hitem)
    have hsum := List.sum_le_card_nsmul _ 128 hall
    rwa [List.length_map, smul_eq_mul] at hsum
  have hcount := length_objects h
  have hmagic : magic.length ≤ 64 := (length_utf8 _).trans (by simp)
  have hframes := Nat.mul_le_mul_right frameBound hchunks
  have hbound := h.bounded
  unfold frameBound at *
  omega

theorem weight_receipt (h : Captured store c objects records owner data blob nonces) :
    Json.weight (.obj (receiptOf store c records data) : Json ν) ≤ 60000 := by
  have hsafe := c.scope.safe
  simp only [List.cons_append, List.nil_append, List.all_cons, Bool.and_eq_true] at hsafe
  obtain ⟨hcapture, htenant, hworkspace, hnotebook, hschema, hpolicy, hretention, -⟩ := hsafe
  have hstore := store.safe
  simp only [List.all_cons, List.all_nil, Bool.and_true, Bool.and_eq_true] at hstore
  have hbound := h.metadata
  have h₁ := weight_id (ν := ν) hcapture
  have h₂ := weight_id (ν := ν) htenant
  have h₃ := weight_id (ν := ν) hworkspace
  have h₄ := weight_id (ν := ν) hnotebook
  have h₅ := weight_id (ν := ν) hschema
  have h₆ := weight_id (ν := ν) hpolicy
  have h₇ := weight_id (ν := ν) hretention
  have h₈ := weight_id (ν := ν) hstore.1
  have h₉ := weight_id (ν := ν) hstore.2
  have hids := weight_binding (ν := ν) c.scope
  have hrecords : Json.weight (.arr records : Json ν) ≤ 40102 := by
    have hitems := itemsWeight_recorded h.recorded fun item => byteSize_le h.checked
    have hcount := Nat.mul_le_mul_right 401 (length_objects h)
    rw [Json.weight]
    omega
  have hfingerprint := weight_digest (ν := ν) c.scope.hashed
  have hmetadata := weight_digest (ν := ν) (p.hexdigest (dumps c.metadata))
  have hhash := weight_digest (ν := ν) (p.hexdigest data)
  have hformat := weight_number (ν := ν) (n := 2) (by decide)
  have hsize := weight_number (ν := ν) (n := (dumps c.metadata).length)
    (by unfold maxMetadataBytes at hbound; omega)
  have hlength := weight_number (ν := ν) (length_data h)
  have hmoment : Json.weight (.str c.verifiedAt.text : Json ν) ≤ 770 := by
    have hshort := c.verifiedAt.short
    have hweight := Json.textWeight_le c.verifiedAt.text
    rw [Json.weight]
    omega
  have hkeys := keys_weight
  have hobj : ∀ members : Row ν, Json.weight (.obj members) = Json.membersWeight members + 2 :=
    fun _ => by rw [Json.weight]
  rw [hobj]
  simp only [receiptOf, receiptMembers, CaptureScope.binding, List.cons_append, List.nil_append,
    Json.membersWeight]
  omega

end

/-- No other bytes have the digest of these. -/
def Unmatched (p : Primitives) (bytes : Bytes) : Prop := ∀ other, p.sha256 other = p.sha256 bytes → other = bytes

/-- No other bytes have the digest of any that the capture hashes. -/
structure CollisionFree (c : CaptureCall ν p) : Prop where
  metadata : Unmatched p (dumps c.metadata)
  contents : ∀ item ∈ c.objects, Unmatched p (content (c.source item))
  names : ∀ item ∈ c.objects, Unmatched p (encode item.objectId)

def capturedContents (c : CaptureCall ν p) : List (BackupObjectInput × Bytes) :=
  (c.objects.insertionSort fun a b => a.objectId ≤ b.objectId).map fun item => (item, content (c.source item))

variable {objects : List BackupObjectInput} {records : List (Json ν)} {owner data blob : Bytes}
  {nonces : List Bytes}

theorem verify_sound (hcapture : Captured store c objects records owner data blob nonces)
    (hfree : CollisionFree c) {w : Row ν}
    (hsame : Json.same (.obj w) (.obj (receiptOf store c records data)) = true) {out out' : σ}
    {metadata : Json ν} (h : verifyData p store scope sink folder w out = .ok (metadata, out')) :
    metadata = c.metadata.sorted ∧ ∃ (items : List (BackupObjectInput × Row ν)) (r r' : Reader), items.map (·.1) = objects ∧
      items.foldlM (fun s item => readObject p store scope sink item.1 s item.2) (r, out) =
        .ok (r', out') := by
  obtain ⟨start, raw, r, items, text, r', -, hmetadata, hloads, hitems, -, hloop, -⟩ := verifyData_eq_ok.1 h
  have hraw : raw = dumps c.metadata := hfree.metadata raw (metadata_of_same hsame hmetadata)
  refine ⟨?_, items, r, r', ?_, hloop⟩
  · rw [hraw, loads_dumps] at hloads
    exact (Option.some.inj hloads).symm
  · exact objects_of_same hsame hcapture.recorded (pairwise_checkObjects hcapture.checked) hitems

theorem restore_sound (hcapture : Captured store c objects records owner data blob nonces)
    (hfree : CollisionFree c) {w : Row ν}
    (hsame : Json.same (.obj w) (.obj (receiptOf store c records data)) = true)
    {metadata : Json ν}
    (h : verifyData p store scope (store_ p) folder w ⟨[], []⟩ = .ok (metadata, d)) :
    d = destinationOf p (capturedContents c) := by
  obtain ⟨-, items, r, r', hitems, hloop⟩ := verify_sound hcapture hfree hsame h
  obtain ⟨contents, hmap, hdigests, rfl⟩ := objects_restored hloop
  rw [hitems] at hmap
  obtain ⟨-, -, hsorted⟩ := checkObjects_eq_ok.1 hcapture.checked
  have hcontents : contents = objects.map fun item => (item, content (c.source item)) := by
    rw [← hmap, List.map_map]
    refine (List.map_id contents).symm.trans (List.map_congr_left fun x hx => ?_)
    have hitem : x.1 ∈ objects := by
      rw [← hmap]
      exact List.mem_map_of_mem hx
    have hcaptured : x.1 ∈ c.objects := by
      rw [hsorted, List.mem_insertionSort] at hitem
      exact hitem
    have hdigest : p.sha256 x.2 = p.sha256 (content (c.source x.1)) := by
      rw [hdigests x hx, (hcapture.delivered x.1 hitem).1]
    exact Prod.ext rfl (hfree.contents x.1 hcaptured x.2 hdigest)
  rw [hcontents, capturedContents, hsorted]

/-! ## Completeness -/

theorem decrypt_sealed {purpose : String} {nonce : Bytes} {detail : List (Json ν)} {used : List Bytes}
    (hlength : nonce.length = 12) (hnew : nonce ∉ used) :
    decrypt ν p store scope purpose
      (nonce ++ p.encrypt (cipherKey ν p store scope purpose) nonce raw (aad ν store scope purpose detail))
      detail used = .ok (raw, used ++ [nonce]) := by
  have htake : ∀ body : Bytes, (nonce ++ body).take 12 = nonce := fun body => by
    rw [List.take_append_of_le_length hlength.ge, List.take_of_length_le hlength.le]
  have hdrop : ∀ body : Bytes, (nonce ++ body).drop 12 = body := fun body => by
    rw [← hlength, List.drop_left]
  simp only [decrypt, bind_eq_ok, require_eq_ok, orRaise_eq_ok, pure_eq_ok, exists_const, htake, hdrop]
  refine ⟨⟨?_, hnew⟩, raw, p.decrypt_encrypt _ _ _ _, rfl⟩
  rw [List.length_append, p.length_encrypt, hlength]
  omega

theorem is_of_mem {members : Row ν} (hnodup : (members.map (·.1)).Nodup) {value : Json ν}
    (h : (key, value) ∈ members) : Is (Json.field? key (sortedRow members)) value := by
  rw [field?_sortedRow, Json.field?_of_mem hnodup h]
  exact Json.same_sorted value

theorem same_sortedRow (row : Row ν) : Json.same (.obj (sortedRow row)) (.obj row) = true :=
  Json.same_sorted (.obj row)

theorem readReceipt_captured (h : Captured store c objects records owner data blob nonces) :
    readReceipt p store c.scope ⟨some owner, some data, some blob⟩
      (some (.obj (receiptOf store c records data))) = .ok (sortedRow (receiptOf store c records data)) := by
  have hbytes := Json.length_utf8_canonical (.obj (receiptOf store c records data))
  have hweight := weight_receipt h
  have hlength : blob.length ≤ maxMetadataBytes := by
    rw [h.sealed, List.length_append, p.length_encrypt, c.draws.length_token]
    unfold maxMetadataBytes dumps encode
    omega
  have hopen : decrypt ν p store c.scope "manifest" blob [] [] =
      .ok (dumps (.obj (receiptOf store c records data)), [c.draws.token nonces.length]) := by
    rw [h.sealed]
    exact decrypt_sealed (c.draws.length_token _) List.not_mem_nil
  have hmem : ∀ {key : String} {value : Json ν}, (key, value) ∈ receiptOf store c records data →
      Is (Json.field? key (sortedRow (receiptOf store c records data))) value := is_of_mem receiptOf_nodup
  have hread : readFile (some blob) maxMetadataBytes = .ok blob := by
    simp only [readFile, bind_eq_ok, require_eq_ok, orRaise_eq_ok, pure_eq_ok, exists_const]
    exact ⟨blob, rfl, hlength, rfl⟩
  have hvalue : (loads (dumps (.obj (receiptOf store c records data))) : Option (Json ν)) =
      some (.obj (sortedRow (receiptOf store c records data))) := loads_dumps _
  have htext : Json.textOf? "verified_at" (sortedRow (receiptOf store c records data)) =
      some c.verifiedAt.text := by
    rw [Json.textOf?, field?_sortedRow,
      receiptOf_field (.str c.verifiedAt.text) (by simp [receiptOf])]
    rfl
  simp only [readReceipt, bind_eq_ok, require_eq_ok, orRaise_eq_ok, pure_eq_ok, exists_const, Prod.exists]
  refine ⟨blob, hread, _, _, hopen, _, hvalue, _, rfl, ?_, ?_, ?_, _, htext, true, c.verifiedAt.aware, rfl,
    rfl⟩
  · intro member hmember
    have hreceipt : (member.1, member.2) ∈ receiptOf store c records data := by
      unfold receiptOf receiptMembers
      exact List.mem_append_left _ (List.mem_append_left _ hmember)
    exact hmem hreceipt
  · exact ⟨hmem (by simp [receiptOf, receiptMembers]), hmem (by simp [receiptOf, receiptMembers])⟩
  · intro v hv
    rw [Option.mem_def, Option.some.injEq] at hv
    rw [← hv, Is, Option.any_some]
    exact same_sortedRow _

theorem reread_receiptOf : Reread (receiptMembers p store c.scope (dumps c.metadata) records data)
    (sortedRow (receiptOf store c records data)) := by
  intro key hkey
  have hlast : ∀ members : Row ν, Json.field? key (members ++ [("verified_at", .str c.verifiedAt.text)]) =
      Json.field? key members := by
    intro members
    induction members with
    | nil =>
      rw [List.nil_append, Json.field?_cons]
      exact if_neg (Ne.symm hkey)
    | cons member members ih => rw [List.cons_append, Json.field?_cons, ih, Json.field?_cons]
  rw [field?_sortedRow, receiptOf, hlast]

theorem names_nodup (hcapture : Captured store c objects records owner data blob nonces)
    (hfree : CollisionFree c) : (objects.map (outputName p)).Nodup := by
  obtain ⟨⟨-, -, hids⟩, -, hsorted⟩ := checkObjects_eq_ok.1 hcapture.checked
  have hperm : objects.Perm c.objects := hsorted ▸ List.perm_insertionSort _ _
  have hnodup : (objects.map (·.objectId)).Nodup := (hperm.map (·.objectId)).nodup_iff.2 hids
  refine List.Nodup.map_on ?_ hnodup.of_map
  intro x hx y hy heq
  have hdigest : p.sha256 (encode x.objectId) = p.sha256 (encode y.objectId) := by
    have hlist := congrArg String.toList heq
    rw [outputName, outputName, String.toList_append, String.toList_append] at hlist
    exact String.toList_inj.1 (List.append_cancel_right hlist)
  have hbytes := hfree.names y (hperm.mem_iff.1 hy) _ hdigest
  have hid : x.objectId = y.objectId := by
    have hread := congrArg Snapshot.decode? hbytes
    rw [Snapshot.decode?_encode, Snapshot.decode?_encode] at hread
    exact Option.some.inj hread
  exact List.inj_on_of_nodup_map hnodup hx hy hid

theorem same_of_readReceipt {expected : Json ν} {row : Row ν}
    (h : readReceipt p store scope folder (some expected) = .ok row) :
    Json.same (.obj row) expected = true := by
  simp only [readReceipt, bind_eq_ok, require_eq_ok, orRaise_eq_ok, pure_eq_ok, exists_const,
    Prod.exists] at h
  obtain ⟨-, -, -, -, -, value, -, members, hmembers, -, -, hexpected, -, -, -, -, -, rfl⟩ := h
  have hvalue : value = .obj members := by
    cases value with
    | obj _ => exact congrArg Json.obj (Option.some.inj hmembers)
    | _ => cases hmembers
  have hsame : Is (some value) expected := hexpected expected rfl
  rw [hvalue] at hsame
  exact hsame

theorem verify_eq_ok {expected : Option (Json ν)} {v : VerifiedCapture ν} :
    verify p store scope root expected = .ok v ↔ ∃ folder row metadata,
      captureDir scope root = .ok folder ∧ readReceipt p store scope folder expected = .ok row ∧
      verifyData p store scope ignore folder row () = .ok (metadata, ()) ∧ v = ⟨metadata, .obj row⟩ := by
  have hmap : ∀ x : Result (VerifiedCapture ν), x.mapError Exn.verified = .ok v ↔ x = .ok v := by
    intro x
    cases x <;> simp [Except.mapError]
  rw [verify, hmap]
  simp only [bind_eq_ok, pure_eq_ok, Prod.exists]
  constructor
  · rintro ⟨folder, hfolder, row, hrow, metadata, _, hverify, rfl⟩
    exact ⟨folder, row, metadata, hfolder, hrow, hverify, rfl⟩
  · rintro ⟨folder, row, metadata, hfolder, hrow, hverify, rfl⟩
    exact ⟨folder, hfolder, row, hrow, metadata, (), hverify, rfl⟩

theorem restore_eq_ok {again : Root} {vacant : Bool} {expected : Json ν} :
    restore p store scope root again vacant expected = .ok d ↔ ∃ folder row y folder' metadata,
      captureDir scope root = .ok folder ∧ readReceipt p store scope folder (some expected) = .ok row ∧
      verifyData p store scope ignore folder row () = .ok (y, ()) ∧ vacant = true ∧
      again scope.captureId = some folder' ∧
      verifyData p store scope (store_ p) folder' row ⟨[], []⟩ = .ok (metadata, d) := by
  simp only [restore, bind_eq_ok, require_eq_ok, orRaise_eq_ok, pure_eq_ok, exists_const, Prod.exists]
  constructor
  · rintro ⟨folder, hfolder, row, hrow, y, _, hverify, hvacant, folder', hagain, metadata, _, hrestore, rfl⟩
    exact ⟨folder, row, y, folder', metadata, hfolder, hrow, hverify, hvacant, hagain, hrestore⟩
  · rintro ⟨folder, row, y, folder', metadata, hfolder, hrow, hverify, hvacant, hagain, hrestore⟩
    exact ⟨folder, hfolder, row, hrow, y, (), hverify, hvacant, folder', hagain, metadata, d, hrestore, rfl⟩

theorem verifyData_captured (hcapture : Captured store c objects records owner data blob nonces)
    (hfree : CollisionFree c) :
    verifyData p store c.scope ignore ⟨some owner, some data, some blob⟩
        (sortedRow (receiptOf store c records data)) () = .ok (c.metadata.sorted, ()) ∧
      ∃ metadata d, verifyData p store c.scope (store_ p) ⟨some owner, some data, some blob⟩
        (sortedRow (receiptOf store c records data)) ⟨[], []⟩ = .ok (metadata, d) := by
  obtain ⟨⟨metadata, _⟩, hverify⟩ := hcapture.verified
  -- `_verify_data` does not look at the receipt's file
  have hagain : verifyData p store c.scope ignore ⟨some owner, some data, some blob⟩
      (sortedRow (receiptOf store c records data)) () = .ok (metadata, ()) :=
    verifyData_again reread_receiptOf hverify
  have hsound := verify_sound hcapture hfree (same_sortedRow _) hagain
  rw [← hsound.1]
  refine ⟨hagain, metadata, ?_⟩
  obtain ⟨start, raw, r, items, text, r', hopen, hmetadata, hloads, hitems, hvalid, hloop, hend, hlength,
    hhash⟩ := verifyData_eq_ok.1 hagain
  have hnames : ((items.map (·.1)).map (outputName p)).Nodup := by
    rw [objects_of_same (same_sortedRow _) hcapture.recorded (pairwise_checkObjects hcapture.checked) hitems]
    exact names_nodup hcapture hfree
  obtain ⟨d, hrestore⟩ := objects_again hnames hloop
  exact ⟨d, verifyData_eq_ok.2 ⟨start, raw, r, items, text, r', hopen, hmetadata, hloads, hitems, hvalid,
    hrestore, hend, hlength, hhash⟩⟩

end Capture

end DaonUser.RecoveryCapture
