import DaonUser.Lib.JsonSize
import DaonUser.Snapshot.Model

/-!
# Snapshots: the labels of the streams

`SnapshotObjectRef.label` joins three ids and an area with colons, and an id may hold colons itself. Two
objects have one label exactly when their ids, cut at the colons, give the same words
(`label_eq_iff`): an inventory that is legal otherwise is refused, and with it the snapshot of the whole
service (`metadata_lawful_iff`).
-/

namespace DaonUser.Snapshot

open Lib

def SnapshotObjectRef.identity (item : SnapshotObjectRef) : String × String × String × String :=
  (item.tenantId, item.workspaceId, item.area, item.objectId)

def idWords (id : String) : List (List Char) := id.toList.splitOn ':'

def SnapshotObjectRef.words (item : SnapshotObjectRef) : List (List Char) :=
  idWords item.tenantId ++ idWords item.workspaceId ++ [item.area.toList] ++ idWords item.objectId

/-! ## Labels -/

theorem SnapshotObjectRef.toList_label (item : SnapshotObjectRef) : item.label.toList =
    "object:".toList ++ (item.tenantId.toList ++ ':' :: (item.workspaceId.toList ++
      ':' :: (item.area.toList ++ ':' :: item.objectId.toList))) := by
  rw [SnapshotObjectRef.label, String.toList_append, String.toList_intercalate]
  simp [List.intercalate]

theorem SnapshotObjectRef.area_colonless (item : SnapshotObjectRef) : ':' ∉ item.area.toList := by
  rcases item.known with h | h
  · rw [h]
    decide
  · rw [h]
    decide

theorem splitOn_joined (item : SnapshotObjectRef) :
    (item.tenantId.toList ++ ':' :: (item.workspaceId.toList ++
      ':' :: (item.area.toList ++ ':' :: item.objectId.toList))).splitOn ':' = item.words := by
  rw [List.splitOn_append_cons_self, List.splitOn_append_cons_self, List.splitOn_append_cons_self,
    List.splitOn_eq_singleton item.area_colonless, ← List.append_assoc, ← List.append_assoc]
  rfl

theorem label_eq_iff {item item' : SnapshotObjectRef} :
    item.label = item'.label ↔ item.words = item'.words := by
  constructor
  · intro h
    have htexts := congrArg String.toList h
    rw [item.toList_label, item'.toList_label, List.append_cancel_left_eq] at htexts
    have hcut := congrArg (List.splitOn ':') htexts
    rwa [splitOn_joined, splitOn_joined] at hcut
  · intro h
    apply String.toList_injective
    rw [item.toList_label, item'.toList_label]
    rw [← splitOn_joined, ← splitOn_joined] at h
    have hjoined := congrArg ([':'].intercalate ·) h
    simp only [List.intercalate_splitOn] at hjoined
    rw [hjoined]

/-! ## Streams -/

section Streams

variable {ν : Type} {lease : SnapshotLease ν}

theorem ne_of_head {s s' : String} {c c' : Char} (h : s.toList.head? = some c)
    (h' : s'.toList.head? = some c') (hne : c ≠ c') : s ≠ s' := by
  rintro rfl
  rw [h] at h'
  exact hne (Option.some.inj h')

theorem head_object (item : SnapshotObjectRef) : item.label.toList.head? = some 'o' := by
  rw [item.toList_label]
  rfl

theorem head_runtime (item : SnapshotRuntimeRef) : item.label.toList.head? = some 'r' := by
  rw [SnapshotRuntimeRef.label, String.toList_append]
  rfl

theorem runtime_label_inj {item item' : SnapshotRuntimeRef} (h : item.label = item'.label) :
    item.refId = item'.refId := by
  have htexts := congrArg String.toList h
  rw [SnapshotRuntimeRef.label, SnapshotRuntimeRef.label, String.toList_append, String.toList_append,
    List.append_cancel_left_eq] at htexts
  exact String.toList_injective htexts

theorem map_label_streamsOf (lease : SnapshotLease ν) : (streamsOf lease).map (·.label) =
    "archive" :: (lease.objectInventory.map (·.label) ++
      (lease.runtimeInventory.filter (·.mode = "bytes")).map (·.label)) := by
  simp [streamsOf, Function.comp_def]

theorem nodup_streams_iff (hruntime : (lease.runtimeInventory.map (·.refId)).Nodup) :
    ((streamsOf lease).map (·.label)).Nodup ↔ (lease.objectInventory.map (·.label)).Nodup := by
  rw [map_label_streamsOf, List.nodup_cons, List.nodup_append']
  constructor
  · intro h
    exact h.2.1
  · intro h
    have hbytes : ((lease.runtimeInventory.filter (·.mode = "bytes")).map (·.label)).Nodup := by
      have hrefs : ((lease.runtimeInventory.filter (·.mode = "bytes")).map (·.refId)).Nodup :=
        hruntime.sublist (List.filter_sublist.map _)
      rw [List.nodup_iff_pairwise_ne, List.pairwise_map] at hrefs ⊢
      exact hrefs.imp fun hne hlabel => hne (runtime_label_inj hlabel)
    refine ⟨?_, h, hbytes, ?_⟩
    · rw [List.mem_append, List.mem_map, List.mem_map]
      rintro (⟨item, -, hitem⟩ | ⟨item, -, hitem⟩)
      · exact ne_of_head (head_object item) rfl (by decide) hitem
      · exact ne_of_head (head_runtime item) rfl (by decide) hitem
    · intro label hobject hother
      obtain ⟨item, -, rfl⟩ := List.mem_map.1 hobject
      obtain ⟨item', -, hsame⟩ := List.mem_map.1 hother
      exact ne_of_head (head_runtime item') (head_object item) (by decide) hsame

end Streams

/-! ## Manifests -/

section Manifests

variable {ν : Type} [ReadableNumber ν]

/-- The objects are completed and different, the runtime references are those of the allow-list, and the
sizes are within the limits. -/
structure SnapshotLease.Legal (p : Primitives) (spec : ServiceSnapshotSpec) (lease : SnapshotLease ν) :
    Prop where
  completed : ∀ item ∈ lease.objectInventory, item.state = "completed"
  distinct : (lease.objectInventory.map (·.identity)).Nodup
  allowed : (lease.runtimeInventory.map (·.refId)).Perm spec.runtimeAllowlist
  objectBytes : (lease.objectInventory.map (·.byteSize)).sum +
    (lease.runtimeInventory.map (·.byteSize)).sum ≤ spec.limits.objectBytes
  metadataBytes : (dumps (metadataJson p spec lease)).length ≤ spec.limits.metadataBytes

/-- `_metadata` accepts the lease, and the labels of its streams are different. -/
def SnapshotLease.Labelled (p : Primitives) (spec : ServiceSnapshotSpec) (lease : SnapshotLease ν) : Prop :=
  (∃ raw, metadata p spec lease = .ok raw) ∧ ((streamsOf lease).map (·.label)).Nodup

/-- Whatever is wrong with a lease but its sizes and its inventories. -/
structure SnapshotLease.Named (lease : SnapshotLease ν) : Prop where
  snapshotId : isSafeId lease.snapshotId = true
  schemaRevision : isSafeId lease.schemaRevision = true
  catalog : Json.HasKeys ["roles", "memberships", "relations", "functions"] lease.catalog
  /-- Different objects have different words in their ids. -/
  words : ∀ item ∈ lease.objectInventory, ∀ item' ∈ lease.objectInventory,
    item.words = item'.words → item.identity = item'.identity

variable {p : Primitives} {spec : ServiceSnapshotSpec} {lease : SnapshotLease ν}

theorem metadata_isOk_iff : (∃ raw, metadata p spec lease = .ok raw) ↔
    (isSafeId lease.snapshotId = true ∧ isSafeId lease.schemaRevision = true) ∧
    Json.HasKeys ["roles", "memberships", "relations", "functions"] lease.catalog ∧
    (∀ item ∈ lease.objectInventory, item.state = "completed") ∧
    (lease.objectInventory.map (·.label)).Nodup ∧
    ((∀ item ∈ lease.runtimeInventory, item.refId ∈ spec.runtimeAllowlist) ∧
      ∀ ref ∈ spec.runtimeAllowlist, ref ∈ lease.runtimeInventory.map (·.refId)) ∧
    lease.runtimeInventory.length = spec.runtimeAllowlist.length ∧
    (lease.objectInventory.map (·.byteSize)).sum + (lease.runtimeInventory.map (·.byteSize)).sum ≤
      spec.limits.objectBytes ∧
    (dumps (metadataJson p spec lease)).length ≤ spec.limits.metadataBytes := by
  constructor
  · rintro ⟨raw, h⟩
    obtain ⟨_, hids, h⟩ := bind_eq_ok.1 h
    obtain ⟨_, hcatalog, h⟩ := bind_eq_ok.1 h
    obtain ⟨_, hcompleted, h⟩ := bind_eq_ok.1 h
    obtain ⟨_, hlabels, h⟩ := bind_eq_ok.1 h
    obtain ⟨_, hallowed, h⟩ := bind_eq_ok.1 h
    obtain ⟨_, hlength, h⟩ := bind_eq_ok.1 h
    obtain ⟨_, hobjects, h⟩ := bind_eq_ok.1 h
    obtain ⟨_, hmetadata, -⟩ := bind_eq_ok.1 h
    rw [check'_eq_ok] at hids hcatalog hcompleted hlabels hallowed hlength hobjects hmetadata
    exact ⟨hids, hcatalog, hcompleted, hlabels, hallowed, hlength, hobjects, hmetadata⟩
  · rintro ⟨hids, hcatalog, hcompleted, hlabels, hallowed, hlength, hobjects, hmetadata⟩
    refine ⟨dumps (metadataJson p spec lease), ?_⟩
    unfold metadata
    refine bind_eq_ok.2 ⟨(), check'_eq_ok.2 hids, ?_⟩
    refine bind_eq_ok.2 ⟨(), check'_eq_ok.2 hcatalog, ?_⟩
    refine bind_eq_ok.2 ⟨(), check'_eq_ok.2 hcompleted, ?_⟩
    refine bind_eq_ok.2 ⟨(), check'_eq_ok.2 hlabels, ?_⟩
    refine bind_eq_ok.2 ⟨(), check'_eq_ok.2 hallowed, ?_⟩
    refine bind_eq_ok.2 ⟨(), check'_eq_ok.2 hlength, ?_⟩
    refine bind_eq_ok.2 ⟨(), check'_eq_ok.2 hobjects, ?_⟩
    exact bind_eq_ok.2 ⟨(), check'_eq_ok.2 hmetadata, rfl⟩

omit [ReadableNumber ν] in
theorem nodup_labels_iff (hdistinct : (lease.objectInventory.map (·.identity)).Nodup) :
    (lease.objectInventory.map (·.label)).Nodup ↔
      ∀ item ∈ lease.objectInventory, ∀ item' ∈ lease.objectInventory,
        item.words = item'.words → item.identity = item'.identity := by
  rw [List.nodup_map_iff_inj_on hdistinct.of_map]
  constructor
  · intro h item hitem item' hitem' hwords
    rw [h item hitem item' hitem' (label_eq_iff.2 hwords)]
  · intro h item hitem item' hitem' hlabel
    exact List.inj_on_of_nodup_map hdistinct hitem hitem'
      (h item hitem item' hitem' (label_eq_iff.1 hlabel))

/-- A legal lease is accepted with different labels exactly when its own ids are safe, its catalog has the
four parts, and no two objects have the same words in their ids. -/
theorem labelled_iff_named (p : Primitives) (spec : ServiceSnapshotSpec) (lease : SnapshotLease ν)
    (h : lease.Legal p spec) : lease.Labelled p spec ↔ lease.Named := by
  have hrefs : (lease.runtimeInventory.map (·.refId)).Nodup := h.allowed.nodup_iff.2 spec.distinct
  rw [SnapshotLease.Labelled, metadata_isOk_iff, nodup_streams_iff hrefs, nodup_labels_iff h.distinct]
  constructor
  · rintro ⟨⟨⟨hid, hrevision⟩, hcatalog, -⟩, hwords⟩
    exact ⟨hid, hrevision, hcatalog, hwords⟩
  · intro hnamed
    have hallowed : ∀ item ∈ lease.runtimeInventory, item.refId ∈ spec.runtimeAllowlist :=
      fun item hitem => h.allowed.mem_iff.1 (List.mem_map_of_mem hitem)
    have hlength : lease.runtimeInventory.length = spec.runtimeAllowlist.length := by
      rw [← h.allowed.length_eq, List.length_map]
    exact ⟨⟨⟨hnamed.snapshotId, hnamed.schemaRevision⟩, hnamed.catalog, h.completed,
      hnamed.words, ⟨hallowed, fun ref => h.allowed.mem_iff.2⟩, hlength,
      h.objectBytes, h.metadataBytes⟩, hnamed.words⟩

end Manifests

namespace Sample

def primitives : Primitives where
  sha256 _ := ""
  encrypt _ _ raw _ := raw ++ List.replicate 16 0
  length_encrypt _ _ raw _ := by rw [List.length_append, List.length_replicate]
  fromisoformat _ := true

def spec : ServiceSnapshotSpec where
  sourceInstanceRef := "source-1"
  credentialRef := "credential-1"
  clientRef := "client-1"
  rootRef := "root-1"
  codeRevision := "revision-1"
  imageDigest := "sha256:" ++ String.ofList (List.replicate 64 '0')
  runtimeAllowlist := ["runtime-1"]
  keyVersion := "1"
  keyReference := "key-1"
  limits := ⟨1, 1, 100000, 1, by decide⟩
  safe := by decide
  image := by decide
  distinct := by decide

def object (workspaceId objectId : String)
    (safe : ["tenant-1", workspaceId, objectId].all isSafeId = true) : SnapshotObjectRef where
  tenantId := "tenant-1"
  workspaceId
  area := "source"
  objectId
  state := "completed"
  digest := String.ofList (List.replicate 64 '0')
  byteSize := 0
  safe
  known := Or.inl rfl
  hashed := by decide

def runtime : SnapshotRuntimeRef where
  refId := "runtime-1"
  mode := "bytes"
  digest := String.ofList (List.replicate 64 '0')
  byteSize := 0
  safe := by decide
  hashed := by decide
  known := Or.inl rfl

def lease (objects : List SnapshotObjectRef) : SnapshotLease Int where
  snapshotId := "snapshot-1"
  schemaRevision := "schema-1"
  objectInventory := objects
  runtimeInventory := [runtime]
  catalog := [("roles", .null), ("memberships", .null), ("relations", .null), ("functions", .null)]

def plain : SnapshotLease Int := lease [object "notes" "a" (by decide), object "notes" "b" (by decide)]

def shared : SnapshotLease Int :=
  lease [object "notes:source:a" "b" (by decide), object "notes" "a:source:b" (by decide)]

theorem legal_lease {objects : List SnapshotObjectRef}
    (hcompleted : ∀ item ∈ objects, item.state = "completed")
    (hdistinct : (objects.map (·.identity)).Nodup) (hbytes : (objects.map (·.byteSize)).sum ≤ 1)
    (hweight : Json.weight (metadataJson primitives spec (lease objects)) ≤ 100000) :
    (lease objects).Legal primitives spec where
  completed := hcompleted
  distinct := hdistinct
  allowed := List.Perm.refl _
  objectBytes := hbytes
  metadataBytes := (Json.length_utf8_canonical _).trans hweight

theorem legal_plain : plain.Legal primitives spec :=
  legal_lease (by decide) (by decide) (by decide) (by decide)

theorem legal_shared : shared.Legal primitives spec :=
  legal_lease (by decide) (by decide) (by decide) (by decide)

end Sample

/-- Two objects of one workspace. -/
theorem plain_labelled_iff :
    Sample.plain.Labelled Sample.primitives Sample.spec ↔ Sample.plain.Named :=
  labelled_iff_named Sample.primitives Sample.spec Sample.plain Sample.legal_plain

theorem shared_label_refused :
    ¬∀ (p : Primitives) (spec : ServiceSnapshotSpec) (lease : SnapshotLease Int),
      lease.Legal p spec → lease.Labelled p spec := by
  intro h
  obtain ⟨hok, -⟩ := h Sample.primitives Sample.spec Sample.shared Sample.legal_shared
  have hlabels := (metadata_isOk_iff.1 hok).2.2.2.1
  exact absurd hlabels (by decide)

end DaonUser.Snapshot
