import DaonUser.Base
import DaonUser.Lib.JsonRead
import DaonUser.Lib.Utf8

/-!
# Service snapshots: specs, leases and manifests

The values of `service_snapshot.py` with their JSON texts, and the manifest of a lease with the checks that
`_metadata` makes of it.
-/

namespace DaonUser.Snapshot

open Lib

abbrev Bytes := List UInt8

/-! ## Texts and bytes -/

/-- `str.encode()`. -/
def encode (s : String) : Bytes := utf8 s.toList

/-- `bytes.decode()`, `none` where it raises. -/
def decode? (bytes : Bytes) : Option String := (readUtf8 bytes.length bytes).map String.ofList

theorem decode?_encode (s : String) : decode? (encode s) = some s := by
  rw [decode?, encode, readUtf8_utf8 (length_le_utf8 s.toList), Option.map_some, String.ofList_toList]

/-- `struct.pack(">I", n)`, `none` where it raises. -/
def pack (n : Nat) : Option Bytes :=
  if n < 2 ^ 32 then
    some [UInt8.ofNat (n / 2 ^ 24), UInt8.ofNat (n / 2 ^ 16), UInt8.ofNat (n / 2 ^ 8), UInt8.ofNat n]
  else none

/-- `struct.unpack(">I", bytes)`. -/
def unpack (bytes : Bytes) : Nat := bytes.foldl (fun n b => 256 * n + b.toNat) 0

theorem unpack_pack {n : Nat} {size : Bytes} (h : pack n = some size) : unpack size = n ∧ size.length = 4 := by
  unfold pack at h
  split at h
  · next hlt =>
    cases h
    refine ⟨?_, rfl⟩
    simp only [unpack, List.foldl_cons, List.foldl_nil, UInt8.toNat_ofNat']
    omega
  · cases h

theorem pack_unpack {size : Bytes} (h : size.length = 4) : pack (unpack size) = some size := by
  obtain ⟨a, b, c, d, rfl⟩ := List.length_eq_four.1 h
  have ha := a.toNat_lt
  have hb := b.toNat_lt
  have hc := c.toNat_lt
  have hd := d.toNat_lt
  have hvalue : unpack [a, b, c, d] = a.toNat * 2 ^ 24 + b.toNat * 2 ^ 16 + c.toNat * 2 ^ 8 + d.toNat := by
    simp only [unpack, List.foldl_cons, List.foldl_nil]
    omega
  have hbyte : ∀ {n : Nat} {x : UInt8}, n % 256 = x.toNat → UInt8.ofNat n = x := fun h => by
    rw [← UInt8.toNat_inj, UInt8.toNat_ofNat', h]
  rw [hvalue, pack, if_pos (by omega), hbyte (x := a) (by omega), hbyte (x := b) (by omega),
    hbyte (x := c) (by omega), hbyte (x := d) (by omega)]

/-- `KIND`. -/
def snapshotKind : String := "service-snapshot-v1"

/-- What is raised: a `SnapshotError` with its code, an `OSError` or `RecoveryError` of the storage, or
something else. -/
inductive Exn where
  | snapshot (code : String)
  | storage
  | other
  deriving DecidableEq

/-- `SnapshotError()`. -/
def Exn.invalid : Exn := .snapshot "SNAPSHOT_INVALID"

structure SnapshotLimits where
  archiveBytes : Nat
  objectBytes : Nat
  metadataBytes : Nat
  durationSeconds : Nat
  positive : 0 < archiveBytes ∧ 0 < objectBytes ∧ 0 < metadataBytes ∧ 0 < durationSeconds
  deriving DecidableEq

/-- `sha256:` and a digest. -/
def isImageDigest (s : String) : Bool :=
  startsWith s "sha256:" && isDigest (String.ofList (s.toList.drop 7))

structure ServiceSnapshotSpec where
  sourceInstanceRef : String
  credentialRef : String
  clientRef : String
  rootRef : String
  codeRevision : String
  imageDigest : String
  runtimeAllowlist : List String
  keyVersion : String
  keyReference : String
  limits : SnapshotLimits
  safe : ([sourceInstanceRef, credentialRef, clientRef, rootRef, codeRevision, keyVersion,
    keyReference] ++ runtimeAllowlist).all isSafeId = true
  image : isImageDigest imageDigest = true
  distinct : runtimeAllowlist.Nodup
  deriving DecidableEq

/-! ## References -/

structure SnapshotObjectRef where
  tenantId : String
  workspaceId : String
  area : String
  objectId : String
  state : String
  digest : String
  byteSize : Nat
  safe : [tenantId, workspaceId, objectId].all isSafeId = true
  known : area = "source" ∨ area = "output"
  hashed : isDigest digest = true

def SnapshotObjectRef.label (item : SnapshotObjectRef) : String :=
  "object:" ++ ":".intercalate [item.tenantId, item.workspaceId, item.area, item.objectId]

structure SnapshotRuntimeRef where
  refId : String
  mode : String
  digest : String
  byteSize : Nat
  safe : isSafeId refId = true
  hashed : isDigest digest = true
  known : mode = "bytes" ∨ mode = "reconstructible" ∧ byteSize = 0

def SnapshotRuntimeRef.label (item : SnapshotRuntimeRef) : String := "runtime:" ++ item.refId

structure SnapshotLease (ν : Type) where
  snapshotId : String
  schemaRevision : String
  objectInventory : List SnapshotObjectRef
  runtimeInventory : List SnapshotRuntimeRef
  catalog : List (String × Json ν)

/-! ## JSON -/

section Values

variable {ν : Type} [ReadableNumber ν]

def number (n : Nat) : Json ν := .num (ReadableNumber.ofInt n)

/-- `asdict(limits)`. -/
def SnapshotLimits.json (limits : SnapshotLimits) : Json ν := .obj
  [("archive_bytes", number limits.archiveBytes), ("object_bytes", number limits.objectBytes),
    ("metadata_bytes", number limits.metadataBytes),
    ("duration_seconds", number limits.durationSeconds)]

/-- `asdict(spec)`. -/
def ServiceSnapshotSpec.json (spec : ServiceSnapshotSpec) : Json ν := .obj
  [("source_instance_ref", .str spec.sourceInstanceRef), ("credential_ref", .str spec.credentialRef),
    ("client_ref", .str spec.clientRef), ("root_ref", .str spec.rootRef),
    ("code_revision", .str spec.codeRevision), ("image_digest", .str spec.imageDigest),
    ("runtime_allowlist", .arr (spec.runtimeAllowlist.map .str)), ("key_version", .str spec.keyVersion),
    ("key_reference", .str spec.keyReference), ("limits", spec.limits.json)]

/-- `asdict(item)`. -/
def SnapshotObjectRef.json (item : SnapshotObjectRef) : Json ν := .obj
  [("tenant_id", .str item.tenantId), ("workspace_id", .str item.workspaceId), ("area", .str item.area),
    ("object_id", .str item.objectId), ("state", .str item.state), ("digest", .str item.digest),
    ("byte_size", number item.byteSize)]

/-- `asdict(item)`. -/
def SnapshotRuntimeRef.json (item : SnapshotRuntimeRef) : Json ν := .obj
  [("ref_id", .str item.refId), ("mode", .str item.mode), ("digest", .str item.digest),
    ("byte_size", number item.byteSize)]

/-- `_json`. -/
def dumps (v : Json ν) : Bytes := encode v.canonical

/-- `json.loads`, `none` where it raises. -/
def loads (bytes : Bytes) : Option (Json ν) := (decode? bytes).bind Json.read

theorem loads_dumps (v : Json ν) : loads (dumps v) = some v.sorted := by
  rw [loads, dumps, decode?_encode]
  exact Json.read_canonical v

end Values

structure Primitives where
  /-- `hashlib.sha256(bytes).hexdigest()`. -/
  sha256 : Bytes → String
  /-- `AESGCM.encrypt`, with the text that the key is derived from. -/
  encrypt : String → Bytes → Bytes → Bytes → Bytes
  length_encrypt : ∀ key nonce raw aad, (encrypt key nonce raw aad).length = raw.length + 16
  /-- `datetime.fromisoformat(text).astimezone(timezone.utc)` does not raise. -/
  fromisoformat : String → Bool

inductive Purpose where
  | owner
  | manifest
  | archive
  | object
  | runtime
  | receipt
  deriving DecidableEq

section Manifests

variable {ν : Type} [ReadableNumber ν] (p : Primitives)

def metadataJson (spec : ServiceSnapshotSpec) (lease : SnapshotLease ν) : Json ν := .obj
  [("kind", .str snapshotKind), ("capture_id_scope", .str (p.sha256 (dumps (spec.json : Json ν)))),
    ("snapshot_id", .str lease.snapshotId), ("schema_revision", .str lease.schemaRevision),
    ("image_digest", .str spec.imageDigest), ("code_revision", .str spec.codeRevision),
    ("objects", .arr (lease.objectInventory.map SnapshotObjectRef.json)),
    ("runtime", .arr (lease.runtimeInventory.map SnapshotRuntimeRef.json)),
    ("catalog", .obj lease.catalog)]

/-- Raise unless `c` holds. -/
def check' (c : Prop) [Decidable c] (e : Exn) : Except Exn Unit := if c then .ok () else .error e

def metadata (spec : ServiceSnapshotSpec) (lease : SnapshotLease ν) : Except Exn Bytes := do
  check' (isSafeId lease.snapshotId = true ∧ isSafeId lease.schemaRevision = true) .invalid
  check' (Json.HasKeys ["roles", "memberships", "relations", "functions"] lease.catalog) .invalid
  check' (∀ item ∈ lease.objectInventory, item.state = "completed")
    (.snapshot "SNAPSHOT_STAGING_UNSUPPORTED")
  check' (lease.objectInventory.map (·.label)).Nodup .invalid
  check' ((∀ item ∈ lease.runtimeInventory, item.refId ∈ spec.runtimeAllowlist) ∧
    ∀ ref ∈ spec.runtimeAllowlist, ref ∈ lease.runtimeInventory.map (·.refId)) .invalid
  check' (lease.runtimeInventory.length = spec.runtimeAllowlist.length) .invalid
  check' ((lease.objectInventory.map (·.byteSize)).sum + (lease.runtimeInventory.map (·.byteSize)).sum ≤
    spec.limits.objectBytes) (.snapshot "SNAPSHOT_LIMIT_EXCEEDED")
  let raw := dumps (metadataJson p spec lease)
  check' (raw.length ≤ spec.limits.metadataBytes) (.snapshot "SNAPSHOT_LIMIT_EXCEEDED")
  return raw

/-- A stream: its label, the purpose of its cipher, and the size and the digest of the item it belongs
to. The archive belongs to none. -/
structure Stream where
  label : String
  purpose : Purpose
  item : Option (Nat × String)

def streamsOf (lease : SnapshotLease ν) : List Stream :=
  ⟨"archive", .archive, none⟩ ::
    (lease.objectInventory.map fun item => ⟨item.label, .object, some (item.byteSize, item.digest)⟩) ++
    (lease.runtimeInventory.filter (·.mode = "bytes")).map fun item =>
      ⟨item.label, .runtime, some (item.byteSize, item.digest)⟩

end Manifests

section Results

variable {ε α β : Type}

theorem bind_eq_ok {x : Except ε α} {f : α → Except ε β} {b : β} :
    x >>= f = .ok b ↔ ∃ a, x = .ok a ∧ f a = .ok b := by
  cases x with
  | error e => exact iff_of_false (by simp [bind, Except.bind]) (by simp)
  | ok a => simp [bind, Except.bind]

theorem check'_eq_ok {c : Prop} [Decidable c] {e : Exn} {u : Unit} : check' c e = .ok u ↔ c := by
  unfold check'
  split
  · next h => exact iff_of_true rfl h
  · next h => exact iff_of_false (by simp) h

end Results

end DaonUser.Snapshot
