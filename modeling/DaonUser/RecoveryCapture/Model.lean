import DaonUser.Base
import DaonUser.Lib.JsonSame
import DaonUser.Lib.Regex
import DaonUser.Snapshot.Model

/-!
# The store of recovery captures

`FileCaptureStore` of `recovery_capture.py` with what it reads and checks, and `capture`, `verify` and
`restore` on the folders below a root. What a call draws and its sources answer are arguments. AES-GCM opens
what it sealed; whether it opens anything else is left open. Symbolic links, owners of folders and failures
of the storage only raise, and are left out.
-/

namespace DaonUser.RecoveryCapture

open Lib
open Snapshot (Bytes encode dumps loads pack unpack number)

/-! ## Constants and errors -/

def chunkSize : Nat := 4 * 1024 * 1024

def maxSourceBytes : Nat := 512 * 1024 * 1024

def maxMetadataBytes : Nat := 32 * 1024 * 1024

def magic : Bytes := encode "DAON-CAPTURE-V2\n"

/-- What is raised: a `RecoveryError`, an error that `verify` catches (`OSError`, `KeyError`, `TypeError`,
`ValueError`, `OverflowError`), or another one. -/
inductive Exn where
  | recovery (code : String) (status : Nat)
  | caught
  | other
  deriving DecidableEq

def Exn.invalid : Exn := .recovery "BACKUP_MANIFEST_INVALID" 409

/-- `RecoveryError("BACKUP_SELECTION_TOO_LARGE", 413)`. -/
def Exn.tooLarge : Exn := .recovery "BACKUP_SELECTION_TOO_LARGE" 413

/-- The error of `_safe`. -/
def Exn.unsafeId : Exn := .recovery "RECOVERY_INPUT_INVALID" 400

/-- The `except` clause of `verify`. -/
def Exn.verified : Exn → Exn
  | .caught => .invalid
  | e => e

abbrev Result := Except Exn

/-- Raise unless `c` holds. -/
def require (c : Prop) [Decidable c] (e : Exn) : Result Unit := if c then .ok () else .error e

def orRaise {α : Type} (e : Exn) : Option α → Result α
  | some a => .ok a
  | none => .error e

/-! ## Scopes and objects -/

structure CaptureScope where
  captureId : String
  tenantId : String
  workspaceId : String
  notebookId : String
  sourceVersionIds : List String
  selectionFingerprint : String
  schemaRevision : String
  policyVersion : String
  retentionWatermark : String
  safe : ([captureId, tenantId, workspaceId, notebookId, schemaRevision, policyVersion,
    retentionWatermark] ++ sourceVersionIds).all isSafeId = true
  counted : 1 ≤ sourceVersionIds.length ∧ sourceVersionIds.length ≤ 100
  distinct : sourceVersionIds.Nodup
  ordered : sourceVersionIds.Pairwise (· ≤ ·)
  hashed : isDigest selectionFingerprint = true

structure BackupObjectInput where
  objectId : String
  checksum : String
  byteSize : Nat
  safe : isSafeId objectId = true
  hashed : isDigest checksum = true

theorem BackupObjectInput.eq_iff {a b : BackupObjectInput} :
    a = b ↔ (a.objectId, a.checksum, a.byteSize) = (b.objectId, b.checksum, b.byteSize) := by
  cases a
  cases b
  simp

instance : DecidableEq BackupObjectInput :=
  fun _ _ => decidable_of_iff _ BackupObjectInput.eq_iff.symm

/-- The number of chunks of an object, `max(1, math.ceil(item.byte_size / CHUNK_SIZE))`. -/
def BackupObjectInput.chunks (item : BackupObjectInput) : Nat :=
  max 1 ((item.byteSize + chunkSize - 1) / chunkSize)

/-- `_objects`. -/
def checkObjects (objects : List BackupObjectInput) : Result (List BackupObjectInput) := do
  require (1 ≤ objects.length ∧ objects.length ≤ 100 ∧ (objects.map (·.objectId)).Nodup) .invalid
  require ((objects.map (·.byteSize)).sum ≤ maxSourceBytes) .tooLarge
  return objects.insertionSort fun a b => a.objectId ≤ b.objectId

structure FileCaptureStore where
  masterKey : Bytes
  keyVersion : String
  keyReference : String
  strong : 32 ≤ masterKey.length
  safe : [keyVersion, keyReference].all isSafeId = true

structure Primitives where
  /-- `hashlib.sha256(bytes).hexdigest()`. -/
  sha256 : Bytes → String
  hexdigest : ∀ bytes, isDigest (sha256 bytes) = true
  /-- `HKDF` with the digest of `info` as its salt: from the master key and `info`. -/
  derive : Bytes → Bytes → Bytes
  /-- `AESGCM(key).encrypt(nonce, raw, aad)`. -/
  encrypt : Bytes → Bytes → Bytes → Bytes → Bytes
  /-- `AESGCM(key).decrypt(nonce, body, aad)`, `none` where it raises `InvalidTag`. -/
  decrypt : Bytes → Bytes → Bytes → Bytes → Option Bytes
  length_encrypt : ∀ key nonce raw aad, (encrypt key nonce raw aad).length = raw.length + 16
  decrypt_encrypt : ∀ key nonce raw aad, decrypt key nonce (encrypt key nonce raw aad) aad = some raw
  /-- `\d`. -/
  digit : Char → Bool
  /-- Whether `datetime.fromisoformat(text)` has a zone, `none` where it raises. -/
  fromisoformat : String → Option Bool

structure Draws where
  token : Nat → Bytes
  length_token : ∀ n, (token n).length = 12

/-- `datetime.now(timezone.utc).isoformat()`. -/
structure Moment (p : Primitives) where
  text : String
  aware : p.fromisoformat text = some true
  short : text.toList.length ≤ 32

section Values

variable {ν : Type} [PythonNumber ν]

/-- `scope.binding()`. -/
def CaptureScope.binding (scope : CaptureScope) : List (String × Json ν) :=
  [("format_version", number 2), ("capture_id", .str scope.captureId), ("tenant_id", .str scope.tenantId),
    ("workspace_id", .str scope.workspaceId), ("notebook_id", .str scope.notebookId),
    ("source_version_ids", .arr (scope.sourceVersionIds.map .str)),
    ("selection_fingerprint", .str scope.selectionFingerprint),
    ("schema_revision", .str scope.schemaRevision), ("policy_version", .str scope.policyVersion),
    ("retention_watermark", .str scope.retentionWatermark)]

/-- `value == expected`, for a member that may be missing. -/
def Is (value : Option (Json ν)) (expected : Json ν) : Prop := value.any (Json.same · expected) = true

instance (value : Option (Json ν)) (expected : Json ν) : Decidable (Is value expected) :=
  inferInstanceAs (Decidable (_ = true))

/-! ## Metadata -/

def canonColumns : List String :=
  ["tenant_id", "workspace_id", "record_id", "aggregate_id", "version", "schema_version", "canonical_json",
    "digest_sha256", "previous_version_id", "created_by", "trace_id", "created_at"]

def metadataColumns : List (String × List String) :=
  [("notebooks", ["tenant_id", "workspace_id", "notebook_id", "created_by", "created_at"]),
    ("notebook_metadata_versions", ["tenant_id", "workspace_id", "notebook_id", "version", "title",
      "description", "is_current", "updated_by", "updated_at"]),
    ("notebook_bindings", ["tenant_id", "workspace_id", "notebook_id", "binding_kind", "record_id",
      "version_id", "created_by", "created_at"]),
    ("sources", canonColumns ++ ["state"]),
    ("source_versions", canonColumns ++ ["source_id", "object_id"]),
    ("object_records", ["tenant_id", "workspace_id", "object_id", "area", "digest_sha256", "byte_size",
      "content_type", "status"])]

/-- The pattern of `created_at` and `updated_at`. -/
def instant (digit : Char → Bool) : Regex :=
  let d := Regex.one digit
  let c := fun c : Char => Regex.one (· = c)
  let zone := Regex.alt (c 'Z')
    ([Regex.one fun c => c = '+' || c = '-', d, d, c ':', d, d].foldr .seq .empty)
  [d, d, d, d, c '-', d, d, c '-', d, d, c 'T', d, d, c ':', d, d, c ':', d, d,
    .optional (.seq (c '.') d.plus), zone].foldr .seq .empty

def isInstant (p : Primitives) : Option String → Bool
  | some s => (instant p.digit).fullmatch s && p.fromisoformat s == some true
  | none => false

abbrev Row (ν : Type) := List (String × Json ν)

def checkRow (p : Primitives) (scope : CaptureScope) (columns : List String) (v : Json ν) :
    Option (Row ν) := do
  let row ← Json.members? v
  guard (Json.HasKeys columns row)
  guard (Json.textOf? "tenant_id" row = some scope.tenantId ∧
    Json.textOf? "workspace_id" row = some scope.workspaceId)
  guard (∀ key ∈ ["version", "schema_version"], key ∈ columns →
    (Json.natOf? key row).any (1 ≤ ·) = true)
  guard (∀ key ∈ ["created_at", "updated_at"], key ∈ columns →
    isInstant p (Json.textOf? key row) = true)
  return row

def checkTable (p : Primitives) (scope : CaptureScope) (tables : Row ν) (table : String) :
    Option (List (Row ν)) := do
  let rows ← (Json.field? table tables).bind Json.items?
  guard (rows ≠ [] ∧ rows.length ≤ 100)
  rows.mapM (checkRow p scope ((metadataColumns.lookup table).getD []))

/-- Two sets that are written as lists. -/
def SameSet (xs ys : List String) : Prop := xs ⊆ ys ∧ ys ⊆ xs

instance (xs ys : List String) : Decidable (SameSet xs ys) := inferInstanceAs (Decidable (_ ∧ _))

def OfNotebook (scope : CaptureScope) (rows : List (Row ν)) : Prop :=
  rows.map (Json.textOf? "notebook_id") = [some scope.notebookId]

instance (scope : CaptureScope) (rows : List (Row ν)) : Decidable (OfNotebook scope rows) :=
  inferInstanceAs (Decidable (_ = _))

/-- `value is True`. -/
def isTrue : Option (Json ν) → Bool
  | some (.bool b) => b
  | _ => false

/-- `_safe_canon_id` accepts the value. -/
def isCanonId (value : Option (Json ν)) : Bool := (value.bind Json.text?).any isLongId

def isCanonRow (p : Primitives) (row : Row ν) : Bool :=
  ((Json.field? "canonical_json" row).any fun payload => (Json.members? payload).isSome &&
    Json.textOf? "digest_sha256" row == some (p.sha256 (dumps payload))) &&
  isCanonId (Json.field? "record_id" row) && isCanonId (Json.field? "aggregate_id" row) &&
  (match Json.field? "previous_version_id" row with
    | some .null => true
    | value => isCanonId value)

/-- The key of the digest of a payload, `none` where its `origin_kind` cannot be hashed. -/
def digestKey (payload : Row ν) : Option String :=
  match Json.field? "origin_kind" payload with
  | some (.str s) =>
    some (if s = "website" ∨ s = "mcp_open_law" then "text_sha256" else "content_digest_sha256")
  | some (.arr _) | some (.obj _) => none
  | _ => some "content_digest_sha256"

def describes (objects : List BackupObjectInput) (row : Row ν) : Bool :=
  ((Json.textOf? "object_id" row).bind fun objectId => objects.find? (·.objectId = objectId)).any fun item =>
    ((Json.field? "canonical_json" row).bind Json.members?).any fun payload =>
      Json.textOf? "object_id" payload == some item.objectId &&
      Json.natOf? "byte_size" payload == some item.byteSize &&
      (digestKey payload).any fun key => Json.textOf? key payload == some item.checksum

def records (objects : List BackupObjectInput) (row : Row ν) : Bool :=
  ((Json.textOf? "object_id" row).bind fun objectId => objects.find? (·.objectId = objectId)).any fun item =>
    Json.textOf? "status" row == some "completed" && Json.textOf? "area" row == some "source" &&
    Json.textOf? "digest_sha256" row == some item.checksum &&
    Json.natOf? "byte_size" row == some item.byteSize

def binds (scope : CaptureScope) (versions : List (Row ν)) (row : Row ν) : Bool :=
  Json.textOf? "notebook_id" row == some scope.notebookId &&
  Json.textOf? "binding_kind" row == some "source" &&
  (versions.find? fun version =>
    Json.textOf? "record_id" version == Json.textOf? "version_id" row).any fun version =>
      (Json.textOf? "record_id" row).isSome &&
      Json.textOf? "record_id" row == Json.textOf? "source_id" version

structure Tables (ν : Type) where
  notebooks : List (Row ν)
  titles : List (Row ν)
  bindings : List (Row ν)
  sources : List (Row ν)
  versions : List (Row ν)
  objectRecords : List (Row ν)

def readTables (p : Primitives) (scope : CaptureScope) (metadata : Json ν) : Option (Tables ν) := do
  let tables ← Json.members? metadata
  guard (Json.HasKeys (metadataColumns.map (·.1)) tables)
  return {
    notebooks := ← checkTable p scope tables "notebooks"
    titles := ← checkTable p scope tables "notebook_metadata_versions"
    bindings := ← checkTable p scope tables "notebook_bindings"
    sources := ← checkTable p scope tables "sources"
    versions := ← checkTable p scope tables "source_versions"
    objectRecords := ← checkTable p scope tables "object_records" }

/-- The checks of `_validate_metadata` that compare the tables. -/
def checkTables (p : Primitives) (scope : CaptureScope) (objects : List BackupObjectInput) (t : Tables ν) :
    Option Unit := do
  guard (OfNotebook scope t.notebooks ∧ OfNotebook scope t.titles)
  guard (t.titles.all fun row => isTrue (Json.field? "is_current" row))
  let sourceIds ← t.sources.mapM (Json.textOf? "record_id")
  let versionIds ← t.versions.mapM (Json.textOf? "record_id")
  let objectIds ← t.objectRecords.mapM (Json.textOf? "object_id")
  guard (sourceIds.Nodup ∧ versionIds.Nodup ∧ objectIds.Nodup)
  guard (SameSet versionIds scope.sourceVersionIds)
  guard (SameSet objectIds (objects.map (·.objectId)))
  let parents ← t.versions.mapM (Json.textOf? "source_id")
  guard (SameSet sourceIds parents)
  let bound ← t.bindings.mapM (Json.textOf? "version_id")
  guard (t.bindings.length = t.versions.length ∧ SameSet bound versionIds)
  guard (t.bindings.all (binds scope t.versions))
  guard ((t.sources ++ t.versions).all (isCanonRow p))
  guard (t.versions.all (describes objects) ∧ t.objectRecords.all (records objects))

/-- The checks of `_validate_metadata` before it measures the text. -/
def checkMetadata (p : Primitives) (scope : CaptureScope) (metadata : Json ν)
    (objects : List BackupObjectInput) : Option Unit :=
  (readTables p scope metadata).bind (checkTables p scope objects)

def validateMetadata (p : Primitives) (scope : CaptureScope) (metadata : Json ν)
    (objects : List BackupObjectInput) : Result Bytes := do
  orRaise .invalid (checkMetadata p scope metadata objects)
  let raw := dumps metadata
  require (raw.length ≤ maxMetadataBytes) .tooLarge
  return raw

end Values

end DaonUser.RecoveryCapture
