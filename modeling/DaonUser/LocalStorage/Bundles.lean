import DaonUser.LocalStorage.Envelopes
import Mathlib.Data.List.Sort

/-!
# Local storage: bundles of a file and its envelopes

`import_knowledge_copy` and `put_raw_source_bundle` store an encrypted file, which is committed, and then
the envelopes that refer to it. When an envelope is not stored, `_remove_object_after_failed_import` and its
like delete the file again: the import only after a `LocalStorageError` of `put_canonical_envelope`, the
bundle for four classes of exceptions.
-/

namespace DaonUser.LocalStorage

open Lib

/-! ## Files -/

/-- How the driver and the file system fail in `_put_file`: what is raised before the file is written,
whether the writing raises and leaves the file nevertheless, whether its row is refused, and whether files
cannot be deleted. -/
structure FileFaults where
  prepare : Option Raised := none
  write : Option Bool := none
  insert : Bool := false
  unlink : Bool := false
  deriving DecidableEq

/-- What a call meets: the `uuid4` of its object, the clock when it stores the object and the envelopes, and
the failures. `envelope` is a `DatabaseError` of a statement that inserts envelopes, except a violated
constraint. -/
structure BundleFaults where
  objectId : String
  now : String
  createdAt : String
  listing : Option Raised := none
  file : FileFaults := {}
  envelope : Option String := none
  removal : Option String := none
  unlink : Bool := false
  deriving DecidableEq

def validUtf8Text (bytes : List UInt8) : Bool :=
  !bytes.contains 0 && (readUtf8 bytes.length bytes).isSome

def contentTypes : List (String × (List UInt8 → Bool)) :=
  [("text/plain", validUtf8Text),
    ("application/pdf", fun bytes => [0x25, 0x50, 0x44, 0x46, 0x2d].isPrefixOf bytes),
    ("image/png", fun bytes => [0x89, 0x50, 0x4e, 0x47, 0x0d, 0x0a, 0x1a, 0x0a].isPrefixOf bytes),
    ("image/jpeg", fun bytes => [0xff, 0xd8, 0xff].isPrefixOf bytes),
    ("application/vnd.daon.knowledge-package+json", validUtf8Text)]

/-- `_validate_content_type`. -/
def isContent (contentType : String) (plaintext : List UInt8) : Bool :=
  match contentTypes.lookup contentType with
  | none => false
  | some check => check plaintext

namespace LocalStore

def writeFile (s : LocalStore) (file : BlobFile) : LocalStore :=
  { s with files := (s.files.filter fun other => ¬(other.workspaceId = file.workspaceId ∧
      other.area = file.area ∧ other.name = file.name)) ++ [file] }

def deleteFile (s : LocalStore) (workspaceId area name : String) : LocalStore :=
  { s with files := s.files.filter fun other => ¬(other.workspaceId = workspaceId ∧ other.area = area ∧
      other.name = name) }

def insertObject (s : LocalStore) (object : ObjectRow) : LocalStore :=
  { s with objects := s.objects ++ [object] }

/-- `DELETE FROM local_objects`. -/
def deleteObject (s : LocalStore) (workspaceId area objectId : String) : LocalStore :=
  { s with objects := s.objects.filter fun object => ¬(object.workspaceId = workspaceId ∧
      object.area = area ∧ object.objectId = objectId) }

end LocalStore

/-- `delete_file`, which fails or not. -/
def unlinkFile (fails : Bool) (workspaceId area name : String) : LocalMethod PUnit :=
  if fails then pure ⟨⟩ else Call.modify fun s => s.deleteFile workspaceId area name

def objectRow (env : LocalEnv) (faults : BundleFaults) (workspaceId area contentType : String)
    (plaintext : List UInt8) : ObjectRow :=
  ⟨faults.objectId, workspaceId, area, 1, env.sha256 plaintext, plaintext.length,
    faults.objectId ++ ".bin", contentType, "1", faults.now, faults.now, "active"⟩

def objectFile (env : LocalEnv) (faults : BundleFaults) (workspaceId area : String)
    (plaintext : List UInt8) : BlobFile :=
  ⟨workspaceId, area, faults.objectId ++ ".bin",
    env.encrypt (workspaceId ++ "|" ++ area ++ "|" ++ faults.objectId) plaintext⟩

/-- The `except` clause of `_put_file`. -/
def failFile (faults : BundleFaults) (workspaceId area : String) : LocalMethod String := do
  unlinkFile faults.file.unlink workspaceId area (faults.objectId ++ ".bin")
  Call.raise (.storage "LOCAL_WRITE_FAILED")

/-- `INSERT INTO local_objects` and the commit, once the file is written. -/
def insertRow (faults : BundleFaults) (object : ObjectRow) : LocalMethod String := do
  let s ← Call.get
  if faults.file.insert = false ∧ ∀ other ∈ s.objects, other.objectId ≠ object.objectId ∧
      other.blobName ≠ object.blobName then do
    Call.modify fun s => s.insertObject object
    return object.objectId
  else failFile faults object.workspaceId object.area

def putFile (env : LocalEnv) (faults : BundleFaults) (workspaceId area contentType : String)
    (plaintext : List UInt8) : LocalMethod String := do
  localScope workspaceId area
  Call.ensure (isContent contentType plaintext = true) (.storage "LOCAL_CONTENT_TYPE_INVALID")
  requireDb
  raising faults.file.prepare
  match faults.file.write with
  | some false => failFile faults workspaceId area
  | some true => do
    Call.modify fun s => s.writeFile (objectFile env faults workspaceId area plaintext)
    failFile faults workspaceId area
  | none => do
    Call.modify fun s => s.writeFile (objectFile env faults workspaceId area plaintext)
    insertRow faults (objectRow env faults workspaceId area contentType plaintext)

/-- `_remove_object_after_failed_import`, for any area. -/
def removeObject (faults : BundleFaults) (workspaceId area objectId : String) : LocalMethod PUnit := do
  requireDb
  let s ← Call.get
  raising (faults.removal.map .databaseError)
  Call.modify fun s => s.deleteObject workspaceId area objectId
  match s.objects.find? fun object => object.workspaceId = workspaceId ∧ object.area = area ∧
      object.objectId = objectId with
  | none => pure ⟨⟩
  | some object => unlinkFile faults.unlink workspaceId area object.blobName

/-- `except …: handler; raise`, with what is raised in the end. -/
def rescue {α : Type} (caught : Raised → Bool) (reraised : Raised → Raised) (handler : LocalMethod PUnit)
    (x : LocalMethod α) : LocalMethod α := fun s =>
  match x s with
  | (.ok a, s') => (.ok a, s')
  | (.error e, s') =>
    if caught e then
      match handler s' with
      | (.ok _, s'') => (.error (reraised e), s'')
      | (.error e', s'') => (.error e', s'')
    else (.error e, s')

namespace Raised

/-- `isinstance(error, LocalStorageError)`. -/
def isStorage : Raised → Bool
  | storage _ => true
  | _ => false

/-- The exceptions that `put_raw_source_bundle` catches. -/
def isCaught : Raised → Bool
  | other _ => false
  | _ => true

/-- What `put_raw_source_bundle` raises for an exception that it has caught. -/
def ofBundle : Raised → Raised
  | storage code => storage code
  | _ => storage "LOCAL_CANON_IMMUTABLE"

end Raised

/-! ## `import_knowledge_copy` -/

/-- The arguments of `import_knowledge_copy`. -/
structure KnowledgeImport where
  manifest : Dict String PyValue
  manifestDigest : String
  canonicalPackage : List UInt8
  idempotencyKey : String

structure LocalKnowledgeCopy where
  copyId : String
  packageId : String
  objectId : String
  contentDigest : String
  manifestDigest : String
  state : String
  version : Int
  deriving DecidableEq

structure CopyFields where
  workspaceId : String
  copyId : String
  packageId : String
  schemaVersion : Int
  contentDigest : String
  deriving DecidableEq

def copyInvalid : Raised := .storage "LOCAL_KNOWLEDGE_COPY_INVALID"

/-- Raise `e` unless `c` holds. -/
def check (c : Prop) [Decidable c] (e : Raised) : Except Raised PUnit := if c then .ok ⟨⟩ else .error e

def requiredText (manifest : Dict String PyValue) (key : String) : Except Raised String :=
  match manifest.get? key with
  | some (.str s) => .ok s
  | _ => .error copyInvalid

def requiredInt (manifest : Dict String PyValue) (key : String) : Except Raised Int :=
  match manifest.get? key with
  | some (.int n) => .ok n
  | _ => .error copyInvalid

/-- `required_text`. -/
def requiredTexts : List String :=
  ["producer_product", "producer_version", "knowledge_registration_id", "output_version_id", "authority",
    "registration_state", "review_state", "effective_at", "expires_at"]

def PyValue.ofDict (d : Dict String PyValue) : PyValue := .dict (d.entries.map fun e => (some e.1, e.2))

def checkInterval (env : LocalEnv) (effectiveAt expiresAt : String) : Except Raised PUnit :=
  match env.fromIsoformat effectiveAt, env.fromIsoformat expiresAt with
  | some effective, some expires => check (effective < expires) copyInvalid
  | _, _ => .error copyInvalid

def checkPackage (env : LocalEnv) (package : List UInt8) : Except Raised PUnit :=
  match env.loads package with
  | some (.dict entries) => match env.dumps (.dict entries) with
    | some canonical => check (canonical.toUTF8.toList = package) copyInvalid
    | none => .error copyInvalid
  | _ => .error copyInvalid

def knowledgeManifestDigest (env : LocalEnv) (manifest : Dict String PyValue) : Except Raised String :=
  match env.dumps (PyValue.ofDict manifest) with
  | some encoded => .ok (env.textDigest encoded)
  | none => .error copyInvalid

/-- The checks of `import_knowledge_copy` on its arguments. -/
def copyFields (env : LocalEnv) (a : KnowledgeImport) : Except Raised CopyFields := do
  let workspaceId ← requiredText a.manifest "workspace_id"
  let copyId ← requiredText a.manifest "copy_id"
  let packageId ← requiredText a.manifest "package_id"
  let contentDigest ← requiredText a.manifest "content_digest_sha256"
  requiredTexts.forM fun key => do let _ ← requiredText a.manifest key
  let schemaVersion ← requiredInt a.manifest "schema_version"
  let expiresAt ← requiredText a.manifest "expires_at"
  let effectiveAt ← requiredText a.manifest "effective_at"
  let registrationState ← requiredText a.manifest "registration_state"
  let reviewState ← requiredText a.manifest "review_state"
  let authority ← requiredText a.manifest "authority"
  check (isCanonId copyId = true ∧ isCanonId packageId = true ∧ isDigest contentDigest = true ∧
    isDigest a.manifestDigest = true ∧ isCanonId a.idempotencyKey = true ∧ 1 ≤ schemaVersion ∧
    isUtcTimestamp env.digit expiresAt = true ∧ isUtcTimestamp env.digit effectiveAt = true ∧
    registrationState = "registered" ∧ reviewState = "approved" ∧ authority = "approved" ∧
    a.canonicalPackage ≠ [] ∧ a.canonicalPackage.length ≤ 12 * 1024 * 1024) copyInvalid
  checkInterval env effectiveAt expiresAt
  check (isWorkspaceId workspaceId = true) (.storage "LOCAL_SCOPE_INVALID")
  check (env.hexdigest a.canonicalPackage = contentDigest)
    (.storage "LOCAL_KNOWLEDGE_COPY_DIGEST_MISMATCH")
  checkPackage env a.canonicalPackage
  let digest ← knowledgeManifestDigest env a.manifest
  check (digest = a.manifestDigest) (.storage "LOCAL_KNOWLEDGE_COPY_DIGEST_MISMATCH")
  return ⟨workspaceId, copyId, packageId, schemaVersion, contentDigest⟩

/-- A value is the text `s`. -/
def PyValue.isText (s : String) : Option PyValue → Bool
  | some (.str t) => t = s
  | _ => false

/-- `payload[key]` as a text. -/
def LocalCanonicalEnvelope.textAt (env : LocalEnv) (item : LocalCanonicalEnvelope) (key : String) :
    Except Raised String :=
  match item.get? key with
  | some value => .ok (env.text value)
  | none => .error (.other "KeyError")

def replayedCopy (env : LocalEnv) (a : KnowledgeImport) (fields : CopyFields)
    (prior : LocalCanonicalEnvelope) : Except Raised LocalKnowledgeCopy := do
  check (prior.aggregateId = fields.copyId ∧
      PyValue.isText a.manifestDigest (prior.get? "manifest_digest_sha256") = true ∧
      PyValue.isText fields.contentDigest (prior.get? "content_digest_sha256") = true)
    (.storage "LOCAL_KNOWLEDGE_COPY_IDEMPOTENCY_CONFLICT")
  let objectId ← prior.textAt env "object_id"
  let state ← prior.textAt env "state"
  return ⟨fields.copyId, fields.packageId, objectId, fields.contentDigest, a.manifestDigest, state,
    prior.version⟩

namespace KnowledgeImport

def payload (a : KnowledgeImport) (objectId : String) : PyValue :=
  PyValue.ofDict ((((a.manifest.set "object_id" (.str objectId)).set "state" (.str "approved")).set
    "idempotency_key" (.str a.idempotencyKey)).set "manifest_digest_sha256" (.str a.manifestDigest))

/-- The arguments for `put_canonical_envelope`. -/
def envelope (env : LocalEnv) (a : KnowledgeImport) (fields : CopyFields) (createdAt objectId encoded : String) :
    EnvelopeInput :=
  ⟨fields.workspaceId, "artifact", "ScopeSnapshot", fields.copyId ++ ":1", fields.copyId, 1,
    fields.schemaVersion, env.textDigest encoded, createdAt, none, a.payload objectId⟩

end KnowledgeImport

def priorCopies (a : KnowledgeImport) (existing : List LocalCanonicalEnvelope) : List LocalCanonicalEnvelope :=
  existing.filter fun item => PyValue.isText a.idempotencyKey (item.get? "idempotency_key")

def importNew (env : LocalEnv) (faults : BundleFaults) (a : KnowledgeImport) (fields : CopyFields) :
    LocalMethod LocalKnowledgeCopy := do
  let objectId ← putFile env faults fields.workspaceId "artifact"
    "application/vnd.daon.knowledge-package+json" a.canonicalPackage
  -- outside of the `try` block
  let encoded ← Call.query fun _ => canonicalPayload env (a.payload objectId)
  rescue Raised.isStorage id (removeObject faults fields.workspaceId "artifact" objectId)
    (putCanonicalEnvelope env (faults.envelope.map .databaseError)
      (a.envelope env fields faults.createdAt objectId encoded))
  return ⟨fields.copyId, fields.packageId, objectId, fields.contentDigest, a.manifestDigest, "approved", 1⟩

def importKnowledgeCopy (env : LocalEnv) (faults : BundleFaults) (a : KnowledgeImport) :
    LocalMethod LocalKnowledgeCopy := do
  let fields ← Call.query fun _ => copyFields env a
  let existing ← listCanonicalEnvelopes env faults.listing fields.workspaceId "artifact" "ScopeSnapshot"
  match (priorCopies a existing).getLast? with
  | some prior => Call.query fun _ => replayedCopy env a fields prior
  | none => do
    Call.ensure (∀ item ∈ existing, item.aggregateId ≠ fields.copyId)
      (.storage "LOCAL_KNOWLEDGE_COPY_IMMUTABLE")
    importNew env faults a fields

structure RawSourceCanonicalInput where
  entityType : String
  entityId : String
  aggregateId : String
  payload : PyValue
  createdAt : String

def prepareEnvelope (env : LocalEnv) (workspaceId : String) (e : RawSourceCanonicalInput) :
    Except Raised EnvelopeRow := do
  check (["SourceVersion", "IndexVersion", "EvidenceSpan"].contains e.entityType = true ∧
      isCanonId e.entityId = true ∧ isCanonId e.aggregateId = true ∧
      isUtcTimestamp env.digit e.createdAt = true)
    (.storage "LOCAL_CANON_SNAPSHOT_INVALID")
  let encoded ← canonicalPayload env e.payload
  return ⟨workspaceId, "source", e.entityType, e.entityId, e.aggregateId, 1, 1, env.textDigest encoded,
    e.createdAt, none, encoded⟩

def insertEnvelopes (env : LocalEnv) (rows : List EnvelopeRow) :
    List EnvelopeRow → Except Raised (List EnvelopeRow)
  | [] => .ok rows
  | row :: rest =>
    if row.Admitted env rows then insertEnvelopes env (rows ++ [row]) rest else .error .integrityError

/-- The statements in the `try` block, for what `build_envelopes` has returned or raised. -/
def storeEnvelopes (env : LocalEnv) (faults : BundleFaults) (workspaceId : String)
    (built : Except Raised (List RawSourceCanonicalInput)) : LocalMethod PUnit := do
  let envelopes ← Call.query fun _ => built
  let rows ← Call.query fun _ => envelopes.mapM (prepareEnvelope env workspaceId)
  requireDb
  raising (faults.envelope.map .databaseError)
  let s ← Call.get
  let stored ← Call.query fun _ => insertEnvelopes env s.envelopes rows
  Call.modify fun s => { s with envelopes := stored }

def putRawSourceBundle (env : LocalEnv) (faults : BundleFaults) (workspaceId contentType : String)
    (plaintext : List UInt8) (buildEnvelopes : String → Except Raised (List RawSourceCanonicalInput)) :
    LocalMethod String := do
  localScope workspaceId "source"
  let objectId ← putFile env faults workspaceId "source" contentType plaintext
  rescue Raised.isCaught Raised.ofBundle (removeObject faults workspaceId "source" objectId)
    (storeEnvelopes env faults workspaceId (buildEnvelopes objectId))
  return objectId

/-! ## Storing and removing a file -/

namespace FileFaults

def Stores (f : FileFaults) : Prop := f.write = none ∧ f.insert = false

/-- The file is left although its row is not stored. -/
def Leaves (f : FileFaults) : Prop :=
  f.unlink = true ∧ (f.write = some true ∨ f.write = none ∧ f.insert = true)

end FileFaults

/-- The removal of a stored object works. -/
def BundleFaults.Removes (faults : BundleFaults) : Prop := faults.removal = none ∧ faults.unlink = false

/-- `uuid4` has drawn an id that neither an object nor a file has. -/
def LocalStore.Fresh (s : LocalStore) (objectId : String) : Prop :=
  (∀ object ∈ s.objects, object.objectId ≠ objectId ∧ object.blobName ≠ objectId ++ ".bin") ∧
    ∀ file ∈ s.files, file.name ≠ objectId ++ ".bin"

/-- `_put_file` gets as far as writing the file. -/
structure WritesFile (faults : BundleFaults) (s : LocalStore) (workspaceId area contentType : String)
    (plaintext : List UInt8) : Prop where
  scope : isWorkspaceId workspaceId = true ∧ localAreas.contains area = true
  content : isContent contentType plaintext = true
  unlocked : s.unlocked = true
  prepared : faults.file.prepare = none

def LocalStore.withFile (s : LocalStore) (file : BlobFile) : LocalStore := { s with files := s.files ++ [file] }

def LocalStore.withObject (s : LocalStore) (object : ObjectRow) (file : BlobFile) : LocalStore :=
  { s with objects := s.objects ++ [object], files := s.files ++ [file] }

section Files

variable {env : LocalEnv} {faults : BundleFaults} {s : LocalStore} {workspaceId area contentType : String}
  {plaintext : List UInt8} {α : Type}

theorem writeFile_eq (hfresh : s.Fresh faults.objectId) :
    s.writeFile (objectFile env faults workspaceId area plaintext) =
      s.withFile (objectFile env faults workspaceId area plaintext) := by
  unfold LocalStore.writeFile LocalStore.withFile
  rw [List.filter_eq_self.2]
  intro file hfile
  simpa [objectFile] using Or.inr (Or.inr (hfresh.2 file hfile))

theorem withFile_ne (s : LocalStore) (file : BlobFile) : s.withFile file ≠ s := by
  intro h
  have hlength := congrArg (fun s : LocalStore => s.files.length) h
  simp [LocalStore.withFile] at hlength

theorem deleteFile_withFile (hfresh : s.Fresh faults.objectId) :
    (s.withFile (objectFile env faults workspaceId area plaintext)).deleteFile workspaceId area
      (faults.objectId ++ ".bin") = s := by
  unfold LocalStore.deleteFile LocalStore.withFile
  have hkept : (s.files.filter fun other => ¬(other.workspaceId = workspaceId ∧ other.area = area ∧
      other.name = faults.objectId ++ ".bin")) = s.files := by
    refine List.filter_eq_self.2 fun file hfile => ?_
    simpa using Or.inr (Or.inr (hfresh.2 file hfile))
  rw [List.filter_append, hkept]
  simp [objectFile]

theorem deleteFile_fresh (hfresh : s.Fresh faults.objectId) :
    s.deleteFile workspaceId area (faults.objectId ++ ".bin") = s := by
  unfold LocalStore.deleteFile
  rw [List.filter_eq_self.2]
  intro file hfile
  simpa using Or.inr (Or.inr (hfresh.2 file hfile))

theorem failFile_eq (t : LocalStore) : failFile faults workspaceId area t =
    (.error (.storage "LOCAL_WRITE_FAILED"), if faults.file.unlink then t else
      t.deleteFile workspaceId area (faults.objectId ++ ".bin")) := by
  unfold failFile unlinkFile
  cases faults.file.unlink <;> rfl

theorem insertRow_cases (hfresh : s.Fresh faults.objectId) {x : LocalMethod String}
    (hx : x s = insertRow faults (objectRow env faults workspaceId area contentType plaintext)
      (s.writeFile (objectFile env faults workspaceId area plaintext))) :
    ((faults.file.insert ≠ false ∧ ¬(faults.file.unlink = true ∧ faults.file.insert = true)) ∧
        ∃ e, x s = (.error e, s)) ∨
      ((faults.file.unlink = true ∧ faults.file.insert = true) ∧
        ∃ e, x s = (.error e, s.withFile (objectFile env faults workspaceId area plaintext))) ∨
      (faults.file.insert = false ∧ x s = (.ok faults.objectId,
        s.withObject (objectRow env faults workspaceId area contentType plaintext)
          (objectFile env faults workspaceId area plaintext))) := by
  rw [hx, writeFile_eq hfresh, insertRow, Call.get_bind]
  by_cases hinsert : faults.file.insert = false
  · refine Or.inr (Or.inr ⟨hinsert, ?_⟩)
    rw [if_pos ⟨hinsert, hfresh.1⟩]
    rfl
  · rw [if_neg fun h => hinsert h.1]
    have hinsert' : faults.file.insert = true := by simpa using hinsert
    cases hunlink : faults.file.unlink with
    | true =>
      refine Or.inr (Or.inl ⟨⟨rfl, hinsert'⟩, .storage "LOCAL_WRITE_FAILED", (failFile_eq _).trans ?_⟩)
      rw [hunlink]
      rfl
    | false =>
      refine Or.inl ⟨⟨hinsert, fun h => Bool.noConfusion h.1⟩, .storage "LOCAL_WRITE_FAILED",
        (failFile_eq _).trans ?_⟩
      rw [hunlink]
      exact congrArg _ (deleteFile_withFile hfresh)

theorem putFile_cases (env : LocalEnv) (workspaceId area contentType : String) (plaintext : List UInt8)
    (hfresh : s.Fresh faults.objectId) :
    ((WritesFile faults s workspaceId area contentType plaintext →
          ¬faults.file.Stores ∧ ¬faults.file.Leaves) ∧
        ∃ e, putFile env faults workspaceId area contentType plaintext s = (.error e, s)) ∨
      (WritesFile faults s workspaceId area contentType plaintext ∧ faults.file.Leaves ∧
        ∃ e, putFile env faults workspaceId area contentType plaintext s =
          (.error e, s.withFile (objectFile env faults workspaceId area plaintext))) ∨
      (WritesFile faults s workspaceId area contentType plaintext ∧ faults.file.Stores ∧
        putFile env faults workspaceId area contentType plaintext s = (.ok faults.objectId,
          s.withObject (objectRow env faults workspaceId area contentType plaintext)
            (objectFile env faults workspaceId area plaintext))) := by
  by_cases hscope : isWorkspaceId workspaceId = true ∧ localAreas.contains area = true
  swap
  · exact Or.inl ⟨fun h => absurd h.scope hscope, _, Call.bind_of_error (Call.ensure_of_not hscope) _⟩
  by_cases hcontent : isContent contentType plaintext = true
  swap
  · refine Or.inl ⟨fun h => absurd h.content hcontent, .storage "LOCAL_CONTENT_TYPE_INVALID", ?_⟩
    rw [putFile, localScope, Call.ensure_bind hscope, Call.bind_of_error (Call.ensure_of_not hcontent)]
  cases hunlocked : s.unlocked with
  | false =>
    refine Or.inl ⟨fun h => ?_, .storage "LOCAL_KEY_UNAVAILABLE", ?_⟩
    · cases hunlocked.symm.trans h.unlocked
    · rw [putFile, localScope, Call.ensure_bind hscope, Call.ensure_bind hcontent]
      refine Call.bind_of_error ?_ _
      rw [requireDb, Call.query, hunlocked]
      rfl
  | true =>
    have hdb : requireDb s = (.ok ⟨⟩, s) := by
      rw [requireDb, Call.query, hunlocked]
      rfl
    rcases hprepare : faults.file.prepare with _ | e
    swap
    · refine Or.inl ⟨fun h => ?_, e, ?_⟩
      · cases hprepare.symm.trans h.prepared
      · rw [putFile, localScope, Call.ensure_bind hscope, Call.ensure_bind hcontent, Call.bind_of_ok hdb,
          hprepare]
        rfl
    have hwrites : WritesFile faults s workspaceId area contentType plaintext :=
      ⟨hscope, hcontent, hunlocked, hprepare⟩
    have hput : putFile env faults workspaceId area contentType plaintext s =
        match faults.file.write with
        | some false => failFile faults workspaceId area s
        | some true =>
          failFile faults workspaceId area (s.writeFile (objectFile env faults workspaceId area plaintext))
        | none => insertRow faults (objectRow env faults workspaceId area contentType plaintext)
          (s.writeFile (objectFile env faults workspaceId area plaintext)) := by
      rw [putFile, localScope, Call.ensure_bind hscope, Call.ensure_bind hcontent, Call.bind_of_ok hdb,
        hprepare]
      rcases faults.file.write with _ | _ | _ <;> rfl
    rcases hwrite : faults.file.write with _ | _ | _ <;> rw [hwrite] at hput
    · refine (insertRow_cases hfresh hput).imp (fun h => ?_) (Or.imp (fun h => ?_) fun h => ?_)
      · refine ⟨fun _ => ⟨fun hstores => h.1.1 hstores.2, fun hleaves => ?_⟩, h.2⟩
        rcases hleaves.2 with hleft | ⟨-, hinsert⟩
        · cases hwrite.symm.trans hleft
        · exact h.1.2 ⟨hleaves.1, hinsert⟩
      · exact ⟨hwrites, ⟨h.1.1, Or.inr ⟨hwrite, h.1.2⟩⟩, h.2⟩
      · exact ⟨hwrites, ⟨hwrite, h.1⟩, h.2⟩
    · replace hput := hput.trans (failFile_eq s)
      rw [deleteFile_fresh hfresh, ite_self] at hput
      refine Or.inl ⟨fun _ => ⟨fun h => ?_, fun h => ?_⟩, _, hput⟩
      · cases hwrite.symm.trans h.1
      · rcases h.2 with h | h
        · cases hwrite.symm.trans h
        · cases hwrite.symm.trans h.1
    · replace hput := hput.trans (failFile_eq _)
      rw [writeFile_eq hfresh] at hput
      cases hunlink : faults.file.unlink <;> rw [hunlink] at hput
      · rw [if_neg Bool.false_ne_true, deleteFile_withFile hfresh] at hput
        refine Or.inl ⟨fun _ => ⟨fun h => ?_, fun h => ?_⟩, _, hput⟩
        · cases hwrite.symm.trans h.1
        · cases hunlink.symm.trans h.1
      · exact Or.inr (Or.inl ⟨hwrites, ⟨hunlink, Or.inl hwrite⟩, _, hput⟩)

end Files

/-- The call has added what `Added` says, or it has raised and left the store as it was. -/
def AllOrNothing {α : Type} (s : LocalStore) (Added : α → LocalStore → Prop) (outcome : Except Raised α)
    (s' : LocalStore) : Prop :=
  match outcome with
  | .ok a => Added a s'
  | .error _ => s' = s

section Removal

variable {env : LocalEnv} {faults : BundleFaults} {s : LocalStore} {workspaceId area contentType : String}
  {plaintext : List UInt8} {α : Type}

theorem withObject_ne (s : LocalStore) (object : ObjectRow) (file : BlobFile) : s.withObject object file ≠ s := by
  intro h
  have hlength := congrArg (fun s : LocalStore => s.objects.length) h
  simp [LocalStore.withObject] at hlength

theorem deleteObject_withObject (hfresh : s.Fresh faults.objectId) :
    (s.withObject (objectRow env faults workspaceId area contentType plaintext)
        (objectFile env faults workspaceId area plaintext)).deleteObject workspaceId area faults.objectId =
      s.withFile (objectFile env faults workspaceId area plaintext) := by
  unfold LocalStore.deleteObject LocalStore.withObject LocalStore.withFile
  have hkept : (s.objects.filter fun object => ¬(object.workspaceId = workspaceId ∧ object.area = area ∧
      object.objectId = faults.objectId)) = s.objects := by
    refine List.filter_eq_self.2 fun object hobject => ?_
    simpa using Or.inr (Or.inr (hfresh.1 object hobject).1)
  rw [List.filter_append, hkept]
  simp [objectRow]

theorem find?_withObject (hfresh : s.Fresh faults.objectId) :
    ((s.withObject (objectRow env faults workspaceId area contentType plaintext)
      (objectFile env faults workspaceId area plaintext)).objects.find? fun object =>
        object.workspaceId = workspaceId ∧ object.area = area ∧ object.objectId = faults.objectId) =
      some (objectRow env faults workspaceId area contentType plaintext) := by
  unfold LocalStore.withObject
  rw [List.find?_append, List.find?_eq_none.2]
  · simp [objectRow]
  · intro object hobject
    simpa using fun _ _ => (hfresh.1 object hobject).1

theorem removeObject_withObject (env : LocalEnv) (contentType : String) (plaintext : List UInt8)
    (hfresh : s.Fresh faults.objectId) (hunlocked : s.unlocked = true) :
    (faults.Removes ∧ removeObject faults workspaceId area faults.objectId
        (s.withObject (objectRow env faults workspaceId area contentType plaintext)
          (objectFile env faults workspaceId area plaintext)) = (.ok ⟨⟩, s)) ∨
      (¬faults.Removes ∧ (removeObject faults workspaceId area faults.objectId
        (s.withObject (objectRow env faults workspaceId area contentType plaintext)
          (objectFile env faults workspaceId area plaintext))).2 ≠ s) := by
  have hdb : requireDb (s.withObject (objectRow env faults workspaceId area contentType plaintext)
      (objectFile env faults workspaceId area plaintext)) =
      (.ok ⟨⟩, s.withObject (objectRow env faults workspaceId area contentType plaintext)
        (objectFile env faults workspaceId area plaintext)) := by
    rw [requireDb, Call.query]
    change (if s.unlocked then _ else _, _) = _
    rw [if_pos hunlocked]
  rw [removeObject, Call.bind_of_ok hdb, Call.get_bind]
  cases hremoval : faults.removal with
  | some name =>
    refine Or.inr ⟨fun h => ?_, withObject_ne s _ _⟩
    cases hremoval.symm.trans h.1
  | none =>
    have hdelete : ∀ x : LocalMethod PUnit, (do
        raising (Option.map Raised.databaseError none)
        Call.modify fun s => s.deleteObject workspaceId area faults.objectId
        x) (s.withObject (objectRow env faults workspaceId area contentType plaintext)
          (objectFile env faults workspaceId area plaintext)) =
          x (s.withFile (objectFile env faults workspaceId area plaintext)) := by
      intro x
      change x (LocalStore.deleteObject (s.withObject _ _) workspaceId area faults.objectId) = _
      rw [deleteObject_withObject hfresh]
    rw [hdelete, find?_withObject hfresh]
    cases hunlink : faults.unlink with
    | false =>
      refine Or.inl ⟨⟨hremoval, hunlink⟩, ?_⟩
      exact congrArg _ (deleteFile_withFile hfresh)
    | true =>
      refine Or.inr ⟨fun h => ?_, withFile_ne s _⟩
      cases hunlink.symm.trans h.2

/-- A rescued call that adds nothing by itself is all or nothing exactly when it succeeds, or raises
something that is caught and the removal works. -/
theorem rescue_atomic_iff {caught : Raised → Bool} {reraised : Raised → Raised} {x : LocalMethod PUnit}
    {a : α} {Added : α → LocalStore → Prop} {t : LocalStore}
    (ht : t = s.withObject (objectRow env faults workspaceId area contentType plaintext)
      (objectFile env faults workspaceId area plaintext))
    (hfresh : s.Fresh faults.objectId) (hunlocked : s.unlocked = true)
    (hx : (∃ e, x t = (.error e, t)) ∨ ∃ s', x t = (.ok ⟨⟩, s') ∧ Added a s') :
    Call.Post (do
        rescue caught reraised (removeObject faults workspaceId area faults.objectId) x
        return a : LocalMethod α) t (AllOrNothing s Added) ↔
      ∀ e, (x t).1 = .error e → caught e = true ∧ faults.Removes := by
  have hne : t ≠ s := by
    rw [ht]
    exact withObject_ne s _ _
  rcases hx with ⟨e, hx⟩ | ⟨s', hx, hadded⟩
  · have hall : (∀ e', (x t).1 = .error e' → caught e' = true ∧ faults.Removes) ↔
        caught e = true ∧ faults.Removes := by
      rw [hx]
      constructor
      · exact fun h => h e rfl
      · rintro h e' heq
        rw [← Except.error.inj heq]
        exact h
    rw [hall]
    -- what is left is what the handler leaves, if it runs
    have hleft : ∃ e', (do
        rescue caught reraised (removeObject faults workspaceId area faults.objectId) x
        return a : LocalMethod α) t = (.error e', if caught e then
          (removeObject faults workspaceId area faults.objectId t).2 else t) := by
      by_cases hcaught : caught e = true
      · rcases hr : removeObject faults workspaceId area faults.objectId t with ⟨e' | _, u⟩
        · refine ⟨e', Call.bind_of_error ?_ _⟩
          simp only [rescue, hx, hcaught, if_true, hr]
        · refine ⟨reraised e, Call.bind_of_error ?_ _⟩
          simp only [rescue, hx, hcaught, if_true, hr]
      · refine ⟨e, Call.bind_of_error ?_ _⟩
        simp only [rescue, hx, if_neg hcaught]
    obtain ⟨e', hleft⟩ := hleft
    rw [Call.Post, hleft]
    change (if caught e = true then _ else t) = s ↔ _
    by_cases hcaught : caught e = true
    · rw [if_pos hcaught, and_iff_right hcaught, ht]
      rcases removeObject_withObject env contentType plaintext hfresh hunlocked with
        ⟨hremoves, hremoved⟩ | ⟨hremoves, hleft⟩
      · rw [hremoved]
        exact iff_of_true rfl hremoves
      · exact iff_of_false hleft hremoves
    · rw [if_neg hcaught]
      exact iff_of_false hne fun h => hcaught h.1
  · refine iff_of_true ?_ fun e he => ?_
    · rw [Call.Post, Call.bind_of_ok (show rescue caught reraised _ x t = (.ok ⟨⟩, s') from ?_)]
      · exact hadded
      · simp only [rescue, hx]
    · rw [hx] at he
      cases he

end Removal

/-! ## Imports -/

/-- The envelope of an import is stored, or raises a `LocalStorageError` and the object is removed. -/
def EnvelopeSafe (env : LocalEnv) (faults : BundleFaults) (a : EnvelopeInput) (encoded : String)
    (rows : List EnvelopeRow) : Prop :=
  (a.Valid env → a.schemaVersion < 2 ^ 63 ∧ faults.envelope = none) ∧
    (¬(a.Valid env ∧ (a.row encoded).Admitted env rows) → faults.Removes)

section Imports

variable {env : LocalEnv} {faults : BundleFaults} {s t : LocalStore} {a : EnvelopeInput} {encoded : String}

structure FirstVersion (env : LocalEnv) (a : EnvelopeInput) (encoded : String) : Prop where
  scope : isWorkspaceId a.workspaceId = true ∧ localAreas.contains a.area = true
  version : a.version = 1
  previous : a.previousVersionId = none
  payload : canonicalPayload env a.payload = .ok encoded
  digest : env.textDigest encoded = a.digestSha256

theorem putFirst_cases (ha : FirstVersion env a encoded) (hunlocked : t.unlocked = true)
    (fault : Option String) :
    ((a.Valid env ∧ a.schemaVersion < 2 ^ 63 ∧ fault = none ∧ (a.row encoded).Admitted env t.envelopes) ∧
        putCanonicalEnvelope env (fault.map .databaseError) a t =
          (.ok ⟨⟩, { t with envelopes := t.envelopes ++ [a.row encoded] })) ∨
      ((a.Valid env → (a.schemaVersion < 2 ^ 63 ∧ fault = none) ∧
          ¬(a.row encoded).Admitted env t.envelopes) ∧
        ∃ code, putCanonicalEnvelope env (fault.map .databaseError) a t = (.error (.storage code), t)) ∨
      ((a.Valid env ∧ ¬(a.schemaVersion < 2 ^ 63 ∧ fault = none)) ∧
        ∃ e, e.isStorage = false ∧
          putCanonicalEnvelope env (fault.map .databaseError) a t = (.error e, t)) := by
  rw [putCanonicalEnvelope, localScope, Call.ensure_bind ha.scope]
  by_cases hvalid : a.Valid env
  swap
  · exact Or.inr (Or.inl ⟨fun h => absurd h hvalid, _, Call.bind_of_error (Call.ensure_of_not hvalid) _⟩)
  have hfirst : a.version = 1 ↔ a.previousVersionId = none := iff_of_true ha.version ha.previous
  have hdb : requireDb t = (.ok ⟨⟩, t) := by
    rw [requireDb, Call.query, if_pos hunlocked]
  have hfollows : a.Follows t.envelopes := by
    intro previous hprevious
    rw [ha.previous] at hprevious
    cases hprevious
  have hpayload : (Call.query fun _ => canonicalPayload env a.payload : LocalMethod String) t =
      (.ok encoded, t) := by
    rw [Call.query, ha.payload]
  rw [Call.ensure_bind hvalid, Call.ensure_bind hfirst, Call.bind_of_ok hpayload,
    Call.ensure_bind ha.digest, Call.bind_of_ok hdb, Call.get_bind, Call.ensure_bind hfollows]
  by_cases hsmall : a.schemaVersion < 2 ^ 63
  swap
  · refine Or.inr (Or.inr ⟨⟨hvalid, fun h => hsmall h.1⟩, .other "OverflowError", rfl, ?_⟩)
    exact Call.bind_of_error (Call.ensure_of_not fun h => hsmall h.2) _
  have hversion : a.version < 2 ^ 63 := by
    rw [ha.version]
    decide
  rw [Call.ensure_bind ⟨hversion, hsmall⟩]
  cases fault with
  | some name =>
    refine Or.inr (Or.inr ⟨⟨hvalid, fun h => ?_⟩, .databaseError name, rfl, rfl⟩)
    cases h.2
  | none =>
    by_cases hadmitted : (a.row encoded).Admitted env t.envelopes
    · refine Or.inl ⟨⟨hvalid, hsmall, rfl, hadmitted⟩, ?_⟩
      change (Call.ensure _ _ >>= fun _ => Call.modify _) t = _
      rw [Call.ensure_bind hadmitted]
      rfl
    · refine Or.inr (Or.inl ⟨fun _ => ⟨⟨hsmall, rfl⟩, hadmitted⟩, "LOCAL_CANON_IMMUTABLE", ?_⟩)
      change (Call.ensure _ _ >>= fun _ => Call.modify _) t = _
      exact Call.bind_of_error (Call.ensure_of_not hadmitted) _

theorem envelopeSafe_iff (ha : FirstVersion env a encoded) (hunlocked : t.unlocked = true) :
    (∀ e, (putCanonicalEnvelope env (faults.envelope.map .databaseError) a t).1 = .error e →
        e.isStorage = true ∧ faults.Removes) ↔ EnvelopeSafe env faults a encoded t.envelopes := by
  rcases putFirst_cases ha hunlocked faults.envelope with
    ⟨⟨hvalid, hsmall, hnone, hadmitted⟩, hput⟩ | ⟨hrefused, code, hput⟩ | ⟨⟨hvalid, hraises⟩, e, he, hput⟩ <;>
    rw [hput]
  · refine iff_of_true (fun e h => by cases h) ⟨fun _ => ⟨hsmall, hnone⟩, fun h => ?_⟩
    exact absurd ⟨hvalid, hadmitted⟩ h
  · constructor
    · intro h
      exact ⟨fun hvalid => (hrefused hvalid).1, fun _ => (h _ rfl).2⟩
    · rintro ⟨-, hremoves⟩ e he
      rw [← Except.error.inj he]
      exact ⟨rfl, hremoves fun h => (hrefused h.1).2 h.2⟩
  · refine iff_of_false (fun h => ?_) fun h => hraises (h.1 hvalid)
    cases he.symm.trans (h e rfl).1

end Imports

/-- The import passes its checks, and there is neither a copy with its key nor one with its id. -/
structure ImportsNew (env : LocalEnv) (faults : BundleFaults) (a : KnowledgeImport) (s : LocalStore)
    (fields : CopyFields) : Prop where
  checked : copyFields env a = .ok fields
  absent : ∃ existing, (listCanonicalEnvelopes env faults.listing fields.workspaceId "artifact"
      "ScopeSnapshot" s).1 = .ok existing ∧ priorCopies a existing = [] ∧
    ∀ item ∈ existing, item.aggregateId ≠ fields.copyId

/-- A new import that gets as far as its file stores it, leaves no file without a row, and then stores the
envelope or removes the object. -/
def ImportSafe (env : LocalEnv) (faults : BundleFaults) (a : KnowledgeImport) (s : LocalStore) : Prop :=
  ∀ fields, ImportsNew env faults a s fields →
    WritesFile faults s fields.workspaceId "artifact" "application/vnd.daon.knowledge-package+json"
      a.canonicalPackage →
    ¬faults.file.Leaves ∧ (faults.file.Stores →
      ∃ encoded, canonicalPayload env (a.payload faults.objectId) = .ok encoded ∧
        EnvelopeSafe env faults (a.envelope env fields faults.createdAt faults.objectId encoded) encoded
          s.envelopes)

structure BundleAdded (s : LocalStore) (objectId : String) (rows : List EnvelopeRow) (s' : LocalStore)
    (object : ObjectRow) (file : BlobFile) : Prop where
  store : s' = { s.withObject object file with envelopes := s.envelopes ++ rows }
  objectId : object.objectId = objectId
  blob : file.name = object.blobName ∧ file.workspaceId = object.workspaceId ∧ file.area = object.area

/-- What an import that returns has added: nothing, if a copy with its key was there; otherwise an object
and an envelope of version 1 that refers to it. -/
def CopyAdded (env : LocalEnv) (faults : BundleFaults) (a : KnowledgeImport) (s : LocalStore)
    (copy : LocalKnowledgeCopy) (s' : LocalStore) : Prop :=
  (s' = s ∧ ∃ fields existing, copyFields env a = .ok fields ∧
      (listCanonicalEnvelopes env faults.listing fields.workspaceId "artifact" "ScopeSnapshot" s).1 =
        .ok existing ∧ priorCopies a existing ≠ []) ∨
    ∃ object file row, BundleAdded s copy.objectId [row] s' object file ∧
      row.entityType = "ScopeSnapshot" ∧ row.version = 1 ∧ row.aggregateId = copy.copyId ∧
      row.workspaceId = object.workspaceId ∧ row.area = object.area ∧
      canonicalPayload env (a.payload copy.objectId) = .ok row.payloadJson

section ImportIff

variable {env : LocalEnv} {faults : BundleFaults} {s : LocalStore} {a : KnowledgeImport} {fields : CopyFields}

theorem of_check {c : Prop} [Decidable c] {e : Raised} {u : PUnit} (h : check c e = .ok u) : c := by
  by_contra hc
  rw [check, if_neg hc] at h
  cases h

theorem workspaceId_of_copyFields (h : copyFields env a = .ok fields) :
    isWorkspaceId fields.workspaceId = true := by
  simp only [copyFields, Call.bind_eq_ok] at h
  obtain ⟨workspaceId, -, copyId, -, packageId, -, contentDigest, -, -, -, schemaVersion, -, h⟩ := h
  obtain ⟨expiresAt, -, effectiveAt, -, registrationState, -, reviewState, -, authority, -, h⟩ := h
  obtain ⟨-, -, -, -, _, hscope, -, -, -, -, digest, -, -, -, hfields⟩ := h
  rw [← Except.ok.inj hfields]
  exact of_check hscope

theorem importStored_iff (hfields : copyFields env a = .ok fields) (hfresh : s.Fresh faults.objectId)
    (hunlocked : s.unlocked = true) {t : LocalStore}
    (ht : t = s.withObject (objectRow env faults fields.workspaceId "artifact"
        "application/vnd.daon.knowledge-package+json" a.canonicalPackage)
      (objectFile env faults fields.workspaceId "artifact" a.canonicalPackage)) :
    Call.Post (do
        let encoded ← Call.query fun _ => canonicalPayload env (a.payload faults.objectId)
        rescue Raised.isStorage id (removeObject faults fields.workspaceId "artifact" faults.objectId)
          (putCanonicalEnvelope env (faults.envelope.map .databaseError)
            (a.envelope env fields faults.createdAt faults.objectId encoded))
        return ⟨fields.copyId, fields.packageId, faults.objectId, fields.contentDigest, a.manifestDigest,
          "approved", 1⟩ : LocalMethod LocalKnowledgeCopy) t (AllOrNothing s (CopyAdded env faults a s)) ↔
      ∃ encoded, canonicalPayload env (a.payload faults.objectId) = .ok encoded ∧
        EnvelopeSafe env faults (a.envelope env fields faults.createdAt faults.objectId encoded) encoded
          s.envelopes := by
  cases hpayload : canonicalPayload env (a.payload faults.objectId) with
  | error e =>
    refine iff_of_false (fun h => ?_) fun ⟨_, h, _⟩ => by cases h
    rw [Call.Post, Call.bind_of_error (show Call.query _ t = (.error e, t) by rw [Call.query])] at h
    refine withObject_ne s _ _ (ht.symm.trans h)
  | ok encoded =>
    have hfirst : FirstVersion env (a.envelope env fields faults.createdAt faults.objectId encoded) encoded :=
      ⟨⟨workspaceId_of_copyFields hfields, show localAreas.contains "artifact" = true by decide⟩, rfl, rfl,
        hpayload, rfl⟩
    have hlocked : t.unlocked = true := by
      rw [ht]
      exact hunlocked
    have henvelopes : t.envelopes = s.envelopes := by
      rw [ht]
      rfl
    rw [Call.Post, Call.bind_of_ok (show Call.query _ t = (.ok encoded, t) by rw [Call.query])]
    refine (rescue_atomic_iff ht hfresh hunlocked ?_).trans ((envelopeSafe_iff hfirst hlocked).trans ?_)
    · rcases putFirst_cases hfirst hlocked faults.envelope with
        ⟨-, hput⟩ | ⟨-, code, hput⟩ | ⟨-, e, -, hput⟩
      · refine Or.inr ⟨_, hput, Or.inr ⟨objectRow env faults fields.workspaceId "artifact"
          "application/vnd.daon.knowledge-package+json" a.canonicalPackage,
          objectFile env faults fields.workspaceId "artifact" a.canonicalPackage,
          (a.envelope env fields faults.createdAt faults.objectId encoded).row encoded, ⟨?_, rfl, rfl, rfl, rfl⟩, rfl, rfl, rfl, rfl, rfl, hpayload⟩⟩
        rw [henvelopes, ht]
      · exact Or.inl ⟨_, hput⟩
      · exact Or.inl ⟨e, hput⟩
    · rw [henvelopes]
      constructor
      · exact fun h => ⟨encoded, rfl, h⟩
      · rintro ⟨encoded', heq, h⟩
        rwa [Except.ok.inj heq]

theorem listCanonicalEnvelopes_state {fault : Option Raised} {workspaceId area entityType : String}
    {outcome : Except Raised (List LocalCanonicalEnvelope)} {t : LocalStore}
    (h : listCanonicalEnvelopes env fault workspaceId area entityType s = (outcome, t)) : t = s := by
  have hpost : Call.Post (listCanonicalEnvelopes env fault workspaceId area entityType) s
      fun _ s' => s' = s := by
    refine Call.post_ensure (fun _ => rfl) fun _ => ?_
    refine Call.post_ensure (fun _ => rfl) fun _ => ?_
    refine Call.post_query (fun _ _ => rfl) fun _ _ => ?_
    cases fault with
    | none => rfl
    | some e => rfl
  rw [Call.Post, h] at hpost
  exact hpost

theorem importNew_iff (hfields : copyFields env a = .ok fields) (hfresh : s.Fresh faults.objectId) :
    Call.Post (importNew env faults a fields) s (AllOrNothing s (CopyAdded env faults a s)) ↔
      (WritesFile faults s fields.workspaceId "artifact" "application/vnd.daon.knowledge-package+json"
          a.canonicalPackage →
        ¬faults.file.Leaves ∧ (faults.file.Stores →
          ∃ encoded, canonicalPayload env (a.payload faults.objectId) = .ok encoded ∧
            EnvelopeSafe env faults (a.envelope env fields faults.createdAt faults.objectId encoded) encoded
              s.envelopes)) := by
  rcases putFile_cases env fields.workspaceId "artifact" "application/vnd.daon.knowledge-package+json"
    a.canonicalPackage hfresh with
    ⟨hnot, e, hput⟩ | ⟨hwrites, hleaves, e, hput⟩ | ⟨hwrites, hstores, hput⟩
  · refine iff_of_true ?_ fun h => ⟨(hnot h).2, fun hs => absurd hs (hnot h).1⟩
    rw [Call.Post, importNew, Call.bind_of_error hput]
    rfl
  · refine iff_of_false (fun h => ?_) fun h => (h hwrites).1 hleaves
    rw [Call.Post, importNew, Call.bind_of_error hput] at h
    exact withFile_ne s _ h
  · have hleaves : ¬faults.file.Leaves := by
      rintro ⟨-, hleft | hleft⟩
      · cases hstores.1.symm.trans hleft
      · cases hstores.2.symm.trans hleft.2
    rw [Call.Post, importNew, Call.bind_of_ok hput]
    refine (importStored_iff hfields hfresh hwrites.unlocked rfl).trans ?_
    exact ⟨fun h _ => ⟨hleaves, fun _ => h⟩, fun h => (h hwrites).2 hstores⟩

theorem import_iff (hfresh : s.Fresh faults.objectId) :
    Call.Post (importKnowledgeCopy env faults a) s (AllOrNothing s (CopyAdded env faults a s)) ↔
      ImportSafe env faults a s := by
  cases hfields : copyFields env a with
  | error e =>
    refine iff_of_true ?_ fun fields h => ?_
    · rw [Call.Post, importKnowledgeCopy,
        Call.bind_of_error (show Call.query _ s = (.error e, s) by rw [Call.query, hfields])]
      rfl
    · cases hfields.symm.trans h.checked
  | ok fields =>
    have hchecked : ∀ {fields'}, ImportsNew env faults a s fields' → fields' = fields :=
      fun h => Except.ok.inj (h.checked.symm.trans hfields)
    have hquery : (Call.query fun _ => copyFields env a : LocalMethod CopyFields) s = (.ok fields, s) := by
      rw [Call.query, hfields]
    rw [Call.Post, importKnowledgeCopy, Call.bind_of_ok hquery]
    rcases hlist : listCanonicalEnvelopes env faults.listing fields.workspaceId "artifact" "ScopeSnapshot" s with
      ⟨e | existing, t⟩
    all_goals
      have ht : t = s := listCanonicalEnvelopes_state hlist
      subst ht
    · rw [Call.bind_of_error hlist]
      refine iff_of_true rfl fun fields' h => ?_
      obtain rfl := hchecked h
      obtain ⟨existing, hexisting, -⟩ := h.absent
      rw [hlist] at hexisting
      cases hexisting
    · rw [Call.bind_of_ok hlist]
      cases hprior : (priorCopies a existing).getLast? with
      | some prior =>
        have hne : priorCopies a existing ≠ [] := by
          intro h
          rw [h] at hprior
          cases hprior
        refine iff_of_true ?_ fun fields' h => ?_
        · change AllOrNothing t (CopyAdded env faults a t) (replayedCopy env a fields prior) t
          cases replayedCopy env a fields prior with
          | error e => rfl
          | ok copy => exact Or.inl ⟨rfl, fields, existing, hfields, by rw [hlist], hne⟩
        · obtain rfl := hchecked h
          obtain ⟨existing', hexisting, hnone, -⟩ := h.absent
          rw [hlist] at hexisting
          rw [Except.ok.inj hexisting] at hne
          exact absurd hnone hne
      | none =>
        have hnone : priorCopies a existing = [] := List.getLast?_eq_none_iff.1 hprior
        by_cases habsent : ∀ item ∈ existing, item.aggregateId ≠ fields.copyId
        · have hnew : ImportsNew env faults a t fields :=
            ⟨hfields, existing, by rw [hlist], hnone, habsent⟩
          change Call.Post (Call.ensure _ _ >>= fun _ => importNew env faults a fields) t
            (AllOrNothing t (CopyAdded env faults a t)) ↔ _
          rw [Call.Post, Call.ensure_bind habsent]
          refine (importNew_iff hfields hfresh).trans ⟨fun h fields' hnew' => ?_, fun h => h fields hnew⟩
          obtain rfl := hchecked hnew'
          exact h
        · refine iff_of_true ?_ fun fields' h => ?_
          · change Call.Post (Call.ensure _ _ >>= fun _ => importNew env faults a fields) t
              (AllOrNothing t (CopyAdded env faults a t))
            rw [Call.Post, Call.bind_of_error (Call.ensure_of_not habsent)]
            rfl
          · obtain rfl := hchecked h
            obtain ⟨existing', hexisting, -, habsent'⟩ := h.absent
            rw [hlist] at hexisting
            rw [Except.ok.inj hexisting] at habsent
            exact absurd habsent' habsent

end ImportIff

/-! ## Bundles -/

section Payloads

variable {env : LocalEnv}

mutual

theorem visit_storage : ∀ {v : PyValue} {e : Raised}, visit env v = .error e → e.isStorage = true
  | .none, _, h => by cases h
  | .bool _, _, h => by cases h
  | .int _, _, h => by cases h
  | .float _, _, h => by cases h
  | .str _, _, h => by cases h
  | .list _, _, h => visitValues_storage h
  | .dict _, _, h => visitEntries_storage h
  | .other _, _, h => by
    cases h
    rfl

theorem visitEntries_storage : ∀ {entries : List (Option String × PyValue)} {e : Raised},
    visitEntries env entries = .error e → e.isStorage = true
  | [], _, h => by cases h
  | (key, child) :: rest, e, h => by
    rw [visitEntries] at h
    split at h
    · rcases hchild : visit env child with e' | _
      · rw [hchild] at h
        cases h
        exact visit_storage hchild
      · rw [hchild] at h
        exact visitEntries_storage h
    · cases h
      rfl

theorem visitValues_storage : ∀ {values : List PyValue} {e : Raised},
    visitValues env values = .error e → e.isStorage = true
  | [], _, h => by cases h
  | child :: rest, e, h => by
    rw [visitValues] at h
    rcases hchild : visit env child with e' | _
    · rw [hchild] at h
      cases h
      exact visit_storage hchild
    · rw [hchild] at h
      exact visitValues_storage h

end

theorem canonicalPayload_storage {payload : PyValue} {e : Raised}
    (h : canonicalPayload env payload = .error e) : e.isStorage = true := by
  cases payload with
  | dict entries =>
    rw [canonicalPayload] at h
    rcases hvisit : visitEntries env entries with e' | _
    · rw [hvisit] at h
      cases h
      exact visitEntries_storage hvisit
    · rw [hvisit] at h
      dsimp only [bind, Except.bind] at h
      rcases hdumps : env.dumps (.dict entries) with _ | encoded
      · rw [hdumps] at h
        cases h
        rfl
      · rw [hdumps] at h
        cases h
  | none | bool | int | float | str | list | other =>
    cases h
    rfl

theorem prepareEnvelope_storage {workspaceId : String} {input : RawSourceCanonicalInput} {e : Raised}
    (h : prepareEnvelope env workspaceId input = .error e) : e.isStorage = true := by
  unfold prepareEnvelope check at h
  split at h
  · rcases hpayload : canonicalPayload env input.payload with e' | encoded
    · rw [hpayload] at h
      cases h
      exact canonicalPayload_storage hpayload
    · rw [hpayload] at h
      cases h
  · cases h
    rfl

theorem mapM_prepare_storage {workspaceId : String} {inputs : List RawSourceCanonicalInput} {e : Raised}
    (h : inputs.mapM (prepareEnvelope env workspaceId) = .error e) : e.isStorage = true := by
  induction inputs with
  | nil => cases h
  | cons input inputs ih =>
    rw [List.mapM_cons] at h
    rcases hinput : prepareEnvelope env workspaceId input with e' | row
    · rw [hinput] at h
      cases h
      exact prepareEnvelope_storage hinput
    · rw [hinput] at h
      rcases hinputs : inputs.mapM (prepareEnvelope env workspaceId) with e' | rows
      · rw [hinputs] at h
        cases h
        exact ih hinputs
      · rw [hinputs] at h
        cases h

theorem insertEnvelopes_eq {rows new stored : List EnvelopeRow} (h : insertEnvelopes env rows new = .ok stored) :
    stored = rows ++ new := by
  induction new generalizing rows with
  | nil => rw [← Except.ok.inj h, List.append_nil]
  | cons row new ih =>
    rw [insertEnvelopes] at h
    split at h
    · rw [ih h, List.append_assoc]
      rfl
    · cases h

theorem insertEnvelopes_integrity {rows new : List EnvelopeRow} {e : Raised}
    (h : insertEnvelopes env rows new = .error e) : e = .integrityError := by
  induction new generalizing rows with
  | nil => cases h
  | cons row new ih =>
    rw [insertEnvelopes] at h
    split at h
    · exact ih h
    · cases h
      rfl

end Payloads

theorem Raised.isCaught_of_isStorage {e : Raised} (h : e.isStorage = true) : e.isCaught = true := by
  cases e <;> first | rfl | cases h

def StoresBundle (env : LocalEnv) (faults : BundleFaults) (workspaceId : String)
    (built : Except Raised (List RawSourceCanonicalInput)) (rows : List EnvelopeRow) : Prop :=
  faults.envelope = none ∧ ∃ envelopes new stored, built = .ok envelopes ∧
    envelopes.mapM (prepareEnvelope env workspaceId) = .ok new ∧ insertEnvelopes env rows new = .ok stored

/-- A bundle that gets as far as its file stores it, leaves no file without a row, and then stores its
envelopes or removes the object; its callback raises nothing that is not caught. -/
def BundleSafe (env : LocalEnv) (faults : BundleFaults) (workspaceId contentType : String)
    (plaintext : List UInt8) (buildEnvelopes : String → Except Raised (List RawSourceCanonicalInput))
    (s : LocalStore) : Prop :=
  WritesFile faults s workspaceId "source" contentType plaintext →
    ¬faults.file.Leaves ∧ (faults.file.Stores →
      (∀ e, buildEnvelopes faults.objectId = .error e → e.isCaught = true) ∧
        (StoresBundle env faults workspaceId (buildEnvelopes faults.objectId) s.envelopes ∨ faults.Removes))

def RawAdded (env : LocalEnv) (workspaceId : String)
    (buildEnvelopes : String → Except Raised (List RawSourceCanonicalInput)) (s : LocalStore)
    (objectId : String) (s' : LocalStore) : Prop :=
  ∃ object file envelopes rows, BundleAdded s objectId rows s' object file ∧
    buildEnvelopes objectId = .ok envelopes ∧ envelopes.mapM (prepareEnvelope env workspaceId) = .ok rows

section Bundles

variable {env : LocalEnv} {faults : BundleFaults} {s t : LocalStore} {workspaceId contentType : String}
  {plaintext : List UInt8} {built : Except Raised (List RawSourceCanonicalInput)}
  {buildEnvelopes : String → Except Raised (List RawSourceCanonicalInput)}

theorem storeEnvelopes_cases (env : LocalEnv) (faults : BundleFaults) (workspaceId : String)
    (built : Except Raised (List RawSourceCanonicalInput)) (hunlocked : t.unlocked = true) :
    (StoresBundle env faults workspaceId built t.envelopes ∧ ∃ envelopes rows, built = .ok envelopes ∧
        envelopes.mapM (prepareEnvelope env workspaceId) = .ok rows ∧
        storeEnvelopes env faults workspaceId built t =
          (.ok ⟨⟩, { t with envelopes := t.envelopes ++ rows })) ∨
      (¬StoresBundle env faults workspaceId built t.envelopes ∧ ∃ e,
        storeEnvelopes env faults workspaceId built t = (.error e, t) ∧
          (built = .error e ∨ (∀ e', built ≠ .error e') ∧ e.isCaught = true)) := by
  rcases built with e | envelopes
  · refine Or.inr ⟨fun h => ?_, e, rfl, Or.inl rfl⟩
    obtain ⟨-, envelopes, -, -, h, -⟩ := h
    cases h
  have hbuilt : ∀ e' : Raised, (.ok envelopes : Except Raised (List RawSourceCanonicalInput)) ≠ .error e' :=
    fun _ h => by cases h
  have hquery : ∀ {α : Type} {x : Except Raised α} {a : α}, x = .ok a →
      (Call.query fun _ => x : LocalMethod α) t = (.ok a, t) := by
    intro α x a h
    rw [Call.query, h]
  rcases hrows : envelopes.mapM (prepareEnvelope env workspaceId) with e | rows
  · refine Or.inr ⟨fun h => ?_, e, ?_, Or.inr ⟨hbuilt, ?_⟩⟩
    · obtain ⟨-, envelopes', rows, -, heq, h, -⟩ := h
      rw [← Except.ok.inj heq, hrows] at h
      cases h
    · rw [storeEnvelopes, Call.bind_of_ok (hquery rfl)]
      refine Call.bind_of_error ?_ _
      rw [Call.query, hrows]
    · exact Raised.isCaught_of_isStorage (mapM_prepare_storage hrows)
  have hdb : requireDb t = (.ok ⟨⟩, t) := by
    rw [requireDb, Call.query, if_pos hunlocked]
  rw [storeEnvelopes, Call.bind_of_ok (hquery rfl), Call.bind_of_ok (hquery hrows), Call.bind_of_ok hdb]
  rcases hfault : faults.envelope with _ | name
  swap
  · refine Or.inr ⟨fun h => ?_, .databaseError name, rfl, Or.inr ⟨hbuilt, rfl⟩⟩
    cases hfault.symm.trans h.1
  rcases hstored : insertEnvelopes env t.envelopes rows with e | stored
  · refine Or.inr ⟨fun h => ?_, e, ?_, Or.inr ⟨hbuilt, ?_⟩⟩
    · obtain ⟨-, envelopes', rows', stored, heq, hrows', h⟩ := h
      rw [← Except.ok.inj heq, hrows] at hrows'
      rw [← Except.ok.inj hrows', hstored] at h
      cases h
    · change (Call.query (fun _ => insertEnvelopes env t.envelopes rows) >>= fun stored =>
        Call.modify fun s => { s with envelopes := stored }) t = _
      refine Call.bind_of_error ?_ _
      rw [Call.query, hstored]
    · rw [insertEnvelopes_integrity hstored]
      rfl
  · refine Or.inl ⟨⟨hfault, envelopes, rows, stored, rfl, hrows, hstored⟩, envelopes, rows, rfl, hrows, ?_⟩
    change (Call.query (fun _ => insertEnvelopes env t.envelopes rows) >>= fun stored =>
      Call.modify fun s => { s with envelopes := stored }) t = _
    rw [Call.bind_of_ok (hquery hstored), insertEnvelopes_eq hstored]
    rfl

theorem bundle_iff (hfresh : s.Fresh faults.objectId) :
    Call.Post (putRawSourceBundle env faults workspaceId contentType plaintext buildEnvelopes) s
        (AllOrNothing s (RawAdded env workspaceId buildEnvelopes s)) ↔
      BundleSafe env faults workspaceId contentType plaintext buildEnvelopes s := by
  by_cases hscope : isWorkspaceId workspaceId = true ∧ localAreas.contains "source" = true
  swap
  · refine iff_of_true ?_ fun h => absurd h.scope hscope
    rw [Call.Post, putRawSourceBundle, localScope, Call.bind_of_error (Call.ensure_of_not hscope)]
    rfl
  rw [Call.Post, putRawSourceBundle, localScope, Call.ensure_bind hscope]
  rcases putFile_cases env workspaceId "source" contentType plaintext hfresh with
    ⟨hnot, e, hput⟩ | ⟨hwrites, hleaves, e, hput⟩ | ⟨hwrites, hstores, hput⟩
  · rw [Call.bind_of_error hput]
    exact iff_of_true rfl fun h => ⟨(hnot h).2, fun hs => absurd hs (hnot h).1⟩
  · rw [Call.bind_of_error hput]
    exact iff_of_false (withFile_ne s _) fun h => (h hwrites).1 hleaves
  · have hleaves : ¬faults.file.Leaves := by
      rintro ⟨-, hleft | hleft⟩
      · cases hstores.1.symm.trans hleft
      · cases hstores.2.symm.trans hleft.2
    have hsafe : BundleSafe env faults workspaceId contentType plaintext buildEnvelopes s ↔
        (∀ e, buildEnvelopes faults.objectId = .error e → e.isCaught = true) ∧
          (StoresBundle env faults workspaceId (buildEnvelopes faults.objectId) s.envelopes ∨
            faults.Removes) :=
      ⟨fun h => (h hwrites).2 hstores, fun h _ => ⟨hleaves, fun _ => h⟩⟩
    rw [Call.bind_of_ok hput, hsafe]
    rcases storeEnvelopes_cases env faults workspaceId (buildEnvelopes faults.objectId)
      (t := s.withObject _ _) hwrites.unlocked with
      ⟨hbundle, envelopes, rows, hbuilt, hrows, hstored⟩ | ⟨hbundle, e, hraised, hreason⟩
    · refine (rescue_atomic_iff rfl hfresh hwrites.unlocked (Or.inr ⟨_, hstored, ?_⟩)).trans ?_
      · exact ⟨_, _, envelopes, rows, ⟨rfl, rfl, rfl, rfl, rfl⟩, hbuilt, hrows⟩
      · rw [hstored]
        refine iff_of_true (fun e h => by cases h) ⟨fun e h => ?_, Or.inl hbundle⟩
        cases hbuilt.symm.trans h
    · refine (rescue_atomic_iff rfl hfresh hwrites.unlocked (Or.inl ⟨e, hraised⟩)).trans ?_
      rw [hraised]
      constructor
      · intro h
        obtain ⟨hcaught, hremoves⟩ := h e rfl
        refine ⟨fun e' he' => ?_, Or.inr hremoves⟩
        rcases hreason with hbuilt | ⟨hbuilt, -⟩
        · rw [← Except.error.inj (hbuilt.symm.trans he')]
          exact hcaught
        · exact absurd he' (hbuilt e')
      · rintro ⟨hcallback, hremoves⟩ e' he'
        obtain rfl := Except.error.inj he'
        refine ⟨?_, hremoves.resolve_left hbundle⟩
        rcases hreason with hbuilt | ⟨-, hcaught⟩
        · exact hcallback _ hbuilt
        · exact hcaught

def dumpsFlat : PyValue → Option String
  | .dict entries =>
    let member (e : Option String × PyValue) : String := "\"" ++ e.1.getD "" ++ "\":" ++ match e.2 with
      | .str s => "\"" ++ s ++ "\""
      | .int n => toString n
      | _ => "null"
    some ("\x7b" ++ ",".intercalate ((entries.insertionSort fun e e' =>
      e.1.getD "" ≤ e'.1.getD "").map member) ++ "\x7d")
  | _ => none

/-- The primitives on the inputs of `sampleImport`. -/
def sampleEnv : LocalEnv where
  lower := id
  digit := Char.isDigit
  sha256 := fun _ => [0x44, 0x13, 0x6f, 0xa3, 0x55, 0xb3, 0x67, 0x8a, 0x11, 0x46, 0xad, 0x16, 0xf7, 0xe8, 0x64,
      0x9e, 0x94, 0xfb, 0x4f, 0xc2, 0x1f, 0xe7, 0x7e, 0x83, 0x10, 0xc0, 0x60, 0xf6, 0x1c, 0xaa,
      0xff, 0x8a]
  hexdigest bytes :=
    if bytes.length = 2 then "44136fa355b3678a1146ad16f7e8649e94fb4fc21fe77e8310c060f61caaff8a"
    else if bytes.length = 501 then "36ee1648ed29aca749c6a7b6e0644b695572b45f7b59d86f79053434462ea9b1"
    else "94609b0a3da09342a712c54084e350e2e9df64ad2b08abdcb9b93818c593726a"
  dumps := dumpsFlat
  loads bytes := if bytes = [0x7b, 0x7d] then some (.dict []) else none
  fromIsoformat s :=
    if s = "2026-01-01T00:00:00Z" then some 1767225600000000
    else if s = "2027-01-01T00:00:00Z" then some 1798761600000000
    else none
  text := fun _ => ""
  jsonValid := fun _ => true
  encrypt := fun _ plaintext => plaintext

def sampleImport : KnowledgeImport where
  manifest := .ofList
    [("workspace_id", .str "00000000-0000-4000-8000-000000000000"), ("copy_id", .str "copy"),
      ("package_id", .str "package"), ("producer_product", .str "daon"), ("producer_version", .str "1"),
      ("knowledge_registration_id", .str "registration"), ("output_version_id", .str "output"),
      ("authority", .str "approved"), ("registration_state", .str "registered"),
      ("review_state", .str "approved"), ("effective_at", .str "2026-01-01T00:00:00Z"),
      ("expires_at", .str "2027-01-01T00:00:00Z"), ("schema_version", .int (2 ^ 63)),
      ("content_digest_sha256",
        .str "44136fa355b3678a1146ad16f7e8649e94fb4fc21fe77e8310c060f61caaff8a")]
  manifestDigest := "36ee1648ed29aca749c6a7b6e0644b695572b45f7b59d86f79053434462ea9b1"
  canonicalPackage := [0x7b, 0x7d]
  idempotencyKey := "key"

def sampleFaults : BundleFaults where
  objectId := "00000000-0000-4000-8000-000000000001"
  now := "2026-06-01T00:00:00Z"
  createdAt := "2026-06-01T00:00:00Z"

end Bundles

end DaonUser.LocalStorage
