import DaonUser.LocalStorage.SyncQueue
import DaonUser.Lib.Dict
import DaonUser.Lib.Utf8

/-!
# Local storage: canonical envelopes

The rows of `local_objects` and `canonical_envelopes`, the blob files, and the methods of
`LocalEncryptedStore` that check a payload, append an envelope and list envelopes. A payload is a Python
value; what `json.dumps` and `json.loads` make of it is a parameter, as are the hash functions.
-/

namespace DaonUser.LocalStorage

open Lib

/-! ## Values -/

/-- A value that Python code hands over. A key of a mapping may be something else than a text. -/
inductive PyValue where
  | none
  | bool (b : Bool)
  | int (n : Int)
  | float (text : String)
  | str (s : String)
  | list (values : List PyValue)
  | dict (entries : List (Option String × PyValue))
  | other (kind : String)

/-- What a method raises: a `LocalStorageError`, an exception of the driver, or another one. -/
inductive Raised where
  | storage (code : String)
  | integrityError
  | databaseError (name : String)
  | valueError
  | typeError
  | other (name : String)
  deriving DecidableEq

/-- The primitives of the methods: Unicode lower case, what `\d` matches, SHA-256 as digest and as
hexadecimal text, `json.dumps` with sorted keys, `json.loads`, `datetime.fromisoformat` in microseconds,
`str`, `json_valid` of SQLite, and the encrypted file for a context and a plaintext. -/
structure LocalEnv where
  lower : String → String
  digit : Char → Bool
  sha256 : List UInt8 → List UInt8
  hexdigest : List UInt8 → String
  dumps : PyValue → Option String
  loads : List UInt8 → Option PyValue
  fromIsoformat : String → Option Int
  text : PyValue → String
  jsonValid : String → Bool
  encrypt : String → List UInt8 → List UInt8

namespace LocalEnv

def textDigest (env : LocalEnv) (s : String) : String := env.hexdigest s.toUTF8.toList

end LocalEnv

def canonEntityTypes : List String :=
  ["Source", "SourceVersion", "ProcessingRun", "Run", "RunSnapshot", "RunResult", "IndexVersion",
    "EvidenceSpan", "Citation", "StudioOutput", "OutputVersion", "PendingOperationReference",
    "GenerationRequest", "GenerationSettingsSnapshot", "ScopeSnapshot", "ProviderSettingsSnapshot"]

def canonForbiddenFields : List String :=
  ["organization_policy", "approval", "approval_request", "provider_secret", "provider_credential",
    "secret", "secret_reference", "cloud_access_token"]

/-- A key that `visit` lets pass. -/
def isCanonField (env : LocalEnv) : Option String → Bool
  | none => false
  | some key => !canonForbiddenFields.contains (env.lower key)

mutual

/-- `visit` of `_canonical_payload`. -/
def visit (env : LocalEnv) : PyValue → Except Raised PUnit
  | .dict entries => visitEntries env entries
  | .list values => visitValues env values
  | .other _ => .error (.storage "LOCAL_CANON_SNAPSHOT_INVALID")
  | _ => .ok ⟨⟩

def visitEntries (env : LocalEnv) : List (Option String × PyValue) → Except Raised PUnit
  | [] => .ok ⟨⟩
  | (key, child) :: rest =>
    if isCanonField env key then do
      visit env child
      visitEntries env rest
    else .error (.storage "LOCAL_CANON_FIELD_FORBIDDEN")

def visitValues (env : LocalEnv) : List PyValue → Except Raised PUnit
  | [] => .ok ⟨⟩
  | child :: rest => do
    visit env child
    visitValues env rest

end

def canonicalPayload (env : LocalEnv) (payload : PyValue) : Except Raised String :=
  match payload with
  | .dict entries => do
    visitEntries env entries
    match env.dumps (.dict entries) with
    | none => .error (.storage "LOCAL_CANON_SNAPSHOT_INVALID")
    | some encoded => .ok encoded
  | _ => .error (.storage "LOCAL_CANON_SNAPSHOT_INVALID")

/-! ## The store -/

/-- A row of `local_objects`. -/
structure ObjectRow where
  objectId : String
  workspaceId : String
  area : String
  keyVersion : Nat
  digest : List UInt8
  plainSize : Nat
  blobName : String
  contentType : String
  objectVersion : String
  createdAt : String
  updatedAt : String
  status : String
  deriving DecidableEq

/-- A row of `canonical_envelopes`; its `data_area` is always `local_private`. -/
structure EnvelopeRow where
  workspaceId : String
  area : String
  entityType : String
  entityId : String
  aggregateId : String
  version : Int
  schemaVersion : Int
  digestSha256 : String
  createdAt : String
  previousVersionId : Option String
  payloadJson : String
  deriving DecidableEq

structure BlobFile where
  workspaceId : String
  area : String
  name : String
  payload : List UInt8
  deriving DecidableEq

structure LocalStore where
  objects : List ObjectRow
  envelopes : List EnvelopeRow
  files : List BlobFile
  unlocked : Bool
  deriving DecidableEq

abbrev LocalMethod (α : Type) := Call LocalStore Raised α

/-- `_db`. -/
def requireDb : LocalMethod PUnit :=
  Call.query fun s => if s.unlocked then .ok ⟨⟩ else .error (.storage "LOCAL_KEY_UNAVAILABLE")

def raising (fault : Option Raised) : LocalMethod PUnit :=
  match fault with
  | none => pure ⟨⟩
  | some e => Call.raise e

/-- `_AREAS`. -/
def localAreas : List String := ["source", "artifact", "cache", "index"]

/-- `_scope`. -/
def localScope (workspaceId area : String) : LocalMethod PUnit :=
  Call.ensure (isWorkspaceId workspaceId = true ∧ localAreas.contains area = true)
    (.storage "LOCAL_SCOPE_INVALID")

/-! ## Appending -/

namespace EnvelopeRow

/-- Two rows have the same primary key or the same unique one. -/
def Clashes (row other : EnvelopeRow) : Prop :=
  (row.workspaceId = other.workspaceId ∧ row.area = other.area ∧ row.entityType = other.entityType) ∧
    (row.entityId = other.entityId ∨ row.aggregateId = other.aggregateId ∧ row.version = other.version)

instance (row other : EnvelopeRow) : Decidable (row.Clashes other) :=
  inferInstanceAs (Decidable (_ ∧ _))

/-- The keys and checks of `canonical_envelopes`. -/
def Admitted (env : LocalEnv) (rows : List EnvelopeRow) (row : EnvelopeRow) : Prop :=
  (∀ other ∈ rows, ¬row.Clashes other) ∧ 0 < row.version ∧ 0 < row.schemaVersion ∧
    row.digestSha256.length = 64 ∧ env.jsonValid row.payloadJson = true

instance (env : LocalEnv) (rows : List EnvelopeRow) (row : EnvelopeRow) :
    Decidable (row.Admitted env rows) :=
  inferInstanceAs (Decidable (_ ∧ _))

end EnvelopeRow

/-- The arguments of `put_canonical_envelope`. -/
structure EnvelopeInput where
  workspaceId : String
  area : String
  entityType : String
  entityId : String
  aggregateId : String
  version : Int
  schemaVersion : Int
  digestSha256 : String
  createdAt : String
  previousVersionId : Option String
  payload : PyValue

namespace EnvelopeInput

def row (a : EnvelopeInput) (encoded : String) : EnvelopeRow :=
  ⟨a.workspaceId, a.area, a.entityType, a.entityId, a.aggregateId, a.version, a.schemaVersion,
    a.digestSha256, a.createdAt, a.previousVersionId, encoded⟩

/-- The checks of `put_canonical_envelope` on its arguments. -/
def Valid (env : LocalEnv) (a : EnvelopeInput) : Prop :=
  canonEntityTypes.contains a.entityType = true ∧ isCanonId a.entityId = true ∧
    isCanonId a.aggregateId = true ∧ 1 ≤ a.version ∧ 1 ≤ a.schemaVersion ∧
    isDigest a.digestSha256 = true ∧ isUtcTimestamp env.digit a.createdAt = true ∧
    ∀ previous ∈ a.previousVersionId, isCanonId previous = true

instance (env : LocalEnv) (a : EnvelopeInput) : Decidable (a.Valid env) :=
  inferInstanceAs (Decidable (_ ∧ _))

/-- The previous version that the arguments name, if any, is there. -/
def Follows (rows : List EnvelopeRow) (a : EnvelopeInput) : Prop :=
  ∀ previous ∈ a.previousVersionId, ∃ row ∈ rows, row.workspaceId = a.workspaceId ∧ row.area = a.area ∧
    row.entityType = a.entityType ∧ row.entityId = previous ∧ row.aggregateId = a.aggregateId ∧
    row.version = a.version - 1

instance (rows : List EnvelopeRow) (a : EnvelopeInput) : Decidable (a.Follows rows) :=
  inferInstanceAs (Decidable (∀ _ ∈ _, _))

end EnvelopeInput

/-- `put_canonical_envelope`; `fault` is what a statement raises besides an `IntegrityError`. -/
def putCanonicalEnvelope (env : LocalEnv) (fault : Option Raised) (a : EnvelopeInput) :
    LocalMethod PUnit := do
  localScope a.workspaceId a.area
  Call.ensure (a.Valid env) (.storage "LOCAL_CANON_SNAPSHOT_INVALID")
  Call.ensure (a.version = 1 ↔ a.previousVersionId = none)
    (.storage "LOCAL_CANON_PREVIOUS_VERSION_INVALID")
  let encoded ← Call.query fun _ => canonicalPayload env a.payload
  Call.ensure (env.textDigest encoded = a.digestSha256) (.storage "LOCAL_CANON_DIGEST_MISMATCH")
  requireDb
  let s ← Call.get
  Call.ensure (a.Follows s.envelopes) (.storage "LOCAL_CANON_PREVIOUS_VERSION_INVALID")
  -- a number that SQLite cannot hold
  Call.ensure (a.version < 2 ^ 63 ∧ a.schemaVersion < 2 ^ 63) (.other "OverflowError")
  raising fault
  Call.ensure ((a.row encoded).Admitted env s.envelopes) (.storage "LOCAL_CANON_IMMUTABLE")
  Call.modify fun s => { s with envelopes := s.envelopes ++ [a.row encoded] }

structure LocalCanonicalEnvelope where
  entityType : String
  entityId : String
  aggregateId : String
  version : Int
  schemaVersion : Int
  digestSha256 : String
  createdAt : String
  previousVersionId : Option String
  payload : List (Option String × PyValue)

namespace LocalCanonicalEnvelope

/-- `payload.get(key)`. -/
def get? (item : LocalCanonicalEnvelope) (key : String) : Option PyValue :=
  (item.payload.find? fun entry => entry.1 = some key).map (·.2)

end LocalCanonicalEnvelope

/-- A row with its payload read: `json.loads`, which answers for every text that SQLite admits. -/
def EnvelopeRow.read (env : LocalEnv) (row : EnvelopeRow) : Except Raised LocalCanonicalEnvelope :=
  match env.loads row.payloadJson.toUTF8.toList with
  | some (.dict payload) => .ok ⟨row.entityType, row.entityId, row.aggregateId, row.version,
      row.schemaVersion, row.digestSha256, row.createdAt, row.previousVersionId, payload⟩
  | some _ => .error (.storage "LOCAL_CIPHERTEXT_CORRUPT")
  | none => .error .valueError

def LocalStore.envelopesOf (env : LocalEnv) (s : LocalStore) (workspaceId area entityType : String) :
    Except Raised (List LocalCanonicalEnvelope) :=
  (s.envelopes.filter fun row =>
    row.workspaceId = workspaceId ∧ row.area = area ∧ row.entityType = entityType).mapM
      (EnvelopeRow.read env)

def listCanonicalEnvelopes (env : LocalEnv) (fault : Option Raised) (workspaceId area entityType : String) :
    LocalMethod (List LocalCanonicalEnvelope) := do
  localScope workspaceId area
  Call.ensure (canonEntityTypes.contains entityType = true) (.storage "LOCAL_CANON_SNAPSHOT_INVALID")
  requireDb
  raising fault
  Call.query fun s => s.envelopesOf env workspaceId area entityType

end DaonUser.LocalStorage
