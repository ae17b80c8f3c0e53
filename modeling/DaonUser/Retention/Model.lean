import DaonUser.Base
import DaonUser.Lib.Call
import DaonUser.Lib.Dict
import DaonUser.Lib.Machine
import Mathlib.Data.List.Sort

/-!
# Retention: deletion requests and legal holds

`RetentionService` over one `ReferenceRetentionRepository`. A call holds the repository's lock from its
first read to its last write, so the calls of a run are atomic. The readings of the clock, the answers of
the cleanup port and the inventory of the provider in a call are its `Env`.
-/

namespace DaonUser.Retention

open Lib

structure RetentionError where
  code : String
  status : Nat := 409
  retryable : Bool := false
  deriving DecidableEq

/-- `RetentionContext`, whose construction checks its ids. -/
structure RetentionContext where
  tenantId : String
  workspaceId : String
  actorId : String
  traceId : String
  policyVersion : String
  organizationAdmin : Bool := false
  safe : ∀ v ∈ [tenantId, workspaceId, actorId, traceId, policyVersion], isSafeId v = true
  deriving DecidableEq

/-- The members of `_KINDS`. -/
inductive Kind where
  | originalContent
  | index
  | preview
  | cache
  | knownLocalCopy
  | syncReference
  deriving DecidableEq

namespace Kind

/-- `_KINDS`. -/
def all : List Kind := [originalContent, index, preview, cache, knownLocalCopy, syncReference]

def text : Kind → String
  | originalContent => "original_content"
  | index => "index"
  | preview => "preview"
  | cache => "cache"
  | knownLocalCopy => "known_local_copy"
  | syncReference => "sync_reference"

end Kind

/-- What a derivative's `disposition` may be. -/
inductive Disposition where
  | present
  | notPresent
  | notApplicable
  | verificationPending
  deriving DecidableEq

namespace Disposition

def text : Disposition → String
  | present => "present"
  | notPresent => "not_present"
  | notApplicable => "not_applicable"
  | verificationPending => "verification_pending"

end Disposition

/-- `DerivativeInput`, whose construction checks its reference and its acknowledgement flag. -/
structure DerivativeInput where
  kind : Kind
  referenceId : String
  acknowledgementRequired : Bool := false
  disposition : Disposition := .present
  safe : isSafeId referenceId = true
  acknowledged : acknowledgementRequired = decide (kind = .knownLocalCopy)
  deriving DecidableEq

namespace DerivativeInput

/-- `str` of the derivative, which `json.dumps` falls back to. -/
def text (d : DerivativeInput) : String :=
  "DerivativeInput(kind='" ++ d.kind.text ++ "', reference_id='" ++ d.referenceId ++
    "', acknowledgement_required=" ++ (if d.acknowledgementRequired then "True" else "False") ++
    ", disposition='" ++ d.disposition.text ++ "')"

end DerivativeInput

inductive ItemState where
  | pending
  | awaitingAck
  | completed
  | failed
  deriving DecidableEq

structure CleanupItem where
  value : DerivativeInput
  state : ItemState := .pending
  attempts : Nat := 0
  evidence : Option String := none
  deriving DecidableEq

inductive RequestState where
  | gracePeriod
  | blockedByHold
  | cleanupPending
  | cancelled
  | purged
  deriving DecidableEq

structure DeletionRequest where
  requestId : String
  context : RetentionContext
  sourceId : String
  requestedAt : Int
  graceUntil : Int
  inventory : Dict String CleanupItem
  state : RequestState := .gracePeriod
  version : Nat := 1
  sourceActive : Bool := false
  purgeStarted : Bool := false

inductive HoldState where
  | active
  | released
  deriving DecidableEq

structure LegalHold where
  holdId : String
  context : RetentionContext
  sourceId : String
  state : HoldState := .active
  version : Nat := 1
  deriving DecidableEq

/-- An entry of `attempts`: request, reference, kind, attempt number and item state. -/
structure CleanupAttempt where
  requestId : String
  referenceId : String
  kind : Kind
  attempts : Nat
  state : ItemState
  deriving DecidableEq

structure AuditEvent where
  requestId : String
  actorId : String
  action : String
  target : String
  timestamp : Int
  policyVersion : String
  traceId : String
  previousHash : String
  eventHash : String
  deriving DecidableEq

/-- `ReferenceRetentionRepository`. -/
structure Repository where
  requests : Dict String DeletionRequest
  sourceRequests : Dict (String × String × String) String
  sourceScopes : Dict (String × String) String
  holds : Dict String LegalHold
  idempotency : Dict (String × String × String) (String × String)
  attempts : List CleanupAttempt
  audit : List AuditEvent

/-- One call of the cleanup port: its arguments, and the moment at which `purge` made it. -/
structure Invocation where
  context : RetentionContext
  item : DerivativeInput
  requestId : String
  stepUpVerified : Bool
  /-- The clock reading that `purge` compared with the end of the grace period. -/
  reading : Int
  /-- The repository when the port was called. -/
  moment : Repository

/-- The repository, the number of tokens drawn and the calls of the cleanup port so far. -/
structure System where
  repository : Repository
  drawn : Nat
  invocations : List Invocation

structure CleanupItemView where
  kind : Kind
  referenceId : String
  state : ItemState
  attemptCount : Nat
  evidence : Option String
  deriving DecidableEq

structure DeletionRequestView where
  requestId : String
  tenantId : String
  workspaceId : String
  sourceId : String
  state : RequestState
  version : Nat
  requestedAt : Int
  graceUntil : Int
  sourceActive : Bool
  cleanupItems : List CleanupItemView
  completedReferences : List String
  sourceVersionMutations : Nat := 0
  deriving DecidableEq

structure LegalHoldView where
  holdId : String
  tenantId : String
  workspaceId : String
  sourceId : String
  state : HoldState
  version : Nat
  deriving DecidableEq

/-- What a `RetentionService` is built with, and the digest and tokens it draws on. -/
structure Service where
  gracePeriod : Int := 2592000000000
  fixturePrefix : String := "fixture-"

/-- `_fingerprint` and `secrets.token_hex`. -/
structure Primitives where
  fingerprint : Dumped → String
  tokens : TokenSource

structure Env where
  /-- The successive readings of the clock. -/
  clock : Nat → Int
  /-- The successive answers of the cleanup port. -/
  cleanup : Nat → Bool
  /-- The answer of the inventory provider, when the service has one. -/
  provided : Option (List DerivativeInput)

abbrev Op (α : Type) := Call System RetentionError α

variable (prim : Primitives)

/-! ## Reads -/

namespace Repository

def request (r : Repository) (context : RetentionContext) (requestId : String) :
    Except RetentionError DeletionRequest :=
  match r.requests.get? requestId with
  | none => .error { code := "DELETION_REQUEST_UNAVAILABLE", status := 404 }
  | some request =>
    if request.context.tenantId ≠ context.tenantId ∨
        request.context.workspaceId ≠ context.workspaceId then
      .error { code := "DELETION_REQUEST_UNAVAILABLE", status := 404 }
    else .ok request

def hold (r : Repository) (context : RetentionContext) (holdId : String) :
    Except RetentionError LegalHold :=
  match r.holds.get? holdId with
  | none => .error { code := "LEGAL_HOLD_UNAVAILABLE", status := 404 }
  | some hold =>
    if hold.context.tenantId ≠ context.tenantId ∨
        hold.context.workspaceId ≠ context.workspaceId then
      .error { code := "LEGAL_HOLD_UNAVAILABLE", status := 404 }
    else .ok hold

def activeHoldsOn (r : Repository) (tenantId workspaceId sourceId : String) : List LegalHold :=
  r.holds.values.filter fun hold =>
    hold.context.tenantId = tenantId ∧ hold.context.workspaceId = workspaceId ∧
      hold.sourceId = sourceId ∧ hold.state = .active

def activeHolds (r : Repository) (request : DeletionRequest) : List LegalHold :=
  r.activeHoldsOn request.context.tenantId request.context.workspaceId request.sourceId

/-- The request that the source index names, read as `_request` reads it. -/
def requestOfSource (r : Repository) (context : RetentionContext) (sourceId : String) :
    Except RetentionError (Option DeletionRequest) :=
  match r.sourceRequests.get? (context.tenantId, context.workspaceId, sourceId) with
  | none => .ok none
  | some requestId => (r.request context requestId).map some

def replay (r : Repository) (key : String × String × String) (fingerprint : String) :
    Except RetentionError (Option String) :=
  match r.idempotency.get? key with
  | none => .ok none
  | some recorded =>
    if recorded.1 ≠ fingerprint then .error { code := "IDEMPOTENCY_KEY_REUSED" }
    else .ok (some recorded.2)

end Repository

def view (request : DeletionRequest) : DeletionRequestView :=
  let sorted := request.inventory.values.insertionSort
    fun a b => a.value.referenceId ≤ b.value.referenceId
  let items := sorted.map fun item =>
    { kind := item.value.kind, referenceId := item.value.referenceId, state := item.state,
      attemptCount := item.attempts, evidence := item.evidence : CleanupItemView }
  { requestId := request.requestId, tenantId := request.context.tenantId,
    workspaceId := request.context.workspaceId, sourceId := request.sourceId,
    state := request.state, version := request.version, requestedAt := request.requestedAt,
    graceUntil := request.graceUntil, sourceActive := request.sourceActive,
    cleanupItems := items,
    completedReferences :=
      (items.filter fun item => item.state = .completed).map (·.referenceId) }

def holdView (hold : LegalHold) : LegalHoldView where
  holdId := hold.holdId
  tenantId := hold.context.tenantId
  workspaceId := hold.context.workspaceId
  sourceId := hold.sourceId
  state := hold.state
  version := hold.version

/-! ## Checks -/

def safe (value : String) : Op PUnit :=
  Call.ensure (isSafeId value) { code := "RETENTION_INPUT_INVALID", status := 400 }

def write (key : String) (expectedVersion : ExpectedVersion) : Op PUnit := do
  safe key
  Call.ensure expectedVersion.wellFormed { code := "IF_MATCH_INVALID", status := 400 }

def requireSensitive (context : RetentionContext) (verified : Bool) : Op PUnit := do
  Call.ensure context.organizationAdmin { code := "CURRENT_ACCESS_DENIED", status := 403 }
  Call.ensure verified { code := "STEP_UP_REQUIRED", status := 403 }

/-- `request.version != expected_version` raises. -/
def requireVersion (version : Nat) (expectedVersion : ExpectedVersion) : Op PUnit :=
  Call.ensure (expectedVersion = .version version) { code := "RETENTION_VERSION_CONFLICT" }

/-! ## Writes -/

def System.mapRepository (f : Repository → Repository) (s : System) : System :=
  { s with repository := f s.repository }

namespace Repository

def setRequest (r : Repository) (request : DeletionRequest) : Repository :=
  { r with requests := r.requests.set request.requestId request }

def setHold (r : Repository) (hold : LegalHold) : Repository :=
  { r with holds := r.holds.set hold.holdId hold }

def record (r : Repository) (key : String × String × String) (fingerprint result : String) :
    Repository :=
  { r with idempotency := r.idempotency.set key (fingerprint, result) }

def minimalEvent (e : AuditEvent) : Dumped :=
  .dict [("request_id", .str e.requestId), ("actor_id", .str e.actorId),
    ("action", .str e.action), ("target", .str e.target), ("timestamp", .moment e.timestamp),
    ("policy_version", .str e.policyVersion), ("trace_id", .str e.traceId),
    ("previous_hash", .str e.previousHash)]

/-- `_audit`, at a clock reading. -/
def appendAudit (r : Repository) (request : DeletionRequest) (action : String) (reading : Int) :
    Repository :=
  let previous := match r.audit.getLast? with
    | none => String.ofList (List.replicate 64 '0')
    | some last => last.eventHash
  let minimal : AuditEvent :=
    { requestId := request.requestId, actorId := request.context.actorId, action,
      target := request.sourceId, timestamp := reading,
      policyVersion := request.context.policyVersion, traceId := request.context.traceId,
      previousHash := previous, eventHash := "" }
  { r with audit := r.audit ++ [{ minimal with eventHash := prim.fingerprint (minimalEvent minimal) }] }

end Repository

end DaonUser.Retention
