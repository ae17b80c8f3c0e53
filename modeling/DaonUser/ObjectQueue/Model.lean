import DaonUser.Base
import DaonUser.Lib.Call
import DaonUser.Lib.Dict
import DaonUser.Lib.Machine
import Mathlib.Data.List.MinMax
import Mathlib.Data.Prod.Lex
import Mathlib.Data.String.Basic

/-!
# Object queue: tables and statements

The rows of `object_records`, `object_outbox_events`, `durable_jobs`, `job_attempts` and `audit_events` that
one scope owns, and the SQL statements of `PostgresObjectQueueStore` on them. Row-level security confines a
statement to the scope of its context, so the scope's columns are left out.

An `INSERT` that violates a constraint raises `DATABASE_CONSTRAINT_VIOLATION`, and the transaction is rolled
back.
-/

namespace DaonUser.ObjectQueue

open Lib

structure ObjectQueueError where
  code : String
  retryable : Bool := false
  deriving DecidableEq

structure CloudAccessContext where
  tenantId : String
  workspaceId : String
  actorId : String
  capability : String
  safe : ∀ v ∈ [tenantId, workspaceId, actorId, capability], isSafeId v = true
  deriving DecidableEq

/-! ## Rows -/

inductive ObjectStatus where
  | pending
  | completed
  | failed
  deriving DecidableEq

inductive OutboxStatus where
  | pending
  | dispatched
  | completed
  | failed
  deriving DecidableEq

inductive JobState where
  | pending
  | leased
  | retryWait
  | completed
  | deadLetter
  deriving DecidableEq

namespace JobState

def text : JobState → String
  | pending => "pending"
  | leased => "leased"
  | retryWait => "retry_wait"
  | completed => "completed"
  | deadLetter => "dead_letter"

end JobState

/-- A row of `object_records`. -/
structure ObjectRow where
  objectId : String
  area : String
  stagingKey : String
  objectKey : String
  digestSha256 : String
  byteSize : Int
  contentType : String
  status : ObjectStatus
  storageEtag : Option String := none
  storageVersionId : Option String := none
  createdBy : String
  traceId : String
  idempotencyKey : String
  requestFingerprint : String
  version : Nat := 1
  createdAt : Int
  completedAt : Option Int := none
  deriving DecidableEq

/-- A row of `object_outbox_events`; its payload is the object id under schema version 1. -/
structure OutboxRow where
  eventId : String
  objectId : String
  status : OutboxStatus
  traceId : String
  createdAt : Int
  completedAt : Option Int := none
  deriving DecidableEq

/-- A row of `durable_jobs`; its payload is the object id under schema version 1. -/
structure JobRow where
  jobId : String
  eventId : String
  objectId : String
  deduplicationKey : String
  state : JobState
  attempt : Nat := 0
  maxAttempts : Nat
  nextAttemptAt : Int
  leaseOwner : Option String := none
  leaseUntil : Option Int := none
  lastSafeErrorCode : Option String := none
  retryOfJobId : Option String := none
  createdBy : String
  traceId : String
  version : Nat := 1
  createdAt : Int
  completedAt : Option Int := none
  deriving DecidableEq

/-- A row of `job_attempts`; its outcome is the text of a job state. -/
structure AttemptRow where
  jobId : String
  attemptNumber : Nat
  workerId : String
  outcome : JobState
  safeErrorCode : Option String := none
  traceId : String
  startedAt : Int
  finishedAt : Int
  deriving DecidableEq

/-- A row of `audit_events`. -/
structure AuditRow where
  eventId : String
  actorId : String
  action : String
  targetType : String
  targetId : String
  outcome : String
  traceId : String
  metadata : List (String × String)
  deriving DecidableEq

structure Tables where
  objects : Dict String ObjectRow
  outbox : Dict String OutboxRow
  jobs : Dict String JobRow
  attempts : List AttemptRow
  audit : Dict String AuditRow

def Tables.empty : Tables where
  objects := Dict.empty
  outbox := Dict.empty
  jobs := Dict.empty
  attempts := []
  audit := Dict.empty

/-! ## Values -/

structure ObjectJob where
  jobId : String
  eventId : String
  objectId : String
  state : JobState
  attempt : Nat
  maxAttempts : Nat
  nextAttemptAt : Int
  leaseOwner : Option String
  leaseUntil : Option Int
  lastSafeErrorCode : Option String
  retryOfJobId : Option String
  traceId : String
  version : Nat
  createdAt : Int
  deriving DecidableEq

def jobFromRow (row : JobRow) : ObjectJob where
  jobId := row.jobId
  eventId := row.eventId
  objectId := row.objectId
  state := row.state
  attempt := row.attempt
  maxAttempts := row.maxAttempts
  nextAttemptAt := row.nextAttemptAt
  leaseOwner := row.leaseOwner
  leaseUntil := row.leaseUntil
  lastSafeErrorCode := row.lastSafeErrorCode
  retryOfJobId := row.retryOfJobId
  traceId := row.traceId
  version := row.version
  createdAt := row.createdAt

structure StagedObject where
  key : String
  digestSha256 : String
  byteSize : Int
  contentType : String
  etag : String
  versionId : Option String
  deriving DecidableEq

structure StoredObject where
  key : String
  digestSha256 : String
  byteSize : Int
  contentType : String
  etag : String
  versionId : Option String
  deriving DecidableEq

structure ObjectSubmission where
  objectId : String
  jobId : String
  eventId : String
  replayed : Bool
  deriving DecidableEq

/-- `_OPAQUE_ID.fullmatch`. -/
def isOpaqueId (s : String) : Bool :=
  s.toList.all (fun c => "0123456789abcdef".toList.contains c) && s.toList.length = 32

/-- `key.rsplit("/", 1)[-1]`. -/
def lastSegment (key : String) : String :=
  String.ofList (key.toList.reverse.takeWhile (· ≠ '/')).reverse

/-- The check that `validate_final` (empty prefix) and `validate_staging` make of a key. -/
def isKeyOf (pre : String) (context : CloudAccessContext) (area key : String) : Bool :=
  let objectId := lastSegment key
  key.toList.all (fun c => 32 ≤ c.toNat && c.toNat < 128) &&
    ["source", "output"].contains area && isOpaqueId objectId &&
    key = pre ++ context.tenantId ++ "/" ++ context.workspaceId ++ "/" ++ area ++ "/" ++ objectId

/-! ## Constraints -/

namespace Tables

variable (t : Tables)

/-- The keys and checks of `object_records`. -/
def AdmitsObject (row : ObjectRow) : Prop :=
  t.objects.get? row.objectId = none ∧
    (∀ other ∈ t.objects.values, other.objectKey ≠ row.objectKey) ∧
    (∀ other ∈ t.objects.values,
      ¬(other.createdBy = row.createdBy ∧ other.idempotencyKey = row.idempotencyKey)) ∧
    row.area ∈ ["source", "output"] ∧ isDigest row.digestSha256 = true ∧ 0 ≤ row.byteSize ∧
    1 ≤ row.contentType.length ∧ row.contentType.length ≤ 255

/-- The key and the foreign key of `object_outbox_events`. -/
def AdmitsOutbox (row : OutboxRow) : Prop :=
  t.outbox.get? row.eventId = none ∧ t.objects.get? row.objectId ≠ none

/-- The keys, foreign keys and checks of `durable_jobs`. -/
def AdmitsJob (row : JobRow) : Prop :=
  t.jobs.get? row.jobId = none ∧
    (∀ other ∈ t.jobs.values, other.deduplicationKey ≠ row.deduplicationKey) ∧
    t.outbox.get? row.eventId ≠ none ∧
    (∀ retried ∈ row.retryOfJobId, t.jobs.get? retried ≠ none) ∧
    1 ≤ row.maxAttempts ∧ row.maxAttempts ≤ 100

/-- The key, the foreign key and the check of `job_attempts`. -/
def AdmitsAttempt (row : AttemptRow) : Prop :=
  (∀ other ∈ t.attempts,
      ¬(other.jobId = row.jobId ∧ other.attemptNumber = row.attemptNumber)) ∧
    t.jobs.get? row.jobId ≠ none ∧ 0 < row.attemptNumber

/-- The key of `audit_events`. -/
def AdmitsAudit (row : AuditRow) : Prop := t.audit.get? row.eventId = none

instance (row : ObjectRow) : Decidable (t.AdmitsObject row) := inferInstanceAs (Decidable (_ ∧ _))

instance (row : OutboxRow) : Decidable (t.AdmitsOutbox row) := inferInstanceAs (Decidable (_ ∧ _))

instance (row : JobRow) : Decidable (t.AdmitsJob row) := inferInstanceAs (Decidable (_ ∧ _))

instance (row : AttemptRow) : Decidable (t.AdmitsAttempt row) :=
  inferInstanceAs (Decidable (_ ∧ _))

instance (row : AuditRow) : Decidable (t.AdmitsAudit row) := inferInstanceAs (Decidable (_ = _))

end Tables

/-! ## Statements -/

abbrev Statement (α : Type) := Call Tables ObjectQueueError α

/-- Write `write` unless it violates a constraint. -/
def insert (admits : Tables → Prop) [DecidablePred admits] (write : Tables → Tables) :
    Statement PUnit := do
  let t ← Call.get
  Call.ensure (admits t) { code := "DATABASE_CONSTRAINT_VIOLATION" }
  Call.modify write

/-- `INSERT INTO object_records`. -/
def insertObject (row : ObjectRow) : Statement PUnit :=
  insert (·.AdmitsObject row) fun t => { t with objects := t.objects.set row.objectId row }

/-- `INSERT INTO object_outbox_events`. -/
def insertOutbox (row : OutboxRow) : Statement PUnit :=
  insert (·.AdmitsOutbox row) fun t => { t with outbox := t.outbox.set row.eventId row }

/-- `INSERT INTO durable_jobs`. -/
def insertJob (row : JobRow) : Statement PUnit :=
  insert (·.AdmitsJob row) fun t => { t with jobs := t.jobs.set row.jobId row }

/-- `INSERT INTO job_attempts`. -/
def insertAttempt (row : AttemptRow) : Statement PUnit :=
  insert (·.AdmitsAttempt row) fun t => { t with attempts := t.attempts ++ [row] }

/-- `INSERT INTO audit_events`. -/
def insertAudit (row : AuditRow) : Statement PUnit :=
  insert (·.AdmitsAudit row) fun t => { t with audit := t.audit.set row.eventId row }

/-- `UPDATE object_records … WHERE object_id = objectId`. -/
def updateObject (objectId : String) (f : ObjectRow → ObjectRow) : Statement PUnit :=
  Call.modify fun t => { t with objects := t.objects.update objectId f }

/-- `UPDATE object_outbox_events … WHERE event_id = eventId`. -/
def updateOutbox (eventId : String) (f : OutboxRow → OutboxRow) : Statement PUnit :=
  Call.modify fun t => { t with outbox := t.outbox.update eventId f }

/-- `UPDATE durable_jobs … WHERE job_id = row.jobId`, of a row the transaction has locked. -/
def writeJob (row : JobRow) : Statement PUnit :=
  Call.modify fun t => { t with jobs := t.jobs.set row.jobId row }

/-- `SELECT … FROM durable_jobs WHERE job_id = jobId FOR UPDATE`. -/
def selectJob (jobId : String) : Statement JobRow :=
  Call.query fun t => match t.jobs.get? jobId with
    | none => .error { code := "JOB_NOT_FOUND" }
    | some row => .ok row

end DaonUser.ObjectQueue
