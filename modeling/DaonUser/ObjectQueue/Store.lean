import DaonUser.ObjectQueue.Model

/-!
# Object queue: the transactions of the store

The transactions of `PostgresObjectQueueStore`, and the machine of one scope's rows. Workers may die, lose a
lease or come back with an old `ObjectJob`: `System.issued` lists those that were returned, and a call of
`complete` or `fail` names its argument by its place in that list. `database` has every scope's rows side by
side.
-/

namespace DaonUser.ObjectQueue

open Lib

structure Env where
  /-- The jobs whose rows another transaction has locked. -/
  locked : String → Bool
  /-- What the creation enforcer raises, if anything. -/
  enforcer : Option ObjectQueueError
  /-- What the database raises before the commit, if anything. -/
  failure : Option ObjectQueueError

def raiseAny (e : Option ObjectQueueError) : Statement PUnit :=
  match e with
  | none => pure ⟨⟩
  | some e => Call.raise e

def safeId (value code : String) : Statement PUnit := Call.ensure (isSafeId value) { code := code }

/-! ## `register_object_job` -/

def registeredObject (context : CloudAccessContext) (objectId area : String)
    (staged : StagedObject) (finalKey idempotencyKey traceId fingerprint : String)
    (createdAt : Int) : ObjectRow where
  objectId := objectId
  area := area
  stagingKey := staged.key
  objectKey := finalKey
  digestSha256 := staged.digestSha256
  byteSize := staged.byteSize
  contentType := staged.contentType
  status := .pending
  createdBy := context.actorId
  traceId := traceId
  idempotencyKey := idempotencyKey
  requestFingerprint := fingerprint
  createdAt := createdAt

def registeredOutbox (objectId eventId traceId : String) (createdAt : Int) : OutboxRow where
  eventId := eventId
  objectId := objectId
  status := .pending
  traceId := traceId
  createdAt := createdAt

/-- A new job: the one that `register_object_job` inserts for an object, or that `reprocess`
inserts for an old job. -/
def newJob (jobId eventId objectId deduplicationKey : String) (maxAttempts : Nat)
    (retryOfJobId : Option String) (actorId traceId : String) (createdAt : Int) : JobRow where
  jobId := jobId
  eventId := eventId
  objectId := objectId
  deduplicationKey := deduplicationKey
  state := .pending
  maxAttempts := maxAttempts
  nextAttemptAt := createdAt
  retryOfJobId := retryOfJobId
  createdBy := actorId
  traceId := traceId
  createdAt := createdAt

def registerObjectJob (sha256 : String → String) (env : Env) (context : CloudAccessContext)
    (objectId area : String) (staged : StagedObject) (finalKey idempotencyKey traceId : String)
    (maxAttempts : Nat) (createdAt : Int) (forceRollback : Bool) : Statement ObjectSubmission := do
  Call.ensure (context.capability = "object.write") { code := "OBJECT_ACCESS_DENIED" }
  Call.ensure (isKeyOf "_staging/" context area staged.key) { code := "OBJECT_KEY_INVALID" }
  Call.ensure (isKeyOf "" context area finalKey) { code := "OBJECT_KEY_INVALID" }
  safeId idempotencyKey "IDEMPOTENCY_KEY_INVALID"
  safeId traceId "TRACE_ID_INVALID"
  Call.ensure (isDigest staged.digestSha256 ∧ isContentType staged.contentType)
    { code := "OBJECT_METADATA_INVALID" }
  Call.ensure (0 ≤ staged.byteSize ∧ 1 ≤ maxAttempts ∧ maxAttempts ≤ 100)
    { code := "OBJECT_METADATA_INVALID" }
  let fingerprint := sha256
    (area ++ "|" ++ staged.digestSha256 ++ "|" ++ toString staged.byteSize ++ "|" ++
      staged.contentType)
  let eventId := "outbox-" ++ objectId
  let jobId := "job-" ++ objectId
  Call.atomically do
    let t ← Call.get
    let replay := t.objects.values.find? fun row =>
      row.createdBy = context.actorId ∧ row.idempotencyKey = idempotencyKey
    match replay with
    | some row => do
      Call.ensure (row.requestFingerprint = fingerprint) { code := "IDEMPOTENCY_KEY_REUSED" }
      return { objectId := row.objectId, jobId := "job-" ++ row.objectId,
               eventId := "outbox-" ++ row.objectId, replayed := true }
    | none => do
      raiseAny (if area = "source" then env.enforcer else none)
      insertObject (registeredObject context objectId area staged finalKey idempotencyKey traceId
        fingerprint createdAt)
      insertOutbox (registeredOutbox objectId eventId traceId createdAt)
      insertJob (newJob jobId eventId objectId idempotencyKey maxAttempts none context.actorId
        traceId createdAt)
      insertAudit
        { eventId := "audit-request-" ++ objectId, actorId := context.actorId,
          action := "object.store.requested", targetType := "object", targetId := objectId,
          outcome := "succeeded", traceId := traceId,
          metadata := [("area", area), ("job_id", jobId)] }
      Call.ensure (forceRollback = false) { code := "FORCED_TRANSACTION_ROLLBACK" }
      raiseAny env.failure
      return { objectId := objectId, jobId := jobId, eventId := eventId, replayed := false }

/-! ## `claim` and `get_job` -/

/-- The `WHERE` clause of the candidate of `claim`. -/
def JobRow.Claimable (now : Int) (row : JobRow) : Prop :=
  ((row.state = .pending ∨ row.state = .retryWait) ∧ row.nextAttemptAt ≤ now) ∨
    (row.state = .leased ∧ ∃ leaseUntil ∈ row.leaseUntil, leaseUntil ≤ now)

instance (now : Int) (row : JobRow) : Decidable (row.Claimable now) :=
  inferInstanceAs (Decidable (_ ∨ _))

/-- The keys of the `ORDER BY` of `claim`, compared from the first one on. -/
@[reducible] def claimKeyOrder : LinearOrder (Int ×ₗ Int ×ₗ String) :=
  @Prod.Lex.instLinearOrder Int (Int ×ₗ String) Int.instLinearOrder
    (@Prod.Lex.instLinearOrder Int String Int.instLinearOrder String.instLinearOrder)

instance claimKeyPreorder : Preorder (Int ×ₗ Int ×ₗ String) := claimKeyOrder.toPreorder

instance claimKeyDecidableLT : @DecidableLT (Int ×ₗ Int ×ₗ String) claimKeyOrder.toLT :=
  claimKeyOrder.toDecidableLT

/-- The `ORDER BY` of `claim`. -/
def JobRow.claimOrder (row : JobRow) : Int ×ₗ Int ×ₗ String :=
  toLex (row.nextAttemptAt, toLex (row.createdAt, row.jobId))

/-- The row that `claim` updates: the first claimable one that is not locked. -/
def candidate (locked : String → Bool) (now : Int) (t : Tables) : Option JobRow :=
  (t.jobs.values.filter fun row => row.Claimable now ∧ locked row.jobId = false).argmin
    JobRow.claimOrder

/-- The `SET` clause of `claim`. -/
def JobRow.lease (row : JobRow) (workerId : String) (leaseUntil : Int) : JobRow :=
  { row with
    state := .leased, attempt := row.attempt + 1, leaseOwner := some workerId,
    leaseUntil := some leaseUntil, lastSafeErrorCode := none, version := row.version + 1 }

/-- `claim`, for a lease of some microseconds. -/
def claim (env : Env) (workerId : String) (now lease : Int) : Statement (Option ObjectJob) := do
  safeId workerId "WORKER_ID_INVALID"
  Call.ensure (0 < lease ∧ lease ≤ 3600000000) { code := "LEASE_INVALID" }
  Call.atomically do
    let t ← Call.get
    match candidate env.locked now t with
    | none => do
      raiseAny env.failure
      return none
    | some row => do
      let row := row.lease workerId (now + lease)
      writeJob row
      Call.ensure (isOpaqueId row.objectId) { code := "JOB_PAYLOAD_INVALID" }
      updateOutbox row.eventId fun event => { event with status := .dispatched }
      raiseAny env.failure
      return some (jobFromRow row)

def getJob (jobId : String) : Statement ObjectJob := do
  let row ← selectJob jobId
  return jobFromRow row

/-! ## `complete` and `fail` -/

/-- The lease of `job` by the worker is the row's and has not expired: `_assert_lease`. -/
structure HoldsLease (job : ObjectJob) (row : JobRow) (workerId : String) (now : Int) : Prop where
  state : row.state = .leased
  version : row.version = job.version
  owner : row.leaseOwner = some workerId
  alive : ∃ leaseUntil ∈ row.leaseUntil, now < leaseUntil

instance (job : ObjectJob) (row : JobRow) (workerId : String) (now : Int) :
    Decidable (HoldsLease job row workerId now) :=
  decidable_of_iff (row.state = .leased ∧ row.version = job.version ∧
      row.leaseOwner = some workerId ∧ ∃ leaseUntil ∈ row.leaseUntil, now < leaseUntil)
    ⟨fun h => ⟨h.1, h.2.1, h.2.2.1, h.2.2.2⟩, fun h => ⟨h.state, h.version, h.owner, h.alive⟩⟩

/-- The `SET` clause of `complete`. -/
def JobRow.complete (row : JobRow) (now : Int) : JobRow :=
  { row with
    state := .completed, leaseOwner := none, leaseUntil := none, completedAt := some now,
    version := row.version + 1 }

def ObjectRow.complete (row : ObjectRow) (stored : StoredObject) (now : Int) : ObjectRow :=
  { row with
    status := .completed, storageEtag := some stored.etag, storageVersionId := stored.versionId,
    completedAt := some now, version := row.version + 1 }

/-- The stored object has the key, digest, size and type of the record. -/
def StoredObject.Matches (stored : StoredObject) (record : ObjectRow) : Prop :=
  stored.key = record.objectKey ∧ stored.digestSha256 = record.digestSha256 ∧
    stored.byteSize = record.byteSize ∧ stored.contentType = record.contentType

instance (stored : StoredObject) (record : ObjectRow) : Decidable (stored.Matches record) :=
  inferInstanceAs (Decidable (_ ∧ _))

def complete (env : Env) (context : CloudAccessContext) (job : ObjectJob) (workerId : String)
    (stored : StoredObject) (now : Int) : Statement ObjectJob :=
  Call.atomically do
    let row ← selectJob job.jobId
    Call.ensure (HoldsLease job row workerId now) { code := "JOB_LEASE_LOST", retryable := true }
    let record ← Call.query fun t => match t.objects.get? job.objectId with
      | none => .error { code := "OBJECT_NOT_FOUND" }
      | some record => .ok record
    Call.ensure (stored.Matches record) { code := "OBJECT_CHECKSUM_MISMATCH" }
    updateObject job.objectId fun record => record.complete stored now
    let row := row.complete now
    writeJob row
    updateOutbox job.eventId fun event =>
      { event with status := .completed, completedAt := some now }
    insertAttempt
      { jobId := job.jobId, attemptNumber := job.attempt, workerId := workerId,
        outcome := .completed, traceId := job.traceId, startedAt := job.createdAt,
        finishedAt := now }
    insertAudit
      { eventId := "audit-complete-" ++ job.jobId ++ "-" ++ toString job.attempt,
        actorId := context.actorId, action := "object.store.completed", targetType := "object",
        targetId := job.objectId, outcome := "succeeded", traceId := job.traceId,
        metadata := [("job_id", job.jobId)] }
    raiseAny env.failure
    return jobFromRow row

/-- Whether `fail` leaves the job waiting for another attempt. -/
def retries (job : ObjectJob) (error : ObjectQueueError) : Bool :=
  error.retryable && job.attempt < job.maxAttempts

/-- The `SET` clause of `fail`. -/
def JobRow.fail (row : JobRow) (retry : Bool) (error : ObjectQueueError) (now retryAt : Int) :
    JobRow :=
  { row with
    state := if retry then .retryWait else .deadLetter, nextAttemptAt := retryAt,
    leaseOwner := none, leaseUntil := none, lastSafeErrorCode := some error.code,
    completedAt := if retry then none else some now, version := row.version + 1 }

def ObjectRow.fail (row : ObjectRow) : ObjectRow :=
  { row with status := .failed, version := row.version + 1 }

def fail (env : Env) (context : CloudAccessContext) (job : ObjectJob) (workerId : String)
    (error : ObjectQueueError) (now retryAt : Int) : Statement ObjectJob :=
  Call.atomically do
    let row ← selectJob job.jobId
    Call.ensure (HoldsLease job row workerId now) { code := "JOB_LEASE_LOST", retryable := true }
    let retry := retries job error
    let row := row.fail retry error now retryAt
    writeJob row
    updateOutbox job.eventId fun event =>
      { event with status := if retry then .dispatched else .failed,
                   completedAt := if retry then none else some now }
    if retry then pure ⟨⟩ else updateObject job.objectId ObjectRow.fail
    insertAttempt
      { jobId := job.jobId, attemptNumber := job.attempt, workerId := workerId,
        outcome := row.state, safeErrorCode := some error.code, traceId := job.traceId,
        startedAt := job.createdAt, finishedAt := now }
    insertAudit
      { eventId := "audit-attempt-" ++ job.jobId ++ "-" ++ toString job.attempt,
        actorId := context.actorId, action := "object.store.attempt", targetType := "job",
        targetId := job.jobId, outcome := "failed", traceId := job.traceId,
        metadata := [("state", row.state.text), ("safe_error_code", error.code)] }
    raiseAny env.failure
    return jobFromRow row

/-- The object after `reprocess`. -/
def ObjectRow.reopen (row : ObjectRow) : ObjectRow :=
  { row with status := .pending, version := row.version + 1 }

/-- The deduplication key of a `reprocess`. -/
def reprocessKey (jobId idempotencyKey : String) : String :=
  "reprocess:" ++ jobId ++ ":" ++ idempotencyKey

/-- The digest that names the job of a `reprocess`. -/
def reprocessDigest (sha256 : String → String) (context : CloudAccessContext)
    (jobId idempotencyKey : String) : String :=
  String.ofList ((sha256 (context.tenantId ++ "|" ++ context.workspaceId ++ "|" ++ jobId ++ "|" ++
    idempotencyKey)).toList.take 32)

/-- The job that `reprocess` inserts for a dead-letter job. -/
def reprocessJob (sha256 : String → String) (context : CloudAccessContext)
    (jobId idempotencyKey : String) (old : JobRow) (createdAt : Int) : JobRow :=
  let digest := reprocessDigest sha256 context jobId idempotencyKey
  newJob ("job-" ++ digest) ("outbox-" ++ digest) old.objectId (reprocessKey jobId idempotencyKey)
    old.maxAttempts (some old.jobId) context.actorId old.traceId createdAt

def reprocess (sha256 : String → String) (env : Env) (context : CloudAccessContext)
    (jobId idempotencyKey : String) (createdAt : Int) : Statement ObjectJob := do
  Call.ensure (context.capability = "queue.reprocess") { code := "QUEUE_REPROCESS_DENIED" }
  safeId idempotencyKey "IDEMPOTENCY_KEY_INVALID"
  Call.atomically do
    let t ← Call.get
    match t.jobs.values.find? fun row =>
        row.deduplicationKey = reprocessKey jobId idempotencyKey with
    | some existing => return jobFromRow existing
    | none => do
      let old ← selectJob jobId
      Call.ensure (old.state = .deadLetter) { code := "JOB_NOT_DEAD_LETTER" }
      let row := reprocessJob sha256 context jobId idempotencyKey old createdAt
      insertOutbox (registeredOutbox old.objectId row.eventId old.traceId createdAt)
      insertJob row
      updateObject old.objectId ObjectRow.reopen
      insertAudit
        { eventId := "audit-reprocess-" ++ reprocessDigest sha256 context jobId idempotencyKey,
          actorId := context.actorId, action := "object.store.reprocessed", targetType := "job",
          targetId := row.jobId, outcome := "succeeded", traceId := old.traceId,
          metadata := [("retry_of_job_id", old.jobId)] }
      raiseAny env.failure
      return jobFromRow row

/-! ## The machine -/

/-- The rows of one scope and the `ObjectJob` values that its transactions have returned. -/
structure System where
  tables : Tables
  issued : List ObjectJob

/-- The transactions and their arguments. The `ticket` of a `complete` or a `fail` is the place of
its `ObjectJob` among those returned so far. -/
inductive Transaction where
  | registerObjectJob (objectId area : String) (staged : StagedObject)
      (finalKey idempotencyKey traceId : String) (maxAttempts : Nat) (createdAt : Int)
      (forceRollback : Bool)
  | claim (workerId : String) (now lease : Int)
  | getJob (jobId : String)
  | complete (ticket : Nat) (workerId : String) (stored : StoredObject) (now : Int)
  | fail (ticket : Nat) (workerId : String) (error : ObjectQueueError) (now retryAt : Int)
  | reprocess (jobId idempotencyKey : String) (createdAt : Int)

structure Input where
  context : CloudAccessContext
  env : Env
  transaction : Transaction

/-- What a transaction returns; `idle` when there is no job to claim or no such ticket. -/
inductive Reply where
  | idle
  | submission (value : ObjectSubmission)
  | claimed (job : ObjectJob)
  | job (job : ObjectJob)
  deriving DecidableEq

/-- The `ObjectJob` in a reply. -/
def Reply.issues : Reply → List ObjectJob
  | .idle => []
  | .submission _ => []
  | .claimed value => [value]
  | .job value => [value]

abbrev Outcome := Except ObjectQueueError Reply

/-- The `ObjectJob` in an outcome. -/
def issues : Outcome → List ObjectJob
  | .ok reply => reply.issues
  | .error _ => []

def execute (sha256 : String → String) (issued : List ObjectJob) (i : Input) : Statement Reply :=
  match i.transaction with
  | .registerObjectJob objectId area staged finalKey key traceId maxAttempts createdAt rollback =>
    Reply.submission <$> registerObjectJob sha256 i.env i.context objectId area staged finalKey key
      traceId maxAttempts createdAt rollback
  | .claim workerId now lease =>
    (fun job => job.elim Reply.idle Reply.claimed) <$> claim i.env workerId now lease
  | .getJob jobId => Reply.job <$> getJob jobId
  | .complete ticket workerId stored now =>
    match issued[ticket]? with
    | none => pure .idle
    | some job => Reply.job <$> complete i.env i.context job workerId stored now
  | .fail ticket workerId error now retryAt =>
    match issued[ticket]? with
    | none => pure .idle
    | some job => Reply.job <$> fail i.env i.context job workerId error now retryAt
  | .reprocess jobId key createdAt =>
    Reply.job <$> reprocess sha256 i.env i.context jobId key createdAt

/-- One transaction, and the `ObjectJob` it hands out. -/
def System.step (sha256 : String → String) (s : System) (i : Input) : Outcome × System :=
  let result := execute sha256 s.issued i s.tables
  (result.1, { tables := result.2,
               issued := s.issued ++ issues result.1 })

def machine (sha256 : String → String) : Machine System Input Outcome where
  init := { tables := .empty, issued := [] }
  step := System.step sha256

abbrev Scope := String × String

def Input.scope (i : Input) : Scope := (i.context.tenantId, i.context.workspaceId)

def database (sha256 : String → String) : Machine (Scope → System) Input Outcome :=
  Machine.sharded Input.scope fun _ => machine sha256

end DaonUser.ObjectQueue
