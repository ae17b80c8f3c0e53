import DaonUser.Base
import DaonUser.Lib.Machine
import DaonUser.Lib.Sql
import Mathlib.Data.List.MinMax
import Mathlib.Data.Prod.Lex
import Mathlib.Data.String.Basic

/-!
# Document queue: rows and transactions

The tables `document_processing_jobs` and `document_processing_job_attempts`,
`claim_document_processing_job`, and the transactions of `PostgresDocumentProcessingQueue` on them. A claim
looks at the jobs of every workspace; the other transactions see the rows of their own one.

Workers may die, lose a lease or come back with an old `DocumentProcessingJob`: `System.issued` lists the
jobs that claims have returned, and a worker names its argument by its place in it.
-/

namespace DaonUser.DocumentQueue

open Lib

structure DocumentProcessingQueueError where
  code : String
  retryable : Bool := false
  deriving DecidableEq

inductive JobState where
  | pending
  | leased
  | retryWait
  | completed
  | deadLetter
  deriving DecidableEq

/-! ## Rows -/

/-- A row of `document_processing_jobs`. -/
structure JobRow where
  tenantId : String
  workspaceId : String
  jobId : String
  sourceId : String
  sourceVersionId : String
  processingRunId : String
  state : JobState := .pending
  attempt : Nat := 0
  maxAttempts : Nat := 3
  nextAttemptAt : Int
  leaseOwner : Option String := none
  leaseUntil : Option Int := none
  lastSafeErrorCode : Option String := none
  createdBy : String
  traceId : String
  policyVersion : String
  version : Nat := 1
  createdAt : Int
  completedAt : Option Int := none
  deriving DecidableEq

/-- The outcomes of `document_processing_job_attempts`. -/
inductive AttemptOutcome where
  | completed
  | retryWait
  | deadLetter
  | leaseLost
  deriving DecidableEq

/-- A row of `document_processing_job_attempts`. -/
structure AttemptRow where
  tenantId : String
  workspaceId : String
  jobId : String
  attemptNumber : Nat
  workerId : String
  outcome : AttemptOutcome
  safeErrorCode : Option String := none
  traceId : String
  startedAt : Int
  finishedAt : Int
  deriving DecidableEq

abbrev JobKey := String × String × String

def JobRow.key (row : JobRow) : JobKey := (row.tenantId, row.workspaceId, row.jobId)

def AttemptRow.key (row : AttemptRow) : JobKey := (row.tenantId, row.workspaceId, row.jobId)

inductive Table where
  | jobs
  | attempts
  deriving DecidableEq

namespace Table

@[reducible] def Row : Table → Type
  | jobs => JobRow
  | attempts => AttemptRow

def clash : (t : Table) → t.Row → t.Row → Bool
  | jobs, a, b => a.key = b.key ||
    (a.tenantId = b.tenantId && a.workspaceId = b.workspaceId &&
      a.processingRunId = b.processingRunId)
  | attempts, a, b => a.key = b.key && a.attemptNumber = b.attemptNumber

theorem clash_comm (t : Table) (a b : t.Row) : clash t a b = clash t b a := by
  cases t <;> simp [clash, eq_comm]

end Table

@[reducible] def schema : Schema where
  Table := Table
  Row := Table.Row
  clash := Table.clash
  clash_comm := Table.clash_comm

abbrev Db := Database schema

structure DocumentProcessingJob where
  tenantId : String
  workspaceId : String
  jobId : String
  sourceId : String
  sourceVersionId : String
  processingRunId : String
  state : JobState
  attempt : Nat
  maxAttempts : Nat
  leaseOwner : Option String
  leaseUntil : Option Int
  traceId : String
  policyVersion : String
  createdBy : String
  createdAt : Int
  version : Nat
  deriving DecidableEq

def DocumentProcessingJob.key (job : DocumentProcessingJob) : JobKey :=
  (job.tenantId, job.workspaceId, job.jobId)

def jobFromRow (row : JobRow) : DocumentProcessingJob where
  tenantId := row.tenantId
  workspaceId := row.workspaceId
  jobId := row.jobId
  sourceId := row.sourceId
  sourceVersionId := row.sourceVersionId
  processingRunId := row.processingRunId
  state := row.state
  attempt := row.attempt
  maxAttempts := row.maxAttempts
  leaseOwner := row.leaseOwner
  leaseUntil := row.leaseUntil
  traceId := row.traceId
  policyVersion := row.policyVersion
  createdBy := row.createdBy
  createdAt := row.createdAt
  version := row.version

/-- `_current_from_row`: the columns that `_locked_current` reads over the job that it was given. -/
def currentFromRow (job : DocumentProcessingJob) (row : JobRow) : DocumentProcessingJob :=
  { job with
    state := row.state, attempt := row.attempt, maxAttempts := row.maxAttempts,
    leaseOwner := row.leaseOwner, leaseUntil := row.leaseUntil, version := row.version }

/-- `_SAFE_ID.fullmatch` of the queue. -/
def isQueueId (s : String) : Bool :=
  match s.toList with
  | [] => false
  | c :: cs => c.isAlphanum && cs.all isIdChar && cs.length ≤ 255

structure Env where
  /-- The jobs whose rows another transaction has locked. -/
  locked : JobKey → Bool
  /-- What `clock_timestamp()` reads when the moments of a row are checked. -/
  checkedAt : JobKey → Int
  /-- What it reads when a lost lease is recorded. -/
  lostAt : Int
  /-- What it reads when the lease is given. -/
  leasedAt : Int
  /-- What the database raises before the commit, if anything. -/
  failure : Option DocumentProcessingQueueError

abbrev Statement (α : Type) := Call Db DocumentProcessingQueueError α

def raiseAny (e : Option DocumentProcessingQueueError) : Statement PUnit :=
  match e with
  | none => pure ⟨⟩
  | some e => Call.raise e

def safeId (value code : String) : Statement PUnit := Call.ensure (isQueueId value) { code }

/-- `UPDATE document_processing_jobs` of the row with the key. -/
def updateJob (key : JobKey) (set : JobRow → JobRow) : Statement PUnit :=
  Call.modify fun db : Db => db.update .jobs (fun row => row.key = key) set

/-- `INSERT INTO document_processing_job_attempts`, with its key and its check. -/
def insertAttempt (row : AttemptRow) : Statement PUnit := do
  Call.ensure (0 < row.attemptNumber) { code := "DATABASE_CONSTRAINT_VIOLATION" }
  Call.insertRow .attempts row { code := "DATABASE_CONSTRAINT_VIOLATION" }

/-! ## `claim_document_processing_job` -/

/-- The `WHERE` clause of the candidate. -/
def JobRow.Claimable (now : Int) (row : JobRow) : Prop :=
  ((row.state = .pending ∨ row.state = .retryWait) ∧ row.nextAttemptAt ≤ now) ∨
    (row.state = .leased ∧ ∃ leaseUntil ∈ row.leaseUntil, leaseUntil ≤ now)

instance (now : Int) (row : JobRow) : Decidable (row.Claimable now) :=
  inferInstanceAs (Decidable (_ ∨ _))

/-- The keys of the `ORDER BY`, compared from the first one on. -/
@[reducible] def candidateOrder : LinearOrder (Int ×ₗ Int ×ₗ String) :=
  @Prod.Lex.instLinearOrder Int (Int ×ₗ String) Int.instLinearOrder
    (@Prod.Lex.instLinearOrder Int String Int.instLinearOrder String.instLinearOrder)

def candidate (env : Env) (db : Db) : Option JobRow :=
  @List.argmin _ _ candidateOrder.toPreorder candidateOrder.toDecidableLT
    (fun row : JobRow => toLex (row.nextAttemptAt, toLex (row.createdAt, row.jobId)))
    ((db .jobs).filter fun row => row.Claimable (env.checkedAt row.key) ∧ env.locked row.key = false)

/-- The `SET` clause of a claim. -/
def JobRow.lease (row : JobRow) (workerId : String) (leaseUntil : Int) : JobRow :=
  { row with
    state := .leased, attempt := row.attempt + 1, leaseOwner := some workerId,
    leaseUntil := some leaseUntil, lastSafeErrorCode := none, version := row.version + 1 }

def JobRow.lost (row : JobRow) (now : Int) : AttemptRow where
  tenantId := row.tenantId
  workspaceId := row.workspaceId
  jobId := row.jobId
  attemptNumber := row.attempt
  workerId := row.leaseOwner.getD ""
  outcome := .leaseLost
  safeErrorCode := some "DOCUMENT_WORKER_LEASE_EXPIRED"
  traceId := row.traceId
  startedAt := row.createdAt
  finishedAt := now

/-- `lease_loss`: the rows with the attempt of the lease that the candidate has lost. -/
def leaseLoss (row : JobRow) (now : Int) (db : Db) : Db :=
  if row.state = .leased then db.insertOrIgnore .attempts (row.lost now) else db

def claimDocumentProcessingJob (env : Env) (workerId : String) (leaseSeconds : Int) :
    Statement (Option JobRow) := do
  Call.ensure (isQueueId workerId ∧ 10 ≤ leaseSeconds ∧ leaseSeconds ≤ 600)
    { code := "DOCUMENT_WORKER_CLAIM_INVALID" }
  let db ← Call.get
  match candidate env db with
  | none => return none
  | some row => do
    Call.modify (leaseLoss row env.lostAt)
    let leaseUntil := env.leasedAt + leaseSeconds * 1000000
    updateJob row.key fun row => row.lease workerId leaseUntil
    return some (row.lease workerId leaseUntil)

def claim (env : Env) (workerId : String) (leaseSeconds : Int) :
    Statement (Option DocumentProcessingJob) := do
  safeId workerId "DOCUMENT_WORKER_ID_INVALID"
  Call.ensure (10 ≤ leaseSeconds ∧ leaseSeconds ≤ 600) { code := "DOCUMENT_WORKER_LEASE_INVALID" }
  Call.atomically do
    let row ← claimDocumentProcessingJob env workerId leaseSeconds
    raiseAny env.failure
    return row.map jobFromRow

/-! ## `complete` and `fail_terminal` -/

/-- The condition of `_assert_lease`. -/
structure HoldsLease (claimed current : DocumentProcessingJob) (workerId : String) (now : Int) :
    Prop where
  state : current.state = .leased
  version : current.version = claimed.version
  attempt : current.attempt = claimed.attempt
  owner : current.leaseOwner = some workerId
  alive : ∃ leaseUntil ∈ current.leaseUntil, now < leaseUntil

instance (claimed current : DocumentProcessingJob) (workerId : String) (now : Int) :
    Decidable (HoldsLease claimed current workerId now) :=
  decidable_of_iff (current.state = .leased ∧ current.version = claimed.version ∧
      current.attempt = claimed.attempt ∧ current.leaseOwner = some workerId ∧
      ∃ leaseUntil ∈ current.leaseUntil, now < leaseUntil)
    ⟨fun h => ⟨h.1, h.2.1, h.2.2.1, h.2.2.2.1, h.2.2.2.2⟩,
     fun h => ⟨h.state, h.version, h.attempt, h.owner, h.alive⟩⟩

def lockedCurrent (job : DocumentProcessingJob) : Statement DocumentProcessingJob :=
  Call.query fun db : Db => match (db .jobs).find? fun row => row.key = job.key with
    | none => .error { code := "DOCUMENT_JOB_NOT_FOUND" }
    | some row => .ok (currentFromRow job row)

/-- The `SET` clause of `complete` and of `fail_terminal`. -/
def JobRow.finish (row : JobRow) (state : JobState) (safeErrorCode : Option String) (now : Int) :
    JobRow :=
  { row with
    state, leaseOwner := none, leaseUntil := none, lastSafeErrorCode := safeErrorCode,
    completedAt := some now, version := row.version + 1 }

def DocumentProcessingJob.attempted (job : DocumentProcessingJob) (workerId : String)
    (outcome : AttemptOutcome) (safeErrorCode : Option String) (now : Int) : AttemptRow where
  tenantId := job.tenantId
  workspaceId := job.workspaceId
  jobId := job.jobId
  attemptNumber := job.attempt
  workerId := workerId
  outcome := outcome
  safeErrorCode := safeErrorCode
  traceId := job.traceId
  startedAt := job.createdAt
  finishedAt := now

/-- `_scope`: the context of the job, whose construction checks its ids. -/
def scope (job : DocumentProcessingJob) : Statement PUnit :=
  Call.ensure ([job.tenantId, job.workspaceId, job.createdBy, "source.process"].all isSafeId)
    { code := "CLOUD_ACCESS_CONTEXT_INVALID" }

/-- `complete`. The code of an earlier error stays; a leased row has none. -/
def complete (env : Env) (job : DocumentProcessingJob) (workerId : String) (now : Int) :
    Statement PUnit := do
  safeId workerId "DOCUMENT_WORKER_ID_INVALID"
  scope job
  Call.atomically do
    let current ← lockedCurrent job
    Call.ensure (HoldsLease job current workerId now)
      { code := "DOCUMENT_JOB_LEASE_LOST", retryable := true }
    updateJob job.key fun row => row.finish .completed row.lastSafeErrorCode now
    insertAttempt (job.attempted workerId .completed none now)
    raiseAny env.failure

def failTerminal (env : Env) (job : DocumentProcessingJob) (workerId safeErrorCode : String)
    (now : Int) : Statement PUnit := do
  safeId workerId "DOCUMENT_WORKER_ID_INVALID"
  safeId safeErrorCode "DOCUMENT_JOB_ERROR_CODE_INVALID"
  scope job
  Call.atomically do
    let current ← lockedCurrent job
    Call.ensure (HoldsLease job current workerId now)
      { code := "DOCUMENT_JOB_LEASE_LOST", retryable := true }
    updateJob job.key fun row => row.finish .deadLetter (some safeErrorCode) now
    insertAttempt (job.attempted workerId .deadLetter (some safeErrorCode) now)
    raiseAny env.failure

/-! ## The machine -/

/-- What processing a document comes to in `run_once`: it is done, or raises a
`DocumentUnderstandingError`. Any other error ends the worker. -/
inductive Processed where
  | done
  | raised (code : String)

/-- What `run_once` does with a job that it has processed. -/
def settle (env : Env) (job : DocumentProcessingJob) (workerId : String) (now : Int) :
    Processed → Statement PUnit
  | .done => complete env job workerId now
  | .raised code => failTerminal env job workerId code now

/-- A row that `INSERT INTO document_processing_jobs` makes: the columns that it does not name have
their defaults. -/
structure NewJob where
  tenantId : String
  workspaceId : String
  jobId : String
  sourceId : String
  sourceVersionId : String
  processingRunId : String
  createdBy : String
  traceId : String
  policyVersion : String

def NewJob.row (new : NewJob) (now : Int) : JobRow where
  tenantId := new.tenantId
  workspaceId := new.workspaceId
  jobId := new.jobId
  sourceId := new.sourceId
  sourceVersionId := new.sourceVersionId
  processingRunId := new.processingRunId
  nextAttemptAt := now
  createdBy := new.createdBy
  traceId := new.traceId
  policyVersion := new.policyVersion
  createdAt := now

inductive Transaction where
  | enqueue (new : NewJob) (now : Int)
  | claim (workerId : String) (leaseSeconds : Int)
  | settle (ticket : Nat) (workerId : String) (processed : Processed) (now : Int)

structure Input where
  env : Env
  transaction : Transaction

/-- What a transaction returns; `idle` when there is no job to claim or no such ticket. -/
inductive Reply where
  | idle
  | claimed (job : DocumentProcessingJob)
  | done
  deriving DecidableEq

abbrev Outcome := Except DocumentProcessingQueueError Reply

structure System where
  db : Db
  issued : List DocumentProcessingJob

def execute (issued : List DocumentProcessingJob) (i : Input) : Statement Reply :=
  match i.transaction with
  | .enqueue new now => do
    Call.modify fun db : Db => db.insertOrIgnore .jobs (new.row now)
    return .idle
  | .claim workerId leaseSeconds =>
    (fun job => job.elim Reply.idle Reply.claimed) <$> claim i.env workerId leaseSeconds
  | .settle ticket workerId processed now =>
    match issued[ticket]? with
    | none => pure .idle
    | some job => (fun _ => Reply.done) <$> settle i.env job workerId now processed

def claimedJob : Outcome → Option DocumentProcessingJob
  | .ok (.claimed job) => some job
  | _ => none

def machine : Machine System Input Outcome where
  init := { db := Database.empty, issued := [] }
  step s i :=
    let result := execute s.issued i s.db
    (result.1, { db := result.2, issued := s.issued ++ (claimedJob result.1).toList })

end DaonUser.DocumentQueue
