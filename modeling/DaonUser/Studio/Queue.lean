import DaonUser.Base
import DaonUser.Lib.Machine
import Mathlib.Data.List.MinMax
import Mathlib.Data.Prod.Lex
import Mathlib.Data.String.Basic

/-!
# The queue of studio generations

The table `studio_generation_jobs`, `claim_studio_generation_job`, and the transactions of
`PostgresStudioGenerationQueue` on it, each of one statement, with `now()` the moment it began at. Workers
may stop between any two transactions, or come back with an old `StudioGenerationJob`: `System.issued` lists
the jobs that claims have returned, and a worker names its argument by its place in it. The guard of the
table lets all these transactions through.
-/

namespace DaonUser.Studio

open Lib

structure StudioGenerationQueueError where
  code : String
  retryable : Bool := false
  deriving DecidableEq

inductive JobState where
  | queued
  | leased
  | generating
  | completed
  | failed
  | unavailable
  deriving DecidableEq

abbrev JobKey := String × String × String

/-- A row of `studio_generation_jobs`. -/
structure JobRow where
  tenantId : String
  workspaceId : String
  jobId : String
  actorId : String
  traceId : String
  policyVersion : String
  idempotencyKey : String
  requestJson : String
  state : JobState := .queued
  attempt : Nat := 0
  maxAttempts : Nat := 3
  nextAttemptAt : Int
  leaseOwner : Option String := none
  leaseUntil : Option Int := none
  safeErrorCode : Option String := none
  studioOutputId : Option String := none
  outputVersionId : Option String := none
  createdAt : Int
  completedAt : Option Int := none
  version : Nat := 1
  deriving DecidableEq

def JobRow.key (row : JobRow) : JobKey := (row.tenantId, row.workspaceId, row.jobId)

structure StudioGenerationJob where
  tenantId : String
  workspaceId : String
  jobId : String
  actorId : String
  traceId : String
  policyVersion : String
  idempotencyKey : String
  requestJson : String
  state : JobState
  attempt : Nat
  version : Nat
  deriving DecidableEq

def StudioGenerationJob.key (job : StudioGenerationJob) : JobKey :=
  (job.tenantId, job.workspaceId, job.jobId)

def fromRow (row : JobRow) : StudioGenerationJob where
  tenantId := row.tenantId
  workspaceId := row.workspaceId
  jobId := row.jobId
  actorId := row.actorId
  traceId := row.traceId
  policyVersion := row.policyVersion
  idempotencyKey := row.idempotencyKey
  requestJson := row.requestJson
  state := .leased
  attempt := row.attempt
  version := row.version

structure Env where
  /-- `now()`. -/
  now : Int
  /-- The jobs whose rows another transaction has locked. -/
  locked : JobKey → Bool
  /-- Which of the rows that the `ORDER BY` does not separate comes first. -/
  tie : JobKey → Nat
  /-- What the database raises before the commit, if anything. -/
  failure : Option StudioGenerationQueueError

/-! ## `claim_studio_generation_job` -/

/-- The row is in the hands of a worker. -/
def JobRow.InWork (row : JobRow) : Prop := row.state = .leased ∨ row.state = .generating

instance (row : JobRow) : Decidable row.InWork := inferInstanceAs (Decidable (_ ∨ _))

/-- The `WHERE` clause of the candidate. -/
def JobRow.Claimable (now : Int) (row : JobRow) : Prop :=
  (row.state = .queued ∧ row.nextAttemptAt ≤ now) ∨
    (row.InWork ∧ ∃ leaseUntil ∈ row.leaseUntil, leaseUntil < now)

instance (now : Int) (row : JobRow) : Decidable (row.Claimable now) :=
  inferInstanceAs (Decidable (_ ∨ _))

/-- The keys of the `ORDER BY`. -/
def JobRow.rank (row : JobRow) : Int ×ₗ Int ×ₗ String :=
  toLex (row.nextAttemptAt, toLex (row.createdAt, row.jobId))

@[reducible] def rankOrder : LinearOrder (Int ×ₗ Int ×ₗ String) :=
  @Prod.Lex.instLinearOrder Int (Int ×ₗ String) Int.instLinearOrder
    (@Prod.Lex.instLinearOrder Int String Int.instLinearOrder String.instLinearOrder)

@[reducible] def candidateOrder : LinearOrder ((Int ×ₗ Int ×ₗ String) ×ₗ Nat) :=
  @Prod.Lex.instLinearOrder (Int ×ₗ Int ×ₗ String) Nat rankOrder Nat.instLinearOrder

def candidate (env : Env) (jobs : List JobRow) : Option JobRow :=
  @List.argmin _ _ candidateOrder.toPreorder candidateOrder.toDecidableLT
    (fun row : JobRow => toLex (row.rank, env.tie row.key))
    (jobs.filter fun row => row.Claimable env.now ∧ env.locked row.key = false)

/-- The `SET` clause of a claim. -/
def JobRow.lease (row : JobRow) (workerId : String) (leaseUntil : Int) : JobRow :=
  { row with
    state := .leased, leaseOwner := some workerId, leaseUntil := some leaseUntil,
    attempt := row.attempt + 1, version := row.version + 1 }

def updated (p : JobRow → Bool) (set : JobRow → JobRow) (jobs : List JobRow) : List JobRow :=
  jobs.map fun row => if p row then set row else row

/-- `claim_studio_generation_job`, and `claim`. -/
def claim (env : Env) (workerId : String) (leaseSeconds : Int) (jobs : List JobRow) :
    Except StudioGenerationQueueError (Option StudioGenerationJob × List JobRow) :=
  if isLongId workerId = false ∨ leaseSeconds < 10 ∨ 3600 < leaseSeconds then
    .error { code := "STUDIO_JOB_CLAIM_INVALID" }
  else match candidate env jobs with
    | none => .ok (none, jobs)
    | some row =>
      -- the bound is asked for where the row is updated, not where it is selected
      if row.attempt < row.maxAttempts then
        let leaseUntil := env.now + leaseSeconds * 1000000
        .ok (some (fromRow (row.lease workerId leaseUntil)),
          updated (fun other => other.key = row.key) (·.lease workerId leaseUntil) jobs)
      else .ok (none, jobs)

/-! ## `start`, `retry` and `finish` -/

/-- An `UPDATE` of the row of a job, which must be there. -/
def updateJob (job : StudioGenerationJob) (p : JobRow → Bool) (set : JobRow → JobRow)
    (jobs : List JobRow) : Except StudioGenerationQueueError (List JobRow) :=
  let matching := fun row : JobRow => row.key = job.key && row.version = job.version && p row
  if jobs.any matching then .ok (updated matching set jobs)
  else .error { code := "STUDIO_JOB_LEASE_LOST", retryable := true }

/-- `_scope`: the context of the job, whose construction checks its ids. -/
def checkScope (job : StudioGenerationJob) : Except StudioGenerationQueueError Unit :=
  if [job.tenantId, job.workspaceId, job.actorId, "studio.create"].all isSafeId then .ok ()
  else .error { code := "CLOUD_ACCESS_CONTEXT_INVALID" }

def start (job : StudioGenerationJob) (jobs : List JobRow) :
    Except StudioGenerationQueueError (List JobRow) := do
  checkScope job
  updateJob job (fun row => row.state = .leased) (fun row => { row with state := .generating }) jobs

/-- The `SET` clause of `retry`. -/
def JobRow.requeue (row : JobRow) (errorCode : String) (nextAttemptAt : Int) : JobRow :=
  { row with
    state := .queued, leaseOwner := none, leaseUntil := none, safeErrorCode := some errorCode,
    nextAttemptAt, version := row.version + 1 }

/-- `retry`: whether the job was queued again. -/
def retry (env : Env) (job : StudioGenerationJob) (errorCode : String) (delaySeconds : Int)
    (jobs : List JobRow) : Except StudioGenerationQueueError (Bool × List JobRow) := do
  if 3 ≤ job.attempt then return (false, jobs)
  else
    checkScope job
    let jobs ← updateJob job (fun row => row.InWork)
      (·.requeue errorCode (env.now + delaySeconds * 1000000)) jobs
    return (true, jobs)

/-- The `SET` clause of `finish`. -/
def JobRow.finish (row : JobRow) (state : JobState) (errorCode studioOutputId outputVersionId : Option String)
    (now : Int) : JobRow :=
  { row with
    state, leaseOwner := none, leaseUntil := none, safeErrorCode := errorCode, studioOutputId,
    outputVersionId, completedAt := some now, version := row.version + 1 }

/-- The states that `finish` takes. -/
def JobState.terminal : List JobState := [.completed, .failed, .unavailable]

def finish (env : Env) (job : StudioGenerationJob) (state : JobState)
    (errorCode studioOutputId outputVersionId : Option String) (jobs : List JobRow) :
    Except StudioGenerationQueueError (List JobRow) := do
  if state ∉ JobState.terminal then .error { code := "STUDIO_JOB_STATE_INVALID" }
  else
    checkScope job
    updateJob job (fun row => row.InWork)
      (·.finish state errorCode studioOutputId outputVersionId env.now) jobs

/-! ## The machine -/

/-- A row that `INSERT INTO studio_generation_jobs` makes: the columns that it does not name have their
defaults. -/
structure NewJob where
  tenantId : String
  workspaceId : String
  jobId : String
  actorId : String
  traceId : String
  policyVersion : String
  idempotencyKey : String
  requestJson : String

def NewJob.row (new : NewJob) (now : Int) : JobRow where
  tenantId := new.tenantId
  workspaceId := new.workspaceId
  jobId := new.jobId
  actorId := new.actorId
  traceId := new.traceId
  policyVersion := new.policyVersion
  idempotencyKey := new.idempotencyKey
  requestJson := new.requestJson
  nextAttemptAt := now
  createdAt := now

def JobRow.clashes (a b : JobRow) : Bool :=
  a.key = b.key || (a.tenantId = b.tenantId && a.workspaceId = b.workspaceId &&
    a.actorId = b.actorId && a.idempotencyKey = b.idempotencyKey)

/-- The `INSERT`. -/
def enqueue (env : Env) (new : NewJob) (jobs : List JobRow) :
    Except StudioGenerationQueueError (List JobRow) :=
  if jobs.any (·.clashes (new.row env.now)) then .error { code := "DATABASE_CONSTRAINT_VIOLATION" }
  else .ok (jobs ++ [new.row env.now])

inductive Transaction where
  | enqueue (new : NewJob)
  | claim (workerId : String) (leaseSeconds : Int)
  | start (ticket : Nat)
  | retry (ticket : Nat) (errorCode : String) (delaySeconds : Int)
  | finish (ticket : Nat) (state : JobState) (errorCode studioOutputId outputVersionId : Option String)

structure Input where
  env : Env
  transaction : Transaction

inductive Reply where
  | claimed (job : Option StudioGenerationJob)
  | retried (queued : Bool)
  | done
  deriving DecidableEq

structure System where
  jobs : List JobRow
  issued : List StudioGenerationJob

def System.job (s : System) (ticket : Nat) : Except StudioGenerationQueueError StudioGenerationJob :=
  match s.issued[ticket]? with
  | none => .error { code := "NO_SUCH_TICKET" }
  | some job => .ok job

def execute (s : System) (env : Env) :
    Transaction → Except StudioGenerationQueueError (Reply × List JobRow)
  | .enqueue new => (enqueue env new s.jobs).map (Reply.done, ·)
  | .claim workerId leaseSeconds =>
    (claim env workerId leaseSeconds s.jobs).map fun r => (.claimed r.1, r.2)
  | .start ticket => do
    let job ← s.job ticket
    (start job s.jobs).map (Reply.done, ·)
  | .retry ticket errorCode delaySeconds => do
    let job ← s.job ticket
    (retry env job errorCode delaySeconds s.jobs).map fun r => (.retried r.1, r.2)
  | .finish ticket state errorCode studioOutputId outputVersionId => do
    let job ← s.job ticket
    (finish env job state errorCode studioOutputId outputVersionId s.jobs).map (Reply.done, ·)

def Reply.issued : Reply → List StudioGenerationJob
  | .claimed job => job.toList
  | _ => []

def transact (s : System) (i : Input) : Except StudioGenerationQueueError (Reply × System) :=
  match execute s i.env i.transaction, i.env.failure with
  | .ok (reply, jobs), none => .ok (reply, ⟨jobs, s.issued ++ reply.issued⟩)
  | .ok _, some e => .error e
  | .error e, _ => .error e

def queue : Machine System Input (Except StudioGenerationQueueError Reply) where
  init := ⟨[], []⟩
  step s i := match transact s i with
    | .ok (reply, s') => (.ok reply, s')
    | .error e => (.error e, s)

end DaonUser.Studio
