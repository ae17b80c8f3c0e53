import DaonUser.Restore.Journal

/-!
# The phases of a restore

`materialize_lineage` with the operations of `PostgresLineageTarget` that it calls, as a process: the phase
receipts are transactions on the source database, everything else is an operation whose answer may be
anything. An operation that answers what the code refuses at once is one that raises.
-/

namespace DaonUser.Restore

open Lib
open DaonUser.Recovery

/-- `RestorePlan`: the ids of its `object_records`, the digest of its provenance and its own. -/
structure RestorePlan where
  objectIds : List String
  provenanceDigest : String
  digest : String
  deriving DecidableEq

structure CurrentRestoreState where
  context : RecoveryContext
  binding : RestoreBinding
  currentRetentionWatermark : String

structure MaterializationResult where
  lastPhase : Nat
  state : String
  targetDigest : String
  provenanceDigest : String
  deriving DecidableEq

structure Ports (M : Type) where
  sha256 : String → String
  /-- `datetime.fromisoformat`, in microseconds. -/
  fromisoformat : String → Option Int
  /-- `build_restore_plan`. -/
  buildRestorePlan : LineageCaptureScope → M → List String → Except RestoreError RestorePlan

inductive Write where
  | foundation
  /-- `streams.upload`. -/
  | upload (objectId : String)
  /-- `queue.register_object_job`. -/
  | registerObjectJob (objectId : String)
  /-- `queue.claim`. -/
  | claim (objectId : String)
  /-- `worker.process_claimed`. -/
  | processClaimed (objectId : String)
  | insertPhase (phase : Nat)
  | auditPhase (phase : Nat)
  deriving DecidableEq

inductive Operation where
  | recheck
  /-- `store.verify`. -/
  | verify
  /-- `clock()`. -/
  | now
  | check (fresh : Bool)
  | verifyObjects (objectId : String)
  | verifyPhase (plan : RestorePlan) (phase : Nat)
  | write (plan : RestorePlan) (phase : Nat) (w : Write)
  deriving DecidableEq

def Operation.Answer (M : Type) : Operation → Type
  | recheck => CurrentRestoreState
  | verify => M
  | now => Int
  | _ => Unit

abbrev Steps (M : Type) :=
  Workflow JournalCall RestoreError JournalAnswer Operation (Operation.Answer M)

section Operations

variable {M : Type}

def recheck : Steps M CurrentRestoreState := Workflow.ask Operation.recheck

/-- `store.verify(…).metadata`. -/
def verifyCapture : Steps M M := Workflow.ask Operation.verify

def now : Steps M Int := Workflow.ask Operation.now

/-- `target.check`. -/
def check (fresh : Bool) : Steps M Unit := Workflow.ask (Operation.check fresh)

/-- `self.verify_objects`, of one object. -/
def verifyObjects (objectId : String) : Steps M Unit :=
  Workflow.ask (Operation.verifyObjects objectId)

/-- `target.verify_phase`, whose value is `phaseDigest`. -/
def verifyPhase (plan : RestorePlan) (phase : Nat) : Steps M Unit :=
  Workflow.ask (Operation.verifyPhase plan phase)

def write (plan : RestorePlan) (phase : Nat) (w : Write) : Steps M Unit :=
  Workflow.ask (Operation.write plan phase w)

end Operations

/-- A call of `materialize_lineage` for a request. -/
structure Materialize (key : RestoreKey) where
  context : RecoveryContext
  scope : LineageCaptureScope
  receipt : Json Int
  binding : RestoreBinding
  destination : RegisteredDestination
  ofRequest : context.tenantId = key.tenantId ∧ context.workspaceId = key.workspaceId ∧
    binding.requestId = key.requestId

section Code

variable {M : Type} (ports : Ports M) {key : RestoreKey} (c : Materialize key)

/-- `_hash([plan.digest, phase])`. -/
def phaseDigest (plan : RestorePlan) (phase : Nat) : String :=
  hash_ ports.sha256 (.arr [.str plan.digest, .num phase])

/-- `_hash([plan.digest, phase, "uncertain"])`. -/
def uncertainDigest (plan : RestorePlan) (phase : Nat) : String :=
  hash_ ports.sha256 (.arr [.str plan.digest, .num phase, .str "uncertain"])

/-- The checks before the first call. -/
def Materialize.Accepted : Prop :=
  (c.context.tenantId = c.scope.tenantId ∧ c.context.workspaceId = c.scope.workspaceId) ∧
    (c.destination.tenantId = c.context.tenantId ∧ c.destination.workspaceId = c.context.workspaceId ∧
      c.destination.actorId = c.context.actorId) ∧
    (c.binding.registryGenerationId = c.destination.registryGenerationId ∧
      c.binding.destinationId = c.destination.destinationId ∧
      c.binding.destinationVersion = c.destination.version ∧
      c.binding.ownerOperationId = c.destination.ownerOperationId) ∧
    c.binding.closureFingerprint = c.scope.closureFingerprint ∧
    c.binding.retentionWatermark = c.scope.retentionWatermark ∧
    c.binding.receiptDigest = hash_ ports.sha256 c.receipt

instance : Decidable (c.Accepted ports) :=
  inferInstanceAs (Decidable (_ ∧ _))

def current : Steps M Unit := do
  let state ← recheck
  Workflow.ensure (state.context = c.context ∧ state.binding = c.binding ∧
    state.currentRetentionWatermark = c.binding.currentRetentionWatermark) .manifestInvalid

def unexpired : Steps M Unit := do
  let moment ← now
  Workflow.ensure (moment < c.binding.previewExpiresAt) .manifestInvalid
  let expires ← Workflow.ofExcept
    (match ports.fromisoformat (replaceZone c.destination.expiresAt) with
      | some expires => .ok expires
      | none => .error .other)
  let moment ← now
  Workflow.ensure (moment < expires) .manifestInvalid

def boundary : Steps M Unit := do
  current c
  unexpired ports c
  check false

/-- `target.objects`, for the objects that are left. -/
def objects (plan : RestorePlan) : List String → Steps M Unit
  | [] => pure ()
  | objectId :: rest => do
    write plan 2 (.upload objectId)
    boundary ports c
    write plan 2 (.registerObjectJob objectId)
    write plan 2 (.claim objectId)
    write plan 2 (.processClaimed objectId)
    verifyObjects objectId
    objects plan rest

def mutate (plan : RestorePlan) (phase : Nat) : Steps M Unit :=
  if phase = 1 then write plan phase .foundation
  else if phase = 2 then objects ports c plan plan.objectIds
  else if phase < 7 then write plan phase (.insertPhase phase)
  else pure ()

/-- The body of the `try`. -/
def phaseBody (plan : RestorePlan) (phase : Nat) : Steps M String := do
  mutate ports c plan phase
  boundary ports c
  write plan phase (.auditPhase phase)
  verifyPhase plan phase
  boundary ports c
  pure (phaseDigest ports plan phase)

def phaseError (phase : Nat) (e : RestoreError) : RestoreError :=
  if e.isException then .materialization phase else e

/-- `journal.append`. -/
def appendReceipt (execution : RecoveryContext) (plan : RestorePlan) (phase : Nat)
    (outcome : PhaseOutcome) (resultDigest : Option String) : Steps M Unit := do
  let _ ← (Workflow.call (.append execution c.binding phase outcome plan.digest resultDigest) :
    Steps M JournalAnswer)
  pure ()

def runPhase (execution : RecoveryContext) (plan : RestorePlan) (fresh : Bool) (phase : Nat) :
    Steps M Unit := do
  unexpired ports c
  current c
  check (fresh && phase = 1)
  appendReceipt c execution plan phase .intent none
  let digest ← (phaseBody ports c plan phase).handle fun
    | .ok digest => pure digest
    | .error e =>
      -- A receipt that cannot be recorded leaves the intent.
      (appendReceipt c execution plan phase .uncertain (some (uncertainDigest ports plan phase))).handle
        fun _ => Workflow.raise (phaseError phase e)
  (appendReceipt c execution plan phase .succeeded (some digest)).handle fun
    | .ok _ => pure ()
    | .error e => Workflow.raise (phaseError phase e)

def phases (execution : RecoveryContext) (plan : RestorePlan) (fresh : Bool) :
    List Nat → Steps M Unit
  | [] => pure ()
  | phase :: rest => do
    runPhase ports c execution plan fresh phase
    phases execution plan fresh rest

def expectedOutcome (index : Nat) : PhaseOutcome := if index % 2 = 0 then .intent else .succeeded

def replayed (plan : RestorePlan) (trace : String) :
    Nat → Nat → List HistoryRow → Except RestoreError Nat
  | _, last, [] => .ok last
  | index, last, row :: rest =>
    if row.sequence ≠ index + 1 ∨ row.phase ≠ index / 2 + 1 ∨
        row.outcome ≠ expectedOutcome index ∨ row.targetDigest ≠ plan.digest ∨
        row.operationId ≠ c.binding.operationId ∨ row.idempotencyKey ≠ c.binding.idempotencyKey ∨
        row.traceId ≠ trace then
      .error (.materialization row.phase)
    else if row.outcome = .succeeded then
      if row.resultDigest ≠ some (phaseDigest ports plan row.phase) then
        .error (.materialization row.phase)
      else replayed plan trace (index + 1) row.phase rest
    else replayed plan trace (index + 1) last rest

def executionOf (history : List HistoryRow) : Except RestoreError RecoveryContext :=
  match history.head? with
  | none => .ok c.context
  | some row =>
    if isSafeId row.traceId then .ok { c.context with traceId := row.traceId }
    else .error .inputInvalid

/-- `journal.load`. -/
def loadHistory : Steps M (List HistoryRow) := do
  let answer ← (Workflow.call (.load c.context c.binding c.destination c.scope) :
    Steps M JournalAnswer)
  match answer with
  | .history rows => pure rows
  | .done => Workflow.raise .other

def verifyLast (plan : RestorePlan) (last : Nat) : Steps M Unit :=
  if last ≠ 0 then verifyPhase plan last else pure ()

/-- `materialize_lineage`, from what the history says. -/
def resume (plan : RestorePlan) (history : List HistoryRow) : Steps M MaterializationResult := do
  let execution ← Workflow.ofExcept (executionOf c history)
  let last ← Workflow.ofExcept (replayed ports c plan execution.traceId 0 0 history)
  Workflow.ensure (history.length % 2 = 0) (.materialization (history.getLast?.elim 0 (·.phase)))
  check history.isEmpty
  verifyLast plan last
  phases ports c execution plan history.isEmpty (List.range' (last + 1) (7 - last))
  current c
  check false
  pure ⟨7, "materialized", plan.digest, plan.provenanceDigest⟩

def materializeLineage : Steps M MaterializationResult := do
  Workflow.ensure (c.Accepted ports) .manifestInvalid
  current c
  let metadata ← verifyCapture
  let plan ← Workflow.ofExcept (ports.buildRestorePlan c.scope metadata c.binding.includedRoots)
  current c
  let history ← loadHistory c
  resume ports c plan history

end Code

/-! ## Runs -/

/-- What a process does: a call for the request, or another transaction on the database. -/
inductive RestoreJob (key : RestoreKey) where
  | materialize (c : Materialize key)
  | change (locks : PhaseRecords → List ReservationLock)
      (write : PhaseRecords → PhaseRecords → PhaseRecords)

section Runs

variable {M : Type} (ports : Ports M) {key : RestoreKey}

def RestoreJob.steps : RestoreJob key → Steps M (Option MaterializationResult)
  | materialize c => do
    let result ← materializeLineage ports c
    pure (some result)
  | change locks write => do
    let _ ← (Workflow.call (.change locks write) : Steps M JournalAnswer)
    pure none

def restore {P : Type} [DecidableEq P] (surroundings : PhaseRecords) :
    Machine (World P JournalCall PhaseRows ReservationLock RestoreError JournalAnswer Operation
        (Operation.Answer M) (Option MaterializationResult))
      (Act P (RestoreJob key) RestoreError Operation (Operation.Answer M))
      (Option (P × Except RestoreError (Option MaterializationResult))) :=
  workflows (JournalCall.program ports.sha256 key) (RestoreJob.steps ports) ⟨[], surroundings⟩

end Runs

end DaonUser.Restore
