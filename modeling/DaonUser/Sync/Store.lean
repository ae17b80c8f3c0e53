import DaonUser.Sync.Document
import DaonUser.Lib.Table

/-!
# Sync: the PostgreSQL service

The rows of one tenant and workspace, the keys that migration 0004 puts on them, and the calls of
`PostgresSyncService`. A call runs `SyncService` on one hydrated operation inside a transaction and
inserts what it added; what a failing transaction wrote is rolled back, except that tokens stay drawn
and the port stays asked.

Columns that no key, check or later statement looks at are left out of the rows.
-/

namespace DaonUser.Sync.Postgres

open Lib

/-! ## Rows -/

/-- `sync_operations`. -/
structure StoredOperation extends OperationRow where
  idempotencyKey : String
  requestFingerprint : String

/-- `sync_approval_snapshots`. -/
structure ApprovalRow where
  approvalSnapshotId : String
  operationId : String
  actorId : String
  idempotencyKey : String

/-- `sync_manifest_items`. -/
structure ManifestRow where
  approvalSnapshotId : String
  operationId : String
  itemId : String

/-- `sync_conflicts`. -/
structure ConflictRow where
  conflictId : String
  operationId : String
  approvalSnapshotId : Option String
  itemId : String
  localDigest : String
  cloudVersionId : Option String
  cloudDigest : Option String
  baseVersionId : Option String
  baseDigest : Option String

/-- `sync_target_versions`. -/
structure TargetRow where
  targetVersionId : String
  operationId : String
  approvalSnapshotId : Option String
  itemId : String
  objectId : String
  digestSha256 : String
  relation : String

/-- `sync_transfer_batches`. -/
structure BatchRow where
  batchId : String
  operationId : String
  approvalSnapshotId : Option String
  actorId : String
  sequence : Nat
  idempotencyKey : String

/-- `sync_transfer_attempts`. -/
structure AttemptRow where
  attemptId : String
  batchId : String
  operationId : String
  itemId : String

/-- `sync_conflict_resolutions`. -/
structure ResolutionRow where
  resolutionId : String
  conflictId : String
  operationId : String
  actorId : String
  idempotencyKey : String

/-- `sync_reindex_requests`. -/
structure ReindexRow where
  reindexRequestId : String
  operationId : String
  targetVersionId : String

structure Rows where
  approvals : List ApprovalRow := []
  manifestItems : List ManifestRow := []
  conflicts : List ConflictRow := []
  targets : List TargetRow := []
  batches : List BatchRow := []
  attempts : List AttemptRow := []
  resolutions : List ResolutionRow := []
  reindexRequests : List ReindexRow := []

structure Tables extends Rows where
  operations : Dict String StoredOperation

def Tables.empty : Tables := { operations := .empty }

structure Env extends Sync.Env where
  /-- The object exists when its target version is inserted. -/
  objects : String → Bool
  /-- What the transaction fails with for reasons outside these tables. -/
  failure : Option SyncError

/-! ## Keys and checks -/

namespace Rows

variable (rows : Rows)

/-- The approval snapshot exists; `none` is refused as a null. -/
def HasApproval (approvalSnapshotId : Option String) : Prop :=
  ∃ row ∈ rows.approvals, some row.approvalSnapshotId = approvalSnapshotId

def HasManifest (operationId itemId : String) : Prop :=
  ∃ row ∈ rows.manifestItems, row.operationId = operationId ∧ row.itemId = itemId

instance (approvalSnapshotId : Option String) : Decidable (rows.HasApproval approvalSnapshotId) :=
  inferInstanceAs (Decidable (∃ _ ∈ _, _))

instance (operationId itemId : String) : Decidable (rows.HasManifest operationId itemId) :=
  inferInstanceAs (Decidable (∃ _ ∈ _, _))

end Rows

def approvalSnapshots : Table Tables ApprovalRow where
  rows t := t.approvals
  append t new := { t with approvals := t.approvals ++ new }
  Apart row row' := row.approvalSnapshotId ≠ row'.approvalSnapshotId ∧
    row.operationId ≠ row'.operationId ∧
    ¬(row.actorId = row'.actorId ∧ row.idempotencyKey = row'.idempotencyKey)
  Fits t row := t.operations.get? row.operationId ≠ none
  decidableApart _ _ := inferInstance
  decidableFits _ _ := inferInstance
  rows_append _ _ := rfl
  append_nil _ := by simp
  append_append _ _ _ := by simp
  fits_append _ _ _ := Iff.rfl

def manifestItems : Table Tables ManifestRow where
  rows t := t.manifestItems
  append t new := { t with manifestItems := t.manifestItems ++ new }
  Apart row row' :=
    ¬(row.approvalSnapshotId = row'.approvalSnapshotId ∧ row.itemId = row'.itemId) ∧
      ¬(row.operationId = row'.operationId ∧ row.itemId = row'.itemId)
  Fits t row := t.HasApproval (some row.approvalSnapshotId) ∧
    t.operations.get? row.operationId ≠ none
  decidableApart _ _ := inferInstance
  decidableFits _ _ := inferInstance
  rows_append _ _ := rfl
  append_nil _ := by simp
  append_append _ _ _ := by simp
  fits_append _ _ _ := Iff.rfl

def conflicts : Table Tables ConflictRow where
  rows t := t.conflicts
  append t new := { t with conflicts := t.conflicts ++ new }
  Apart row row' := row.conflictId ≠ row'.conflictId ∧
    ¬(row.operationId = row'.operationId ∧ row.itemId = row'.itemId)
  Fits t row := t.HasManifest row.operationId row.itemId ∧
    t.HasApproval row.approvalSnapshotId ∧ isDigest row.localDigest ∧
    (row.cloudVersionId = none ↔ row.cloudDigest = none) ∧ row.cloudDigest.all isDigest ∧
    (row.baseVersionId = none ↔ row.baseDigest = none) ∧ row.baseDigest.all isDigest
  decidableApart _ _ := inferInstance
  decidableFits _ _ := inferInstance
  rows_append _ _ := rfl
  append_nil _ := by simp
  append_append _ _ _ := by simp
  fits_append _ _ _ := Iff.rfl

def targetVersions (env : Env) : Table Tables TargetRow where
  rows t := t.targets
  append t new := { t with targets := t.targets ++ new }
  Apart row row' := row.targetVersionId ≠ row'.targetVersionId ∧
    ¬(row.operationId = row'.operationId ∧ row.itemId = row'.itemId)
  Fits t row := t.HasManifest row.operationId row.itemId ∧
    t.HasApproval row.approvalSnapshotId ∧ env.objects row.objectId ∧
    isDigest row.digestSha256 ∧
    row.relation ∈ ["copy", "keep_local_as_new_version", "keep_both"]
  decidableApart _ _ := inferInstance
  decidableFits _ _ := inferInstance
  rows_append _ _ := rfl
  append_nil _ := by simp
  append_append _ _ _ := by simp
  fits_append _ _ _ := Iff.rfl

def transferBatches : Table Tables BatchRow where
  rows t := t.batches
  append t new := { t with batches := t.batches ++ new }
  Apart row row' := row.batchId ≠ row'.batchId ∧
    ¬(row.operationId = row'.operationId ∧ row.sequence = row'.sequence) ∧
    ¬(row.actorId = row'.actorId ∧ row.idempotencyKey = row'.idempotencyKey)
  Fits t row := t.operations.get? row.operationId ≠ none ∧
    t.HasApproval row.approvalSnapshotId ∧ 0 < row.sequence
  decidableApart _ _ := inferInstance
  decidableFits _ _ := inferInstance
  rows_append _ _ := rfl
  append_nil _ := by simp
  append_append _ _ _ := by simp
  fits_append _ _ _ := Iff.rfl

def transferAttempts : Table Tables AttemptRow where
  rows t := t.attempts
  append t new := { t with attempts := t.attempts ++ new }
  Apart row row' := row.attemptId ≠ row'.attemptId
  Fits t row := (∃ batch ∈ t.batches, batch.batchId = row.batchId) ∧
    t.HasManifest row.operationId row.itemId
  decidableApart _ _ := inferInstance
  decidableFits _ _ := inferInstance
  rows_append _ _ := rfl
  append_nil _ := by simp
  append_append _ _ _ := by simp
  fits_append _ _ _ := Iff.rfl

def conflictResolutions : Table Tables ResolutionRow where
  rows t := t.resolutions
  append t new := { t with resolutions := t.resolutions ++ new }
  Apart row row' := row.resolutionId ≠ row'.resolutionId ∧ row.conflictId ≠ row'.conflictId ∧
    ¬(row.actorId = row'.actorId ∧ row.idempotencyKey = row'.idempotencyKey)
  Fits t row := (∃ conflict ∈ t.conflicts, conflict.conflictId = row.conflictId) ∧
    t.operations.get? row.operationId ≠ none
  decidableApart _ _ := inferInstance
  decidableFits _ _ := inferInstance
  rows_append _ _ := rfl
  append_nil _ := by simp
  append_append _ _ _ := by simp
  fits_append _ _ _ := Iff.rfl

def reindexRequests : Table Tables ReindexRow where
  rows t := t.reindexRequests
  append t new := { t with reindexRequests := t.reindexRequests ++ new }
  Apart row row' := row.reindexRequestId ≠ row'.reindexRequestId ∧
    ¬(row.operationId = row'.operationId ∧ row.targetVersionId = row'.targetVersionId)
  Fits t row := t.operations.get? row.operationId ≠ none ∧
    ∃ target ∈ t.targets, target.targetVersionId = row.targetVersionId
  decidableApart _ _ := inferInstance
  decidableFits _ _ := inferInstance
  rows_append _ _ := rfl
  append_nil _ := by simp
  append_append _ _ _ := by simp
  fits_append _ _ _ := Iff.rfl

/-- The transitions that `guard_sync_operation_update` lists between states that the service
gives. -/
def transitions : List (OperationState × OperationState) :=
  [(.awaitingApproval, .approved), (.approved, .transferring), (.approved, .conflict),
    (.approved, .reindexRequested), (.transferring, .transferring), (.transferring, .conflict),
    (.transferring, .reindexRequested), (.conflict, .transferring), (.conflict, .conflict),
    (.conflict, .reindexRequested)]

/-! ## Statements -/

structure Store where
  tables : Tables
  drawn : Nat
  transmissions : List Transmission

abbrev Statement (α : Type) := Call Store SyncError α

def transaction {α : Type} (x : Statement α) : Statement α := fun s =>
  match x s with
  | (.ok a, s') => (.ok a, s')
  | (.error e, s') => (.error e, { s' with tables := s.tables })

def raiseAny : Option SyncError → Statement PUnit
  | none => pure ⟨⟩
  | some e => Call.raise e

def constraintViolation : SyncError := { code := "DATABASE_CONSTRAINT_VIOLATION", status := 503 }

/-- `INSERT` of rows one after the other. -/
def insertRows {ρ : Type} (table : Table Tables ρ) : List ρ → Statement PUnit
  | [] => pure ⟨⟩
  | row :: rows => do
    let s ← Call.get
    Call.ensure (table.Admits s.tables row) constraintViolation
    Call.modify fun s => { s with tables := table.append s.tables [row] }
    insertRows table rows

/-- `INSERT` of rows that draw their ids. -/
def insertDrawn {ι ρ : Type} (prim : Primitives) (kind : String) (table : Table Tables ρ)
    (build : String → ι → ρ) : List ι → Statement PUnit
  | [] => pure ⟨⟩
  | x :: xs => do
    let s ← Call.get
    Call.modify fun s => { s with drawn := s.drawn + 1 }
    insertRows table [build (prim.tokens.id kind s.drawn) x]
    insertDrawn prim kind table build xs

/-- A call of `SyncService` on a repository, and the repository after it. -/
def runService {α : Type} (x : Op α) (r : Repository) : Statement (α × Repository) := fun s =>
  match x ⟨r, s.drawn, s.transmissions⟩ with
  | (.ok a, s') => (.ok (a, s'.repository), ⟨s.tables, s'.drawn, s'.transmissions⟩)
  | (.error e, s') => (.error e, ⟨s.tables, s'.drawn, s'.transmissions⟩)

/-- `_row`. -/
def selectOperation (operationId : String) : Statement StoredOperation :=
  Call.query fun s => match s.tables.operations.get? operationId with
    | none => .error { code := "SYNC_OPERATION_UNAVAILABLE", status := 404 }
    | some row => .ok row

/-- `repository.operations[operation_id]`. -/
def operationOf (r : Repository) (operationId : String) : Statement Operation :=
  Call.query fun _ => match r.operations.get? operationId with
    | none => .error (interpreterError "KeyError")
    | some operation => .ok operation

def firstEntry (r : Repository) (p : Key → Result → Bool) : Statement (Key × String × Result) :=
  Call.query fun _ => match r.idempotency.entries.find? fun entry => p entry.1 entry.2.2 with
    | none => .error (interpreterError "StopIteration")
    | some entry => .ok entry

/-! ## `_mutate` -/

def persistApproval (context : SyncContext) (operationId : String) (before after : Operation)
    (r : Repository) : Statement PUnit :=
  match before.approvalSnapshotId, after.approvalSnapshotId with
  | none, some snapshotId => do
    let entry ← firstEntry r fun key _ => key.1 = operationId ∧ key.2.2.1 = "approve"
    insertRows approvalSnapshots
      [{ approvalSnapshotId := snapshotId, operationId := operationId,
         actorId := context.actorId, idempotencyKey := entry.1.2.2.2 }]
    Call.ensure (∀ itemId ∈ after.approvedItemIds, after.items.get? itemId ≠ none)
      (interpreterError "KeyError")
    insertRows manifestItems (after.approvedItemIds.map fun itemId =>
      { approvalSnapshotId := snapshotId, operationId := operationId, itemId := itemId })
  | _, _ => pure ⟨⟩

def conflictRow (operationId : String) (after : Operation) (conflict : Conflict) :
    ConflictRow where
  conflictId := conflict.conflictId
  operationId := operationId
  approvalSnapshotId := after.approvalSnapshotId
  itemId := conflict.itemId
  localDigest := conflict.localDigest
  cloudVersionId := conflict.cloudVersionId
  cloudDigest := conflict.cloudDigest
  baseVersionId := conflict.baseVersionId
  baseDigest := conflict.baseDigest

def targetRow (operationId : String) (after : Operation) (target : TargetVersion) :
    TargetRow where
  targetVersionId := target.targetVersionId
  operationId := operationId
  approvalSnapshotId := after.approvalSnapshotId
  itemId := target.itemId
  objectId := target.targetObjectId
  digestSha256 := target.digestSha256
  relation := target.relation

/-- `[conflict_items[conflict_id] for conflict_id in …]`. -/
def conflictItems (newConflicts : List Conflict) (conflictIds : List String) :
    Except SyncError (List String) :=
  conflictIds.mapM fun conflictId =>
    match (Dict.ofList (newConflicts.map fun conflict =>
        (conflict.conflictId, conflict.itemId))).get? conflictId with
    | none => .error (interpreterError "KeyError")
    | some itemId => .ok itemId

def persistBatches (prim : Primitives) (context : SyncContext) (operationId : String)
    (after : Operation) (r : Repository) (newConflicts : List Conflict) :
    List TransferBatchView → Statement PUnit
  | [] => pure ⟨⟩
  | batch :: batches => do
    let entry ← firstEntry r fun key result =>
      key.1 = operationId ∧ key.2.2.1 = "transfer" ∧ result = .text batch.batchId
    insertRows transferBatches
      [{ batchId := batch.batchId, operationId := operationId,
         approvalSnapshotId := after.approvalSnapshotId, actorId := context.actorId,
         sequence := batch.sequence, idempotencyKey := entry.1.2.2.2 }]
    Call.ensure (∀ itemId ∈ batch.transferredItemIds, after.items.get? itemId ≠ none)
      (interpreterError "KeyError")
    insertDrawn prim "sync-attempt" transferAttempts
      (fun attemptId itemId => ⟨attemptId, batch.batchId, operationId, itemId⟩)
      batch.transferredItemIds
    let itemIds ← Call.query fun _ => conflictItems newConflicts batch.conflictIds
    insertDrawn prim "sync-attempt" transferAttempts
      (fun attemptId itemId => ⟨attemptId, batch.batchId, operationId, itemId⟩) itemIds
    persistBatches prim context operationId after r newConflicts batches

def isResolution (operationId resolutionId : String) (key : Key) : Result → Bool
  | .resolution value =>
    key.1 = operationId ∧ key.2.2.1 = "resolution" ∧ value.resolutionId = resolutionId
  | _ => false

def persistResolution (context : SyncContext) (operationId : String) (r : Repository) :
    Reply → Statement PUnit
  | .resolution result => do
    let entry ← firstEntry r (isResolution operationId result.resolutionId)
    insertRows conflictResolutions
      [{ resolutionId := result.resolutionId, conflictId := result.conflictId,
         operationId := operationId, actorId := context.actorId,
         idempotencyKey := entry.1.2.2.2 }]
  | _ => pure ⟨⟩

/-- The row that the `UPDATE` leaves. -/
def StoredOperation.written (row : StoredOperation) (after : Operation) (r : Repository) :
    StoredOperation :=
  { row with
    state := after.state, version := after.version, stateDocument := dumpOperation after r }

/-- The guarded `UPDATE` of the operation. -/
def updateOperation (operationId : String) (row : StoredOperation) (after : Operation)
    (r : Repository) : Statement PUnit := do
  Call.ensure (after.version = row.version + 1) { code := "SYNC_VERSION_CONFLICT" }
  Call.ensure ((row.state, after.state) ∈ transitions) constraintViolation
  Call.modify fun s =>
    { s with
      tables :=
        { s.tables with
          operations := s.tables.operations.update operationId (·.written after r) } }

/-- What `_mutate` writes after a call that changed the operation. -/
def persist (prim : Primitives) (env : Env) (context : SyncContext) (operationId : String)
    (row : StoredOperation) (before after : Operation) (r : Repository) (result : Reply) :
    Statement PUnit := do
  persistApproval context operationId before after r
  let newBatches := after.batches.drop before.batches.length
  let newConflicts := after.conflicts.drop before.conflicts.length
  let newTargets := after.targetVersions.drop before.targetVersions.length
  insertRows conflicts (newConflicts.map (conflictRow operationId after))
  Call.ensure (∀ target ∈ newTargets, after.items.get? target.itemId ≠ none)
    (interpreterError "KeyError")
  insertRows (targetVersions env) (newTargets.map (targetRow operationId after))
  persistBatches prim context operationId after r newConflicts newBatches
  persistResolution context operationId r result
  insertDrawn prim "sync-reindex" reindexRequests
    (fun requestId target => ⟨requestId, operationId, target.targetVersionId⟩)
    (if after.reindexRequested then newTargets else [])
  updateOperation operationId row after r

def mutate (prim : Primitives) (env : Env) (context : SyncContext) (operationId : String)
    (callback : Op Reply) : Statement Reply :=
  transaction do
    let row ← selectOperation operationId
    let (hydrated, r) ← Call.query fun _ => hydrate row.toOperationRow
    let before : Operation := { hydrated with context := context }
    let (result, r) ← runService callback
      { r with operations := r.operations.set operationId before }
    let after ← operationOf r operationId
    if after.version = before.version then do
      raiseAny env.failure
      return result
    else do
      persist prim env context operationId row before after r result
      raiseAny env.failure
      return result

/-- `create_operation`. The inserts into tables that are left out here fail, if they do, as the
environment decides. -/
def createOperation (prim : Primitives) (env : Env) (context : SyncContext) (targetArea : String)
    (items : List SyncItemInput) (idempotencyKey : String) (ifMatch : ExpectedVersion) :
    Statement Reply :=
  transaction do
    let fingerprint := createFingerprint prim targetArea items
    let s ← Call.get
    match s.tables.operations.values.find? fun row =>
        row.actorId = context.actorId ∧ row.idempotencyKey = idempotencyKey with
    | some replay => do
      Call.ensure (replay.requestFingerprint = fingerprint) { code := "IDEMPOTENCY_KEY_REUSED" }
      let (operation, _) ← Call.query fun _ => hydrate replay.toOperationRow
      raiseAny env.failure
      return .operation (view operation)
    | none => do
      let (result, r) ← runService
        (Sync.createOperation prim context targetArea items idempotencyKey ifMatch)
        { operations := .empty, idempotency := .empty, audit := [] }
      let operation ← operationOf r result.operationId
      let row : StoredOperation :=
        { operation.row (dumpOperation operation r) with
          idempotencyKey := idempotencyKey, requestFingerprint := fingerprint }
      let s ← Call.get
      Call.ensure (s.tables.operations.get? row.operationId = none ∧
        ∀ other ∈ s.tables.operations.values,
          ¬(other.actorId = row.actorId ∧ other.idempotencyKey = row.idempotencyKey))
        constraintViolation
      Call.modify fun s =>
        { s with
          tables :=
            { s.tables with operations := s.tables.operations.set row.operationId row } }
      raiseAny env.failure
      return .operation result

def getOperation (env : Env) (context : SyncContext) (operationId : String) : Statement Reply :=
  transaction do
    let row ← selectOperation operationId
    let (operation, _) ← Call.query fun _ => hydrate row.toOperationRow
    raiseAny env.failure
    return .operation (view { operation with context := context })

/-- A tenant and one of its workspaces. The tenant was named before any operation was drawn. -/
structure Scope (prim : Primitives) where
  tenantId : String
  workspaceId : String
  drawnLater : ∀ n, prim.tokens.id "sync" n ≠ tenantId

structure Input {prim : Primitives} (scope : Scope prim) where
  env : Env
  context : SyncContext
  inScope : context.tenantId = scope.tenantId ∧ context.workspaceId = scope.workspaceId
  request : Request

/-- The call as `SyncService` gets it. -/
def Input.core {prim : Primitives} {scope : Scope prim} (i : Input scope) : Sync.Input :=
  ⟨i.env.toEnv, i.context, i.request⟩

def execute {prim : Primitives} {scope : Scope prim} (i : Input scope) : Statement Reply :=
  match i.request with
  | .createOperation targetArea items key ifMatch =>
    createOperation prim i.env i.context targetArea items key ifMatch
  | .getOperation operationId => getOperation i.env i.context operationId
  | .approve operationId .. => mutate prim i.env i.context operationId (serve prim i.core)
  | .transferBatch operationId .. => mutate prim i.env i.context operationId (serve prim i.core)
  | .resolveConflict operationId .. => mutate prim i.env i.context operationId (serve prim i.core)

/-- The calls of `PostgresSyncService` in one scope. -/
def machine {prim : Primitives} (scope : Scope prim) : Machine Store (Input scope) Outcome where
  init := ⟨.empty, 0, []⟩
  step s i := execute i s

end DaonUser.Sync.Postgres
