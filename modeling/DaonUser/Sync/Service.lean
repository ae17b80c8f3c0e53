import DaonUser.Sync.Model
import Mathlib.Data.List.Sort

/-!
# Sync: the calls of the service

The calls of `SyncService`, statement by statement, and the machine that answers them. A call holds the
repository's lock, so the calls of a run are atomic; one that raises keeps what it wrote before, so a batch
that fails half way leaves its first items transferred and no batch.

`sendPayloads` is the loop of `transfer_batch`.
-/

namespace DaonUser.Sync

open Lib

variable (prim : Primitives)

/-! ## Reads and writes -/

namespace Repository

variable (r : Repository)

def operation (context : SyncContext) (operationId : String) : Except SyncError Operation :=
  match r.operations.get? operationId with
  | none => .error { code := "SYNC_OPERATION_UNAVAILABLE", status := 404 }
  | some operation =>
    if operation.context.tenantId ≠ context.tenantId ∨
        operation.context.workspaceId ≠ context.workspaceId then
      .error { code := "SYNC_OPERATION_UNAVAILABLE", status := 404 }
    else .ok operation

/-- What a used idempotency key stands for; a key used for another request is an error. -/
def replay (key : Key) (fingerprint : String) : Except SyncError (Option Result) :=
  match r.idempotency.get? key with
  | none => .ok none
  | some (recorded, result) =>
    if recorded ≠ fingerprint then .error { code := "IDEMPOTENCY_KEY_REUSED" }
    else .ok (some result)

def update (operationId : String) (f : Operation → Operation) : Repository :=
  { r with operations := r.operations.update operationId f }

def record (key : Key) (fingerprint : String) (result : Result) : Repository :=
  { r with idempotency := r.idempotency.set key (fingerprint, result) }

/-- `_audit`. -/
def appendAudit (operationId action traceId : String) : Repository :=
  { r with audit := r.audit ++ [(operationId, action, traceId)] }

end Repository

def System.mapRepository (f : Repository → Repository) (s : System) : System :=
  { s with repository := f s.repository }

/-- `_id`. -/
def draw (kind : String) : Op String := do
  let s ← Call.get
  Call.modify fun s => { s with drawn := s.drawn + 1 }
  return prim.tokens.id kind s.drawn

def validateWrite (idempotencyKey : String) (expectedVersion : ExpectedVersion) : Op PUnit := do
  Call.ensure (isSafeId idempotencyKey) { code := "IDEMPOTENCY_KEY_INVALID", status := 400 }
  Call.ensure (expectedVersion.wellFormed) { code := "IF_MATCH_INVALID", status := 400 }

/-- An exception of the interpreter: nothing in the service raises it on purpose. -/
def interpreterError (name : String) : SyncError := { code := name, status := 500 }

def transmit (env : Env) (operation : Operation) (context : SyncContext) (item : SyncItemInput)
    (content : List UInt8) (idempotencyKey relation : String) : Op TargetVersion := do
  let s ← Call.get
  Call.modify fun s =>
    { s with
      transmissions := s.transmissions ++
        [{ operationId := operation.operationId, approved := operation.approvedItemIds,
           context := context, item := item, content := content,
           idempotencyKey := idempotencyKey, relation := relation }] }
  let ids ← Call.query fun _ => env.port s.transmissions.length
  return { targetVersionId := ids.1, targetObjectId := ids.2, itemId := item.itemId,
           digestSha256 := item.digestSha256, previousCloudVersionId := item.baseCloudVersionId,
           relation := relation }

/-! ## Previews -/

/-- An item as `_fingerprint` sees it: its `repr`, here as its fields. -/
def ItemFields.dumped (item : ItemFields) : Dumped :=
  .dict
    [("item_id", .str item.itemId), ("source_version_id", .optional item.sourceVersionId),
      ("local_object_id", .str item.localObjectId), ("digest_sha256", .str item.digestSha256),
      ("byte_size", .int item.byteSize), ("content_type", .str item.contentType),
      ("base_cloud_version_id", .optional item.baseCloudVersionId),
      ("base_cloud_digest", .optional item.baseCloudDigest),
      ("item_kind", .str item.itemKind.value),
      ("output_version_id", .optional item.outputVersionId),
      ("dependency_item_ids", .list (item.dependencyItemIds.map .str))]

/-- `{item.item_id: item for item in items}`. -/
def byId (items : List SyncItemInput) : Dict String SyncItemInput :=
  Dict.ofList (items.map fun item => (item.itemId, item))

def manifestText (items : List SyncItemInput) : String :=
  "|".intercalate ((items.insertionSort fun a b => a.itemId ≤ b.itemId).map fun item =>
    item.itemId ++ ":" ++ item.itemKind.value ++ ":" ++ item.versionId ++ ":" ++
      ",".intercalate item.dependencyItemIds ++ ":" ++ item.digestSha256)

/-- The operation that `create_operation` inserts. -/
def newOperation (operationId : String) (context : SyncContext) (targetArea : String)
    (items : List SyncItemInput) : Operation where
  operationId := operationId
  context := context
  targetArea := targetArea
  items := byId items
  manifestDigest := prim.sha256 (manifestText items).toUTF8.toList

/-- What stands in the brackets of `repr(choice)`. -/
def ConflictResolutionChoice.repr : ConflictResolutionChoice → String
  | .keepLocalAsNewVersion =>
    "ConflictResolutionChoice.KEEP_LOCAL_AS_NEW_VERSION: 'keep_local_as_new_version'"
  | .keepCloud => "ConflictResolutionChoice.KEEP_CLOUD: 'keep_cloud'"
  | .keepBoth => "ConflictResolutionChoice.KEEP_BOTH: 'keep_both'"

def ConflictResolutionView.repr (v : ConflictResolutionView) : String :=
  "ConflictResolutionView(resolution_id='" ++ v.resolutionId ++ "', conflict_id='" ++
    v.conflictId ++ "', choice=<" ++ v.choice.repr ++ ">, target_version_id=" ++
    (v.targetVersionId.map fun id => "'" ++ id ++ "'").getD "None" ++ ", replayed=" ++
    (if v.replayed then "True" else "False") ++ ")"

def ResolutionDocument.repr (v : ResolutionDocument) : String :=
  "\x7b'resolution_id': '" ++ v.resolutionId ++ "', 'conflict_id': '" ++ v.conflictId ++
    "', 'choice': '" ++ v.choice ++ "', 'target_version_id': " ++
    (v.targetVersionId.map fun id => "'" ++ id ++ "'").getD "None" ++ "\x7d"

/-- `str(result)`. -/
def Result.str : Result → String
  | .text value => value
  | .resolution value => value.repr
  | .document value => value.repr

/-- The fingerprint of a `create_operation`. -/
def createFingerprint (targetArea : String) (items : List SyncItemInput) : String :=
  prim.fingerprint
    (.list [.str targetArea, .list (items.map fun item => item.toItemFields.dumped)])

def createOperation (context : SyncContext) (targetArea : String) (items : List SyncItemInput)
    (idempotencyKey : String) (ifMatch : ExpectedVersion) : Op SyncOperationView := do
  validateWrite idempotencyKey ifMatch
  Call.ensure (ifMatch = .any ∧ targetArea = "cloud_sync" ∧ items ≠ [])
    { code := "SYNC_PREVIEW_INVALID", status := 400 }
  Call.ensure ((byId items).entries.length = items.length)
    { code := "SYNC_PREVIEW_INVALID", status := 400 }
  let fingerprint := createFingerprint prim targetArea items
  let key := (context.tenantId, context.workspaceId, context.actorId, idempotencyKey)
  match ← Call.query (·.repository.replay key fingerprint) with
  | some result => do
    let operation ← Call.query (·.repository.operation context result.str)
    return view operation
  | none => do
    let operationId ← draw prim "sync"
    let operation := newOperation prim operationId context targetArea items
    Call.modify (System.mapRepository fun r =>
      { r with operations := r.operations.set operationId operation })
    Call.modify (System.mapRepository (·.record key fingerprint (.text operationId)))
    Call.modify (System.mapRepository (·.appendAudit operationId "sync.preview.created"
      context.traceId))
    return view operation

def getOperation (context : SyncContext) (operationId : String) : Op SyncOperationView := do
  let operation ← Call.query (·.repository.operation context operationId)
  return view operation

/-- Every dependency of an approved item is approved. -/
def Operation.ClosedUnder (operation : Operation) (approved : List String) : Prop :=
  ∀ itemId ∈ approved, ∀ item ∈ operation.items.get? itemId, ∀ d ∈ item.dependencyItemIds,
    d ∈ approved

instance (operation : Operation) (approved : List String) :
    Decidable (operation.ClosedUnder approved) :=
  inferInstanceAs (Decidable (∀ _ ∈ _, _))

/-- The fingerprint of an `approve`. -/
def approveFingerprint (operationId : String) (approvedItemIds : List String)
    (stepUpAuthorizationId : String) (expectedVersion : ExpectedVersion) : String :=
  prim.fingerprint (.list [.str operationId, .list (approvedItemIds.map .str),
    .str stepUpAuthorizationId, expectedVersion.dumped])

def approve (context : SyncContext) (operationId : String) (approvedItemIds : List String)
    (stepUpAuthorizationId : String) (expectedVersion : ExpectedVersion) (idempotencyKey : String)
    (approvalVerified : Bool) : Op SyncOperationView := do
  validateWrite idempotencyKey expectedVersion
  Call.ensure (approvalVerified ∧ stepUpAuthorizationId ≠ "")
    { code := "STEP_UP_REQUIRED", status := 403 }
  let fingerprint := approveFingerprint prim operationId approvedItemIds stepUpAuthorizationId
    expectedVersion
  let operation ← Call.query (·.repository.operation context operationId)
  let key := (operationId, context.actorId, "approve", idempotencyKey)
  match ← Call.query (·.repository.replay key fingerprint) with
  | some _ => return view operation
  | none => do
    Call.ensure (expectedVersion = .version operation.version) { code := "SYNC_VERSION_CONFLICT" }
    let approved := approvedItemIds.eraseDups
    Call.ensure (approved ≠ [] ∧ ∀ itemId ∈ approved, operation.items.get? itemId ≠ none)
      { code := "SYNC_SCOPE_EXPANSION_DENIED", status := 403 }
    Call.ensure (operation.ClosedUnder approved) { code := "SYNC_DEPENDENCY_REQUIRED" }
    let snapshotId ← draw prim "sync-approval"
    Call.modify (System.mapRepository (·.update operationId (·.approve approved snapshotId)))
    Call.modify (System.mapRepository (·.record key fingerprint (.text snapshotId)))
    Call.modify (System.mapRepository (·.appendAudit operationId "sync.approved" context.traceId))
    return view (operation.approve approved snapshotId)

/-! ## `transfer_batch` -/

/-- The conflict of an item whose cloud version is not the one it was previewed against. -/
def newConflict (conflictId : String) (item : SyncItemInput) (payload : TransferPayload) :
    Conflict where
  conflictId := conflictId
  itemId := item.itemId
  localVersionId := item.versionId
  localDigest := item.digestSha256
  cloudVersionId := payload.currentCloudVersionId
  cloudDigest := payload.currentCloudDigest
  baseVersionId := item.baseCloudVersionId
  baseDigest := item.baseCloudDigest

def current (operationId : String) : Op Operation :=
  Call.query fun s => match s.repository.operations.get? operationId with
    | none => .error (interpreterError "KeyError")
    | some operation => .ok operation

/-- `operation.items[item_id]`. -/
def itemOf (operation : Operation) (itemId : String) : Op SyncItemInput :=
  Call.query fun _ => match operation.items.get? itemId with
    | none => .error (interpreterError "KeyError")
    | some item => .ok item

/-- The loop over the payloads, with the items transferred and the conflicts found so far. -/
def sendPayloads (env : Env) (context : SyncContext) (operationId idempotencyKey : String) :
    List TransferPayload → List String → List String → Op (List String × List String)
  | [], transferred, conflictIds => pure (transferred, conflictIds)
  | payload :: payloads, transferred, conflictIds => do
    let operation ← current operationId
    if payload.itemId ∈ operation.completedItemIds then
      sendPayloads env context operationId idempotencyKey payloads transferred conflictIds
    else do
      let item ← itemOf operation payload.itemId
      Call.ensure (∀ d ∈ item.dependencyItemIds, d ∈ operation.completedItemIds)
        { code := "SYNC_DEPENDENCY_REQUIRED" }
      if payload.current ≠ item.base then do
        let conflictId ← draw prim "sync-conflict"
        Call.modify (System.mapRepository
          (·.update operationId (·.addConflict (newConflict conflictId item payload))))
        sendPayloads env context operationId idempotencyKey payloads transferred
          (conflictIds ++ [conflictId])
      else do
        let target ← transmit env operation context item payload.content
          (idempotencyKey ++ ":" ++ item.itemId) "copy"
        Call.modify (System.mapRepository (·.update operationId (·.addTarget item.itemId target)))
        sendPayloads env context operationId idempotencyKey payloads
          (transferred ++ [item.itemId]) conflictIds

/-- The fingerprint of a `transfer_batch`. -/
def transferFingerprint (operationId : String) (expectedVersion : ExpectedVersion)
    (cursor : Option String) (payloads : List TransferPayload) : String :=
  prim.fingerprint (.list [.str operationId, expectedVersion.dumped, .optional cursor,
    .list (payloads.map fun payload => .list [.str payload.itemId,
      .str (prim.sha256 payload.content), .optional payload.currentCloudVersionId,
      .optional payload.currentCloudDigest])])

/-- The batch that a replayed `transfer_batch` returns. -/
def priorBatch (operation : Operation) (result : Result) : Except SyncError TransferBatchView :=
  match operation.batches.find? fun batch => result = .text batch.batchId with
  | none => .error (interpreterError "StopIteration")
  | some prior => .ok { prior with replayed := true }

/-- The batch that `transfer_batch` appends. -/
def newBatch (operation : Operation) (batchId : String) (cursor : Option String)
    (transferred conflictIds : List String) : TransferBatchView where
  batchId := batchId
  state := if conflictIds ≠ [] then .conflict else .transferred
  sequence := operation.batches.length + 1
  cursor := cursor
  nextCursor := some (toString operation.completedItemIds.card)
  transferredItemIds := transferred
  conflictIds := conflictIds

def transferBatch (env : Env) (context : SyncContext) (operationId : String)
    (expectedVersion : ExpectedVersion) (idempotencyKey : String) (cursor : Option String)
    (payloads : List TransferPayload) : Op TransferBatchView := do
  validateWrite idempotencyKey expectedVersion
  Call.ensure (payloads ≠ []) { code := "SYNC_BATCH_INVALID", status := 400 }
  let fingerprint := transferFingerprint prim operationId expectedVersion cursor payloads
  let operation ← Call.query (·.repository.operation context operationId)
  let key := (operationId, context.actorId, "transfer", idempotencyKey)
  match ← Call.query (·.repository.replay key fingerprint) with
  | some result => Call.query fun _ => priorBatch operation result
  | none =>
    if operation.approvalSnapshotId = none then do
      Call.modify (System.mapRepository (·.appendAudit operationId "sync.transfer.denied"
        context.traceId))
      Call.raise { code := "SYNC_APPROVAL_REQUIRED", status := 403 }
    else do
      Call.ensure (expectedVersion = .version operation.version)
        { code := "SYNC_VERSION_CONFLICT" }
      Call.ensure (∀ payload ∈ payloads, payload.itemId ∈ operation.approvedItemIds)
        { code := "SYNC_SCOPE_EXPANSION_DENIED", status := 403 }
      let batchId ← draw prim "sync-batch"
      let (transferred, conflictIds) ←
        sendPayloads prim env context operationId idempotencyKey payloads [] []
      let operation ← current operationId
      let batch := newBatch operation batchId cursor transferred conflictIds
      Call.modify (System.mapRepository (·.update operationId (·.recordBatch batch)))
      Call.modify (System.mapRepository (·.record key fingerprint (.text batchId)))
      Call.modify (System.mapRepository (·.appendAudit operationId "sync.transfer.batch_recorded"
        context.traceId))
      return batch

/-- The fingerprint of a `resolve_conflict`. -/
def resolveFingerprint (operationId conflictId : String) (expectedVersion : ExpectedVersion)
    (choice : ConflictResolutionChoice) (content : Option (List UInt8)) : String :=
  prim.fingerprint (.list [.str operationId, .str conflictId, expectedVersion.dumped,
    .str choice.value, .optional (content.map prim.sha256)])

/-- The conflict that a resolution is of: the first of its id, when that is unresolved. -/
def Operation.openConflict (operation : Operation) (conflictId : String) :
    Except SyncError Conflict :=
  match operation.conflicts.find? fun conflict => conflict.conflictId = conflictId with
  | none => .error { code := "SYNC_CONFLICT_UNAVAILABLE", status := 404 }
  | some conflict =>
    if conflict.state ≠ .unresolved then
      .error { code := "SYNC_CONFLICT_UNAVAILABLE", status := 404 }
    else .ok conflict

/-- The part of `resolve_conflict` that transmits: the id of the target version it makes. -/
def sendResolution (env : Env) (context : SyncContext) (operationId : String)
    (operation : Operation) (item : SyncItemInput) (idempotencyKey : String)
    (choice : ConflictResolutionChoice) (content : Option (List UInt8)) : Op (Option String) :=
  if choice.Transmits then
    match content with
    | none => Call.raise { code := "SYNC_CONTENT_REQUIRED", status := 400 }
    | some content => do
      let target ← transmit env operation context item content
        (idempotencyKey ++ ":" ++ item.itemId) choice.value
      Call.modify (System.mapRepository (·.update operationId fun operation =>
        { operation with targetVersions := operation.targetVersions ++ [target] }))
      return some target.targetVersionId
  else pure none

/-- The resolution that a replayed `resolve_conflict` returns. -/
def priorResolution (result : Result) : Except SyncError ConflictResolutionView :=
  match result with
  | .resolution prior => .ok { prior with replayed := true }
  | _ => .error (interpreterError "AssertionError")

def resolveConflict (env : Env) (context : SyncContext) (operationId conflictId : String)
    (expectedVersion : ExpectedVersion) (idempotencyKey : String)
    (choice : ConflictResolutionChoice) (content : Option (List UInt8)) :
    Op ConflictResolutionView := do
  validateWrite idempotencyKey expectedVersion
  let fingerprint := resolveFingerprint prim operationId conflictId expectedVersion choice content
  let operation ← Call.query (·.repository.operation context operationId)
  let key := (operationId, context.actorId, "resolution", idempotencyKey)
  match ← Call.query (·.repository.replay key fingerprint) with
  | some result => Call.query fun _ => priorResolution result
  | none => do
    Call.ensure (expectedVersion = .version operation.version) { code := "SYNC_VERSION_CONFLICT" }
    let conflict ← Call.query fun _ => operation.openConflict conflictId
    let item ← itemOf operation conflict.itemId
    let targetVersionId ←
      sendResolution env context operationId operation item idempotencyKey choice content
    Call.modify (System.mapRepository (·.update operationId (·.resolve conflictId item.itemId)))
    let resolutionId ← draw prim "sync-resolution"
    let resolution : ConflictResolutionView :=
      { resolutionId := resolutionId, conflictId := conflictId, choice := choice,
        targetVersionId := targetVersionId }
    Call.modify (System.mapRepository (·.record key fingerprint (.resolution resolution)))
    Call.modify (System.mapRepository (·.appendAudit operationId "sync.conflict.resolved"
      context.traceId))
    return resolution

inductive Request where
  | createOperation (targetArea : String) (items : List SyncItemInput) (idempotencyKey : String)
      (ifMatch : ExpectedVersion)
  | getOperation (operationId : String)
  | approve (operationId : String) (approvedItemIds : List String)
      (stepUpAuthorizationId : String) (expectedVersion : ExpectedVersion)
      (idempotencyKey : String) (approvalVerified : Bool)
  | transferBatch (operationId : String) (expectedVersion : ExpectedVersion)
      (idempotencyKey : String) (cursor : Option String) (payloads : List TransferPayload)
  | resolveConflict (operationId conflictId : String) (expectedVersion : ExpectedVersion)
      (idempotencyKey : String) (choice : ConflictResolutionChoice)
      (content : Option (List UInt8))

structure Input where
  env : Env
  context : SyncContext
  request : Request

inductive Reply where
  | operation (value : SyncOperationView)
  | batch (value : TransferBatchView)
  | resolution (value : ConflictResolutionView)
  deriving DecidableEq

abbrev Outcome := Except SyncError Reply

def serve (i : Input) : Op Reply :=
  match i.request with
  | .createOperation targetArea items key ifMatch =>
    Reply.operation <$> createOperation prim i.context targetArea items key ifMatch
  | .getOperation operationId => Reply.operation <$> getOperation i.context operationId
  | .approve operationId approvedItemIds stepUp expectedVersion key verified =>
    Reply.operation <$>
      approve prim i.context operationId approvedItemIds stepUp expectedVersion key verified
  | .transferBatch operationId expectedVersion key cursor payloads =>
    Reply.batch <$>
      transferBatch prim i.env i.context operationId expectedVersion key cursor payloads
  | .resolveConflict operationId conflictId expectedVersion key choice content =>
    Reply.resolution <$>
      resolveConflict prim i.env i.context operationId conflictId expectedVersion key choice content

def System.init : System where
  repository := { operations := .empty, idempotency := .empty, audit := [] }
  drawn := 0
  transmissions := []

/-- The calls of `SyncService` over one repository. -/
def machine : Machine System Input Outcome where
  init := .init
  step s i := serve prim i s

end DaonUser.Sync
