import DaonUser.Sync.Invariant

/-!
# Sync: operations as documents

`_dump_operation` and `_hydrate` of the PostgreSQL service: an operation and its idempotency entries as a
document, and back. Texts that the service never parses are their own documents; the kind of an item and the
choice of a resolution are written as texts and parsed again. `hydrate_dump` is the round trip.
-/

namespace DaonUser.Sync

open Lib

variable {prim : Primitives}

/-! ## Documents -/

/-- An item as `_dump_operation` writes it. -/
structure ItemDocument where
  itemId : String
  sourceVersionId : Option String
  localObjectId : String
  digestSha256 : String
  byteSize : Int
  contentType : String
  baseCloudVersionId : Option String
  baseCloudDigest : Option String
  itemKind : String
  outputVersionId : Option String
  dependencyItemIds : List String
  deriving DecidableEq

structure BatchDocument where
  batchId : String
  state : BatchState
  sequence : Nat
  cursor : Option String
  nextCursor : Option String
  transferredItemIds : List String
  conflictIds : List String
  deriving DecidableEq

inductive ResultDocument where
  | text (value : String)
  | resolution (value : ResolutionDocument)
  deriving DecidableEq

structure EntryDocument where
  actorId : String
  kind : String
  key : String
  fingerprint : String
  result : ResultDocument
  deriving DecidableEq

/-- The document of an operation: the column `state_document`. -/
structure Document where
  items : List ItemDocument
  approvedItemIds : List String
  approvalSnapshotId : Option String
  completedItemIds : List String
  batches : List BatchDocument
  conflicts : List Conflict
  targetVersions : List TargetVersion
  reindexRequested : Bool
  idempotency : List EntryDocument
  deriving DecidableEq

/-- The columns that `_hydrate` reads. -/
structure OperationRow where
  operationId : String
  tenantId : String
  workspaceId : String
  actorId : String
  targetArea : String
  state : OperationState
  version : Nat
  previewDigest : String
  policyVersion : String
  stateDocument : Document
  deriving DecidableEq

/-! ## `_dump_operation` -/

def ItemFields.dump (item : ItemFields) : ItemDocument where
  itemId := item.itemId
  sourceVersionId := item.sourceVersionId
  localObjectId := item.localObjectId
  digestSha256 := item.digestSha256
  byteSize := item.byteSize
  contentType := item.contentType
  baseCloudVersionId := item.baseCloudVersionId
  baseCloudDigest := item.baseCloudDigest
  itemKind := item.itemKind.value
  outputVersionId := item.outputVersionId
  dependencyItemIds := item.dependencyItemIds

def TransferBatchView.dump (batch : TransferBatchView) : BatchDocument where
  batchId := batch.batchId
  state := batch.state
  sequence := batch.sequence
  cursor := batch.cursor
  nextCursor := batch.nextCursor
  transferredItemIds := batch.transferredItemIds
  conflictIds := batch.conflictIds

def ConflictResolutionView.dump (v : ConflictResolutionView) : ResolutionDocument where
  resolutionId := v.resolutionId
  conflictId := v.conflictId
  choice := v.choice.value
  targetVersionId := v.targetVersionId

def Result.dump : Result → ResultDocument
  | .resolution value => .resolution value.dump
  | result => .text result.str

def dumpEntry (entry : Key × String × Result) : EntryDocument where
  actorId := entry.1.2.1
  kind := entry.1.2.2.1
  key := entry.1.2.2.2
  fingerprint := entry.2.1
  result := entry.2.2.dump

/-- The entries under the id of an operation. Every key has four parts, so the length that the
source checks first tells nothing apart. -/
def Repository.entriesOf (r : Repository) (operationId : String) : Dict Key (String × Result) :=
  r.idempotency.filterKeys fun key => key.1 = operationId

def dumpOperation (operation : Operation) (r : Repository) : Document where
  items := operation.items.values.map fun item => item.toItemFields.dump
  approvedItemIds := operation.approvedItemIds
  approvalSnapshotId := operation.approvalSnapshotId
  completedItemIds := sortedIds operation.completedItemIds
  batches := operation.batches.map (·.dump)
  conflicts := operation.conflicts
  targetVersions := operation.targetVersions
  reindexRequested := operation.reindexRequested
  idempotency := (r.entriesOf operation.operationId).entries.map dumpEntry

def Operation.row (operation : Operation) (document : Document) : OperationRow where
  operationId := operation.operationId
  tenantId := operation.context.tenantId
  workspaceId := operation.context.workspaceId
  actorId := operation.context.actorId
  targetArea := operation.targetArea
  state := operation.state
  version := operation.version
  previewDigest := operation.manifestDigest
  policyVersion := operation.context.policyVersion
  stateDocument := document

/-- `SyncContext(...)`. -/
def SyncContext.build (tenantId workspaceId actorId traceId policyVersion : String) :
    Except SyncError SyncContext :=
  if h : ∀ v ∈ [tenantId, workspaceId, actorId, traceId, policyVersion], isSafeId v = true then
    .ok ⟨tenantId, workspaceId, actorId, traceId, policyVersion, h⟩
  else .error { code := "SYNC_CONTEXT_INVALID", status := 400 }

/-- `SyncItemInput(**payload)`. -/
def ItemDocument.load (raw : ItemDocument) : Except SyncError SyncItemInput :=
  match SyncItemKind.ofValue? raw.itemKind with
  | none => .error { code := "SYNC_ITEM_INVALID", status := 400 }
  | some kind => SyncItemInput.build
      { itemId := raw.itemId, sourceVersionId := raw.sourceVersionId,
        localObjectId := raw.localObjectId, digestSha256 := raw.digestSha256,
        byteSize := raw.byteSize, contentType := raw.contentType,
        baseCloudVersionId := raw.baseCloudVersionId, baseCloudDigest := raw.baseCloudDigest,
        itemKind := kind, outputVersionId := raw.outputVersionId,
        dependencyItemIds := raw.dependencyItemIds }

def BatchDocument.load (raw : BatchDocument) : TransferBatchView where
  batchId := raw.batchId
  state := raw.state
  sequence := raw.sequence
  cursor := raw.cursor
  nextCursor := raw.nextCursor
  transferredItemIds := raw.transferredItemIds
  conflictIds := raw.conflictIds

/-- The result of an entry: that of a resolution is read as one, whatever it is. -/
def EntryDocument.load (raw : EntryDocument) : Except SyncError Result :=
  if raw.kind = "resolution" then
    match raw.result with
    | .text _ => .error (interpreterError "TypeError")
    | .resolution encoded =>
      match ConflictResolutionChoice.ofValue? encoded.choice with
      | none => .error (interpreterError "ValueError")
      | some choice => .ok (.resolution
          { resolutionId := encoded.resolutionId, conflictId := encoded.conflictId,
            choice := choice, targetVersionId := encoded.targetVersionId })
  else match raw.result with
    | .text value => .ok (.text value)
    | .resolution encoded => .ok (.document encoded)

def loadEntries (operationId : String) :
    List EntryDocument → Dict Key (String × Result) → Except SyncError (Dict Key (String × Result))
  | [], table => .ok table
  | raw :: raws, table =>
    match raw.load with
    | .error e => .error e
    | .ok result => loadEntries operationId raws
        (table.set (operationId, raw.actorId, raw.kind, raw.key) (raw.fingerprint, result))

def hydrate (row : OperationRow) : Except SyncError (Operation × Repository) := do
  let context ← SyncContext.build row.tenantId row.workspaceId row.actorId "trace-load"
    row.policyVersion
  let items ← row.stateDocument.items.mapM (·.load)
  let operation : Operation :=
    { operationId := row.operationId, context := context, targetArea := row.targetArea,
      items := byId items, manifestDigest := row.previewDigest, state := row.state,
      version := row.version, approvedItemIds := row.stateDocument.approvedItemIds,
      approvalSnapshotId := row.stateDocument.approvalSnapshotId,
      batches := row.stateDocument.batches.map (·.load),
      conflicts := row.stateDocument.conflicts,
      targetVersions := row.stateDocument.targetVersions,
      completedItemIds := row.stateDocument.completedItemIds.toFinset,
      reindexRequested := row.stateDocument.reindexRequested }
  let idempotency ← loadEntries row.operationId row.stateDocument.idempotency .empty
  return (operation,
    { operations := Dict.empty.set row.operationId operation, idempotency := idempotency,
      audit := [] })

/-! ## The round trip -/

def SyncContext.loaded (context : SyncContext) : SyncContext :=
  { context with
    traceId := "trace-load",
    safe := by
      have h := context.safe
      simp only [List.mem_cons, List.not_mem_nil, or_false, forall_eq_or_imp, forall_eq] at h ⊢
      exact ⟨h.1, h.2.1, h.2.2.1, by decide, h.2.2.2.2⟩ }

def Operation.loaded (operation : Operation) : Operation :=
  { operation with context := operation.context.loaded }

def Repository.loaded (r : Repository) (operation : Operation) : Repository where
  operations := Dict.empty.set operation.operationId operation.loaded
  idempotency := r.entriesOf operation.operationId
  audit := []

/-- The entry is one that `approve`, `transfer_batch` or `resolve_conflict` makes. -/
def CallEntry (key : Key) (result : Result) : Prop :=
  match result with
  | .text _ => key.2.2.1 = "approve" ∨ key.2.2.1 = "transfer"
  | .resolution value => key.2.2.1 = "resolution" ∧ value.replayed = false
  | .document _ => False

theorem load_dump_item (item : SyncItemInput) : item.toItemFields.dump.load = .ok item := by
  unfold ItemDocument.load ItemFields.dump
  rw [SyncItemKind.ofValue?_value]
  exact dif_pos item.valid

theorem mapM_load_dump (items : List SyncItemInput) :
    (items.map fun item => item.toItemFields.dump).mapM (·.load) = .ok items := by
  induction items with
  | nil => rfl
  | cons item items ih =>
    rw [List.map_cons, List.mapM_cons, load_dump_item, ih]
    rfl

theorem load_dump_batch {batch : TransferBatchView} (h : batch.replayed = false) :
    batch.dump.load = batch := by
  cases batch
  cases h
  rfl

theorem load_dumpEntry {key : Key} {fingerprint : String} {result : Result}
    (h : CallEntry key result) : (dumpEntry (key, fingerprint, result)).load = .ok result := by
  unfold EntryDocument.load dumpEntry
  cases result with
  | text value =>
    have hkind : key.2.2.1 ≠ "resolution" := by rcases h with h | h <;> rw [h] <;> decide
    rw [if_neg hkind]
    rfl
  | resolution value =>
    obtain ⟨kind, replayed⟩ := h
    rw [if_pos kind]
    simp only [Result.dump, ConflictResolutionView.dump, ConflictResolutionChoice.ofValue?_value]
    rw [← replayed]
  | document value => exact h.elim

theorem loadEntries_dump {operationId : String} :
    ∀ {entries : List (Key × String × Result)} {table : Dict Key (String × Result)},
      (∀ entry ∈ entries, entry.1.1 = operationId ∧ CallEntry entry.1 entry.2.2) →
      loadEntries operationId (entries.map dumpEntry) table =
        .ok (entries.foldl (fun d e => d.set e.1 e.2) table)
  | [], _, _ => rfl
  | (key, fingerprint, result) :: entries, table, h => by
    obtain ⟨hid, hcall⟩ := h _ List.mem_cons_self
    obtain ⟨id, actorId, kind, key⟩ := key
    obtain rfl : id = operationId := hid
    rw [List.map_cons, loadEntries, load_dumpEntry hcall]
    exact loadEntries_dump fun entry hentry => h entry (List.mem_cons_of_mem _ hentry)

theorem hydrate_dump {operation : Operation} {r : Repository}
    (named : ∀ itemId item, operation.items.get? itemId = some item → item.itemId = itemId)
    (batches : ∀ batch ∈ operation.batches, batch.replayed = false)
    (entries : ∀ key fingerprint result, r.idempotency.get? key = some (fingerprint, result) →
      key.1 = operation.operationId → CallEntry key result) :
    hydrate (operation.row (dumpOperation operation r)) =
      .ok (operation.loaded, r.loaded operation) := by
  have hcontext : SyncContext.build operation.context.tenantId operation.context.workspaceId
      operation.context.actorId "trace-load" operation.context.policyVersion =
      .ok operation.context.loaded := dif_pos operation.context.loaded.safe
  have hitems : byId operation.items.values = operation.items := by
    have hpairs : operation.items.values.map (fun item => (item.itemId, item)) =
        operation.items.entries := by
      rw [Dict.values, List.map_map]
      refine (List.map_congr_left fun entry hentry => ?_).trans (List.map_id _)
      exact Prod.ext (named _ _ (Dict.mem_entries_iff.1 hentry)) rfl
    rw [byId, hpairs, Dict.ofList_entries]
  have hbatches : (operation.batches.map (·.dump)).map (·.load) = operation.batches := by
    rw [List.map_map]
    refine (List.map_congr_left fun batch hbatch => ?_).trans (List.map_id _)
    exact load_dump_batch (batches batch hbatch)
  have hentries : loadEntries operation.operationId
      ((r.entriesOf operation.operationId).entries.map dumpEntry) .empty =
      .ok (r.entriesOf operation.operationId) := by
    rw [loadEntries_dump]
    · exact congrArg Except.ok (Dict.ofList_entries _)
    · intro entry hentry
      obtain ⟨hget, hid⟩ := Dict.get?_filterKeys.1 (Dict.mem_entries_iff.1 hentry)
      have hid : entry.1.1 = operation.operationId := by simpa using hid
      exact ⟨hid, entries _ _ _ hget hid⟩
  simp only [hydrate, Operation.row, dumpOperation, hcontext, mapM_load_dump, hbatches, hentries,
    sortedIds, Finset.sort_toFinset, bind, Except.bind, hitems]
  rfl

theorem SyncContext.of_build {tenantId workspaceId actorId traceId policyVersion : String}
    {context : SyncContext}
    (h : SyncContext.build tenantId workspaceId actorId traceId policyVersion = .ok context) :
    context.tenantId = tenantId ∧ context.workspaceId = workspaceId ∧ context.actorId = actorId ∧
      context.traceId = traceId ∧ context.policyVersion = policyVersion := by
  unfold SyncContext.build at h
  split at h
  · cases h
    exact ⟨rfl, rfl, rfl, rfl, rfl⟩
  · cases h

/-- The columns and parts of the document that an operation is hydrated with. -/
structure HydratedFrom (row : OperationRow) (operation : Operation) (r : Repository) : Prop where
  operationId : operation.operationId = row.operationId
  tenantId : operation.context.tenantId = row.tenantId
  workspaceId : operation.context.workspaceId = row.workspaceId
  actorId : operation.context.actorId = row.actorId
  traceId : operation.context.traceId = "trace-load"
  policyVersion : operation.context.policyVersion = row.policyVersion
  targetArea : operation.targetArea = row.targetArea
  state : operation.state = row.state
  version : operation.version = row.version
  manifestDigest : operation.manifestDigest = row.previewDigest
  targetVersions : operation.targetVersions = row.stateDocument.targetVersions
  reindexRequested : operation.reindexRequested = row.stateDocument.reindexRequested
  operations : r.operations = Dict.empty.set row.operationId operation
  entries : loadEntries row.operationId row.stateDocument.idempotency .empty = .ok r.idempotency

theorem hydratedFrom {row : OperationRow} {operation : Operation} {r : Repository}
    (h : hydrate row = .ok (operation, r)) : HydratedFrom row operation r := by
  unfold hydrate at h
  cases hcontext : SyncContext.build row.tenantId row.workspaceId row.actorId "trace-load"
      row.policyVersion with
  | error e => simp [hcontext, bind, Except.bind] at h
  | ok context =>
    cases hitems : row.stateDocument.items.mapM (·.load) with
    | error e => simp [hcontext, hitems, bind, Except.bind] at h
    | ok items =>
      cases hload : loadEntries row.operationId row.stateDocument.idempotency .empty with
      | error e => simp [hcontext, hitems, hload, bind, Except.bind] at h
      | ok table =>
        simp only [hcontext, hitems, hload, bind, Except.bind, pure, Except.pure, Except.ok.injEq,
          Prod.mk.injEq] at h
        obtain ⟨rfl, rfl⟩ := h
        obtain ⟨htenant, hworkspace, hactor, htrace, hpolicy⟩ := SyncContext.of_build hcontext
        exact ⟨rfl, htenant, hworkspace, hactor, htrace, hpolicy, rfl, rfl, rfl, rfl, rfl, rfl, rfl,
          hload⟩

/-- What no call writes to an operation, except the context of the caller. -/
structure Operation.SameIdentity (operation operation' : Operation) : Prop where
  operationId : operation'.operationId = operation.operationId
  targetArea : operation'.targetArea = operation.targetArea
  manifestDigest : operation'.manifestDigest = operation.manifestDigest

theorem hydrate_written {row : OperationRow} {operation after : Operation} {r r' : Repository}
    (h : HydratedFrom row operation r) (same : operation.SameIdentity after)
    (named : ∀ itemId item, after.items.get? itemId = some item → item.itemId = itemId)
    (batches : ∀ batch ∈ after.batches, batch.replayed = false)
    (entries : ∀ key fingerprint result, r'.idempotency.get? key = some (fingerprint, result) →
      CallEntry key result) :
    hydrate { row with
        state := after.state, version := after.version, stateDocument := dumpOperation after r' } =
      .ok ({ after with context := operation.context },
        { operations :=
            Dict.empty.set operation.operationId { after with context := operation.context },
          idempotency := r'.entriesOf operation.operationId, audit := [] }) := by
  have hrow : { row with
      state := after.state, version := after.version, stateDocument := dumpOperation after r' } =
      { after with context := operation.context }.row
        (dumpOperation { after with context := operation.context } r') := by
    change _ = { after with context := operation.context }.row (dumpOperation after r')
    simp only [Operation.row, same.operationId, same.targetArea, same.manifestDigest,
      h.operationId, h.tenantId, h.workspaceId, h.actorId, h.policyVersion, h.targetArea,
      h.manifestDigest]
  have hcontext : operation.context.loaded = operation.context := by
    have htrace := h.traceId
    cases hc : operation.context
    rw [hc] at htrace
    cases htrace
    rfl
  rw [hrow, @hydrate_dump { after with context := operation.context } _ named batches
    fun key fingerprint result hget _ => entries key fingerprint result hget]
  simp only [Operation.loaded, Repository.loaded, hcontext, same.operationId]

end DaonUser.Sync
