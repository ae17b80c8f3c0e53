import DaonUser.Base
import DaonUser.Lib.Call
import DaonUser.Lib.Dict
import DaonUser.Lib.Machine
import Mathlib.Data.Finset.Sort
import Mathlib.Data.String.Basic

/-!
# Sync: operations and their parts

The data of `SyncService` over one `ReferenceSyncRepository`: the items of a preview, the batches, conflicts
and target versions of an operation, the idempotency table. A transfer port answers with a target version of
the item it was given, with its digest and base version; only its two ids are the port's choice
(`Env.port`).
-/

namespace DaonUser.Sync

open Lib

structure SyncError where
  code : String
  status : Nat := 409
  retryable : Bool := false
  deriving DecidableEq

inductive ConflictResolutionChoice where
  | keepLocalAsNewVersion
  | keepCloud
  | keepBoth
  deriving DecidableEq

namespace ConflictResolutionChoice

def value : ConflictResolutionChoice → String
  | keepLocalAsNewVersion => "keep_local_as_new_version"
  | keepCloud => "keep_cloud"
  | keepBoth => "keep_both"

/-- `ConflictResolutionChoice(value)`. -/
def ofValue? (text : String) : Option ConflictResolutionChoice :=
  [keepLocalAsNewVersion, keepCloud, keepBoth].find? fun choice => choice.value = text

theorem ofValue?_value (choice : ConflictResolutionChoice) :
    ofValue? choice.value = some choice := by
  cases choice <;> decide

/-- The choices that keep the local version, for which it is transmitted. -/
def Transmits (choice : ConflictResolutionChoice) : Prop :=
  choice = .keepLocalAsNewVersion ∨ choice = .keepBoth

instance (choice : ConflictResolutionChoice) : Decidable choice.Transmits :=
  inferInstanceAs (Decidable (_ ∨ _))

end ConflictResolutionChoice

inductive SyncItemKind where
  | sourceVersion
  | outputVersion
  deriving DecidableEq

namespace SyncItemKind

def value : SyncItemKind → String
  | sourceVersion => "source_version"
  | outputVersion => "output_version"

/-- `SyncItemKind(value)`. -/
def ofValue? (text : String) : Option SyncItemKind :=
  [sourceVersion, outputVersion].find? fun kind => kind.value = text

theorem ofValue?_value (kind : SyncItemKind) : ofValue? kind.value = some kind := by
  cases kind <;> decide

end SyncItemKind

/-- `SyncContext`, whose construction checks its ids. -/
structure SyncContext where
  tenantId : String
  workspaceId : String
  actorId : String
  traceId : String
  policyVersion : String
  safe : ∀ v ∈ [tenantId, workspaceId, actorId, traceId, policyVersion], isSafeId v = true

theorem SyncContext.eq_iff {a b : SyncContext} :
    a = b ↔ (a.tenantId, a.workspaceId, a.actorId, a.traceId, a.policyVersion) =
      (b.tenantId, b.workspaceId, b.actorId, b.traceId, b.policyVersion) := by
  cases a
  cases b
  simp

instance syncContextDecidableEq : DecidableEq SyncContext :=
  fun _ _ => decidable_of_iff _ SyncContext.eq_iff.symm

/-! ## Items -/

/-- The arguments of `SyncItemInput`. -/
structure ItemFields where
  itemId : String
  sourceVersionId : Option String
  localObjectId : String
  digestSha256 : String
  byteSize : Int
  contentType : String
  baseCloudVersionId : Option String
  baseCloudDigest : Option String
  itemKind : SyncItemKind := .sourceVersion
  outputVersionId : Option String := none
  dependencyItemIds : List String := []
  deriving DecidableEq

namespace ItemFields

variable (item : ItemFields)

/-- The version columns fit the kind of the item: `version_contract_valid`. -/
def VersionContract : Prop :=
  (item.itemKind = .sourceVersion ∧ item.sourceVersionId.any isSafeId ∧
      ¬item.outputVersionId.any isSafeId ∧ item.dependencyItemIds = []) ∨
    (item.itemKind = .outputVersion ∧ item.outputVersionId.any isSafeId ∧
      ¬item.sourceVersionId.any isSafeId ∧ item.dependencyItemIds ≠ [] ∧
      item.contentType = "application/vnd.daon.offline-studio-output+json")

/-- The checks of `__post_init__`. Sorted without repetition is strictly increasing. -/
def Valid : Prop :=
  isSafeId item.itemId ∧ isSafeId item.localObjectId ∧ item.VersionContract ∧
    item.dependencyItemIds.Pairwise (· < ·) ∧ (∀ d ∈ item.dependencyItemIds, isSafeId d) ∧
    isDigest item.digestSha256 ∧ 0 ≤ item.byteSize ∧ isContentType item.contentType ∧
    (item.baseCloudVersionId = none ↔ item.baseCloudDigest = none) ∧
    item.baseCloudVersionId.all isSafeId ∧ item.baseCloudDigest.all isDigest

instance : Decidable item.VersionContract := inferInstanceAs (Decidable (_ ∨ _))

instance : Decidable item.Valid := inferInstanceAs (Decidable (_ ∧ _))

end ItemFields

structure SyncItemInput extends ItemFields where
  valid : toItemFields.Valid
  deriving DecidableEq

namespace SyncItemInput

/-- `SyncItemInput(**fields)`. -/
def build (fields : ItemFields) : Except SyncError SyncItemInput :=
  if h : fields.Valid then .ok { fields with valid := h }
  else .error { code := "SYNC_ITEM_INVALID", status := 400 }

def versionId (item : SyncItemInput) : String :=
  match item.itemKind with
  | .sourceVersion => item.sourceVersionId.getD ""
  | .outputVersion => item.outputVersionId.getD ""

def base (item : SyncItemInput) : Option String × Option String :=
  (item.baseCloudVersionId, item.baseCloudDigest)

end SyncItemInput

structure TransferPayload where
  itemId : String
  content : List UInt8
  currentCloudVersionId : Option String
  currentCloudDigest : Option String
  deriving DecidableEq

def TransferPayload.current (payload : TransferPayload) : Option String × Option String :=
  (payload.currentCloudVersionId, payload.currentCloudDigest)

/-! ## The parts of an operation -/

structure TargetVersion where
  targetVersionId : String
  targetObjectId : String
  itemId : String
  digestSha256 : String
  previousCloudVersionId : Option String
  relation : String
  deriving DecidableEq

inductive ConflictState where
  | unresolved
  | resolved
  deriving DecidableEq

/-- `_Conflict`, and `SyncConflictView`. -/
structure Conflict where
  conflictId : String
  itemId : String
  localVersionId : String
  localDigest : String
  cloudVersionId : Option String
  cloudDigest : Option String
  baseVersionId : Option String
  baseDigest : Option String
  state : ConflictState := .unresolved
  deriving DecidableEq

inductive BatchState where
  | transferred
  | conflict
  deriving DecidableEq

structure TransferBatchView where
  batchId : String
  state : BatchState
  sequence : Nat
  cursor : Option String
  nextCursor : Option String
  transferredItemIds : List String
  conflictIds : List String
  replayed : Bool := false
  deriving DecidableEq

structure ConflictResolutionView where
  resolutionId : String
  conflictId : String
  choice : ConflictResolutionChoice
  targetVersionId : Option String
  replayed : Bool := false
  deriving DecidableEq

inductive OperationState where
  | awaitingApproval
  | approved
  | transferring
  | conflict
  | reindexRequested
  deriving DecidableEq

/-- `_Operation`. The one value of `reindex_state` is `reindex_requested`. -/
structure Operation where
  operationId : String
  context : SyncContext
  targetArea : String
  items : Dict String SyncItemInput
  manifestDigest : String
  state : OperationState := .awaitingApproval
  version : Nat := 1
  approvedItemIds : List String := []
  approvalSnapshotId : Option String := none
  batches : List TransferBatchView := []
  conflicts : List Conflict := []
  targetVersions : List TargetVersion := []
  completedItemIds : Finset String := ∅
  reindexRequested : Bool := false

structure SyncOperationView where
  operationId : String
  tenantId : String
  workspaceId : String
  actorId : String
  targetArea : String
  state : OperationState
  version : Nat
  manifestDigest : String
  approvedItemIds : List String
  completedItemIds : List String
  batches : List TransferBatchView
  conflicts : List Conflict
  targetVersions : List TargetVersion
  reindexRequested : Bool
  sourceMutations : Nat := 0
  overwriteCount : Nat := 0
  itemIds : List String
  deriving DecidableEq

/-- `sorted`, of a set of ids. -/
def sortedIds (ids : Finset String) : List String := ids.sort

def view (operation : Operation) : SyncOperationView where
  operationId := operation.operationId
  tenantId := operation.context.tenantId
  workspaceId := operation.context.workspaceId
  actorId := operation.context.actorId
  targetArea := operation.targetArea
  state := operation.state
  version := operation.version
  manifestDigest := operation.manifestDigest
  approvedItemIds := operation.approvedItemIds
  completedItemIds := sortedIds operation.completedItemIds
  batches := operation.batches
  conflicts := operation.conflicts
  targetVersions := operation.targetVersions
  reindexRequested := operation.reindexRequested
  itemIds := sortedIds operation.items.keys.toFinset

/-! ## What the calls write to an operation -/

namespace Operation

variable (operation : Operation)

def approve (approved : List String) (snapshotId : String) : Operation :=
  { operation with
    approvedItemIds := approved, approvalSnapshotId := some snapshotId, state := .approved,
    version := operation.version + 1 }

def addConflict (conflict : Conflict) : Operation :=
  { operation with conflicts := operation.conflicts ++ [conflict] }

def addTarget (itemId : String) (target : TargetVersion) : Operation :=
  { operation with
    targetVersions := operation.targetVersions ++ [target],
    completedItemIds := insert itemId operation.completedItemIds }

/-- Every approved item is completed. -/
def AllCompleted : Prop := ∀ itemId ∈ operation.approvedItemIds, itemId ∈ operation.completedItemIds

instance : Decidable operation.AllCompleted := inferInstanceAs (Decidable (∀ _ ∈ _, _))

def requestReindex : Operation :=
  { operation with state := .reindexRequested, reindexRequested := true }

def recordBatch (batch : TransferBatchView) : Operation :=
  let operation :=
    { operation with batches := operation.batches ++ [batch], version := operation.version + 1 }
  if batch.conflictIds ≠ [] then { operation with state := .conflict }
  else if operation.AllCompleted then operation.requestReindex
  else { operation with state := .transferring }

/-- `conflict.state = "resolved"`, of the first conflict of the id. -/
def markResolved (conflictId : String) : List Conflict → List Conflict
  | [] => []
  | conflict :: conflicts =>
    if conflict.conflictId = conflictId then { conflict with state := .resolved } :: conflicts
    else conflict :: markResolved conflictId conflicts

/-- No conflict is unresolved. -/
def AllResolved : Prop := ∀ conflict ∈ operation.conflicts, conflict.state = .resolved

instance : Decidable operation.AllResolved := inferInstanceAs (Decidable (∀ _ ∈ _, _))

def resolve (conflictId itemId : String) : Operation :=
  let operation :=
    { operation with
      conflicts := markResolved conflictId operation.conflicts,
      completedItemIds := insert itemId operation.completedItemIds,
      version := operation.version + 1 }
  if operation.AllResolved ∧ operation.AllCompleted then operation.requestReindex else operation

end Operation

/-! ## The repository -/

/-- A resolution as `_dump_operation` writes it. -/
structure ResolutionDocument where
  resolutionId : String
  conflictId : String
  choice : String
  targetVersionId : Option String
  deriving DecidableEq

/-- What an idempotency key stands for. A document is what `_hydrate` reads when a resolution stands
under a kind that is not its own. -/
inductive Result where
  | text (value : String)
  | resolution (value : ConflictResolutionView)
  | document (value : ResolutionDocument)
  deriving DecidableEq

/-- An idempotency key: scope, actor and key of a `create_operation`, or operation, actor, kind and
key of another call. -/
abbrev Key := String × String × String × String

/-- `ReferenceSyncRepository`. -/
structure Repository where
  operations : Dict String Operation
  idempotency : Dict Key (String × Result)
  audit : List (String × String × String)

/-- What the transfer port was asked, for which operation and with which items approved. -/
structure Transmission where
  operationId : String
  approved : List String
  context : SyncContext
  item : SyncItemInput
  content : List UInt8
  idempotencyKey : String
  relation : String

structure System where
  repository : Repository
  drawn : Nat
  transmissions : List Transmission

structure Env where
  /-- What the port answers when it was asked so many times before: the ids of a target version and
  of its object, or an error. -/
  port : Nat → Except SyncError (String × String)

structure Primitives where
  fingerprint : Dumped → String
  sha256 : List UInt8 → String
  tokens : TokenSource

abbrev Op (α : Type) := Call System SyncError α

end DaonUser.Sync
