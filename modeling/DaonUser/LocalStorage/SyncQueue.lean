import DaonUser.Base
import DaonUser.Lib.Call
import DaonUser.Lib.Machine
import Mathlib.Algebra.Group.Int.Defs
import Mathlib.Data.List.Dedup
import Mathlib.Data.List.MinMax
import Mathlib.Data.String.Basic

/-!
# Local storage: the sync queue

The methods of `LocalEncryptedStore` on `sync_queue_states`. The transaction of the connection stays open
when the driver fails in the middle: `Store.committed` is what the file holds and `view` what the connection
sees. `syncQueue` runs the methods in any order, with the store locked and opened between them.
-/

namespace DaonUser.LocalStorage

open Lib

/-! ## Values -/

/-- What a method raises: a `LocalStorageError`, or the exception of the driver. -/
inductive StorageError where
  | refused (code : String)
  | driver (name : String)
  deriving DecidableEq

inductive ApprovalState where
  | draft
  | awaitingApproval
  | approved
  | transferring
  | conflict
  | reindexRequested
  | blocked
  | cancelled
  deriving DecidableEq

namespace ApprovalState

def ofText : String → Option ApprovalState
  | "draft" => some draft
  | "awaiting_approval" => some awaitingApproval
  | "approved" => some approved
  | "transferring" => some transferring
  | "conflict" => some conflict
  | "reindex_requested" => some reindexRequested
  | "blocked" => some blocked
  | "cancelled" => some cancelled
  | _ => none

/-- `approval_state IN ('approved','transferring','conflict')`. -/
def Resumable (state : ApprovalState) : Prop :=
  state = approved ∨ state = transferring ∨ state = conflict

instance (state : ApprovalState) : Decidable state.Resumable :=
  inferInstanceAs (Decidable (_ ∨ _))

end ApprovalState

/-- A row of `sync_queue_states`. -/
structure QueueRow where
  workspaceId : String
  operationId : String
  version : Int
  approvalState : ApprovalState
  manifestDigest : String
  batchCursor : Option String
  conflictId : Option String
  queuedAt : String
  previousVersion : Option Int
  deriving DecidableEq

structure LocalSyncQueueState where
  operationId : String
  version : Int
  approvalState : ApprovalState
  manifestDigest : String
  batchCursor : Option String
  conflictId : Option String
  queuedAt : String
  previousVersion : Option Int
  deriving DecidableEq

def QueueRow.state (row : QueueRow) : LocalSyncQueueState :=
  ⟨row.operationId, row.version, row.approvalState, row.manifestDigest, row.batchCursor,
    row.conflictId, row.queuedAt, row.previousVersion⟩

/-- A text matches a template: `h` is a hexadecimal digit, `d` what `\d` matches, `v` a digit from 1
to 5, `r` one of `89ab`, and any other character itself. -/
def matchesTemplate (digit : Char → Bool) : List Char → List Char → Bool
  | [], [] => true
  | t :: ts, c :: cs =>
    (match t with
    | 'h' => "0123456789abcdef".toList.contains c
    | 'd' => digit c
    | 'v' => "12345".toList.contains c
    | 'r' => "89ab".toList.contains c
    | t => t = c) && matchesTemplate digit ts cs
  | _, _ => false

/-- `_WORKSPACE_ID.fullmatch`. -/
def isWorkspaceId (s : String) : Bool :=
  matchesTemplate Char.isDigit "hhhhhhhh-hhhh-vhhh-rhhh-hhhhhhhhhhhh".toList s.toList

/-- `_CANON_ID.fullmatch`. -/
def isCanonId (s : String) : Bool :=
  match s.toList with
  | [] => false
  | c :: cs => c.isAlphanum && cs.all isIdChar && cs.length ≤ 255

/-- `_UTC_TIMESTAMP.fullmatch`, for what `\d` matches. -/
def isUtcTimestamp (digit : Char → Bool) (s : String) : Bool :=
  matchesTemplate digit "dddd-dd-ddTdd:dd:dd".toList (s.toList.take 19) &&
    match s.toList.drop 19 with
    | '.' :: rest =>
      match rest.reverse with
      | 'Z' :: fraction => !fraction.isEmpty && fraction.all digit
      | _ => false
    | rest => rest = ['Z']

/-! ## The store -/

/-- The rows in the file, and those that the connection of an unlocked store sees. -/
structure Store where
  committed : List QueueRow
  view : Option (List QueueRow)

/-- How the driver fails in one method: the exception of a query, of the `INSERT` and of the commit,
which may have been carried out nevertheless. -/
structure Faults where
  query : Option String := none
  insert : Option String := none
  commit : Option (String × Bool) := none
  deriving DecidableEq

abbrev Method (α : Type) := Call Store StorageError α

def db : Method (List QueueRow) :=
  Call.query fun s => match s.view with
    | none => .error (.refused "LOCAL_KEY_UNAVAILABLE")
    | some rows => .ok rows

def raiseDriver (fault : Option String) : Method PUnit :=
  match fault with
  | none => pure ⟨⟩
  | some name => Call.raise (.driver name)

/-- `database.commit()`. -/
def Store.commit (s : Store) : Store := { s with committed := s.view.getD s.committed }

/-- `database.rollback()`, when the store is unlocked. -/
def Store.rollback (s : Store) : Store := { s with view := s.view.map fun _ => s.committed }

def commit (fault : Option (String × Bool)) : Method PUnit :=
  match fault with
  | none => Call.modify Store.commit
  | some (name, written) => do
    if written then Call.modify Store.commit else pure ⟨⟩
    Call.raise (.driver name)

def scope (workspaceId : String) : Method PUnit :=
  Call.ensure (isWorkspaceId workspaceId) (.refused "LOCAL_SCOPE_INVALID")

def QueueRow.SameKey (row other : QueueRow) : Prop :=
  row.workspaceId = other.workspaceId ∧ row.operationId = other.operationId ∧
    row.version = other.version

instance (row other : QueueRow) : Decidable (row.SameKey other) :=
  inferInstanceAs (Decidable (_ ∧ _))

/-- The key and the checks of `sync_queue_states`. -/
def Admits (rows : List QueueRow) (row : QueueRow) : Prop :=
  (∀ other ∈ rows, ¬other.SameKey row) ∧ 0 < row.version ∧ row.manifestDigest.length = 64 ∧
    (row.version = 1 ↔ row.previousVersion = none) ∧
    ∀ previous ∈ row.previousVersion, previous = row.version - 1

instance (rows : List QueueRow) (row : QueueRow) : Decidable (Admits rows row) :=
  inferInstanceAs (Decidable (_ ∧ _))

/-- The arguments of `append_sync_queue_state`. -/
structure Append where
  workspaceId : String
  operationId : String
  version : Int
  approvalState : String
  manifestDigest : String
  batchCursor : Option String
  conflictId : Option String
  queuedAt : String
  previousVersion : Option Int
  deriving DecidableEq

def Append.row (a : Append) (state : ApprovalState) : QueueRow :=
  ⟨a.workspaceId, a.operationId, a.version, state, a.manifestDigest, a.batchCursor, a.conflictId,
    a.queuedAt, a.previousVersion⟩

/-- The checks of `append_sync_queue_state` on its arguments but the state. -/
def Append.Valid (digit : Char → Bool) (a : Append) : Prop :=
  isCanonId a.operationId = true ∧ 1 ≤ a.version ∧ isDigest a.manifestDigest = true ∧
    (∀ cursor ∈ a.batchCursor, isCanonId cursor = true) ∧
    (∀ conflict ∈ a.conflictId, isCanonId conflict = true) ∧
    isUtcTimestamp digit a.queuedAt = true ∧
    (a.version = 1 ↔ a.previousVersion = none) ∧
    ∀ previous ∈ a.previousVersion, previous = a.version - 1

instance (digit : Char → Bool) (a : Append) : Decidable (a.Valid digit) :=
  inferInstanceAs (Decidable (_ ∧ _))

/-- `INSERT INTO sync_queue_states` and the commit. -/
def insertState (faults : Faults) (rows : List QueueRow) (row : QueueRow) : Method PUnit := do
  raiseDriver faults.insert
  if Admits rows row then do
    Call.modify fun s => { s with view := some (rows ++ [row]) }
    commit faults.commit
  else do
    Call.modify Store.rollback
    Call.raise (.refused "LOCAL_SYNC_QUEUE_IMMUTABLE")

def appendSyncQueueState (digit : Char → Bool) (faults : Faults) (a : Append) : Method PUnit := do
  scope a.workspaceId
  match ApprovalState.ofText a.approvalState with
  | none => Call.raise (.refused "LOCAL_SYNC_QUEUE_INVALID")
  | some state => do
    Call.ensure (a.Valid digit) (.refused "LOCAL_SYNC_QUEUE_INVALID")
    let rows ← db
    raiseDriver faults.query
    Call.ensure (∀ owner ∈ rows, owner.operationId = a.operationId → owner.workspaceId = a.workspaceId)
      (.refused "LOCAL_SYNC_QUEUE_NOT_FOUND")
    -- a number that SQLite cannot hold
    Call.ensure (a.version < 2 ^ 63) (.driver "OverflowError")
    match rows.find? fun row => row.SameKey (a.row state) with
    | some replay =>
      Call.ensure (replay.approvalState = state ∧ replay.manifestDigest = a.manifestDigest ∧
          replay.batchCursor = a.batchCursor ∧ replay.conflictId = a.conflictId ∧
          replay.previousVersion = a.previousVersion)
        (.refused "LOCAL_SYNC_QUEUE_IMMUTABLE")
    | none => do
      Call.ensure (∀ previous ∈ a.previousVersion, ∃ prior ∈ rows,
          prior.workspaceId = a.workspaceId ∧ prior.operationId = a.operationId ∧
            prior.version = previous)
        (.refused "LOCAL_SYNC_QUEUE_PREVIOUS_INVALID")
      insertState faults rows (a.row state)

/-! ## The readings -/

/-- The order of the versions. -/
local instance versionOrder : Preorder Int := Int.instLinearOrder.toPartialOrder.toPreorder

/-- The row of an operation with the highest version: `ORDER BY version DESC LIMIT 1`. -/
def latestRow (rows : List QueueRow) (workspaceId operationId : String) : Option QueueRow :=
  (rows.filter fun row => row.workspaceId = workspaceId ∧ row.operationId = operationId).argmax
    QueueRow.version

def getSyncQueueState (fault : Option String) (workspaceId operationId : String) :
    Method LocalSyncQueueState := do
  scope workspaceId
  Call.ensure (isCanonId operationId) (.refused "LOCAL_SYNC_QUEUE_INVALID")
  let rows ← db
  raiseDriver fault
  match latestRow rows workspaceId operationId with
  | none => Call.raise (.refused "LOCAL_SYNC_QUEUE_NOT_FOUND")
  | some row => return row.state

def getSyncQueueStateGlobal (fault : Option String) (operationId : String) :
    Method LocalSyncQueueState := do
  Call.ensure (isCanonId operationId) (.refused "LOCAL_SYNC_QUEUE_INVALID")
  let rows ← db
  raiseDriver fault
  match ((rows.filter fun row => row.operationId = operationId).map (·.workspaceId)).dedup with
  | [workspaceId] => getSyncQueueState fault workspaceId operationId
  | _ => Call.raise (.refused "LOCAL_SYNC_QUEUE_NOT_FOUND")

/-- `SELECT operation_id, max(version) … WHERE workspace_id = ? GROUP BY operation_id`. -/
def latestVersions (rows : List QueueRow) (workspaceId : String) : List (String × Option Int) :=
  let own := rows.filter fun row => row.workspaceId = workspaceId
  (own.map (·.operationId)).dedup.map fun operationId =>
    (operationId, ((own.filter fun row => row.operationId = operationId).map (·.version)).max?)

/-- The query of `list_resumable_sync_operations`: the rows joined with the latest versions. -/
def resumable (rows : List QueueRow) (workspaceId : String) : List String :=
  let current := rows.filter fun row =>
    row.workspaceId = workspaceId ∧ row.approvalState.Resumable
  (current.flatMap fun row =>
    ((latestVersions rows workspaceId).filter fun latest =>
      latest = (row.operationId, some row.version)).map fun _ => row.operationId).mergeSort
    (· ≤ ·)

def listResumableSyncOperations (fault : Option String) (workspaceId : String) :
    Method (List String) := do
  scope workspaceId
  let rows ← db
  raiseDriver fault
  return resumable rows workspaceId

/-- The methods, the locking and opening of the store, and what another method does to an open
transaction. -/
inductive QueueInput where
  | append (a : Append) (faults : Faults)
  | get (workspaceId operationId : String) (fault : Option String)
  | getGlobal (operationId : String) (fault : Option String)
  | list (workspaceId : String) (fault : Option String)
  | lock
  | unlock
  | settle (commits : Bool)

inductive QueueReply where
  | done
  | state (value : LocalSyncQueueState)
  | operations (ids : List String)
  deriving DecidableEq

def perform (digit : Char → Bool) : QueueInput → Method QueueReply
  | .append a faults => (fun _ => .done) <$> appendSyncQueueState digit faults a
  | .get workspaceId operationId fault =>
    QueueReply.state <$> getSyncQueueState fault workspaceId operationId
  | .getGlobal operationId fault => QueueReply.state <$> getSyncQueueStateGlobal fault operationId
  | .list workspaceId fault =>
    QueueReply.operations <$> listResumableSyncOperations fault workspaceId
  | .lock => (fun _ => .done) <$> Call.modify fun s => { s with view := none }
  | .unlock =>
    (fun _ => .done) <$> Call.modify fun s => { s with view := some (s.view.getD s.committed) }
  | .settle commits =>
    (fun _ => .done) <$> Call.modify fun s => if commits then s.commit else s.rollback

def syncQueue (digit : Char → Bool) : Machine Store QueueInput (Except StorageError QueueReply) where
  init := { committed := [], view := none }
  step s i := perform digit i s

end DaonUser.LocalStorage
