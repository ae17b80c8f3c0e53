import DaonUser.Base
import DaonUser.Lib.Call
import DaonUser.Lib.Dict
import DaonUser.Lib.Machine
import Mathlib.Data.List.Basic
import Mathlib.Data.Prod.Lex
import Mathlib.Data.String.Basic

/-!
# Notebook bindings: the repository

The rows that `PostgresNotebookRepository` keeps of one workspace, and its methods that bind records to a
notebook, unbind sources and read the result. The binding lock of a notebook makes its `bind_verified` calls
follow each other, and the unbinding lock its `unbind_source` calls; each of the two adds rows to a table
that the other only reads.

The rows that the transactions only read belong to the environment.
-/

namespace DaonUser.Notebook

open Lib

/-! ## Values -/

structure NotebookError where
  code : String
  status : Nat := 400
  deriving DecidableEq

/-- `NotebookContext`, of one workspace, whose construction checks its ids. -/
structure NotebookContext where
  tenantId : String
  actorId : String
  safe : isSafeId tenantId = true ∧ isSafeId actorId = true

inductive BindingKind where
  | source
  | knowledgeContext
  | conversationThread
  | studioOutput
  | outputVersion
  | generationSettings
  deriving DecidableEq

/-- The kind of a `binding_kind` argument, if it is one. -/
def BindingKind.ofText : String → Option BindingKind
  | "source" => some .source
  | "knowledge_context" => some .knowledgeContext
  | "conversation_thread" => some .conversationThread
  | "studio_output" => some .studioOutput
  | "output_version" => some .outputVersion
  | "generation_settings" => some .generationSettings
  | _ => none

/-! ## Rows -/

/-- A notebook and its current row of `notebook_metadata_versions`. -/
structure Metadata where
  title : String
  updatedAt : Int
  version : Nat
  deriving DecidableEq

/-- A row of `notebook_bindings`. -/
structure BindingRow where
  notebookId : String
  kind : BindingKind
  recordId : String
  versionId : Option String
  createdBy : String
  createdAt : Int
  deriving DecidableEq

/-- A row of `notebook_source_unbindings`. -/
structure UnbindingRow where
  notebookId : String
  sourceId : String
  sourceVersionId : String
  bindingVersion : Nat
  actorId : String
  occurredAt : Int
  deriving DecidableEq

/-- A row of `notebook_source_unbinding_idempotency`. -/
structure UnbindingKeyRow where
  actorId : String
  idempotencyKey : String
  requestFingerprint : String
  notebookId : String
  sourceId : String
  sourceVersionId : String
  bindingVersion : Nat
  deriving DecidableEq

inductive ActivityKind where
  | created
  | titleUpdated
  | contextBound
  | contextUnbound
  deriving DecidableEq

/-- A row of `notebook_activities`. -/
structure ActivityRow where
  notebookId : String
  sequence : Nat
  kind : ActivityKind
  actorId : String
  occurredAt : Int
  deriving DecidableEq

/-- A row of `audit_events`, as `unbind_source` writes it. -/
structure AuditRow where
  eventId : String
  actorId : String
  targetId : String
  bindingVersion : Nat
  deriving DecidableEq

structure Ledger where
  notebooks : Dict String Metadata
  bindings : List BindingRow
  unbindings : List UnbindingRow
  unbindingKeys : List UnbindingKeyRow
  activities : List ActivityRow
  audit : List AuditRow

/-! ## Views -/

/-- `NotebookBindingChangeView`; its status is always `unbound`. -/
structure BindingChangeView where
  notebookId : String
  sourceId : String
  sourceVersionId : String
  etag : String
  deriving DecidableEq

inductive HomeStatus where
  | empty
  | active
  deriving DecidableEq

/-- `NotebookHomeView`. -/
structure HomeView where
  notebookId : String
  title : String
  sourceCount : Nat
  outputCount : Nat
  updatedAt : Int
  status : HomeStatus
  etag : String
  deriving DecidableEq

/-- A citation of a conversation: whether its origin is `raw_source`, and what it cites. -/
structure Citation where
  citationId : String
  rawSource : Bool
  sourceId : String
  sourceVersionId : String
  deriving DecidableEq

/-- `NotebookConversationView`. -/
structure ConversationView where
  conversationThreadId : String
  answer : String
  citations : List Citation
  deriving DecidableEq

/-- `NotebookSelectedContext`. -/
structure SelectedContext where
  notebookId : String
  sources : List (String × String)
  knowledgeContextIds : List String
  conversationThreadIds : List String
  studioOutputIds : List String
  outputVersionIds : List String
  generationSettingsIds : List String
  conversation : Option ConversationView
  etag : String
  deriving DecidableEq

abbrev Transaction (α : Type) := Call Ledger NotebookError α

def unavailable : NotebookError := { code := "NOTEBOOK_UNAVAILABLE", status := 503 }

/-! ## `bind_verified` -/

/-- What the environment decides in one call: whether the record to bind is there, and whether the
database fails before the commit. -/
structure Env where
  found : Bool
  fails : Bool

/-- `SELECT 1 FROM notebooks`. -/
def requireNotebook (notebookId : String) : Transaction PUnit := do
  let l ← Call.get
  Call.ensure (l.notebooks.get? notebookId ≠ none)
    { code := "NOTEBOOK_NOT_FOUND", status := 404 }

/-- `coalesce(max(sequence),0)+1`. -/
def Ledger.nextSequence (l : Ledger) (notebookId : String) : Nat :=
  ((l.activities.filter fun row => row.notebookId = notebookId).map (·.sequence)).foldl max 0 + 1

/-- `INSERT INTO notebook_activities`. -/
def Ledger.logActivity (l : Ledger) (notebookId : String) (kind : ActivityKind) (actorId : String)
    (now : Int) : Ledger :=
  { l with activities := l.activities ++
      [⟨notebookId, l.nextSequence notebookId, kind, actorId, now⟩] }

def BindingRow.SameKey (row other : BindingRow) : Prop :=
  row.notebookId = other.notebookId ∧ row.kind = other.kind ∧ row.recordId = other.recordId

instance (row other : BindingRow) : Decidable (row.SameKey other) :=
  inferInstanceAs (Decidable (_ ∧ _))

def requireTarget (env : Env) (kind : Option BindingKind) (versionId : Option String) :
    Transaction BindingKind :=
  match kind with
  | some .source => do
    Call.ensure (versionId ≠ none) { code := "NOTEBOOK_BINDING_VERSION_ID_INVALID" }
    Call.ensure (env.found = true) { code := "NOTEBOOK_BINDING_TARGET_NOT_FOUND", status := 404 }
    return .source
  | some kind => do
    Call.ensure (versionId = none) { code := "NOTEBOOK_BINDING_KIND_INVALID" }
    Call.ensure (env.found = true) { code := "NOTEBOOK_BINDING_TARGET_NOT_FOUND", status := 404 }
    return kind
  | none => Call.raise { code := "NOTEBOOK_BINDING_KIND_INVALID" }

def bindVerified (env : Env) (context : NotebookContext) (notebookId bindingKind recordId : String)
    (versionId : Option String) (now : Int) : Transaction Bool :=
  Call.atomically do
    requireNotebook notebookId
    let kind ← requireTarget env (BindingKind.ofText bindingKind) versionId
    let row : BindingRow := ⟨notebookId, kind, recordId, versionId, context.actorId, now⟩
    Call.ensure (env.fails = false) unavailable
    let l ← Call.get
    -- `ON CONFLICT DO NOTHING RETURNING 1`
    if ∃ other ∈ l.bindings, other.SameKey row then
      return true
    else do
      Call.modify fun l => { l with bindings := l.bindings ++ [row] }
      Call.modify fun l => l.logActivity notebookId .contextBound context.actorId now
      return false

/-! ## `unbind_source` -/

def Ledger.bindingVersion (l : Ledger) (notebookId : String) : Nat :=
  1 + (l.unbindings.filter fun row => row.notebookId = notebookId).length

/-- `f'"notebook-binding:{version}"'`. -/
def bindingEtag (version : Nat) : String := "\"notebook-binding:" ++ toString version ++ "\""

def Ledger.Unbound (l : Ledger) (notebookId sourceId sourceVersionId : String) : Prop :=
  ∃ row ∈ l.unbindings, row.notebookId = notebookId ∧ row.sourceId = sourceId ∧
    row.sourceVersionId = sourceVersionId

instance (l : Ledger) (notebookId sourceId sourceVersionId : String) :
    Decidable (l.Unbound notebookId sourceId sourceVersionId) :=
  inferInstanceAs (Decidable (∃ row ∈ l.unbindings, _))

def Ledger.Bound (l : Ledger) (notebookId sourceId sourceVersionId : String) : Prop :=
  (∃ row ∈ l.bindings, row.notebookId = notebookId ∧ row.kind = .source ∧
    row.recordId = sourceId ∧ row.versionId = some sourceVersionId) ∧
  ¬l.Unbound notebookId sourceId sourceVersionId

instance (l : Ledger) (notebookId sourceId sourceVersionId : String) :
    Decidable (l.Bound notebookId sourceId sourceVersionId) :=
  inferInstanceAs (Decidable (_ ∧ _))

/-- The arguments of `unbind_source`. -/
structure Unbind where
  notebookId : String
  sourceId : String
  sourceVersionId : String
  expectedEtag : String
  idempotencyKey : String
  requestFingerprint : String
  now : Int

def Ledger.unbindingKey (l : Ledger) (actorId idempotencyKey : String) : Option UnbindingKeyRow :=
  l.unbindingKeys.find? fun row =>
    row.actorId = actorId ∧ row.idempotencyKey = idempotencyKey

/-- The event id that `unbind_source` records. -/
def unbindAuditId (sha256 : String → String) (context : NotebookContext) (idempotencyKey : String) :
    String :=
  "notebook-audit-" ++ String.ofList ((sha256 ("unbind|" ++ context.tenantId ++ "|" ++
    context.actorId ++ "|" ++ idempotencyKey)).toList.take 24)

/-- The rows that `unbind_source` adds. -/
def Ledger.unbind (sha256 : String → String) (l : Ledger) (context : NotebookContext)
    (u : Unbind) : Ledger :=
  let version := l.bindingVersion u.notebookId + 1
  let l : Ledger := { l with unbindings := l.unbindings ++
    [⟨u.notebookId, u.sourceId, u.sourceVersionId, version, context.actorId, u.now⟩] }
  let l := l.logActivity u.notebookId .contextUnbound context.actorId u.now
  { l with
    unbindingKeys := l.unbindingKeys ++ [⟨context.actorId, u.idempotencyKey, u.requestFingerprint,
      u.notebookId, u.sourceId, u.sourceVersionId, version⟩],
    audit := l.audit ++ [⟨unbindAuditId sha256 context u.idempotencyKey, context.actorId,
      u.notebookId, version⟩] }

def unbindSource (sha256 : String → String) (env : Env) (context : NotebookContext) (u : Unbind) :
    Transaction (BindingChangeView × Bool) :=
  Call.atomically do
    let l ← Call.get
    match l.unbindingKey context.actorId u.idempotencyKey with
    | some row => do
      Call.ensure (row.requestFingerprint = u.requestFingerprint)
        { code := "IDEMPOTENCY_KEY_REUSED", status := 409 }
      return ({ notebookId := row.notebookId, sourceId := row.sourceId,
                sourceVersionId := row.sourceVersionId,
                etag := bindingEtag row.bindingVersion }, true)
    | none => do
      requireNotebook u.notebookId
      let version := l.bindingVersion u.notebookId
      Call.ensure (u.expectedEtag = bindingEtag version)
        { code := "NOTEBOOK_BINDING_ETAG_MISMATCH", status := 412 }
      Call.ensure (l.Bound u.notebookId u.sourceId u.sourceVersionId)
        { code := "NOTEBOOK_BINDING_NOT_FOUND", status := 404 }
      Call.ensure (∀ row ∈ l.audit, row.eventId ≠ unbindAuditId sha256 context u.idempotencyKey)
        unavailable
      Call.ensure (env.fails = false) unavailable
      Call.modify fun l => l.unbind sha256 context u
      return ({ notebookId := u.notebookId, sourceId := u.sourceId,
                sourceVersionId := u.sourceVersionId, etag := bindingEtag (version + 1) }, false)

/-! ## `read_selected_context` -/

/-- What other tables hold when a context is read: the latest completed conversation, the private
settings, the deleted sources and the source versions that the caller may not see. -/
structure ReadEnv where
  conversation : Option ConversationView
  privateSettings : String → Bool
  deleted : String → Bool
  denied : String → Bool

/-- The `WHERE` clause of the bindings that are read. -/
def Ledger.Selected (l : Ledger) (env : ReadEnv) (notebookId : String) (row : BindingRow) : Prop :=
  row.notebookId = notebookId ∧
  ¬(row.kind = .source ∧ ∃ version ∈ row.versionId, l.Unbound row.notebookId row.recordId version) ∧
  ¬(row.kind = .source ∧ env.deleted row.recordId = true) ∧
  ¬(row.kind = .source ∧ ∃ version ∈ row.versionId, env.denied version = true) ∧
  ¬(row.kind = .generationSettings ∧ env.privateSettings row.recordId = true)

instance (l : Ledger) (env : ReadEnv) (notebookId : String) (row : BindingRow) :
    Decidable (l.Selected env notebookId row) :=
  inferInstanceAs (Decidable (_ ∧ _))

def BindingRow.pair (row : BindingRow) : Option (String × String) :=
  if row.kind = .source then row.versionId.map fun version => (row.recordId, version) else none

/-- `sorted`, of pairs. -/
def sortPairs (pairs : List (String × String)) : List (String × String) :=
  pairs.mergeSort fun a b => a.1 < b.1 ∨ a.1 = b.1 ∧ a.2 ≤ b.2

def records (rows : List BindingRow) (kind : BindingKind) : List String :=
  ((rows.filter fun row => row.kind = kind).map (·.recordId)).mergeSort (· ≤ ·)

def selectedContext (notebookId : String) (rows : List BindingRow)
    (conversation : Option ConversationView) (bindingVersion : Nat) : SelectedContext where
  notebookId := notebookId
  sources := sortPairs (rows.filterMap BindingRow.pair)
  knowledgeContextIds := records rows .knowledgeContext
  conversationThreadIds := match conversation with
    | some conversation => [conversation.conversationThreadId]
    | none => (records rows .conversationThread).getLast?.toList
  studioOutputIds := records rows .studioOutput
  outputVersionIds := records rows .outputVersion
  generationSettingsIds := records rows .generationSettings
  conversation := conversation
  etag := bindingEtag bindingVersion

/-- `read_selected_context`, of a notebook without a chosen run or job. -/
def readSelectedContext (env : ReadEnv) (notebookId : String) : Transaction SelectedContext := do
  requireNotebook notebookId
  let l ← Call.get
  let rows := l.bindings.filter fun row => l.Selected env notebookId row
  let active := rows.filterMap BindingRow.pair
  -- a conversation that cites a source the notebook no longer shows is not shown
  let conversation := env.conversation.filter fun conversation =>
    conversation.citations.all fun citation =>
      !citation.rawSource || active.contains (citation.sourceId, citation.sourceVersionId)
  return selectedContext notebookId rows conversation (l.bindingVersion notebookId)

/-- The columns of `_select`, as `_view` shows them. -/
def homeView (l : Ledger) (notebookId : String) (row : Metadata) : HomeView :=
  let count (kind : BindingKind) :=
    (l.bindings.filter fun row => row.notebookId = notebookId ∧ row.kind = kind).length
  { notebookId := notebookId
    title := row.title
    sourceCount := count .source
    outputCount := count .studioOutput
    updatedAt := row.updatedAt
    status := if count .source = 0 ∧ count .studioOutput = 0 then .empty else .active
    etag := "\"notebook:" ++ toString row.version ++ "\"" }

def get (notebookId : String) : Transaction HomeView :=
  Call.query fun l => match l.notebooks.get? notebookId with
    | none => .error { code := "NOTEBOOK_NOT_FOUND", status := 404 }
    | some row => .ok (homeView l notebookId row)

inductive Input where
  | bind (context : NotebookContext) (env : Env) (notebookId bindingKind recordId : String)
      (versionId : Option String) (now : Int)
  | unbind (context : NotebookContext) (env : Env) (u : Unbind)
  | readSelectedContext (env : ReadEnv) (notebookId : String)
  | get (notebookId : String)

inductive Reply where
  | bound (replayed : Bool)
  | unbound (view : BindingChangeView) (replayed : Bool)
  | selected (context : SelectedContext)
  | home (view : HomeView)
  deriving DecidableEq

def execute (sha256 : String → String) : Input → Transaction Reply
  | .bind context env notebookId kind recordId versionId now =>
    Reply.bound <$> bindVerified env context notebookId kind recordId versionId now
  | .unbind context env u =>
    (fun result => .unbound result.1 result.2) <$> unbindSource sha256 env context u
  | .readSelectedContext env notebookId =>
    Reply.selected <$> Notebook.readSelectedContext env notebookId
  | .get notebookId => Reply.home <$> Notebook.get notebookId

/-- The repository of a workspace with some notebooks to which nothing is bound yet. -/
def repository (sha256 : String → String) (notebooks : Dict String Metadata) :
    Machine Ledger Input (Except NotebookError Reply) where
  init := ⟨notebooks, [], [], [], [], []⟩
  step l i := execute sha256 i l

end DaonUser.Notebook
