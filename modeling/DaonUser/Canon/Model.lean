import DaonUser.Base
import DaonUser.Lib.Program
import Mathlib.Data.List.Basic

/-!
# Canonical records: the tables and their state transitions

The rows of one workspace that `transition_canon_state` reads and writes. The function is a program of
statements, so that other transactions may run between them. An attempt that is denied is recorded too, and
so uses up its id. Constraints that are not modelled (foreign keys, `UNIQUE (aggregate_id, version)`, events
of other functions) can only abort a transaction, which may happen at any time.
-/

namespace DaonUser.Canon

open Lib

/-! ## Entities and their states -/

/-- The tables of `STATE_TABLES`. -/
inductive CanonTable where
  | sources
  | processingRuns
  | runs
  | generationRequests
  | outputVersions
  | approvalRequests
  | knowledgeRegistrations
  deriving DecidableEq

namespace CanonTable

def entityType : CanonTable → String
  | sources => "Source"
  | processingRuns => "ProcessingRun"
  | runs => "Run"
  | generationRequests => "GenerationRequest"
  | outputVersions => "OutputVersion"
  | approvalRequests => "ApprovalRequest"
  | knowledgeRegistrations => "KnowledgeRegistration"

/-- The state that `validate_canon_insert` asks of a new record. -/
def initialState : CanonTable → String
  | sources => "registered"
  | processingRuns => "accepted"
  | runs => "accepted"
  | generationRequests => "configuring"
  | outputVersions => "generating"
  | approvalRequests => "pending"
  | knowledgeRegistrations => "requested"

/-- `TRANSITIONS`, the rows of `canon_transition_rules`. -/
def transitionRules : CanonTable → List (String × String)
  | sources =>
    [("registered", "security_check"), ("security_check", "processing"), ("processing", "indexing"),
      ("indexing", "ready"), ("processing", "waiting_model"), ("processing", "partial_understanding"),
      ("processing", "needs_review"), ("processing", "failed"), ("waiting_model", "processing"),
      ("partial_understanding", "processing"), ("partial_understanding", "needs_review"),
      ("partial_understanding", "disabled"), ("needs_review", "processing"), ("failed", "processing"),
      ("ready", "expired"), ("ready", "disabled"), ("expired", "disabled"), ("disabled", "deleting"),
      ("deleting", "deleted")]
  | processingRuns =>
    [("accepted", "vision_llm_understanding"), ("accepted", "audio_llm_understanding"),
      ("accepted", "speech_to_text"), ("vision_llm_understanding", "parser_ocr_validation"),
      ("audio_llm_understanding", "transcript_timecode_validation"),
      ("speech_to_text", "llm_semantic_understanding"),
      ("llm_semantic_understanding", "transcript_timecode_validation"),
      ("parser_ocr_validation", "evidence_reconciliation"),
      ("transcript_timecode_validation", "evidence_reconciliation"),
      ("evidence_reconciliation", "completed")] ++
    (["accepted", "vision_llm_understanding", "audio_llm_understanding", "speech_to_text",
      "llm_semantic_understanding", "parser_ocr_validation", "transcript_timecode_validation",
      "evidence_reconciliation"].map fun state => (state, "failed")) ++
    [("accepted", "policy_blocked")]
  | runs =>
    [("accepted", "planning"), ("planning", "retrieving"), ("retrieving", "generating"),
      ("generating", "validating"), ("validating", "completed"), ("waiting_user", "planning"),
      ("waiting_approval", "planning")] ++
    (["accepted", "planning", "retrieving", "generating", "validating"].flatMap fun state =>
      ["waiting_user", "policy_blocked", "failed", "cancelled"].map fun branch => (state, branch)) ++
    [("accepted", "waiting_approval"), ("planning", "waiting_approval"),
      ("waiting_user", "cancelled"), ("waiting_approval", "cancelled")]
  | generationRequests =>
    [("configuring", "confirmed"), ("confirmed", "configuring"), ("confirmed", "submitted")]
  | outputVersions =>
    [("generating", "draft"), ("draft", "review_requested"), ("review_requested", "in_review"),
      ("in_review", "revision_requested"), ("in_review", "approved"), ("approved", "delivered")]
  | approvalRequests =>
    [("pending", "approved"), ("pending", "rejected"), ("pending", "expired"),
      ("pending", "withdrawn")]
  | knowledgeRegistrations => [("requested", "registered"), ("requested", "rejected")]

/-- `v_table`, the table of an entity type. -/
def ofEntityType (entityType : String) : Option CanonTable :=
  if entityType = "Source" then some sources
  else if entityType = "ProcessingRun" then some processingRuns
  else if entityType = "Run" then some runs
  else if entityType = "GenerationRequest" then some generationRequests
  else if entityType = "OutputVersion" then some outputVersions
  else if entityType = "ApprovalRequest" then some approvalRequests
  else if entityType = "KnowledgeRegistration" then some knowledgeRegistrations
  else none

end CanonTable

/-! ## Rows -/

structure CanonRecord where
  table : CanonTable
  recordId : String
  state : String
  version : Nat
  deriving DecidableEq

def CanonRecord.is (table : CanonTable) (recordId : String) (r : CanonRecord) : Bool :=
  r.table = table && r.recordId = recordId

/-- A row of `canon_state_transitions`. -/
structure CanonTransition where
  recordId : String
  entityType : String
  transitionId : String
  transitionVersion : Nat
  actorId : String
  sourceState : String
  targetState : String
  reasonCode : String
  traceId : String
  policyVersion : String
  deriving DecidableEq

inductive Outcome where
  | succeeded
  | denied
  deriving DecidableEq

inductive CanonCode where
  | transitionInvalid
  | versionConflict
  | recordNotFound
  | attemptIdReused
  deriving DecidableEq

/-- A row of `canon_transition_attempts`. -/
structure CanonAttempt where
  entityType : String
  recordId : String
  attemptId : String
  expectedVersion : Int
  currentVersion : Option Nat
  sourceState : Option String
  targetState : String
  actorId : String
  reasonCode : String
  safeErrorCode : Option CanonCode
  traceId : String
  policyVersion : String
  outcome : Outcome
  resultState : Option String
  resultVersion : Option Nat
  deriving DecidableEq

/-- A row of `audit_events` with the action `canon.transition`. -/
structure AuditEvent where
  eventId : String
  actorId : String
  targetType : String
  targetId : String
  outcome : Outcome
  traceId : String
  policyVersion : String
  beforeValue : Option (String × Nat)
  afterValue : Option (String × Nat)
  attemptId : String
  reasonCode : String
  safeErrorCode : Option CanonCode
  targetState : Option String
  deriving DecidableEq

structure Rows where
  records : List CanonRecord
  transitions : List CanonTransition
  attempts : List CanonAttempt
  auditEvents : List AuditEvent

def Rows.empty : Rows := ⟨[], [], [], []⟩

inductive Lock where
  | advisory (transitionId : String)
  | record (table : CanonTable) (recordId : String)
  | transition (transitionId : String)
  | attempt (attemptId : String)
  | auditEvent (eventId : String)
  deriving DecidableEq

inductive CanonError where
  | invalid
  | initialInvalid
  | immutableMutation
  | integrity
  | other
  deriving DecidableEq

abbrev Op (α : Type) := Program Rows Lock CanonError α

/-- An `INSERT` of a record, with its trigger `validate_canon_insert`. -/
def insertRecord (r : CanonRecord) : Op Unit := do
  Program.ensure (isLongId r.recordId = true) .integrity
  Program.ensure (r.version = 1 ∧ r.state = r.table.initialState) .initialInvalid
  Program.insert (fun _ => [.record r.table r.recordId])
    (fun rows => ∀ x ∈ rows.records, ¬x.is r.table r.recordId = true)
    (fun rows => { rows with records := rows.records ++ [r] }) .integrity

/-! ## The function -/

/-- The arguments of `transition_canon_state`, and the actor of the session. -/
structure TransitionArgs where
  entityType : String
  recordId : String
  expectedVersion : Int
  targetState : String
  transitionId : String
  reasonCode : String
  traceId : String
  policyVersion : String
  actorId : String
  deriving DecidableEq

/-- The row that `transition_canon_state` returns. -/
structure TransitionRow where
  state : Option String
  version : Option Nat
  outcome : Outcome
  errorCode : Option CanonCode
  deriving DecidableEq

inductive Answer where
  | inserted
  | recorded (row : TransitionRow)
  | replayed (row : TransitionRow)
  deriving DecidableEq

/-- The attempt was made with the same arguments. -/
def CanonAttempt.SameArgs (attempt : CanonAttempt) (a : TransitionArgs) : Prop :=
  attempt.entityType = a.entityType ∧ attempt.recordId = a.recordId ∧
    attempt.expectedVersion = a.expectedVersion ∧ attempt.targetState = a.targetState ∧
    attempt.actorId = a.actorId ∧ attempt.reasonCode = a.reasonCode ∧
    attempt.traceId = a.traceId ∧ attempt.policyVersion = a.policyVersion

instance (attempt : CanonAttempt) (a : TransitionArgs) : Decidable (attempt.SameArgs a) :=
  inferInstanceAs (Decidable (_ ∧ _))

def CanonAttempt.replay (attempt : CanonAttempt) (a : TransitionArgs) : TransitionRow :=
  if attempt.SameArgs a then
    ⟨attempt.resultState, attempt.resultVersion, attempt.outcome, attempt.safeErrorCode⟩
  else ⟨none, none, .denied, some .attemptIdReused⟩

def findRecord (a : TransitionArgs) : Op (Option CanonRecord) :=
  match CanonTable.ofEntityType a.entityType with
  | none => pure none
  | some table => Program.readLocked
      (fun rows => (rows.records.filter (CanonRecord.is table a.recordId)).map
        fun _ => .record table a.recordId)
      fun rows => rows.records.find? (CanonRecord.is table a.recordId)

/-- `v_error_code`, or the table and the record to change. -/
def verdict (a : TransitionArgs) (found : Option CanonRecord) :
    Except CanonCode (CanonTable × CanonRecord) :=
  match CanonTable.ofEntityType a.entityType, found with
  | none, _ => .error .transitionInvalid
  | some _, none => .error .recordNotFound
  | some table, some r =>
    if (r.version : Int) ≠ a.expectedVersion then .error .versionConflict
    else if (r.state, a.targetState) ∉ table.transitionRules then .error .transitionInvalid
    else .ok (table, r)

def TransitionArgs.attempt (a : TransitionArgs) (found : Option CanonRecord) (row : TransitionRow) :
    CanonAttempt where
  entityType := a.entityType
  recordId := a.recordId
  attemptId := a.transitionId
  expectedVersion := a.expectedVersion
  currentVersion := found.map (·.version)
  sourceState := found.map (·.state)
  targetState := a.targetState
  actorId := a.actorId
  reasonCode := a.reasonCode
  safeErrorCode := row.errorCode
  traceId := a.traceId
  policyVersion := a.policyVersion
  outcome := row.outcome
  resultState := row.state
  resultVersion := row.version

def TransitionArgs.audit (a : TransitionArgs) (found : Option CanonRecord) (row : TransitionRow) :
    AuditEvent where
  eventId := a.transitionId
  actorId := a.actorId
  targetType := a.entityType
  targetId := a.recordId
  outcome := row.outcome
  traceId := a.traceId
  policyVersion := a.policyVersion
  beforeValue := found.map fun r => (r.state, r.version)
  afterValue := row.state.bind fun state => row.version.map fun version => (state, version)
  attemptId := a.transitionId
  reasonCode := a.reasonCode
  safeErrorCode := row.errorCode
  targetState := if row.outcome = .denied then some a.targetState else none

def TransitionArgs.transition (a : TransitionArgs) (r : CanonRecord) : CanonTransition where
  recordId := a.recordId
  entityType := a.entityType
  transitionId := a.transitionId
  transitionVersion := r.version + 1
  actorId := a.actorId
  sourceState := r.state
  targetState := a.targetState
  reasonCode := a.reasonCode
  traceId := a.traceId
  policyVersion := a.policyVersion

def deniedRow (found : Option CanonRecord) (code : CanonCode) : TransitionRow :=
  ⟨found.map (·.state), found.map (·.version), .denied, some code⟩

def TransitionArgs.succeededRow (a : TransitionArgs) (r : CanonRecord) : TransitionRow :=
  ⟨some a.targetState, some (r.version + 1), .succeeded, none⟩

/-- The `UPDATE` of a record, with its trigger `guard_canon_state_mutation`. -/
def updateRecord (a : TransitionArgs) (table : CanonTable) : Op Unit :=
  Program.insert (fun _ => [.record table a.recordId])
    (fun rows => ∀ x ∈ rows.records, x.is table a.recordId = true → x.state ≠ a.targetState)
    (fun rows => { rows with
      records := rows.records.map fun x =>
        if x.is table a.recordId then { x with state := a.targetState, version := x.version + 1 }
        else x })
    .immutableMutation

/-- An `INSERT` into `canon_state_transitions`. -/
def insertTransition (t : CanonTransition) : Op Unit :=
  Program.insert (fun _ => [.transition t.transitionId])
    (fun rows => ∀ x ∈ rows.transitions, x.transitionId ≠ t.transitionId ∧
      ¬(x.entityType = t.entityType ∧ x.recordId = t.recordId ∧
        x.transitionVersion = t.transitionVersion))
    (fun rows => { rows with transitions := rows.transitions ++ [t] }) .integrity

/-- An `INSERT` into `canon_transition_attempts`. -/
def insertAttempt (attempt : CanonAttempt) : Op Unit :=
  Program.insert (fun _ => [.attempt attempt.attemptId])
    (fun rows => isLongId attempt.attemptId = true ∧ 0 < attempt.expectedVersion ∧
      ∀ x ∈ rows.attempts, x.attemptId ≠ attempt.attemptId)
    (fun rows => { rows with attempts := rows.attempts ++ [attempt] }) .integrity

/-- An `INSERT` into `audit_events`. -/
def insertAudit (event : AuditEvent) : Op Unit :=
  Program.insert (fun _ => [.auditEvent event.eventId])
    (fun rows => ∀ x ∈ rows.auditEvents, x.eventId ≠ event.eventId)
    (fun rows => { rows with auditEvents := rows.auditEvents ++ [event] }) .integrity

def recordAttempt (a : TransitionArgs) (found : Option CanonRecord) (row : TransitionRow) :
    Op Answer := do
  insertAttempt (a.attempt found row)
  insertAudit (a.audit found row)
  return .recorded row

/-- `transition_canon_state` for an id that no attempt has used. -/
def attemptTransition (a : TransitionArgs) : Op Answer := do
  let found ← findRecord a
  match verdict a found with
  | .error code => recordAttempt a found (deniedRow found code)
  | .ok (table, r) => do
    updateRecord a table
    insertTransition (a.transition r)
    recordAttempt a found (a.succeededRow r)

def transitionCanonState (a : TransitionArgs) : Op Answer := do
  Program.readLocked (fun _ => [.advisory a.transitionId]) fun _ => ()
  let existing ← Program.read fun rows : Rows =>
    rows.attempts.find? (·.attemptId = a.transitionId)
  match existing with
  | some attempt => return .replayed (attempt.replay a)
  | none => attemptTransition a

/-- The checks of `PostgresDataCanonStore.transition`. -/
def TransitionArgs.WellFormed (a : TransitionArgs) : Prop :=
  [a.entityType, a.recordId, a.targetState, a.transitionId, a.reasonCode, a.policyVersion].all
    isLongId = true ∧ 1 ≤ a.expectedVersion

instance (a : TransitionArgs) : Decidable a.WellFormed := inferInstanceAs (Decidable (_ ∧ _))

/-- `PostgresDataCanonStore.transition`, up to its commit. -/
def storeTransition (a : TransitionArgs) : Op Answer := do
  Program.ensure a.WellFormed .invalid
  transitionCanonState a

/-- What `PostgresDataCanonStore.transition` returns or raises for a row. -/
def canonicalState (row : TransitionRow) : Except (Option CanonCode) (String × Nat) :=
  match row.outcome, row.state, row.version with
  | .denied, _, _ => .error row.errorCode
  | .succeeded, some state, some version => .ok (state, version)
  | .succeeded, _, _ => .error none

inductive CanonCall where
  | insert (r : CanonRecord)
  | transition (a : TransitionArgs)
  | storeTransition (a : TransitionArgs)

def program : CanonCall → Op Answer
  | .insert r => do
    insertRecord r
    return .inserted
  | .transition a => transitionCanonState a
  | .storeTransition a => storeTransition a

def CanonCall.args? : CanonCall → Option TransitionArgs
  | insert _ => none
  | transition a => some a
  | storeTransition a => some a

end DaonUser.Canon
