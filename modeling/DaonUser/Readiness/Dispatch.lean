import DaonUser.Lib.Call
import DaonUser.Readiness.Window

/-!
# Document readiness: the dispatch of one wait

`_dispatch_one` reads the evidence inside one transaction, decides, and creates the run. What the
statements of the transaction read is an argument of the call (`Reads`); the rows that it writes are in
`Tables`. A run that the policy or the cost stops is stored too, without a job.
-/

namespace DaonUser.Readiness

open Lib

/-! ## Rows -/

inductive SourceState where
  | waitingModel
  | needsReview
  | processing
  | other (name : String)
  deriving DecidableEq

inductive RunState where
  | failed
  | policyBlocked
  | speechToText
  | visionLlmUnderstanding
  | other (name : String)
  deriving DecidableEq

inductive Modality where
  | audio
  | other (name : String)
  deriving DecidableEq

/-- A row of `processing_runs` with `trigger_type = 'readiness_event'`. -/
structure ProcessingRun where
  recordId : String
  sourceVersionId : String
  modality : Modality
  retryOfProcessingRunId : String
  triggerEventId : String
  state : RunState

/-- A row of `document_processing_jobs`, in the state `pending`. -/
structure DocumentProcessingJob where
  jobId : String
  sourceId : String
  sourceVersionId : String
  processingRunId : String

/-- A row of `audit_events` with the action `source.readiness_reprocess`. -/
structure AuditEvent where
  eventId : String
  targetId : String
  outcome : String
  safeCode : SafeCode

structure ReprocessReceipt where
  outcome : Action
  safeCode : SafeCode
  newRunId : Option String
  receivedAt : Int

structure Tables where
  processingRuns : List ProcessingRun
  sources : String → SourceState
  documentProcessingJobs : List DocumentProcessingJob
  auditEvents : List AuditEvent

/-! ## What a dispatch reads -/

/-- What `_authorize` returns. -/
structure Grant where
  role : String
  roleScope : String
  membershipVersion : Int
  aclVersion : Int
  policyVersion : String
  deriving DecidableEq

/-- What `_parent` reads of the source and its latest run. -/
structure Parent where
  state : SourceState
  version : Int
  sourceVersionId : String
  runId : String
  runState : RunState
  canonicalJson : String
  modality : Modality
  deriving DecidableEq

/-- The columns `data_area` and `cost_limit_cents` of a workspace. -/
structure WorkspacePolicy where
  dataArea : String
  costLimitCents : Option Int
  deriving DecidableEq

structure ReadinessPolicySnapshot where
  eligibility : CurrentReprocessEligibility
  frozenContextJson : String
  mode : Mode × Origin
  boundConnectionId : Option String
  workspacePolicy : WorkspacePolicy

/-- The snapshots are equal: the eligibility and the text of the context are. -/
def ReadinessPolicySnapshot.Same (a b : ReadinessPolicySnapshot) : Prop :=
  a.eligibility = b.eligibility ∧ a.frozenContextJson = b.frozenContextJson

deriving instance DecidableEq for CurrentReprocessEligibility

instance (a b : ReadinessPolicySnapshot) : Decidable (a.Same b) :=
  inferInstanceAs (Decidable (_ ∧ _))

/-- What `read_document_reprocess_history` returns of an earlier receipt. -/
structure HistoryRow where
  eventId : String
  receipt : ReprocessReceipt

/-- What the statements of one dispatch read, and whether those that write are refused. A reading that is
repeated is numbered. -/
structure Reads where
  authorize : Nat → Except DocumentUnderstandingError Grant
  parent : Nat → Except DocumentUnderstandingError Parent
  currentPolicy : Nat → Except DocumentUnderstandingError ReadinessPolicySnapshot
  history : List HistoryRow
  active : Bool
  latestObservation : Option ValidatedReadinessObservation
  clockTimestamp : DateTime
  blockedParent : Bool
  workspace : Option (WorkspacePolicy × Int)
  transition : Nat → Except DocumentUnderstandingError PUnit
  recordReceipt : ReprocessReceipt → Except DocumentUnderstandingError ReprocessReceipt

structure Dispatcher where
  scopes : List (String × String × String × String)
  digest : List String → Option Capability → String → String

abbrev Op (α : Type) := Call Tables DocumentUnderstandingError α

def conflict (code : String) : DocumentUnderstandingError := { code, status := 409 }

def accessDenied : DocumentUnderstandingError := { code := "CURRENT_ACCESS_DENIED", status := 403 }

def unavailable : DocumentUnderstandingError :=
  { code := "DOCUMENT_PROCESSING_DATABASE_UNAVAILABLE", status := 503 }

def readCurrentSnapshot (wait : RoleWaitEvidence)
    (result : Except DocumentUnderstandingError ReadinessPolicySnapshot) :
    Except DocumentUnderstandingError ReadinessPolicySnapshot := do
  let snapshot ← result
  let current := snapshot.eligibility
  if (current.tenantId, current.workspaceId, current.actorId, current.notebookId,
      current.sourceVersionId, current.priorRunId) ≠ (wait.tenantId, wait.workspaceId, wait.actorId,
        wait.notebookId, wait.sourceVersionId, wait.processingRunId) then .error unavailable
  else if current.capability ≠ wait.capability ∨
      snapshot.mode ≠ (wait.mode.mode, wait.mode.origin) then .error unavailable
  else if current.dependencyConnectionId ≠ snapshot.boundConnectionId then .error unavailable
  else .ok snapshot

theorem RoleWaitEvidence.ids_withRun (wait : RoleWaitEvidence) {runId : String}
    (h : isLongId runId = true) : [wait.tenantId, wait.workspaceId, wait.actorId, wait.notebookId,
      wait.sourceId, wait.sourceVersionId, runId].all isLongId = true := by
  have hids := wait.ids
  simp only [List.all_cons, List.all_nil, Bool.and_true, Bool.and_eq_true] at hids ⊢
  exact ⟨hids.1, hids.2.1, hids.2.2.1, hids.2.2.2.1, hids.2.2.2.2.1, hids.2.2.2.2.2.1, h⟩

/-- `replace(wait, processing_run_id=run_id)`. -/
def RoleWaitEvidence.withRun (wait : RoleWaitEvidence) (runId : String) (h : isLongId runId = true) :
    RoleWaitEvidence :=
  { wait with processingRunId := runId, ids := wait.ids_withRun h }

theorem CurrentReprocessEligibility.ids_withRun (current : CurrentReprocessEligibility)
    {runId : String} (h : isLongId runId = true) : [current.tenantId, current.workspaceId,
      current.actorId, current.notebookId, current.sourceVersionId, runId].all isLongId = true := by
  have hids := current.ids
  simp only [List.all_cons, List.all_nil, Bool.and_true, Bool.and_eq_true] at hids ⊢
  exact ⟨hids.1, hids.2.1, hids.2.2.1, hids.2.2.2.1, hids.2.2.2.2.1, h⟩

theorem CurrentReprocessEligibility.natural_observed (current : CurrentReprocessEligibility)
    (observation : ValidatedReadinessObservation) :
    0 ≤ current.configurationVersion ∧ 0 ≤ observation.observationSequence :=
  ⟨current.natural.1, le_trans (by decide) observation.positive.2⟩

def currentEvidence (dispatcher : Dispatcher) (wait : RoleWaitEvidence) (reads : Reads)
    (current : CurrentReprocessEligibility) (completed : Option HistoryRow)
    (observation : ValidatedReadinessObservation) (runId : String) (h : isLongId runId = true) :
    CurrentReprocessEligibility :=
  { current with
    sourceCurrent := true
    activeRun := reads.active
    scopeEnabled := decide
      ((wait.tenantId, wait.workspaceId, wait.actorId, wait.sourceVersionId) ∈ dispatcher.scopes)
    contextAlreadyDecided := completed.isSome
    costBlockedContextExists := reads.history.any fun row =>
      row.receipt.outcome = .blockCost && row.receipt.newRunId.isSome
    latestObservationSequence := observation.observationSequence
    priorRunId := runId
    ids := current.ids_withRun h
    natural := current.natural_observed observation }

/-! ## The run -/

def runIdOf (dispatcher : Dispatcher) (wait : RoleWaitEvidence)
    (current : CurrentReprocessEligibility) : String :=
  "pr-rdy-" ++ dispatcher.digest [wait.tenantId, wait.workspaceId, wait.actorId, wait.sourceVersionId]
    wait.capability current.frozenContextDigest

def firstState (modality : Modality) (blocked : Bool) : RunState :=
  if blocked then .policyBlocked
  else if modality = .audio then .speechToText
  else .visionLlmUnderstanding

def transition (reads : Reads) (n : Nat) (write : Tables → Tables) : Op PUnit := do
  Call.query fun _ => reads.transition n
  Call.modify write

def moveSource (reads : Reads) (wait : RoleWaitEvidence) (parent : Parent) (blocked : Bool) :
    Op PUnit := do
  let target := if blocked then SourceState.needsReview else .processing
  if target = parent.state then pure ⟨⟩
  else do
    if blocked ∧ parent.state = .waitingModel then
      transition reads 1 fun t => { t with sources := Function.update t.sources wait.sourceId .processing }
    transition reads 2 fun t => { t with sources := Function.update t.sources wait.sourceId target }

/-- `_create_run`, which inserts the run and moves it to its first state at once. -/
def createRun (dispatcher : Dispatcher) (reads : Reads) (wait : RoleWaitEvidence) (parent : Parent)
    (current : CurrentReprocessEligibility) (observation : ValidatedReadinessObservation)
    (decision : ReprocessDecision) (grant : Grant) (snapshot : ReadinessPolicySnapshot) :
    Op String := do
  let runId := runIdOf dispatcher wait current
  let blocked := decide (decision.action ≠ .enqueue)
  let policy ← Call.require (fun _ => reads.workspace) accessDenied
  Call.ensure (policy.2 = grant.aclVersion) accessDenied
  Call.ensure (policy.1 = snapshot.workspacePolicy) (conflict "SOURCE_VERSION_CONFLICT")
  let t ← Call.get
  Call.ensure (∀ run ∈ t.processingRuns, run.recordId ≠ runId) unavailable
  transition reads 0 fun t =>
    { t with processingRuns := t.processingRuns ++
        [{ recordId := runId
           sourceVersionId := wait.sourceVersionId
           modality := parent.modality
           retryOfProcessingRunId := parent.runId
           triggerEventId := observation.eventId
           state := firstState parent.modality blocked }] }
  moveSource reads wait parent blocked
  Call.modify fun t =>
    { t with
      documentProcessingJobs :=
        if blocked then t.documentProcessingJobs
        else t.documentProcessingJobs ++
          [⟨"dpj-" ++ runId, wait.sourceId, wait.sourceVersionId, runId⟩]
      auditEvents := t.auditEvents ++
        [⟨"audit-" ++ runId, runId, if blocked then "denied" else "succeeded", decision.safeCode⟩] }
  return runId

def checkedCreateRun (dispatcher : Dispatcher) (reads : Reads) (wait : RoleWaitEvidence)
    (parent : Parent) (policyCurrent : ReadinessPolicySnapshot)
    (observation : ValidatedReadinessObservation) (decision : ReprocessDecision) (grant : Grant) :
    Op String := do
  Call.ensure (parent.runId = wait.processingRunId ∨ reads.blockedParent)
    (conflict "SOURCE_REPROCESSING_STATE_INVALID")
  Call.ensure (parent.state = .waitingModel ∨ parent.state = .needsReview)
    (conflict "SOURCE_REPROCESSING_STATE_INVALID")
  Call.ensure (parent.runState = .failed ∨ parent.runState = .policyBlocked)
    (conflict "SOURCE_REPROCESSING_STATE_INVALID")
  Call.ensure (parent.state = .needsReview → reads.blockedParent)
    (conflict "SOURCE_REPROCESSING_STATE_INVALID")
  let finalGrant ← Call.query fun _ => reads.authorize 2
  Call.ensure (finalGrant = grant) accessDenied
  let finalSnapshot ← Call.query fun _ => readCurrentSnapshot wait (reads.currentPolicy 1)
  Call.ensure (finalSnapshot.Same policyCurrent) (conflict "SOURCE_VERSION_CONFLICT")
  let latest ← Call.query fun _ => reads.parent 2
  Call.ensure (latest = parent) (conflict "SOURCE_VERSION_CONFLICT")
  createRun dispatcher reads wait parent policyCurrent.eligibility observation decision grant
    finalSnapshot

/-- `_dispatch_one` from the decision on. -/
def settleOne (dispatcher : Dispatcher) (wait : RoleWaitEvidence) (reads : Reads) (parent : Parent)
    (policyCurrent : ReadinessPolicySnapshot) (observation : ValidatedReadinessObservation)
    (decision : ReprocessDecision) (grant : Grant) : Op ReprocessReceipt := do
  let runId ←
    if decision.createRun then
      some <$> checkedCreateRun dispatcher reads wait parent policyCurrent observation decision grant
    else pure none
  Call.query fun _ => reads.recordReceipt
    ⟨decision.action, decision.safeCode, runId, reads.clockTimestamp.microseconds⟩

def dispatchOne (dispatcher : Dispatcher) (wait : RoleWaitEvidence) (reads : Reads) :
    Op ReprocessReceipt := do
  let _ ← Call.query fun _ => reads.authorize 0
  let _ ← Call.query fun _ => reads.parent 0
  let policyCurrent ← Call.query fun _ => readCurrentSnapshot wait (reads.currentPolicy 0)
  let current := policyCurrent.eligibility
  let grant ← Call.query fun _ => reads.authorize 1
  let parent ← Call.query fun _ => reads.parent 1
  let completed := reads.history.find? (·.receipt.newRunId.isSome)
  match current.dependencyConnectionId.bind fun _ => reads.latestObservation with
  | none => return ⟨.defer, .notReady, none, reads.clockTimestamp.microseconds⟩
  | some observation =>
    match completed.filter (·.eventId = observation.eventId) with
    | some row => return row.receipt
    | none =>
      if h : isLongId parent.runId = true then do
        let decision ← Call.query fun _ => decideReprocess (wait.withRun parent.runId h)
          (some observation)
          (currentEvidence dispatcher wait reads current completed observation parent.runId h)
          reads.clockTimestamp
        settleOne dispatcher wait reads parent policyCurrent observation decision grant
      else Call.query fun _ => invalid

def dispatch (dispatcher : Dispatcher) (wait : RoleWaitEvidence) (reads : Reads) :
    Op ReprocessReceipt :=
  Call.atomically (dispatchOne dispatcher wait reads)

/-- A run was stored for a decision, with a job where it is enqueued and stopped where it is not. -/
structure Created (decision : ReprocessDecision) (t t' : Tables) : Prop where
  run : ∃ run, t'.processingRuns = t.processingRuns ++ [run] ∧
    (decision.action ≠ .enqueue → run.state = .policyBlocked)
  jobs : decision.action ≠ .enqueue → t'.documentProcessingJobs = t.documentProcessingJobs

/-- Nothing was stored of runs and jobs. -/
def Unchanged (t t' : Tables) : Prop :=
  t'.processingRuns = t.processingRuns ∧ t'.documentProcessingJobs = t.documentProcessingJobs

theorem returns_moveSource (reads : Reads) (wait : RoleWaitEvidence) (parent : Parent)
    (blocked : Bool) (t : Tables) :
    Call.Returns (moveSource reads wait parent blocked) t fun _ => Unchanged t := by
  simp only [moveSource, transition, Call.returns_ite, Call.returns_bind, Call.returns_query,
    Call.returns_modify, Call.returns_pure]
  refine ⟨fun _ => ⟨rfl, rfl⟩, fun _ => ⟨fun _ _ _ _ _ => ⟨rfl, rfl⟩, fun _ _ _ => ⟨rfl, rfl⟩⟩⟩

theorem returns_createRun (dispatcher : Dispatcher) (reads : Reads) (wait : RoleWaitEvidence)
    (parent : Parent) (current : CurrentReprocessEligibility)
    (observation : ValidatedReadinessObservation) (decision : ReprocessDecision) (grant : Grant)
    (snapshot : ReadinessPolicySnapshot) (t : Tables) :
    Call.Returns (createRun dispatcher reads wait parent current observation decision grant snapshot)
      t fun _ => Created decision t := by
  simp only [createRun, transition, Call.returns_bind, Call.returns_require, Call.returns_ensure,
    Call.returns_get, Call.returns_query, Call.returns_modify, Call.returns_pure]
  intro policy _ _ _ _ _ _
  refine (returns_moveSource reads wait parent _ _).mono fun _ t' hmoved => ⟨⟨_, hmoved.1, ?_⟩, ?_⟩
  · intro hblocked
    rw [firstState, decide_eq_true hblocked]
    rfl
  · intro hblocked
    simp only [decide_eq_true hblocked, if_true]
    exact hmoved.2

theorem returns_checkedCreateRun (dispatcher : Dispatcher) (reads : Reads) (wait : RoleWaitEvidence)
    (parent : Parent) (policyCurrent : ReadinessPolicySnapshot)
    (observation : ValidatedReadinessObservation) (decision : ReprocessDecision) (grant : Grant)
    (t : Tables) :
    Call.Returns (checkedCreateRun dispatcher reads wait parent policyCurrent observation decision
      grant) t fun _ => Created decision t := by
  simp only [checkedCreateRun, Call.returns_bind, Call.returns_ensure, Call.returns_query]
  intro _ _ _ _ _ _ _ _ _ _ _ _ _
  exact returns_createRun dispatcher reads wait parent _ observation decision grant _ t

/-- The dispatch decides on what it has read: the latest run, the current policy and the latest
observation. -/
def Decides (dispatcher : Dispatcher) (wait : RoleWaitEvidence) (reads : Reads)
    (decision : ReprocessDecision) : Prop :=
  ∃ parent policyCurrent observation completed, ∃ h : isLongId parent.runId = true,
    reads.parent 1 = .ok parent ∧
    readCurrentSnapshot wait (reads.currentPolicy 0) = .ok policyCurrent ∧
    reads.latestObservation = some observation ∧
    decideReprocess (wait.withRun parent.runId h) (some observation)
      (currentEvidence dispatcher wait reads policyCurrent.eligibility completed observation
        parent.runId h) reads.clockTimestamp = .ok decision

theorem dispatch_cases (dispatcher : Dispatcher) (wait : RoleWaitEvidence) (reads : Reads)
    (t : Tables) : Call.Leaves (dispatch dispatcher wait reads) t fun t' => Unchanged t t' ∨
      ∃ decision, Decides dispatcher wait reads decision ∧ decision.createRun = true ∧
        Created decision t t' := by
  refine Call.leaves_atomically ?_ (Or.inl ⟨rfl, rfl⟩)
  simp only [dispatchOne, Call.returns_bind, Call.returns_query]
  intro _ _ _ _ policyCurrent hpolicy grant _ parent hparent
  split
  · rw [Call.returns_pure]
    exact Or.inl ⟨rfl, rfl⟩
  · next observation hobservation =>
    obtain ⟨-, -, hlatest⟩ := Option.bind_eq_some_iff.1 hobservation
    split
    · rw [Call.returns_pure]
      exact Or.inl ⟨rfl, rfl⟩
    · split
      · next hid =>
        simp only [Call.returns_bind, Call.returns_query]
        intro decision hdecision
        simp only [settleOne, Call.returns_bind, Call.returns_ite, Call.returns_map,
          Call.returns_query, Call.returns_pure]
        refine ⟨fun hcreates => ?_, fun _ _ _ => Or.inl ⟨rfl, rfl⟩⟩
        refine Call.Returns.mono (returns_checkedCreateRun dispatcher reads wait parent policyCurrent
          observation decision grant t) fun _ t' hcreated _ _ => ?_
        exact Or.inr ⟨decision, ⟨parent, policyCurrent, observation, _, hid, hparent, hpolicy, hlatest,
          hdecision⟩, hcreates, hcreated⟩
      · simp [invalid]

/-! ## The window -/

def readyTimes (wait : RoleWaitEvidence) (observed : Option ValidatedReadinessObservation)
    (current : CurrentReprocessEligibility) : Set Int :=
  {dbNow | ∃ decision, decideReprocess wait observed current (utc dbNow) = .ok decision ∧
    decision.safeCode = .readyReprocessAllowed}

def SameWait (wait : RoleWaitEvidence) (current : CurrentReprocessEligibility) : Prop :=
  (wait.tenantId, wait.workspaceId, wait.actorId, wait.notebookId, wait.sourceVersionId,
    wait.processingRunId) = (current.tenantId, current.workspaceId, current.actorId,
      current.notebookId, current.sourceVersionId, current.priorRunId)

variable {wait : RoleWaitEvidence} {observed : Option ValidatedReadinessObservation}
  {current : CurrentReprocessEligibility}

theorem decideReprocess_eq_ok {dbNow : DateTime} {decided : ReprocessDecision} :
    decideReprocess wait observed current dbNow = .ok decided ↔
      dbNow.utcoffset = some 0 ∧ SameWait wait current ∧
        decided = decision (reprocessCode wait observed current dbNow.microseconds) := by
  unfold decideReprocess SameWait
  split
  · next hoffset => exact iff_of_false (by simp [invalid]) fun h => hoffset h.1
  · next hoffset =>
    split
    · next hother => exact iff_of_false (by simp [invalid]) fun h => hother h.2.1
    · next hsame => simp [not_not.1 hoffset, not_not.1 hsame, eq_comm]

structure Eligible (wait : RoleWaitEvidence) (observation : ValidatedReadinessObservation)
    (current : CurrentReprocessEligibility) : Prop where
  same : SameWait wait current
  considered : Considered wait observation current
  cleared : Cleared wait current

theorem mem_readyTimes {dbNow : Int} : dbNow ∈ readyTimes wait observed current ↔
    SameWait wait current ∧
      reprocessCode wait observed current dbNow = .readyReprocessAllowed := by
  constructor
  · rintro ⟨decided, hdecided, hcode⟩
    obtain ⟨-, hsame, rfl⟩ := decideReprocess_eq_ok.1 hdecided
    exact ⟨hsame, hcode⟩
  · rintro ⟨hsame, hcode⟩
    exact ⟨_, decideReprocess_eq_ok.2 ⟨rfl, hsame, rfl⟩, hcode⟩

variable (wait current) in
theorem readyTimes_none : readyTimes wait none current = ∅ := by
  refine Set.eq_empty_iff_forall_notMem.2 fun dbNow h => ?_
  obtain ⟨observation, hnone, -⟩ :=
    (reprocessCode_eq_iff wait current dbNow none rfl).1 (mem_readyTimes.1 h).2
  cases hnone

variable (wait current) in
theorem readyTimes_some (observation : ValidatedReadinessObservation) :
    readyTimes wait (some observation) current =
      {_dbNow | Eligible wait observation current} ∩
        Set.Icc (opens wait observation) (closes observation) := by
  ext dbNow
  rw [mem_readyTimes, reprocessCode_eq_iff wait current dbNow (some observation) rfl]
  constructor
  · rintro ⟨hsame, _, ⟨⟩, hconsidered, hclearance, hnow⟩
    exact ⟨⟨hsame, hconsidered, clearanceCode_eq_ready.1 hclearance⟩, hnow⟩
  · rintro ⟨h, hnow⟩
    exact ⟨h.same, observation, rfl, h.considered, clearanceCode_eq_ready.2 h.cleared, hnow⟩

/-- The ready times are the eligibility conditions intersected with a closed interval; a run is created
only in that interval, and only for three decisions; a dispatch stores one for no other, and a job only
for the first of them. -/
theorem reprocess_window (wait : RoleWaitEvidence) (current : CurrentReprocessEligibility) :
    readyTimes wait none current = ∅ ∧
    (∀ observation, readyTimes wait (some observation) current =
      {_dbNow | Eligible wait observation current} ∩
        Set.Icc (opens wait observation) (closes observation)) ∧
    (∀ observed, (readyTimes wait observed current).OrdConnected) ∧
    (∀ observed dbNow decided, decideReprocess wait observed current dbNow = .ok decided →
      decided.createRun = true →
        (decided.safeCode = .readyReprocessAllowed ∨ decided.safeCode = .policyBlocked ∨
          decided.safeCode = .costLimitExceeded) ∧
        ∃ observation, observed = some observation ∧
          dbNow.microseconds ∈ Set.Icc (opens wait observation) (closes observation)) ∧
    ∀ dispatcher reads t, Call.Leaves (dispatch dispatcher wait reads) t fun t' => Unchanged t t' ∨
      ∃ decided, Decides dispatcher wait reads decided ∧ decided.createRun = true ∧
        Created decided t t' := by
  refine ⟨readyTimes_none wait current, readyTimes_some wait current, ?_, ?_, ?_⟩
  · intro observed
    cases observed with
    | none =>
      rw [readyTimes_none]
      exact Set.ordConnected_empty
    | some observation =>
      rw [readyTimes_some]
      exact Set.OrdConnected.inter ⟨fun _ h _ _ _ _ => h⟩ Set.ordConnected_Icc
  · intro observed dbNow decided hdecided hcreates
    obtain ⟨-, -, rfl⟩ := decideReprocess_eq_ok.1 hdecided
    obtain ⟨observation, hobserved, -, hnow⟩ := considered_of_createRun hcreates
    exact ⟨createRun_iff.1 hcreates, observation, hobserved, hnow⟩
  · intro dispatcher reads t
    exact dispatch_cases dispatcher wait reads t

/-! ## A run that the cost stops -/

namespace Sample

def digest : String := String.ofList (List.replicate 64 'a')

def waiting : RoleWaitEvidence where
  tenantId := "tenant-a"
  workspaceId := "workspace-a"
  actorId := "actor-a"
  notebookId := "notebook-a"
  sourceId := "source-a"
  sourceVersionId := "version-a"
  processingRunId := "run-a"
  capability := some .documentParsing
  failureKind := .connectionAvailability
  mode := ⟨.auto, .request, by decide⟩
  dependencyConnectionId := some "connection-a"
  frozenContextDigest := digest
  safeErrorCode := "DOCUMENT_MODEL_UNAVAILABLE"
  failedAt := seconds 0
  notBefore := seconds 60
  ids := by decide
  dependency := by decide
  digest := by decide
  errorCode := by decide
  ordered := by decide

def observation : ValidatedReadinessObservation where
  schemaVersion := 1
  eventId := "rdy-11111111111111111111111111111111"
  connectionId := "connection-a"
  adapterType := "CUSTOM"
  capability := some .documentParsing
  modelCatalogDigest := digest
  configurationVersion := 3
  observedAt := seconds 90
  receivedAt := seconds 91
  probeKind := .modelCatalogRefresh
  status := .healthy
  observationSequence := 7
  contentDigest := digest
  schema := rfl
  event := by decide
  ids := by decide
  digests := by decide
  positive := by decide
  probe := by decide

def costly : CurrentReprocessEligibility where
  tenantId := "tenant-a"
  workspaceId := "workspace-a"
  actorId := "actor-a"
  notebookId := "notebook-a"
  sourceVersionId := "version-a"
  capability := some .documentParsing
  frozenContextDigest := digest
  dependencyConnectionId := some "connection-a"
  modelCatalogDigest := some digest
  configurationVersion := 3
  latestObservationSequence := 7
  scopeEnabled := true
  authorized := true
  sourceCurrent := true
  policyAllowed := true
  localOnlyAllowed := true
  candidateAvailable := true
  activeRun := false
  contextAlreadyDecided := false
  costBlockedContextExists := false
  costState := .blocked
  egressState := .allowed
  priorRunId := "run-a"
  ids := by decide
  digest := by decide
  dependency := by decide
  catalog := by decide
  natural := by decide

def dispatcher : Dispatcher where
  scopes := [("tenant-a", "workspace-a", "actor-a", "version-a")]
  digest _ _ _ := "0"

def reads : Reads where
  authorize _ := .ok ⟨"personal_owner", "workspace", 1, 1, "policy-1"⟩
  parent _ := .ok ⟨.waitingModel, 4, "version-a", "run-a", .failed, "", .other "pdf"⟩
  currentPolicy _ := .ok
    ⟨costly, "", (.auto, .request), some "connection-a", ⟨"local", none⟩⟩
  history := []
  active := false
  latestObservation := some observation
  clockTimestamp := utc (seconds 180)
  blockedParent := false
  workspace := some (⟨"local", none⟩, 1)
  transition _ := .ok ⟨⟩
  recordReceipt receipt := .ok receipt

def tables : Tables := ⟨[], fun _ => .waitingModel, [], []⟩

end Sample

theorem createRun_of_costly : ∃ decided,
    decideReprocess Sample.waiting (some Sample.observation) Sample.costly (utc (seconds 180)) =
      .ok decided ∧ decided.createRun = true ∧ decided.safeCode ≠ .readyReprocessAllowed ∧
        ((dispatch Sample.dispatcher Sample.waiting Sample.reads Sample.tables).2.processingRuns.map
          (·.recordId)) = ["pr-rdy-0"] := by
  have hcode : reprocessCode Sample.waiting (some Sample.observation) Sample.costly (seconds 180) =
      .costLimitExceeded := by decide
  exact ⟨decision .costLimitExceeded, decideReprocess_eq_ok.2 ⟨rfl, rfl, congrArg _ hcode.symm⟩, rfl,
    by decide, by decide⟩

end DaonUser.Readiness
