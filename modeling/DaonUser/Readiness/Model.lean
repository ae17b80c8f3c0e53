import DaonUser.Base
import Mathlib.Data.List.Basic

/-!
# Document readiness: the evidence and the decision

A document that failed because a model was not available waits for one. `RoleWaitEvidence` says what failed,
`ValidatedReadinessObservation` what a probe saw last, and `CurrentReprocessEligibility` what holds now;
`decide_reprocess` goes through them in a fixed order. A record is built only from fields that its
`__post_init__` accepts.
-/

namespace DaonUser.Readiness

/-! ## Values -/

inductive Mode where
  | auto
  | localOnly
  | pinned
  | legacyUnknown
  deriving DecidableEq

inductive Origin where
  | request
  | legacyUnknown
  deriving DecidableEq

inductive Capability where
  | textGeneration
  | imageUnderstanding
  | documentParsing
  | speechToText
  deriving DecidableEq

inductive FailureKind where
  | connectionAvailability
  | roleRuntime
  | nonAvailability
  | unknown
  deriving DecidableEq

inductive ProbeKind where
  | providerConnectionCheck
  | nativeAsrReady
  | modelCatalogRefresh
  deriving DecidableEq

/-- The `status` of an observation. -/
inductive ObservationStatus where
  | healthy
  | notReady
  | unavailable
  deriving DecidableEq

inductive CostState where
  | allowed
  | blocked
  | unknown
  deriving DecidableEq

inductive EgressState where
  | allowed
  | blocked
  | approvalMissing
  deriving DecidableEq

inductive Action where
  | enqueue
  | blockCost
  | blockPolicy
  | deny
  | suppress
  | expire
  | defer
  deriving DecidableEq

/-- The codes of `_DECISIONS`. -/
inductive SafeCode where
  | readyReprocessAllowed
  | scopeNotConfigured
  | modeUnconfirmed
  | modeManual
  | roleUnknown
  | dependencyChanged
  | notReady
  | observationExpired
  | accessDenied
  | sourceChanged
  | policyBlocked
  | costLimitExceeded
  | costUnconfirmed
  | approvalMissing
  | activeRunExists
  | contextSuppressed
  | backoffPending
  deriving DecidableEq

structure DocumentUnderstandingError where
  code : String
  status : Nat := 400
  deriving DecidableEq

def invalid {α : Type} : Except DocumentUnderstandingError α :=
  .error { code := "DOCUMENT_PROCESSING_CONTEXT_INVALID" }

/-- `_EVENT.fullmatch`. -/
def isEvent (s : String) : Bool :=
  startsWith s "rdy-" && s.toList.length = 36 &&
    (s.toList.drop 4).all fun c => "0123456789abcdef".toList.contains c

/-- `_ERROR_CODE.fullmatch`. -/
def isErrorCode (s : String) : Bool :=
  match s.toList with
  | [] => false
  | c :: cs => c.isUpper && cs.all (fun c => c.isUpper || c.isDigit || c = '_') && cs.length ≤ 255

/-! ## Evidence -/

structure ReadinessModeProof where
  mode : Mode
  origin : Origin
  consistent : mode = .legacyUnknown ↔ origin = .legacyUnknown

structure RoleWaitEvidence where
  tenantId : String
  workspaceId : String
  actorId : String
  notebookId : String
  sourceId : String
  sourceVersionId : String
  processingRunId : String
  capability : Option Capability
  failureKind : FailureKind
  mode : ReadinessModeProof
  dependencyConnectionId : Option String
  frozenContextDigest : String
  safeErrorCode : String
  failedAt : Int
  notBefore : Int
  ids : [tenantId, workspaceId, actorId, notebookId, sourceId, sourceVersionId,
    processingRunId].all isLongId = true
  dependency : dependencyConnectionId.all isLongId = true
  digest : isDigest frozenContextDigest = true
  errorCode : isErrorCode safeErrorCode = true
  ordered : failedAt ≤ notBefore

structure ValidatedReadinessObservation where
  schemaVersion : Int
  eventId : String
  connectionId : String
  adapterType : String
  capability : Option Capability
  modelCatalogDigest : String
  configurationVersion : Int
  observedAt : Int
  receivedAt : Int
  probeKind : ProbeKind
  status : ObservationStatus
  observationSequence : Int
  contentDigest : String
  schema : schemaVersion = 1
  event : isEvent eventId = true
  ids : [connectionId, adapterType].all isLongId = true
  digests : [modelCatalogDigest, contentDigest].all isDigest = true
  positive : 1 ≤ configurationVersion ∧ 1 ≤ observationSequence
  probe : (probeKind = .providerConnectionCheck → capability = none) ∧
    (probeKind = .nativeAsrReady → capability = some .speechToText)

structure CurrentReprocessEligibility where
  tenantId : String
  workspaceId : String
  actorId : String
  notebookId : String
  sourceVersionId : String
  capability : Option Capability
  frozenContextDigest : String
  dependencyConnectionId : Option String
  modelCatalogDigest : Option String
  configurationVersion : Int
  latestObservationSequence : Int
  scopeEnabled : Bool
  authorized : Bool
  sourceCurrent : Bool
  policyAllowed : Bool
  localOnlyAllowed : Bool
  candidateAvailable : Bool
  activeRun : Bool
  contextAlreadyDecided : Bool
  costBlockedContextExists : Bool
  costState : CostState
  egressState : EgressState
  priorRunId : String
  ids : [tenantId, workspaceId, actorId, notebookId, sourceVersionId, priorRunId].all isLongId = true
  digest : isDigest frozenContextDigest = true
  dependency : dependencyConnectionId.all isLongId = true
  catalog : modelCatalogDigest.all isDigest = true
  natural : 0 ≤ configurationVersion ∧ 0 ≤ latestObservationSequence

/-! ## The decision -/

def decisions : SafeCode → Action × Bool
  | .readyReprocessAllowed => (.enqueue, true)
  | .scopeNotConfigured => (.deny, false)
  | .modeUnconfirmed => (.defer, false)
  | .modeManual => (.suppress, false)
  | .roleUnknown => (.defer, false)
  | .dependencyChanged => (.defer, false)
  | .notReady => (.defer, false)
  | .observationExpired => (.expire, false)
  | .accessDenied => (.deny, false)
  | .sourceChanged => (.deny, false)
  | .policyBlocked => (.blockPolicy, true)
  | .costLimitExceeded => (.blockCost, true)
  | .costUnconfirmed => (.defer, false)
  | .approvalMissing => (.defer, false)
  | .activeRunExists => (.suppress, false)
  | .contextSuppressed => (.suppress, false)
  | .backoffPending => (.defer, false)

structure ReprocessDecision where
  action : Action
  safeCode : SafeCode
  createRun : Bool
  listed : decisions safeCode = (action, createRun)

def decision (code : SafeCode) : ReprocessDecision :=
  ⟨(decisions code).1, code, (decisions code).2, rfl⟩

/-- `timedelta(seconds=…)`. -/
def seconds (n : Int) : Int := n * 1000000

def dependencyChanged (wait : RoleWaitEvidence) (observation : ValidatedReadinessObservation)
    (current : CurrentReprocessEligibility) : Bool :=
  wait.capability ≠ current.capability || current.dependencyConnectionId = none ||
    some observation.connectionId ≠ current.dependencyConnectionId ||
    observation.configurationVersion ≠ current.configurationVersion ||
    some observation.modelCatalogDigest ≠ current.modelCatalogDigest ||
    observation.observationSequence ≠ current.latestObservationSequence ||
    (observation.capability ≠ none && observation.capability ≠ current.capability)

/-- The conditions of `decide_reprocess` on an observation, in its order. -/
def observedCode (wait : RoleWaitEvidence) (observation : ValidatedReadinessObservation)
    (current : CurrentReprocessEligibility) (dbNow : Int) : SafeCode :=
  if dependencyChanged wait observation current then .dependencyChanged
  else if observation.capability = none ∧ (wait.dependencyConnectionId = none ∨
      wait.dependencyConnectionId ≠ current.dependencyConnectionId) then .dependencyChanged
  else if observation.capability = none ∧ wait.failureKind ≠ .connectionAvailability then .notReady
  else if observation.status ≠ .healthy ∨ observation.observedAt ≤ wait.failedAt ∨
      observation.observedAt - dbNow > seconds 5 ∨ observation.receivedAt - dbNow > seconds 5 ∨
      observation.observedAt - observation.receivedAt > seconds 5 then .notReady
  else if dbNow - observation.observedAt > seconds 300 then .observationExpired
  else if current.contextAlreadyDecided ∨ current.costBlockedContextExists then .contextSuppressed
  else if current.activeRun then .activeRunExists
  else if dbNow < wait.notBefore ∨ dbNow - observation.observedAt < seconds 60 then .backoffPending
  else if ¬current.policyAllowed ∨ (wait.mode.mode = .localOnly ∧ ¬current.localOnlyAllowed) then
    .policyBlocked
  else if current.costState = .blocked then .costLimitExceeded
  else if current.costState = .unknown then .costUnconfirmed
  else if current.egressState = .blocked then .policyBlocked
  else if current.egressState = .approvalMissing then .approvalMissing
  else if ¬current.candidateAvailable then .notReady
  else .readyReprocessAllowed

/-- The conditions of `decide_reprocess`, in its order. -/
def reprocessCode (wait : RoleWaitEvidence) (observation : Option ValidatedReadinessObservation)
    (current : CurrentReprocessEligibility) (dbNow : Int) : SafeCode :=
  if ¬current.scopeEnabled then .scopeNotConfigured
  else if ¬current.authorized then .accessDenied
  else if ¬current.sourceCurrent then .sourceChanged
  else if wait.mode.mode = .legacyUnknown then .modeUnconfirmed
  else if wait.mode.mode = .pinned then .modeManual
  else if wait.capability = none ∨ current.capability = none then .roleUnknown
  else if wait.failureKind = .unknown ∨ wait.failureKind = .nonAvailability then .notReady
  else
    match observation with
    | none => .notReady
    | some observation => observedCode wait observation current dbNow

/-- A `datetime`: a moment, and the offset that it is written with, `None` where it has none. -/
structure DateTime where
  microseconds : Int
  utcoffset : Option Int

def utc (microseconds : Int) : DateTime := ⟨microseconds, some 0⟩

def decideReprocess (wait : RoleWaitEvidence) (observation : Option ValidatedReadinessObservation)
    (current : CurrentReprocessEligibility) (dbNow : DateTime) :
    Except DocumentUnderstandingError ReprocessDecision :=
  if dbNow.utcoffset ≠ some 0 then invalid
  else if (wait.tenantId, wait.workspaceId, wait.actorId, wait.notebookId, wait.sourceVersionId,
      wait.processingRunId) ≠ (current.tenantId, current.workspaceId, current.actorId,
        current.notebookId, current.sourceVersionId, current.priorRunId) then invalid
  else .ok (decision (reprocessCode wait observation current dbNow.microseconds))

end DaonUser.Readiness
