import DaonUser.Authorization.Model
import Mathlib.Data.List.Dedup
import Mathlib.Data.List.Sort

/-!
# Authorization: the transactions of `AuthorizationService`

Each method is the program of its statements. `Env` is what a transaction meets: the clock, the text it
draws, and whether the audit store takes its event. Three methods run two transactions: `authorize_rerun`
(`evaluateHistoricalAccess`, `snapshotRerun`), `register_historical_result` (`checkRegistration`,
`recordResult`) and `set_permission_policy` (`checkPolicy`, `changePolicy`).
-/

namespace DaonUser.Authorization

open Lib

structure IdentityPrincipal where
  userId : String
  tenantId : String
  deriving DecidableEq

structure Env where
  now : Int
  token : String
  audits : Bool
  deriving DecidableEq

structure Trail where
  traceId : String
  policyVersion : String
  deriving DecidableEq

/-! ## Errors and checks -/

def invalidInput : AuthorizationError := { code := "INVALID_INPUT" }
def invalidRoleScope : AuthorizationError := { code := "INVALID_ROLE_SCOPE" }
def actionDenied : AuthorizationError := { code := "ACTION_DENIED", httpStatus := 403 }
def versionConflict : AuthorizationError := { code := "VERSION_CONFLICT", httpStatus := 412 }
def persistenceConflict : AuthorizationError := { code := "PERSISTENCE_CONFLICT", httpStatus := 409 }
def resourceUnavailable : AuthorizationError := { code := "RESOURCE_UNAVAILABLE", httpStatus := 404 }

def privilegeEscalationDenied : AuthorizationError :=
  { code := "PRIVILEGE_ESCALATION_DENIED", httpStatus := 403 }

def membershipConflict : AuthorizationError :=
  { code := "ORGANIZATION_MEMBERSHIP_CONFLICT", httpStatus := 409 }

def invitationScopeRequired : AuthorizationError :=
  { code := "ORGANIZATION_INVITATION_SCOPE_REQUIRED", httpStatus := 409 }

/-- `_checked_id`, of some values. -/
def checkedIds (values : List String) : Txn Unit :=
  Program.ensure (values.all isSafeId = true) invalidInput

/-- What the `_id` of the organization workflow accepts. -/
def isWorkflowId (value : String) : Bool :=
  value ≠ "" && value.toList = stripChars isSpace value.toList && value.toList.length ≤ 160

/-- `_id` of the organization workflow, of some values. -/
def workflowIds (values : List String) : Txn Unit :=
  Program.ensure (values.all isWorkflowId = true) { code := "INVALID_ID" }

/-- `_audit`, of the ids that its event carries besides those of the principal. -/
def audit (env : Env) (principal : IdentityPrincipal) (trail : Trail) (ids : List String) :
    Txn Unit := do
  checkedIds ([principal.userId, principal.tenantId] ++ ids ++ [trail.traceId, trail.policyVersion])
  Program.ensure (env.audits = true) { code := "AUDIT_WRITE_FAILED", httpStatus := 503 }

def deny {α : Type} (env : Env) (principal : IdentityPrincipal) (trail : Trail) (ids : List String)
    (e : AuthorizationError) : Txn α := do
  audit env principal trail ids
  Program.raise e

/-- Audit a refusal and raise it unless `c` holds. -/
def denyUnless (c : Prop) [Decidable c] (env : Env) (principal : IdentityPrincipal) (trail : Trail)
    (ids : List String) (e : AuthorizationError) : Txn Unit :=
  if c then pure () else deny env principal trail ids e

/-! ## What a principal may do -/

def assertOrganizationActive (principal : IdentityPrincipal) : Txn Unit := do
  workflowIds [principal.tenantId, principal.userId]
  let row ← Program.read fun db => workflowRow db principal.tenantId principal.userId
  Program.ensure (row.all (·.active) = true)
    { code := "ORGANIZATION_MEMBERSHIP_SUSPENDED", httpStatus := 403 }

def workspace (env : Env) (principal : IdentityPrincipal) (workspaceId : String) (trail : Trail) :
    Txn WorkspaceRow := do
  checkedIds [principal.tenantId, workspaceId]
  let found ← Program.read fun db => workspaceRow db principal.tenantId workspaceId
  match found with
  | none => deny env principal trail [] resourceUnavailable
  | some row =>
    if row.workspaceKind = "organization" then assertOrganizationActive principal
    return row

def tenantRole (principal : IdentityPrincipal) : Txn (Option TenantRoleRow) :=
  Program.read fun db =>
    (tenantRoleRow db principal.tenantId principal.userId).filter fun row => row.state = .active

def membership (principal : IdentityPrincipal) (workspaceId : String) :
    Txn (Option MembershipRow) :=
  Program.read fun db => (membershipRow db principal.tenantId workspaceId principal.userId).filter
    fun row => row.state = .active

def roleBinding (principal : IdentityPrincipal) (workspace : WorkspaceRow) :
    Txn (Option RoleBinding) := do
  match ← tenantRole principal with
  | some row =>
    if row.role.workspaceKind = some workspace.workspaceKind then
      return some { role := row.role, scope := .tenant, version := row.version }
    else return none
  | none =>
    match ← membership principal workspace.workspaceId with
    | none => return none
    | some row =>
      if row.role ∈ workspaceRoles then
        return some { role := row.role, scope := .workspace, version := row.version }
      else return none

def versionOf {α : Type} (version : α → Nat) (row : Option α) : Nat := row.elim 0 version

/-- The text of `_policy_versions`. -/
def policyVersionText (tenant workspace : Nat) : String :=
  "tenant-" ++ toString tenant ++ ":workspace-" ++ toString workspace

/-- `_policy_versions`, without the numbers. -/
def policyVersions (tenantId workspaceId : String) : Txn String := do
  let tenant ← Program.read fun db => policyRow db tenantId none
  let workspace ← Program.read fun db => policyRow db tenantId (some workspaceId)
  return policyVersionText (versionOf PolicyRow.version tenant) (versionOf PolicyRow.version workspace)

/-- What the rules of a tenant and of a workspace make of a permission that a role asks for. -/
def ruling (role : Role) (permission : Permission) (tenantRule workspaceRule : Option RuleRow)
    (policyVersion : String) : EffectivePermission :=
  let answer (effective : Bool) (lockedBy : Option String) (reason : String) : EffectivePermission :=
    { permission, requested := true, effective, lockedBy, reason, policyVersion }
  let byDefault := answer (role.grants permission) none
    (if role.grants permission then "ROLE_DEFAULT_GRANT" else "ROLE_DEFAULT_DENY")
  let byWorkspace (rule : RuleRow) := answer (decide (rule.effect = .grant))
    (if rule.locked then some "workspace-policy" else none)
    (if rule.effect = .grant then "WORKSPACE_GRANT" else "WORKSPACE_DENY")
  match tenantRule with
  | some rule =>
    if rule.locked || rule.effect = .deny then
      answer (decide (rule.effect = .grant)) (some "tenant-policy")
        (if rule.locked then "ORGANIZATION_LOCK" else "ORGANIZATION_DENY")
    else match workspaceRule with
      | some rule' => byWorkspace rule'
      | none => answer true none "ORGANIZATION_GRANT"
  | none => match workspaceRule with
    | some rule' => byWorkspace rule'
    | none => byDefault

def effectivePermission (role : Role) (tenantId workspaceId : String) (permission : Permission)
    (requested : Bool) : Txn EffectivePermission := do
  let policyVersion ← policyVersions tenantId workspaceId
  if requested then
    let tenantRule ← Program.read fun db => ruleRow db tenantId none permission
    let workspaceRule ← Program.read fun db => ruleRow db tenantId (some workspaceId) permission
    return ruling role permission tenantRule workspaceRule policyVersion
  else
    return { permission, requested := false, effective := false, lockedBy := none,
             reason := "NOT_REQUESTED", policyVersion }

def effectivePermissions (role : Role) (tenantId workspaceId : String) :
    List Permission → Txn (List EffectivePermission)
  | [] => return []
  | permission :: permissions => do
    let first ← effectivePermission role tenantId workspaceId permission true
    let others ← effectivePermissions role tenantId workspaceId permissions
    return first :: others

def requiredStepUp (action : Action) (permissions : List Permission) : Option String :=
  if action = .policyManage then some "organization_security_or_connector_policy_change"
  else if .dataAreaMove ∈ permissions then some "data_area_move"
  else if .productionKnowledgeRegistration ∈ permissions then
    some "final_approval_or_knowledge_registration"
  else if .finalApprovalExternalDelivery ∈ permissions then
    some "final_approval_or_knowledge_registration"
  else if .fileDownloadShare ∈ permissions then some "external_share_or_download"
  else if .externalLlm ∈ permissions then some "external_transfer"
  else none

def actionGrant (principal : IdentityPrincipal) (workspace : WorkspaceRow)
    (binding : Option RoleBinding) (action : Action) (requested : List Permission) :
    Txn (Option AuthorizationGrant) :=
  match binding with
  | none => return none
  | some binding =>
    if binding.role.may action = true then do
      let permissions := (action.permissions ++ requested).eraseDups
      let effective ← effectivePermissions binding.role principal.tenantId workspace.workspaceId
        permissions
      if effective.all (·.effective) = true then
        let policyVersion ← policyVersions principal.tenantId workspace.workspaceId
        return some
          { actorId := principal.userId, tenantId := principal.tenantId,
            workspaceId := workspace.workspaceId, role := binding.role, roleScope := binding.scope,
            action, effectivePermissions := effective,
            requiredStepUpAction := requiredStepUp action permissions,
            membershipVersion := binding.version, aclVersion := workspace.aclVersion, policyVersion }
      else return none
    else return none

def authorizeAction (env : Env) (principal : IdentityPrincipal) (workspaceId : String)
    (action : Action) (trail : Trail) (requested : List Permission) : Txn AuthorizationGrant := do
  let row ← workspace env principal workspaceId trail
  let binding ← roleBinding principal row
  match ← actionGrant principal row binding action requested with
  | none => deny env principal trail [workspaceId] actionDenied
  | some grant => do
    audit env principal trail [workspaceId]
    return grant

def bindingWithin (principal : IdentityPrincipal) : Option WorkspaceRow → Txn (Option RoleBinding)
  | none => return none
  | some row => roleBinding principal row

def evaluatePermission (principal : IdentityPrincipal) (workspaceId : String)
    (permission : Permission) (requested : Bool) : Txn EffectivePermission := do
  checkedIds [workspaceId]
  let found ← Program.read fun db => workspaceRow db principal.tenantId workspaceId
  let binding ← bindingWithin principal found
  let row ← Program.require found resourceUnavailable
  if row.workspaceKind = "organization" then assertOrganizationActive principal
  let binding ← Program.require binding actionDenied
  effectivePermission binding.role principal.tenantId workspaceId permission requested

def authorizeAuditRead (env : Env) (principal : IdentityPrincipal) (workspaceId : Option String)
    (trail : Trail) : Txn Unit :=
  match workspaceId with
  | some workspaceId => do
    let _ ← authorizeAction env principal workspaceId .view trail []
  | none => do
    let role := (← tenantRole principal).map (·.role)
    if role = some .organizationAdmin then assertOrganizationActive principal
    if role.any (· ∈ tenantRoles) = true then audit env principal trail []
    else deny env principal trail [] actionDenied

def roleWorkspaces (db : Db) (tenantId : String) (role : Option Role) : List String :=
  match role.bind Role.workspaceKind with
  | none => []
  | some kind => ((db .workspaces).filter fun row =>
      row.tenantId = tenantId && row.workspaceKind = kind).map (·.workspaceId)

def organizationAdminWorkspace (env : Env) (principal : IdentityPrincipal) (trail : Trail) :
    Txn String := do
  let role := (← tenantRole principal).map (·.role)
  let candidates ← Program.read fun db => roleWorkspaces db principal.tenantId role
  match candidates with
  | [workspaceId] => do
    audit env principal trail []
    return workspaceId
  | _ => deny env principal trail [] actionDenied

/-! ## Historical results -/

def sorted (texts : List String) : List String := texts.insertionSort (· ≤ ·)

/-- `_find_descriptor_for_principal`. -/
def findDescriptor (env : Env) (principal : IdentityPrincipal) (resultId : String) (trail : Trail) :
    Txn HistoricalResultDescriptor := do
  checkedIds [resultId]
  let found ← Program.read fun db : Db => (db .historicalResults).find? fun row =>
    row.tenantId = principal.tenantId && row.resultId = resultId
  match found with
  | none => deny env principal trail [] resourceUnavailable
  | some row => do
    let dependencies ← Program.read fun db : Db =>
      ((db .resultDependencies).filter fun row => row.resultId = resultId).map (·.dependency)
    return {
      resultId := row.resultId, resultKind := row.resultKind, tenantId := row.tenantId,
      workspaceId := row.workspaceId, sourceVersionIds := row.sourceVersionIds,
      evidenceReferenceIds := row.evidenceReferenceIds,
      dependencies := dependencies.insertionSort fun a b => a.referenceId ≤ b.referenceId,
      originalPolicyVersion := row.originalPolicyVersion,
      originalMembershipVersion := row.originalMembershipVersion }

structure Findings where
  reasons : List String := []
  allowedReferences : List String := []
  maskedReferences : List String := []
  allowedSegments : List String := []
  maskedSegments : List String := []
  state : AccessState := .available
  deriving DecidableEq

def Findings.add (found : Findings) (dependency : EvidenceDependency) (allowed : Bool) : Findings :=
  if allowed then
    { found with
      allowedReferences := found.allowedReferences ++ [dependency.referenceId]
      allowedSegments := found.allowedSegments ++ dependency.segmentIds }
  else
    let masked := { found with
      maskedReferences := found.maskedReferences ++ [dependency.referenceId]
      maskedSegments := found.maskedSegments ++ dependency.segmentIds }
    if dependency.decisive then
      { masked with reasons := found.reasons ++ ["DECISIVE_DEPENDENCY_DENIED"],
                    state := .accessBlocked }
    else if !dependency.safeSeparation then
      { masked with reasons := found.reasons ++ ["SAFE_SEPARATION_UNAVAILABLE"],
                    state := .accessBlocked }
    else if found.state ≠ .accessBlocked then
      { masked with reasons := found.reasons ++ ["SOURCE_ACCESS_REVOKED"],
                    state := .partiallyRedacted }
    else masked

def sourceAllowed (rule : Option SourceAccessRow) : Bool := rule.all (·.allowed)

def review (principal : IdentityPrincipal) (workspaceId : String) :
    List EvidenceDependency → Findings → Txn Findings
  | [], found => return found
  | dependency :: dependencies, found => do
    let rule ← Program.read fun db =>
      sourceRow db principal.tenantId workspaceId principal.userId dependency.sourceVersionId
    review principal workspaceId dependencies (found.add dependency (sourceAllowed rule))

def HistoricalResultDescriptor.blocked (descriptor : HistoricalResultDescriptor) : Findings where
  reasons := ["CURRENT_MEMBERSHIP_OR_PERMISSION_DENIED"]
  maskedReferences := descriptor.evidenceReferenceIds
  maskedSegments := descriptor.dependencies.flatMap (·.segmentIds)
  state := .accessBlocked

def findings (principal : IdentityPrincipal) (descriptor : HistoricalResultDescriptor) :
    Option AuthorizationGrant → Txn Findings
  | none => return descriptor.blocked
  | some _ => review principal descriptor.workspaceId descriptor.dependencies {}

def Findings.reasonCodes (found : Findings) : List String :=
  if found.reasons = [] then ["CURRENT_ACCESS_ALLOWED"] else sorted found.reasons.dedup

def evaluateHistoricalAccess (env : Env) (principal : IdentityPrincipal) (resultId : String)
    (action : AccessAction) (trail : Trail) : Txn AccessDecision := do
  let descriptor ← findDescriptor env principal resultId trail
  let row ← workspace env principal descriptor.workspaceId trail
  let binding ← roleBinding principal row
  let grant ← actionGrant principal row binding action.base []
  let found ← findings principal descriptor grant
  let policyVersion ← policyVersions principal.tenantId descriptor.workspaceId
  let decision : AccessDecision :=
    { decisionId := "acd-" ++ env.token, actorId := principal.userId, action,
      resourceId := descriptor.resultId, tenantId := principal.tenantId,
      workspaceId := descriptor.workspaceId, roleScope := binding.map (·.scope),
      membershipVersion := versionOf RoleBinding.version binding, aclVersion := row.aclVersion,
      policyVersion, evaluatedAt := env.now, state := found.state,
      reasonCodes := found.reasonCodes, allowedReferenceIds := sorted found.allowedReferences,
      maskedReferenceIds := sorted found.maskedReferences,
      allowedSegmentIds := sorted found.allowedSegments,
      maskedSegmentIds := sorted found.maskedSegments }
  Program.insertRow (S := schema) (Lock.decision decision.decisionId) .accessDecisions decision
    persistenceConflict
  audit env principal trail [descriptor.workspaceId, decision.decisionId]
  return decision

def currentAccessDenied (decision : AccessDecision) : AuthorizationError :=
  { code := "CURRENT_ACCESS_DENIED", httpStatus := 403, decision := some decision }

/-- The second transaction of `authorize_rerun`, after the decision of the first. -/
def snapshotRerun (env : Env) (principal : IdentityPrincipal) (resultId : String)
    (decision : AccessDecision) (trail : Trail) : Txn RerunAuthorization := do
  let descriptor ← findDescriptor env principal resultId trail
  let row ← workspace env principal descriptor.workspaceId trail
  let binding ← Program.require (← roleBinding principal row) (currentAccessDenied decision)
  let allowed := descriptor.dependencies.filter fun dependency =>
    dependency.referenceId ∈ decision.allowedReferenceIds
  let snapshot : RerunSnapshot :=
    { tenantId := principal.tenantId, workspaceId := descriptor.workspaceId,
      actorId := principal.userId, roleScope := binding.scope, membershipVersion := binding.version,
      aclVersion := row.aclVersion, policyVersion := decision.policyVersion,
      dataArea := row.dataArea, costLimitCents := row.costLimitCents,
      sourceVersionIds := sorted (allowed.map (·.sourceVersionId)).dedup }
  let runRequestId := "rrq-" ++ env.token
  Program.insertRow (S := schema) (Lock.rerun runRequestId) .rerunRequests
    { runRequestId, resultId := descriptor.resultId, accessDecisionId := decision.decisionId,
      snapshot } persistenceConflict
  audit env principal trail [descriptor.workspaceId, runRequestId]
  return { runRequestId, accessDecisionId := decision.decisionId, snapshot }

/-- `_validate_descriptor`, of the dependencies that follow some references. -/
def dependenciesValid (sourceIds referenceIds : List String) :
    List String → List EvidenceDependency → Bool
  | _, [] => true
  | seen, dependency :: dependencies =>
    isSafeId dependency.referenceId && isSafeId dependency.sourceVersionId &&
      dependency.referenceId ∈ referenceIds && dependency.sourceVersionId ∈ sourceIds &&
      dependency.referenceId ∉ seen && dependency.segmentIds ≠ [] &&
      dependency.segmentIds.all isSafeId &&
      dependenciesValid sourceIds referenceIds (dependency.referenceId :: seen) dependencies

/-- `_validate_descriptor`. -/
def HistoricalResultDescriptor.valid (descriptor : HistoricalResultDescriptor) : Bool :=
  ([descriptor.resultId, descriptor.resultKind, descriptor.tenantId, descriptor.workspaceId,
      descriptor.originalPolicyVersion] ++ descriptor.sourceVersionIds ++
    descriptor.evidenceReferenceIds).all isSafeId &&
    1 ≤ descriptor.originalMembershipVersion && descriptor.sourceVersionIds.Nodup &&
    descriptor.evidenceReferenceIds.Nodup &&
    dependenciesValid descriptor.sourceVersionIds descriptor.evidenceReferenceIds []
      descriptor.dependencies

/-- The dependencies of a result, one `INSERT` after the other. -/
def insertDependencies (resultId : String) : List EvidenceDependency → Txn Unit
  | [] => return ()
  | dependency :: dependencies => do
    Program.insertRow (S := schema) (Lock.dependency resultId dependency.referenceId)
      .resultDependencies { resultId, dependency } persistenceConflict
    insertDependencies resultId dependencies

def insertDescriptor (descriptor : HistoricalResultDescriptor) : Txn Unit := do
  Program.ensure (descriptor.valid = true) invalidInput
  Program.insertRow (S := schema) (Lock.result descriptor.resultId) .historicalResults
    { resultId := descriptor.resultId, resultKind := descriptor.resultKind,
      tenantId := descriptor.tenantId, workspaceId := descriptor.workspaceId,
      sourceVersionIds := descriptor.sourceVersionIds,
      evidenceReferenceIds := descriptor.evidenceReferenceIds,
      originalPolicyVersion := descriptor.originalPolicyVersion,
      originalMembershipVersion := descriptor.originalMembershipVersion } persistenceConflict
  insertDependencies descriptor.resultId descriptor.dependencies

/-- The first transaction of `register_historical_result`. -/
def checkRegistration (env : Env) (principal : IdentityPrincipal)
    (descriptor : HistoricalResultDescriptor) (trail : Trail) : Txn Unit := do
  Program.ensure (descriptor.valid = true) invalidInput
  Program.ensure (descriptor.tenantId = principal.tenantId) resourceUnavailable
  let _ ← authorizeAction env principal descriptor.workspaceId .generate trail []

/-- The second transaction of `register_historical_result`. -/
def recordResult (env : Env) (principal : IdentityPrincipal)
    (descriptor : HistoricalResultDescriptor) (trail : Trail) : Txn Unit := do
  let _ ← workspace env principal descriptor.workspaceId trail
  let taken ← Program.read fun db : Db =>
    (db .historicalResults).any fun row => row.resultId = descriptor.resultId
  Program.ensure (taken = false) { code := "HISTORICAL_RESULT_IMMUTABLE", httpStatus := 409 }
  insertDescriptor descriptor
  audit env principal trail [descriptor.workspaceId, descriptor.resultId]

end DaonUser.Authorization
