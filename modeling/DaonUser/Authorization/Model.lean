import DaonUser.Base
import DaonUser.Lib.Program
import DaonUser.Lib.Sql

/-!
# Authorization: roles, policies and the rows of the repository

The roles with what they may do, the tables of `SqliteAuthorizationRepository` with the columns that its
services read, and those that `OrganizationAccessBridge` reads and writes in the same database. Nothing
reads the moments that rows are written at: they are left out. A JSON text of ids is the list of the ids.
-/

namespace DaonUser.Authorization

open Lib

/-! ## Roles, actions and permissions -/

inductive Role where
  | personalOwner
  | organizationAdmin
  | workspaceAdmin
  | editor
  | reviewer
  | approver
  | viewer
  deriving DecidableEq

inductive RoleScope where
  | tenant
  | workspace
  deriving DecidableEq

def tenantRoles : List Role := [.personalOwner, .organizationAdmin]

def workspaceRoles : List Role := [.workspaceAdmin, .editor, .reviewer, .approver, .viewer]

inductive Action where
  | view
  | query
  | analyze
  | generate
  | edit
  | review
  | revisionRequest
  | approve
  | deliver
  | knowledgeRegister
  | policyManage
  | memberManage
  deriving DecidableEq

inductive Permission where
  | externalLlm
  | internetSearch
  | localInternalLlm
  | daonKnowledge
  | fileDownloadShare
  | productionKnowledgeRegistration
  | dataAreaMove
  | finalApprovalExternalDelivery
  deriving DecidableEq

inductive PolicyEffect where
  | grant
  | deny
  deriving DecidableEq

inductive AccessAction where
  | read
  | citation
  | openSource
  | export
  | delivery
  | knowledgeRegistration
  | rerun
  deriving DecidableEq

inductive AccessState where
  | available
  | partiallyRedacted
  | accessBlocked
  deriving DecidableEq

/-- `ROLE_ACTION_MATRIX`, for a role and an action. -/
def Role.may : Role → Action → Bool
  | .personalOwner, _ => true
  | .organizationAdmin, _ => true
  | .workspaceAdmin, action => action ∈ [.view, .query, .analyze, .generate, .edit, .review,
      .revisionRequest, .policyManage, .memberManage]
  | .editor, action => action ∈ [.view, .query, .analyze, .generate, .edit]
  | .reviewer, action => action ∈ [.view, .query, .analyze, .review, .revisionRequest]
  | .approver, action => action ∈ [.view, .query, .analyze, .review, .approve, .deliver,
      .knowledgeRegister]
  | .viewer, action => action = .view

/-- `ROLE_PERMISSION_DEFAULTS`, for a role and a permission. -/
def Role.grants : Role → Permission → Bool
  | .personalOwner, _ => true
  | .organizationAdmin, _ => true
  | .workspaceAdmin, permission =>
    permission ∈ [.internetSearch, .localInternalLlm, .daonKnowledge, .fileDownloadShare]
  | .editor, permission =>
    permission ∈ [.internetSearch, .localInternalLlm, .daonKnowledge, .fileDownloadShare]
  | .reviewer, permission => permission ∈ [.localInternalLlm, .daonKnowledge, .fileDownloadShare]
  | .approver, permission => permission ∈ [.localInternalLlm, .daonKnowledge, .fileDownloadShare,
      .productionKnowledgeRegistration, .finalApprovalExternalDelivery]
  | .viewer, permission => permission ∈ [.localInternalLlm, .daonKnowledge]

def Action.permissions : Action → List Permission
  | .approve => [.finalApprovalExternalDelivery]
  | .deliver => [.fileDownloadShare, .finalApprovalExternalDelivery]
  | .knowledgeRegister => [.productionKnowledgeRegistration]
  | _ => []

/-- `_ACCESS_ACTIONS`. -/
def AccessAction.base : AccessAction → Action
  | .read => .view
  | .citation => .view
  | .openSource => .view
  | .export => .deliver
  | .delivery => .deliver
  | .knowledgeRegistration => .knowledgeRegister
  | .rerun => .generate

def Role.workspaceKind : Role → Option String
  | .personalOwner => some "personal"
  | .organizationAdmin => some "organization"
  | _ => none

def Role.assignable : Role → List Role
  | .personalOwner => workspaceRoles
  | .organizationAdmin => workspaceRoles
  | .workspaceAdmin => [.editor, .reviewer, .approver, .viewer]
  | _ => []

/-! ## Results and decisions -/

structure EvidenceDependency where
  referenceId : String
  sourceVersionId : String
  segmentIds : List String
  decisive : Bool
  safeSeparation : Bool
  deriving DecidableEq

structure HistoricalResultDescriptor where
  resultId : String
  resultKind : String
  tenantId : String
  workspaceId : String
  sourceVersionIds : List String
  evidenceReferenceIds : List String
  dependencies : List EvidenceDependency
  originalPolicyVersion : String
  originalMembershipVersion : Int
  deriving DecidableEq

structure AccessDecision where
  decisionId : String
  actorId : String
  action : AccessAction
  resourceId : String
  tenantId : String
  workspaceId : String
  roleScope : Option RoleScope
  membershipVersion : Nat
  aclVersion : Nat
  policyVersion : String
  evaluatedAt : Int
  state : AccessState
  reasonCodes : List String
  allowedReferenceIds : List String
  maskedReferenceIds : List String
  allowedSegmentIds : List String
  maskedSegmentIds : List String
  deriving DecidableEq

/-- `AuthorizationError`, and the `OrganizationWorkflowError` of the bridge. -/
structure AuthorizationError where
  code : String
  httpStatus : Nat := 400
  decision : Option AccessDecision := none
  deriving DecidableEq

structure RerunSnapshot where
  tenantId : String
  workspaceId : String
  actorId : String
  roleScope : RoleScope
  membershipVersion : Nat
  aclVersion : Nat
  policyVersion : String
  dataArea : String
  costLimitCents : Int
  sourceVersionIds : List String
  deriving DecidableEq

structure RerunAuthorization where
  runRequestId : String
  accessDecisionId : String
  snapshot : RerunSnapshot
  deriving DecidableEq

structure EffectivePermission where
  permission : Permission
  requested : Bool
  effective : Bool
  lockedBy : Option String
  reason : String
  policyVersion : String
  deriving DecidableEq

structure RoleBinding where
  role : Role
  scope : RoleScope
  version : Nat
  deriving DecidableEq

structure AuthorizationGrant where
  actorId : String
  tenantId : String
  workspaceId : String
  role : Role
  roleScope : RoleScope
  action : Action
  effectivePermissions : List EffectivePermission
  requiredStepUpAction : Option String
  membershipVersion : Nat
  aclVersion : Nat
  policyVersion : String
  deriving DecidableEq

/-! ## Rows -/

inductive RowState where
  | active
  | revoked
  deriving DecidableEq

/-- A row of `auth_workspaces`. -/
structure WorkspaceRow where
  workspaceId : String
  tenantId : String
  workspaceKind : String
  dataArea : String
  costLimitCents : Int
  aclVersion : Nat := 1
  deriving DecidableEq

/-- A row of `auth_tenant_roles`. -/
structure TenantRoleRow where
  tenantId : String
  userId : String
  role : Role
  state : RowState := .active
  version : Nat := 1
  deriving DecidableEq

/-- A row of `auth_memberships`. -/
structure MembershipRow where
  tenantId : String
  workspaceId : String
  userId : String
  role : Role
  state : RowState := .active
  version : Nat := 1
  deriving DecidableEq

/-- A row of `auth_tenant_policies`, or of `auth_workspace_policies` when it names a workspace. -/
structure PolicyRow where
  tenantId : String
  workspaceId : Option String
  version : Nat := 1
  deriving DecidableEq

/-- A row of `auth_tenant_permission_rules`, or of `auth_workspace_permission_rules` when it names a
workspace. -/
structure RuleRow where
  tenantId : String
  workspaceId : Option String
  permission : Permission
  effect : PolicyEffect
  locked : Bool
  deriving DecidableEq

/-- A row of `auth_source_access`. -/
structure SourceAccessRow where
  tenantId : String
  workspaceId : String
  userId : String
  sourceVersionId : String
  allowed : Bool
  version : Nat
  deriving DecidableEq

/-- A row of `auth_historical_results`. -/
structure ResultRow where
  resultId : String
  resultKind : String
  tenantId : String
  workspaceId : String
  sourceVersionIds : List String
  evidenceReferenceIds : List String
  originalPolicyVersion : String
  originalMembershipVersion : Int
  deriving DecidableEq

/-- A row of `auth_result_dependencies`. -/
structure DependencyRow where
  resultId : String
  dependency : EvidenceDependency
  deriving DecidableEq

/-- A row of `auth_rerun_requests`. -/
structure RerunRow where
  runRequestId : String
  resultId : String
  accessDecisionId : String
  snapshot : RerunSnapshot
  deriving DecidableEq

/-- A row of `users`. -/
structure UserRow where
  userId : String
  issuer : String
  active : Bool
  passwordChangeRequired : Bool
  emailVerified : Bool
  deriving DecidableEq

/-- A row of `memberships`. -/
structure IdentityMembershipRow where
  tenantId : String
  userId : String
  role : String
  deriving DecidableEq

/-- A row of `tenant_memberships`. -/
structure WorkflowRow where
  tenantId : String
  userId : String
  role : String
  active : Bool
  joinWorkspaceId : Option String
  deriving DecidableEq

/-! ## Tables -/

/-- The policies of the tenants and those of the workspaces are one table here, and so are their
rules. -/
inductive Table where
  | workspaces
  | tenantRoles
  | memberships
  | policies
  | rules
  | sourceAccess
  | historicalResults
  | resultDependencies
  | accessDecisions
  | rerunRequests
  | users
  | tenants
  | identityMemberships
  | workflow
  deriving DecidableEq

namespace Table

@[reducible] def Row : Table → Type
  | workspaces => WorkspaceRow
  | tenantRoles => TenantRoleRow
  | memberships => MembershipRow
  | policies => PolicyRow
  | rules => RuleRow
  | sourceAccess => SourceAccessRow
  | historicalResults => ResultRow
  | resultDependencies => DependencyRow
  | accessDecisions => AccessDecision
  | rerunRequests => RerunRow
  | users => UserRow
  | tenants => String
  | identityMemberships => IdentityMembershipRow
  | workflow => WorkflowRow

def clash : (t : Table) → t.Row → t.Row → Bool
  | workspaces, a, b => a.workspaceId = b.workspaceId
  | tenantRoles, a, b => a.tenantId = b.tenantId && a.userId = b.userId
  | memberships, a, b =>
    a.tenantId = b.tenantId && a.workspaceId = b.workspaceId && a.userId = b.userId
  | policies, a, b => a.tenantId = b.tenantId && a.workspaceId = b.workspaceId
  | rules, a, b =>
    a.tenantId = b.tenantId && a.workspaceId = b.workspaceId && a.permission = b.permission
  | sourceAccess, a, b =>
    a.tenantId = b.tenantId && a.workspaceId = b.workspaceId && a.userId = b.userId &&
      a.sourceVersionId = b.sourceVersionId
  | historicalResults, a, b => a.resultId = b.resultId
  | resultDependencies, a, b =>
    a.resultId = b.resultId && a.dependency.referenceId = b.dependency.referenceId
  | accessDecisions, a, b => a.decisionId = b.decisionId
  | rerunRequests, a, b => a.runRequestId = b.runRequestId
  | users, a, b => a.userId = b.userId
  | tenants, a, b => a = b
  | identityMemberships, a, b => a.tenantId = b.tenantId && a.userId = b.userId
  | workflow, a, b => a.tenantId = b.tenantId && a.userId = b.userId

theorem clash_comm (t : Table) (a b : t.Row) : clash t a b = clash t b a := by
  cases t <;> simp [clash, eq_comm]

end Table

@[reducible] def schema : Schema where
  Table := Table
  Row := Table.Row
  clash := Table.clash
  clash_comm := Table.clash_comm

abbrev Db := Database schema

inductive Lock where
  | workspace (tenantId workspaceId : String)
  | tenantRole (tenantId userId : String)
  | membership (tenantId workspaceId userId : String)
  | policy (tenantId : String) (workspaceId : Option String)
  | rule (tenantId : String) (workspaceId : Option String) (permission : Permission)
  | sourceAccess (tenantId workspaceId userId sourceVersionId : String)
  | result (resultId : String)
  | dependency (resultId referenceId : String)
  | decision (decisionId : String)
  | rerun (runRequestId : String)
  | user (userId : String)
  | identityMembership (tenantId userId : String)
  | workflow (tenantId userId : String)
  deriving DecidableEq

abbrev Txn (α : Type) := Program Db Lock AuthorizationError α

section Rows

variable (db : Db) (tenantId workspaceId userId : String)

def workspaceRow : Option WorkspaceRow :=
  (db .workspaces).find? fun row => row.tenantId = tenantId && row.workspaceId = workspaceId

def tenantRoleRow : Option TenantRoleRow :=
  (db .tenantRoles).find? fun row => row.tenantId = tenantId && row.userId = userId

def membershipRow : Option MembershipRow :=
  (db .memberships).find? fun row =>
    row.tenantId = tenantId && row.workspaceId = workspaceId && row.userId = userId

def policyRow (scope : Option String) : Option PolicyRow :=
  (db .policies).find? fun row => row.tenantId = tenantId && row.workspaceId = scope

def ruleRow (scope : Option String) (permission : Permission) : Option RuleRow :=
  (db .rules).find? fun row =>
    row.tenantId = tenantId && row.workspaceId = scope && row.permission = permission

def sourceRow (sourceVersionId : String) : Option SourceAccessRow :=
  (db .sourceAccess).find? fun row => row.tenantId = tenantId && row.workspaceId = workspaceId &&
    row.userId = userId && row.sourceVersionId = sourceVersionId

def workflowRow : Option WorkflowRow :=
  (db .workflow).find? fun row => row.tenantId = tenantId && row.userId = userId

end Rows

end DaonUser.Authorization
