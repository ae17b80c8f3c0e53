import DaonUser.Authorization.Service

/-!
# Authorization: the transactions that write

`bootstrap_workspace`, the four changes that ask for an expected version, the two writes of
`OrganizationAccessBridge`, and the registration of results. An upsert locks the row of its key; an
`UPDATE` locks the rows that it finds.
-/

namespace DaonUser.Authorization

open Lib

/-- `INSERT`. -/
def insertRow (lock : Lock) (t : Table) (row : t.Row) (e : AuthorizationError) : Txn Unit :=
  Program.insertRow (S := schema) lock t row e

/-- `INSERT OR IGNORE`. -/
def putIfAbsent (lock : Lock) (t : Table) (row : t.Row) : Txn Unit :=
  Program.putIfAbsent (S := schema) lock t row

/-- `INSERT … ON CONFLICT DO UPDATE`. -/
def put (lock : Lock) (t : Table) (row : t.Row) : Txn Unit :=
  Program.put (S := schema) lock t row

/-- `UPDATE auth_workspaces SET acl_version=acl_version+1`, with the number of rows. -/
def raiseAcl (tenantId workspaceId : String) : Txn Nat :=
  Program.writeCount
    (fun db => if (workspaceRow db tenantId workspaceId).isSome then [.workspace tenantId workspaceId]
      else [])
    (fun db : Db => db.update .workspaces
      (fun row => row.tenantId = tenantId && row.workspaceId = workspaceId)
      fun row => { row with aclVersion := row.aclVersion + 1 })
    fun db => ((db .workspaces).filter fun row =>
      row.tenantId = tenantId && row.workspaceId = workspaceId).length

/-! ## Workspaces -/

def ownerRole (workspaceKind : String) : Option Role :=
  if workspaceKind = "personal" then some .personalOwner
  else if workspaceKind = "organization" then some .organizationAdmin
  else none

/-- An active tenant role, as `bootstrap_workspace` asks of the owner. -/
def TenantRoleRow.owns (role : Role) (row : TenantRoleRow) : Bool :=
  row.role = role && row.state = .active

def bootstrapWorkspace (tenantId workspaceId ownerUserId : String) (role : Role)
    (workspaceKind dataArea : String) (costLimitCents : Int) : Txn Unit := do
  checkedIds [tenantId, workspaceId, ownerUserId, workspaceKind, dataArea]
  Program.ensure (0 ≤ costLimitCents) invalidInput
  Program.ensure (ownerRole workspaceKind = some role) invalidRoleScope
  let existing ← Program.read fun db : Db =>
    (db .workspaces).find? fun row => row.workspaceId = workspaceId
  match existing with
  | some row => do
    let existingRole ← Program.read fun db => tenantRoleRow db tenantId ownerUserId
    Program.ensure (row.tenantId = tenantId ∧ row.workspaceKind = workspaceKind ∧
      row.dataArea = dataArea ∧ existingRole.any (TenantRoleRow.owns role) = true) persistenceConflict
  | none => do
    let incompatible ← Program.read fun db : Db => (db .workspaces).any fun row =>
      row.tenantId = tenantId && row.workspaceKind ≠ workspaceKind
    Program.ensure (incompatible = false) invalidRoleScope
    let existingRole ← Program.read fun db => tenantRoleRow db tenantId ownerUserId
    Program.ensure (existingRole.all (TenantRoleRow.owns role) = true) invalidRoleScope
    insertRow (.workspace tenantId workspaceId) .workspaces
      { workspaceId, tenantId, workspaceKind, dataArea, costLimitCents } persistenceConflict
    putIfAbsent (.tenantRole tenantId ownerUserId) .tenantRoles
      { tenantId, userId := ownerUserId, role }
    putIfAbsent (.policy tenantId none) .policies { tenantId, workspaceId := none }
    insertRow (.policy tenantId (some workspaceId)) .policies
      { tenantId, workspaceId := some workspaceId } persistenceConflict

/-! ## Changes with an expected version -/

def setMembership (env : Env) (principal : IdentityPrincipal) (workspaceId userId : String)
    (role : Role) (expectedVersion : Int) (trail : Trail) : Txn Nat := do
  Program.ensure (0 ≤ expectedVersion) invalidInput
  checkedIds [userId]
  let row ← workspace env principal workspaceId trail
  denyUnless (role ∈ workspaceRoles) env principal trail [workspaceId] invalidRoleScope
  let binding ← roleBinding principal row
  denyUnless (binding.any (fun actor => role ∈ actor.role.assignable) = true) env principal trail
    [workspaceId] privilegeEscalationDenied
  let current ← Program.read fun db => membershipRow db principal.tenantId workspaceId userId
  let currentVersion := versionOf MembershipRow.version current
  denyUnless ((currentVersion : Int) = expectedVersion) env principal trail [workspaceId]
    versionConflict
  put (.membership principal.tenantId workspaceId userId) .memberships
    { tenantId := principal.tenantId, workspaceId, userId, role, state := .active,
      version := currentVersion + 1 }
  let _ ← raiseAcl principal.tenantId workspaceId
  audit env principal trail [workspaceId, userId]
  return currentVersion + 1

def tenantRoleOf (kinds : List String) : Option Role :=
  if kinds ≠ [] ∧ ∀ kind ∈ kinds, kind = "personal" then some .personalOwner
  else if kinds ≠ [] ∧ ∀ kind ∈ kinds, kind = "organization" then some .organizationAdmin
  else none

def setTenantRole (env : Env) (principal : IdentityPrincipal) (userId : String)
    (role : Option Role) (expectedVersion : Int) (trail : Trail) : Txn Nat := do
  Program.ensure (role.all (· ∈ tenantRoles) = true) invalidRoleScope
  Program.ensure (0 ≤ expectedVersion) invalidInput
  checkedIds [userId]
  let actor ← tenantRole principal
  denyUnless (actor.any (fun row => row.role ∈ tenantRoles) = true) env principal trail []
    privilegeEscalationDenied
  let kinds ← Program.read fun db : Db =>
    ((db .workspaces).filter fun row => row.tenantId = principal.tenantId).map (·.workspaceKind)
  Program.ensure ((tenantRoleOf kinds).any (fun expected => role.all (· = expected)) = true)
    invalidRoleScope
  let current ← Program.read fun db => tenantRoleRow db principal.tenantId userId
  let currentVersion := versionOf TenantRoleRow.version current
  denyUnless ((currentVersion : Int) = expectedVersion) env principal trail [] versionConflict
  let next ← Program.require (role.orElse fun _ => current.map (·.role)) invalidRoleScope
  put (.tenantRole principal.tenantId userId) .tenantRoles
    { tenantId := principal.tenantId, userId, role := next,
      state := if role.isSome then .active else .revoked, version := currentVersion + 1 }
  audit env principal trail [userId]
  return currentVersion + 1

def RoleBinding.manages (binding : RoleBinding) : Bool :=
  binding.role ∈ [Role.personalOwner, .organizationAdmin, .workspaceAdmin]

def setSourceAccess (env : Env) (principal : IdentityPrincipal)
    (workspaceId userId sourceVersionId : String) (allowed : Bool) (expectedVersion : Int)
    (trail : Trail) : Txn Nat := do
  checkedIds [userId, sourceVersionId]
  Program.ensure (0 ≤ expectedVersion) invalidInput
  let row ← workspace env principal workspaceId trail
  let binding ← roleBinding principal row
  Program.ensure (binding.any RoleBinding.manages = true) actionDenied
  let current ← Program.read fun db =>
    sourceRow db principal.tenantId workspaceId userId sourceVersionId
  let currentVersion := versionOf SourceAccessRow.version current
  Program.ensure ((currentVersion : Int) = expectedVersion) versionConflict
  put (.sourceAccess principal.tenantId workspaceId userId sourceVersionId) .sourceAccess
    { tenantId := principal.tenantId, workspaceId, userId, sourceVersionId, allowed,
      version := currentVersion + 1 }
  let _ ← raiseAcl principal.tenantId workspaceId
  audit env principal trail [workspaceId, sourceVersionId]
  return currentVersion + 1

/-- The `scope` of a policy. -/
inductive PolicyScope where
  | tenant
  | workspace
  deriving DecidableEq

/-- What `set_permission_policy` is asked for. -/
structure PolicyChange where
  principal : IdentityPrincipal
  scope : PolicyScope
  workspaceId : String
  permission : Permission
  effect : PolicyEffect
  locked : Bool
  expectedVersion : Int
  trail : Trail
  deriving DecidableEq

def PolicyChange.within (change : PolicyChange) : Option String :=
  match change.scope with
  | .tenant => none
  | .workspace => some change.workspaceId

def PolicyChange.allows (change : PolicyChange) (binding : RoleBinding) : Bool :=
  match change.scope with
  | .tenant => binding.scope = .tenant
  | .workspace => binding.manages

/-- The first transaction of `set_permission_policy`. -/
def checkPolicy (env : Env) (change : PolicyChange) : Txn Unit := do
  Program.ensure (1 ≤ change.expectedVersion) invalidInput
  if change.scope = .workspace then checkedIds [change.workspaceId]
  let row ← workspace env change.principal change.workspaceId change.trail
  let binding ← roleBinding change.principal row
  denyUnless (binding.any change.allows = true) env change.principal change.trail
    [change.workspaceId] privilegeEscalationDenied

/-- The second transaction of `set_permission_policy`. -/
def changePolicy (env : Env) (change : PolicyChange) : Txn Nat := do
  Program.ensure (1 ≤ change.expectedVersion) invalidInput
  let row ← workspace env change.principal change.workspaceId change.trail
  let binding ← roleBinding change.principal row
  denyUnless (binding.any change.allows = true) env change.principal change.trail
    [change.workspaceId] privilegeEscalationDenied
  let header ← Program.read fun db => policyRow db change.principal.tenantId change.within
  let currentVersion := versionOf PolicyRow.version header
  denyUnless ((currentVersion : Int) = change.expectedVersion) env change.principal change.trail
    [change.workspaceId] versionConflict
  Program.write
    (fun db => if (policyRow db change.principal.tenantId change.within).isSome then
      [.policy change.principal.tenantId change.within] else [])
    fun db : Db => db.update .policies
      (fun row => row.tenantId = change.principal.tenantId && row.workspaceId = change.within)
      fun row => { row with version := currentVersion + 1 }
  put (.rule change.principal.tenantId change.within change.permission) .rules
    { tenantId := change.principal.tenantId, workspaceId := change.within,
      permission := change.permission, effect := change.effect, locked := change.locked }
  audit env change.principal change.trail [change.workspaceId]
  return currentVersion + 1

/-! ## Organizations -/

structure JoinAccess where
  accessRole : Option Role
  accessState : Option RowState
  accessVersion : Option Nat
  deriving DecidableEq

def joinAccess (row : Option MembershipRow) : JoinAccess where
  accessRole := row.map (·.role)
  accessState := row.map (·.state)
  accessVersion := row.map (·.version)

/-- `_workspace` of the bridge. -/
def organizationWorkspace (tenantId workspaceId : String) : Txn WorkspaceRow := do
  workflowIds [tenantId, workspaceId]
  let row ← Program.readLocked
    (fun db => if (workspaceRow db tenantId workspaceId).isSome then
      [Lock.workspace tenantId workspaceId] else [])
    fun db => workspaceRow db tenantId workspaceId
  Program.require (row.filter fun row => row.workspaceKind = "organization") invitationScopeRequired

def lockedUser (userId : String) : Txn (Option UserRow) :=
  Program.readLocked
    (fun db : Db => if (db .users).any fun row => row.userId = userId then [Lock.user userId] else [])
    fun db : Db => (db .users).find? fun row => row.userId = userId

def UserRow.joins (row : UserRow) : Bool :=
  row.active && !row.passwordChangeRequired && (row.issuer ≠ "local" || row.emailVerified)

def belongs (tenantId userId : String) (db : Db) : Bool :=
  ((db .identityMemberships).any fun row => row.tenantId = tenantId && row.userId = userId) ||
    ((db .memberships).any fun row => row.tenantId = tenantId && row.userId = userId) ||
    (tenantRoleRow db tenantId userId).isSome

def approveJoinAccess (tenantId workspaceId userId : String) : Txn JoinAccess := do
  workflowIds [userId]
  let _ ← organizationWorkspace tenantId workspaceId
  let known ← Program.read fun db : Db => decide (tenantId ∈ db .tenants)
  Program.ensure (known = true) invitationScopeRequired
  let user ← lockedUser userId
  Program.ensure (user.any UserRow.joins = true) membershipConflict
  let member ← Program.read (belongs tenantId userId)
  Program.ensure (member = false) membershipConflict
  insertRow (.identityMembership tenantId userId) .identityMemberships
    { tenantId, userId, role := "member" } membershipConflict
  insertRow (.membership tenantId workspaceId userId) .memberships
    { tenantId, workspaceId, userId, role := .viewer } membershipConflict
  let count ← raiseAcl tenantId workspaceId
  Program.ensure (count = 1) membershipConflict
  let row ← Program.read fun db => membershipRow db tenantId workspaceId userId
  return joinAccess row

/-- The error of `read_join_access` and of `change_join_role`. -/
def joinConflict : AuthorizationError := { code := "MEMBERSHIP_CONFLICT", httpStatus := 409 }

def readJoinAccess (tenantId workspaceId userId : String) : Txn JoinAccess := do
  workflowIds [tenantId, workspaceId, userId]
  let member ← Program.read fun db => workflowRow db tenantId userId
  Program.ensure (member.any (·.joinWorkspaceId = some workspaceId) = true) joinConflict
  let row ← Program.read fun db => membershipRow db tenantId workspaceId userId
  return joinAccess row

/-- The roles that `change_join_role` moves between. -/
def joinRoles : List Role := [.viewer, .editor, .reviewer, .approver]

/-- A membership that `change_join_role` may change. -/
def MembershipRow.joined (expectedVersion : Int) (row : MembershipRow) : Bool :=
  row.state = .active && row.role ∈ joinRoles && (row.version : Int) = expectedVersion

def WorkflowRow.joined (workspaceId : String) (row : WorkflowRow) : Bool :=
  row.joinWorkspaceId = some workspaceId && row.role = "member" && row.active

def changeJoinRole (tenantId workspaceId userId : String) (role : Role) (expectedVersion : Int) :
    Txn JoinAccess := do
  workflowIds [userId]
  Program.ensure (role ∈ joinRoles) { code := "INVALID_ROLE", httpStatus := 422 }
  Program.ensure (1 ≤ expectedVersion) joinConflict
  let _ ← organizationWorkspace tenantId workspaceId
  let member ← Program.readLocked
    (fun db => if (workflowRow db tenantId userId).isSome then [Lock.workflow tenantId userId] else [])
    fun db => workflowRow db tenantId userId
  let user ← lockedUser userId
  let identity ← Program.readLocked
    (fun db : Db => if (db .identityMemberships).any fun row =>
        row.tenantId = tenantId && row.userId = userId then [Lock.identityMembership tenantId userId]
      else [])
    fun db : Db => (db .identityMemberships).find? fun row =>
      row.tenantId = tenantId && row.userId = userId
  let current ← Program.readLocked
    (fun db => if (membershipRow db tenantId workspaceId userId).isSome then
      [Lock.membership tenantId workspaceId userId] else [])
    fun db => membershipRow db tenantId workspaceId userId
  Program.ensure (member.any (WorkflowRow.joined workspaceId) = true ∧
      user.any UserRow.active = true ∧ identity.any (·.role = "member") = true ∧
      current.any (MembershipRow.joined expectedVersion) = true) joinConflict
  let changing (row : MembershipRow) : Bool := row.tenantId = tenantId &&
    row.workspaceId = workspaceId && row.userId = userId && (row.version : Int) = expectedVersion &&
    row.state = .active
  let count ← Program.writeCount
    (fun db : Db => if (db .memberships).any changing then
      [Lock.membership tenantId workspaceId userId] else [])
    (fun db : Db => db.update .memberships changing
      fun row => { row with role := role, version := row.version + 1 })
    fun db : Db => ((db .memberships).filter changing).length
  Program.ensure (count = 1) joinConflict
  let _ ← raiseAcl tenantId workspaceId
  readJoinAccess tenantId workspaceId userId

end DaonUser.Authorization
