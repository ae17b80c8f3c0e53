import DaonUser.Identity.Admin

/-!
# Identity: organizations

How the members of an organization get their rows: an approved organization is provisioned with its
first administrator, and the approval of a request to join adds a member.
-/

namespace DaonUser.Identity

open Lib

def addTenantMembership (env : Env) (tenantId userId role : String) : Statement PUnit := do
  checkedTexts [tenantId, userId, role]
  transaction env do
    let db ← Call.get
    Call.ensure ((userOf userId db).isSome = true) userNotFound
    Call.modify (ensureTenant tenantId)
    Call.modify fun db => db.upsert .memberships { tenantId, userId, role } fun row =>
      { row with role }
    Call.modify (seedMinimumStepUpActions tenantId)

def invalidRoleScope : IdentityError := { code := "INVALID_ROLE_SCOPE" }

def ownerRoleOf (workspaceKind : String) : Option String :=
  if workspaceKind = "personal" then some "personal_owner"
  else if workspaceKind = "organization" then some "organization_admin"
  else none

/-- The workspace is the one that is asked for, and its owner is the one that is named. -/
def sameWorkspace (w : WorkspaceRow) (tenantId workspaceKind dataArea ownerRole : String)
    (role : Option TenantRoleRow) : Bool :=
  w.tenantId = tenantId && w.workspaceKind = workspaceKind && w.dataArea = dataArea &&
    role.any fun role => role.role = ownerRole && role.state = "active"

def bootstrapWorkspace (env : Env)
    (tenantId workspaceId ownerUserId ownerRole workspaceKind dataArea : String) :
    Statement PUnit := do
  Call.ensure (∀ value ∈ [tenantId, workspaceId, ownerUserId, workspaceKind, dataArea],
    isSafeId value = true) invalidInput
  Call.ensure (ownerRoleOf workspaceKind = some ownerRole) invalidRoleScope
  transaction env do
    let db ← Call.get
    let role := (db .authTenantRoles).find? fun row =>
      row.tenantId = tenantId && row.userId = ownerUserId
    match (db .authWorkspaces).find? fun row => row.workspaceId = workspaceId with
    | some w =>
      Call.ensure (sameWorkspace w tenantId workspaceKind dataArea ownerRole role = true)
        { code := "PERSISTENCE_CONFLICT", httpStatus := 409 }
    | none => do
      Call.ensure (∀ w ∈ db .authWorkspaces, w.tenantId = tenantId → w.workspaceKind = workspaceKind)
        invalidRoleScope
      Call.ensure (role.all (fun role => role.role = ownerRole && role.state = "active") = true)
        invalidRoleScope
      insertRow .authWorkspaces { workspaceId, tenantId, workspaceKind, dataArea }
      Call.modify fun db => db.insertOrIgnore .authTenantRoles
        { tenantId, userId := ownerUserId, role := ownerRole, state := "active" }

/-- `[a-z0-9][a-z0-9._:-]{0,127}`. -/
def isOrganizationIdentifier (value : String) : Bool :=
  match value.toList with
  | [] => false
  | c :: cs => lowerAlnum c && cs.length ≤ 127 &&
      cs.all fun c => lowerAlnum c || c ∈ ['.', '_', ':', '-']
where
  lowerAlnum (c : Char) : Bool := c.isLower || c.isDigit

def organizationIdentifier (prim : Primitives) (requested : String) : String :=
  prim.lower (String.ofList (stripChars isSpace requested.toList))

/-- `provision`, which runs when an organization is approved: two transactions. -/
def provision (prim : Primitives) (env : Env) (requestedIdentifier applicantUserId : String) :
    Statement PUnit := do
  let identifier := organizationIdentifier prim requestedIdentifier
  Call.ensure (isOrganizationIdentifier identifier = true)
    { code := "INVALID_ORGANIZATION_IDENTIFIER" }
  addTenantMembership env ("tenant-" ++ identifier) applicantUserId "organization_admin"
  bootstrapWorkspace env ("tenant-" ++ identifier) ("workspace-" ++ identifier) applicantUserId
    "organization_admin" "organization" "cloud_sync"

def scopeRequired : IdentityError :=
  { code := "ORGANIZATION_INVITATION_SCOPE_REQUIRED", httpStatus := 409 }

def membershipConflict : IdentityError :=
  { code := "ORGANIZATION_MEMBERSHIP_CONFLICT", httpStatus := 409 }

/-- The user may join: active, with no password to change and, when local, with a verified address. -/
def mayJoin (user : UserRow) : Bool :=
  user.state = .active && !user.passwordChangeRequired &&
    !(user.issuer = "local" && user.emailVerifiedAt.isNone)

def isBound (db : Db) (tenantId userId : String) : Bool :=
  (db .memberships).any (fun row => row.tenantId = tenantId && row.userId = userId) ||
    (db .authMemberships).any (fun row => row.tenantId = tenantId && row.userId = userId) ||
    (db .authTenantRoles).any fun row => row.tenantId = tenantId && row.userId = userId

/-- `approve_join_access`. It uses the tenant and its policy as they are. -/
def approveJoinAccess (env : Env) (tenantId workspaceId userId : String) : Statement PUnit := do
  Call.ensure (isOrganizationId userId = true ∧ isOrganizationId tenantId = true ∧
    isOrganizationId workspaceId = true) { code := "INVALID_ID" }
  transaction env do
    let db ← Call.get
    Call.ensure ((db .authWorkspaces).any (fun w => w.tenantId = tenantId &&
      w.workspaceId = workspaceId && w.workspaceKind = "organization") = true) scopeRequired
    Call.ensure (tenantId ∈ db .tenants) scopeRequired
    Call.ensure ((userOf userId db).any mayJoin = true) membershipConflict
    Call.ensure (isBound db tenantId userId = false) membershipConflict
    insertRow .memberships { tenantId, userId, role := "member" }
    insertRow .authMemberships { tenantId, workspaceId, userId, role := "viewer", state := "active" }

end DaonUser.Identity
