import DaonUser.Identity.Accounts
import Mathlib.Data.List.Sort
import Mathlib.Data.String.Basic

/-!
# Identity: access tokens and tenants

Who an access token stands for, and the tenants that a user can work in.
-/

namespace DaonUser.Identity

open Lib

structure IdentityPrincipal where
  userId : String
  sessionId : String
  deviceId : String
  tenantId : String
  deriving DecidableEq

def SessionRow.principal (row : SessionRow) : IdentityPrincipal where
  userId := row.userId
  sessionId := row.sessionId
  deviceId := row.deviceId
  tenantId := row.tenantId

/-- The statement of `_principal` that notes when a device was seen. -/
def seen (deviceId : String) (now : Int) (db : Db) : Db :=
  db.update .devices (fun row => row.deviceId = deviceId) fun row =>
    { row with lastSeenAt := now, updatedAt := now }

def accessInvalid : IdentityError := { code := "ACCESS_INVALID", httpStatus := 401 }

def sessionOf (prim : Primitives) (accessToken : String) (db : Db) : Option SessionRow :=
  (db .sessions).find? fun row => row.accessDigest = prim.digest accessToken

def principal (prim : Primitives) (accessToken : String) (now : Int) : Statement SessionRow := do
  opaqueTexts [accessToken]
  let row ← Call.require (sessionOf prim accessToken) accessInvalid
  Call.ensure (row.state = .active) { code := "SESSION_REVOKED", httpStatus := 401 }
  -- the expiry of a web session is not looked at
  Call.ensure (row.clientKind = .web ∨ now < row.accessExpiresAt)
    { code := "ACCESS_EXPIRED", httpStatus := 401 }
  Call.modify (seen row.deviceId now)
  return row

/-- What `validate_access` raises for an error of `_principal`, which it also audits. -/
def accessDenial (env : Env) (error : IdentityError) : IdentityError :=
  if env.audits then
    if error.code = "ACCESS_EXPIRED" ∨ error.code = "SESSION_REVOKED" then error else accessInvalid
  else { code := "AUDIT_WRITE_FAILED", httpStatus := 503 }

def validateAccess (prim : Primitives) (env : Env) (accessToken traceId policyVersion : String) :
    Statement IdentityPrincipal := do
  checkedTexts [traceId, policyVersion]
  transaction env do
    let row ← Call.mapError (accessDenial env) (principal prim accessToken env.now)
    return row.principal

structure IdentitySessionView where
  principal : IdentityPrincipal
  loginId : Option String
  clientKind : ClientKind
  expiresAt : Int
  passwordChangeRequired : Bool
  deriving DecidableEq

/-- The session with its user, as `describe_access` joins them. -/
def describedSession (sessionId : String) (db : Db) : Option (SessionRow × UserRow) :=
  ((db .sessions).find? fun row => row.sessionId = sessionId).bind fun row =>
    ((db .users).find? fun user => user.userId = row.userId).map fun user => (row, user)

def describeAccess (prim : Primitives) (env : Env) (accessToken traceId policyVersion : String) :
    Statement IdentitySessionView := do
  let principal ← validateAccess prim env accessToken traceId policyVersion
  let (row, user) ← Call.require (describedSession principal.sessionId) accessInvalid
  return { principal, loginId := user.loginId, clientKind := row.clientKind,
           expiresAt := row.accessExpiresAt, passwordChangeRequired := user.passwordChangeRequired }

/-! ## Tenants -/

/-- What `_id` of the organization workflow accepts. -/
def isOrganizationId (value : String) : Bool :=
  value ≠ "" && value.toList = stripChars isSpace value.toList && value.toList.length ≤ 160

def assertOrganizationActive (db : Db) (tenantId userId : String) : Except IdentityError Unit :=
  if isOrganizationId tenantId && isOrganizationId userId then
    match (db .tenantMemberships).find? fun row =>
        row.tenantId = tenantId && row.userId = userId with
    | none => .ok ()
    | some row =>
      if row.state = "active" then .ok ()
      else .error { code := "ORGANIZATION_MEMBERSHIP_SUSPENDED", httpStatus := 403 }
  else .error { code := "INVALID_ID" }

def isActiveUser (db : Db) (userId : String) : Bool :=
  (db .users).any fun user => user.userId = userId && user.state = .active

/-- The condition of `_selectable_tenant_workspaces` on a membership and a workspace. -/
def selects (db : Db) (m : MembershipRow) (w : WorkspaceRow) : Bool :=
  w.tenantId = m.tenantId && isActiveUser db m.userId &&
    ((m.role = "personal_owner" && w.workspaceKind = "personal") ||
      (m.role ≠ "personal_owner" && w.workspaceKind = "organization")) &&
    (((db .authTenantRoles).any fun r =>
        r.tenantId = w.tenantId && r.userId = m.userId && r.state = "active" &&
          ((w.workspaceKind = "personal" && r.role = "personal_owner") ||
            (w.workspaceKind = "organization" && r.role = "organization_admin"))) ||
      (db .authMemberships).any fun a =>
        a.tenantId = w.tenantId && a.workspaceId = w.workspaceId && a.userId = m.userId &&
          a.state = "active")

structure SelectableTenant where
  tenantId : String
  kind : String
  workspaceId : String
  deriving DecidableEq

def selectionOrder (a b : MembershipRow × WorkspaceRow) : Prop :=
  a.1.tenantId < b.1.tenantId ∨
    (a.1.tenantId = b.1.tenantId ∧ a.2.workspaceId ≤ b.2.workspaceId)

instance selectionOrderDecidable : DecidableRel selectionOrder := fun _ _ => inferInstanceAs (Decidable (_ ∨ _))

def selection (db : Db) (userId : String) : List (MembershipRow × WorkspaceRow) :=
  (((db .memberships).filter fun m => m.userId = userId).flatMap fun m =>
    ((db .authWorkspaces).filter fun w => selects db m w).map fun w => (m, w)).insertionSort
    selectionOrder

/-- One turn of the loop of `_selectable_tenant_workspaces`. -/
def selectTenant (db : Db) (userId : String) (selected : List SelectableTenant)
    (row : MembershipRow × WorkspaceRow) : Except IdentityError (List SelectableTenant) :=
  let added :=
    if selected.any fun tenant => tenant.tenantId = row.1.tenantId then selected
    else selected ++ [{ tenantId := row.1.tenantId,
                        kind := if row.1.role = "personal_owner" then "personal"
                          else "organization",
                        workspaceId := row.2.workspaceId }]
  if row.2.workspaceKind = "organization" then
    match assertOrganizationActive db row.1.tenantId userId with
    | .ok _ => .ok added
    | .error e => if e.code = "ORGANIZATION_MEMBERSHIP_SUSPENDED" then .ok selected else .error e
  else .ok added

def selectableTenantWorkspaces (userId : String) : Statement (List SelectableTenant) := do
  checkedTexts [userId]
  Call.query fun db => (selection db userId).foldlM (selectTenant db userId) []

end DaonUser.Identity
