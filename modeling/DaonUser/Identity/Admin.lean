import DaonUser.Identity.Sessions

/-!
# Identity: the administration of users

`AdminUserService`: how a system administrator makes, approves, suspends, changes and deletes the
accounts of others. Every call leaves an intent for the audit under the idempotency key of the
request; a call that finds the intent of an earlier one replays it.
-/

namespace DaonUser.Identity

open Lib

structure AdminUserView where
  userId : String
  loginId : Option String
  email : Option String
  state : UserState
  protectedAccount : Bool
  deriving DecidableEq

def UserRow.view (row : UserRow) : AdminUserView where
  userId := row.userId
  loginId := row.loginId
  email := row.email
  state := row.state
  protectedAccount := row.userId = initialAdminUserId

structure AdminUserStateResult where
  user : AdminUserView
  replayed : Bool
  deriving DecidableEq

def userNotFound : IdentityError := { code := "USER_NOT_FOUND", httpStatus := 404 }
def userAlreadyExists : IdentityError := { code := "USER_ALREADY_EXISTS", httpStatus := 409 }
def protectedAdminAccount : IdentityError := { code := "PROTECTED_ADMIN_ACCOUNT", httpStatus := 409 }
def idempotencyKeyReused : IdentityError := { code := "IDEMPOTENCY_KEY_REUSED", httpStatus := 409 }
def invalidUserState (httpStatus : Nat) : IdentityError := { code := "INVALID_USER_STATE", httpStatus }

def requireAdmin (admins : List String) (principal : IdentityPrincipal) : Statement PUnit :=
  Call.ensure (principal.userId ∈ admins) { code := "FORBIDDEN", httpStatus := 403 }

def validateOperation (target : List String) (idempotencyKey traceId policyVersion : String) :
    Statement PUnit := do
  checkedTexts (target ++ [idempotencyKey, traceId, policyVersion])
  Call.ensure (16 ≤ idempotencyKey.toList.length ∧ idempotencyKey.toList.length ≤ 128)
    { code := "IDEMPOTENCY_KEY_INVALID" }

/-- `"|".join(...)`, the form of fingerprints and scopes. -/
def joined (parts : List String) : String := String.intercalate "|" parts

def idempotencyScope (principal : IdentityPrincipal) (idempotencyKey : String) : String :=
  joined [principal.tenantId, principal.userId, idempotencyKey]

structure AdminRequest where
  operation : String
  /-- What the id of the intent starts with. -/
  kind : String
  action : String
  scope : String
  fingerprint : String

def AdminRequest.prior (request : AdminRequest) (db : Db) : Option AdminAuditRow :=
  (db .adminAuditOutbox).find? fun row =>
    row.operation = request.operation && row.idempotencyScope = some request.scope

def AdminRequest.intent (request : AdminRequest) (prim : Primitives) (env : Env)
    (principal : IdentityPrincipal) (targetId traceId policyVersion : String)
    (beforeState afterState : Option String) : AdminAuditRow where
  eventId := request.kind ++ prim.digest request.scope
  operation := request.operation
  idempotencyScope := some request.scope
  requestFingerprint := some request.fingerprint
  actorId := principal.userId
  tenantId := principal.tenantId
  action := request.action
  targetId := targetId
  occurredAt := env.now
  traceId := traceId
  policyVersion := policyVersion
  beforeState := beforeState
  afterState := afterState

def userOf (userId : String) (db : Db) : Option UserRow :=
  (db .users).find? fun row => row.userId = userId

/-! ## Accounts -/

def createRequest (prim : Primitives) (principal : IdentityPrincipal)
    (login address idempotencyKey : String) : AdminRequest where
  operation := "create_user"
  kind := "audit-admin-user-create-"
  action := "identity.user.created"
  scope := idempotencyScope principal idempotencyKey
  fingerprint := prim.digest (joined ["admin-user-create-v1", principal.userId, login, address])

/-- The account that `create_user` inserts. -/
def createdUser (env : Env) (login address secret : String) : UserRow where
  userId := env.id "usr"
  issuer := "local"
  subject := login
  loginId := some login
  email := some address
  passwordDigest := some (env.hash secret)
  passwordChangeRequired := true
  state := .pendingApproval

/-- Make an account that waits for its approval. No intent has the scope of the request: it was
looked for in the same transaction. -/
def makeUser (prim : Primitives) (env : Env) (principal : IdentityPrincipal) (request : AdminRequest)
    (login address secret traceId policyVersion : String) : Statement AdminUserStateResult := do
  let db ← Call.get
  Call.ensure (∀ row ∈ db .users, row.loginId ≠ some login ∧ row.email ≠ some address)
    userAlreadyExists
  let user := createdUser env login address secret
  insertRow .users user
  Call.modify (ensureTenant (env.id "tenant"))
  insertRow .memberships
    { tenantId := env.id "tenant", userId := env.id "usr", role := "personal_owner" }
  insertRow .adminAuditOutbox
    (request.intent prim env principal user.userId traceId policyVersion none
      (some UserState.pendingApproval.text))
  return { user := user.view, replayed := false }

def createUser (prim : Primitives) (env : Env) (admins : List String) (principal : IdentityPrincipal)
    (loginId emailText initialPassword idempotencyKey traceId policyVersion : String) :
    Statement AdminUserStateResult := do
  requireAdmin admins principal
  validateOperation [] idempotencyKey traceId policyVersion
  checkedTexts [loginId]
  let address ← email prim emailText
  password initialPassword
  let request := createRequest prim principal (prim.lower loginId) address idempotencyKey
  transaction env do
    let db ← Call.get
    match request.prior db with
    | some prior => do
      Call.ensure (prior.requestFingerprint = some request.fingerprint) idempotencyKeyReused
      let user ← Call.require (userOf prior.targetId) persistenceUnavailable
      return { user := user.view, replayed := true }
    | none =>
      makeUser prim env principal request (prim.lower loginId) address initialPassword traceId
        policyVersion

def updateRequest (prim : Primitives) (principal : IdentityPrincipal)
    (userId address idempotencyKey : String) : AdminRequest where
  operation := "update_user"
  kind := "audit-admin-user-update-"
  action := "identity.user.updated"
  scope := idempotencyScope principal idempotencyKey
  fingerprint := prim.digest (joined ["admin-user-update-v1", principal.userId, userId, address])

/-- `UPDATE users SET email=?`. -/
def setEmail (userId address : String) (db : Db) : Db :=
  db.update .users (fun row => row.userId = userId) fun row => { row with email := some address }

def updateUser (prim : Primitives) (env : Env) (admins : List String) (principal : IdentityPrincipal)
    (userId emailText idempotencyKey traceId policyVersion : String) :
    Statement AdminUserStateResult := do
  requireAdmin admins principal
  validateOperation [userId] idempotencyKey traceId policyVersion
  let address ← email prim emailText
  let request := updateRequest prim principal userId address idempotencyKey
  transaction env do
    let row ← Call.require (userOf userId) userNotFound
    let db ← Call.get
    match request.prior db with
    | some prior => do
      Call.ensure (prior.requestFingerprint = some request.fingerprint ∧ prior.targetId = userId)
        idempotencyKeyReused
      return { user := row.view, replayed := true }
    | none => do
      Call.ensure (userId ≠ initialAdminUserId) protectedAdminAccount
      Call.ensure (∀ other ∈ db .users, other.email = some address → other.userId = userId)
        userAlreadyExists
      Call.modify (setEmail userId address)
      insertRow .adminAuditOutbox (request.intent prim env principal userId traceId policyVersion
        (some row.state.text) (some row.state.text))
      return { user := { row.view with email := some address }, replayed := false }

def deleteRequest (prim : Primitives) (principal : IdentityPrincipal)
    (userId idempotencyKey : String) : AdminRequest where
  operation := "delete_user"
  kind := "audit-admin-user-delete-"
  action := "identity.user.deleted"
  scope := idempotencyScope principal idempotencyKey
  fingerprint := prim.digest (joined ["admin-user-delete-v1", principal.userId, userId])

/-- No row that outlives the account names it, one of its sessions or one of its devices, and none of
its sessions has an intent for the audit, which a trigger keeps. -/
def isDeletable (userId : String) (db : Db) : Bool :=
  let ownSession (sessionId : String) : Bool :=
    (db .sessions).any fun row => row.sessionId = sessionId && row.userId = userId
  let ownDevice (deviceId : String) : Bool :=
    (db .devices).any fun row => row.deviceId = deviceId && row.userId = userId
  (db .sessionAuditOutbox).all (fun row => row.actorId ≠ userId && !ownSession row.sessionId) &&
    (db .sessions).all (fun row => row.userId = userId || !ownDevice row.deviceId) &&
    (db .stepUpAuthorizations).all (fun row =>
      row.actorId ≠ userId && !ownSession row.sessionId && !ownDevice row.deviceId) &&
    (db .stepUpIdempotency).all (fun row => row.actorId ≠ userId) &&
    (db .stepUpConsumptions).all fun row => row.actorId ≠ userId

/-- The `DELETE` statements of `delete_user`. -/
def deleteAccount (userId : String) (db : Db) : Db :=
  let sessionIds := ((db .sessions).filter fun row => row.userId = userId).map SessionRow.sessionId
  let familyIds := ((db .refreshFamilies).filter fun row =>
    sessionIds.contains row.sessionId).map FamilyRow.familyId
  let db : Db := db.delete .refreshTokens fun row => familyIds.contains row.familyId
  let db : Db := db.delete .refreshFamilies fun row => sessionIds.contains row.sessionId
  let db : Db := db.delete .sessions fun row => row.userId = userId
  let db : Db := db.delete .devices fun row => row.userId = userId
  let db : Db := db.delete .emailVerificationTokens fun row => row.userId = userId
  let db : Db := db.delete .passwordResetTokens fun row => row.userId = userId
  let db : Db := db.delete .memberships fun row => row.userId = userId
  db.delete .users fun row => row.userId = userId

structure AdminUserDeleteResult where
  userId : String
  replayed : Bool
  deriving DecidableEq

def deleteUser (prim : Primitives) (env : Env) (admins : List String) (principal : IdentityPrincipal)
    (userId idempotencyKey traceId policyVersion : String) : Statement AdminUserDeleteResult := do
  requireAdmin admins principal
  validateOperation [userId] idempotencyKey traceId policyVersion
  Call.ensure (userId ≠ initialAdminUserId) protectedAdminAccount
  let request := deleteRequest prim principal userId idempotencyKey
  transaction env do
    let db ← Call.get
    match request.prior db with
    | some prior => do
      Call.ensure (prior.requestFingerprint = some request.fingerprint ∧ prior.targetId = userId)
        idempotencyKeyReused
      return { userId, replayed := true }
    | none => do
      Call.ensure ((userOf userId db).isSome = true) userNotFound
      Call.ensure (isDeletable userId db = true) persistenceUnavailable
      Call.modify (deleteAccount userId)
      insertRow .adminAuditOutbox
        (request.intent prim env principal userId traceId policyVersion (some "deleted") none)
      return { userId, replayed := false }

def stateRequest (prim : Primitives) (principal : IdentityPrincipal)
    (userId state idempotencyKey : String) : AdminRequest where
  operation := "change_user_state"
  kind := "audit-admin-user-state-"
  action := "identity.user.state_changed"
  scope := idempotencyScope principal idempotencyKey
  fingerprint := prim.digest (joined ["admin-user-state-v1", principal.userId, userId, state])

def requestedState (state : String) : Option UserState :=
  if state = "active" then some .active
  else if state = "suspended" then some .suspended
  else none

/-- `UPDATE users SET state=?`, which also verifies the address of an account that it approves. -/
def setState (userId : String) (before after : UserState) (now : Int) (db : Db) : Db :=
  db.update .users (fun row => row.userId = userId) fun row =>
    { row with
      state := after
      emailVerifiedAt :=
        if after = .active ∧ before = .pendingApproval then some (row.emailVerifiedAt.getD now)
        else row.emailVerifiedAt }

/-- What `change_state` asks of its target. -/
def checkTarget (row : UserRow) (state : UserState) : Statement PUnit := do
  Call.ensure (row.userId = initialAdminUserId → isProtectedInitialAdminRecord row = true)
    initialAdminConflict
  Call.ensure (row.userId = initialAdminUserId → state ≠ .suspended) protectedAdminAccount
  Call.ensure (row.state ≠ .pendingEmail) (invalidUserState 409)

def changeState (prim : Primitives) (env : Env) (admins : List String)
    (principal : IdentityPrincipal)
    (userId state idempotencyKey traceId policyVersion : String) :
    Statement AdminUserStateResult := do
  requireAdmin admins principal
  checkedTexts [userId, idempotencyKey, traceId, policyVersion]
  let after ← Call.require (fun _ => requestedState state) (invalidUserState 400)
  Call.ensure (16 ≤ idempotencyKey.toList.length ∧ idempotencyKey.toList.length ≤ 128)
    { code := "IDEMPOTENCY_KEY_INVALID" }
  let request := stateRequest prim principal userId state idempotencyKey
  transaction env do
    let row ← Call.require (userOf userId) userNotFound
    checkTarget row after
    let db ← Call.get
    match request.prior db with
    | some prior => do
      Call.ensure (prior.requestFingerprint = some request.fingerprint ∧ prior.targetId = userId ∧
        prior.afterState = some state) idempotencyKeyReused
      return { user := { row.view with state := after }, replayed := true }
    | none => do
      Call.ensure (after = .suspended → userId ≠ principal.userId) protectedAdminAccount
      insertRow .adminAuditOutbox (request.intent prim env principal userId traceId policyVersion
        (some row.state.text) (some state))
      Call.modify (setState userId row.state after env.now)
      if row.state = after then pure ⟨⟩ else Call.modify (revokeUserSessions userId env.now)
      return { user := { row.view with state := after }, replayed := false }

def approveUser (prim : Primitives) (env : Env) (admins : List String)
    (principal : IdentityPrincipal) (userId idempotencyKey traceId policyVersion : String) :
    Statement AdminUserStateResult := do
  requireAdmin admins principal
  changeState prim env admins principal userId "active" idempotencyKey traceId policyVersion

def resetRequestOf (prim : Primitives) (principal : IdentityPrincipal)
    (userId idempotencyKey : String) : AdminRequest where
  operation := "request_password_reset"
  kind := "audit-admin-password-reset-"
  action := "identity.user.password_reset.requested"
  scope := idempotencyScope principal idempotencyKey
  fingerprint := prim.digest (joined ["admin-password-reset-v1", principal.userId, userId])

/-- `validate_target`: the login id of a user whose password an administrator may reset. -/
def validateTarget (userId : String) (row : UserRow) : Statement String := do
  Call.ensure (row.userId = userId) userNotFound
  Call.ensure (row.issuer = "local" ∧ row.state = .active) (invalidUserState 409)
  Call.ensure (row.email.isSome = true) { code := "USER_EMAIL_REQUIRED", httpStatus := 409 }
  Call.ensure (row.emailVerifiedAt.isSome = true)
    { code := "EMAIL_VERIFICATION_REQUIRED", httpStatus := 409 }
  let loginId ← Call.require (fun _ => row.loginId) invalidInput
  checkedTexts [loginId]
  return loginId

def reserveReset (prim : Primitives) (env : Env) (principal : IdentityPrincipal)
    (request : AdminRequest) (userId loginId traceId policyVersion : String) (row : UserRow) :
    Statement Bool := do
  let current ← validateTarget userId row
  Call.ensure (current = loginId) userNotFound
  let db ← Call.get
  let intent := request.intent prim env principal userId traceId policyVersion (some row.state.text)
    (some row.state.text)
  if db.Admits .adminAuditOutbox intent then do
    Call.modify fun db => db.insert .adminAuditOutbox intent
    return true
  else do
    let prior ← Call.require request.prior idempotencyKeyReused
    Call.ensure (prior.requestFingerprint = some request.fingerprint ∧ prior.targetId = userId)
      idempotencyKeyReused
    return false

structure AdminUserPasswordResetResult where
  replayed : Bool
  deriving DecidableEq

/-- `request_password_reset` of an administrator. -/
def adminRequestPasswordReset (prim : Primitives) (env : Env) (admins : List String)
    (principal : IdentityPrincipal) (userId idempotencyKey traceId policyVersion : String) :
    Statement AdminUserPasswordResetResult := do
  requireAdmin admins principal
  validateOperation [userId] idempotencyKey traceId policyVersion
  Call.ensure (userId ≠ principal.userId ∧ userId ≠ initialAdminUserId) protectedAdminAccount
  let request := resetRequestOf prim principal userId idempotencyKey
  let loginId ← transaction env do
    let row ← Call.require (userOf userId) userNotFound
    validateTarget userId row
  let answer ← resetRequest prim { env with now := env.later } loginId traceId policyVersion true
    (reserveReset prim env principal request userId loginId traceId policyVersion)
  let proceeded ← Call.require (fun _ => answer) userNotFound
  return { replayed := !proceeded }

end DaonUser.Identity
