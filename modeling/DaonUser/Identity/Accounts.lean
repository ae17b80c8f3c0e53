import DaonUser.Identity.Model

/-!
# Identity: accounts

The methods of `IdentityService` that make accounts and change what they rest on: the initial
administrator, registration, the verification of an address and the reset of a password.
-/

namespace DaonUser.Identity

open Lib

/-! ## Shared statements -/

def ensureTenant (tenantId : String) (db : Db) : Db := db.insertOrIgnore .tenants tenantId

/-- One `INSERT` of `_seed_minimum_step_up_actions`. -/
def seedAction (tenantId : String) (db : Db) (action : String) : Db :=
  db.insertOrIgnore .tenantStepUpActions { tenantId, actionGroup := action, isMandatory := true }

def seedMinimumStepUpActions (tenantId : String) (db : Db) : Db :=
  minimumStepUpActionGroups.foldl (seedAction tenantId) db

def SessionRow.revoke (now : Int) (row : SessionRow) : SessionRow :=
  { row with state := .revoked, updatedAt := now }

def FamilyRow.revoke (now : Int) (row : FamilyRow) : FamilyRow :=
  { row with state := .revoked, updatedAt := now }

/-- `UPDATE refresh_families SET state='revoked'` for the sessions that meet a condition. -/
def revokeFamiliesOf (p : SessionRow → Bool) (now : Int) (db : Db) : Db :=
  db.update .refreshFamilies
    (fun family => (db .sessions).any fun row => p row && row.sessionId = family.sessionId)
    (FamilyRow.revoke now)

def revokeUserSessions (userId : String) (now : Int) (db : Db) : Db :=
  revokeFamiliesOf (fun row => row.userId = userId) now
    (db.update .sessions (fun row => row.userId = userId) (SessionRow.revoke now))

/-- The row that `_issue_token` inserts. -/
def mailToken (prim : Primitives) (env : Env) (userId : String) (ttl : Int) : MailTokenRow where
  tokenId := env.id "tok"
  userId := userId
  tokenDigest := prim.digest (env.text "token")
  expiresAt := env.now + ttl
  createdAt := env.now

/-- `UPDATE ... SET used_at=?,attempts=attempts+1`. -/
def MailTokenRow.use (now : Int) (row : MailTokenRow) : MailTokenRow :=
  { row with usedAt := some now, attempts := row.attempts + 1 }

/-- `UPDATE users SET ... WHERE user_id=?`. -/
def writeUser (userId : String) (set : UserRow → UserRow) (db : Db) : Db :=
  db.update .users (fun row => row.userId = userId) set

/-- A new password; `required` says whether it has to be changed, when the statement does. -/
def UserRow.setPassword (digest : String) (required : Option Bool) (row : UserRow) : UserRow :=
  { row with passwordDigest := some digest,
             passwordChangeRequired := required.getD row.passwordChangeRequired }

def UserRow.verify (now : Int) (row : UserRow) : UserRow :=
  { row with emailVerifiedAt := some now, state := .active }

def useVerificationToken (tokenId : String) (now : Int) (db : Db) : Db :=
  db.update .emailVerificationTokens (fun row => row.tokenId = tokenId) (MailTokenRow.use now)

def useResetToken (tokenId : String) (now : Int) (db : Db) : Db :=
  db.update .passwordResetTokens (fun row => row.tokenId = tokenId) (MailTokenRow.use now)

def enforceMailRateLimit (env : Env) (tokens : Db → List MailTokenRow) (userId : String) :
    Statement PUnit := do
  let db ← Call.get
  let rows := (tokens db).filter fun row =>
    row.userId = userId && env.now - mailRequestWindow < row.createdAt
  -- the newest row is at least as old as the cooldown when all of them are
  Call.ensure (∀ row ∈ rows, mailRequestCooldown ≤ env.now - row.createdAt)
    { code := "RATE_LIMITED", httpStatus := 429 }
  Call.ensure (rows.length < mailRequestMaxPerWindow) { code := "RATE_LIMITED", httpStatus := 429 }

/-! ## The initial administrator -/

def isProtectedInitialAdminRecord (row : UserRow) : Bool :=
  row.userId = initialAdminUserId && row.issuer = "local" && row.subject = initialAdminUserId &&
    row.loginId = some initialAdminUserId && row.email = none && row.state = .active &&
    row.passwordDigest.any (· ≠ "")

def initialAdminMissing : IdentityError := { code := "INITIAL_ADMIN_MISSING", httpStatus := 503 }
def initialAdminConflict : IdentityError := { code := "INITIAL_ADMIN_CONFLICT", httpStatus := 503 }

/-- The row of the initial administrator, with the digest of the fixed password. -/
def initialAdmin (env : Env) : UserRow where
  userId := initialAdminUserId
  issuer := "local"
  subject := initialAdminUserId
  loginId := some initialAdminUserId
  passwordDigest := some (env.hash initialAdminPassword)
  passwordChangeRequired := true

def insertInitialAdmin (env : Env) (marked : Bool) : Statement PUnit := do
  let db ← Call.get
  match (db .users).find? fun row => row.userId = initialAdminUserId with
  | some existing => Call.ensure (isProtectedInitialAdminRecord existing = true) initialAdminConflict
  | none => do
    Call.ensure (marked = false) initialAdminMissing
    Call.ensure (∀ row ∈ db .users, row.loginId ≠ some initialAdminUserId) initialAdminConflict
    insertRow .users (initialAdmin env)

def ensureInitialAdmin (env : Env) : Statement PUnit :=
  transaction env do
    let db ← Call.get
    let marked := (db .bootstrapState).contains initialAdminBootstrapMarker
    insertInitialAdmin env marked
    Call.modify (ensureTenant initialAdminTenantId)
    Call.modify fun db => db.insertOrIgnore .memberships
      { tenantId := initialAdminTenantId, userId := initialAdminUserId, role := "personal_owner" }
    Call.modify (seedMinimumStepUpActions initialAdminTenantId)
    if marked then pure ⟨⟩ else insertRow .bootstrapState initialAdminBootstrapMarker

def requireProtectedInitialAdmin : Statement PUnit := do
  let db ← Call.get
  Call.ensure (initialAdminBootstrapMarker ∈ db .bootstrapState) initialAdminMissing
  let existing ← Call.require
    (fun db : Db => (db .users).find? fun row => row.userId = initialAdminUserId)
    initialAdminMissing
  Call.ensure (isProtectedInitialAdminRecord existing = true) initialAdminConflict

def requireInitialAdminRecoveryTarget (env : Env) : Statement String :=
  transaction env do
    requireProtectedInitialAdmin
    return initialAdminUserId

/-- The intent that `reset_initial_admin_password` leaves for the audit. -/
def resetIntent (env : Env) (traceId policyVersion : String) : AdminAuditRow where
  eventId := env.id "audit-admin-reset"
  operation := "reset_initial_password"
  idempotencyScope := none
  requestFingerprint := none
  actorId := "server-console"
  tenantId := initialAdminTenantId
  action := "identity.initial_admin_password.reset"
  targetId := initialAdminUserId
  occurredAt := env.now
  traceId := traceId
  policyVersion := policyVersion
  beforeState := none
  afterState := none

def resetInitialAdminPassword (env : Env) (traceId policyVersion : String) : Statement PUnit := do
  checkedTexts [traceId, policyVersion]
  transaction env do
    requireProtectedInitialAdmin
    Call.modify (writeUser initialAdminUserId
      (UserRow.setPassword (env.hash initialAdminPassword) (some true)))
    Call.modify (revokeUserSessions initialAdminUserId env.now)
    insertRow .adminAuditOutbox (resetIntent env traceId policyVersion)

def signup (prim : Primitives) (env : Env) (loginId emailText secret traceId policyVersion : String) :
    Statement PUnit := do
  checkedTexts [loginId]
  let address ← email prim emailText
  password secret
  checkedTexts [traceId, policyVersion]
  transaction env do
    let db ← Call.get
    let login := prim.lower loginId
    if (db .users).any fun row => row.loginId = some login || row.email = some address then
      pure ⟨⟩
    else do
      insertRow .users
        { userId := env.id "usr", issuer := "local", subject := login, loginId := some login,
          email := some address, passwordDigest := some (env.hash secret), state := .pendingEmail }
      Call.modify (ensureTenant (env.id "tenant"))
      insertRow .memberships
        { tenantId := env.id "tenant", userId := env.id "usr", role := "personal_owner" }
      Call.modify (seedMinimumStepUpActions (env.id "tenant"))
      insertRow .emailVerificationTokens (mailToken prim env (env.id "usr") verificationTokenTtl)
      sendMail env
      audit env

def verifyEmail (prim : Primitives) (env : Env) (token traceId policyVersion : String) :
    Statement PUnit := do
  opaqueTexts [token]
  checkedTexts [traceId, policyVersion]
  transaction env do
    let row ← Call.require
      (fun db : Db => (db .emailVerificationTokens).find? fun row =>
        row.tokenDigest = prim.digest token)
      { code := "EMAIL_TOKEN_INVALID" }
    Call.ensure (row.usedAt = none ∧ env.now < row.expiresAt) { code := "EMAIL_TOKEN_INVALID" }
    Call.modify (useVerificationToken row.tokenId env.now)
    Call.modify (writeUser row.userId (UserRow.verify env.now))
    audit env

def resendVerification (prim : Primitives) (env : Env) (identifier traceId policyVersion : String) :
    Statement PUnit := do
  checkedTexts [identifier, traceId, policyVersion]
  transaction env do
    let db ← Call.get
    let value := prim.lower identifier
    match (db .users).find? fun row => row.loginId = some value || row.email = some value with
    | none => pure ⟨⟩
    | some row =>
      if row.state = .pendingEmail then do
        enforceMailRateLimit env (fun db => db .emailVerificationTokens) row.userId
        insertRow .emailVerificationTokens (mailToken prim env row.userId verificationTokenTtl)
        sendMail env
      else pure ⟨⟩

/-! ## The reset of a password -/

/-- `request_password_reset`, with what its hook answered. The hook of an administrator runs in the
same transaction and says whether to go on; it does not run when there is no such user. -/
def resetRequest (prim : Primitives) (env : Env) (identifier traceId policyVersion : String)
    (revokeSessions : Bool) (hook : UserRow → Statement Bool) : Statement (Option Bool) := do
  checkedTexts [identifier, traceId, policyVersion]
  transaction env do
    let db ← Call.get
    let value := prim.lower identifier
    match (db .users).find? fun row =>
        (row.loginId = some value || row.email = some value) && row.issuer = "local" &&
          row.emailVerifiedAt.isSome with
    | none => return none
    | some row => do
      let proceed ← hook row
      if proceed then do
        enforceMailRateLimit env (fun db => db .passwordResetTokens) row.userId
        insertRow .passwordResetTokens (mailToken prim env row.userId resetTokenTtl)
        if revokeSessions then Call.modify (revokeUserSessions row.userId env.now) else pure ⟨⟩
        sendMail env
        return some true
      else return some false

/-- `request_password_reset` of a user, without a hook. -/
def requestPasswordReset (prim : Primitives) (env : Env) (identifier traceId policyVersion : String)
    (revokeSessions : Bool) : Statement (Option Bool) :=
  resetRequest prim env identifier traceId policyVersion revokeSessions fun _ => return true

def resetTokenOf (prim : Primitives) (token : String) (db : Db) : Option MailTokenRow :=
  (db .passwordResetTokens).find? fun row => row.tokenDigest = prim.digest token

/-- `confirm_password_reset`. Its last two statements are those of `revoke_user_sessions`. -/
def confirmPasswordReset (prim : Primitives) (env : Env)
    (token newPassword traceId policyVersion : String) : Statement PUnit := do
  opaqueTexts [token]
  password newPassword
  checkedTexts [traceId, policyVersion]
  transaction env do
    let row ← Call.require (resetTokenOf prim token) { code := "PASSWORD_RESET_TOKEN_INVALID" }
    Call.ensure (row.usedAt = none ∧ env.now < row.expiresAt)
      { code := "PASSWORD_RESET_TOKEN_INVALID" }
    Call.modify (writeUser row.userId (UserRow.setPassword (env.hash newPassword) none))
    Call.modify (useResetToken row.tokenId env.now)
    Call.modify (revokeUserSessions row.userId env.now)

end DaonUser.Identity
