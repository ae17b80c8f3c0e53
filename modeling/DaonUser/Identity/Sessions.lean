import DaonUser.Identity.StepUp

/-!
# Identity: sessions and devices

How sessions are opened (local logins, OIDC logins, the switch to another tenant), renewed and
revoked, and how devices are trusted and revoked.
-/

namespace DaonUser.Identity

open Lib

structure SessionCredentials where
  accessToken : String
  refreshToken : Option String
  userId : String
  sessionId : String
  deviceId : String
  tenantId : String
  clientKind : ClientKind
  delivery : String
  deriving DecidableEq

/-- The `delivery` of the credentials of a new session. -/
def ClientKind.delivery : ClientKind → String
  | .web => "web_session_cookie_boundary_m4_05"
  | .native => "native_opaque_refresh_rotation"

def authenticationRequired : IdentityError := { code := "AUTHENTICATION_REQUIRED", httpStatus := 401 }

/-! ## New sessions -/

structure Opening where
  tenantId : String
  userId : String
  platform : DevicePlatform
  clientKind : ClientKind
  openedAt : Int
  accessExpiresAt : Int

namespace Opening

variable (prim : Primitives) (env : Env) (o : Opening)

def device : DeviceRow where
  deviceId := env.id "dev"
  tenantId := o.tenantId
  userId := o.userId
  platform := o.platform
  lastSeenAt := o.openedAt
  createdAt := o.openedAt
  updatedAt := o.openedAt

def session : SessionRow where
  sessionId := env.id "ses"
  tenantId := o.tenantId
  userId := o.userId
  deviceId := env.id "dev"
  clientKind := o.clientKind
  accessDigest := prim.digest (env.text "access")
  accessExpiresAt := o.accessExpiresAt
  createdAt := o.openedAt
  updatedAt := o.openedAt

def family : FamilyRow where
  familyId := env.id "fam"
  sessionId := env.id "ses"
  createdAt := o.openedAt
  updatedAt := o.openedAt

def refresh : RefreshRow where
  refreshId := env.id "ref"
  familyId := env.id "fam"
  refreshDigest := prim.digest (env.text "refresh")
  expiresAt := o.openedAt + refreshTtl
  createdAt := o.openedAt

def credentials : SessionCredentials where
  accessToken := env.text "access"
  refreshToken := match o.clientKind with
    | .web => none
    | .native => some (env.text "refresh")
  userId := o.userId
  sessionId := env.id "ses"
  deviceId := env.id "dev"
  tenantId := o.tenantId
  clientKind := o.clientKind
  delivery := o.clientKind.delivery

def openFamily : Statement PUnit :=
  match o.clientKind with
  | .web => pure ⟨⟩
  | .native => do
    insertRow .refreshFamilies (o.family env)
    insertRow .refreshTokens (o.refresh prim env)

def openSession : Statement PUnit := do
  insertRow .devices (o.device env)
  insertRow .sessions (o.session prim env)
  o.openFamily prim env

end Opening

/-! ## Local logins -/

/-- The order in which a login prefers the tenants of a user. -/
def membershipOrder (a b : MembershipRow) : Prop :=
  (a.role = "personal_owner" ∧ b.role ≠ "personal_owner") ∨
    ((a.role = "personal_owner" ↔ b.role = "personal_owner") ∧ a.tenantId ≤ b.tenantId)

instance membershipOrderDecidable : DecidableRel membershipOrder := fun _ _ => inferInstanceAs (Decidable (_ ∨ _))

def loginTenant (userId : String) (db : Db) : Option String :=
  ((((db .memberships).filter fun row => row.userId = userId).insertionSort
    membershipOrder).head?).map MembershipRow.tenantId

def localUser (login : String) (db : Db) : Option UserRow :=
  (db .users).find? fun row => row.loginId = some login && row.issuer = "local"

def authenticates (prim : Primitives) (secret : String) (unverified : UserRow → Bool)
    (row : UserRow) : Bool :=
  row.passwordDigest.any (fun digest => prim.verify digest secret) &&
    (row.emailVerifiedAt.isSome || unverified row) && row.state = .active

/-- The initial administrator with the fixed password, which no policy is asked about. -/
def isInitialAdminLogin (secret : String) (row : UserRow) : Bool :=
  row.userId = initialAdminUserId && row.passwordChangeRequired && secret = initialAdminPassword

def localLogin (prim : Primitives) (env : Env) (loginId secret : String) (platform : DevicePlatform)
    (traceId policyVersion : String) : Statement SessionCredentials := do
  checkedTexts [loginId]
  Call.ensure (isPresented secret = true) { code := "PASSWORD_POLICY_FAILED" }
  checkedTexts [traceId, policyVersion]
  transaction env do
    let db ← Call.get
    let found := localUser (prim.lower loginId) db
    Call.ensure (found.any (isInitialAdminLogin secret) = true ∨ isPassword secret = true)
      { code := "PASSWORD_POLICY_FAILED" }
    let user ← Call.require (fun _ => found.filter (authenticates prim secret fun row =>
      row.userId = initialAdminUserId)) authenticationRequired
    let tenantId ← Call.require (loginTenant user.userId) authenticationRequired
    let opening : Opening :=
      { tenantId, userId := user.userId, platform, clientKind := .web, openedAt := env.now,
        accessExpiresAt := webSessionExpiry }
    opening.openSession prim env
    audit env
    return opening.credentials env

def localNativeLogin (prim : Primitives) (env : Env)
    (loginId secret traceId policyVersion : String) : Statement SessionCredentials := do
  checkedTexts [loginId]
  password secret
  checkedTexts [traceId, policyVersion]
  transaction env do
    let db ← Call.get
    let user ← Call.require (fun _ => (localUser (prim.lower loginId) db).filter
      (authenticates prim secret fun _ => false)) authenticationRequired
    let tenantId ← Call.require (loginTenant user.userId) authenticationRequired
    let opening : Opening :=
      { tenantId, userId := user.userId, platform := .windows, clientKind := .native,
        openedAt := env.now, accessExpiresAt := env.now + accessTtl }
    opening.openSession prim env
    audit env
    return opening.credentials env

/-! ## OIDC logins -/

structure OidcClientPolicy where
  issuer : String
  clientId : String
  audience : String
  redirectUris : List String
  clientKind : ClientKind
  tenantId : String
  deriving DecidableEq

structure VerifiedOidcClaims where
  verificationComplete : Bool
  issuer : String
  audience : String
  subject : String
  nonce : String
  /-- Absent when it is no moment in UTC. -/
  expiresAt : Option Int
  deriving DecidableEq

/-- What `exchange_verified` of the provider answers. -/
inductive ProviderAnswer where
  | claims (value : VerifiedOidcClaims)
  | other
  | raised
  deriving DecidableEq

structure OidcLoginStart where
  transactionId : String
  state : String
  nonce : String
  codeVerifier : String
  codeChallenge : String
  expiresAt : Int
  deriving DecidableEq

/-- `_policy`. -/
def hasPolicy (policies : List OidcClientPolicy)
    (issuer clientId audience redirectUri : String) (clientKind : ClientKind) (tenantId : String) :
    Bool :=
  policies.any fun policy =>
    policy.issuer = issuer && policy.clientId = clientId && policy.audience = audience &&
      policy.redirectUris.contains redirectUri && policy.clientKind = clientKind &&
      policy.tenantId = tenantId

def beginOidcLogin (prim : Primitives) (env : Env) (policies : List OidcClientPolicy)
    (issuer clientId audience redirectUri : String) (clientKind : ClientKind)
    (tenantId traceId policyVersion : String) : Statement OidcLoginStart := do
  opaqueTexts [issuer, redirectUri]
  checkedTexts [clientId, audience, tenantId, traceId, policyVersion]
  Call.ensure (hasPolicy policies issuer clientId audience redirectUri clientKind tenantId = true)
    { code := "OIDC_POLICY_DENIED", httpStatus := 403 }
  let challenge := prim.challenge (env.text "verifier")
  transaction env do
    Call.modify (ensureTenant tenantId)
    insertRow .oidcTransactions
      { transactionId := env.id "oidc", stateDigest := prim.digest (env.text "state"),
        nonceDigest := prim.digest (env.text "nonce"), codeChallenge := challenge, issuer, clientId,
        audience, redirectUri, clientKind, tenantId, expiresAt := env.now + oidcTransactionTtl,
        createdAt := env.now }
    audit env
    return { transactionId := env.id "oidc", state := env.text "state", nonce := env.text "nonce",
             codeVerifier := env.text "verifier", codeChallenge := challenge,
             expiresAt := env.now + oidcTransactionTtl }

def VerifiedOidcClaims.Match (prim : Primitives) (claims : VerifiedOidcClaims) (row : OidcRow) :
    Prop :=
  claims.verificationComplete = true ∧ claims.issuer = row.issuer ∧
    claims.audience = row.audience ∧ prim.digest claims.nonce = row.nonceDigest

instance matchDecidable (prim : Primitives) (claims : VerifiedOidcClaims) (row : OidcRow) :
    Decidable (claims.Match prim row) :=
  inferInstanceAs (Decidable (_ ∧ _))

/-- The checks of what the provider answers; each failure is audited as a denial. -/
def checkedClaims (prim : Primitives) (env : Env) (row : OidcRow) (answer : ProviderAnswer) :
    Statement VerifiedOidcClaims :=
  match answer with
  | .raised => deny env "OIDC_PROVIDER_REJECTED" 401
  | .other => deny env "OIDC_CLAIMS_INVALID" 401
  | .claims claims =>
    if claims.Match prim row then
      match claims.expiresAt with
      | none => Call.raise { code := "INVALID_TIME" }
      | some expiresAt =>
        if env.now < expiresAt then do
          opaqueTexts [claims.subject]
          return claims
        else deny env "OIDC_CLAIMS_EXPIRED" 401
    else deny env "OIDC_CLAIMS_INVALID" 401

def subjectUser (issuer subject : String) (db : Db) : Option UserRow :=
  (db .users).find? fun row => row.issuer = issuer && row.subject = subject

/-- The user of the claims, made when there is none. The state of one that is there is not looked
at. -/
def claimedUser (env : Env) (claims : VerifiedOidcClaims) : Statement String := do
  let db ← Call.get
  match subjectUser claims.issuer claims.subject db with
  | some user => return user.userId
  | none => do
    insertRow .users
      { userId := env.id "usr", issuer := claims.issuer, subject := claims.subject }
    return env.id "usr"

def unusedTransaction (prim : Primitives) (state : String) (db : Db) : Option OidcRow :=
  ((db .oidcTransactions).find? fun row => row.stateDigest = prim.digest state).filter fun row =>
    row.usedAt.isNone

def OidcRow.use (now : Int) (row : OidcRow) : OidcRow := { row with usedAt := some now }

def useOidc (transactionId : String) (now : Int) (db : Db) : Db :=
  db.update .oidcTransactions (fun row => row.transactionId = transactionId && row.usedAt.isNone)
    (OidcRow.use now)

def completeOidcLogin (prim : Primitives) (env : Env)
    (state authorizationCode codeVerifier clientId redirectUri : String) (provider : ProviderAnswer)
    (platform : DevicePlatform) (traceId policyVersion : String) : Statement SessionCredentials := do
  opaqueTexts [state, authorizationCode, codeVerifier, redirectUri]
  checkedTexts [clientId, traceId, policyVersion]
  transaction env do
    let db ← Call.get
    match unusedTransaction prim state db with
    | none => deny env "OIDC_STATE_INVALID" 401
    | some row =>
      if row.expiresAt ≤ env.now then deny env "OIDC_TRANSACTION_EXPIRED" 401
      else if clientId ≠ row.clientId ∨ redirectUri ≠ row.redirectUri then
        deny env "OIDC_POLICY_DENIED" 403
      else if codeVerifier.toList.any fun c => 128 ≤ c.toNat then
        Call.raise { code := "UnicodeEncodeError", httpStatus := 500 }
      else if prim.challenge codeVerifier ≠ row.codeChallenge then deny env "OIDC_PKCE_INVALID" 401
      else do
        let claims ← checkedClaims prim env row provider
        Call.modify (useOidc row.transactionId env.now)
        let userId ← claimedUser env claims
        Call.modify fun db => db.insertOrIgnore .memberships
          { tenantId := row.tenantId, userId, role := "member" }
        Call.modify (seedMinimumStepUpActions row.tenantId)
        let opening : Opening :=
          { tenantId := row.tenantId, userId, platform, clientKind := row.clientKind,
            openedAt := env.now, accessExpiresAt := env.now + accessTtl }
        opening.openSession prim env
        audit env
        return opening.credentials env

def revokeSessionRow (sessionId : String) (now : Int) (db : Db) : Db :=
  let db : Db := db.update .sessions (fun row => row.sessionId = sessionId && row.state = .active)
    (SessionRow.revoke now)
  db.update .refreshFamilies (fun family => family.sessionId = sessionId) (FamilyRow.revoke now)

def SessionRow.sameCredentials (row : SessionRow) (accessToken : String) : SessionCredentials where
  accessToken := accessToken
  refreshToken := none
  userId := row.userId
  sessionId := row.sessionId
  deviceId := row.deviceId
  tenantId := row.tenantId
  clientKind := row.clientKind
  delivery := match row.clientKind with
    | .native => "native_https_opaque_bearer"
    | .web => "web_session_cookie_boundary_m4_05"

def switchIntent (env : Env) (prior : SessionRow) (tenantId traceId policyVersion : String) :
    TenantSwitchRow where
  eventId := env.id "audit"
  priorSessionId := prior.sessionId
  newSessionId := env.id "ses"
  priorTenantId := prior.tenantId
  targetTenantId := tenantId
  actorId := prior.userId
  occurredAt := env.now
  traceId := traceId
  policyVersion := policyVersion

def moveSession (prim : Primitives) (env : Env) (prior : SessionRow)
    (tenantId traceId policyVersion : String) : Statement SessionCredentials := do
  let device ← Call.require (fun db : Db => (db .devices).find? fun row =>
    row.deviceId = prior.deviceId && row.userId = prior.userId) accessInvalid
  let opening : Opening :=
    { tenantId, userId := prior.userId, platform := device.platform,
      clientKind := prior.clientKind, openedAt := env.now,
      accessExpiresAt := match prior.clientKind with
        | .web => webSessionExpiry
        | .native => env.now + accessTtl }
  opening.openSession prim env
  Call.modify (revokeSessionRow prior.sessionId env.now)
  insertRow .sessionTenantSwitchOutbox (switchIntent env prior tenantId traceId policyVersion)
  return opening.credentials env

def switchSessionTenant (prim : Primitives) (env : Env)
    (accessToken tenantId traceId policyVersion : String) :
    Statement (SessionCredentials × String) := do
  checkedTexts [tenantId, traceId, policyVersion]
  transaction env do
    let prior ← principal prim accessToken env.now
    let choices ← selectableTenantWorkspaces prior.userId
    let choice ← Call.require (fun _ => choices.find? fun tenant => tenant.tenantId = tenantId)
      { code := "TENANT_UNAVAILABLE", httpStatus := 404 }
    if tenantId = prior.tenantId then return (prior.sameCredentials accessToken, choice.workspaceId)
    else do
      let credentials ← moveSession prim env prior tenantId traceId policyVersion
      return (credentials, choice.workspaceId)

/-! ## Passwords and refresh tokens -/

def changeCurrentPassword (prim : Primitives) (env : Env)
    (accessToken currentPassword newPassword traceId policyVersion : String) : Statement PUnit := do
  password newPassword
  checkedTexts [traceId, policyVersion]
  Call.ensure (isPresented currentPassword = true) authenticationRequired
  transaction env do
    let row ← principal prim accessToken env.now
    let user ← Call.require (fun db : Db => (db .users).find? fun user =>
      user.userId = row.userId && user.issuer = "local") authenticationRequired
    Call.ensure (user.passwordDigest.any (fun digest => prim.verify digest currentPassword) = true)
      authenticationRequired
    Call.modify (writeUser row.userId (UserRow.setPassword (env.hash newPassword) (some false)))
    Call.modify (revokeUserSessions row.userId env.now)
    audit env

/-- A refresh token with its family and its session, as `rotate_refresh` joins them. -/
def refreshOf (prim : Primitives) (refreshToken : String) (db : Db) :
    Option (RefreshRow × FamilyRow × SessionRow) :=
  ((db .refreshTokens).find? fun row => row.refreshDigest = prim.digest refreshToken).bind fun row =>
    ((db .refreshFamilies).find? fun family => family.familyId = row.familyId).bind fun family =>
      ((db .sessions).find? fun session => session.sessionId = family.sessionId).map fun session =>
        (row, family, session)

def revokeFamily (familyId sessionId : String) (now : Int) (db : Db) : Db :=
  let db : Db := db.update .refreshFamilies (fun family => family.familyId = familyId)
    (FamilyRow.revoke now)
  db.update .sessions (fun row => row.sessionId = sessionId) (SessionRow.revoke now)

def nextRefresh (prim : Primitives) (env : Env) (familyId : String) : RefreshRow where
  refreshId := env.id "ref"
  familyId := familyId
  refreshDigest := prim.digest (env.text "refresh")
  expiresAt := env.now + refreshTtl
  createdAt := env.now

def RefreshRow.use (now : Int) (row : RefreshRow) : RefreshRow := { row with usedAt := some now }

def useRefresh (refreshId : String) (now : Int) (db : Db) : Db :=
  db.update .refreshTokens (fun row => row.refreshId = refreshId && row.usedAt.isNone)
    (RefreshRow.use now)

def SessionRow.renew (accessDigest : String) (now : Int) (row : SessionRow) : SessionRow :=
  { row with accessDigest, accessExpiresAt := now + accessTtl, updatedAt := now }

def renewed (sessionId accessDigest : String) (now : Int) (db : Db) : Db :=
  db.update .sessions (fun row => row.sessionId = sessionId) (SessionRow.renew accessDigest now)

/-- `UPDATE sessions SET access_digest=?,access_expires_at=?,updated_at=?`. -/
def renewSession (prim : Primitives) (env : Env) (sessionId : String) : Statement PUnit := do
  let db ← Call.get
  Call.ensure (∀ row ∈ db .sessions, row.sessionId = sessionId ∨
    row.accessDigest ≠ prim.digest (env.text "access")) persistenceUnavailable
  Call.modify (renewed sessionId (prim.digest (env.text "access")) env.now)

def rotatedCredentials (env : Env) (row : SessionRow) : SessionCredentials where
  accessToken := env.text "access"
  refreshToken := some (env.text "refresh")
  userId := row.userId
  sessionId := row.sessionId
  deviceId := row.deviceId
  tenantId := row.tenantId
  clientKind := .native
  delivery := "native_opaque_refresh_rotation"

/-- The transaction of `rotate_refresh`; a replay commits and yields no credentials. -/
def rotation (prim : Primitives) (env : Env) (refreshToken : Option String) :
    Statement (Option SessionCredentials) := do
  let db ← Call.get
  match (refreshToken.filter isOpaqueText).bind fun token => refreshOf prim token db with
  | none => deny env "REFRESH_INVALID" 401
  | some (refresh, family, session) =>
    if refresh.usedAt.isSome then do
      Call.modify (revokeFamily family.familyId session.sessionId env.now)
      audit env
      return none
    else if family.state ≠ .active ∨ session.state ≠ .active then deny env "SESSION_REVOKED" 401
    else if refresh.expiresAt ≤ env.now then deny env "REFRESH_EXPIRED" 401
    else do
      Call.modify (useRefresh refresh.refreshId env.now)
      renewSession prim env session.sessionId
      insertRow .refreshTokens (nextRefresh prim env family.familyId)
      audit env
      return some (rotatedCredentials env session)

def rotateRefresh (prim : Primitives) (env : Env) (refreshToken : Option String)
    (traceId policyVersion : String) : Statement SessionCredentials := do
  checkedTexts [traceId, policyVersion]
  let credentials ← transaction env (rotation prim env refreshToken)
  Call.require (fun _ => credentials) { code := "REFRESH_REPLAYED", httpStatus := 401 }

/-- `CurrentSessionLogoutEvent`. -/
structure Logout where
  replayed : Bool
  deriving DecidableEq

def logoutIntent (prim : Primitives) (env : Env) (row : SessionRow) (traceId policyVersion : String) :
    SelfLogoutRow where
  eventId := "audit-self-logout-" ++
    String.ofList ((prim.digest ("SELF_LOGOUT\x00" ++ row.sessionId)).toList.take 32)
  sessionId := row.sessionId
  tenantId := row.tenantId
  actorId := row.userId
  occurredAt := env.now
  traceId := traceId
  policyVersion := policyVersion

/-- `revoke_current_web_session` and `revoke_current_native_session`: revoke the session of the token
unless `ended` says that it is over. -/
def revokeCurrentSession (prim : Primitives) (env : Env) (clientKind : ClientKind)
    (ended : SessionRow → Bool) (accessToken policyVersion traceId : String) : Statement Logout := do
  checkedTexts [policyVersion, traceId]
  Call.ensure (isOpaqueText accessToken = true) accessInvalid
  transaction env do
    let row ← Call.require (fun db => (sessionOf prim accessToken db).filter fun row =>
      row.clientKind = clientKind) accessInvalid
    if ended row then return { replayed := true }
    else do
      Call.modify (revokeSessionRow row.sessionId env.now)
      insertRow .sessionAuditOutbox (logoutIntent prim env row traceId policyVersion)
      return { replayed := false }

def revokeCurrentWebSession (prim : Primitives) (env : Env)
    (accessToken policyVersion traceId : String) : Statement Logout :=
  revokeCurrentSession prim env .web
    (fun row => row.state ≠ .active || row.accessExpiresAt ≤ env.now) accessToken policyVersion
    traceId

def revokeCurrentNativeSession (prim : Primitives) (env : Env)
    (accessToken policyVersion traceId : String) : Statement Logout :=
  revokeCurrentSession prim env .native (fun row => row.state ≠ .active) accessToken policyVersion
    traceId

/-! ## Targets of a user -/

/-- `_owned_account_target`, for devices. -/
def ownedDevice (row : SessionRow) (deviceId : String) (db : Db) : Bool :=
  (db .devices).any fun device =>
    device.deviceId = deviceId && device.tenantId = row.tenantId && device.userId = row.userId &&
      device.state ≠ .revoked

/-- `_owned_account_target`, for sessions. A session that is not revoked is active. -/
def ownedSession (row : SessionRow) (sessionId : String) (db : Db) : Bool :=
  (db .sessions).any fun session =>
    session.sessionId = sessionId && session.tenantId = row.tenantId &&
      session.userId = row.userId && session.state ≠ .revoked

def DeviceRow.trust (now : Int) (row : DeviceRow) : DeviceRow :=
  { row with state := .trusted, updatedAt := now }

def trustRows (deviceId : String) (now : Int) (db : Db) : Db :=
  db.update .devices (fun row => row.deviceId = deviceId) (DeviceRow.trust now)

def trustDevice (prim : Primitives) (env : Env)
    (accessToken deviceId traceId policyVersion : String) : Statement PUnit := do
  checkedTexts [deviceId, traceId, policyVersion]
  transaction env do
    let row ← principal prim accessToken env.now
    let db ← Call.get
    if row.deviceId ≠ deviceId then deny env "DEVICE_BINDING_DENIED" 403
    else if ownedDevice row deviceId db = false then deny env "DEVICE_TARGET_UNAVAILABLE" 404
    else do
      Call.modify (trustRows deviceId env.now)
      audit env

def revokeGroup : String := "device_session_or_sync_key_revoke"

def revokeSession (prim : Primitives) (env : Env) (accessToken sessionId : String)
    (stepUpAuthorization : Option String) (policyVersion traceId : String) : Statement PUnit := do
  checkedTexts [sessionId, policyVersion, traceId]
  transaction env do
    let row ← principal prim accessToken env.now
    let db ← Call.get
    if ownedSession row sessionId db = false then deny env "SESSION_TARGET_UNAVAILABLE" 404
    else do
      consumeGrant prim env stepUpAuthorization (row.binding revokeGroup sessionId policyVersion)
        none none
      Call.modify (revokeSessionRow sessionId env.now)
      audit env

def DeviceRow.revoke (now : Int) (row : DeviceRow) : DeviceRow :=
  { row with state := .revoked, updatedAt := now }

def DeviceRow.isTarget (deviceId tenantId userId : String) (row : DeviceRow) : Bool :=
  row.deviceId = deviceId && row.tenantId = tenantId && row.userId = userId

def SessionRow.isOnDevice (deviceId tenantId userId : String) (row : SessionRow) : Bool :=
  row.deviceId = deviceId && row.tenantId = tenantId && row.userId = userId

/-- The statements of `_revoke_device_in_transaction`. -/
def revokeDeviceRows (deviceId tenantId userId : String) (now : Int) (db : Db) : Db :=
  let db : Db := db.update .devices (DeviceRow.isTarget deviceId tenantId userId)
    (DeviceRow.revoke now)
  let db : Db := db.update .sessions (SessionRow.isOnDevice deviceId tenantId userId)
    (SessionRow.revoke now)
  revokeFamiliesOf (SessionRow.isOnDevice deviceId tenantId userId) now db

def revokeDevice (prim : Primitives) (env : Env) (accessToken deviceId : String)
    (stepUpAuthorization : Option String) (policyVersion traceId : String) : Statement PUnit := do
  checkedTexts [deviceId, policyVersion, traceId]
  transaction env do
    let row ← principal prim accessToken env.now
    let db ← Call.get
    Call.ensure (ownedDevice row deviceId db = true)
      { code := "DEVICE_TARGET_UNAVAILABLE", httpStatus := 404 }
    consumeGrant prim env stepUpAuthorization (row.binding revokeGroup deviceId policyVersion)
      none none
    Call.modify (revokeDeviceRows deviceId row.tenantId row.userId env.now)
    audit env

end DaonUser.Identity
