import DaonUser.Base
import DaonUser.Lib.Sql

/-!
# Identity: the rows and what the services ask of their environment

The tables of `SqliteIdentityRepository` with the columns that its services read, the keys of each table,
and the checks of arguments. A moment is the number of microseconds since the epoch, as `_dt` reads back
what `_iso` writes.

Digests, password hashes and random texts are parameters: `Primitives` are functions of their arguments,
`Env` is what one call meets.
-/

namespace DaonUser.Identity

open Lib

/-- `IdentityError`. An exception of another class stands here with the name of its class. -/
structure IdentityError where
  code : String
  httpStatus : Nat := 400
  deriving DecidableEq

def persistenceUnavailable : IdentityError := { code := "PERSISTENCE_UNAVAILABLE", httpStatus := 503 }

/-! ## Constants -/

def passwordMinLength : Nat := 12
def initialAdminUserId : String := "admin"
def initialAdminTenantId : String := "admin"
def initialAdminPassword : String := "admin"
def initialAdminBootstrapMarker : String := "initial_admin_v1"
def mailRequestCooldown : Int := 60000000
def mailRequestWindow : Int := 3600000000
def mailRequestMaxPerWindow : Nat := 3
def verificationTokenTtl : Int := 86400000000
def resetTokenTtl : Int := 1800000000
def oidcTransactionTtl : Int := 300000000
def accessTtl : Int := 3600000000

/-- `WEB_SESSION_EXPIRY`: the last moment that a `datetime` can name. -/
def webSessionExpiry : Int := 253402300799999999

def refreshTtl : Int := 2592000000000
def defaultStepUpTtlSeconds : Int := 300
def maxStepUpTtlSeconds : Int := 600
def stepUpTokenKeyId : String := "daon-step-up-hmac"
def stepUpTokenKeyVersion : Nat := 1

def minimumStepUpActionGroups : List String :=
  ["external_transfer", "data_area_move", "external_share_or_download",
    "final_approval_or_knowledge_registration", "organization_security_or_connector_policy_change",
    "device_session_or_sync_key_revoke", "permanent_delete_or_restore_rollback"]

/-! ## Rows -/

inductive ClientKind where
  | web
  | native
  deriving DecidableEq

inductive DevicePlatform where
  | web
  | windows
  | android
  | ios
  deriving DecidableEq

inductive UserState where
  | active
  | pendingEmail
  | pendingApproval
  | suspended
  deriving DecidableEq

def UserState.text : UserState → String
  | .active => "active"
  | .pendingEmail => "pending_email"
  | .pendingApproval => "pending_approval"
  | .suspended => "suspended"

inductive DeviceState where
  | registered
  | trusted
  | revoked
  deriving DecidableEq

inductive SessionState where
  | active
  | revoked
  deriving DecidableEq

structure UserRow where
  userId : String
  issuer : String
  subject : String
  loginId : Option String := none
  email : Option String := none
  passwordDigest : Option String := none
  emailVerifiedAt : Option Int := none
  passwordChangeRequired : Bool := false
  state : UserState := .active
  deriving DecidableEq

/-- A row of `email_verification_tokens` or of `password_reset_tokens`. -/
structure MailTokenRow where
  tokenId : String
  userId : String
  tokenDigest : String
  expiresAt : Int
  usedAt : Option Int := none
  attempts : Nat := 0
  createdAt : Int
  deriving DecidableEq

structure MembershipRow where
  tenantId : String
  userId : String
  role : String
  deriving DecidableEq

structure DeviceRow where
  deviceId : String
  tenantId : String
  userId : String
  platform : DevicePlatform
  state : DeviceState := .registered
  lastSeenAt : Int
  createdAt : Int
  updatedAt : Int
  deriving DecidableEq

structure SessionRow where
  sessionId : String
  tenantId : String
  userId : String
  deviceId : String
  clientKind : ClientKind
  accessDigest : String
  accessExpiresAt : Int
  state : SessionState := .active
  createdAt : Int
  updatedAt : Int
  deriving DecidableEq

structure FamilyRow where
  familyId : String
  sessionId : String
  state : SessionState := .active
  createdAt : Int
  updatedAt : Int
  deriving DecidableEq

structure RefreshRow where
  refreshId : String
  familyId : String
  refreshDigest : String
  expiresAt : Int
  usedAt : Option Int := none
  createdAt : Int
  deriving DecidableEq

/-- A row of `session_audit_outbox`. -/
structure SelfLogoutRow where
  eventId : String
  sessionId : String
  tenantId : String
  actorId : String
  occurredAt : Int
  traceId : String
  policyVersion : String
  deriving DecidableEq

/-- A row of `session_tenant_switch_outbox`. -/
structure TenantSwitchRow where
  eventId : String
  priorSessionId : String
  newSessionId : String
  priorTenantId : String
  targetTenantId : String
  actorId : String
  occurredAt : Int
  traceId : String
  policyVersion : String
  deriving DecidableEq

/-- A row of `admin_audit_outbox`. -/
structure AdminAuditRow where
  eventId : String
  operation : String
  idempotencyScope : Option String
  requestFingerprint : Option String
  actorId : String
  tenantId : String
  action : String
  targetId : String
  occurredAt : Int
  traceId : String
  policyVersion : String
  beforeState : Option String
  afterState : Option String
  deriving DecidableEq

structure OidcRow where
  transactionId : String
  stateDigest : String
  nonceDigest : String
  codeChallenge : String
  issuer : String
  clientId : String
  audience : String
  redirectUri : String
  clientKind : ClientKind
  tenantId : String
  expiresAt : Int
  usedAt : Option Int := none
  createdAt : Int
  deriving DecidableEq

structure AndroidRow where
  transactionId : String
  clientId : String
  redirectUri : String
  state : String
  codeChallenge : String
  expiresAt : Int
  createdAt : Int
  codeDigest : Option String := none
  codeExpiresAt : Option Int := none
  userId : Option String := none
  tenantId : Option String := none
  authorizedAt : Option Int := none
  usedAt : Option Int := none
  deriving DecidableEq

structure StepUpActionRow where
  tenantId : String
  actionGroup : String
  isMandatory : Bool
  deriving DecidableEq

structure StepUpRow where
  stepUpId : String
  authorizationDigest : String
  tenantId : String
  actorId : String
  sessionId : String
  deviceId : String
  actionGroup : String
  targetId : String
  policyVersion : String
  issuedAt : Int
  expiresAt : Int
  usedAt : Option Int := none
  deriving DecidableEq

structure StepUpIdempotencyRow where
  tenantId : String
  actorId : String
  idempotencyKey : String
  requestFingerprint : String
  stepUpId : String
  authorizationDigest : String
  actionGroup : String
  targetId : String
  policyVersion : String
  keyId : String
  keyVersion : Nat
  issuedAt : Int
  expiresAt : Int
  deriving DecidableEq

structure ConsumptionRow where
  tenantId : String
  actorId : String
  operation : String
  idempotencyKey : String
  requestFingerprint : String
  stepUpId : String
  consumedAt : Int
  deriving DecidableEq

/-- A row of `auth_workspaces`. -/
structure WorkspaceRow where
  workspaceId : String
  tenantId : String
  workspaceKind : String
  dataArea : String
  deriving DecidableEq

/-- A row of `auth_tenant_roles`. -/
structure TenantRoleRow where
  tenantId : String
  userId : String
  role : String
  state : String
  deriving DecidableEq

/-- A row of `auth_memberships`. -/
structure AuthMembershipRow where
  tenantId : String
  workspaceId : String
  userId : String
  role : String
  state : String
  deriving DecidableEq

/-- A row of `tenant_memberships`, the workflow of organizations. -/
structure WorkflowRow where
  tenantId : String
  userId : String
  state : String
  deriving DecidableEq

/-! ## Tables -/

inductive Table where
  | tenants
  | users
  | bootstrapState
  | emailVerificationTokens
  | passwordResetTokens
  | memberships
  | devices
  | sessions
  | refreshFamilies
  | refreshTokens
  | sessionAuditOutbox
  | sessionTenantSwitchOutbox
  | adminAuditOutbox
  | oidcTransactions
  | androidAuthTransactions
  | tenantStepUpActions
  | stepUpAuthorizations
  | stepUpIdempotency
  | stepUpConsumptions
  | authWorkspaces
  | authTenantRoles
  | authMemberships
  | tenantMemberships
  deriving DecidableEq

namespace Table

@[reducible] def Row : Table → Type
  | tenants => String
  | users => UserRow
  | bootstrapState => String
  | emailVerificationTokens => MailTokenRow
  | passwordResetTokens => MailTokenRow
  | memberships => MembershipRow
  | devices => DeviceRow
  | sessions => SessionRow
  | refreshFamilies => FamilyRow
  | refreshTokens => RefreshRow
  | sessionAuditOutbox => SelfLogoutRow
  | sessionTenantSwitchOutbox => TenantSwitchRow
  | adminAuditOutbox => AdminAuditRow
  | oidcTransactions => OidcRow
  | androidAuthTransactions => AndroidRow
  | tenantStepUpActions => StepUpActionRow
  | stepUpAuthorizations => StepUpRow
  | stepUpIdempotency => StepUpIdempotencyRow
  | stepUpConsumptions => ConsumptionRow
  | authWorkspaces => WorkspaceRow
  | authTenantRoles => TenantRoleRow
  | authMemberships => AuthMembershipRow
  | tenantMemberships => WorkflowRow

def agree {α : Type} [DecidableEq α] : Option α → Option α → Bool
  | some a, some b => a = b
  | _, _ => false

def clash : (t : Table) → t.Row → t.Row → Bool
  | tenants, a, b => a = b
  | users, a, b =>
    a.userId = b.userId || (a.issuer = b.issuer && a.subject = b.subject) ||
      agree a.loginId b.loginId || agree a.email b.email
  | bootstrapState, a, b => a = b
  | emailVerificationTokens, a, b => a.tokenId = b.tokenId || a.tokenDigest = b.tokenDigest
  | passwordResetTokens, a, b => a.tokenId = b.tokenId || a.tokenDigest = b.tokenDigest
  | memberships, a, b => a.tenantId = b.tenantId && a.userId = b.userId
  | devices, a, b => a.deviceId = b.deviceId
  | sessions, a, b => a.sessionId = b.sessionId || a.accessDigest = b.accessDigest
  | refreshFamilies, a, b => a.familyId = b.familyId
  | refreshTokens, a, b => a.refreshId = b.refreshId || a.refreshDigest = b.refreshDigest
  | sessionAuditOutbox, a, b => a.eventId = b.eventId || a.sessionId = b.sessionId
  | sessionTenantSwitchOutbox, a, b =>
    a.eventId = b.eventId || a.priorSessionId = b.priorSessionId || a.newSessionId = b.newSessionId
  | adminAuditOutbox, a, b =>
    a.eventId = b.eventId ||
      (a.operation = b.operation && agree a.idempotencyScope b.idempotencyScope)
  | oidcTransactions, a, b => a.transactionId = b.transactionId || a.stateDigest = b.stateDigest
  | androidAuthTransactions, a, b =>
    a.transactionId = b.transactionId || agree a.codeDigest b.codeDigest
  | tenantStepUpActions, a, b => a.tenantId = b.tenantId && a.actionGroup = b.actionGroup
  | stepUpAuthorizations, a, b =>
    a.stepUpId = b.stepUpId || a.authorizationDigest = b.authorizationDigest
  | stepUpIdempotency, a, b =>
    a.tenantId = b.tenantId && a.actorId = b.actorId && a.idempotencyKey = b.idempotencyKey
  | stepUpConsumptions, a, b =>
    a.tenantId = b.tenantId && a.actorId = b.actorId && a.operation = b.operation &&
      a.idempotencyKey = b.idempotencyKey
  | authWorkspaces, a, b => a.workspaceId = b.workspaceId
  | authTenantRoles, a, b => a.tenantId = b.tenantId && a.userId = b.userId
  | authMemberships, a, b =>
    a.tenantId = b.tenantId && a.workspaceId = b.workspaceId && a.userId = b.userId
  | tenantMemberships, a, b => a.tenantId = b.tenantId && a.userId = b.userId

theorem agree_comm {α : Type} [DecidableEq α] (a b : Option α) : agree a b = agree b a := by
  cases a <;> cases b <;> simp [agree, eq_comm]

theorem clash_comm (t : Table) (a b : t.Row) : clash t a b = clash t b a := by
  cases t <;> simp [clash, eq_comm, agree_comm]

end Table

@[reducible] def schema : Schema where
  Table := Table
  Row := Table.Row
  clash := Table.clash
  clash_comm := Table.clash_comm

abbrev Db := Database schema

abbrev Statement (α : Type) := Call Db IdentityError α

/-! ## The environment -/

/-- `hashlib`, `hmac` and `argon2`, and `str.lower`. -/
structure Primitives where
  /-- `_digest`: the SHA-256 of a text, in hexadecimal. -/
  digest : String → String
  /-- The SHA-256 of dumped values, in hexadecimal. -/
  fingerprint : Dumped → String
  /-- The S256 code challenge of a verifier. -/
  challenge : String → String
  /-- The HMAC-SHA-256 of a text under the key of the service, in hexadecimal. -/
  hmac : String → String
  /-- `PASSWORD_HASHER.verify`. -/
  verify : String → String → Bool
  /-- `str.lower`. -/
  lower : String → String

structure Env where
  /-- The clock at its first reading. -/
  now : Int
  /-- The clock where the call reads it again. -/
  later : Int
  /-- The random text that the call draws for a purpose. -/
  text : String → String
  /-- `PASSWORD_HASHER.hash`, with the salts that it draws. -/
  hash : String → String
  /-- The audit store takes what the call appends. -/
  audits : Bool
  /-- The mail is sent. -/
  mails : Bool
  /-- The database commits. -/
  commits : Bool

def Env.id (env : Env) (kind : String) : String := kind ++ "-" ++ env.text kind

/-- `_audit`: append to the audit store, which is another store than this one. -/
def audit (env : Env) : Statement PUnit :=
  Call.ensure (env.audits = true) { code := "AUDIT_WRITE_FAILED", httpStatus := 503 }

def deny {α : Type} (env : Env) (code : String) (httpStatus : Nat) : Statement α := do
  audit env
  Call.raise { code, httpStatus }

/-- `self._email_sender.send`. -/
def sendMail (env : Env) : Statement PUnit :=
  Call.ensure (env.mails = true) { code := "EMAIL_DELIVERY_UNAVAILABLE", httpStatus := 503 }

/-- `transaction`: what the body wrote is kept when it returns and the database commits. -/
def transaction {α : Type} (env : Env) (body : Statement α) : Statement α :=
  Call.atomically do
    let a ← body
    Call.ensure (env.commits = true) persistenceUnavailable
    return a

/-- `INSERT`. -/
def insertRow (t : Table) (row : t.Row) : Statement PUnit :=
  Call.insertRow (S := schema) t row persistenceUnavailable

/-! ## Arguments -/

def invalidInput : IdentityError := { code := "INVALID_INPUT" }

/-- What `_checked_text` accepts with `opaque=True`. -/
def isOpaqueText (value : String) : Bool :=
  value ≠ "" && value.toList = stripChars isSpace value.toList && value.toList.length ≤ 512 &&
    value.toList.all fun c => 32 ≤ c.toNat

/-- What `_checked_text` accepts. -/
def isCheckedText (value : String) : Bool := isOpaqueText value && isSafeId value

/-- `_checked_text`, of some values. -/
def checkedTexts (values : List String) : Statement PUnit :=
  Call.ensure (∀ value ∈ values, isCheckedText value = true) invalidInput

/-- `_checked_text(..., opaque=True)`, of some values. -/
def opaqueTexts (values : List String) : Statement PUnit :=
  Call.ensure (∀ value ∈ values, isOpaqueText value = true) invalidInput

/-- The address that `_email` accepts: one `@` between two parts without blanks, a dot inside the
second one. -/
def isAddress (cs : List Char) : Bool :=
  let name := cs.takeWhile (· ≠ '@')
  let domain := (cs.dropWhile (· ≠ '@')).tail
  cs.all (fun c => !isSpace c) && cs.contains '@' && name ≠ [] && !domain.contains '@' &&
    (domain.tail.dropLast).contains '.'

def email (prim : Primitives) (value : String) : Statement String := do
  Call.ensure (value.toList = stripChars isSpace value.toList ∧ value.toList.length ≤ 320)
    invalidInput
  Call.ensure (isAddress (prim.lower value).toList = true) invalidInput
  return prim.lower value

/-- What `_password` accepts. -/
def isPassword (value : String) : Bool :=
  passwordMinLength ≤ value.toList.length && value.toList.length ≤ 256 &&
    value.toList.all fun c => 32 ≤ c.toNat

/-- A password that a login presents: short enough, and without control characters. -/
def isPresented (value : String) : Bool :=
  value.toList.length ≤ 256 && value.toList.all fun c => 32 ≤ c.toNat

def password (value : String) : Statement PUnit :=
  Call.ensure (isPassword value = true) { code := "PASSWORD_POLICY_FAILED" }

end DaonUser.Identity
