import DaonUser.Identity.Spec
import DaonUser.Lib.Machine

/-!
# Identity: the service as a machine

`Operation` is a call of one of the methods of `IdentityService`, `Operation.run` the method that it
calls. The machine `service` takes such calls, each with what it meets, and in between whatever the
other services write to their own tables. Every step is a run of changes (`Operation.leaves`).
-/

namespace DaonUser.Identity

open Lib

/-! ## Operations -/

inductive Operation
  | ensureInitialAdmin
  | requireInitialAdminRecoveryTarget
  | resetInitialAdminPassword (traceId policyVersion : String)
  | signup (loginId email password traceId policyVersion : String)
  | verifyEmail (token traceId policyVersion : String)
  | resendVerification (identifier traceId policyVersion : String)
  | requestPasswordReset (identifier traceId policyVersion : String) (revokeSessions : Bool)
  | confirmPasswordReset (token newPassword traceId policyVersion : String)
  | validateAccess (accessToken traceId policyVersion : String)
  | describeAccess (accessToken traceId policyVersion : String)
  | selectableTenantWorkspaces (userId : String)
  | issueStepUp (accessToken actionGroup targetId policyVersion traceId : String) (ttlSeconds : Int)
  | issueStepUpAfterReauthentication
    (accessToken password actionGroup targetId policyVersion traceId : String) (ttlSeconds : Int)
    (idempotencyKey : Option String)
  | consumeStepUp (stepUpAuthorization : Option String)
    (accessToken actionGroup targetId policyVersion traceId : String)
    (operation idempotencyKey : Option String)
  | localLogin (loginId password : String) (platform : DevicePlatform)
    (traceId policyVersion : String)
  | localNativeLogin (loginId password traceId policyVersion : String)
  | beginOidcLogin (issuer clientId audience redirectUri : String) (clientKind : ClientKind)
    (tenantId traceId policyVersion : String)
  | completeOidcLogin (state authorizationCode codeVerifier clientId redirectUri : String)
    (provider : ProviderAnswer) (platform : DevicePlatform) (traceId policyVersion : String)
  | switchSessionTenant (accessToken tenantId traceId policyVersion : String)
  | changeCurrentPassword
    (accessToken currentPassword newPassword traceId policyVersion : String)
  | rotateRefresh (refreshToken : Option String) (traceId policyVersion : String)
  | revokeCurrentWebSession (accessToken policyVersion traceId : String)
  | revokeCurrentNativeSession (accessToken policyVersion traceId : String)
  | trustDevice (accessToken deviceId traceId policyVersion : String)
  | revokeSession (accessToken sessionId : String) (stepUpAuthorization : Option String)
    (policyVersion traceId : String)
  | revokeDevice (accessToken deviceId : String) (stepUpAuthorization : Option String)
    (policyVersion traceId : String)

inductive Answer
  | done
  | recoveryTarget (userId : String)
  | reset (proceeded : Option Bool)
  | principal (value : IdentityPrincipal)
  | view (value : IdentitySessionView)
  | tenants (value : List SelectableTenant)
  | grant (value : StepUpGrant)
  | credentials (value : SessionCredentials)
  | switched (value : SessionCredentials) (workspaceId : String)
  | oidcStart (value : OidcLoginStart)
  | logout (value : Logout)
  deriving DecidableEq

/-- What `IdentityService` is constructed with. -/
structure Config where
  prim : Primitives
  policies : List OidcClientPolicy

def Operation.run (config : Config) (env : Env) : Operation → Statement Answer
  | ensureInitialAdmin => (fun _ => .done) <$> Identity.ensureInitialAdmin env
  | requireInitialAdminRecoveryTarget =>
    .recoveryTarget <$> Identity.requireInitialAdminRecoveryTarget env
  | resetInitialAdminPassword traceId policyVersion =>
    (fun _ => .done) <$> Identity.resetInitialAdminPassword env traceId policyVersion
  | signup loginId email password traceId policyVersion =>
    (fun _ => .done) <$> Identity.signup config.prim env loginId email password traceId policyVersion
  | verifyEmail token traceId policyVersion =>
    (fun _ => .done) <$> Identity.verifyEmail config.prim env token traceId policyVersion
  | resendVerification identifier traceId policyVersion =>
    (fun _ => .done) <$> Identity.resendVerification config.prim env identifier traceId policyVersion
  | requestPasswordReset identifier traceId policyVersion revokeSessions =>
    .reset <$> Identity.requestPasswordReset config.prim env identifier traceId policyVersion
      revokeSessions
  | confirmPasswordReset token newPassword traceId policyVersion =>
    (fun _ => .done) <$>
      Identity.confirmPasswordReset config.prim env token newPassword traceId policyVersion
  | validateAccess accessToken traceId policyVersion =>
    .principal <$> Identity.validateAccess config.prim env accessToken traceId policyVersion
  | describeAccess accessToken traceId policyVersion =>
    .view <$> Identity.describeAccess config.prim env accessToken traceId policyVersion
  | selectableTenantWorkspaces userId => .tenants <$> Identity.selectableTenantWorkspaces userId
  | issueStepUp accessToken actionGroup targetId policyVersion traceId ttlSeconds =>
    .grant <$> Identity.issueStepUp config.prim env accessToken actionGroup targetId policyVersion
      traceId ttlSeconds
  | issueStepUpAfterReauthentication accessToken password actionGroup targetId policyVersion traceId
      ttlSeconds idempotencyKey =>
    .grant <$> Identity.issueStepUpAfterReauthentication config.prim env accessToken password
      actionGroup targetId policyVersion traceId ttlSeconds idempotencyKey
  | consumeStepUp stepUpAuthorization accessToken actionGroup targetId policyVersion traceId operation
      idempotencyKey =>
    (fun _ => .done) <$> Identity.consumeStepUp config.prim env stepUpAuthorization accessToken
      actionGroup targetId policyVersion traceId operation idempotencyKey
  | localLogin loginId password platform traceId policyVersion =>
    .credentials <$> Identity.localLogin config.prim env loginId password platform traceId
      policyVersion
  | localNativeLogin loginId password traceId policyVersion =>
    .credentials <$> Identity.localNativeLogin config.prim env loginId password traceId policyVersion
  | beginOidcLogin issuer clientId audience redirectUri clientKind tenantId traceId policyVersion =>
    .oidcStart <$> Identity.beginOidcLogin config.prim env config.policies issuer clientId audience
      redirectUri clientKind tenantId traceId policyVersion
  | completeOidcLogin state authorizationCode codeVerifier clientId redirectUri provider platform
      traceId policyVersion =>
    .credentials <$> Identity.completeOidcLogin config.prim env state authorizationCode codeVerifier
      clientId redirectUri provider platform traceId policyVersion
  | switchSessionTenant accessToken tenantId traceId policyVersion =>
    (fun answer => .switched answer.1 answer.2) <$>
      Identity.switchSessionTenant config.prim env accessToken tenantId traceId policyVersion
  | changeCurrentPassword accessToken currentPassword newPassword traceId policyVersion =>
    (fun _ => .done) <$> Identity.changeCurrentPassword config.prim env accessToken currentPassword
      newPassword traceId policyVersion
  | rotateRefresh refreshToken traceId policyVersion =>
    .credentials <$> Identity.rotateRefresh config.prim env refreshToken traceId policyVersion
  | revokeCurrentWebSession accessToken policyVersion traceId =>
    .logout <$> Identity.revokeCurrentWebSession config.prim env accessToken policyVersion traceId
  | revokeCurrentNativeSession accessToken policyVersion traceId =>
    .logout <$> Identity.revokeCurrentNativeSession config.prim env accessToken policyVersion traceId
  | trustDevice accessToken deviceId traceId policyVersion =>
    (fun _ => .done) <$>
      Identity.trustDevice config.prim env accessToken deviceId traceId policyVersion
  | revokeSession accessToken sessionId stepUpAuthorization policyVersion traceId =>
    (fun _ => .done) <$> Identity.revokeSession config.prim env accessToken sessionId
      stepUpAuthorization policyVersion traceId
  | revokeDevice accessToken deviceId stepUpAuthorization policyVersion traceId =>
    (fun _ => .done) <$> Identity.revokeDevice config.prim env accessToken deviceId
      stepUpAuthorization policyVersion traceId

/-! ## The machine -/

def Table.isShared : Table → Bool
  | tenants => true
  | users => true
  | memberships => true
  | adminAuditOutbox => true
  | authWorkspaces => true
  | authTenantRoles => true
  | authMemberships => true
  | tenantMemberships => true
  | _ => false

def shared (rows db : Db) : Db := fun t => if t.isShared then rows t else db t

inductive Input
  | call (env : Env) (operation : Operation)
  | others (rows : Db)

/-- `IdentityService`, from an empty repository. -/
def service (config : Config) : Machine Db Input (Except IdentityError Answer) where
  init := Database.empty
  step db
    | .call env operation => operation.run config env db
    | .others rows => (.ok .done, shared rows db)

/-! ## Steps -/

section Steps

variable {permit : Permit} {config : Config} {env : Env} {db : Db}

def Operation.confirmation (config : Config) (db : Db) : Operation → Option Confirmation
  | consumeStepUp stepUpAuthorization accessToken actionGroup targetId policyVersion _ operation key =>
    confirmationOf config.prim db accessToken stepUpAuthorization actionGroup targetId policyVersion
      (ticketOf operation key)
  | revokeSession accessToken sessionId stepUpAuthorization policyVersion _ =>
    confirmationOf config.prim db accessToken stepUpAuthorization revokeGroup sessionId policyVersion
      none
  | revokeDevice accessToken deviceId stepUpAuthorization policyVersion _ =>
    confirmationOf config.prim db accessToken stepUpAuthorization revokeGroup deviceId policyVersion
      none
  | _ => none

/-- The operation brings nobody back and uses no token or grant beyond the permit. -/
def Operation.Permitted (permit : Permit) (config : Config) (env : Env) (db : Db) :
    Operation → Prop
  | verifyEmail token _ _ => ∀ row, (db .emailVerificationTokens).find? (fun row =>
      row.tokenDigest = config.prim.digest token) = some row → row.usedAt = none →
    env.now < row.expiresAt → ∀ user ∈ db .users, user.userId = row.userId → permit.revives user
  | completeOidcLogin state _ _ _ _ provider _ _ _ =>
    ∀ claims, Completes config.prim env db state provider claims → FreeClaims permit.revives db claims
  | confirmPasswordReset token _ _ _ => permit.resets (config.prim.digest token)
  | operation => permit.Confirms config.prim db env.now (operation.confirmation config db)

theorem leaves_map {α : Type} {x : Statement α} {f : α → Answer} {P : Db → Prop}
    (h : Call.Leaves x db P) : Call.Leaves (f <$> x) db P :=
  Call.leaves_bind h fun _ _ hs => hs

theorem leaves_of_runs {α : Type} {x : Statement α} {f : α → Answer}
    (h : Call.Returns x db fun _ db' => Runs permit db db') (hreverts : Call.Reverts x db) :
    Call.Leaves (f <$> x) db (Runs permit db) :=
  leaves_map (h.leaves hreverts .refl)

theorem leaves_of_entry {α : Type} {x : Statement α} {f : α → Answer} {P : α → Db → Prop}
    (h : Call.Returns x db fun a db' => Runs permit db db' ∧ P a db') (hreverts : Call.Reverts x db) :
    Call.Leaves (f <$> x) db (Runs permit db) :=
  leaves_of_runs (h.mono fun _ _ h => h.1) hreverts

theorem Operation.leaves (operation : Operation) (hpermitted : operation.Permitted permit config env db) :
    Call.Leaves (operation.run config env) db (Runs permit db) := by
  cases operation with
  | ensureInitialAdmin =>
    exact leaves_of_runs ensureInitialAdmin_runs (by simp [Identity.ensureInitialAdmin])
  | requireInitialAdminRecoveryTarget =>
    refine leaves_of_runs ?_ (by simp [Identity.requireInitialAdminRecoveryTarget])
    simp only [Identity.requireInitialAdminRecoveryTarget, requireProtectedInitialAdmin,
      returns_transaction, Call.returns_bind, Call.returns_get, Call.returns_ensure,
      Call.returns_require, Call.returns_pure]
    exact fun _ _ _ _ _ => .refl
  | resetInitialAdminPassword =>
    exact leaves_of_runs resetInitialAdminPassword_runs
      (by simp [Identity.resetInitialAdminPassword])
  | signup => exact leaves_of_runs signup_runs (by simp [Identity.signup])
  | verifyEmail => exact leaves_of_runs (verifyEmail_runs hpermitted) (by simp [Identity.verifyEmail])
  | resendVerification =>
    exact leaves_of_runs resendVerification_runs (by simp [Identity.resendVerification])
  | requestPasswordReset =>
    exact leaves_of_runs requestPasswordReset_runs
      (by simp [Identity.requestPasswordReset, resetRequest])
  | confirmPasswordReset =>
    exact leaves_of_runs (confirmPasswordReset_runs hpermitted) (by simp [Identity.confirmPasswordReset])
  | validateAccess =>
    exact leaves_of_entry validateAccess_runs (by simp [Identity.validateAccess])
  | describeAccess =>
    refine leaves_map (Call.leaves_bind ((validateAccess_runs.mono fun _ _ h => h.1).leaves
      (by simp [Identity.validateAccess]) .refl) fun _ _ hruns => ?_)
    exact Call.leaves_bind (Call.leaves_require hruns) fun _ _ hruns => hruns
  | selectableTenantWorkspaces =>
    refine leaves_map (Call.leaves_bind (Call.leaves_ensure .refl) fun _ _ hruns => ?_)
    exact hruns
  | issueStepUp => exact leaves_of_runs issueStepUp_runs (by simp [Identity.issueStepUp])
  | issueStepUpAfterReauthentication =>
    exact leaves_of_runs issueStepUpAfterReauthentication_runs
      (by simp [Identity.issueStepUpAfterReauthentication])
  | consumeStepUp =>
    exact leaves_of_runs (consumeStepUp_runs hpermitted) (by simp [Identity.consumeStepUp])
  | localLogin => exact leaves_of_entry localLogin_runs (by simp [Identity.localLogin])
  | localNativeLogin =>
    exact leaves_of_entry localNativeLogin_runs (by simp [Identity.localNativeLogin])
  | beginOidcLogin =>
    exact leaves_of_runs beginOidcLogin_runs (by simp [Identity.beginOidcLogin])
  | completeOidcLogin =>
    exact leaves_of_entry (completeOidcLogin_runs hpermitted) (by simp [Identity.completeOidcLogin])
  | switchSessionTenant =>
    exact leaves_of_entry switchSessionTenant_runs (by simp [Identity.switchSessionTenant])
  | changeCurrentPassword =>
    exact leaves_of_runs changeCurrentPassword_runs (by simp [Identity.changeCurrentPassword])
  | rotateRefresh =>
    refine leaves_map (Call.leaves_bind (Call.leaves_ensure .refl) fun _ db' hruns => ?_)
    refine Call.leaves_bind (Call.leaves_atomically ?_ hruns) fun _ _ hruns =>
      Call.leaves_require hruns
    simp only [Call.returns_bind, Call.returns_ensure, Call.returns_pure]
    exact rotation_runs.mono fun _ _ h _ => hruns.trans h.1
  | revokeCurrentWebSession =>
    exact leaves_of_runs revokeCurrentSession_runs
      (by simp [Identity.revokeCurrentWebSession, revokeCurrentSession])
  | revokeCurrentNativeSession =>
    exact leaves_of_runs revokeCurrentSession_runs
      (by simp [Identity.revokeCurrentNativeSession, revokeCurrentSession])
  | trustDevice => exact leaves_of_runs trustDevice_runs (by simp [Identity.trustDevice])
  | revokeSession =>
    exact leaves_of_runs (revokeSession_runs hpermitted) (by simp [Identity.revokeSession])
  | revokeDevice =>
    exact leaves_of_runs (revokeDevice_runs hpermitted) (by simp [Identity.revokeDevice])

theorem Operation.permitted_all (env : Env) (operation : Operation) :
    operation.Permitted .all config env db := by
  have hall : ∀ c, Permit.all.Confirms config.prim db env.now c := fun _ _ _ _ _ => trivial
  cases operation with
  | verifyEmail => exact fun _ _ _ _ _ _ _ => trivial
  | completeOidcLogin => exact fun _ _ _ _ => trivial
  | confirmPasswordReset => trivial
  | _ => exact hall _

def Answer.entrant : Answer → Option IdentityPrincipal
  | principal value => some value
  | view value => some value.principal
  | credentials value => some value.principal
  | switched value _ => some value.principal
  | _ => none

theorem live_of_answer {operation : Operation} {a : Answer} {p : IdentityPrincipal}
    (h : (service config).answer db (.call env operation) = .ok a) (hp : a.entrant = some p) :
    Live ((service config).next db (.call env operation)) p := by
  have hreturns : Call.Returns (operation.run config env) db fun a db' =>
      ∀ p, a.entrant = some p → Live db' p := by
    have hnone : ∀ {α : Type} {x : Statement α} {f : α → Answer}, (∀ a, (f a).entrant = none) →
        Call.Returns (f <$> x) db fun a db' => ∀ p, a.entrant = some p → Live db' p := by
      intro α x f hf
      rw [Call.returns_map]
      rintro a s' - p hp
      rw [hf] at hp
      cases hp
    have hsome : ∀ {α : Type} {x : Statement α} {f : α → Answer} {g : α → IdentityPrincipal},
        (∀ a, (f a).entrant = some (g a)) →
        Call.Returns x db (fun a db' => Runs Permit.all db db' ∧ Live db' (g a)) →
        Call.Returns (f <$> x) db fun a db' => ∀ p, a.entrant = some p → Live db' p := by
      intro α x f g hf hx
      rw [Call.returns_map]
      refine hx.mono fun a s' h p hp => ?_
      rw [hf, Option.some.injEq] at hp
      exact hp ▸ h.2
    cases operation with
    | validateAccess => exact hsome (fun _ => rfl) validateAccess_runs
    | describeAccess => exact hsome (fun _ => rfl) describeAccess_runs
    | localLogin => exact hsome (fun _ => rfl) localLogin_runs
    | localNativeLogin => exact hsome (fun _ => rfl) localNativeLogin_runs
    | completeOidcLogin =>
      exact hsome (fun _ => rfl) (completeOidcLogin_runs fun _ _ _ _ => trivial)
    | switchSessionTenant => exact hsome (fun _ => rfl) switchSessionTenant_runs
    | rotateRefresh => exact hsome (fun _ => rfl) rotateRefresh_runs
    | _ => exact hnone fun _ => rfl
  exact hreturns a _ (Prod.ext h rfl) p hp

end Steps

end DaonUser.Identity
