import DaonUser.Identity.Admin

/-!
# Identity: logins through the browser of an Android device

`AndroidBrowserAuthService`: a client begins a transaction, a user who is logged in on the web
authorizes it, and the client exchanges the code that this yields for a session. `authorize` and
`exchange` read the clock twice; the second reading is `env.later`.
-/

namespace DaonUser.Identity

open Lib

def transactionTtl : Int := 300000000
def codeTtl : Int := 60000000

/-- What the service is constructed with, and the functions of `urllib.parse` that it calls. -/
structure AndroidPolicy where
  /-- The redirects of every client. -/
  clients : List (String × List String)
  origin : Option String
  /-- `_https_uri`. -/
  httpsUri : String → Bool
  /-- `urlencode`. -/
  urlencode : List (String × String) → String
  /-- A URI has a query. -/
  hasQuery : String → Bool

def AndroidPolicy.registers (policy : AndroidPolicy) (clientId redirectUri : String) : Bool :=
  policy.clients.any fun client => client.1 = clientId && client.2.contains redirectUri

structure AndroidAuthStart where
  transactionId : String
  authorizationUrl : String
  expiresAt : Int
  deriving DecidableEq

structure AndroidAuthRedirect where
  redirectUri : String
  code : String
  state : String
  url : String
  deriving DecidableEq

structure AndroidAuthExchange where
  credentials : SessionCredentials
  workspaceId : String
  expiresAt : Int
  deriving DecidableEq

def isTextOf (others : List Char) (value : String) : Bool :=
  value.toList.all fun c => c.isAlphanum || others.contains c

/-- `_PKCE_TEXT`. -/
def isPkceText (value : String) : Bool := value.toList.length = 43 && isTextOf ['_', '-'] value

/-- `_VERIFIER_TEXT`. -/
def isVerifierText (value : String) : Bool :=
  43 ≤ value.toList.length && value.toList.length ≤ 128 && isTextOf ['.', '_', '~', '-'] value

/-- A state that `begin` accepts. -/
def isAndroidState (state : String) : Bool :=
  16 ≤ state.toList.length && state.toList.length ≤ 512 &&
    state.toList.all fun c => 33 ≤ c.toNat && c.toNat ≤ 126

/-! ## Begin -/

def expiryOrder (a b : AndroidRow) : Prop := a.expiresAt ≤ b.expiresAt

instance expiryOrderDecidable : DecidableRel expiryOrder := fun _ _ => inferInstanceAs (Decidable (_ ≤ _))

/-- The transactions that `begin` deletes: up to 32 that have expired, the oldest first. -/
def purged (now : Int) (db : Db) : List String :=
  ((((db .androidAuthTransactions).filter fun row => row.expiresAt < now).insertionSort
    expiryOrder).take 32).map AndroidRow.transactionId

/-- The `DELETE` of `begin`. -/
def purge (now : Int) (db : Db) : Db :=
  db.delete .androidAuthTransactions fun row => (purged now db).contains row.transactionId

/-- The row that `begin` inserts. -/
def newAndroid (env : Env) (clientId redirectUri state codeChallenge : String) : AndroidRow where
  transactionId := env.id "and"
  clientId := clientId
  redirectUri := redirectUri
  state := state
  codeChallenge := codeChallenge
  expiresAt := env.now + transactionTtl
  createdAt := env.now

/-- The `UPDATE` of `begin`. -/
def restart (transactionId : String) (later : Int) (db : Db) : Db :=
  db.update .androidAuthTransactions (fun row => row.transactionId = transactionId) fun row =>
    { row with expiresAt := later + transactionTtl, createdAt := later }

/-- `begin`. -/
def androidBegin (policy : AndroidPolicy) (env : Env)
    (clientId redirectUri state codeChallenge codeChallengeMethod traceId : String) :
    Statement AndroidAuthStart := do
  checkedTexts [traceId]
  let origin ← Call.require (fun _ => policy.origin)
    { code := "ANDROID_AUTH_CLIENT_DENIED", httpStatus := 403 }
  Call.ensure (policy.httpsUri redirectUri = true ∧ policy.registers clientId redirectUri = true)
    { code := "ANDROID_AUTH_CLIENT_DENIED", httpStatus := 403 }
  Call.ensure (isAndroidState state = true ∧ codeChallengeMethod = "S256" ∧
    isPkceText codeChallenge = true) { code := "INVALID_INPUT", httpStatus := 422 }
  transaction env do
    Call.modify (purge env.now)
    insertRow .androidAuthTransactions (newAndroid env clientId redirectUri state codeChallenge)
    Call.modify (restart (env.id "and") env.later)
    return { transactionId := env.id "and",
             authorizationUrl := String.ofList (origin.toList.reverse.dropWhile (· = '/')).reverse ++
               "/auth/android/authorize?" ++ policy.urlencode [("transaction_id", env.id "and")],
             expiresAt := env.later + transactionTtl }

/-! ## Authorize -/

def transactionInvalid : IdentityError := { code := "ANDROID_AUTH_TRANSACTION_INVALID" }

def androidOf (transactionId : String) (db : Db) : Option AndroidRow :=
  (db .androidAuthTransactions).find? fun row => row.transactionId = transactionId

/-- What `_require_user_and_tenant` asks of a user: active, verified when local, and with no password
to change. -/
def mayUseAndroid (user : UserRow) : Bool :=
  user.state = .active && !(user.issuer = "local" && user.emailVerifiedAt.isNone) &&
    !user.passwordChangeRequired

def requireUserAndTenant (userId tenantId : String) : Statement PUnit := do
  let db ← Call.get
  Call.ensure ((userOf userId db).any mayUseAndroid = true) authenticationRequired
  let choices ← selectableTenantWorkspaces userId
  Call.ensure (choices.any (fun tenant => tenant.tenantId = tenantId) = true)
    { code := "TENANT_UNAVAILABLE", httpStatus := 403 }

/-- `UPDATE android_auth_transactions SET code_digest=?,...`. -/
def AndroidRow.authorize (codeDigest : String) (codeExpiresAt : Int) (userId tenantId : String)
    (later : Int) (row : AndroidRow) : AndroidRow :=
  { row with codeDigest := some codeDigest, codeExpiresAt := some codeExpiresAt,
             userId := some userId, tenantId := some tenantId, authorizedAt := some later }

/-- The rows that the `UPDATE` of `authorize` writes. -/
def AndroidRow.isAuthorizable (transactionId : String) (later : Int) (row : AndroidRow) : Bool :=
  row.transactionId = transactionId && row.codeDigest.isNone && later < row.expiresAt

def writeCode (transactionId codeDigest : String) (codeExpiresAt : Int) (userId tenantId : String)
    (later : Int) : Statement PUnit := do
  let db ← Call.get
  Call.ensure ((db .androidAuthTransactions).any (AndroidRow.isAuthorizable transactionId later) =
    true) transactionInvalid
  Call.ensure (∀ row ∈ db .androidAuthTransactions, row.codeDigest ≠ some codeDigest)
    persistenceUnavailable
  Call.modify fun db => db.update .androidAuthTransactions
    (AndroidRow.isAuthorizable transactionId later)
    (AndroidRow.authorize codeDigest codeExpiresAt userId tenantId later)

/-- `authorize`. -/
def androidAuthorize (prim : Primitives) (policy : AndroidPolicy) (env : Env)
    (transactionId webSession selectedTenantId traceId : String) :
    Statement AndroidAuthRedirect := do
  checkedTexts [transactionId, selectedTenantId, traceId]
  transaction env do
    let row ← Call.require (androidOf transactionId) transactionInvalid
    Call.ensure (env.now < row.expiresAt ∧ row.codeDigest = none) transactionInvalid
    let session ← principal prim webSession env.now
    Call.ensure (policy.registers row.clientId row.redirectUri = true)
      { code := "ANDROID_AUTH_CLIENT_DENIED", httpStatus := 403 }
    Call.ensure (session.clientKind = .web) authenticationRequired
    requireUserAndTenant session.userId selectedTenantId
    let code := env.text "code"
    writeCode transactionId (prim.digest code) (min (env.later + codeTtl) row.expiresAt)
      session.userId selectedTenantId env.later
    return { redirectUri := row.redirectUri, code, state := row.state,
             url := row.redirectUri ++ (if policy.hasQuery row.redirectUri then "&" else "?") ++
               policy.urlencode [("code", code), ("state", row.state)] }

/-! ## Exchange -/

def codeInvalid : IdentityError := { code := "ANDROID_AUTH_CODE_INVALID" }

/-- The code of the transaction can be exchanged by who knows it and the verifier. -/
def AndroidRow.accepts (row : AndroidRow) (prim : Primitives) (policy : AndroidPolicy) (now : Int)
    (code codeVerifier redirectUri : String) : Bool :=
  row.usedAt.isNone && now < row.expiresAt && row.codeExpiresAt.any (now < ·) &&
    redirectUri = row.redirectUri && policy.registers row.clientId redirectUri &&
    row.codeDigest = some (prim.digest code) && row.codeChallenge = prim.challenge codeVerifier

/-- The rows that the `UPDATE` of `exchange` writes. -/
def AndroidRow.isUsable (transactionId : String) (later : Int) (row : AndroidRow) : Bool :=
  row.transactionId = transactionId && row.usedAt.isNone && later < row.expiresAt &&
    row.codeExpiresAt.any (later < ·)

def exchangeOpening (env : Env) (userId tenantId : String) : Opening where
  tenantId := tenantId
  userId := userId
  platform := .android
  clientKind := .native
  openedAt := env.later
  accessExpiresAt := env.later + accessTtl

/-- `exchange_with_projection`, which `exchange` returns the credentials of. -/
def androidExchange (prim : Primitives) (policy : AndroidPolicy) (env : Env)
    (transactionId code codeVerifier redirectUri traceId : String) :
    Statement AndroidAuthExchange := do
  checkedTexts [transactionId, traceId]
  Call.ensure (code ≠ "" ∧ code.toList.length ≤ 512 ∧ isVerifierText codeVerifier = true)
    { code := "INVALID_INPUT", httpStatus := 422 }
  transaction env do
    let row ← Call.require (fun db => (androidOf transactionId db).filter fun row =>
      row.accepts prim policy env.now code codeVerifier redirectUri) codeInvalid
    -- both are set with the code
    let userId := row.userId.getD "None"
    let tenantId := row.tenantId.getD "None"
    requireUserAndTenant userId tenantId
    let db ← Call.get
    Call.ensure ((db .androidAuthTransactions).any (AndroidRow.isUsable transactionId env.later) =
      true) codeInvalid
    Call.modify fun db => db.update .androidAuthTransactions
      (AndroidRow.isUsable transactionId env.later) fun row => { row with usedAt := some env.later }
    let choices ← selectableTenantWorkspaces userId
    let choice ← Call.require (fun _ => choices.find? fun tenant => tenant.tenantId = tenantId)
      { code := "TENANT_UNAVAILABLE", httpStatus := 403 }
    let opening := exchangeOpening env userId tenantId
    opening.openSession prim env
    return { credentials := opening.credentials env, workspaceId := choice.workspaceId,
             expiresAt := env.later + accessTtl }

end DaonUser.Identity
