import DaonUser.Identity.Access

/-!
# Identity: step-up authorizations

The grants that a signed-in user confirms a protected action with: how they are issued, once or again
for an idempotency key, and how they are consumed.
-/

namespace DaonUser.Identity

open Lib

structure StepUpGrant where
  authorization : String
  issuedAt : Int
  expiresAt : Int
  deriving DecidableEq

/-- The grant that `issue_step_up` inserts for a raw text. -/
def newStepUp (prim : Primitives) (env : Env) (row : SessionRow) (raw : String)
    (actionGroup targetId policyVersion : String) (ttlSeconds : Int) : StepUpRow where
  stepUpId := env.id "sup"
  authorizationDigest := prim.digest raw
  tenantId := row.tenantId
  actorId := row.userId
  sessionId := row.sessionId
  deviceId := row.deviceId
  actionGroup := actionGroup
  targetId := targetId
  policyVersion := policyVersion
  issuedAt := env.now
  expiresAt := env.now + ttlSeconds * 1000000

def issueStepUp (prim : Primitives) (env : Env)
    (accessToken actionGroup targetId policyVersion traceId : String) (ttlSeconds : Int) :
    Statement StepUpGrant := do
  checkedTexts [actionGroup, targetId, policyVersion, traceId]
  Call.ensure (1 ≤ ttlSeconds ∧ ttlSeconds ≤ maxStepUpTtlSeconds) { code := "STEP_UP_TTL_INVALID" }
  transaction env do
    let row ← principal prim accessToken env.now
    let db ← Call.get
    Call.ensure ((db .tenantStepUpActions).any (fun action =>
        action.tenantId = row.tenantId && action.actionGroup = actionGroup) = true)
      { code := "STEP_UP_ACTION_NOT_REQUIRED", httpStatus := 403 }
    let grant := newStepUp prim env row (env.text "raw") actionGroup targetId policyVersion ttlSeconds
    insertRow .stepUpAuthorizations grant
    audit env
    return { authorization := env.text "raw", issuedAt := grant.issuedAt,
             expiresAt := grant.expiresAt }

/-! ## After reauthentication -/

/-- The fingerprint of a request of `issue_step_up_after_reauthentication`. -/
def issueFingerprint (prim : Primitives) (row : SessionRow)
    (actionGroup targetId policyVersion : String) (ttlSeconds : Int) : String :=
  prim.fingerprint (.list [.str row.tenantId, .str row.userId, .str row.sessionId, .str actionGroup,
    .str targetId, .str policyVersion, .int ttlSeconds])

def stepUpHmac (prim : Primitives) (row : SessionRow) (idempotencyKey fingerprint stepId : String) :
    String :=
  "sup_" ++ prim.hmac ("daon-step-up-v1|" ++ row.tenantId ++ "|" ++ row.userId ++ "|" ++
    idempotencyKey ++ "|" ++ fingerprint ++ "|" ++ stepId)

/-- The grant that an idempotency key already stands for, with the grant that it names. -/
def issuedFor (db : Db) (row : SessionRow) (idempotencyKey : String) :
    Option (StepUpIdempotencyRow × StepUpRow) :=
  ((db .stepUpIdempotency).find? fun replay =>
      replay.tenantId = row.tenantId && replay.actorId = row.userId &&
        replay.idempotencyKey = idempotencyKey).bind fun replay =>
    ((db .stepUpAuthorizations).find? fun grant => grant.stepUpId = replay.stepUpId).map
      fun grant => (replay, grant)

def replayGrant (prim : Primitives) (row : SessionRow)
    (idempotencyKey actionGroup targetId policyVersion : String) (ttlSeconds : Int)
    (replay : StepUpIdempotencyRow) (grant : StepUpRow) : Statement StepUpGrant := do
  let fingerprint := issueFingerprint prim row actionGroup targetId policyVersion ttlSeconds
  Call.ensure (replay.requestFingerprint = fingerprint)
    { code := "IDEMPOTENCY_KEY_REUSED", httpStatus := 409 }
  Call.ensure (replay.keyId = stepUpTokenKeyId ∧ replay.keyVersion = stepUpTokenKeyVersion)
    { code := "STEP_UP_TOKEN_KEY_VERSION_UNAVAILABLE", httpStatus := 503 }
  let raw := stepUpHmac prim row idempotencyKey fingerprint replay.stepUpId
  Call.ensure ((prim.digest raw, row.sessionId, actionGroup, targetId, policyVersion) =
        (replay.authorizationDigest, grant.sessionId, grant.actionGroup, grant.targetId,
          grant.policyVersion) ∧
      grant.authorizationDigest = replay.authorizationDigest)
    { code := "STEP_UP_REPLAY_INVALID", httpStatus := 503 }
  return { authorization := raw, issuedAt := replay.issuedAt, expiresAt := replay.expiresAt }

def newIdempotency (grant : StepUpRow) (idempotencyKey fingerprint : String) :
    StepUpIdempotencyRow where
  tenantId := grant.tenantId
  actorId := grant.actorId
  idempotencyKey := idempotencyKey
  requestFingerprint := fingerprint
  stepUpId := grant.stepUpId
  authorizationDigest := grant.authorizationDigest
  actionGroup := grant.actionGroup
  targetId := grant.targetId
  policyVersion := grant.policyVersion
  keyId := stepUpTokenKeyId
  keyVersion := stepUpTokenKeyVersion
  issuedAt := grant.issuedAt
  expiresAt := grant.expiresAt

def recordGrant (grant : StepUpRow) (fingerprint : String) : Option String → Statement PUnit
  | none => pure ⟨⟩
  | some key => insertRow .stepUpIdempotency (newIdempotency grant key fingerprint)

def grantAfterPassword (prim : Primitives) (env : Env) (row : SessionRow)
    (secret actionGroup targetId policyVersion traceId : String) (ttlSeconds : Int)
    (idempotencyKey : Option String) : Statement StepUpGrant := do
  let user ← Call.require (fun db : Db => (db .users).find? fun user =>
      user.userId = row.userId && user.issuer = "local" && user.passwordDigest.isSome)
    { code := "STEP_UP_REAUTH_UNAVAILABLE", httpStatus := 403 }
  Call.ensure (user.passwordDigest.any (fun digest => prim.verify digest secret) = true)
    { code := "STEP_UP_REAUTH_REQUIRED", httpStatus := 403 }
  let fingerprint := issueFingerprint prim row actionGroup targetId policyVersion ttlSeconds
  let raw := match idempotencyKey with
    | none => env.text "raw"
    | some key => stepUpHmac prim row key fingerprint (env.id "sup")
  let grant := newStepUp prim env row raw actionGroup targetId policyVersion ttlSeconds
  insertRow .stepUpAuthorizations grant
  recordGrant grant fingerprint idempotencyKey
  checkedTexts [traceId, policyVersion]
  audit env
  return { authorization := raw, issuedAt := grant.issuedAt, expiresAt := grant.expiresAt }

def issueStepUpAfterReauthentication (prim : Primitives) (env : Env)
    (accessToken secret actionGroup targetId policyVersion traceId : String) (ttlSeconds : Int)
    (idempotencyKey : Option String) : Statement StepUpGrant := do
  password secret
  transaction env do
    let row ← principal prim accessToken env.now
    let db ← Call.get
    match idempotencyKey with
    | none =>
      grantAfterPassword prim env row secret actionGroup targetId policyVersion traceId ttlSeconds
        none
    | some key => do
      checkedTexts [key]
      Call.ensure (16 ≤ key.toList.length ∧ key.toList.length ≤ 128) invalidInput
      match issuedFor db row key with
      | some (replay, grant) =>
        replayGrant prim row key actionGroup targetId policyVersion ttlSeconds replay grant
      | none =>
        grantAfterPassword prim env row secret actionGroup targetId policyVersion traceId ttlSeconds
          key

/-! ## Consumption -/

abbrev Ticket := String × String

/-- Both or neither of `operation` and `idempotency_key`, checked. -/
def ticket (operation idempotencyKey : Option String) : Statement (Option Ticket) :=
  match operation, idempotencyKey with
  | none, none => pure none
  | some operation, some key => do
    checkedTexts [operation, key]
    Call.ensure (key.toList.length ≤ 128) invalidInput
    return some (operation, key)
  | _, _ => Call.raise invalidInput

structure Binding where
  actorId : String
  sessionId : String
  deviceId : String
  tenantId : String
  actionGroup : String
  targetId : String
  policyVersion : String
  deriving DecidableEq

def SessionRow.binding (row : SessionRow) (actionGroup targetId policyVersion : String) :
    Binding where
  actorId := row.userId
  sessionId := row.sessionId
  deviceId := row.deviceId
  tenantId := row.tenantId
  actionGroup := actionGroup
  targetId := targetId
  policyVersion := policyVersion

def StepUpRow.binding (grant : StepUpRow) : Binding where
  actorId := grant.actorId
  sessionId := grant.sessionId
  deviceId := grant.deviceId
  tenantId := grant.tenantId
  actionGroup := grant.actionGroup
  targetId := grant.targetId
  policyVersion := grant.policyVersion

def consumptionFingerprint (prim : Primitives) (stepUpId : String) (b : Binding) : String :=
  prim.fingerprint (.list [.str stepUpId, .str b.actorId, .str b.sessionId, .str b.deviceId,
    .str b.tenantId, .str b.actionGroup, .str b.targetId, .str b.policyVersion])

def newConsumption (prim : Primitives) (grant : StepUpRow) (b : Binding) (t : Ticket) (now : Int) :
    ConsumptionRow where
  tenantId := b.tenantId
  actorId := b.actorId
  operation := t.1
  idempotencyKey := t.2
  requestFingerprint := consumptionFingerprint prim grant.stepUpId b
  stepUpId := grant.stepUpId
  consumedAt := now

def consumptionOf (db : Db) (b : Binding) (t : Ticket) : Option ConsumptionRow :=
  (db .stepUpConsumptions).find? fun row =>
    row.tenantId = b.tenantId && row.actorId = b.actorId && row.operation = t.1 &&
      row.idempotencyKey = t.2

def replays (prim : Primitives) (db : Db) (grant : StepUpRow) (b : Binding) (t : Option Ticket) :
    Bool :=
  t.any fun t => (consumptionOf db b t).any fun row =>
    row.requestFingerprint = consumptionFingerprint prim grant.stepUpId b &&
      row.stepUpId = grant.stepUpId

def stepUpRequired : IdentityError := { code := "STEP_UP_REQUIRED", httpStatus := 403 }

def grantOf (prim : Primitives) (raw : String) (db : Db) : Option StepUpRow :=
  (db .stepUpAuthorizations).find? fun row => row.authorizationDigest = prim.digest raw

def StepUpRow.use (now : Int) (row : StepUpRow) : StepUpRow := { row with usedAt := some now }

def useStepUp (stepUpId : String) (now : Int) (db : Db) : Db :=
  db.update .stepUpAuthorizations (fun row => row.stepUpId = stepUpId && row.usedAt.isNone)
    (StepUpRow.use now)

def recordConsumption (prim : Primitives) (env : Env) (grant : StepUpRow) (b : Binding) :
    Option Ticket → Statement PUnit
  | none => pure ⟨⟩
  | some t => insertRow .stepUpConsumptions (newConsumption prim grant b t env.now)

/-- `_consume_step_up`, for what the session asks to confirm. -/
def consumeGrant (prim : Primitives) (env : Env) (raw : Option String) (b : Binding)
    (operation idempotencyKey : Option String) : Statement PUnit := do
  let t ← ticket operation idempotencyKey
  let raw ← Call.require (fun _ => raw) stepUpRequired
  opaqueTexts [raw]
  let grant ← Call.require (grantOf prim raw) stepUpRequired
  let db ← Call.get
  if grant.usedAt.isSome then
    if replays prim db grant b t then pure ⟨⟩ else deny env "STEP_UP_REUSED" 403
  else if grant.expiresAt ≤ env.now then deny env "STEP_UP_EXPIRED" 403
  else if b ≠ grant.binding then deny env "STEP_UP_BINDING_DENIED" 403
  else do
    Call.modify (useStepUp grant.stepUpId env.now)
    recordConsumption prim env grant b t
    audit env

def consumeStepUp (prim : Primitives) (env : Env) (stepUpAuthorization : Option String)
    (accessToken actionGroup targetId policyVersion traceId : String)
    (operation idempotencyKey : Option String) : Statement PUnit := do
  checkedTexts [actionGroup, targetId, policyVersion, traceId]
  transaction env do
    let row ← principal prim accessToken env.now
    consumeGrant prim env stepUpAuthorization (row.binding actionGroup targetId policyVersion)
      operation idempotencyKey

end DaonUser.Identity
