import DaonUser.Retention.Model

/-!
# Retention: the calls of the service

The calls of `RetentionService`, statement by statement, and the machine that answers them. A call
that raises keeps what it wrote before it raised: `createRequest` registers the source's workspace
before it refuses a second request, `purge` blocks the request before it refuses to purge it.
-/

namespace DaonUser.Retention

open Lib

variable (prim : Primitives)

/-! ## Requests -/

def inventoryOr (env : Env) (inventory : Option (List DerivativeInput)) :
    Except RetentionError (List DerivativeInput) :=
  match inventory with
  | some inventory => .ok inventory
  | none =>
    match env.provided with
    | none => .error { code := "DELETION_INVENTORY_INVALID", status := 400 }
    | some inventory => .ok inventory

/-- `{item.reference_id: item for item in inventory}`. -/
def byReference (inventory : List DerivativeInput) : Dict String DerivativeInput :=
  Dict.ofList (inventory.map fun item => (item.referenceId, item))

def CleanupItem.start (item : DerivativeInput) : CleanupItem where
  value := item
  state :=
    if item.disposition = .notPresent ∨ item.disposition = .notApplicable then .completed
    else .pending
  evidence := some item.disposition.text

/-- `register_source`'s check and write, which `create_request` makes too. -/
def enterScope (context : RetentionContext) (sourceId : String) : Op PUnit := do
  let registered ← Call.query fun s =>
    .ok (s.repository.sourceScopes.get? (context.tenantId, sourceId))
  Call.ensure (registered = none ∨ registered = some context.workspaceId)
    { code := "CURRENT_ACCESS_DENIED", status := 403 }
  Call.modify (System.mapRepository fun r =>
    { r with sourceScopes := r.sourceScopes.set (context.tenantId, sourceId) context.workspaceId })

/-- The request that `create_request` builds. -/
def newRequest (service : Service) (env : Env) (context : RetentionContext) (sourceId : String)
    (inventory : List DerivativeInput) (s : System) : DeletionRequest where
  requestId := prim.tokens.id "deletion" s.drawn
  context := context
  sourceId := sourceId
  requestedAt := env.clock 0
  graceUntil := env.clock 0 + service.gracePeriod
  inventory := (byReference inventory).mapValues CleanupItem.start
  state :=
    if s.repository.activeHoldsOn context.tenantId context.workspaceId sourceId ≠ [] then
      .blockedByHold
    else .gracePeriod

/-- The writes of `create_request`. -/
def insertRequest (env : Env) (key : String × String × String) (fingerprint : String)
    (request : DeletionRequest) (s : System) : System :=
  let scope := (request.context.tenantId, request.context.workspaceId, request.sourceId)
  let r := s.repository.setRequest request
  let r := { r with sourceRequests := r.sourceRequests.set scope request.requestId }
  let r := r.record key fingerprint request.requestId
  let r := r.appendAudit prim request "deletion.requested" (env.clock 1)
  let r := r.appendAudit prim request "source.deactivated" (env.clock 2)
  let r := r.appendAudit prim request "deletion.grace_period.started" (env.clock 3)
  { s with repository := r, drawn := s.drawn + 1 }

def createRequest (service : Service) (env : Env) (context : RetentionContext) (sourceId : String)
    (inventory : Option (List DerivativeInput)) (idempotencyKey : String)
    (ifMatch : ExpectedVersion) : Op DeletionRequestView := do
  write idempotencyKey ifMatch
  safe sourceId
  let inventory ← Call.query fun _ => inventoryOr env inventory
  Call.ensure (ifMatch = .any ∧ inventory ≠ [])
    { code := "DELETION_REQUEST_INVALID", status := 400 }
  Call.ensure ((byReference inventory).entries.length = inventory.length ∧
      ∀ kind ∈ Kind.all, kind ∈ inventory.map (·.kind))
    { code := "DELETION_INVENTORY_INVALID", status := 400 }
  let fingerprint := prim.fingerprint
    (.list [.str sourceId, .list (inventory.map fun item => .str item.text)])
  let key := (context.actorId, "request", idempotencyKey)
  enterScope context sourceId
  match ← Call.query (·.repository.replay key fingerprint) with
  | some replay =>
    let request ← Call.query (·.repository.request context replay)
    return view request
  | none =>
    let s ← Call.get
    Call.ensure (s.repository.sourceRequests.get?
        (context.tenantId, context.workspaceId, sourceId) = none)
      { code := "DELETION_REQUEST_ACTIVE" }
    let request := newRequest prim service env context sourceId inventory s
    Call.modify (insertRequest prim env key fingerprint request)
    return view request

def getRequest (context : RetentionContext) (requestId : String) : Op DeletionRequestView := do
  let request ← Call.query (·.repository.request context requestId)
  return view request

def registerSource (context : RetentionContext) (sourceId : String) : Op PUnit := do
  safe sourceId
  enterScope context sourceId

/-- Write a request, record the idempotency key of the call and append its audit event: how
`cancel`, `acknowledge_local_copy` and `purge` end. -/
def settle (request : DeletionRequest) (key : String × String × String) (fingerprint : String)
    (action : String) (reading : Int) (r : Repository) : Repository :=
  ((r.setRequest request).record key fingerprint request.requestId).appendAudit prim request action
    reading

def cancel (env : Env) (context : RetentionContext) (requestId : String)
    (expectedVersion : ExpectedVersion) (idempotencyKey : String) : Op DeletionRequestView := do
  write idempotencyKey expectedVersion
  let fingerprint := prim.fingerprint (.list [.str requestId, expectedVersion.dumped])
  let key := (context.actorId, "cancel", idempotencyKey)
  let request ← Call.query (·.repository.request context requestId)
  match ← Call.query (·.repository.replay key fingerprint) with
  | some _ => return view request
  | none =>
    requireVersion request.version expectedVersion
    Call.ensure (request.purgeStarted = false ∧ request.state ≠ .purged ∧
        request.state ≠ .cancelled)
      { code := "DELETION_CLEANUP_PENDING" }
    let request :=
      { request with state := .cancelled, sourceActive := true, version := request.version + 1 }
    Call.modify (System.mapRepository
      (settle prim request key fingerprint "deletion.cancelled" (env.clock 0)))
    return view request

/-- The writes of `apply_legal_hold`: the hold, the request it blocks and the audit event. -/
def insertHold (env : Env) (key : String × String × String) (fingerprint : String)
    (hold : LegalHold) (request : Option DeletionRequest) (s : System) : System :=
  let r := s.repository.setHold hold
  let r := match request with
    | none => r.record key fingerprint hold.holdId
    | some request =>
      let request := { request with state := .blockedByHold, version := request.version + 1 }
      ((r.setRequest request).record key fingerprint hold.holdId).appendAudit prim request
        "legal_hold.applied" (env.clock 0)
  { s with repository := r, drawn := s.drawn + 1 }

def applyLegalHold (env : Env) (context : RetentionContext) (sourceId : String)
    (expectedVersion : ExpectedVersion) (idempotencyKey : String) (stepUpVerified : Bool) :
    Op LegalHoldView := do
  write idempotencyKey expectedVersion
  requireSensitive context stepUpVerified
  safe sourceId
  let fingerprint := prim.fingerprint
    (.list [.str sourceId, expectedVersion.dumped, .str context.policyVersion])
  let key := (context.actorId, "hold", idempotencyKey)
  match ← Call.query (·.repository.replay key fingerprint) with
  | some replay =>
    let hold ← Call.query (·.repository.hold context replay)
    return holdView hold
  | none =>
    let s ← Call.get
    Call.ensure (s.repository.sourceScopes.get? (context.tenantId, sourceId) =
        some context.workspaceId)
      { code := "SOURCE_UNAVAILABLE", status := 404 }
    match ← Call.query (·.repository.requestOfSource context sourceId) with
    | some request => do
      requireVersion request.version expectedVersion
      let hold : LegalHold :=
        { holdId := prim.tokens.id "legal-hold" s.drawn, context := context, sourceId := sourceId }
      Call.modify (insertHold prim env key fingerprint hold (some request))
      return holdView hold
    | none => do
      Call.ensure (expectedVersion = .version 1) { code := "RETENTION_VERSION_CONFLICT" }
      let hold : LegalHold :=
        { holdId := prim.tokens.id "legal-hold" s.drawn, context := context, sourceId := sourceId }
      Call.modify (insertHold prim env key fingerprint hold none)
      return holdView hold

def DeletionRequest.unblock (request : DeletionRequest) (reading : Int) : DeletionRequest :=
  { request with
    state := if reading < request.graceUntil then .gracePeriod else .cleanupPending
    version := request.version + 1 }

/-- The writes of `release_legal_hold` after the hold itself: the request, when no active hold is
left on its source, and the audit event. -/
def releaseRequest (env : Env) (key : String × String × String) (fingerprint holdId : String)
    (request : Option DeletionRequest) (r : Repository) : Repository :=
  match request with
  | none => r.record key fingerprint holdId
  | some request =>
    if r.activeHolds request = [] then
      let request := request.unblock (env.clock 0)
      ((r.setRequest request).record key fingerprint holdId).appendAudit prim request
        "legal_hold.released" (env.clock 1)
    else
      (r.record key fingerprint holdId).appendAudit prim request "legal_hold.released"
        (env.clock 0)

def releaseLegalHold (env : Env) (context : RetentionContext) (holdId : String)
    (expectedVersion : ExpectedVersion) (idempotencyKey : String) (stepUpVerified : Bool) :
    Op LegalHoldView := do
  write idempotencyKey expectedVersion
  requireSensitive context stepUpVerified
  let fingerprint := prim.fingerprint
    (.list [.str holdId, expectedVersion.dumped, .str context.policyVersion])
  let key := (context.actorId, "release", idempotencyKey)
  let hold ← Call.query (·.repository.hold context holdId)
  match ← Call.query (·.repository.replay key fingerprint) with
  | some _ => return holdView hold
  | none =>
    Call.ensure (expectedVersion = .version hold.version ∧ hold.state = .active)
      { code := "RETENTION_VERSION_CONFLICT" }
    let hold := { hold with state := .released, version := hold.version + 1 }
    Call.modify (System.mapRepository (·.setHold hold))
    let request ← Call.query (·.repository.requestOfSource context hold.sourceId)
    Call.modify (System.mapRepository
      (releaseRequest prim env key fingerprint hold.holdId request))
    return holdView hold

/-! ## Cleanup -/

def acknowledgeLocalCopy (env : Env) (context : RetentionContext) (requestId referenceId : String)
    (evidence : String) (expectedVersion : ExpectedVersion) (idempotencyKey : String) :
    Op DeletionRequestView := do
  write idempotencyKey expectedVersion
  Call.ensure (evidence ∈ ["device_ack", "device_revoked", "key_destroyed"])
    { code := "LOCAL_COPY_ACK_INVALID", status := 400 }
  let fingerprint := prim.fingerprint
    (.list [.str requestId, .str referenceId, .str evidence, expectedVersion.dumped])
  let key := (context.actorId, "ack", idempotencyKey)
  let request ← Call.query (·.repository.request context requestId)
  match ← Call.query (·.repository.replay key fingerprint) with
  | some _ => return view request
  | none =>
    requireVersion request.version expectedVersion
    let item ← Call.query fun _ =>
      match request.inventory.get? referenceId with
      | none => .error { code := "LOCAL_COPY_ACK_INVALID", status := 400 }
      | some item =>
        if item.value.kind ≠ .knownLocalCopy then
          .error { code := "LOCAL_COPY_ACK_INVALID", status := 400 }
        else .ok item
    let item := { item with state := .completed, evidence := some evidence }
    let request := { request with
      inventory := request.inventory.set referenceId item, version := request.version + 1 }
    Call.modify (System.mapRepository
      (settle prim request key fingerprint "local_copy.access_revoked" (env.clock 0)))
    return view request

/-- What the loop of `purge` has written so far. -/
structure PurgeLoop where
  request : DeletionRequest
  attempts : List CleanupAttempt
  invocations : List Invocation
  /-- How often this call has asked the cleanup port. -/
  answered : Nat

def DeletionRequest.writeItem (request : DeletionRequest) (item : CleanupItem) :
    DeletionRequest :=
  { request with inventory := request.inventory.set item.value.referenceId item }

/-- `item.attempts += 1`. -/
def CleanupItem.attempted (item : CleanupItem) : CleanupItem :=
  { item with attempts := item.attempts + 1 }

def invocationOf (env : Env) (context : RetentionContext) (stepUpVerified : Bool) (r : Repository)
    (loop : PurgeLoop) (item : CleanupItem) : Invocation where
  context := context
  item := item.value
  requestId := loop.request.requestId
  stepUpVerified := stepUpVerified
  reading := env.clock 0
  moment :=
    { r.setRequest (loop.request.writeItem item.attempted) with attempts := loop.attempts }

/-- One turn of the loop of `purge`. -/
def purgeItem (env : Env) (context : RetentionContext) (stepUpVerified : Bool) (r : Repository)
    (loop : PurgeLoop) (item : CleanupItem) : PurgeLoop :=
  if item.state = .completed then loop
  else if item.value.acknowledgementRequired then
    { loop with request := loop.request.writeItem { item with state := .awaitingAck } }
  else
    let state := if env.cleanup loop.answered then .completed else .failed
    { request := loop.request.writeItem { item.attempted with state := state }
      attempts := loop.attempts ++ [
        { requestId := loop.request.requestId, referenceId := item.value.referenceId,
          kind := item.value.kind, attempts := item.attempted.attempts, state := state }]
      invocations := loop.invocations ++
        [invocationOf env context stepUpVerified r loop item]
      answered := loop.answered + 1 }

/-- The loop of `purge` over the inventory of a request. -/
def purgeItems (env : Env) (context : RetentionContext) (stepUpVerified : Bool) (s : System)
    (request : DeletionRequest) : PurgeLoop :=
  request.inventory.values.foldl (purgeItem env context stepUpVerified s.repository)
    { request := { request with purgeStarted := true, state := .cleanupPending }
      attempts := s.repository.attempts, invocations := s.invocations, answered := 0 }

/-- Every item of the inventory is completed. -/
def DeletionRequest.cleaned (request : DeletionRequest) : Prop :=
  ∀ item ∈ request.inventory.values, item.state = .completed

instance (request : DeletionRequest) : Decidable request.cleaned :=
  inferInstanceAs (Decidable (∀ item ∈ request.inventory.values, item.state = .completed))

/-- The request after the loop of `purge`. -/
def DeletionRequest.finish (request : DeletionRequest) : DeletionRequest :=
  { request with
    state := if request.cleaned then .purged else .cleanupPending
    version := request.version + 1 }

/-- The writes of `purge` once its checks have passed. -/
def runPurge (env : Env) (context : RetentionContext) (stepUpVerified : Bool)
    (key : String × String × String) (fingerprint : String) (request : DeletionRequest)
    (s : System) : System :=
  let loop := purgeItems env context stepUpVerified s request
  let action := if loop.request.cleaned then "deletion.purged" else "deletion.cleanup_pending"
  { s with
    repository := settle prim loop.request.finish key fingerprint action (env.clock 1)
      { s.repository with attempts := loop.attempts }
    invocations := loop.invocations }

def purge (service : Service) (env : Env) (context : RetentionContext) (requestId : String)
    (expectedVersion : ExpectedVersion) (idempotencyKey : String) (stepUpVerified : Bool) :
    Op DeletionRequestView := do
  write idempotencyKey expectedVersion
  requireSensitive context stepUpVerified
  let fingerprint := prim.fingerprint
    (.list [.str requestId, expectedVersion.dumped, .str context.policyVersion])
  let key := (context.actorId, "purge", idempotencyKey)
  let request ← Call.query (·.repository.request context requestId)
  match ← Call.query (·.repository.replay key fingerprint) with
  | some _ => return view request
  | none =>
    requireVersion request.version expectedVersion
    match ← Call.query fun s => .ok (s.repository.activeHolds request) with
    | _ :: _ => do
      Call.modify (System.mapRepository
        (·.setRequest { request with state := .blockedByHold }))
      Call.raise { code := "LEGAL_HOLD_ACTIVE" }
    | [] => do
      Call.ensure (request.graceUntil ≤ env.clock 0) { code := "DELETION_GRACE_PERIOD_ACTIVE" }
      Call.ensure (∀ item ∈ request.inventory.values,
          startsWith item.value.referenceId service.fixturePrefix)
        { code := "FIXTURE_ONLY_PURGE_REQUIRED", status := 403 }
      let s ← Call.get
      Call.modify (runPurge prim env context stepUpVerified key fingerprint request)
      return view (purgeItems env context stepUpVerified s request).request.finish

inductive Operation where
  | createRequest (sourceId : String) (inventory : Option (List DerivativeInput))
      (idempotencyKey : String) (ifMatch : ExpectedVersion)
  | getRequest (requestId : String)
  | registerSource (sourceId : String)
  | cancel (requestId : String) (expectedVersion : ExpectedVersion) (idempotencyKey : String)
  | applyLegalHold (sourceId : String) (expectedVersion : ExpectedVersion)
      (idempotencyKey : String) (stepUpVerified : Bool)
  | releaseLegalHold (holdId : String) (expectedVersion : ExpectedVersion)
      (idempotencyKey : String) (stepUpVerified : Bool)
  | acknowledgeLocalCopy (requestId referenceId evidence : String)
      (expectedVersion : ExpectedVersion) (idempotencyKey : String)
  | purge (requestId : String) (expectedVersion : ExpectedVersion) (idempotencyKey : String)
      (stepUpVerified : Bool)

structure Input where
  service : Service
  env : Env
  context : RetentionContext
  operation : Operation

inductive Reply where
  | none
  | deletion (view : DeletionRequestView)
  | hold (view : LegalHoldView)
  deriving DecidableEq

abbrev Outcome := Except RetentionError Reply

def serve (i : Input) : Op Reply :=
  match i.operation with
  | .createRequest sourceId inventory key ifMatch =>
    Reply.deletion <$> createRequest prim i.service i.env i.context sourceId inventory key ifMatch
  | .getRequest requestId => Reply.deletion <$> getRequest i.context requestId
  | .registerSource sourceId => (fun _ => Reply.none) <$> registerSource i.context sourceId
  | .cancel requestId expectedVersion key =>
    Reply.deletion <$> cancel prim i.env i.context requestId expectedVersion key
  | .applyLegalHold sourceId expectedVersion key verified =>
    Reply.hold <$> applyLegalHold prim i.env i.context sourceId expectedVersion key verified
  | .releaseLegalHold holdId expectedVersion key verified =>
    Reply.hold <$> releaseLegalHold prim i.env i.context holdId expectedVersion key verified
  | .acknowledgeLocalCopy requestId referenceId evidence expectedVersion key =>
    Reply.deletion <$> acknowledgeLocalCopy prim i.env i.context requestId referenceId evidence
      expectedVersion key
  | .purge requestId expectedVersion key verified =>
    Reply.deletion <$> purge prim i.service i.env i.context requestId expectedVersion key verified

/-- `ReferenceRetentionRepository()`. -/
def Repository.empty : Repository where
  requests := Dict.empty
  sourceRequests := Dict.empty
  sourceScopes := Dict.empty
  holds := Dict.empty
  idempotency := Dict.empty
  attempts := []
  audit := []

def machine : Machine System Input Outcome where
  init := { repository := .empty, drawn := 0, invocations := [] }
  step s i := serve prim i s

end DaonUser.Retention
