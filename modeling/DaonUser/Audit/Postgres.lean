import DaonUser.Audit.Pages
import DaonUser.Lib.Jsonb

/-!
# Audit: the store in PostgreSQL

`PostgresSecurityAuditStore`: one table for all tenants, a chain for each of them. The projections are
`jsonb` columns; an event is checked again when its row is read.
-/

namespace DaonUser.Audit.Postgres

open Lib

/-! ## Rows -/

/-- A row of `security_audit_events`. -/
structure Row where
  tenantId : String
  sequence : Int
  eventId : String
  occurredAt : DateTime
  actorId : String
  actorType : String
  workspaceId : Option String
  action : String
  targetType : String
  targetId : String
  outcome : String
  traceId : String
  policyVersion : String
  beforeValue : Option (Json Numeral)
  afterValue : Option (Json Numeral)
  metadata : Json Numeral
  previousEventHash : String
  eventHash : String

/-- `Jsonb(_thaw_json(value))`, as the column keeps it. -/
def toJsonb (value : Value) : Except AuditError (Json Numeral) := do
  return Jsonb.stored Number.numeral (← toJson (thawJson value))

def toColumn (value : Value) : Except AuditError (Option (Json Numeral)) :=
  match value with
  | .none => .ok none
  | value => do return some (← toJsonb value)

def toRow (event : AuditEvent) : Except AuditError Row := do
  let beforeValue ← toColumn event.before
  let afterValue ← toColumn event.after
  let metadata ← toJsonb event.metadata
  return {
    tenantId := event.tenantId
    sequence := event.sequence
    eventId := event.eventId
    occurredAt := event.occurredAt
    actorId := event.actorId
    actorType := event.actorType.value
    workspaceId := event.workspaceId
    action := event.action
    targetType := event.targetType
    targetId := event.targetId
    outcome := event.outcome.value
    traceId := event.traceId
    policyVersion := event.policyVersion
    beforeValue := beforeValue
    afterValue := afterValue
    metadata := metadata
    previousEventHash := event.previousEventHash
    eventHash := event.eventHash }

/-- The number that `json.loads` makes: a float when there is a fraction or an exponent. -/
def loadNumber (t : Numeral) : Value :=
  if t.fraction = [] ∧ t.exponent = none then
    .int (if t.negative then -(t.significand : Int) else t.significand)
  else .float (.finite t.toDecimal)

mutual

/-- `json.loads`. -/
def loads : Json Numeral → Value
  | .null => .none
  | .bool b => .bool b
  | .num t => loadNumber t
  | .str s => .str s
  | .arr items => .list (loadItems items)
  | .obj members => .mapping true (loadMembers members [])

def loadItems : List (Json Numeral) → List Value
  | [] => []
  | item :: items => loads item :: loadItems items

def loadMembers : List (String × Json Numeral) → List (Option String × Value) →
    List (Option String × Value)
  | [], loaded => loaded
  | (key, value) :: members, loaded =>
    loadMembers members (Dict.put (some key) (loads value) loaded)

end

/-- `ActorType(text)`. -/
def toActorType (text : String) : Except AuditError ActorType :=
  if text = ActorType.user.value then .ok .user
  else if text = ActorType.service.value then .ok .service
  else if text = ActorType.system.value then .ok .system
  else .error .valueError

/-- `AuditOutcome(text)`. -/
def toOutcome (text : String) : Except AuditError AuditOutcome :=
  if text = AuditOutcome.succeeded.value then .ok .succeeded
  else if text = AuditOutcome.denied.value then .ok .denied
  else if text = AuditOutcome.failed.value then .ok .failed
  else .error .valueError

section Store

variable (prim : Primitives)

def projection (value : Option (Json Numeral)) (fieldName : String) : Except AuditError Value :=
  match value with
  | none => .ok .none
  | some value => validateProjection prim (loads value) fieldName

def eventFromRow (row : Row) : Except AuditError AuditEvent := do
  let metadata ← validateMetadata prim (loads row.metadata)
  let occurredAt ← validateUtc (some row.occurredAt) "OCCURRED_AT"
  let actorType ← toActorType row.actorType
  let outcome ← toOutcome row.outcome
  let before ← projection prim row.beforeValue "BEFORE"
  let after ← projection prim row.afterValue "AFTER"
  let event : AuditEvent := {
    eventId := row.eventId
    occurredAt := occurredAt
    actorId := row.actorId
    actorType := actorType
    tenantId := row.tenantId
    workspaceId := row.workspaceId
    action := row.action
    targetType := row.targetType
    targetId := row.targetId
    outcome := outcome
    traceId := row.traceId
    policyVersion := row.policyVersion
    before := before
    after := after
    metadata := metadata
    sequence := row.sequence
    previousEventHash := row.previousEventHash
    eventHash := row.eventHash }
  validateEventContract prim event
  return event

/-! ## The store -/

/-- `security_audit_events`. -/
structure Tables where
  rows : List Row

def orderBySequence (rows : List Row) : List Row :=
  rows.insertionSort fun a b => a.sequence ≤ b.sequence

def Tables.ofTenant (s : Tables) (tenantId : String) : List Row :=
  s.rows.filter fun row => row.tenantId = tenantId

/-- The largest `bigint`. -/
def maxBigint : Int := 2 ^ 63 - 1

/-- `_append`. An error of the connection or of the database can be met; nothing is inserted then. -/
def append (draft : AuditEventDraft) (failed : Bool) : Call Tables AuditError AuditEvent := do
  let validated ← Call.query fun _ => validateDraft prim draft
  Call.ensure (failed = false) .database
  let s ← Call.get
  let last := (orderBySequence (s.ofTenant validated.tenantId)).getLast?
  let provisional : AuditEvent :=
    { validated with
      sequence := (last.map (·.sequence + 1)).getD 1,
      previousEventHash := (last.map (·.eventHash)).getD genesisHash,
      eventHash := genesisHash }
  let eventHash ← Call.query fun _ => calculateEventHash prim provisional
  let event := { provisional with eventHash := eventHash }
  let row ← Call.query fun _ => toRow event
  Call.ensure (event.sequence ≤ maxBigint) .database
  Call.ensure (event.eventId ∉ s.rows.map (·.eventId)) (.validation "DUPLICATE_EVENT_ID")
  Call.modify fun s => { rows := s.rows ++ [row] }
  return event

/-- A call of `append`, and whether the database fails it. -/
structure Attempt where
  draft : AuditEventDraft
  failed : Bool

/-- The table and the calls of `append`, for all tenants. -/
def machine : Machine Tables Attempt (Except AuditError AuditEvent) where
  init := { rows := [] }
  step s attempt := append prim attempt.draft attempt.failed s

/-! ## Reading -/

/-- The clauses of `list`. -/
def MatchesRow (q : Query) (row : Row) : Bool :=
  row.tenantId = q.tenantId &&
    q.workspaceId.all (fun workspaceId => row.workspaceId = some workspaceId) &&
    q.action.all (fun action => row.action = action) &&
    q.outcome.all (fun outcome => row.outcome = outcome.value) &&
    q.traceId.all (fun traceId => row.traceId = traceId) &&
    q.occurredAfter.all (fun after => after.utc ≤ row.occurredAt.utc) &&
    q.occurredBefore.all (fun before => row.occurredAt.utc ≤ before.utc)

def list (q : Query) (cursor : Option String) (s : Tables) : Except AuditError AuditPage := do
  validateQuery q
  let afterSequence ← decodeCursor cursor
  let rows := (orderBySequence (s.rows.filter fun row =>
    afterSequence < row.sequence && MatchesRow q row)).take (q.limit + 1).toNat
  let items ← (rows.take q.limit.toNat).mapM (eventFromRow prim)
  return {
    items := items
    nextCursor :=
      if q.limit < rows.length then items.getLast?.map (encodeCursor ·.sequence) else none }

/-- The query of `verify_integrity`. -/
def tenantQuery (tenantId : String) : Query where
  tenantId := tenantId
  workspaceId := none
  action := none
  outcome := none
  traceId := none
  occurredAfter := none
  occurredBefore := none
  limit := maxPageLimit

/-- The loop of `verify_integrity` over the pages, for as many as there is fuel. -/
def readPages (tenantId : String) (s : Tables) :
    Nat → Option String → Except AuditError (Option (List AuditEvent))
  | 0, _ => .ok none
  | fuel + 1, cursor => do
    let page ← list prim (tenantQuery tenantId) cursor s
    match page.nextCursor with
    | none => return some page.items
    | some next => do
      let rest ← readPages tenantId s fuel (some next)
      return rest.map (page.items ++ ·)

/-- `verify_integrity`, of a tenant; there are no more pages than rows, and one. -/
def verifyTenant (tenantId : String) (s : Tables) : Except AuditError (Option IntegrityResult) := do
  let candidates ← readPages prim tenantId s (s.rows.length + 1) none
  return candidates.map (verifyIntegrity prim)

end Store

end DaonUser.Audit.Postgres
