import DaonUser.Audit.Service
import DaonUser.Lib.Dict
import Mathlib.Data.List.Sort
import Mathlib.Data.Prod.Lex
import Mathlib.Data.String.Basic
import Mathlib.Order.OrderDual

/-!
# Notifications: the records, the repository and the service

`NotificationService` over `ReferenceNotificationRepository`: `publish` stores a notification and then
appends its audit event, `mark_read` appends the event and then changes the notification,
`list_notifications` reads a filtered list in pages. What the other services and the clock answer are
arguments of each call.
-/

namespace DaonUser.Notifications

open Lib Audit

/-! ## Errors -/

structure NotificationError where
  code : String
  httpStatus : Nat := 400
  deriving DecidableEq

/-- What a call raises: an error of its own, one of the audit store, or the `ValueError` of
`urlsplit`. -/
inductive Error where
  | notification (e : NotificationError)
  | audit (e : AuditError)
  | value
  deriving DecidableEq

/-- `raise NotificationError(code)`. -/
def fail {α : Type} (code : String) (httpStatus : Nat := 400) : Except Error α :=
  .error (.notification { code, httpStatus })

/-- What `urlsplit` returns. -/
structure SplitResult where
  scheme : String
  netloc : String
  path : String
  query : String
  fragment : String

structure Primitives extends Audit.Primitives where
  /-- `urlsplit`, `none` where it raises. -/
  urlsplit : String → Option SplitResult
  /-- `hmac.new(secret, payload, hashlib.sha256).digest()`, under the secret of the repository. -/
  hmac : List Nat → List Nat
  hmac_bytes : ∀ payload, ∀ b ∈ hmac payload, b < 256
  hmac_length : ∀ payload, (hmac payload).length = 32

/-! ## Records -/

structure IdentityPrincipal where
  userId : String
  tenantId : String
  deriving DecidableEq

structure NotificationEvent where
  eventId : String
  tenantId : String
  workspaceId : String
  kind : String
  severity : String
  title : String
  summary : String
  resourceType : String
  resourceId : String
  deepLink : String
  traceId : String
  policyVersion : String

inductive DeliveryState where
  | pending
  | delivered
  | failed
  | suppressed
  deriving DecidableEq

inductive ReadState where
  | unread
  | read
  deriving DecidableEq

def ReadState.value : ReadState → String
  | unread => "unread"
  | read => "read"

structure Notification where
  notificationId : String
  tenantId : String
  workspaceId : String
  recipientId : String
  kind : String
  severity : String
  title : String
  summary : String
  sourceEventId : String
  resourceType : String
  resourceId : String
  deepLink : String
  auditEventId : String
  traceId : String
  deliveryState : DeliveryState
  createdAt : DateTime
  deliveredAt : Option DateTime
  readAt : Option DateTime
  version : Nat
  deriving DecidableEq

namespace Notification

def readState (n : Notification) : ReadState :=
  match n.readAt with
  | some _ => .read
  | none => .unread

def etag (n : Notification) : String := "\"notification-" ++ toString n.version ++ "\""

def sortKey (n : Notification) : (Lex (List Nat × String))ᵒᵈ :=
  OrderDual.toDual (toLex (n.createdAt.utc.fields, n.notificationId))

end Notification

/-! ## Checks -/

def allowedKinds : List String :=
  ["authentication", "device", "membership", "policy", "run_state", "run_failed", "review",
    "approval", "delivery", "warning", "recovery"]

def allowedSeverities : List String := ["info", "warning", "critical"]

def safeWebPaths : List String := ["operations", "inbox", "notifications", "workspaces"]

def checkedId (value : String) : Except Error Unit :=
  if isSafeId value then .ok () else fail "INVALID_INPUT"

/-- `_checked_time`, of a clock that shows a time or `None`. -/
def checkedTime (value : Option DateTime) : Except Error (Option DateTime) :=
  match value with
  | none => .ok none
  | some value => if value.utcoffset = some 0 then .ok (some value) else fail "INVALID_INPUT"

/-- The time of a call: `_checked_time(self._clock())`, which may not be `None`. -/
def now (clock : Option DateTime) : Except Error DateTime := do
  match ← checkedTime clock with
  | none => fail "INVALID_TIME"
  | some now => return now

def plainText (value : String) (maximum : Nat) : Except Error String :=
  if value.toList ≠ stripChars isSpace value.toList ∨ value = "" ∨ maximum < value.toList.length then
    fail "INVALID_INPUT"
  else if value.toList.any fun c => c = '<' || c = '>' || c.toNat < 32 then fail "INVALID_INPUT"
  else .ok value

def notebookSelectors : List String :=
  ["output_version_id", "source_version_id", "run_id", "studio_job_id"]

/-- `/notebooks/<id>?<selector>=<id>`. -/
def isNotebookLink (value : String) : Bool :=
  startsWith value "/notebooks/" &&
    let rest := value.toList.drop "/notebooks/".toList.length
    let notebookId := rest.takeWhile (· ≠ '?')
    let query := (rest.dropWhile (· ≠ '?')).drop 1
    isSafeId (String.ofList notebookId) && rest.contains '?' && query.contains '=' &&
      notebookSelectors.contains (String.ofList (query.takeWhile (· ≠ '='))) &&
      isSafeId (String.ofList ((query.dropWhile (· ≠ '=')).drop 1))

/-- `value.strip("/")`. -/
def stripSlashes (value : String) : List Char := stripChars (· = '/') value.toList

def safeDeepLink (prim : Primitives) (nativeRoutes : List String) (value : String) :
    Except Error Unit :=
  if 512 < value.toList.length ∨ value.toList ≠ stripChars isSpace value.toList then
    fail "UNSAFE_DEEP_LINK"
  else if value = "/settings/account" ∨ isNotebookLink value then .ok ()
  else
    match prim.urlsplit value with
    | none => .error .value
    | some parsed =>
      if startsWith value "/" ∧ ¬startsWith value "//" then
        let first := String.ofList ((stripSlashes parsed.path).takeWhile (· ≠ '/'))
        if parsed.scheme ≠ "" ∨ parsed.netloc ≠ "" ∨ first ∉ safeWebPaths then
          fail "UNSAFE_DEEP_LINK"
        else .ok ()
      else if parsed.scheme ≠ "sinsan-daon" ∨ parsed.netloc ≠ "app" ∨ parsed.query ≠ "" ∨
          parsed.fragment ≠ "" then
        fail "UNSAFE_DEEP_LINK"
      else if String.ofList (stripSlashes parsed.path) ∉ nativeRoutes then fail "UNSAFE_DEEP_LINK"
      else .ok ()

/-- `_authorize`: the HTTP status of the `AuthorizationError`, if there is one. -/
def authorize (denial : Option Nat) : Except Error Unit :=
  match denial with
  | none => .ok ()
  | some status =>
    if 500 ≤ status then fail "DATABASE_UNAVAILABLE" 503
    else if status = 404 then fail "RESOURCE_UNAVAILABLE" 404
    else fail "CURRENT_ACCESS_DENIED" 403

def validateEvent (prim : Primitives) (nativeRoutes : List String) (event : NotificationEvent) :
    Except Error Unit := do
  checkedId event.eventId
  checkedId event.tenantId
  checkedId event.workspaceId
  checkedId event.resourceType
  checkedId event.resourceId
  checkedId event.traceId
  checkedId event.policyVersion
  if event.kind ∉ allowedKinds ∨ event.severity ∉ allowedSeverities then fail "INVALID_INPUT"
  let _ ← plainText event.title 160
  let _ ← plainText event.summary 500
  safeDeepLink prim nativeRoutes event.deepLink

/-! ## The repository in memory -/

/-- `ReferenceNotificationRepository`. The inbox requests are not modelled. -/
structure Repository where
  notifications : Dict String Notification
  dedupe : List String
  idempotency : Dict String (String × Notification)

namespace Repository

def empty : Repository := ⟨Dict.empty, [], Dict.empty⟩

def notificationsFor (r : Repository) (tenantId recipientId : String) : List Notification :=
  r.notifications.values.filter fun n => n.tenantId = tenantId && n.recipientId = recipientId

def notificationFor (r : Repository) (tenantId recipientId notificationId : String) :
    Option Notification :=
  (r.notifications.get? notificationId).filter fun n =>
    n.tenantId = tenantId && n.recipientId = recipientId

/-- `insert_if_absent`, which stored something if the key is new. -/
def insertIfAbsent (r : Repository) (dedupeKey : String) (item : Notification) : Repository :=
  if dedupeKey ∈ r.dedupe then r
  else
    { r with
      notifications := r.notifications.set item.notificationId item
      dedupe := dedupeKey :: r.dedupe }

end Repository

structure State where
  repository : Repository
  audit : AuditEventStore

abbrev Op (α : Type) := Call State Error α

/-- `self._audit.append`, that the audit store may refuse for a reason of its own. -/
def appendAudit (prim : Primitives) (refusal : Option AuditError) (draft : AuditEventDraft) :
    Op PUnit := fun s =>
  match refusal with
  | some e => (.error (.audit e), s)
  | none =>
    match Audit.append prim.toPrimitives draft s.audit with
    | (.ok _, audit) => (.ok ⟨⟩, { s with audit := audit })
    | (.error e, audit) => (.error (.audit e), { s with audit := audit })

/-! ## Publishing -/

/-- A candidate, and what happens when it is its turn: the status of a denial, the time, and whether
the audit store refuses. -/
structure Candidate where
  principal : IdentityPrincipal
  denial : Option Nat
  clock : Option DateTime
  refusal : Option AuditError

def dedupeKey (event : NotificationEvent) (principal : IdentityPrincipal) : String :=
  event.eventId ++ "|" ++ principal.userId ++ "|" ++ event.kind

/-- `hashlib.sha256(text.encode("utf-8")).hexdigest()[:24]`. -/
def shortDigest (prim : Primitives) (text : String) : String :=
  String.ofList ((prim.sha256 text).toList.take 24)

/-- The notification that `publish` makes for a candidate. -/
def newNotification (prim : Primitives) (event : NotificationEvent) (principal : IdentityPrincipal)
    (now : DateTime) : Notification :=
  let digest := shortDigest prim (dedupeKey event principal)
  { notificationId := "notification-" ++ digest
    tenantId := event.tenantId
    workspaceId := event.workspaceId
    recipientId := principal.userId
    kind := event.kind
    severity := event.severity
    title := event.title
    summary := event.summary
    sourceEventId := event.eventId
    resourceType := event.resourceType
    resourceId := event.resourceId
    deepLink := event.deepLink
    auditEventId := "audit-notification-" ++ digest
    traceId := event.traceId
    deliveryState := .delivered
    createdAt := now
    deliveredAt := some now
    readAt := none
    version := 1 }

def createdDraft (event : NotificationEvent) (item : Notification) : AuditEventDraft where
  eventId := some item.auditEventId
  occurredAt := some item.createdAt
  actorId := some "notification-service"
  actorType := some .service
  tenantId := some event.tenantId
  workspaceId := some (some event.workspaceId)
  action := some "notification.created"
  targetType := some "notification"
  targetId := some item.notificationId
  outcome := some .succeeded
  traceId := some event.traceId
  policyVersion := some event.policyVersion
  before := .none
  after := .mapping true [(some "recipient_id", .str item.recipientId),
    (some "kind", .str event.kind), (some "delivery_state", .str "delivered")]
  metadata := .mapping true [(some "source_event_id", .str event.eventId),
    (some "channel", .str "in_app")]

/-- The candidate is of the event's tenant and has access now. -/
def Candidate.Admitted (event : NotificationEvent) (c : Candidate) : Prop :=
  c.principal.tenantId = event.tenantId ∧ c.denial = none

instance (event : NotificationEvent) (c : Candidate) : Decidable (c.Admitted event) :=
  inferInstanceAs (Decidable (_ ∧ _))

/-- The turn of one candidate in `publish`. -/
def publishTo (prim : Primitives) (event : NotificationEvent) (c : Candidate) :
    Op (Option Notification) :=
  if ¬c.Admitted event then pure none
  else do
    let now ← Call.query fun _ => now c.clock
    let item := newNotification prim event c.principal now
    let key := dedupeKey event c.principal
    let s ← Call.get
    if key ∈ s.repository.dedupe then pure none
    else do
      Call.modify fun s => { s with repository := s.repository.insertIfAbsent key item }
      appendAudit prim c.refusal (createdDraft event item)
      return some item

/-- The loop of `publish`. -/
def publishAll (prim : Primitives) (event : NotificationEvent) :
    List Candidate → Op (List Notification)
  | [] => pure []
  | c :: cs => do
    let item ← publishTo prim event c
    let items ← publishAll prim event cs
    return item.toList ++ items

def publish (prim : Primitives) (nativeRoutes : List String) (event : NotificationEvent)
    (candidates : List Candidate) : Op (List Notification) := do
  Call.query fun _ => validateEvent prim nativeRoutes event
  publishAll prim event candidates

/-! ## Reading one -/

/-- The arguments of `mark_read`, and what happens during the call. -/
structure MarkRead where
  principal : IdentityPrincipal
  notificationId : String
  expectedEtag : String
  idempotencyKey : String
  requestedState : String
  traceId : String
  policyVersion : String
  denial : Option Nat
  clock : Option DateTime
  refusal : Option AuditError

def MarkRead.fingerprint (prim : Primitives) (r : MarkRead) : String :=
  prim.sha256 (r.principal.userId ++ "|" ++ r.notificationId ++ "|" ++ r.requestedState ++ "|" ++
    r.expectedEtag)

/-- `audit_draft`. -/
def readDraft (r : MarkRead) (eventId : String) (now : DateTime) (before after : Notification) :
    AuditEventDraft where
  eventId := some eventId
  occurredAt := some now
  actorId := some r.principal.userId
  actorType := some .user
  tenantId := some r.principal.tenantId
  workspaceId := some (some before.workspaceId)
  action := some "notification.read"
  targetType := some "notification"
  targetId := some before.notificationId
  outcome := some .succeeded
  traceId := some r.traceId
  policyVersion := some r.policyVersion
  before := .mapping true [(some "state", .str "unread"), (some "version", .int before.version)]
  after := .mapping true [(some "state", .str "read"), (some "version", .int after.version)]
  metadata := .mapping true [(some "source_event_id", .str before.sourceEventId)]

def getNotification (prim : Primitives) (nativeRoutes : List String) (denial : Option Nat)
    (notificationId : String) (found : Option Notification) : Except Error Notification := do
  checkedId notificationId
  match found with
  | none => fail "RESOURCE_UNAVAILABLE" 404
  | some item =>
    authorize denial
    safeDeepLink prim nativeRoutes item.deepLink
    return item

/-- The checks of `mark_read` before it reads the notification. -/
def checkRead (r : MarkRead) : Except Error Unit := do
  checkedId r.idempotencyKey
  if r.idempotencyKey.toList.length < 16 then fail "INVALID_INPUT"
  if r.requestedState ≠ ReadState.read.value then fail "IDEMPOTENCY_CONFLICT" 409

def Notification.asRead (n : Notification) (now : DateTime) : Notification :=
  { n with readAt := some now, version := n.version + 1 }

def transitionRead (prim : Primitives) (r : MarkRead) (notificationId : String) (now : DateTime) :
    Op Notification := do
  let s ← Call.get
  match s.repository.idempotency.get? r.idempotencyKey with
  | some (fingerprint, item) => do
    Call.ensure (fingerprint = r.fingerprint prim)
      (.notification { code := "IDEMPOTENCY_CONFLICT", httpStatus := 409 })
    return item
  | none => do
    let item ← Call.require (fun s => s.repository.notificationFor r.principal.tenantId
      r.principal.userId notificationId)
      (.notification { code := "RESOURCE_UNAVAILABLE", httpStatus := 404 })
    Call.ensure (r.expectedEtag = item.etag)
      (.notification { code := "VERSION_CONFLICT", httpStatus := 412 })
    Call.ensure (item.readAt = none)
      (.notification { code := "INVALID_STATE_TRANSITION", httpStatus := 409 })
    let updated := item.asRead now
    appendAudit prim r.refusal (readDraft r
      ("audit-notification-read-" ++ shortDigest prim r.idempotencyKey) now item updated)
    Call.modify fun s =>
      { s with repository :=
        { s.repository with
          notifications := s.repository.notifications.set notificationId updated
          idempotency := s.repository.idempotency.set r.idempotencyKey
            (r.fingerprint prim, updated) } }
    return updated

def markRead (prim : Primitives) (nativeRoutes : List String) (r : MarkRead) : Op Notification := do
  Call.query fun _ => checkRead r
  let item ← Call.query fun s => getNotification prim nativeRoutes r.denial r.notificationId
    (s.repository.notificationFor r.principal.tenantId r.principal.userId r.notificationId)
  let now ← Call.query fun _ => now r.clock
  transitionRead prim r item.notificationId now

def encodeCursor (prim : Primitives) (itemId : String) : String :=
  let payload := itemId.toList.map (·.toNat)
  let digest := (prim.hmac payload).take 16
  String.ofList (Base64.encode (payload ++ '.'.toNat :: digest))

/-- `raw.rsplit(b".", 1)`, where there is a dot. -/
def rsplitDot (raw : List Nat) : Option (List Nat × List Nat) :=
  if '.'.toNat ∈ raw then
    let digest := (raw.reverse.takeWhile (· ≠ '.'.toNat)).reverse
    some (raw.take (raw.length - digest.length - 1), digest)
  else none

def decodeCursor (prim : Primitives) (cursor : String) : Except Error String :=
  if cursor = "" ∨ 512 < cursor.toList.length then fail "INVALID_CURSOR"
  else if cursor.toList.any fun c => 128 ≤ c.toNat then fail "INVALID_CURSOR"
  else
    match (Base64.decode (Base64.pad cursor.toList)).bind rsplitDot with
    | none => fail "INVALID_CURSOR"
    | some (payload, digest) =>
      if payload.any fun b => 128 ≤ b then fail "INVALID_CURSOR"
      else
        let itemId := String.ofList (payload.map Char.ofNat)
        if digest ≠ (prim.hmac payload).take 16 ∨ ¬isSafeId itemId then fail "INVALID_CURSOR"
        else .ok itemId

/-! ## Listing -/

/-- The arguments of `list_notifications` that stay the same from page to page. -/
structure Query where
  principal : IdentityPrincipal
  limit : Int
  filters : List (String × String)
  search : Option String

structure NotificationPage where
  items : List Notification
  nextCursor : Option String
  unreadCount : Nat

abbrev Access := Notification → Option Nat

/-- The checks of one notification in `_visible_notifications`. -/
def visible (prim : Primitives) (nativeRoutes : List String) (access : Access) (n : Notification) :
    Except Error Unit := do
  authorize (access n)
  safeDeepLink prim nativeRoutes n.deepLink

/-- `sorted(…, key=…, reverse=True)`. -/
def sorted (items : List Notification) : List Notification :=
  items.insertionSort fun a b => a.sortKey ≤ b.sortKey

def visibleNotifications (prim : Primitives) (nativeRoutes : List String) (access : Access)
    (principal : IdentityPrincipal) (r : Repository) : Except Error (List Notification) := do
  let candidates := r.notificationsFor principal.tenantId principal.userId
  candidates.forM (visible prim nativeRoutes access)
  return sorted candidates

def filterBy (filters : List (String × String)) : Except Error (Notification → Bool) :=
  match filters with
  | [] => .ok fun _ => true
  | [(key, value)] =>
    if key = "state" then .ok fun n => n.readState.value = value
    else if key = "kind" then .ok fun n => n.kind = value
    else if key = "severity" then .ok fun n => n.severity = value
    else fail "INVALID_FILTER"
  | _ => fail "INVALID_FILTER"

def searchBy (prim : Primitives) (search : Option String) : Except Error (Notification → Bool) :=
  match search with
  | none => .ok fun _ => true
  | some search => do
    let term := prim.casefold (← plainText search 128)
    return fun n => decide (term.toList <:+: (prim.casefold n.title).toList) ||
      decide (term.toList <:+: (prim.casefold n.summary).toList)

def startOf (prim : Primitives) (cursor : Option String) (items : List Notification) :
    Except Error Nat :=
  match cursor with
  | none => .ok 0
  | some cursor => do
    let afterId ← decodeCursor prim cursor
    match items.findIdx? fun n => n.notificationId = afterId with
    | none => fail "INVALID_CURSOR"
    | some index => return index + 1

def listNotifications (prim : Primitives) (nativeRoutes : List String) (q : Query)
    (cursor : Option String) (access recount : Access) (r : Repository) :
    Except Error NotificationPage := do
  if ¬(1 ≤ q.limit ∧ q.limit ≤ 200) then fail "INVALID_INPUT"
  let items ← visibleNotifications prim nativeRoutes access q.principal r
  let byFilter ← filterBy q.filters
  let bySearch ← searchBy prim q.search
  let items := (items.filter byFilter).filter bySearch
  let start ← startOf prim cursor items
  let page := (items.drop start).take q.limit.toNat
  let nextCursor :=
    if start + q.limit.toNat < items.length then
      page.getLast?.map (encodeCursor prim ·.notificationId)
    else none
  let counted ← visibleNotifications prim nativeRoutes recount q.principal r
  return { items := page, nextCursor, unreadCount := counted.countP (·.readAt = none) }

end DaonUser.Notifications
