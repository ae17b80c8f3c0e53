import DaonUser.Audit.Head
import DaonUser.Notifications.Recorded

/-!
# Notifications: the repository in PostgreSQL

`ScopedPostgresNotificationRepository` keeps the audit events in an outbox of its own, in the transaction
that changes the notification, and stores no notification that `publish` makes. A row of `notifications`
stands for its join with `notification_details`. The notices of Studio approvals have another repository,
which is left out.
-/

namespace DaonUser.Notifications

open Lib Audit

namespace Postgres

/-! ## Rows -/

/-- A row of `idempotency_records` whose operation is `notification.read`. -/
structure ReceiptRow where
  tenantId : String
  workspaceId : String
  actorId : String
  idempotencyKey : String
  requestFingerprint : String
  notificationId : String
  readAt : DateTime
  version : Nat

/-- A row of `notification_audit_outbox`. Its `draft` is what the checks of the draft returned. -/
structure OutboxRow where
  eventId : String
  tenantId : String
  workspaceId : String
  recipientId : String
  notificationId : String
  sourceEventId : String
  action : String
  draft : AuditFields

structure Rows where
  notifications : List Notification
  receipts : List ReceiptRow
  outbox : List OutboxRow

abbrev Op (α : Type) := Call Rows Error α

/-- The tenant and the recipient of a repository, and the workspaces that it combines. -/
structure Scope where
  tenantId : String
  recipientId : String
  workspaceIds : List String

/-- What happens in the database during a call: whether the target of a notification is accessible each
of the three times it is read, whether the account is active, and whether the transaction commits. -/
structure Database where
  resolvesFirst : Notification → Bool
  resolvesAgain : Notification → Bool
  resolvesInside : Notification → Bool
  active : Bool
  commits : Bool

def Rows.find (rows : Rows) (tenantId workspaceId recipientId notificationId : String) :
    Option Notification :=
  rows.notifications.find? fun n => n.tenantId = tenantId && n.workspaceId = workspaceId &&
    n.recipientId = recipientId && n.notificationId = notificationId

/-- `PostgresNotificationRepository._scope` and `ScopedPostgresNotificationRepository._scope`. -/
def Scope.check (scope : Scope) (tenantId recipientId : String) : Except Error Unit :=
  if tenantId = scope.tenantId ∧ recipientId = scope.recipientId then .ok ()
  else fail "RESOURCE_UNAVAILABLE" 404

/-- `notification_for`: the first workspace that has an accessible one. -/
def notificationFor (scope : Scope) (resolves : Notification → Bool) (notificationId : String)
    (rows : Rows) : Option Notification :=
  scope.workspaceIds.findSome? fun workspaceId =>
    (rows.find scope.tenantId workspaceId scope.recipientId notificationId).filter resolves

/-- The version in `re.fullmatch(r'"notification-([1-9][0-9]*)"', expected_etag)`. -/
def etagVersion (etag : String) : Option Nat :=
  if "\"notification-".toList.isPrefixOf etag.toList ∧ etag.toList.getLast? = some '"' then
    let digits := (etag.toList.drop "\"notification-".toList.length).dropLast
    if digits.head?.any (fun c => c.isDigit && c ≠ '0') ∧ digits.all (·.isDigit) then
      some (Nat.ofDigitChars 10 digits 0)
    else none
  else none

/-! ## The transaction that reads a notification -/

/-- The greatest `integer`. -/
def maxInteger : Nat := 2 ^ 31 - 1

/-- `RAISE EXCEPTION`, as `transaction` maps its state. -/
def raised (code : String) (httpStatus : Nat) : Error := .notification { code, httpStatus }

def readEventId (prim : Primitives) (n : Notification) : String :=
  "audit-notification-read-" ++ String.ofList ((prim.sha256 (n.tenantId ++ "|" ++ n.workspaceId ++
    "|" ++ n.recipientId ++ "|" ++ n.notificationId)).toList.take 32)

def sameKey (n m : Notification) : Bool :=
  n.tenantId = m.tenantId && n.notificationId = m.notificationId

/-- `public.read_notification_inbox`. -/
def readNotificationInbox (db : Database) (actorId : String) (n : Notification) (version : Nat)
    (key fingerprint : String) (draft : AuditFields) : Op (DateTime × Nat) := do
  Call.ensure (version ≤ maxInteger) (raised "DATABASE_UNAVAILABLE" 503)
  Call.ensure (1 ≤ version ∧ isSafeId key ∧ 16 ≤ key.toList.length ∧ isDigest fingerprint)
    (raised "INVALID_INPUT" 400)
  let parent ← Call.require (·.find n.tenantId n.workspaceId actorId n.notificationId)
    (raised "RESOURCE_UNAVAILABLE" 404)
  Call.ensure db.active (raised "RESOURCE_UNAVAILABLE" 404)
  let rows ← Call.get
  match rows.receipts.find? fun r => r.tenantId = n.tenantId && r.workspaceId = n.workspaceId &&
      r.actorId = actorId && r.idempotencyKey = key with
  | some receipt => do
    Call.ensure (receipt.requestFingerprint = fingerprint ∧
      receipt.notificationId = n.notificationId) (raised "IDEMPOTENCY_CONFLICT" 409)
    return (receipt.readAt, receipt.version)
  | none => do
    Call.ensure (parent.version = version) (raised "VERSION_CONFLICT" 412)
    Call.ensure (parent.readAt = none) (raised "INVALID_STATE_TRANSITION" 409)
    Call.ensure (draft.actorId = actorId) (raised "DATABASE_UNAVAILABLE" 503)
    let updated := parent.asRead draft.occurredAt
    Call.modify fun rows =>
      { rows with
        notifications := rows.notifications.map fun m => if sameKey m parent then updated else m
        receipts := rows.receipts ++ [⟨n.tenantId, n.workspaceId, actorId, key, fingerprint,
          n.notificationId, draft.occurredAt, updated.version⟩] }
    -- the trigger of the outbox, its key and its unique constraint
    Call.ensure (isSafeId draft.traceId ∧ isSafeId draft.policyVersion)
      (raised "DATABASE_UNAVAILABLE" 503)
    let rows ← Call.get
    Call.ensure (∀ row ∈ rows.outbox, row.eventId ≠ draft.eventId ∧
      ¬(row.tenantId = n.tenantId ∧ row.notificationId = n.notificationId ∧
        row.action = "notification.read")) (raised "IDEMPOTENCY_CONFLICT" 409)
    Call.modify fun rows =>
      { rows with outbox := rows.outbox ++ [⟨draft.eventId, n.tenantId, n.workspaceId, actorId,
        n.notificationId, parent.sourceEventId, "notification.read", draft⟩] }
    return (draft.occurredAt, updated.version)

/-- `PostgresNotificationRepository.transition_read`, in the workspace of the notification. -/
def transitionRead (prim : Primitives) (db : Database) (scope : Scope) (r : MarkRead)
    (item : Notification) (now : DateTime) : Op Notification := do
  let version ← Call.require (fun _ => etagVersion r.expectedEtag) (raised "VERSION_CONFLICT" 412)
  Call.atomically do
    let current ← Call.require (fun rows => (rows.find scope.tenantId item.workspaceId
      scope.recipientId item.notificationId).filter db.resolvesInside)
      (raised "RESOURCE_UNAVAILABLE" 404)
    let original := { current with version := version, readAt := none }
    let draft ← Call.query fun _ => (validateDraft prim.toPrimitives (readDraft r
      (readEventId prim current) now original (original.asRead now))).mapError Error.audit
    let (readAt, version) ← readNotificationInbox db scope.recipientId current version
      r.idempotencyKey (r.fingerprint prim) draft
    Call.ensure db.commits (raised "DATABASE_UNAVAILABLE" 503)
    return { current with readAt := some readAt, version := version }

def markRead (prim : Primitives) (nativeRoutes : List String) (db : Database) (scope : Scope)
    (r : MarkRead) : Op Notification := do
  Call.query fun _ => checkRead r
  Call.query fun _ => checkedId r.notificationId
  Call.query fun _ => scope.check r.principal.tenantId r.principal.userId
  let item ← Call.query fun rows => getNotification prim nativeRoutes r.denial r.notificationId
    (notificationFor scope db.resolvesFirst r.notificationId rows)
  let now ← Call.query fun _ => now r.clock
  let item ← Call.require (notificationFor scope db.resolvesAgain item.notificationId)
    (raised "RESOURCE_UNAVAILABLE" 404)
  transitionRead prim db scope r item now

/-- The turn of one candidate in `publish`: `insert_if_absent` always raises. -/
def publishTo (event : NotificationEvent) (c : Candidate) : Except Error Unit :=
  if ¬c.Admitted event then .ok ()
  else do
    let _ ← now c.clock
    fail "NOTIFICATION_SOURCE_NOT_CONNECTED" 503

def publish (prim : Primitives) (nativeRoutes : List String) (event : NotificationEvent)
    (candidates : List Candidate) : Op (List Notification) := do
  Call.query fun _ => validateEvent prim nativeRoutes event
  Call.query fun _ => candidates.forM (publishTo event)
  return []

/-! ## Runs -/

structure Input where
  call : Notifications.Input
  scope : Scope
  db : Database

def machine (prim : Primitives) (nativeRoutes : List String) (rows : Rows) :
    Machine Rows Input (Except Error (List Notification)) where
  init := rows
  step rows i :=
    match i.call with
    | .publish event candidates => publish prim nativeRoutes event candidates rows
    | .markRead r => ((fun item => [item]) <$> markRead prim nativeRoutes i.db i.scope r) rows

def concerns (action : String) (n : Notification) (row : OutboxRow) : Bool :=
  row.action = action && row.tenantId = n.tenantId && row.notificationId = n.notificationId

/-- Each notification has one outbox row for its creation, and one for its reading if it was read. -/
structure Recorded (rows : Rows) : Prop where
  created : ∀ n ∈ rows.notifications, rows.outbox.countP (concerns "notification.created" n) = 1
  read : ∀ n ∈ rows.notifications,
    rows.outbox.countP (concerns "notification.read" n) = if n.readAt = none then 0 else 1

variable {prim : Primitives} {nativeRoutes : List String}

/-- A notification is read, and its outbox row is there. -/
def Read (rows rows' : Rows) : Prop :=
  ∃ parent ∈ rows.notifications, parent.readAt = none ∧ ∃ row now receipts,
    (row.action = "notification.read" ∧ row.tenantId = parent.tenantId ∧
      row.notificationId = parent.notificationId) ∧
    rows' =
      { notifications := rows.notifications.map fun m =>
          if sameKey m parent then parent.asRead now else m
        receipts := receipts
        outbox := rows.outbox ++ [row] }

theorem find_eq_some {rows : Rows} {tenantId workspaceId recipientId notificationId : String}
    {n : Notification} (h : rows.find tenantId workspaceId recipientId notificationId = some n) :
    n ∈ rows.notifications ∧ n.tenantId = tenantId ∧ n.notificationId = notificationId := by
  have hkey := List.find?_some h
  simp only [Bool.and_eq_true, decide_eq_true_eq] at hkey
  exact ⟨List.mem_of_find?_eq_some h, hkey.1.1.1, hkey.2⟩

theorem readNotificationInbox_spec (db : Database) (actorId : String) (n : Notification)
    (version : Nat) (key fingerprint : String) (draft : AuditFields) (rows : Rows) :
    Call.Returns (readNotificationInbox db actorId n version key fingerprint draft) rows
      fun _ rows' => rows' = rows ∨ Read rows rows' := by
  simp only [readNotificationInbox, Call.returns_bind, Call.returns_ensure, Call.returns_require,
    Call.returns_get]
  intro _ _ parent hparent _
  split
  · simp only [Call.returns_bind, Call.returns_ensure, Call.returns_pure]
    exact fun _ => Or.inl trivial
  · simp only [Call.returns_bind, Call.returns_ensure, Call.returns_modify, Call.returns_get,
      Call.returns_pure]
    intro _ hunread _ _ _
    obtain ⟨hmem, htenant, hid⟩ := find_eq_some hparent
    exact Or.inr ⟨parent, hmem, hunread, _, _, _, ⟨rfl, htenant.symm, hid.symm⟩, rfl⟩

theorem returns_markRead (nativeRoutes : List String) (db : Database) (scope : Scope) (r : MarkRead)
    (rows : Rows) : Call.Returns (markRead prim nativeRoutes db scope r) rows
      fun _ rows' => rows' = rows ∨ Read rows rows' := by
  simp only [markRead, transitionRead, Call.returns_bind, Call.returns_query, Call.returns_require,
    Call.returns_atomically, Call.returns_ensure, Call.returns_pure]
  intro _ _ _ _ _ _ _ _ _ _ _ _ _ _ current _ _ _
  exact (readNotificationInbox_spec db scope.recipientId current _ _ _ _ rows).mono
    fun _ _ h _ => h

theorem reverts_markRead (nativeRoutes : List String) (db : Database) (scope : Scope) (r : MarkRead)
    (rows : Rows) : Call.Reverts (markRead prim nativeRoutes db scope r) rows := by
  simp [markRead, transitionRead]

theorem publish_spec (event : NotificationEvent) (candidates : List Candidate) (rows : Rows) :
    Call.Post (publish prim nativeRoutes event candidates) rows fun _ rows' => rows' = rows :=
  Call.post_query (fun _ _ => rfl) fun _ _ => Call.post_query (fun _ _ => rfl) fun _ _ => rfl

theorem concerns_asRead (action : String) (n : Notification) (now : DateTime) :
    concerns action (n.asRead now) = concerns action n := rfl

theorem Read.recorded {rows rows' : Rows} (h : Read rows rows') (hrows : Recorded rows) :
    Recorded rows' := by
  obtain ⟨parent, hparent, hunread, row, now, receipts, ⟨haction, htenant, hid⟩, rfl⟩ := h
  have hcount : ∀ action m, (rows.outbox ++ [row]).countP (concerns action m) =
      rows.outbox.countP (concerns action m) + if concerns action m row then 1 else 0 := by
    intro action m
    rw [List.countP_append, List.countP_singleton]
  have hconcerns : ∀ action m, concerns action m row = (decide ("notification.read" = action) &&
      sameKey m parent) := by
    intro action m
    rw [concerns, haction, htenant, hid, sameKey, Bool.and_assoc]
    simp only [eq_comm]
  constructor
  · simp only [List.forall_mem_map]
    intro m hm
    rw [hcount, hconcerns]
    split
    · simpa [concerns_asRead] using hrows.created parent hparent
    · simpa using hrows.created m hm
  · simp only [List.forall_mem_map]
    intro m hm
    rw [hcount, hconcerns]
    split
    · have hbefore := hrows.read parent hparent
      rw [if_pos hunread] at hbefore
      have hself : sameKey (parent.asRead now) parent = true := by
        simp [sameKey, Notification.asRead]
      rw [concerns_asRead, hbefore, hself]
      simp [Notification.asRead]
    · next hother => simpa [hother] using hrows.read m hm

theorem step_cases (rows₀ rows : Rows) (i : Input) :
    (machine prim nativeRoutes rows₀).next rows i = rows ∨
      (∃ items, (machine prim nativeRoutes rows₀).answer rows i = .ok items) ∧
        Read rows ((machine prim nativeRoutes rows₀).next rows i) := by
  obtain ⟨call, scope, db⟩ := i
  cases call with
  | publish event candidates => exact Or.inl (publish_spec event candidates rows)
  | markRead r =>
    unfold Machine.next Machine.answer machine
    simp only [Call.map_apply]
    rcases hcall : markRead prim nativeRoutes db scope r rows with ⟨e | item, rows'⟩
    · exact Or.inl (reverts_markRead nativeRoutes db scope r rows e rows' hcall)
    · rcases returns_markRead nativeRoutes db scope r rows item rows' hcall with hsame | hread
      · exact Or.inl hsame
      · exact Or.inr ⟨⟨[item], rfl⟩, hread⟩

/-- In every state of a run each notification has its outbox rows, and a call that raised has changed
nothing. -/
theorem recorded_run (prim : Primitives) (nativeRoutes : List String) {rows : Rows}
    (h : Recorded rows) (calls : List Input) :
    Recorded ((machine prim nativeRoutes rows).run calls) ∧
      ∀ e ∈ (machine prim nativeRoutes rows).events calls,
        (∃ error, e.output = .error error) → e.post = e.pre := by
  constructor
  · refine (machine prim nativeRoutes rows).run_induction h (fun s i hs => ?_) calls
    rcases step_cases rows s i with hsame | ⟨-, hread⟩
    · rw [hsame]
      exact hs
    · exact hread.recorded hs
  · intro e he
    obtain ⟨s, i, -, -, rfl⟩ := (machine prim nativeRoutes rows).mem_events he
    rintro ⟨error, herror⟩
    rcases step_cases rows s i with hsame | ⟨⟨items, hreturns⟩, -⟩
    · exact hsame
    · rw [Machine.event, hreturns] at herror
      cases herror

end Postgres

/-! ## A refused event -/

namespace Sample

def digest : String := "f30ab2f83d5b6f0bd8dc8fe99c82efd73aa6f1d85bf0ba535c7f35588036103c"

def primitives : Primitives where
  sha256 text := if text = "localhost|user-1|warning" then digest else Audit.Sample.emptyHash
  digest text := by split_ifs <;> decide
  casefold := Audit.Sample.primitives.casefold
  ipAddress := Audit.Sample.primitives.ipAddress
  hostname := Audit.Sample.primitives.hostname
  urlsplit value := some ⟨"", "", value, "", ""⟩
  hmac _ := List.replicate 32 0
  hmac_bytes payload b hb := by simp [List.eq_of_mem_replicate hb]
  hmac_length _ := List.length_replicate

def event : NotificationEvent where
  eventId := "localhost"
  tenantId := "tenant-1"
  workspaceId := "workspace-1"
  kind := "warning"
  severity := "warning"
  title := "title"
  summary := "summary"
  resourceType := "run"
  resourceId := "run-1"
  deepLink := "/operations"
  traceId := "trace-1"
  policyVersion := "policy-1"

def time : DateTime := (Audit.Sample.fields .none).occurredAt

def candidate : Candidate := ⟨⟨"user-1", "tenant-1"⟩, none, some time, none⟩

def draft : AuditEventDraft :=
  createdDraft event (newNotification primitives event candidate.principal time)

theorem validateDraft_draft : (validateDraft primitives.toPrimitives draft).toOption.isNone = true := by
  decide

end Sample

/-- The audit store takes no event whose metadata name a host: a notification of it is stored without
one. -/
theorem not_upheld_of_host :
    ¬Upheld Sample.primitives [] [.publish Sample.event [Sample.candidate]] := by
  intro h
  have hinit : Upheld Sample.primitives [] [] :=
    ⟨recorded_init, by simp [Machine.events, Machine.eventsFrom]⟩
  have haccepted := (upheld_concat [] (.publish Sample.event [Sample.candidate]) hinit).1 h
  have hvalid : validateEvent Sample.primitives [] Sample.event = .ok () :=
    Call.ok_of_toOption (by decide)
  have hclear := haccepted hvalid
  have htime : now Sample.candidate.clock = .ok Sample.time := rfl
  have hadmitted : Sample.candidate.Admitted Sample.event := ⟨rfl, rfl⟩
  have hnew : dedupeKey Sample.event Sample.candidate.principal ∉
      ((machine Sample.primitives []).run []).repository.dedupe := List.not_mem_nil
  simp only [Clear, if_neg (not_not.2 hadmitted), htime, if_neg hnew] at hclear
  obtain ⟨-, created, audit, happend, -⟩ := hclear
  have hspec := append_spec Sample.primitives.toPrimitives Sample.draft
    ((machine Sample.primitives []).run []).audit
  rw [Call.Post, Sample.draft, happend] at hspec
  have hnone := Sample.validateDraft_draft
  rw [Sample.draft, hspec.1.fields] at hnone
  cases hnone

/-- In the reference repository every notification of a run has its audit events at every moment, and no
call that raised has changed anything, exactly when the audit store accepts the event of every notification
that a call stores, and after it the clock does not fail in that call. In PostgreSQL they are there in
every run, from any rows in which they are. -/
theorem recorded_iff (prim : Primitives) (nativeRoutes : List String) :
    (∀ calls, (∀ pre, pre <+: calls → Upheld prim nativeRoutes pre) ↔
      (machine prim nativeRoutes).AllSteps (Accepted prim nativeRoutes)
        (machine prim nativeRoutes).init calls) ∧
    ∀ rows, Postgres.Recorded rows → ∀ calls,
      Postgres.Recorded ((Postgres.machine prim nativeRoutes rows).run calls) ∧
        ∀ e ∈ (Postgres.machine prim nativeRoutes rows).events calls,
          (∃ error, e.output = .error error) → e.post = e.pre :=
  ⟨upheld_iff prim nativeRoutes, fun _ => Postgres.recorded_run prim nativeRoutes⟩

end DaonUser.Notifications
