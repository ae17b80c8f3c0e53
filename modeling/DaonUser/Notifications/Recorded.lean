import DaonUser.Audit.Chain
import DaonUser.Lib.Machine
import DaonUser.Notifications.Model

/-!
# Notifications: what the audit store says of them

`publish` stores a notification before it appends its audit event, so a draft that the audit store refuses
leaves a notification without one, and no later call adds it. `mark_read` appends first. `upheld_iff` says
when every notification of a run has the audit events that it should have and no call that raises leaves
anything behind.
-/

namespace DaonUser.Notifications

open Lib Audit

variable {s s' : State} {c : Candidate} {created : AuditEvent} {cs : List Candidate}

/-! ## Runs -/

inductive Input where
  | publish (event : NotificationEvent) (candidates : List Candidate)
  | markRead (r : MarkRead)

def machine (prim : Primitives) (nativeRoutes : List String) :
    Machine State Input (Except Error (List Notification)) where
  init := ⟨Repository.empty, [], ∅⟩
  step s
    | .publish event candidates => publish prim nativeRoutes event candidates s
    | .markRead r => ((fun item => [item]) <$> markRead prim nativeRoutes r) s

def concerns (action notificationId : String) (event : AuditEvent) : Bool :=
  event.action = action && event.targetType = "notification" && event.targetId = notificationId

/-- Each notification has one event for its creation, and one for its reading if it was read. -/
structure Recorded (s : State) : Prop where
  created : ∀ id n, s.repository.notifications.get? id = some n →
    s.audit.events.countP (concerns "notification.created" id) = 1
  read : ∀ id n, s.repository.notifications.get? id = some n →
    s.audit.events.countP (concerns "notification.read" id) = if n.readAt = none then 0 else 1

/-- A call that raised has changed neither the notifications nor the audit events. -/
def Reverted (e : Event State Input (Except Error (List Notification))) : Prop :=
  (∃ error, e.output = .error error) →
    e.post.repository.notifications = e.pre.repository.notifications ∧
      e.post.audit.events = e.pre.audit.events

/-- The candidates from one on, when some were stored before it or not: each one that is stored has its
event accepted, and where one was stored the clock does not fail later. -/
def Clear (prim : Primitives) (event : NotificationEvent) :
    Bool → List String → AuditEventStore → List Candidate → Prop
  | _, _, _, [] => True
  | stored, keys, audit, c :: cs =>
    if ¬c.Admitted event then Clear prim event stored keys audit cs
    else
      match now c.clock with
      | .error _ => stored = false
      | .ok now =>
        if dedupeKey event c.principal ∈ keys then Clear prim event stored keys audit cs
        else
          c.refusal = none ∧ ∃ created audit',
            Audit.append prim.toPrimitives
              (createdDraft event (newNotification prim event c.principal now)) audit =
                (.ok created, audit') ∧
            Clear prim event true (dedupeKey event c.principal :: keys) audit' cs

/-- The audit events of a call are accepted before anything else goes wrong. -/
def Accepted (prim : Primitives) (nativeRoutes : List String) (s : State) : Input → Prop
  | .publish event candidates => validateEvent prim nativeRoutes event = .ok () →
      Clear prim event false s.repository.dedupe s.audit candidates
  | .markRead _ => True

variable {prim : Primitives}

variable (prim) in
theorem appendAudit_cases (refusal : Option AuditError) (draft : AuditEventDraft) (s : State) :
    (∃ event, refusal = none ∧ Appended prim.toPrimitives draft s.audit event ∧
      Audit.append prim.toPrimitives draft s.audit =
        (.ok event, ⟨s.audit.events ++ [event], insert event.eventId s.audit.eventIds⟩) ∧
      appendAudit prim refusal draft s = (.ok ⟨⟩,
        ⟨s.repository, s.audit.events ++ [event], insert event.eventId s.audit.eventIds⟩)) ∨
    ((¬∃ event audit, refusal = none ∧
        Audit.append prim.toPrimitives draft s.audit = (.ok event, audit)) ∧
      ∃ e, appendAudit prim refusal draft s = (.error e, s)) := by
  cases refusal with
  | some e =>
    refine Or.inr ⟨?_, .audit e, rfl⟩
    rintro ⟨event, audit, h, -⟩
    cases h
  | none =>
    have hspec := append_spec prim.toPrimitives draft s.audit
    unfold Call.Post at hspec
    rcases happend : Audit.append prim.toPrimitives draft s.audit with ⟨e | event, audit⟩
    · rw [happend] at hspec
      obtain rfl : audit = s.audit := hspec
      refine Or.inr ⟨?_, .audit e, ?_⟩
      · rintro ⟨event, audit', -, h⟩
        cases h
      · simp only [appendAudit, happend]
    · rw [happend] at hspec
      obtain ⟨happended, rfl⟩ := hspec
      exact Or.inl ⟨event, rfl, happended, rfl, by simp only [appendAudit, happend]⟩

theorem validateText_eq {value : Option String} {fieldName text checked : String}
    (hvalue : value = some text) (h : validateText value fieldName = .ok checked) :
    checked = text := by
  subst hvalue
  simp only [validateText] at h
  split at h
  · cases h
  · split at h
    · cases h
    · exact (Except.ok.inj h).symm

theorem concerns_of_appended {draft : AuditEventDraft} {store : AuditEventStore} {event : AuditEvent}
    {action targetId : String} (h : Appended prim.toPrimitives draft store event)
    (haction : draft.action = some action) (htype : draft.targetType = some "notification")
    (htarget : draft.targetId = some targetId) (a id : String) :
    concerns a id event = (decide (action = a) && decide (targetId = id)) := by
  have hfields := validateDraft_iff.1 h.fields
  rw [concerns, validateText_eq haction hfields.action, validateText_eq htype hfields.targetType,
    validateText_eq htarget hfields.targetId, decide_eq_true rfl, Bool.and_true]

def Notification.dedupeKey (n : Notification) : String :=
  n.sourceEventId ++ "|" ++ n.recipientId ++ "|" ++ n.kind

/-- What holds whether or not an event was refused: the keys of what is stored are known, and the
events are of notifications that are stored, under ids that tell which. -/
structure Tracked (s : State) : Prop where
  ids : ∀ id n, s.repository.notifications.get? id = some n → n.notificationId = id
  keys : ∀ id n, s.repository.notifications.get? id = some n → n.dedupeKey ∈ s.repository.dedupe
  eventIds : s.audit.eventIds = idsOf s.audit.events
  stored : ∀ e ∈ s.audit.events, s.repository.notifications.get? e.targetId ≠ none
  created : ∀ e ∈ s.audit.events, e.action = "notification.created" →
    e.eventId = "audit-" ++ e.targetId

def State.withNew (s : State) (key : String) (item : Notification) : State :=
  { s with repository := s.repository.insertIfAbsent key item }

def State.withEvent (s : State) (event : AuditEvent) : State :=
  { s with audit := ⟨s.audit.events ++ [event], insert event.eventId s.audit.eventIds⟩ }

theorem insertIfAbsent_of_new {r : Repository} {key : String} (h : key ∉ r.dedupe)
    (item : Notification) : r.insertIfAbsent key item =
      { r with
        notifications := r.notifications.set item.notificationId item
        dedupe := key :: r.dedupe } := by
  rw [Repository.insertIfAbsent, if_neg h]

theorem Tracked.withNew (h : Tracked s) (item : Notification)
    (hnew : item.dedupeKey ∉ s.repository.dedupe) : Tracked (s.withNew item.dedupeKey item) := by
  rw [State.withNew, insertIfAbsent_of_new hnew]
  refine { ids := fun id n hn => ?_, keys := fun id n hn => ?_, eventIds := h.eventIds,
           stored := fun e he => Dict.get?_set_ne_none (h.stored e he) _ _, created := h.created }
  · rcases Dict.of_get?_set hn with hold | ⟨rfl, rfl⟩
    · exact h.ids id n hold
    · rfl
  · rcases Dict.of_get?_set hn with hold | ⟨rfl, rfl⟩
    · exact List.mem_cons_of_mem _ (h.keys id n hold)
    · exact List.mem_cons_self

theorem Tracked.withEvent (h : Tracked s) (event : AuditEvent)
    (hstored : s.repository.notifications.get? event.targetId ≠ none)
    (hcreated : event.action = "notification.created" → event.eventId = "audit-" ++ event.targetId) :
    Tracked (s.withEvent event) where
  ids := h.ids
  keys := h.keys
  eventIds := by rw [State.withEvent, idsOf_concat, h.eventIds]
  stored e he := by
    rcases List.mem_append.1 he with hold | hnew
    · exact h.stored e hold
    · rw [List.mem_singleton.1 hnew]
      exact hstored
  created e he := by
    rcases List.mem_append.1 he with hold | hnew
    · exact h.created e hold
    · rw [List.mem_singleton.1 hnew]
      exact hcreated

theorem countP_concat (p : AuditEvent → Bool) (events : List AuditEvent) (event : AuditEvent) :
    (events ++ [event]).countP p = events.countP p + if p event then 1 else 0 := by
  rw [List.countP_append, List.countP_singleton]

theorem Recorded.get?_eq_none (h : Recorded s) (ht : Tracked s) {id : String}
    (hfresh : "audit-" ++ id ∉ s.audit.eventIds) : s.repository.notifications.get? id = none := by
  by_contra hstored
  obtain ⟨n, hn⟩ := Option.ne_none_iff_exists'.1 hstored
  have hcount : 0 < s.audit.events.countP (concerns "notification.created" id) := by
    rw [h.created id n hn]
    exact Nat.one_pos
  obtain ⟨e, he, hconcerns⟩ := List.countP_pos_iff.1 hcount
  simp only [concerns, Bool.and_eq_true, decide_eq_true_eq] at hconcerns
  obtain ⟨⟨haction, -⟩, rfl⟩ := hconcerns
  refine hfresh ?_
  rw [ht.eventIds, mem_idsOf, ← ht.created e he haction]
  exact List.mem_map_of_mem he

theorem Tracked.countP_eq_zero (h : Tracked s) {id : String}
    (hnone : s.repository.notifications.get? id = none) (action : String) :
    s.audit.events.countP (concerns action id) = 0 := by
  refine List.countP_eq_zero.2 fun e he hconcerns => ?_
  simp only [concerns, Bool.and_eq_true, decide_eq_true_eq] at hconcerns
  exact h.stored e he (hconcerns.2 ▸ hnone)

theorem Recorded.published (h : Recorded s) (ht : Tracked s) (item : Notification)
    {event : AuditEvent} (hnew : item.dedupeKey ∉ s.repository.dedupe)
    (hnone : s.repository.notifications.get? item.notificationId = none) (hunread : item.readAt = none)
    (hevent : ∀ action id, concerns action id event =
      (decide ("notification.created" = action) && decide (item.notificationId = id))) :
    Recorded ((s.withNew item.dedupeKey item).withEvent event) := by
  have hnotifications : ((s.withNew item.dedupeKey item).withEvent event).repository.notifications =
      s.repository.notifications.set item.notificationId item := by
    rw [State.withEvent, State.withNew, insertIfAbsent_of_new hnew]
  have hevents : ((s.withNew item.dedupeKey item).withEvent event).audit.events =
      s.audit.events ++ [event] := rfl
  constructor
  · intro id n hn
    rw [hnotifications] at hn
    rw [hevents, countP_concat, hevent]
    rcases Dict.of_get?_set hn with hold | ⟨rfl, rfl⟩
    · have hne : item.notificationId ≠ id := by
        rintro rfl
        rw [hnone] at hold
        cases hold
      simpa [hne] using h.created id n hold
    · simp [ht.countP_eq_zero hnone]
  · intro id n hn
    rw [hnotifications] at hn
    rw [hevents, countP_concat, hevent]
    rcases Dict.of_get?_set hn with hold | ⟨rfl, rfl⟩
    · simpa using h.read id n hold
    · simp [ht.countP_eq_zero hnone, hunread]

theorem Recorded.read_event (h : Recorded s) {item updated : Notification}
    {event : AuditEvent} {id : String} {repository : Repository}
    (hitem : s.repository.notifications.get? id = some item) (hunread : item.readAt = none)
    (hread : updated.readAt ≠ none)
    (hrepository : repository.notifications = s.repository.notifications.set id updated)
    (hevent : ∀ action id', concerns action id' event =
      (decide ("notification.read" = action) && decide (id = id'))) :
    Recorded { s.withEvent event with repository } := by
  constructor
  · intro id' n hn
    change s.repository.notifications.get? id = some item at hitem
    change repository.notifications.get? id' = some n at hn
    change (s.audit.events ++ [event]).countP _ = 1
    rw [hrepository] at hn
    rw [countP_concat, hevent]
    rcases Dict.of_get?_set hn with hold | ⟨rfl, rfl⟩
    · simpa using h.created id' n hold
    · simpa using h.created id' item hitem
  · intro id' n hn
    change repository.notifications.get? id' = some n at hn
    change (s.audit.events ++ [event]).countP _ = _
    rw [hrepository, Dict.get?_set] at hn
    rw [countP_concat, hevent]
    split at hn
    · next hsame =>
      subst hsame
      obtain rfl := Option.some.inj hn
      have hbefore := h.read id item hitem
      rw [if_pos hunread] at hbefore
      simp [hbefore, hread]
    · next hne => simpa [hne] using h.read id' n hn

/-! ## Publishing -/

variable {event : NotificationEvent} {nativeRoutes : List String}

structure Fresh (prim : Primitives) (event : NotificationEvent) (s : State) (c : Candidate)
    (now : DateTime) : Prop where
  admitted : c.Admitted event
  time : Notifications.now c.clock = .ok now
  fresh : dedupeKey event c.principal ∉ s.repository.dedupe

abbrev State.asked (prim : Primitives) (event : NotificationEvent) (s : State) (c : Candidate)
    (now : DateTime) : State :=
  s.withNew (dedupeKey event c.principal) (newNotification prim event c.principal now)

theorem publishTo_of_fresh {now : DateTime} (h : Fresh prim event s c now) :
    publishTo prim event c s =
      (appendAudit prim c.refusal (createdDraft event (newNotification prim event c.principal now)) >>=
        fun _ => pure (some (newNotification prim event c.principal now)))
      (s.asked prim event c now) := by
  rw [publishTo, if_neg (not_not.2 h.admitted), Call.query_bind (g := fun _ => Notifications.now c.clock) h.time]
  simp only [Call.get_bind, if_neg h.fresh]
  rfl

inductive Turn (prim : Primitives) (event : NotificationEvent) (s : State) (c : Candidate) : Prop
  | skipped (h : ¬c.Admitted event) (turn : publishTo prim event c s = (.ok none, s))
  | untimed (h : c.Admitted event) {e : Error} (time : Notifications.now c.clock = .error e)
      (turn : publishTo prim event c s = (.error e, s))
  | known (h : c.Admitted event) {now : DateTime} (time : Notifications.now c.clock = .ok now)
      (known : dedupeKey event c.principal ∈ s.repository.dedupe)
      (turn : publishTo prim event c s = (.ok none, s))
  | accepted {now : DateTime} (h : Fresh prim event s c now) {created : AuditEvent}
      (willing : c.refusal = none)
      (appended : Appended prim.toPrimitives
        (createdDraft event (newNotification prim event c.principal now)) s.audit created)
      (append : Audit.append prim.toPrimitives
        (createdDraft event (newNotification prim event c.principal now)) s.audit =
          (.ok created, (s.withEvent created).audit))
      (turn : publishTo prim event c s = (.ok (some (newNotification prim event c.principal now)),
        (s.asked prim event c now).withEvent created))
  | refused {now : DateTime} (h : Fresh prim event s c now)
      (refused : ¬∃ created audit, c.refusal = none ∧ Audit.append prim.toPrimitives
        (createdDraft event (newNotification prim event c.principal now)) s.audit =
          (.ok created, audit))
      {e : Error} (turn : publishTo prim event c s = (.error e, s.asked prim event c now))

variable (prim) in
theorem publishTo_turn (event : NotificationEvent) (s : State) (c : Candidate) :
    Turn prim event s c := by
  by_cases hadmitted : c.Admitted event
  · cases htime : now c.clock with
    | error e =>
      refine .untimed hadmitted htime ?_
      rw [publishTo, if_neg (not_not.2 hadmitted)]
      exact Call.bind_of_error (by rw [Call.query, htime]) _
    | ok now =>
      by_cases hknown : dedupeKey event c.principal ∈ s.repository.dedupe
      · refine .known hadmitted htime hknown ?_
        rw [publishTo, if_neg (not_not.2 hadmitted), Call.query_bind (g := fun _ => Notifications.now c.clock) htime]
        simp only [Call.get_bind, if_pos hknown]
        rfl
      · have hfresh : Fresh prim event s c now := ⟨hadmitted, htime, hknown⟩
        have hturn := publishTo_of_fresh hfresh
        rcases appendAudit_cases prim c.refusal
          (createdDraft event (newNotification prim event c.principal now))
          (s.asked prim event c now) with
          ⟨created, hwilling, happended, happend, hstep⟩ | ⟨hrefused, e, hstep⟩
        · refine .accepted hfresh hwilling happended happend ?_
          rw [hturn, Call.bind_of_ok hstep]
          rfl
        · refine .refused (e := e) hfresh hrefused ?_
          rw [hturn, Call.bind_of_error hstep]
  · refine .skipped hadmitted ?_
    rw [publishTo, if_pos hadmitted]
    rfl

theorem concerns_created {now : DateTime} {principal : IdentityPrincipal} {store : AuditEventStore}
    (h : Appended prim.toPrimitives
      (createdDraft event (newNotification prim event principal now)) store created) :
    ∀ action id, concerns action id created = (decide ("notification.created" = action) &&
      decide ((newNotification prim event principal now).notificationId = id)) :=
  concerns_of_appended h rfl rfl rfl

theorem eventId_created {now : DateTime} {principal : IdentityPrincipal} {store : AuditEventStore}
    (h : Appended prim.toPrimitives
      (createdDraft event (newNotification prim event principal now)) store created) :
    created.eventId = "audit-" ++ (newNotification prim event principal now).notificationId ∧
      created.targetId = (newNotification prim event principal now).notificationId := by
  have hfields := validateDraft_iff.1 h.fields
  refine ⟨?_, validateText_eq rfl hfields.targetId⟩
  rw [validateText_eq rfl hfields.eventId]
  change "audit-notification-" ++ _ = "audit-" ++ ("notification-" ++ _)
  rw [← String.append_assoc]
  rfl

theorem dedupeKey_new (principal : IdentityPrincipal) (now : DateTime) :
    (newNotification prim event principal now).dedupeKey = dedupeKey event principal := rfl

theorem Tracked.asked {now : DateTime} (h : Tracked s)
    (hfresh : Fresh prim event s c now) : Tracked (s.asked prim event c now) :=
  h.withNew (newNotification prim event c.principal now) hfresh.fresh

theorem get?_asked {now : DateTime} (h : Fresh prim event s c now) :
    (s.asked prim event c now).repository.notifications =
      s.repository.notifications.set (newNotification prim event c.principal now).notificationId
        (newNotification prim event c.principal now) := by
  rw [State.asked, State.withNew, insertIfAbsent_of_new h.fresh]

theorem dedupe_accepted {now : DateTime} (h : Fresh prim event s c now)
    (created : AuditEvent) : ((s.asked prim event c now).withEvent created).repository.dedupe =
      dedupeKey event c.principal :: s.repository.dedupe := by
  rw [State.withEvent, State.asked, State.withNew, insertIfAbsent_of_new h.fresh]

theorem Tracked.accepted {now : DateTime} (h : Tracked s) (hfresh : Fresh prim event s c now)
    (happended : Appended prim.toPrimitives
      (createdDraft event (newNotification prim event c.principal now)) s.audit created) :
    Tracked ((s.asked prim event c now).withEvent created) := by
  obtain ⟨heventId, htargetId⟩ := eventId_created happended
  refine (h.asked hfresh).withEvent created ?_ fun _ => by rw [heventId, htargetId]
  rw [get?_asked hfresh, htargetId, Dict.get?_set_self]
  exact Option.some_ne_none _

theorem get?_of_accepted {now : DateTime}
    (ht : Tracked s) (hs : Recorded s) (happended : Appended prim.toPrimitives
      (createdDraft event (newNotification prim event c.principal now)) s.audit created) :
    s.repository.notifications.get? (newNotification prim event c.principal now).notificationId =
      none := by
  refine hs.get?_eq_none ht ?_
  rw [← (eventId_created happended).1]
  exact happended.fresh

theorem Recorded.accepted {now : DateTime}
    (hs : Recorded s) (ht : Tracked s) (hfresh : Fresh prim event s c now)
    (happended : Appended prim.toPrimitives
      (createdDraft event (newNotification prim event c.principal now)) s.audit created) :
    Recorded ((s.asked prim event c now).withEvent created) :=
  hs.published ht (newNotification prim event c.principal now) hfresh.fresh
    (get?_of_accepted ht hs happended) rfl (concerns_created happended)

theorem publishAll_cons {item : Option Notification} (h : publishTo prim event c s = (.ok item, s')) :
    publishAll prim event (c :: cs) s =
      ((publishAll prim event cs s').1.map (item.toList ++ ·), (publishAll prim event cs s').2) := by
  rw [publishAll, Call.bind_of_ok h]
  exact Call.map_apply (publishAll prim event cs) (item.toList ++ ·) s'

theorem publishAll_cons_error {e : Error} (h : publishTo prim event c s = (.error e, s')) :
    publishAll prim event (c :: cs) s = (.error e, s') := by
  rw [publishAll, Call.bind_of_error h]

theorem tracked_publishAll (h : Tracked s) (cs : List Candidate) :
    Tracked (publishAll prim event cs s).2 := by
  induction cs generalizing s with
  | nil => exact h
  | cons c cs ih =>
    cases publishTo_turn prim event s c with
    | skipped _ turn =>
      rw [publishAll_cons turn]
      exact ih h
    | untimed _ _ turn =>
      rw [publishAll_cons_error turn]
      exact h
    | known _ _ _ turn =>
      rw [publishAll_cons turn]
      exact ih h
    | accepted hfresh _ happended _ turn =>
      rw [publishAll_cons turn]
      exact ih (h.accepted hfresh happended)
    | refused hfresh _ turn =>
      rw [publishAll_cons_error turn]
      exact h.asked hfresh

variable (prim event) in
theorem get?_publishAll_ne_none {id : String}
    (h : s.repository.notifications.get? id ≠ none) (cs : List Candidate) :
    (publishAll prim event cs s).2.repository.notifications.get? id ≠ none := by
  induction cs generalizing s with
  | nil => exact h
  | cons c cs ih =>
    cases publishTo_turn prim event s c with
    | skipped _ turn =>
      rw [publishAll_cons turn]
      exact ih h
    | untimed _ _ turn =>
      rw [publishAll_cons_error turn]
      exact h
    | known _ _ _ turn =>
      rw [publishAll_cons turn]
      exact ih h
    | accepted hfresh _ _ _ turn =>
      rw [publishAll_cons turn]
      refine ih ?_
      rw [State.withEvent, get?_asked hfresh]
      exact Dict.get?_set_ne_none h _ _
    | refused hfresh _ turn =>
      rw [publishAll_cons_error turn, get?_asked hfresh]
      exact Dict.get?_set_ne_none h _ _

/-- Where every event is accepted, the loop keeps the record, and raises only before it has stored
something. -/
theorem publishAll_of_clear (ht : Tracked s) (hs : Recorded s) {stored : Bool}
    (h : Clear prim event stored s.repository.dedupe s.audit cs) :
    Recorded (publishAll prim event cs s).2 ∧
      ∀ e, (publishAll prim event cs s).1 = .error e →
        stored = false ∧ (publishAll prim event cs s).2 = s := by
  induction cs generalizing s stored with
  | nil =>
    refine ⟨hs, fun e he => ?_⟩
    cases he
  | cons c cs ih =>
    rw [Clear] at h
    have hmapped : ∀ {f : List Notification → List Notification}
        {o : Except Error (List Notification)} {e : Error}, o.map f = .error e → o = .error e := by
      intro f o e he
      cases o with
      | error e' => exact congrArg Except.error (Except.error.inj he)
      | ok items => cases he
    cases publishTo_turn prim event s c with
    | skipped hskipped turn =>
      rw [if_pos hskipped] at h
      rw [publishAll_cons turn]
      exact ⟨(ih ht hs h).1, fun e he => (ih ht hs h).2 e (hmapped he)⟩
    | untimed hadmitted htime turn =>
      rw [if_neg (not_not.2 hadmitted), htime] at h
      rw [publishAll_cons_error turn]
      exact ⟨hs, fun _ _ => ⟨h, rfl⟩⟩
    | known hadmitted htime hknown turn =>
      simp only [if_neg (not_not.2 hadmitted), htime, if_pos hknown] at h
      rw [publishAll_cons turn]
      exact ⟨(ih ht hs h).1, fun e he => (ih ht hs h).2 e (hmapped he)⟩
    | accepted hfresh hwilling happended happend turn =>
      simp only [if_neg (not_not.2 hfresh.admitted), hfresh.time, if_neg hfresh.fresh] at h
      obtain ⟨-, created, audit, happend', hrest⟩ := h
      rw [happend] at happend'
      obtain ⟨hcreated, haudit⟩ := Prod.mk.inj happend'
      rw [publishAll_cons turn]
      rw [← dedupe_accepted hfresh, ← haudit] at hrest
      obtain ⟨hrecorded, herror⟩ :=
        ih (ht.accepted hfresh happended) (hs.accepted ht hfresh happended) hrest
      exact ⟨hrecorded, fun e he => absurd (herror e (hmapped he)).1 (by decide)⟩
    | refused hfresh hrefused turn =>
      simp only [if_neg (not_not.2 hfresh.admitted), hfresh.time, if_neg hfresh.fresh] at h
      obtain ⟨hwilling, created, audit, happend, -⟩ := h
      exact absurd ⟨created, audit, hwilling, happend⟩ hrefused

/-- Where an event is refused, or the clock fails after something was stored, the loop raises and leaves
something behind. -/
theorem publishAll_of_not_clear (ht : Tracked s) (hs : Recorded s) {stored : Bool}
    (h : ¬Clear prim event stored s.repository.dedupe s.audit cs) :
    (∃ e, (publishAll prim event cs s).1 = .error e) ∧
      (stored = true ∨ (publishAll prim event cs s).2.repository.notifications ≠
        s.repository.notifications) := by
  induction cs generalizing s stored with
  | nil => exact absurd trivial h
  | cons c cs ih =>
    rw [Clear] at h
    cases publishTo_turn prim event s c with
    | skipped hskipped turn =>
      rw [if_pos hskipped] at h
      rw [publishAll_cons turn]
      obtain ⟨⟨e, he⟩, hleft⟩ := ih ht hs h
      exact ⟨⟨e, by rw [he]; rfl⟩, hleft⟩
    | untimed hadmitted htime turn =>
      rw [if_neg (not_not.2 hadmitted), htime] at h
      rw [publishAll_cons_error turn]
      exact ⟨⟨_, rfl⟩, Or.inl (Bool.eq_true_of_not_eq_false h)⟩
    | known hadmitted htime hknown turn =>
      simp only [if_neg (not_not.2 hadmitted), htime, if_pos hknown] at h
      rw [publishAll_cons turn]
      obtain ⟨⟨e, he⟩, hleft⟩ := ih ht hs h
      exact ⟨⟨e, by rw [he]; rfl⟩, hleft⟩
    | @accepted now hfresh created hwilling happended happend turn =>
      simp only [if_neg (not_not.2 hfresh.admitted), hfresh.time, if_neg hfresh.fresh] at h
      have hrest : ¬Clear prim event true
          ((s.asked prim event c now).withEvent created).repository.dedupe
          ((s.asked prim event c now).withEvent created).audit cs := by
        intro hclear
        rw [dedupe_accepted hfresh] at hclear
        exact h ⟨hwilling, created, _, happend, hclear⟩
      obtain ⟨⟨e, he⟩, -⟩ :=
        ih (ht.accepted hfresh happended) (hs.accepted ht hfresh happended) hrest
      rw [publishAll_cons turn]
      refine ⟨⟨e, by rw [he]; rfl⟩, Or.inr fun hsame => ?_⟩
      have hnone := get?_of_accepted ht hs happended
      have hstored : ((s.asked prim event c now).withEvent created).repository.notifications.get?
          (newNotification prim event c.principal now).notificationId ≠ none := by
        rw [State.withEvent, get?_asked hfresh, Dict.get?_set_self]
        exact Option.some_ne_none _
      refine get?_publishAll_ne_none prim event hstored cs ?_
      rw [hsame]
      exact hnone
    | @refused now hfresh hrefused e turn =>
      rw [publishAll_cons_error turn]
      refine ⟨⟨e, rfl⟩, Or.inr fun hsame => hfresh.fresh ?_⟩
      -- what was there would have been known
      have hitem := Dict.get?_set_self s.repository.notifications
        (newNotification prim event c.principal now).notificationId
        (newNotification prim event c.principal now)
      rw [← get?_asked hfresh, hsame] at hitem
      have hkey := ht.keys _ _ hitem
      rwa [dedupeKey_new] at hkey

/-- What `mark_read` does to a notification: its event is appended, and it is read. -/
def Marked (prim : Primitives) (r : MarkRead) (s s' : State) : Prop :=
  ∃ item now event eventId fingerprint,
    s.repository.notifications.get? item.notificationId = some item ∧ item.readAt = none ∧
      Appended prim.toPrimitives (readDraft r eventId now item (item.asRead now)) s.audit event ∧
      s' = { s.withEvent event with repository :=
        { s.repository with
          notifications := s.repository.notifications.set item.notificationId (item.asRead now)
          idempotency := s.repository.idempotency.set r.idempotencyKey
            (fingerprint, item.asRead now) } }

theorem notificationFor_eq_some {r : Repository} {tenantId recipientId id : String}
    {item : Notification} (h : r.notificationFor tenantId recipientId id = some item) :
    r.notifications.get? id = some item :=
  (Option.filter_eq_some_iff.1 h).1

theorem transitionRead_spec (ht : Tracked s) (r : MarkRead) (id : String) (now : DateTime) :
    Call.Post (transitionRead prim r id now) s fun o s' =>
      s' = s ∨ (∃ item, o = .ok item) ∧ Marked prim r s s' := by
  refine Call.post_get ?_
  cases hreplay : s.repository.idempotency.get? r.idempotencyKey with
  | some replay =>
    exact Call.post_ensure (fun _ => Or.inl rfl) fun _ => Call.post_pure (Or.inl rfl)
  | none =>
    refine Call.post_require (fun _ => Or.inl rfl) fun item hitem => ?_
    have hfound := notificationFor_eq_some hitem
    obtain rfl : item.notificationId = id := ht.ids id item hfound
    refine Call.post_ensure (fun _ => Or.inl rfl) fun _ => ?_
    refine Call.post_ensure (fun _ => Or.inl rfl) fun hunread => ?_
    rcases appendAudit_cases prim r.refusal (readDraft r
      ("audit-notification-read-" ++ shortDigest prim r.idempotencyKey) now item
      (item.asRead now)) s with ⟨event, -, happended, -, hstep⟩ | ⟨-, e, hstep⟩
    · rw [Call.Post, Call.bind_of_ok hstep]
      exact Or.inr ⟨⟨_, rfl⟩, item, now, event, _, _, hfound, hunread, happended, rfl⟩
    · rw [Call.Post, Call.bind_of_error hstep]
      exact Or.inl rfl

variable (prim nativeRoutes) in
theorem markRead_spec (ht : Tracked s) (r : MarkRead) :
    Call.Post (markRead prim nativeRoutes r) s fun o s' =>
      s' = s ∨ (∃ item, o = .ok item) ∧ Marked prim r s s' := by
  refine Call.post_query (fun _ _ => Or.inl rfl) fun _ _ => ?_
  refine Call.post_query (fun _ _ => Or.inl rfl) fun _ _ => ?_
  refine Call.post_query (fun _ _ => Or.inl rfl) fun _ _ => ?_
  exact transitionRead_spec ht r _ _

theorem Marked.recorded {r : MarkRead} (h : Marked prim r s s') (hs : Recorded s) :
    Recorded s' := by
  obtain ⟨item, now, event, eventId, fingerprint, hitem, hunread, happended, rfl⟩ := h
  exact hs.read_event hitem hunread (Option.some_ne_none now) rfl
    (concerns_of_appended happended rfl rfl rfl)

theorem Marked.tracked {r : MarkRead} (h : Marked prim r s s') (ht : Tracked s) :
    Tracked s' := by
  obtain ⟨item, now, event, eventId, fingerprint, hitem, -, happended, rfl⟩ := h
  have hfields := validateDraft_iff.1 happended.fields
  have haction : event.action = "notification.read" := validateText_eq rfl hfields.action
  have htarget : event.targetId = item.notificationId := validateText_eq rfl hfields.targetId
  have hevent := ht.withEvent event (by rw [htarget, hitem]; exact Option.some_ne_none _)
    (by rw [haction]; exact fun h => absurd h (by decide))
  refine { ids := fun id n hn => ?_, keys := fun id n hn => ?_, eventIds := hevent.eventIds,
           stored := fun e he => Dict.get?_set_ne_none (hevent.stored e he) _ _,
           created := hevent.created }
  · rcases Dict.of_get?_set hn with hold | ⟨rfl, rfl⟩
    · exact ht.ids id n hold
    · rfl
  · rcases Dict.of_get?_set hn with hold | ⟨rfl, rfl⟩
    · exact ht.keys id n hold
    · exact ht.keys _ item hitem

/-! ## Every run -/

theorem tracked_init : Tracked (machine prim nativeRoutes).init := by
  constructor <;> simp [machine, Repository.empty, idsOf]

theorem recorded_init : Recorded (machine prim nativeRoutes).init := by
  constructor <;> simp [machine, Repository.empty]

variable (prim nativeRoutes event) in
theorem publish_cases (candidates : List Candidate) (s : State) :
    (validateEvent prim nativeRoutes event = .ok () ∧
      publish prim nativeRoutes event candidates s = publishAll prim event candidates s) ∨
    ∃ e, validateEvent prim nativeRoutes event = .error e ∧
      publish prim nativeRoutes event candidates s = (.error e, s) := by
  cases hvalid : validateEvent prim nativeRoutes event with
  | error e =>
    refine Or.inr ⟨e, rfl, ?_⟩
    exact Call.bind_of_error (by rw [Call.query, hvalid]) _
  | ok _ =>
    refine Or.inl ⟨rfl, ?_⟩
    exact Call.query_bind (g := fun _ => validateEvent prim nativeRoutes event) hvalid _

variable (prim nativeRoutes) in
theorem markRead_cases (ht : Tracked s) (r : MarkRead) :
    (machine prim nativeRoutes).next s (.markRead r) = s ∨
      (∃ items, (machine prim nativeRoutes).answer s (.markRead r) = .ok items) ∧
        Marked prim r s ((machine prim nativeRoutes).next s (.markRead r)) := by
  have hspec := markRead_spec prim nativeRoutes ht r
  unfold Machine.next Machine.answer machine
  simp only [Call.map_apply]
  rcases hspec with hsame | ⟨⟨item, hitem⟩, hmarked⟩
  · exact Or.inl hsame
  · exact Or.inr ⟨⟨[item], by rw [hitem]; rfl⟩, hmarked⟩

theorem tracked_next (h : Tracked s) (input : Input) :
    Tracked ((machine prim nativeRoutes).next s input) := by
  cases input with
  | publish event candidates =>
    change Tracked (publish prim nativeRoutes event candidates s).2
    rcases publish_cases prim event nativeRoutes candidates s with ⟨-, hstep⟩ | ⟨e, -, hstep⟩
    · rw [hstep]
      exact tracked_publishAll h candidates
    · rw [hstep]
      exact h
  | markRead r =>
    rcases markRead_cases prim nativeRoutes h r with hsame | ⟨-, hmarked⟩
    · rw [hsame]
      exact h
    · exact hmarked.tracked h

/-- A call keeps the record and, if it raises, everything, exactly when its audit events are accepted
before anything else goes wrong. -/
theorem step_iff (ht : Tracked s) (hs : Recorded s) (input : Input) :
    Recorded ((machine prim nativeRoutes).next s input) ∧
        Reverted ((machine prim nativeRoutes).event s input) ↔
      Accepted prim nativeRoutes s input := by
  cases input with
  | publish event candidates =>
    change Recorded (publish prim nativeRoutes event candidates s).2 ∧
      Reverted ⟨s, .publish event candidates, (publish prim nativeRoutes event candidates s).1,
        (publish prim nativeRoutes event candidates s).2⟩ ↔ _
    rcases publish_cases prim event nativeRoutes candidates s with
      ⟨hvalid, hstep⟩ | ⟨e, hinvalid, hstep⟩
    · rw [hstep]
      constructor
      · rintro ⟨-, hreverted⟩ _
        by_contra hclear
        obtain ⟨hraises, hleft⟩ := publishAll_of_not_clear ht hs hclear
        rcases hleft with hstored | hchanged
        · cases hstored
        · exact hchanged (hreverted hraises).1
      · intro haccepted
        obtain ⟨hrecorded, herror⟩ := publishAll_of_clear ht hs (haccepted hvalid)
        refine ⟨hrecorded, ?_⟩
        rintro ⟨e, he⟩
        exact ⟨congrArg (·.repository.notifications) (herror e he).2,
          congrArg (·.audit.events) (herror e he).2⟩
    · rw [hstep]
      refine iff_of_true ⟨hs, fun _ => ⟨rfl, rfl⟩⟩ fun hvalid => ?_
      rw [hinvalid] at hvalid
      cases hvalid
  | markRead r =>
    refine iff_of_true ?_ trivial
    rcases markRead_cases prim nativeRoutes ht r with hsame | ⟨⟨items, hreturns⟩, hmarked⟩
    · rw [hsame]
      refine ⟨hs, fun _ => ?_⟩
      change _ = s.repository.notifications ∧ _ = s.audit.events
      exact ⟨congrArg (·.repository.notifications) hsame, congrArg (·.audit.events) hsame⟩
    · refine ⟨hmarked.recorded hs, ?_⟩
      rintro ⟨e, he⟩
      rw [Machine.event, hreturns] at he
      cases he

/-- After these calls every notification has its audit events, and no call that raised has changed the
notifications or the audit events. -/
def Upheld (prim : Primitives) (nativeRoutes : List String) (calls : List Input) : Prop :=
  Recorded ((machine prim nativeRoutes).run calls) ∧
    ∀ e ∈ (machine prim nativeRoutes).events calls, Reverted e

theorem upheld_concat (calls : List Input) (input : Input) (h : Upheld prim nativeRoutes calls) :
    Upheld prim nativeRoutes (calls ++ [input]) ↔
      Accepted prim nativeRoutes ((machine prim nativeRoutes).run calls) input := by
  have ht : Tracked ((machine prim nativeRoutes).run calls) :=
    (machine prim nativeRoutes).run_induction tracked_init (fun _ _ => (tracked_next · _)) calls
  rw [← step_iff ht h.1 input, Upheld, Machine.run_concat, Machine.events_concat]
  refine and_congr_right fun _ => ⟨fun hall => ?_, fun hlast e he => ?_⟩
  · exact hall _ (List.mem_append_right _ (List.mem_singleton_self _))
  · rcases List.mem_append.1 he with hold | hnew
    · exact h.2 e hold
    · rw [List.mem_singleton.1 hnew]
      exact hlast

/-- At every moment of a run each notification has exactly one event for its creation, each one that was
read exactly one for its reading, and no call that raised has changed anything, exactly when the audit
store accepts the event of every notification that a call stores, and after it the clock does not fail
in that call. -/
theorem upheld_iff (prim : Primitives) (nativeRoutes : List String) (calls : List Input) :
    (∀ pre, pre <+: calls → Upheld prim nativeRoutes pre) ↔
      (machine prim nativeRoutes).AllSteps (Accepted prim nativeRoutes)
        (machine prim nativeRoutes).init calls :=
  (machine prim nativeRoutes).prefixes_iff_allSteps
    ⟨recorded_init, by simp [Machine.events, Machine.eventsFrom]⟩ upheld_concat calls

end DaonUser.Notifications

