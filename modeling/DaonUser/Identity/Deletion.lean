import DaonUser.Identity.Suspension

/-!
# Identity: the deletion of an account, statement by statement

`delete_user` removes the rows of an account with one `DELETE` after the other. The schema rejects a
statement when a trigger keeps the rows of its table or when a row that is left names one that is gone.

Over the states that the services reach, the statements are the deletion of `platform`
(`deleteUserByStatements_eq`), and they are rejected exactly where the history of the user has left rows
that they do not remove (`deletes_user_iff`).
-/

namespace DaonUser.Identity

open Lib

/-! ## What the schema enforces -/

inductive RowName
  | tenant (tenantId : String)
  | user (userId : String)
  | device (deviceId : String)
  | session (sessionId : String)
  | family (familyId : String)
  | stepUp (stepUpId : String)
  | workspace (tenantId workspaceId : String)
  deriving DecidableEq

namespace Table

def rowName : (t : Table) → t.Row → Option RowName
  | tenants, tenantId => some (.tenant tenantId)
  | users, row => some (.user row.userId)
  | devices, row => some (.device row.deviceId)
  | sessions, row => some (.session row.sessionId)
  | refreshFamilies, row => some (.family row.familyId)
  | stepUpAuthorizations, row => some (.stepUp row.stepUpId)
  | authWorkspaces, row => some (.workspace row.tenantId row.workspaceId)
  | _, _ => none

/-- The `REFERENCES` clauses: the rows that a row names. -/
def references : (t : Table) → t.Row → List RowName
  | emailVerificationTokens, row => [.user row.userId]
  | passwordResetTokens, row => [.user row.userId]
  | memberships, row => [.tenant row.tenantId, .user row.userId]
  | devices, row => [.tenant row.tenantId, .user row.userId]
  | sessions, row => [.tenant row.tenantId, .user row.userId, .device row.deviceId]
  | refreshFamilies, row => [.session row.sessionId]
  | refreshTokens, row => [.family row.familyId]
  | sessionAuditOutbox, row => [.session row.sessionId, .tenant row.tenantId, .user row.actorId]
  | tenantStepUpActions, row => [.tenant row.tenantId]
  | stepUpAuthorizations, row =>
    [.tenant row.tenantId, .user row.actorId, .session row.sessionId, .device row.deviceId]
  | stepUpIdempotency, row => [.tenant row.tenantId, .user row.actorId, .stepUp row.stepUpId]
  | stepUpConsumptions, row => [.tenant row.tenantId, .user row.actorId, .stepUp row.stepUpId]
  | authMemberships, row => [.workspace row.tenantId row.workspaceId]
  | _, _ => []

def keepsRows : Table → Bool
  | sessionAuditOutbox => true
  | sessionTenantSwitchOutbox => true
  | adminAuditOutbox => true
  | _ => false

def referring : List Table :=
  [emailVerificationTokens, passwordResetTokens, memberships, devices, sessions, refreshFamilies,
    refreshTokens, sessionAuditOutbox, tenantStepUpActions, stepUpAuthorizations, stepUpIdempotency,
    stepUpConsumptions, authMemberships]

theorem mem_referring {t : Table} {row : t.Row} {name : RowName} (h : name ∈ t.references row) :
    t ∈ referring := by
  revert h
  cases t <;> simp [references, referring]

end Table

/-- No row names it. -/
def Unnamed (db : Db) (name : RowName) : Prop := ∀ t : Table, ∀ row ∈ db t, name ∉ t.references row

instance (db : Db) (name : RowName) : Decidable (Unnamed db name) :=
  decidable_of_iff (∀ t ∈ Table.referring, (db t).all (fun row => name ∉ t.references row) = true) <| by
    simp only [List.all_eq_true, decide_eq_true_eq]
    exact ⟨fun h t row hrow hname => h t (Table.mem_referring hname) row hrow hname, fun h t _ => h t⟩

/-- The schema accepts the deletion of the rows that meet `p`. -/
structure AcceptsDelete (db : Db) (t : Table) (p : t.Row → Bool) : Prop where
  trigger : t.keepsRows = true → ∀ row ∈ db t, p row = false
  keys : ∀ row ∈ db t, p row = true → ∀ name ∈ t.rowName row, Unnamed (db.delete t p) name

instance (db : Db) (t : Table) (p : t.Row → Bool) : Decidable (AcceptsDelete db t p) :=
  decidable_of_iff ((t.keepsRows = true → ∀ row ∈ db t, p row = false) ∧
      ∀ row ∈ db t, p row = true → ∀ name ∈ t.rowName row, Unnamed (db.delete t p) name)
    ⟨fun h => ⟨h.1, h.2⟩, fun h => ⟨h.trigger, h.keys⟩⟩

/-- `DELETE FROM`, of the rows that meet a condition on the rows before. -/
def deleteFrom (t : Table) (p : Db → t.Row → Bool) : Statement PUnit := do
  let db ← Call.get
  Call.ensure (AcceptsDelete db t (p db)) persistenceUnavailable
  Call.modify fun db => db.delete t (p db)

/-- `SELECT session_id FROM sessions WHERE user_id=?`. -/
def sessionIdsOf (userId : String) (db : Db) : List String :=
  ((db .sessions).filter fun row => row.userId = userId).map SessionRow.sessionId

/-- `SELECT family_id FROM refresh_families WHERE session_id IN (...)`. -/
def familyIdsOf (userId : String) (db : Db) : List String :=
  ((db .refreshFamilies).filter fun row =>
    (sessionIdsOf userId db).contains row.sessionId).map FamilyRow.familyId

def deviceIdsOf (userId : String) (db : Db) : List String :=
  ((db .devices).filter fun row => row.userId = userId).map DeviceRow.deviceId

/-- The `DELETE` statements of `delete_user`, in their order. -/
def deleteStatements (userId : String) : Statement PUnit := do
  deleteFrom .refreshTokens fun db row => (familyIdsOf userId db).contains row.familyId
  deleteFrom .refreshFamilies fun db row => (sessionIdsOf userId db).contains row.sessionId
  deleteFrom .sessionAuditOutbox fun db row => (sessionIdsOf userId db).contains row.sessionId
  deleteFrom .sessions fun _ row => row.userId = userId
  deleteFrom .devices fun _ row => row.userId = userId
  deleteFrom .emailVerificationTokens fun _ row => row.userId = userId
  deleteFrom .passwordResetTokens fun _ row => row.userId = userId
  deleteFrom .memberships fun _ row => row.userId = userId
  deleteFrom .users fun _ row => row.userId = userId

/-- `delete_user`, with its statements one by one. -/
def deleteUserByStatements (prim : Primitives) (env : Env) (admins : List String)
    (principal : IdentityPrincipal) (userId idempotencyKey traceId policyVersion : String) :
    Statement AdminUserDeleteResult := do
  requireAdmin admins principal
  validateOperation [userId] idempotencyKey traceId policyVersion
  Call.ensure (userId ≠ initialAdminUserId) protectedAdminAccount
  let request := deleteRequest prim principal userId idempotencyKey
  transaction env do
    let db ← Call.get
    match request.prior db with
    | some prior => do
      Call.ensure (prior.requestFingerprint = some request.fingerprint ∧ prior.targetId = userId)
        idempotencyKeyReused
      return { userId, replayed := true }
    | none => do
      Call.ensure ((userOf userId db).isSome = true) userNotFound
      deleteStatements userId
      insertRow .adminAuditOutbox
        (request.intent prim env principal userId traceId policyVersion (some "deleted") none)
      return { userId, replayed := false }

section Reached

variable {powers : Powers} {config : PlatformConfig} {db db' : Db} {userId : String}

theorem Move.sound (h : Move powers db db') (hs : Sound db) : Sound db' := by
  cases h with
  | identity h => exact (h.sound hs).1
  | enrolled row hadmits henrolls => exact (hs.congr (by simp) (by simp) (by simp)).1
  | appointed row => exact (hs.congr (by simp) (by simp) (by simp)).1
  | emailed userId address =>
    exact (hs.congr (by simp [setEmail]) (by simp [setEmail]) (by simp [setEmail])).1
  | stated row after now hrow hafter hactivates =>
    have hset : Sound (setState row.userId row.state after now db) :=
      (hs.congr (by simp [setState]) (by simp [setState]) (by simp [setState])).1
    unfold stateChanged
    dsimp only
    split
    · exact hset
    · refine (Change.sound (?_ : Change .all _ _) hset).1
      exact .userRevoked row.userId now
  | workspace row hprotects => exact (hs.congr (by simp) (by simp) (by simp)).1
  | authorized h => exact (hs.congr (h .devices rfl) (h .sessions rfl) (h .refreshFamilies rfl)).1

theorem deleteAccount_devices :
    deleteAccount userId db .devices =
      (db .devices).filter fun row => !decide (row.userId = userId) := by
  simp [deleteAccount]

theorem deleteAccount_families :
    deleteAccount userId db .refreshFamilies =
      (db .refreshFamilies).filter fun row => !(sessionIdsOf userId db).contains row.sessionId := by
  simp [deleteAccount, sessionIdsOf]

theorem mem_sessionIdsOf {sessionId : String} :
    sessionId ∈ sessionIdsOf userId db ↔
      ∃ row ∈ db .sessions, row.userId = userId ∧ row.sessionId = sessionId := by
  simp [sessionIdsOf, and_assoc]

theorem Deletes.sound (h : Deletes userId db db') (hs : Sound db) : Sound db' := by
  cases h with
  | kept => exact hs
  | deleted intent =>
    have hdeleted : Sound (deleteAccount userId db) := by
      refine ⟨?_, ?_, ?_, ?_, ?_, ?_⟩
      · rw [Database.Keyed, deleteAccount_devices]
        exact hs.devices.filter _
      · rw [Database.Keyed, deleteAccount_sessions]
        exact hs.sessions.filter _
      · rw [Database.Keyed, deleteAccount_families]
        exact hs.families.filter _
      · rw [deleteAccount_sessions, deleteAccount_devices]
        intro row hrow
        obtain ⟨hrow, hother⟩ := List.mem_filter.1 hrow
        obtain ⟨device, hdevice, hon, hlive⟩ := hs.onDevice row hrow
        exact ⟨device, List.mem_filter.2 ⟨hdevice, by rwa [hon.userId]⟩, hon, hlive⟩
      · rw [deleteAccount_families, deleteAccount_sessions]
        intro family hfamily
        obtain ⟨hfamily, hother⟩ := List.mem_filter.1 hfamily
        obtain ⟨row, hrow, hid, hrevoked⟩ := hs.ofSession family hfamily
        refine ⟨row, List.mem_filter.2 ⟨hrow, ?_⟩, hid, hrevoked⟩
        simp only [Bool.not_eq_true', decide_eq_false_iff_not]
        intro huser
        have hmem : family.sessionId ∈ sessionIdsOf userId db :=
          mem_sessionIdsOf.2 ⟨row, hrow, huser, hid⟩
        simp [hmem] at hother
      · rw [deleteAccount_families]
        intro family hfamily family' hfamily'
        exact hs.alone family (List.mem_filter.1 hfamily).1 family' (List.mem_filter.1 hfamily').1
    exact (hdeleted.congr (by simp) (by simp) (by simp)).1

theorem sound_of_reachable (h : (platform config).Reachable db) : Sound db := by
  refine h.induction sound_empty fun db i hs => ?_
  cases htarget : i.target with
  | none => exact (i.leaves htarget i.permitted_all).keeps (fun _ _ hmove => hmove.sound) hs
  | some userId => exact (PlatformInput.deletes htarget).sound hs

end Reached

/-! ## What the statements need -/

section Statements

variable {db : Db} {userId : String} {α : Type}

theorem unnamed_iff {name : RowName} :
    Unnamed db name ↔ ∀ t ∈ Table.referring, ∀ row ∈ db t, name ∉ t.references row :=
  ⟨fun h t _ => h t, fun h t row hrow hname => h t (Table.mem_referring hname) row hrow hname⟩

theorem unnamed_family {familyId : String} :
    Unnamed db (.family familyId) ↔ ∀ row ∈ db .refreshTokens, familyId ≠ row.familyId := by
  simp [unnamed_iff, Table.referring, Table.references]

theorem unnamed_session {sessionId : String} :
    Unnamed db (.session sessionId) ↔ (∀ row ∈ db .refreshFamilies, sessionId ≠ row.sessionId) ∧
      (∀ row ∈ db .sessionAuditOutbox, sessionId ≠ row.sessionId) ∧
        ∀ row ∈ db .stepUpAuthorizations, sessionId ≠ row.sessionId := by
  simp [unnamed_iff, Table.referring, Table.references]

theorem unnamed_device {deviceId : String} :
    Unnamed db (.device deviceId) ↔ (∀ row ∈ db .sessions, deviceId ≠ row.deviceId) ∧
      ∀ row ∈ db .stepUpAuthorizations, deviceId ≠ row.deviceId := by
  simp [unnamed_iff, Table.referring, Table.references]

theorem unnamed_user :
    Unnamed db (.user userId) ↔
      ((∀ row ∈ db .emailVerificationTokens, userId ≠ row.userId) ∧
        (∀ row ∈ db .passwordResetTokens, userId ≠ row.userId) ∧
        (∀ row ∈ db .memberships, userId ≠ row.userId) ∧
        (∀ row ∈ db .devices, userId ≠ row.userId) ∧ ∀ row ∈ db .sessions, userId ≠ row.userId) ∧
      (∀ row ∈ db .sessionAuditOutbox, userId ≠ row.actorId) ∧
        (∀ row ∈ db .stepUpAuthorizations, userId ≠ row.actorId) ∧
        (∀ row ∈ db .stepUpIdempotency, userId ≠ row.actorId) ∧
        ∀ row ∈ db .stepUpConsumptions, userId ≠ row.actorId := by
  simp [unnamed_iff, Table.referring, Table.references, and_assoc]

theorem accepts_leaf {t : Table} {p : t.Row → Bool} (hkeeps : t.keepsRows = false)
    (hname : ∀ row, t.rowName row = none) : AcceptsDelete db t p where
  trigger := fun h => by rw [hkeeps] at h; cases h
  keys := fun row _ _ name h => by rw [hname] at h; cases h

theorem needs_deleteFrom {t : Table} {p : Db → t.Row → Bool} {f : PUnit → Statement α} {c d : Prop}
    {Q : α → Db → Prop} (haccepts : AcceptsDelete db t (p db) ↔ d)
    (hf : d → Call.Needs (f ⟨⟩) (db.delete t (p db)) c (fun _ => True) Q) :
    Call.Needs (deleteFrom t p >>= f) db (d ∧ c) (fun _ => True) Q := by
  simp only [deleteFrom, Call.bind_assoc]
  refine Call.needs_get (Call.Needs.iff (Call.needs_ensure trivial fun h => Call.needs_modify ?_)
    (and_congr_left' haccepts))
  exact hf (haccepts.1 h)

theorem needs_deleteFrom_of {t : Table} {p : Db → t.Row → Bool} {f : PUnit → Statement α} {c : Prop}
    {Q : α → Db → Prop} (haccepts : AcceptsDelete db t (p db))
    (hf : Call.Needs (f ⟨⟩) (db.delete t (p db)) c (fun _ => True) Q) :
    Call.Needs (deleteFrom t p >>= f) db c (fun _ => True) Q :=
  (needs_deleteFrom (iff_true_intro haccepts) fun _ => hf).iff (iff_of_eq (true_and c))

theorem needs_deleteFrom_last {t : Table} {p : Db → t.Row → Bool} {d : Prop} {Q : PUnit → Db → Prop}
    (haccepts : AcceptsDelete db t (p db) ↔ d) (hQ : d → Q ⟨⟩ (db.delete t (p db))) :
    Call.Needs (deleteFrom t p) db d (fun _ => True) Q := by
  have hlast : Call.Needs (deleteFrom t p) db (AcceptsDelete db t (p db) ∧ True) (fun _ => True) Q :=
    Call.needs_get (Call.needs_ensure trivial fun h => ⟨trivial, hQ (haccepts.1 h)⟩)
  exact hlast.iff (by rw [and_true, haccepts])

theorem accepts_iff {t : Table} {p : t.Row → Bool} (hkeeps : t.keepsRows = false) :
    AcceptsDelete db t p ↔
      ∀ row ∈ db t, p row = true → ∀ name ∈ t.rowName row, Unnamed (db.delete t p) name :=
  ⟨AcceptsDelete.keys, fun h => ⟨fun hkept => (by rw [hkeeps] at hkept; cases hkept), h⟩⟩

theorem accepts_families {p : FamilyRow → Bool} :
    AcceptsDelete db .refreshFamilies p ↔ ∀ row ∈ db .refreshFamilies, p row = true →
      ∀ token ∈ db .refreshTokens, row.familyId ≠ token.familyId := by
  rw [accepts_iff rfl]
  simp [Table.rowName, unnamed_family]

theorem accepts_logouts {p : SelfLogoutRow → Bool} :
    AcceptsDelete db .sessionAuditOutbox p ↔ ∀ row ∈ db .sessionAuditOutbox, p row = false :=
  ⟨fun h => h.trigger rfl, fun h => ⟨fun _ => h, fun _ _ _ _ hname => nomatch hname⟩⟩

theorem accepts_sessions {p : SessionRow → Bool} :
    AcceptsDelete db .sessions p ↔ ∀ row ∈ db .sessions, p row = true →
      (∀ family ∈ db .refreshFamilies, row.sessionId ≠ family.sessionId) ∧
      (∀ logout ∈ db .sessionAuditOutbox, row.sessionId ≠ logout.sessionId) ∧
        ∀ grant ∈ db .stepUpAuthorizations, row.sessionId ≠ grant.sessionId := by
  rw [accepts_iff rfl]
  simp [Table.rowName, unnamed_session]

theorem accepts_devices {p : DeviceRow → Bool} :
    AcceptsDelete db .devices p ↔ ∀ row ∈ db .devices, p row = true →
      (∀ session ∈ db .sessions, row.deviceId ≠ session.deviceId) ∧
        ∀ grant ∈ db .stepUpAuthorizations, row.deviceId ≠ grant.deviceId := by
  rw [accepts_iff rfl]
  simp [Table.rowName, unnamed_device]

theorem accepts_user (huser : ∃ user ∈ db .users, user.userId = userId) :
    AcceptsDelete db .users (fun row => row.userId = userId) ↔ Unnamed db (.user userId) := by
  obtain ⟨user, huser, rfl⟩ := huser
  rw [accepts_iff rfl]
  constructor
  · intro h
    simpa [unnamed_user] using h user huser (by simp) _ rfl
  · intro h row _ hrow name hname
    obtain rfl := Option.some.inj hname
    simpa [unnamed_user, of_decide_eq_true hrow] using h

/-- No row that `delete_user` leaves names the user, one of their sessions or one of their devices, and
no session of theirs has an intent for the audit. -/
structure Unheld (userId : String) (db : Db) : Prop where
  logouts : ∀ row ∈ db .sessionAuditOutbox,
    row.actorId ≠ userId ∧ row.sessionId ∉ sessionIdsOf userId db
  grants : ∀ row ∈ db .stepUpAuthorizations, row.actorId ≠ userId ∧
    row.sessionId ∉ sessionIdsOf userId db ∧ row.deviceId ∉ deviceIdsOf userId db
  requests : ∀ row ∈ db .stepUpIdempotency, row.actorId ≠ userId
  consumptions : ∀ row ∈ db .stepUpConsumptions, row.actorId ≠ userId

theorem mem_deviceIdsOf {deviceId : String} :
    deviceId ∈ deviceIdsOf userId db ↔
      ∃ row ∈ db .devices, row.userId = userId ∧ row.deviceId = deviceId := by
  simp [deviceIdsOf, and_assoc]

theorem sessionIdsOf_delete {t : Table} {p : t.Row → Bool} (ht : Table.sessions ≠ t) :
    sessionIdsOf userId (db.delete t p) = sessionIdsOf userId db := by
  rw [sessionIdsOf, Database.delete_of_ne ht, sessionIdsOf]

theorem unheld_iff :
    Unheld userId db ↔ (∀ row ∈ db .sessionAuditOutbox, row.sessionId ∉ sessionIdsOf userId db) ∧
      (∀ row ∈ db .stepUpAuthorizations, row.sessionId ∉ sessionIdsOf userId db) ∧
      (∀ row ∈ db .stepUpAuthorizations, row.deviceId ∉ deviceIdsOf userId db) ∧
      (∀ row ∈ db .sessionAuditOutbox, row.actorId ≠ userId) ∧
        (∀ row ∈ db .stepUpAuthorizations, row.actorId ≠ userId) ∧
        (∀ row ∈ db .stepUpIdempotency, row.actorId ≠ userId) ∧
        ∀ row ∈ db .stepUpConsumptions, row.actorId ≠ userId := by
  constructor
  · intro h
    exact ⟨fun row hrow => (h.logouts row hrow).2, fun row hrow => (h.grants row hrow).2.1,
      fun row hrow => (h.grants row hrow).2.2, fun row hrow => (h.logouts row hrow).1,
      fun row hrow => (h.grants row hrow).1, h.requests, h.consumptions⟩
  · rintro ⟨hlogouts, hsessions, hdevices, hactors, hgrants, hrequests, hconsumptions⟩
    exact ⟨fun row hrow => ⟨hactors row hrow, hlogouts row hrow⟩,
      fun row hrow => ⟨hgrants row hrow, hsessions row hrow, hdevices row hrow⟩, hrequests,
      hconsumptions⟩

theorem needs_deleteStatements (hs : Sound db) (huser : ∃ user ∈ db .users, user.userId = userId) :
    Call.Needs (deleteStatements userId) db (Unheld userId db) (fun _ => True)
      fun _ db' => db' = deleteAccount userId db := by
  rw [unheld_iff, deleteStatements]
  refine needs_deleteFrom_of (accepts_leaf rfl fun _ => rfl) ?_
  refine needs_deleteFrom_of (accepts_families.2 ?_) ?_
  · intro family hfamily hown token htoken hid
    rw [Database.delete_of_ne (by simp)] at hfamily
    rw [Database.delete_self] at htoken
    rw [sessionIdsOf_delete (by simp)] at hown
    have hgone : family.familyId ∈ familyIdsOf userId db :=
      List.mem_map_of_mem (List.mem_filter.2 ⟨hfamily, hown⟩)
    simpa [← hid, hgone] using (List.mem_filter.1 htoken).2
  refine needs_deleteFrom (accepts_logouts.trans (by simp [sessionIdsOf_delete])) fun hlogouts => ?_
  rw [Database.delete_eq_self (S := schema) (t := Table.sessionAuditOutbox)
    (by simpa [sessionIdsOf_delete] using hlogouts)]
  refine needs_deleteFrom (accepts_sessions.trans ?_) fun _ => ?_
  · -- the families and intents of the sessions are gone, the grants are not
    have hgrants : (∀ row ∈ db .sessions, row.userId = userId →
        (∀ family ∈ db .refreshFamilies, family.sessionId ∉ sessionIdsOf userId db →
          row.sessionId ≠ family.sessionId) ∧
        (∀ logout ∈ db .sessionAuditOutbox, row.sessionId ≠ logout.sessionId) ∧
        ∀ grant ∈ db .stepUpAuthorizations, row.sessionId ≠ grant.sessionId) ↔
        ∀ grant ∈ db .stepUpAuthorizations, grant.sessionId ∉ sessionIdsOf userId db := by
      constructor
      · intro h grant hgrant hown
        obtain ⟨row, hrow, huserId, hid⟩ := mem_sessionIdsOf.1 hown
        exact (h row hrow huserId).2.2 grant hgrant hid
      · intro h row hrow huserId
        have hown : row.sessionId ∈ sessionIdsOf userId db :=
          mem_sessionIdsOf.2 ⟨row, hrow, huserId, rfl⟩
        exact ⟨fun family _ hother hid => hother (hid ▸ hown),
          fun logout hlogout hid => hlogouts logout hlogout (hid ▸ hown),
          fun grant hgrant hid => h grant hgrant (hid ▸ hown)⟩
    simpa [sessionIdsOf_delete] using hgrants
  refine needs_deleteFrom (accepts_devices.trans ?_) fun _ => ?_
  · -- the sessions on the devices are the user's own
    have hgrants : (∀ row ∈ db .devices, row.userId = userId →
        (∀ session ∈ db .sessions, session.userId ≠ userId → row.deviceId ≠ session.deviceId) ∧
        ∀ grant ∈ db .stepUpAuthorizations, row.deviceId ≠ grant.deviceId) ↔
        ∀ grant ∈ db .stepUpAuthorizations, grant.deviceId ∉ deviceIdsOf userId db := by
      constructor
      · intro h grant hgrant hown
        obtain ⟨row, hrow, huserId, hid⟩ := mem_deviceIdsOf.1 hown
        exact (h row hrow huserId).2 grant hgrant hid
      · intro h row hrow huserId
        refine ⟨fun session hsession hother hid => ?_, fun grant hgrant hid =>
          h grant hgrant (mem_deviceIdsOf.2 ⟨row, hrow, huserId, hid⟩)⟩
        obtain ⟨device, hdevice, hon, -⟩ := hs.onDevice session hsession
        have heq : row = device := hs.eq_of_deviceId hrow hdevice (hid.trans hon.deviceId.symm)
        exact hother (by rw [← hon.userId, ← heq, huserId])
    simpa using hgrants
  refine needs_deleteFrom_of (accepts_leaf rfl fun _ => rfl) ?_
  refine needs_deleteFrom_of (accepts_leaf rfl fun _ => rfl) ?_
  refine needs_deleteFrom_of (accepts_leaf rfl fun _ => rfl) ?_
  refine needs_deleteFrom_last ((accepts_user (by simpa using huser)).trans ?_) fun _ => ?_
  · simp [unnamed_user, eq_comm (a := userId)]
  · simp [deleteAccount, sessionIdsOf, familyIdsOf]

theorem isDeletable_iff (hs : Sound db) : isDeletable userId db = true ↔ Unheld userId db := by
  have hown : ∀ session ∈ db .sessions,
      session.userId = userId ∨ session.deviceId ∉ deviceIdsOf userId db := by
    intro session hsession
    refine or_iff_not_imp_left.2 fun hother hown => hother ?_
    obtain ⟨device, hdevice, huserId, hid⟩ := mem_deviceIdsOf.1 hown
    obtain ⟨device', hdevice', hon, -⟩ := hs.onDevice session hsession
    have heq : device = device' := hs.eq_of_deviceId hdevice hdevice' (hid.trans hon.deviceId.symm)
    rw [← hon.userId, ← heq, huserId]
  have hsessions : ∀ sessionId, sessionId ∉ sessionIdsOf userId db ↔
      ∀ row ∈ db .sessions, row.sessionId = sessionId → row.userId ≠ userId :=
    fun sessionId => by simp [mem_sessionIdsOf, imp_not_comm]
  have hdevices : ∀ deviceId, deviceId ∉ deviceIdsOf userId db ↔
      ∀ row ∈ db .devices, row.deviceId = deviceId → row.userId ≠ userId :=
    fun deviceId => by simp [mem_deviceIdsOf, imp_not_comm]
  have hrows : isDeletable userId db = true ↔
      ((((∀ row ∈ db .sessionAuditOutbox,
        row.actorId ≠ userId ∧ row.sessionId ∉ sessionIdsOf userId db) ∧
      ∀ row ∈ db .sessions, row.userId = userId ∨ row.deviceId ∉ deviceIdsOf userId db) ∧
      ∀ row ∈ db .stepUpAuthorizations,
        (row.actorId ≠ userId ∧ row.sessionId ∉ sessionIdsOf userId db) ∧
          row.deviceId ∉ deviceIdsOf userId db) ∧
      ∀ row ∈ db .stepUpIdempotency, row.actorId ≠ userId) ∧
      ∀ row ∈ db .stepUpConsumptions, row.actorId ≠ userId := by
    simp [isDeletable, hsessions, hdevices]
  rw [hrows]
  constructor
  · rintro ⟨⟨⟨⟨hlogouts, -⟩, hgrants⟩, hrequests⟩, hconsumptions⟩
    exact ⟨hlogouts, fun row hrow => and_assoc.1 (hgrants row hrow), hrequests, hconsumptions⟩
  · intro h
    exact ⟨⟨⟨⟨h.logouts, hown⟩, fun row hrow => and_assoc.2 (h.grants row hrow)⟩, h.requests⟩,
      h.consumptions⟩

theorem deleteFrom_fails {t : Table} {p : Db → t.Row → Bool} {e : IdentityError}
    (h : (deleteFrom t p db).1 = .error e) : e = persistenceUnavailable := by
  by_cases haccepts : AcceptsDelete db t (p db)
  · rw [deleteFrom, Call.get_bind, Call.ensure_bind haccepts] at h
    cases h
  · rw [deleteFrom, Call.get_bind, Call.bind_of_error (Call.ensure_of_not haccepts)] at h
    exact (Except.error.inj h).symm

theorem deleteStatements_fails {e : IdentityError} (h : (deleteStatements userId db).1 = .error e) :
    e = persistenceUnavailable := by
  have hbind : ∀ {x : Statement PUnit} {f : PUnit → Statement PUnit},
      (∀ db e, (x db).1 = .error e → e = persistenceUnavailable) →
      (∀ db e, (f ⟨⟩ db).1 = .error e → e = persistenceUnavailable) →
      ∀ db e, ((x >>= f) db).1 = .error e → e = persistenceUnavailable := by
    intro x f hx hf db e h
    rcases hxdb : x db with ⟨e' | a, s⟩
    · rw [Call.bind_of_error hxdb] at h
      exact hx db e (by rw [hxdb]; exact h)
    · rw [Call.bind_of_ok hxdb] at h
      exact hf s e h
  have hdelete : ∀ {t : Table} {p : Db → t.Row → Bool} db e,
      (deleteFrom t p db).1 = .error e → e = persistenceUnavailable :=
    fun _ _ => deleteFrom_fails
  exact hbind hdelete (hbind hdelete (hbind hdelete (hbind hdelete (hbind hdelete (hbind hdelete
    (hbind hdelete (hbind hdelete hdelete))))))) db e h

theorem transaction_congr {env : Env} {x y : Statement α}
    (h : x db = y db ∨ ∃ e, (x db).1 = .error e ∧ (y db).1 = .error e) :
    transaction env x db = transaction env y db := by
  unfold transaction Call.atomically
  rcases h with h | ⟨e, hx, hy⟩
  · rcases hy : y db with ⟨e | a, s⟩
    · rw [Call.bind_of_error (h.trans hy), Call.bind_of_error hy]
    · rw [Call.bind_of_ok (h.trans hy), Call.bind_of_ok hy]
  · rw [Call.bind_of_error (Prod.ext hx rfl), Call.bind_of_error (Prod.ext hy rfl)]

variable {prim : Primitives} {env : Env} {admins : List String} {principal : IdentityPrincipal}
  {key traceId policyVersion : String}

theorem deleteUserByStatements_eq (hs : Sound db) :
    deleteUserByStatements prim env admins principal userId key traceId policyVersion db =
      deleteUser prim env admins principal userId key traceId policyVersion db := by
  refine Call.bind_congr (returns_requireAdmin.2 fun _ => ?_)
  refine Call.bind_congr (returns_validateOperation.2 fun _ _ => ?_)
  refine Call.bind_congr (Call.returns_ensure.2 fun _ => ?_)
  refine transaction_congr ?_
  rw [Call.get_bind, Call.get_bind]
  cases (deleteRequest prim principal userId key).prior db with
  | some prior => exact Or.inl rfl
  | none =>
    dsimp only
    by_cases hfound : (userOf userId db).isSome = true
    · rw [Call.ensure_bind hfound, Call.ensure_bind hfound]
      have huser : ∃ user ∈ db .users, user.userId = userId := by
        simpa [userOf, List.find?_isSome] using hfound
      have hneeds := needs_deleteStatements hs huser
      unfold Call.Needs Call.Post at hneeds
      rcases hrows : deleteStatements userId db with ⟨e | ⟨⟩, db'⟩
      · rw [hrows] at hneeds
        obtain rfl := deleteStatements_fails (congrArg Prod.fst hrows)
        have hheld : ¬isDeletable userId db = true := mt (isDeletable_iff hs).1 hneeds.1
        refine Or.inr ⟨persistenceUnavailable, ?_, ?_⟩
        · rw [Call.bind_of_error hrows]
        · rw [Call.bind_of_error (Call.ensure_of_not hheld)]
      · rw [hrows] at hneeds
        obtain ⟨hunheld, rfl⟩ := hneeds
        rw [Call.bind_of_ok hrows, Call.ensure_bind ((isDeletable_iff hs).2 hunheld)]
        exact Or.inl rfl
    · refine Or.inr ⟨userNotFound, ?_, ?_⟩ <;> rw [Call.bind_of_error (Call.ensure_of_not hfound)]

end Statements

/-! ## Deletions of reached accounts -/

/-- A row through which the user of the rows before gets in: the account, its memberships and mailed
tokens, and its devices, sessions and refresh tokens. -/
def Table.letsIn (userId : String) (db : Db) : (t : Table) → t.Row → Bool
  | users, row => row.userId = userId
  | emailVerificationTokens, row => row.userId = userId
  | passwordResetTokens, row => row.userId = userId
  | memberships, row => row.userId = userId
  | devices, row => row.userId = userId
  | sessions, row => row.userId = userId
  | refreshFamilies, row => (sessionIdsOf userId db).contains row.sessionId
  | refreshTokens, row => (familyIdsOf userId db).contains row.familyId
  | _, _ => false

/-- Nothing is left with which the user could authenticate. A code of the Android application that was
authorized by the user is left, but it opens no session. -/
structure Gone (userId : String) (db db' : Db) : Prop where
  rows : ∀ t : Table, ∀ row ∈ db' t, t.letsIn userId db row = false
  codes : ∀ tenantId, (requireUserAndTenant userId tenantId db').1 = .error authenticationRequired

/-- An administrator asks for the deletion of an existing account that is not protected, in a valid
request under a new key, and the database commits. -/
structure NewDeletion (config : PlatformConfig) (env : Env) (principal : IdentityPrincipal)
    (userId idempotencyKey traceId policyVersion : String) (db : Db) : Prop where
  admin : principal.userId ∈ config.admins
  texts : ∀ value ∈ [userId, idempotencyKey, traceId, policyVersion], isCheckedText value = true
  length : 16 ≤ idempotencyKey.toList.length ∧ idempotencyKey.toList.length ≤ 128
  unprotected : userId ≠ initialAdminUserId
  found : ∃ user ∈ db .users, user.userId = userId
  fresh : db.Admits .adminAuditOutbox ((deleteRequest config.prim principal userId
    idempotencyKey).intent config.prim env principal userId traceId policyVersion (some "deleted")
    none)
  commits : env.commits = true

section Deleting

variable {config : PlatformConfig} {env : Env} {principal : IdentityPrincipal}
  {userId key traceId policyVersion : String} {db : Db}

theorem deleteAccount_eq (t : Table) :
    deleteAccount userId db t = (db t).filter fun row => !t.letsIn userId db row := by
  cases t <;> simp [deleteAccount, Table.letsIn, sessionIdsOf, familyIdsOf]

theorem gone_of_deleteAccount (intent : AdminAuditRow) :
    Gone userId db ((deleteAccount userId db).insert .adminAuditOutbox intent) where
  rows t row hrow := by
    by_cases ht : t = .adminAuditOutbox
    · subst ht
      rfl
    · rw [Database.insert_of_ne ht, deleteAccount_eq] at hrow
      simpa using (List.mem_filter.1 hrow).2
  codes tenantId := by
    have hnone : userOf userId ((deleteAccount userId db).insert .adminAuditOutbox intent) = none := by
      simp [userOf, deleteAccount_users]
    rw [requireUserAndTenant, Call.get_bind, Call.bind_of_error (Call.ensure_of_not (by simp [hnone]))]

theorem prior_of_fresh {request : AdminRequest} {prim : Primitives} {before after : Option String}
    (h : db.Admits .adminAuditOutbox
      (request.intent prim env principal userId traceId policyVersion before after)) :
    request.prior db = none := by
  refine Database.find?_eq_none_of_admits (S := schema) h fun other hother => ?_
  simp only [Bool.and_eq_true, decide_eq_true_eq] at hother
  simp [Table.clash, AdminRequest.intent, hother.1, hother.2, Table.agree]

theorem needs_transaction {α : Type} {x : Statement α} {c : Prop} {E : Db → Prop} {Q : α → Db → Prop}
    (hcommits : env.commits = true) (hx : Call.Needs x db c E Q) :
    Call.Needs (transaction env x) db c (fun _ => True) Q := by
  unfold Call.Needs Call.Post at hx
  rcases hxdb : x db with ⟨e | a, db'⟩ <;> rw [hxdb] at hx
  · unfold transaction Call.Needs Call.Post Call.atomically
    rw [Call.bind_of_error hxdb]
    exact ⟨hx.1, trivial⟩
  · rw [Call.Needs, Call.Post, transaction_of_ok hxdb hcommits]
    exact hx

theorem deleteUser_new (h : NewDeletion config env principal userId key traceId policyVersion db) :
    Call.Needs (deleteUser config.prim env config.admins principal userId key traceId policyVersion) db
      (isDeletable userId db = true) (fun _ => True) fun result db' =>
        result = { userId, replayed := false } ∧ Gone userId db db' := by
  have hfound : (userOf userId db).isSome = true := by
    simpa [userOf, List.find?_isSome] using h.found
  simp only [deleteUser, requireAdmin, validateOperation, checkedTexts, Call.bind_assoc]
  refine Call.needs_ensure_of h.admin (Call.needs_ensure_of h.texts (Call.needs_ensure_of h.length
    (Call.needs_ensure_of h.unprotected (needs_transaction (E := fun _ => True) h.commits
      (Call.needs_get ?_)))))
  rw [prior_of_fresh h.fresh]
  refine Call.needs_ensure_of hfound (Call.Needs.iff (Call.needs_ensure trivial fun _ =>
    Call.needs_modify (c := True) ?_) (iff_of_eq (and_true _)))
  have hadmits : (deleteAccount userId db).Admits .adminAuditOutbox _ := h.fresh
  rw [Call.Needs, Call.Post, insertRow, Call.insertRow_bind hadmits]
  exact ⟨trivial, rfl, gone_of_deleteAccount _⟩

/-- The deletion of an account succeeds and shuts its user out if and only if neither an intent of a
logout nor a step-up of the user is left that it does not remove. -/
theorem deletes_user_iff (hdb : (platform config).Reachable db)
    (h : NewDeletion config env principal userId key traceId policyVersion db) :
    ((deleteUserByStatements config.prim env config.admins principal userId key traceId policyVersion
        db).1 = .ok { userId, replayed := false } ∧
      Gone userId db (deleteUserByStatements config.prim env config.admins principal userId key traceId
        policyVersion db).2) ↔ Unheld userId db := by
  have hs : Sound db := sound_of_reachable hdb
  rw [deleteUserByStatements_eq hs, ← isDeletable_iff hs]
  have hneeds := deleteUser_new h
  unfold Call.Needs Call.Post at hneeds
  rcases hdelete : deleteUser config.prim env config.admins principal userId key traceId policyVersion
    db with ⟨e | result, db'⟩
  · rw [hdelete] at hneeds
    exact iff_of_false (by simp) hneeds.1
  · rw [hdelete] at hneeds
    obtain ⟨hdeletable, rfl, hgone⟩ := hneeds
    exact iff_of_true ⟨rfl, hgone⟩ hdeletable

end Deleting

def loggedOutUser : List PlatformInput :=
  approvedUser ++
    [.identity (saltedEnv 3 "4") (.revokeCurrentWebSession "access3" "policy" "trace")]

def deleteCarol (db : Db) : Except IdentityError AdminUserDeleteResult × Db :=
  deleteUserByStatements officeConfig.prim (saltedEnv 4 "5") officeConfig.admins office "usr-usr1"
    "deletion-of-carol" "trace" "policy" db

/-- The trigger that keeps the intent of the logout rejects the deletion. -/
theorem logged_out_user_stays :
    NewDeletion officeConfig (saltedEnv 4 "5") office "usr-usr1" "deletion-of-carol" "trace" "policy"
        ((platform officeConfig).run loggedOutUser) ∧
      (deleteCarol ((platform officeConfig).run loggedOutUser)).1 = .error persistenceUnavailable := by
  refine ⟨⟨?_, ?_, ?_, ?_, ?_, ?_, ?_⟩, ?_⟩ <;> decide

/-- Before the logout the account can be deleted. -/
theorem logged_in_user_goes :
    ((deleteCarol ((platform officeConfig).run approvedUser)).1 =
        .ok { userId := "usr-usr1", replayed := false } ∧
      Gone "usr-usr1" ((platform officeConfig).run approvedUser)
        (deleteCarol ((platform officeConfig).run approvedUser)).2) := by
  refine (deletes_user_iff ⟨approvedUser, rfl⟩ ⟨?_, ?_, ?_, ?_, ?_, ?_, ?_⟩).2 ⟨?_, ?_, ?_, ?_⟩ <;>
    decide

end DaonUser.Identity
