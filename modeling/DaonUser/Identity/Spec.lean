import DaonUser.Identity.Change

/-!
# Identity: the specifications of the methods

What each method has met and changed when it returns: the shared statements have one rule each, and
every method is a run of changes. The methods that let a user in leave an active session behind for
whom they name (`Live`).
-/

namespace DaonUser.Identity

open Lib

variable {values : List String} {db' db : Db}
  {token secret traceId policyVersion accessToken actionGroup targetId : String} {now : Int}
  {row : SessionRow} {o : Opening} {p : IdentityPrincipal}
  {idempotencyKey stepUpAuthorization : Option String}

/-! ## The rules of the shared statements -/

section Rules

variable {α : Type} {env : Env} {prim : Primitives} {db : Db} {V : α → Db → Prop}
  {W : PUnit → Db → Prop}

@[simp] theorem returns_audit : Call.Returns (audit env) db W ↔ (env.audits = true → W ⟨⟩ db) :=
  Call.returns_ensure

@[simp] theorem returns_deny {code : String} {status : Nat} :
    Call.Returns (deny env code status) db V := by
  simp [deny]

@[simp] theorem returns_sendMail : Call.Returns (sendMail env) db W ↔ (env.mails = true → W ⟨⟩ db) :=
  Call.returns_ensure

@[simp] theorem returns_transaction {body : Statement α} :
    Call.Returns (transaction env body) db V ↔
      Call.Returns body db fun a db' => env.commits = true → V a db' := by
  simp [transaction]

@[simp] theorem returns_insertRow {t : Table} {row : t.Row} :
    Call.Returns (insertRow t row) db W ↔ (db.Admits t row → W ⟨⟩ (db.insert t row)) :=
  Call.returns_insertRow

@[simp] theorem returns_checkedTexts :
    Call.Returns (checkedTexts values) db W ↔
      ((∀ value ∈ values, isCheckedText value = true) → W ⟨⟩ db) :=
  Call.returns_ensure

@[simp] theorem returns_opaqueTexts :
    Call.Returns (opaqueTexts values) db W ↔
      ((∀ value ∈ values, isOpaqueText value = true) → W ⟨⟩ db) :=
  Call.returns_ensure

@[simp] theorem returns_password {value : String} :
    Call.Returns (password value) db W ↔ (isPassword value = true → W ⟨⟩ db) :=
  Call.returns_ensure

theorem transaction_of_ok {body : Statement α} {a : α} (h : body db = (.ok a, db'))
    (hcommits : env.commits = true) : transaction env body db = (.ok a, db') := by
  have hbody : (do
      let a ← body
      Call.ensure (env.commits = true) persistenceUnavailable
      return a : Statement α) db = (.ok a, db') := by
    rw [Call.bind_of_ok h, Call.ensure_bind hcommits]
    rfl
  rw [transaction, Call.atomically, hbody]

/-- The session of an access token that `_principal` accepts. -/
structure Validates (prim : Primitives) (db : Db) (token : String) (now : Int) (row : SessionRow) :
    Prop where
  isText : isOpaqueText token = true
  found : sessionOf prim token db = some row
  active : row.state = .active
  unexpired : row.clientKind = .web ∨ now < row.accessExpiresAt

@[simp] theorem returns_principal {V : SessionRow → Db → Prop} :
    Call.Returns (principal prim token now) db V ↔
      ∀ row, Validates prim db token now row → V row (seen row.deviceId now db) := by
  simp only [principal, Call.returns_bind, returns_opaqueTexts, Call.returns_require,
    Call.returns_ensure, Call.returns_modify, Call.returns_pure, List.mem_singleton, forall_eq]
  constructor
  · intro h row hrow
    exact h hrow.isText row hrow.found hrow.active hrow.unexpired
  · intro h htext row hfound hactive hexpires
    exact h row ⟨htext, hfound, hactive, hexpires⟩

theorem principal_of_validates (h : Validates prim db token now row) :
    principal prim token now db = (.ok row, seen row.deviceId now db) := by
  rw [principal, opaqueTexts, Call.ensure_bind (by simpa using h.isText),
    Call.require_bind h.found, Call.ensure_bind h.active, Call.ensure_bind h.unexpired]
  rfl

@[simp] theorem returns_openSession :
    Call.Returns (o.openSession prim env) db W ↔
      (o.Admitted prim env db → W ⟨⟩ (o.rows prim env db)) := by
  obtain ⟨tenantId, userId, platform, clientKind, openedAt, accessExpiresAt⟩ := o
  simp only [Opening.openSession, Opening.openFamily, Call.returns_bind, returns_insertRow]
  cases clientKind with
  | web =>
    simp only [Call.returns_pure, Opening.rows]
    constructor
    · intro h hadmits
      exact h hadmits.device hadmits.session
    · intro h hdevice hsession
      exact h ⟨hdevice, hsession, by simp, by simp⟩
  | native =>
    simp only [Call.returns_bind, returns_insertRow, Opening.rows]
    constructor
    · intro h hadmits
      exact h hadmits.device hadmits.session (hadmits.family rfl) (hadmits.refresh rfl)
    · intro h hdevice hsession hfamily hrefresh
      exact h ⟨hdevice, hsession, fun _ => hfamily, fun _ => hrefresh⟩

@[simp] theorem reverts_transaction {body : Statement α} :
    Call.Reverts (transaction env body) db :=
  Call.reverts_atomically

@[simp] theorem reverts_checkedTexts_bind {f : PUnit → Statement α} :
    Call.Reverts (checkedTexts values >>= f) db ↔
      ((∀ value ∈ values, isCheckedText value = true) → Call.Reverts (f ⟨⟩) db) :=
  Call.reverts_ensure_bind

@[simp] theorem reverts_opaqueTexts_bind {f : PUnit → Statement α} :
    Call.Reverts (opaqueTexts values >>= f) db ↔
      ((∀ value ∈ values, isOpaqueText value = true) → Call.Reverts (f ⟨⟩) db) :=
  Call.reverts_ensure_bind

@[simp] theorem reverts_password_bind {value : String} {f : PUnit → Statement α} :
    Call.Reverts (password value >>= f) db ↔
      (isPassword value = true → Call.Reverts (f ⟨⟩) db) :=
  Call.reverts_ensure_bind

@[simp] theorem reverts_email_bind {value : String} {f : String → Statement α} :
    Call.Reverts (email prim value >>= f) db ↔
      ((value.toList = stripChars isSpace value.toList ∧ value.toList.length ≤ 320) →
        isAddress (prim.lower value).toList = true → Call.Reverts (f (prim.lower value)) db) := by
  simp only [email, Call.bind_assoc, Call.reverts_ensure_bind, Call.reverts_pure_bind]

end Rules

section Lookups

variable {prim : Primitives} {db : Db}

theorem mem_of_sessionOf (h : sessionOf prim token db = some row) :
    row ∈ db .sessions ∧ row.accessDigest = prim.digest token :=
  ⟨List.mem_of_find?_eq_some h, by simpa using List.find?_some h⟩

theorem Validates.mem (h : Validates prim db token now row) : row ∈ db .sessions :=
  (mem_of_sessionOf h.found).1

theorem mem_of_userOf {userId : String} {row : UserRow} (h : userOf userId db = some row) :
    row ∈ db .users ∧ row.userId = userId :=
  ⟨List.mem_of_find?_eq_some h, by simpa using List.find?_some h⟩

theorem mem_of_grantOf {raw : String} {row : StepUpRow} (h : grantOf prim raw db = some row) :
    row ∈ db .stepUpAuthorizations ∧ row.authorizationDigest = prim.digest raw :=
  ⟨List.mem_of_find?_eq_some h, by simpa using List.find?_some h⟩

theorem active_of_authenticates {unverified : UserRow → Bool} {row : UserRow}
    (h : authenticates prim secret unverified row = true) : row.state = .active := by
  simp only [authenticates, Bool.and_eq_true, decide_eq_true_eq] at h
  exact h.2

theorem active_of_selectable {userId : String} {choices : List SelectableTenant} {choice : SelectableTenant}
    (h : (selection db userId).foldlM (selectTenant db userId) [] = .ok choices)
    (hchoice : choice ∈ choices) : isActiveUser db userId = true := by
  have hrows : selection db userId ≠ [] := by
    rintro hnil
    rw [hnil] at h
    cases h
    cases hchoice
  obtain ⟨row, hrow⟩ := List.exists_mem_of_ne_nil _ hrows
  simp only [selection, List.mem_insertionSort, List.mem_flatMap, List.mem_filter,
    decide_eq_true_eq, List.mem_map] at hrow
  obtain ⟨m, ⟨-, hm⟩, w, ⟨-, hw⟩, -⟩ := hrow
  simp only [selects, Bool.and_eq_true] at hw
  rw [← hm]
  exact hw.1.1.2

end Lookups

/-- The principal has an active session. -/
def Live (db : Db) (p : IdentityPrincipal) : Prop :=
  ∃ row ∈ db .sessions, row.principal = p ∧ row.state = .active

def SessionCredentials.principal (c : SessionCredentials) : IdentityPrincipal where
  userId := c.userId
  sessionId := c.sessionId
  deviceId := c.deviceId
  tenantId := c.tenantId

theorem Opening.live_rows (o : Opening) (prim : Primitives) (env : Env) (db : Db) :
    Live (o.rows prim env db) (o.credentials env).principal := by
  obtain ⟨tenantId, userId, platform, clientKind, openedAt, accessExpiresAt⟩ := o
  refine ⟨Opening.session prim env _, ?_, rfl, rfl⟩
  cases clientKind <;> simp [Opening.rows]

theorem Live.congr (h : Live db p) (hsame : db' .sessions = db .sessions) : Live db' p := by
  unfold Live at h ⊢
  rwa [hsame]

theorem Live.revokeSessionRow (h : Live db p) {sessionId : String}
    (hne : p.sessionId ≠ sessionId) : Live (revokeSessionRow sessionId now db) p := by
  obtain ⟨row, hrow, rfl, hactive⟩ := h
  have hid : row.sessionId ≠ sessionId := hne
  have hrows : Live (db.update .sessions (fun row => row.sessionId = sessionId && row.state = .active)
      (SessionRow.revoke now)) row.principal := by
    refine ⟨row, ?_, rfl, hactive⟩
    rw [Database.update_self, List.mem_map]
    exact ⟨row, hrow, by simp [hid]⟩
  exact hrows.congr (by simp [Identity.revokeSessionRow])

theorem Live.renewed (h : Live db p) {sessionId accessDigest : String} :
    Live (renewed sessionId accessDigest now db) p := by
  obtain ⟨row, hrow, rfl, hactive⟩ := h
  rw [Live, Identity.renewed, Database.update_self]
  refine ⟨_, List.mem_map_of_mem hrow, ?_⟩
  split
  · exact ⟨rfl, hactive⟩
  · exact ⟨rfl, hactive⟩

theorem Opening.Admitted.fresh {prim : Primitives} {env : Env}
    (h : o.Admitted prim env db) (hrow : row ∈ db .sessions) :
    row.sessionId ≠ env.id "ses" ∧ row.accessDigest ≠ prim.digest (env.text "access") := by
  have hclash : Table.clash .sessions row (o.session prim env) = false := h.session row hrow
  simp only [Table.clash, Bool.or_eq_false_iff, decide_eq_false_iff_not] at hclash
  exact hclash

/-! ## The methods as runs of changes -/

section Methods

variable {permit : Permit} {prim : Primitives} {env : Env} {db : Db}

theorem exists_user {userId : String} (h : isActiveUser db userId = true) :
    ∃ user ∈ db .users, user.userId = userId ∧ (user.state = .active ∨ permit.revives user) := by
  simp only [isActiveUser, List.any_eq_true, Bool.and_eq_true, decide_eq_true_eq] at h
  obtain ⟨user, hmem, hid, hactive⟩ := h
  exact ⟨user, hmem, hid, Or.inl hactive⟩

theorem insertInitialAdmin_runs {marked : Bool} :
    Call.Returns (insertInitialAdmin env marked) db fun _ db' => Runs permit db db' := by
  simp only [insertInitialAdmin, Call.returns_bind, Call.returns_get]
  split
  · simp only [Call.returns_ensure]
    exact fun _ => .refl
  · simp only [Call.returns_bind, Call.returns_ensure, returns_insertRow]
    exact fun _ _ hadmits => Runs.refl.next (.user _ hadmits)

theorem ensureInitialAdmin_runs :
    Call.Returns (ensureInitialAdmin env) db fun _ db' => Runs permit db db' := by
  simp only [ensureInitialAdmin, returns_transaction, Call.returns_bind, Call.returns_get,
    Call.returns_modify, Call.returns_ite, Call.returns_pure, returns_insertRow]
  have hinsert : ∀ marked, Call.Returns (insertInitialAdmin env marked) db
      fun _ db' => Runs permit db db' := fun _ => insertInitialAdmin_runs
  refine (hinsert _).mono fun _ db' hruns => ?_
  have hjoined := (hruns.next (.tenant initialAdminTenantId)).next
    (.joined { tenantId := initialAdminTenantId, userId := initialAdminUserId,
               role := "personal_owner" })
  exact ⟨fun _ _ => hjoined, fun _ hadmits _ => hjoined.next (.noted .bootstrapState _ rfl hadmits)⟩

theorem resetInitialAdminPassword_runs :
    Call.Returns (resetInitialAdminPassword env traceId policyVersion) db
      fun _ db' => Runs permit db db' := by
  simp only [resetInitialAdminPassword, requireProtectedInitialAdmin, Call.returns_bind,
    returns_checkedTexts, returns_transaction, Call.returns_get, Call.returns_ensure,
    Call.returns_require, Call.returns_modify, returns_insertRow]
  intro _ _ user _ _ hadmits _
  have hpassword : Runs permit db _ := Runs.refl.next
    (.password initialAdminUserId (env.hash initialAdminPassword) (some true))
  exact (hpassword.next (.userRevoked initialAdminUserId env.now)).next
    (.noted .adminAuditOutbox _ rfl hadmits)

theorem signup_runs {loginId emailText : String} :
    Call.Returns (signup prim env loginId emailText secret traceId policyVersion) db
      fun _ db' => Runs permit db db' := by
  simp only [signup, email, Call.returns_bind, returns_checkedTexts, returns_password,
    Call.returns_pure, returns_transaction, Call.returns_get, Call.returns_ensure,
    Call.returns_ite, Call.returns_modify, returns_insertRow, returns_sendMail, returns_audit]
  intro _ _ _ _ _
  refine ⟨fun _ _ => .refl, fun _ huser hmember htoken _ _ _ => ?_⟩
  have hjoined : Runs permit db _ := ((Runs.refl.next (.user _ huser)).next (.tenant (env.id "tenant"))).next
    (.joined { tenantId := env.id "tenant", userId := env.id "usr", role := "personal_owner" })
  rw [Database.insertOrIgnore_of_admits hmember] at hjoined
  exact hjoined.next (.noted .emailVerificationTokens _ rfl htoken)

theorem verifyEmail_runs (hfree : ∀ row, (db .emailVerificationTokens).find? (fun row =>
      row.tokenDigest = prim.digest token) = some row → row.usedAt = none → env.now < row.expiresAt →
      ∀ user ∈ db .users, user.userId = row.userId → permit.revives user) :
    Call.Returns (verifyEmail prim env token traceId policyVersion) db
      fun _ db' => Runs permit db db' := by
  simp only [verifyEmail, Call.returns_bind, returns_opaqueTexts, returns_checkedTexts,
    returns_transaction, Call.returns_require, Call.returns_ensure, Call.returns_modify,
    returns_audit]
  intro _ _ row hrow hunused _ _
  exact (Runs.refl.next (.verificationUsed row.tokenId env.now)).next
    (.verified row.userId env.now (hfree row hrow hunused.1 hunused.2))

@[simp] theorem returns_enforceMailRateLimit {tokens : Db → List MailTokenRow} {userId : String}
    {W : PUnit → Db → Prop} (hW : W ⟨⟩ db) :
    Call.Returns (enforceMailRateLimit env tokens userId) db W := by
  simp only [enforceMailRateLimit, Call.returns_bind, Call.returns_get, Call.returns_ensure]
  exact fun _ _ => hW

theorem resendVerification_runs {identifier : String} :
    Call.Returns (resendVerification prim env identifier traceId policyVersion) db
      fun _ db' => Runs permit db db' := by
  simp only [resendVerification, Call.returns_bind, returns_checkedTexts, returns_transaction,
    Call.returns_get]
  intro _
  split
  · simp only [Call.returns_pure]
    exact fun _ => .refl
  · simp only [Call.returns_ite, Call.returns_pure, Call.returns_bind, returns_insertRow,
      returns_sendMail]
    exact ⟨fun _ => returns_enforceMailRateLimit fun hadmits _ _ =>
      Runs.refl.next (.noted .emailVerificationTokens _ rfl hadmits), fun _ _ => .refl⟩

theorem resetRequest_runs {identifier : String} {revokeSessions : Bool} {hook : UserRow → Statement Bool}
    (hhook : ∀ row, Call.Returns (hook row) db fun _ db' => Runs permit db db') :
    Call.Returns (resetRequest prim env identifier traceId policyVersion revokeSessions hook) db
      fun _ db' => Runs permit db db' := by
  simp only [resetRequest, Call.returns_bind, returns_checkedTexts, returns_transaction,
    Call.returns_get]
  intro _
  split
  · simp only [Call.returns_pure]
    exact fun _ => .refl
  · next row _ =>
    simp only [Call.returns_ite, Call.returns_pure, Call.returns_bind, returns_insertRow,
      returns_sendMail, Call.returns_modify]
    refine (hhook row).mono fun _ db' hruns => ⟨fun _ => ?_, fun _ _ => hruns⟩
    refine returns_enforceMailRateLimit fun hadmits => ?_
    have hissued := hruns.next (.resetIssued (mailToken prim env row.userId resetTokenTtl) rfl rfl
      hadmits)
    exact ⟨fun _ _ _ => hissued.next (.userRevoked row.userId env.now), fun _ _ _ => hissued⟩

theorem requestPasswordReset_runs {identifier : String} {revokeSessions : Bool} :
    Call.Returns (requestPasswordReset prim env identifier traceId policyVersion revokeSessions) db
      fun _ db' => Runs permit db db' :=
  resetRequest_runs fun _ => Call.returns_pure.2 .refl

theorem mem_of_resetTokenOf {row : MailTokenRow} (h : resetTokenOf prim token db = some row) :
    row ∈ db .passwordResetTokens ∧ row.tokenDigest = prim.digest token :=
  ⟨List.mem_of_find?_eq_some h, by simpa using List.find?_some h⟩

theorem confirmPasswordReset_runs {newPassword : String} (hresets : permit.resets (prim.digest token)) :
    Call.Returns (confirmPasswordReset prim env token newPassword traceId policyVersion) db
      fun _ db' => Runs permit db db' := by
  simp only [confirmPasswordReset, Call.returns_bind, returns_opaqueTexts, returns_password,
    returns_checkedTexts, returns_transaction, Call.returns_require, Call.returns_ensure,
    Call.returns_modify]
  intro _ _ _ row hfound _ _
  obtain ⟨hrow, hdigest⟩ := mem_of_resetTokenOf hfound
  have hpassword : Runs permit db _ := Runs.refl.next
    (.password row.userId (env.hash newPassword) none)
  exact (hpassword.next (.resetUsed row env.now (by simpa using hrow) (hdigest ▸ hresets))).next
    (.userRevoked row.userId env.now)

/-! ### Access and step-up -/

theorem validateAccess_runs :
    Call.Returns (validateAccess prim env accessToken traceId policyVersion) db
      fun p db' => Runs permit db db' ∧ Live db' p := by
  simp only [validateAccess, Call.returns_bind, returns_checkedTexts, returns_transaction,
    Call.returns_mapError, returns_principal, Call.returns_pure]
  exact fun _ row hrow _ =>
    ⟨Runs.refl.next (.seen row.deviceId env.now), row, hrow.mem, rfl, hrow.active⟩

theorem describeAccess_runs :
    Call.Returns (describeAccess prim env accessToken traceId policyVersion) db
      fun view db' => Runs permit db db' ∧ Live db' view.principal := by
  simp only [describeAccess, Call.returns_bind, Call.returns_require, Call.returns_pure]
  exact validateAccess_runs.mono fun _ _ h _ _ => h

theorem issueStepUp_runs {ttlSeconds : Int} :
    Call.Returns (issueStepUp prim env accessToken actionGroup targetId policyVersion traceId
      ttlSeconds) db fun _ db' => Runs permit db db' := by
  simp only [issueStepUp, Call.returns_bind, returns_checkedTexts, Call.returns_ensure,
    returns_transaction, returns_principal, Call.returns_get, returns_insertRow, returns_audit,
    Call.returns_pure]
  intro _ _ row _ _ hadmits _ _
  exact (Runs.refl.next (.seen row.deviceId env.now)).next (.granted _ hadmits)

theorem grantAfterPassword_runs {ttlSeconds : Int} (hruns : Runs permit db db') :
    Call.Returns (grantAfterPassword prim env row secret actionGroup targetId policyVersion traceId
      ttlSeconds idempotencyKey) db' fun _ db'' => Runs permit db db'' := by
  simp only [grantAfterPassword, Call.returns_bind, Call.returns_require, Call.returns_ensure,
    returns_insertRow, returns_checkedTexts, returns_audit, Call.returns_pure]
  intro user _ _ hadmits
  have hgranted := hruns.next (.granted _ hadmits)
  cases idempotencyKey with
  | none =>
    simp only [recordGrant, Call.returns_pure]
    exact fun _ _ => hgranted
  | some key =>
    simp only [recordGrant, returns_insertRow]
    exact fun hkey _ _ => hgranted.next (.noted .stepUpIdempotency _ rfl hkey)

theorem issueStepUpAfterReauthentication_runs {ttlSeconds : Int} :
    Call.Returns (issueStepUpAfterReauthentication prim env accessToken secret actionGroup targetId
      policyVersion traceId ttlSeconds idempotencyKey) db fun _ db' => Runs permit db db' := by
  simp only [issueStepUpAfterReauthentication, Call.returns_bind, returns_password,
    returns_transaction, returns_principal, Call.returns_get]
  intro _ row _
  have hseen : Runs permit db _ := Runs.refl.next (.seen row.deviceId env.now)
  split
  · exact (grantAfterPassword_runs hseen).mono fun _ _ hruns _ => hruns
  · simp only [Call.returns_bind, returns_checkedTexts, Call.returns_ensure]
    intro _ _
    split
    · simp only [replayGrant, Call.returns_bind, Call.returns_ensure, Call.returns_pure]
      exact fun _ _ _ _ => hseen
    · exact (grantAfterPassword_runs hseen).mono fun _ _ hruns _ => hruns

/-- The grant of a raw text can be used for a binding: it is unused, before its expiry and was issued
for it. -/
structure FirstUse (prim : Primitives) (db : Db) (raw : String) (b : Binding) (now : Int)
    (grant : StepUpRow) : Prop where
  found : grantOf prim raw db = some grant
  unused : grant.usedAt = none
  unexpired : now < grant.expiresAt
  bound : b = grant.binding

/-- What `_consume_step_up` accepts and leaves: the grant is used for the first time, or a used one is
accepted for the ticket that used it. -/
inductive Consumes (prim : Primitives) (db : Db) (raw : String) (b : Binding) (t : Option Ticket)
    (now : Int) : Db → Prop
  | first (grant : StepUpRow) (huse : FirstUse prim db raw b now grant)
    (hadmits : ∀ t', t = some t' →
      db.Admits .stepUpConsumptions (newConsumption prim grant b t' now)) :
    Consumes prim db raw b t now
      (useGrant grant.stepUpId (t.map fun t => newConsumption prim grant b t now) now db)
  | again (grant : StepUpRow) (hfound : grantOf prim raw db = some grant)
    (hused : grant.usedAt.isSome = true) (hreplays : replays prim db grant b t = true) :
    Consumes prim db raw b t now db

/-- `ticket`, as a value. -/
def ticketOf (operation idempotencyKey : Option String) : Option Ticket :=
  operation.bind fun operation => idempotencyKey.map fun key => (operation, key)

theorem consumeGrant_spec {raw : Option String} {b : Binding} {operation : Option String} :
    Call.Returns (consumeGrant prim env raw b operation idempotencyKey) db fun _ db' =>
      ∃ raw', raw = some raw' ∧
        Consumes prim db raw' b (ticketOf operation idempotencyKey) env.now db' := by
  have hticket : Call.Returns (ticket operation idempotencyKey) db fun t db' =>
      db' = db ∧ t = ticketOf operation idempotencyKey := by
    cases operation <;> cases idempotencyKey <;> simp [ticket, ticketOf]
  simp only [consumeGrant, Call.returns_bind, Call.returns_require, returns_opaqueTexts,
    Call.returns_get]
  refine hticket.mono fun t db' ht => ?_
  obtain ⟨rfl, rfl⟩ := ht
  intro raw' hraw _ grant hfound
  split
  · next hused =>
    split
    · next hreplays =>
      rw [Call.returns_pure]
      exact ⟨raw', hraw, .again grant hfound hused hreplays⟩
    · exact returns_deny
  · next hunused =>
    split
    · exact returns_deny
    · next hexpires =>
      split
      · exact returns_deny
      · next hbound =>
        have hfirst : ∀ hadmits, Consumes prim db' raw' b (ticketOf operation idempotencyKey) env.now _ :=
          Consumes.first grant ⟨hfound, by simpa using hunused, by omega, by simpa using hbound⟩
        simp only [Call.returns_bind, Call.returns_modify, returns_audit]
        generalize ticketOf operation idempotencyKey = t at hfirst ⊢
        cases t with
        | none =>
          simp only [recordConsumption, Call.returns_pure]
          exact fun _ => ⟨raw', hraw, hfirst fun _ ht => by cases ht⟩
        | some t =>
          simp only [recordConsumption, returns_insertRow]
          exact fun hadmits _ => ⟨raw', hraw, hfirst fun _ ht => by cases ht; exact hadmits⟩

theorem Consumes.runs {raw : String} {b : Binding} {t : Option Ticket} {db₀ : Db}
    (h : Consumes prim db raw b t now db') (hruns : Runs permit db₀ db)
    (huses : ∀ grant, FirstUse prim db raw b now grant →
      permit.uses grant (t.map fun t => newConsumption prim grant b t now)) :
    Runs permit db₀ db' := by
  cases h with
  | first grant huse hadmits =>
    refine hruns.next (.grantUsed grant _ now (mem_of_grantOf huse.found).1 huse.unused
      (huses grant huse) fun row hrow => ?_)
    obtain ⟨t', ht, rfl⟩ := Option.map_eq_some_iff.1 hrow
    exact ⟨rfl, hadmits t' ht⟩
  | again => exact hruns

structure Confirmation where
  raw : String
  binding : Binding
  ticket : Option Ticket
  deriving DecidableEq

def confirmationOf (prim : Primitives) (db : Db) (accessToken : String) (raw : Option String)
    (actionGroup targetId policyVersion : String) (ticket : Option Ticket) : Option Confirmation :=
  (sessionOf prim accessToken db).bind fun row =>
    raw.map fun raw => { raw, binding := row.binding actionGroup targetId policyVersion, ticket }

theorem confirmationOf_eq {raw : String} {ticket : Option Ticket}
    (h : Validates prim db accessToken now row) :
    confirmationOf prim db accessToken (some raw) actionGroup targetId policyVersion ticket =
      some { raw, binding := row.binding actionGroup targetId policyVersion, ticket } := by
  rw [confirmationOf, h.found]
  rfl

def Permit.Confirms (permit : Permit) (prim : Primitives) (db : Db) (now : Int)
    (c : Option Confirmation) : Prop :=
  ∀ c', c = some c' → ∀ grant, FirstUse prim db c'.raw c'.binding now grant →
    permit.uses grant (c'.ticket.map fun t => newConsumption prim grant c'.binding t now)

theorem consumeStepUp_runs {operation : Option String}
    (huses : permit.Confirms prim db env.now (confirmationOf prim db accessToken stepUpAuthorization
      actionGroup targetId policyVersion (ticketOf operation idempotencyKey))) :
    Call.Returns (consumeStepUp prim env stepUpAuthorization accessToken actionGroup targetId
      policyVersion traceId operation idempotencyKey) db fun _ db' => Runs permit db db' := by
  simp only [consumeStepUp, Call.returns_bind, returns_checkedTexts, returns_transaction,
    returns_principal]
  intro _ row hrow
  refine consumeGrant_spec.mono fun _ db' hconsumes _ => ?_
  obtain ⟨raw, rfl, hconsumes⟩ := hconsumes
  exact hconsumes.runs (Runs.refl.next (.seen row.deviceId env.now)) fun grant huse =>
    huses _ (confirmationOf_eq hrow) grant ⟨huse.found, huse.unused, huse.unexpired, huse.bound⟩

/-! ### Sessions and devices -/

theorem opened_runs (hruns : Runs permit db db')
    (huser : ∃ user ∈ db' .users, user.userId = o.userId ∧ (user.state = .active ∨ permit.revives user))
    (hadmits : o.Admitted prim env db') :
    Runs permit db (o.rows prim env db') ∧ Live (o.rows prim env db') (o.credentials env).principal :=
  ⟨hruns.next (.opened prim env o hadmits huser), o.live_rows prim env db'⟩

theorem mem_of_localUser {login : String} {row : UserRow} (h : localUser login db = some row) :
    row ∈ db .users := List.mem_of_find?_eq_some h

theorem localLogin_runs {loginId : String} {platform : DevicePlatform} :
    Call.Returns (localLogin prim env loginId secret platform traceId policyVersion) db
      fun c db' => Runs permit db db' ∧ Live db' c.principal := by
  simp only [localLogin, Call.returns_bind, returns_checkedTexts, Call.returns_ensure,
    returns_transaction, Call.returns_get, Call.returns_require, returns_openSession, returns_audit,
    Call.returns_pure, Option.filter_eq_some_iff]
  rintro _ _ _ _ user ⟨hfound, hauth⟩ tenantId _ hadmits _ _
  exact opened_runs .refl ⟨user, mem_of_localUser hfound, rfl, Or.inl (active_of_authenticates hauth)⟩
    hadmits

theorem localNativeLogin_runs {loginId : String} :
    Call.Returns (localNativeLogin prim env loginId secret traceId policyVersion) db
      fun c db' => Runs permit db db' ∧ Live db' c.principal := by
  simp only [localNativeLogin, Call.returns_bind, returns_checkedTexts, returns_password,
    returns_transaction, Call.returns_get, Call.returns_require, returns_openSession, returns_audit,
    Call.returns_pure, Option.filter_eq_some_iff]
  rintro _ _ _ user ⟨hfound, hauth⟩ tenantId _ hadmits _ _
  exact opened_runs .refl ⟨user, mem_of_localUser hfound, rfl, Or.inl (active_of_authenticates hauth)⟩
    hadmits

theorem beginOidcLogin_runs {policies : List OidcClientPolicy}
    {issuer clientId audience redirectUri : String} {clientKind : ClientKind}
    {tenantId : String} :
    Call.Returns (beginOidcLogin prim env policies issuer clientId audience redirectUri clientKind
      tenantId traceId policyVersion) db fun _ db' => Runs permit db db' := by
  simp only [beginOidcLogin, Call.returns_bind, returns_opaqueTexts, returns_checkedTexts,
    Call.returns_ensure, returns_transaction, Call.returns_modify, returns_insertRow, returns_audit,
    Call.returns_pure]
  intro _ _ _ hadmits _ _
  exact (Runs.refl.next (.tenant tenantId)).next (.noted .oidcTransactions _ rfl hadmits)

theorem checkedClaims_spec {row : OidcRow} {answer : ProviderAnswer} :
    Call.Returns (checkedClaims prim env row answer) db fun claims db' =>
      db' = db ∧ answer = .claims claims ∧ claims.Match prim row := by
  cases answer with
  | raised => exact returns_deny
  | other => exact returns_deny
  | claims claims =>
    simp only [checkedClaims]
    split
    · next hmatch =>
      split
      · exact Call.returns_raise
      · split
        · simp only [Call.returns_bind, returns_opaqueTexts, Call.returns_pure]
          exact fun _ => ⟨trivial, trivial, hmatch⟩
        · exact returns_deny
    · exact returns_deny

/-- The users that a login with these claims may be for. -/
def FreeClaims (free : UserRow → Prop) (db : Db) (claims : VerifiedOidcClaims) : Prop :=
  ∀ user, subjectUser claims.issuer claims.subject db = some user → free user

/-- What a login with a state asks of the provider's answer, the transaction being open. -/
structure Completes (prim : Primitives) (env : Env) (db : Db) (state : String)
    (provider : ProviderAnswer) (claims : VerifiedOidcClaims) : Prop where
  provider : provider = .claims claims
  matched : ∃ row, unusedTransaction prim state db = some row ∧ env.now < row.expiresAt ∧
    claims.Match prim row

theorem claimedUser_runs {claims : VerifiedOidcClaims} (hruns : Runs permit db db')
    (hfree : FreeClaims permit.revives db' claims) :
    Call.Returns (claimedUser env claims) db' fun userId db'' => Runs permit db db'' ∧
      ∃ user ∈ db'' .users, user.userId = userId ∧ (user.state = .active ∨ permit.revives user) := by
  simp only [claimedUser, Call.returns_bind, Call.returns_get]
  split
  · next user hfound =>
    rw [Call.returns_pure]
    exact ⟨hruns, user, List.mem_of_find?_eq_some hfound, rfl, Or.inr (hfree user hfound)⟩
  · simp only [Call.returns_bind, returns_insertRow, Call.returns_pure]
    intro hadmits
    refine ⟨hruns.next (.user _ hadmits), ?_⟩
    rw [Database.insert_self]
    exact ⟨_, List.mem_append_right _ (List.mem_singleton_self _), rfl, Or.inl rfl⟩

theorem completeOidcLogin_runs {state authorizationCode codeVerifier clientId redirectUri : String}
    {provider : ProviderAnswer} {platform : DevicePlatform}
    (hfree : ∀ claims, Completes prim env db state provider claims →
      FreeClaims permit.revives db claims) :
    Call.Returns (completeOidcLogin prim env state authorizationCode codeVerifier clientId redirectUri
      provider platform traceId policyVersion) db
      fun c db' => Runs permit db db' ∧ Live db' c.principal := by
  simp only [completeOidcLogin, Call.returns_bind, returns_opaqueTexts, returns_checkedTexts,
    returns_transaction, Call.returns_get]
  intro _ _
  split
  · exact returns_deny
  · next row hfound =>
    split_ifs with hexpired
    · exact returns_deny
    · exact returns_deny
    · exact Call.returns_raise
    · exact returns_deny
    · simp only [Call.returns_bind, Call.returns_modify, returns_openSession, returns_audit,
        Call.returns_pure]
      refine checkedClaims_spec.mono fun claims db' hclaims => ?_
      obtain ⟨rfl, hprovider, hmatch⟩ := hclaims
      have hcompletes : Completes prim env db' state provider claims :=
        ⟨hprovider, row, hfound, not_le.1 hexpired, hmatch⟩
      have hused : Runs permit db' _ := Runs.refl.next (.oidcUsed row.transactionId env.now)
      refine (claimedUser_runs hused (hfree claims hcompletes)).mono fun userId db'' h => ?_
      obtain ⟨hruns, huser⟩ := h
      intro hadmits _ _
      have hjoined := hruns.next
        (.joined { tenantId := row.tenantId, userId := userId, role := "member" })
      exact opened_runs hjoined (by simpa using huser) hadmits

theorem switchSessionTenant_runs {tenantId : String} :
    Call.Returns (switchSessionTenant prim env accessToken tenantId traceId policyVersion) db
      fun answer db' => Runs permit db db' ∧ Live db' answer.1.principal := by
  simp only [switchSessionTenant, moveSession, selectableTenantWorkspaces, Call.returns_bind,
    returns_checkedTexts, returns_transaction, returns_principal, Call.returns_query,
    Call.returns_require, Call.returns_ite, Call.returns_modify, returns_insertRow,
    returns_openSession, Call.returns_pure]
  intro _ prior hprior _ choices hchoices choice hchoice
  have hseen : Runs permit db _ := Runs.refl.next (.seen prior.deviceId env.now)
  refine ⟨fun _ _ => ⟨hseen, prior, hprior.mem, rfl, hprior.active⟩, ?_⟩
  intro htenant device _ hadmits hnoted _
  have huser : isActiveUser (seen prior.deviceId env.now db) prior.userId = true :=
    active_of_selectable hchoices (List.mem_of_find?_eq_some hchoice)
  obtain ⟨hruns, hlive⟩ := opened_runs hseen (exists_user huser) hadmits
  have hfresh : prior.sessionId ≠ env.id "ses" := (hadmits.fresh (by simpa using hprior.mem)).1
  have hlive' : Live (revokeSessionRow prior.sessionId env.now _) _ :=
    hlive.revokeSessionRow hfresh.symm
  exact ⟨(hruns.next (.sessionRevoked prior.sessionId env.now)).next
    (.noted .sessionTenantSwitchOutbox _ rfl hnoted), hlive'.congr (by simp)⟩

theorem changeCurrentPassword_runs {currentPassword newPassword : String} :
    Call.Returns (changeCurrentPassword prim env accessToken currentPassword newPassword traceId
      policyVersion) db fun _ db' => Runs permit db db' := by
  simp only [changeCurrentPassword, Call.returns_bind, returns_password, returns_checkedTexts,
    Call.returns_ensure, returns_transaction, returns_principal, Call.returns_require,
    Call.returns_modify, returns_audit]
  intro _ _ _ row _ user _ _ _ _
  have hpassword : Runs permit db _ := (Runs.refl.next (.seen row.deviceId env.now)).next
    (.password row.userId (env.hash newPassword) (some false))
  exact hpassword.next (.userRevoked row.userId env.now)

theorem mem_of_refreshOf {refreshToken : String} {refresh : RefreshRow} {family : FamilyRow}
    {session : SessionRow} (h : refreshOf prim refreshToken db = some (refresh, family, session)) :
    refresh ∈ db .refreshTokens ∧ refresh.familyId = family.familyId ∧
      family ∈ db .refreshFamilies ∧ family.sessionId = session.sessionId ∧ session ∈ db .sessions := by
  simp only [refreshOf, Option.bind_eq_some_iff, Option.map_eq_some_iff, Prod.mk.injEq] at h
  obtain ⟨refresh', hrefresh, family', hfamily, session', hsession, rfl, rfl, rfl⟩ := h
  have hfamilyId : family'.familyId = refresh'.familyId := by simpa using List.find?_some hfamily
  have hsessionId : session'.sessionId = family'.sessionId := by simpa using List.find?_some hsession
  exact ⟨List.mem_of_find?_eq_some hrefresh, hfamilyId.symm, List.mem_of_find?_eq_some hfamily,
    hsessionId.symm, List.mem_of_find?_eq_some hsession⟩

theorem rotation_runs {refreshToken : Option String} :
    Call.Returns (rotation prim env refreshToken) db fun answer db' =>
      Runs permit db db' ∧ ∀ c, answer = some c → Live db' c.principal := by
  simp only [rotation, Call.returns_bind, Call.returns_get]
  split
  · exact returns_deny
  · next refresh family session hfound =>
    obtain ⟨token, -, hfound⟩ := Option.bind_eq_some_iff.1 hfound
    obtain ⟨-, -, hfamily, hsame, hsession⟩ := mem_of_refreshOf hfound
    split_ifs with hused hstate hexpires
    · simp only [Call.returns_bind, Call.returns_modify, returns_audit, Call.returns_pure]
      intro _
      rw [← hsame]
      exact ⟨Runs.refl.next (.familyRevoked family env.now hfamily), fun _ hc => by cases hc⟩
    · exact returns_deny
    · exact returns_deny
    · simp only [renewSession, Call.returns_bind, Call.returns_modify, Call.returns_get,
        Call.returns_ensure, returns_insertRow, returns_audit, Call.returns_pure]
      push Not at hstate
      intro hdigest hnext _
      have hused : Runs permit db _ := Runs.refl.next (.refreshUsed refresh.refreshId env.now)
      refine ⟨(hused.next (.renewed session.sessionId _ env.now ?_ hdigest)).next
        (.noted .refreshTokens _ rfl hnext), ?_⟩
      · exact ⟨session, by simpa using hsession, rfl, hstate.2⟩
      · rintro c ⟨⟩
        have hlive : Live (renewed session.sessionId (prim.digest (env.text "access")) env.now
            (useRefresh refresh.refreshId env.now db)) session.principal :=
          Live.renewed ⟨session, by simpa using hsession, rfl, hstate.2⟩
        exact hlive.congr (by simp)

theorem rotateRefresh_runs {refreshToken : Option String} :
    Call.Returns (rotateRefresh prim env refreshToken traceId policyVersion) db
      fun c db' => Runs permit db db' ∧ Live db' c.principal := by
  simp only [rotateRefresh, Call.returns_bind, returns_checkedTexts, returns_transaction,
    Call.returns_require]
  intro _
  exact rotation_runs.mono fun _ _ h _ c hc => ⟨h.1, h.2 c hc⟩

theorem revokeCurrentSession_runs {clientKind : ClientKind} {ended : SessionRow → Bool} :
    Call.Returns (revokeCurrentSession prim env clientKind ended accessToken policyVersion traceId) db
      fun _ db' => Runs permit db db' := by
  simp only [revokeCurrentSession, Call.returns_bind, returns_checkedTexts, Call.returns_ensure,
    returns_transaction, Call.returns_require, Call.returns_ite, Call.returns_modify,
    returns_insertRow, Call.returns_pure]
  intro _ _ row _
  exact ⟨fun _ _ => .refl, fun _ hadmits _ =>
    (Runs.refl.next (.sessionRevoked row.sessionId env.now)).next
      (.noted .sessionAuditOutbox _ rfl hadmits)⟩

theorem trustDevice_runs {deviceId : String} :
    Call.Returns (trustDevice prim env accessToken deviceId traceId policyVersion) db
      fun _ db' => Runs permit db db' := by
  simp only [trustDevice, Call.returns_bind, returns_checkedTexts, returns_transaction,
    returns_principal, Call.returns_get]
  intro _ row _
  split_ifs with hbinding howned
  · exact returns_deny
  · exact returns_deny
  · simp only [Call.returns_bind, Call.returns_modify, returns_audit]
    simp only [ownedDevice, Bool.not_eq_false, List.any_eq_true, Bool.and_eq_true,
      decide_eq_true_eq] at howned
    obtain ⟨device, hdevice, ⟨⟨hid, -⟩, -⟩, hstate⟩ := howned
    exact fun _ _ => (Runs.refl.next (.seen row.deviceId env.now)).next
      (.trusted deviceId env.now ⟨device, hdevice, hid, hstate⟩)

theorem revokeSession_runs {sessionId : String}
    (huses : permit.Confirms prim db env.now (confirmationOf prim db accessToken stepUpAuthorization
      revokeGroup sessionId policyVersion none)) :
    Call.Returns (revokeSession prim env accessToken sessionId stepUpAuthorization policyVersion
      traceId) db fun _ db' => Runs permit db db' := by
  simp only [revokeSession, Call.returns_bind, returns_checkedTexts, returns_transaction,
    returns_principal, Call.returns_get]
  intro _ row hrow
  split_ifs
  · exact returns_deny
  · simp only [Call.returns_bind, Call.returns_modify, returns_audit]
    refine consumeGrant_spec.mono fun _ db' hconsumes _ _ => ?_
    obtain ⟨raw, rfl, hconsumes⟩ := hconsumes
    refine (hconsumes.runs (Runs.refl.next (.seen row.deviceId env.now)) fun grant huse => ?_).next
      (.sessionRevoked sessionId env.now)
    exact huses _ (confirmationOf_eq hrow) grant
      ⟨huse.found, huse.unused, huse.unexpired, huse.bound⟩

theorem revokeDevice_runs {deviceId : String}
    (huses : permit.Confirms prim db env.now (confirmationOf prim db accessToken stepUpAuthorization
      revokeGroup deviceId policyVersion none)) :
    Call.Returns (revokeDevice prim env accessToken deviceId stepUpAuthorization policyVersion
      traceId) db fun _ db' => Runs permit db db' := by
  simp only [revokeDevice, Call.returns_bind, returns_checkedTexts, returns_transaction,
    returns_principal, Call.returns_get, Call.returns_ensure, Call.returns_modify, returns_audit]
  intro _ row hrow _
  refine consumeGrant_spec.mono fun _ db' hconsumes _ _ => ?_
  obtain ⟨raw, rfl, hconsumes⟩ := hconsumes
  refine (hconsumes.runs (Runs.refl.next (.seen row.deviceId env.now)) fun grant huse => ?_).next
    (.deviceRevoked deviceId row.tenantId row.userId env.now)
  exact huses _ (confirmationOf_eq hrow) grant ⟨huse.found, huse.unused, huse.unexpired, huse.bound⟩

end Methods
end DaonUser.Identity
