import DaonUser.Identity.Revocation

/-!
# Identity: logout and revocation over whole histories

An access token that was logged out is never valid again, unless its session was a web session past the
expiry that the row carries: the logout leaves such a session active, and `_principal` does not look at the
expiry of a web session. Whatever is revoked stays revoked, with all that depends on it.
-/

namespace DaonUser.Identity

open Lib

variable {prim : Primitives} {env : Env} {accessToken : String} {db' : Db} {row : SessionRow} {a : Answer}
  {operation : Operation}

variable {config : Config} {db : Db}

/-! ## Logout -/

def Operation.logsOut : Operation → Option String
  | revokeCurrentWebSession accessToken _ _ => some accessToken
  | revokeCurrentNativeSession accessToken _ _ => some accessToken
  | _ => none

/-- The token is that of an active web session whose row says that it has expired. -/
def isExpiredWeb (prim : Primitives) (now : Int) (accessToken : String) (db : Db) : Bool :=
  (sessionOf prim accessToken db).any fun row =>
    row.clientKind = .web && row.state = .active && row.accessExpiresAt ≤ now

/-- What a logout leaves: the session of the token is revoked, or it was an expired web session and
nothing has changed. -/
theorem revokeCurrentSession_spec {clientKind : ClientKind}
    {ended : SessionRow → Bool} {policyVersion traceId : String} :
    Call.Returns (revokeCurrentSession prim env clientKind ended accessToken policyVersion traceId) db
      fun _ db' => isOpaqueText accessToken = true ∧ ∃ row, sessionOf prim accessToken db = some row ∧
        row.clientKind = clientKind ∧ ((ended row = true ∧ db' = db) ∨ (ended row = false ∧
          db' .sessions = revokeSessionRow row.sessionId env.now db .sessions)) := by
  simp only [revokeCurrentSession, Call.returns_bind, returns_checkedTexts, Call.returns_ensure,
    returns_transaction, Call.returns_require, Call.returns_ite, Call.returns_modify,
    returns_insertRow, Call.returns_pure, Option.filter_eq_some_iff, decide_eq_true_eq]
  rintro _ htext row ⟨hfound, hkind⟩
  refine ⟨fun hrow _ => ⟨htext, row, hfound, hkind, Or.inl ⟨hrow, trivial⟩⟩, fun hrow hadmits _ =>
    ⟨htext, row, hfound, hkind, Or.inr ⟨by simpa using hrow, by simp⟩⟩⟩

/-- The session of a token is revoked. -/
def LoggedOut (prim : Primitives) (accessToken : String) (db : Db) : Prop :=
  ∃ row ∈ db .sessions, row.accessDigest = prim.digest accessToken ∧ row.state = .revoked

theorem LoggedOut.lasts (h : LoggedOut prim accessToken db) (hlasting : Lasting db db') :
    LoggedOut prim accessToken db' := by
  obtain ⟨row, hrow, hdigest, hrevoked⟩ := h
  obtain ⟨row', hrow', hlater⟩ := hlasting.sessions row hrow
  exact ⟨row', hrow', (hlater.accessDigest hrevoked).trans hdigest, hlater.revoked hrevoked⟩

theorem LoggedOut.invalid (h : LoggedOut prim accessToken db) (hs : Sound db) {now : Int} :
    ¬Validates prim db accessToken now row := by
  intro hvalid
  obtain ⟨row', hrow', hdigest, hrevoked⟩ := h
  obtain ⟨hrow, hfound⟩ := mem_of_sessionOf hvalid.found
  have heq : row = row' := hs.eq_of_accessDigest hrow hrow' (hfound.trans hdigest.symm)
  have hactive := hvalid.active
  rw [heq, hrevoked] at hactive
  cases hactive

theorem loggedOut_of_revoke {now : Int} (hfound : sessionOf prim accessToken db = some row)
    (hsessions : db' .sessions = revokeSessionRow row.sessionId now db .sessions) :
    LoggedOut prim accessToken db' := by
  obtain ⟨hrow, hdigest⟩ := mem_of_sessionOf hfound
  unfold LoggedOut
  rw [hsessions]
  cases hstate : row.state with
  | active =>
    refine ⟨row.revoke now, ?_, hdigest, rfl⟩
    simp only [revokeSessionRow, Database.update_of_ne, Database.update_self, List.mem_map, ne_eq,
      reduceCtorEq, not_false_eq_true]
    exact ⟨row, hrow, by simp [hstate]⟩
  | revoked =>
    refine ⟨row, ?_, hdigest, hstate⟩
    simp only [revokeSessionRow, Database.update_of_ne, Database.update_self, List.mem_map, ne_eq,
      reduceCtorEq, not_false_eq_true]
    exact ⟨row, hrow, by simp [hstate]⟩

theorem validateAccess_of_validates (env : Env) (hvalid : Validates prim db accessToken env.now row)
    (hcommits : env.commits = true) (traceId policyVersion : String)
    (htexts : ∀ value ∈ [traceId, policyVersion], isCheckedText value = true) :
    validateAccess prim env accessToken traceId policyVersion db =
      (.ok row.principal, seen row.deviceId env.now db) := by
  rw [validateAccess, checkedTexts, Call.ensure_bind htexts]
  refine transaction_of_ok ?_ hcommits
  have hprincipal : Call.mapError (accessDenial env) (principal prim accessToken env.now) db =
      (.ok row, seen row.deviceId env.now db) := by
    rw [Call.mapError, principal_of_validates hvalid]
  rw [Call.bind_of_ok hprincipal]
  rfl

theorem answer_validateAccess {traceId policyVersion : String}
    (h : (service config).answer db (.call env (.validateAccess accessToken traceId policyVersion)) =
      .ok a) : ∃ row, Validates config.prim db accessToken env.now row ∧ a = .principal row.principal := by
  have hreturns : Call.Returns
      ((Operation.validateAccess accessToken traceId policyVersion).run config env) db fun a _ =>
        ∃ row, Validates config.prim db accessToken env.now row ∧ a = .principal row.principal := by
    simp only [Operation.run, validateAccess, Call.returns_map, Call.returns_bind,
      returns_checkedTexts, returns_transaction, Call.returns_mapError, returns_principal,
      Call.returns_pure]
    exact fun _ row hrow _ => ⟨row, hrow, rfl⟩
  exact hreturns a _ (Prod.ext h rfl)

/-- What a returned logout has done to the session of its token. -/
def Settled (prim : Primitives) (now : Int) (accessToken : String) (db db' : Db) : Prop :=
  (isExpiredWeb prim now accessToken db = true ∧ isOpaqueText accessToken = true ∧ db' = db) ∨
    (isExpiredWeb prim now accessToken db = false ∧ LoggedOut prim accessToken db')

theorem revokeCurrentSession_settles {clientKind : ClientKind}
    {ended : SessionRow → Bool} {policyVersion traceId : String}
    (hended : ∀ row, row.clientKind = clientKind → (ended row = true ↔ row.state ≠ .active ∨
      (row.clientKind = .web ∧ row.accessExpiresAt ≤ env.now))) :
    Call.Returns (revokeCurrentSession prim env clientKind ended accessToken policyVersion traceId) db
      fun _ db' => Settled prim env.now accessToken db db' := by
  refine revokeCurrentSession_spec.mono ?_
  rintro _ db' ⟨htext, row, hfound, hkind, hanswer | hanswer⟩
  · obtain ⟨hrow, hdb⟩ := hanswer
    subst hdb
    by_cases hstate : row.state = .active
    · have hexpired := ((hended row hkind).1 hrow).resolve_left (not_not.2 hstate)
      exact Or.inl ⟨by simp [isExpiredWeb, hfound, hexpired, hstate], htext, rfl⟩
    · refine Or.inr ⟨by simp [isExpiredWeb, hfound, hstate], row, (mem_of_sessionOf hfound).1,
        (mem_of_sessionOf hfound).2, ?_⟩
      cases hrevoked : row.state with
      | active => exact absurd hrevoked hstate
      | revoked => rfl
  · obtain ⟨hrow, hsessions⟩ := hanswer
    have hlive := (not_congr (hended row hkind)).1 (by simp [hrow])
    push Not at hlive
    refine Or.inr ⟨?_, loggedOut_of_revoke hfound hsessions⟩
    simp only [isExpiredWeb, hfound, Option.any_some, Bool.and_eq_false_iff,
      decide_eq_false_iff_not]
    by_cases hweb : row.clientKind = .web
    · exact Or.inr (not_le.2 (hlive.2 hweb))
    · exact Or.inl (Or.inl hweb)

theorem settled_of_answer (hlogsOut : operation.logsOut = some accessToken)
    (h : (service config).answer db (.call env operation) = .ok a) :
    Settled config.prim env.now accessToken db ((service config).next db (.call env operation)) := by
  have hreturns : Call.Returns (operation.run config env) db fun _ db' =>
      Settled config.prim env.now accessToken db db' := by
    cases operation <;> simp only [Operation.logsOut, reduceCtorEq, Option.some.injEq] at hlogsOut
    case revokeCurrentWebSession token policyVersion traceId =>
      subst hlogsOut
      simp only [Operation.run, Call.returns_map]
      refine revokeCurrentSession_settles fun row hkind => ?_
      simp [hkind]
    case revokeCurrentNativeSession token policyVersion traceId =>
      subst hlogsOut
      simp only [Operation.run, Call.returns_map]
      refine revokeCurrentSession_settles fun row hkind => ?_
      simp [hkind]
  exact hreturns a _ (Prod.ext h rfl)

/-- Once a logout has returned, the token is never valid again, if and only if its session was not an
expired web session. -/
theorem logout_final_iff (config : Config) (is : List Input) (env : Env) (operation : Operation)
    (accessToken : String) (hlogsOut : operation.logsOut = some accessToken) (a : Answer)
    (hreturned : (service config).answer ((service config).run is) (.call env operation) = .ok a) :
    (∀ js env' traceId policyVersion, ∃ e,
      (service config).answer ((service config).run (is ++ .call env operation :: js))
        (.call env' (.validateAccess accessToken traceId policyVersion)) = .error e) ↔
      isExpiredWeb config.prim env.now accessToken ((service config).run is) = false := by
  have hnext : (service config).run (is ++ [.call env operation]) =
      (service config).next ((service config).run is) (.call env operation) :=
    (service config).run_concat is _
  constructor
  · intro hnever
    by_contra hexpired
    rcases settled_of_answer hlogsOut hreturned with ⟨hlingers, htext, hsame⟩ | ⟨hnot, -⟩
    · -- the session is as it was, and a validation right after the logout accepts it
      obtain ⟨row, hfound, hrow⟩ := (Option.any_eq_true _ _).1 hlingers
      simp only [Bool.and_eq_true, decide_eq_true_eq] at hrow
      have hvalid : Validates config.prim ((service config).run is) accessToken env.now row :=
        ⟨htext, hfound, hrow.1.2, Or.inl hrow.1.1⟩
      obtain ⟨e, he⟩ := hnever [] { env with commits := true } "t" "p"
      rw [hnext, hsame] at he
      have hreturns := Call.map_of_ok (validateAccess_of_validates
        { env with commits := true } hvalid rfl "t" "p" (by decide)) Answer.principal
      have hok := (congrArg Prod.fst hreturns).symm.trans he
      cases hok
    · exact hexpired hnot
  · intro hexpired js env' traceId policyVersion
    rcases settled_of_answer hlogsOut hreturned with ⟨hlingers, -⟩ | ⟨-, hout⟩
    · rw [hexpired] at hlingers
      cases hlingers
    · have hsplit : is ++ .call env operation :: js = (is ++ [.call env operation]) ++ js := by simp
      rw [← hnext] at hout
      have hlater := hout.lasts (lasting_run config (is ++ [.call env operation]) js)
      rw [← hsplit] at hlater
      cases hanswer : (service config).answer
          ((service config).run (is ++ .call env operation :: js))
          (.call env' (.validateAccess accessToken traceId policyVersion)) with
      | error e => exact ⟨e, rfl⟩
      | ok a =>
        obtain ⟨row, hvalid, -⟩ := answer_validateAccess hanswer
        exact absurd hvalid (hlater.invalid (sound_run config _))

/-! ### An OIDC session on the web -/

def plainText : Dumped → String
  | .str text => toString text.length ++ ":" ++ text
  | .int value => toString value
  | .list values => joined (values.attach.map fun ⟨value, _⟩ => plainText value)
  | _ => ""

def plainPrimitives : Primitives where
  digest text := text
  fingerprint := plainText
  challenge text := text
  hmac text := text
  verify digest secret := digest = secret
  lower text := text

def calmEnv (now : Int) : Env where
  now := now
  later := now
  text purpose := purpose
  hash secret := secret
  audits := true
  mails := true
  commits := true

def webPolicy : OidcClientPolicy where
  issuer := "issuer"
  clientId := "client"
  audience := "audience"
  redirectUris := ["redirect"]
  clientKind := .web
  tenantId := "tenant"

def webConfig : Config := { prim := plainPrimitives, policies := [webPolicy] }

def webClaims : VerifiedOidcClaims where
  verificationComplete := true
  issuer := "issuer"
  audience := "audience"
  subject := "subject"
  nonce := "nonce"
  expiresAt := some 100

def webLogin : List Input :=
  [.call (calmEnv 0)
      (.beginOidcLogin "issuer" "client" "audience" "redirect" .web "tenant" "trace" "policy"),
    .call (calmEnv 1) (.completeOidcLogin "state" "code" "verifier" "client" "redirect"
      (.claims webClaims) .web "trace" "policy")]

def lateLogout : Input := .call (calmEnv 7200000000) (.revokeCurrentWebSession "access" "policy" "trace")

/-- The late logout returns, and its access token is valid afterwards. -/
theorem logout_lingers :
    (service webConfig).answer ((service webConfig).run webLogin) lateLogout =
        .ok (.logout { replayed := true }) ∧
      ((service webConfig).answer ((service webConfig).run (webLogin ++ [lateLogout]))
        (.call (calmEnv 7200000001) (.validateAccess "access" "trace" "policy"))).toOption.isSome =
          true := by
  decide

theorem logout_final_iff_early :
    (∀ js env' traceId policyVersion, ∃ e,
      (service webConfig).answer ((service webConfig).run (webLogin ++
          .call (calmEnv 5) (.revokeCurrentWebSession "access" "policy" "trace") :: js))
        (.call env' (.validateAccess "access" traceId policyVersion)) = .error e) ↔
      isExpiredWeb plainPrimitives 5 "access" ((service webConfig).run webLogin) = false :=
  logout_final_iff webConfig webLogin (calmEnv 5) (.revokeCurrentWebSession "access" "policy" "trace")
    "access" rfl (.logout { replayed := false }) (by decide)

/-! ## Revocation -/

/-- Nothing that is revoked is active later. -/
structure StaysRevoked (db db' : Db) : Prop where
  devices : ∀ row ∈ db .devices, row.state = .revoked → ∀ row' ∈ db' .devices,
    row'.deviceId = row.deviceId → row'.state = .revoked
  sessions : ∀ row ∈ db .sessions, row.state = .revoked → ∀ row' ∈ db' .sessions,
    row'.sessionId = row.sessionId → row'.state = .revoked
  families : ∀ row ∈ db .refreshFamilies, row.state = .revoked → ∀ row' ∈ db' .refreshFamilies,
    row'.familyId = row.familyId → row'.state = .revoked

/-- What is revoked has everything that depends on it revoked. -/
structure Cascaded (db : Db) : Prop where
  families : ∀ row ∈ db .sessions, row.state = .revoked → ∀ family ∈ db .refreshFamilies,
    family.sessionId = row.sessionId → family.state = .revoked
  sessions : ∀ device ∈ db .devices, device.state = .revoked → ∀ row ∈ db .sessions,
    row.deviceId = device.deviceId → row.state = .revoked

theorem Lasting.staysRevoked (h : Lasting db db') (hs : Sound db') :
    StaysRevoked db db' where
  devices row hrow hrevoked row' hrow' hid := by
    obtain ⟨later, hlater, hfollows⟩ := h.devices row hrow
    have heq : row' = later := hs.eq_of_deviceId hrow' hlater (hid.trans hfollows.deviceId.symm)
    exact heq ▸ hfollows.revoked hrevoked
  sessions row hrow hrevoked row' hrow' hid := by
    obtain ⟨later, hlater, hfollows⟩ := h.sessions row hrow
    have heq : row' = later := hs.eq_of_sessionId hrow' hlater (hid.trans hfollows.sessionId.symm)
    exact heq ▸ hfollows.revoked hrevoked
  families row hrow hrevoked row' hrow' hid := by
    obtain ⟨later, hlater, hfollows⟩ := h.families row hrow
    have heq : row' = later := hs.families.eq hrow' hlater
      (by simp [Table.clash, hid.trans hfollows.familyId.symm])
    exact heq ▸ hfollows.revoked hrevoked

theorem Sound.cascaded (hs : Sound db) : Cascaded db where
  families row hrow hrevoked family hfamily hid := by
    obtain ⟨row', hrow', hid', hof⟩ := hs.ofSession family hfamily
    have heq : row' = row := hs.eq_of_sessionId hrow' hrow (hid'.trans hid)
    exact hof (heq ▸ hrevoked)
  sessions device hdevice hrevoked row hrow hid := by
    obtain ⟨device', hdevice', hon, hlive⟩ := hs.onDevice row hrow
    have heq : device' = device := hs.eq_of_deviceId hdevice' hdevice (hon.deviceId.trans hid)
    cases hstate : row.state with
    | active => exact absurd hrevoked (heq ▸ hlive hstate)
    | revoked => rfl

theorem entrant_of_answer (is : List Input) {p : IdentityPrincipal}
    (h : (service config).answer ((service config).run is) (.call env operation) = .ok a)
    (hp : a.entrant = some p) :
    (∀ row ∈ (service config).run is .sessions, row.sessionId = p.sessionId →
      row.state ≠ .revoked) ∧
    ∀ device ∈ (service config).run is .devices, device.deviceId = p.deviceId →
      device.state ≠ .revoked := by
  have hs := sound_run config is
  obtain ⟨hs', hlasting⟩ := service_sound config hs (.call env operation)
  obtain ⟨live, hlive, rfl, hactive⟩ := live_of_answer h hp
  have hstays := hlasting.staysRevoked hs'
  constructor
  · intro row hrow hid hrevoked
    have hafter := hstays.sessions row hrow hrevoked live hlive hid.symm
    rw [hactive] at hafter
    cases hafter
  · intro device hdevice hid hrevoked
    obtain ⟨device', hdevice', hon, hstate⟩ := hs'.onDevice live hlive
    exact hstate hactive (hstays.devices device hdevice hrevoked device' hdevice'
      (hon.deviceId.trans hid.symm))

def Operation.passwordOwner (config : Config) (db : Db) : Operation → Option String
  | changeCurrentPassword accessToken _ _ _ _ =>
    (sessionOf config.prim accessToken db).map SessionRow.userId
  | confirmPasswordReset token _ _ _ =>
    (resetTokenOf config.prim token db).map MailTokenRow.userId
  | _ => none

theorem revoked_of_password {userId : String} (howner : operation.passwordOwner config db = some userId)
    (h : (service config).answer db (.call env operation) = .ok a) :
    ∀ row ∈ db .sessions, row.userId = userId →
      row.revoke env.now ∈ (service config).next db (.call env operation) .sessions := by
  have hrevoke : ∀ db' : Db, db' .sessions = revokeUserSessions userId env.now db .sessions →
      ∀ row ∈ db .sessions, row.userId = userId → row.revoke env.now ∈ db' .sessions := by
    intro db' hsame row hrow hid
    rw [hsame]
    simp only [revokeUserSessions, revokeFamiliesOf, Database.update_of_ne, Database.update_self,
      List.mem_map, ne_eq, reduceCtorEq, not_false_eq_true]
    exact ⟨row, hrow, by simp [hid]⟩
  have hreturns : Call.Returns (operation.run config env) db fun _ db' =>
      db' .sessions = revokeUserSessions userId env.now db .sessions := by
    cases operation <;>
      simp only [Operation.passwordOwner, reduceCtorEq, Option.map_eq_some_iff] at howner
    case changeCurrentPassword accessToken currentPassword newPassword traceId policyVersion =>
      obtain ⟨row, hfound, rfl⟩ := howner
      simp only [Operation.run, changeCurrentPassword, Call.returns_map, Call.returns_bind,
        returns_password, returns_checkedTexts, Call.returns_ensure, returns_transaction,
        returns_principal, Call.returns_require, Call.returns_modify, returns_audit]
      intro _ _ _ row' hvalid user _ _ _ _
      obtain rfl : row' = row := Option.some.inj (hvalid.found.symm.trans hfound)
      rfl
    case confirmPasswordReset token newPassword traceId policyVersion =>
      obtain ⟨row, hfound, rfl⟩ := howner
      simp only [Operation.run, confirmPasswordReset, Call.returns_map, Call.returns_bind,
        returns_opaqueTexts, returns_password, returns_checkedTexts, returns_transaction,
        Call.returns_require, Call.returns_ensure, Call.returns_modify]
      intro _ _ _ row' hfound' _ _
      obtain rfl : row' = row := Option.some.inj (hfound'.symm.trans hfound)
      rfl
  exact hrevoke _ (hreturns a _ (Prod.ext h rfl))

/-- What is revoked stays revoked with all that depends on it; nobody renews a session on a revoked
device; and no session from before a new password lets anybody in. -/
theorem revocation_holds (config : Config) (is js : List Input) :
    StaysRevoked ((service config).run is) ((service config).run (is ++ js)) ∧
      Cascaded ((service config).run is) ∧
      (∀ env refreshToken traceId policyVersion c,
        (service config).answer ((service config).run is)
          (.call env (.rotateRefresh refreshToken traceId policyVersion)) = .ok (.credentials c) →
        ∀ device ∈ (service config).run is .devices, device.deviceId = c.deviceId →
          device.state ≠ .revoked) ∧
      ∀ env operation userId a, operation.passwordOwner config ((service config).run is) = some userId →
        (service config).answer ((service config).run is) (.call env operation) = .ok a →
        ∀ row ∈ (service config).run is .sessions, row.userId = userId →
        ∀ env' operation' a' p,
          (service config).answer ((service config).run (is ++ .call env operation :: js))
            (.call env' operation') = .ok a' → a'.entrant = some p → p.sessionId ≠ row.sessionId := by
  refine ⟨(lasting_run config is js).staysRevoked (sound_run config _), (sound_run config is).cascaded, ?_, ?_⟩
  · intro env refreshToken traceId policyVersion c hreturned
    exact (entrant_of_answer is hreturned (p := c.principal) rfl).2
  · intro env operation userId a howner hreturned row hrow hid env' operation' a' p hentered hp hsame
    have hsplit : is ++ .call env operation :: js = (is ++ [.call env operation]) ++ js := by simp
    have hrevoked : row.revoke env.now ∈
        (service config).run (is ++ [.call env operation]) .sessions := by
      rw [Machine.run_concat]
      exact revoked_of_password howner hreturned row hrow hid
    obtain ⟨row', hrow', hlater⟩ :=
      (lasting_run config (is ++ [.call env operation]) js).sessions _ hrevoked
    rw [← hsplit] at hrow'
    exact (entrant_of_answer _ hentered hp).1 row' hrow' (hlater.sessionId.trans hsame.symm)
      (hlater.revoked rfl)

end DaonUser.Identity
