import DaonUser.Identity.Platform

/-!
# Identity: users who are suspended or wait for approval

An active session belongs to a user who is neither suspended nor waiting for approval (`Guarded`), except
that `verify_email` makes the user of its token active whatever the state is, and `complete_oidc_login` does
not look at the state of the user. In every history without these two, such users stay out until an
administrator makes them active (`blocked_users_stay_out`).
-/

namespace DaonUser.Identity

open Lib

variable {activates : String → Prop} {row : UserRow} {i : PlatformInput}

variable {config : PlatformConfig} {powers : Powers} {permit : Permit} {db db' : Db}

/-! ## The invariant -/

def UserRow.isBlocked (row : UserRow) : Bool :=
  row.state = .suspended || row.state = .pendingApproval

/-- The users have ids of their own, and every active session is that of a user who is not blocked. -/
structure Guarded (db : Db) : Prop where
  users : (db .users).Pairwise fun row row' => row.userId ≠ row'.userId
  sessions : ∀ row ∈ db .sessions, row.state = .active →
    ∃ user ∈ db .users, user.userId = row.userId ∧ user.isBlocked = false

/-- A later row of the same user, who is not blocked any more only if `activates` lets it. -/
structure UserRow.Later (activates : String → Prop) (row row' : UserRow) : Prop where
  userId : row'.userId = row.userId
  blocked : row.isBlocked = true → row'.isBlocked = true ∨ activates row.userId

theorem UserRow.Later.refl (row : UserRow) : row.Later activates row :=
  ⟨rfl, Or.inl⟩

theorem UserRow.Later.trans {a b c : UserRow}
    (h : a.Later activates b) (h' : b.Later activates c) : a.Later activates c where
  userId := h'.userId.trans h.userId
  blocked := by
    intro hblocked
    rcases h.blocked hblocked with hmid | hactivates
    · rcases h'.blocked hmid with hlast | hactivates
      · exact Or.inl hlast
      · exact Or.inr (h.userId ▸ hactivates)
    · exact Or.inr hactivates

/-- The users of a later database follow those of an earlier one. -/
abbrev UsersFollow (activates : String → Prop) (db db' : Db) : Prop :=
  Persists (UserRow.Later activates) (db .users) (db' .users)

theorem guarded_empty : Guarded Database.empty := ⟨List.Pairwise.nil, nofun⟩

theorem Guarded.eq_of_userId (h : Guarded db) {row' : UserRow} (hrow : row ∈ db .users)
    (hrow' : row' ∈ db .users) (hid : row.userId = row'.userId) : row = row' := by
  by_contra hne
  have : Std.Symm fun a b : UserRow => a.userId ≠ b.userId := ⟨fun _ _ => Ne.symm⟩
  exact List.Pairwise.forall h.users hrow hrow' hne hid

/-- Every active session of the later database was one before, or is that of a user who is not
blocked. -/
def SessionsFollow (db db' : Db) : Prop :=
  ∀ row ∈ db' .sessions, row.state = .active →
    (∃ row' ∈ db .sessions, row'.userId = row.userId ∧ row'.state = .active) ∨
      ∃ user ∈ db .users, user.userId = row.userId ∧ user.isBlocked = false

theorem Guarded.rewrite (h : Guarded db) {f : UserRow → UserRow}
    (husers : db' .users = (db .users).map f) (hsessions : SessionsFollow db db')
    (hf : ∀ user ∈ db .users, user.Later activates (f user))
    (hfree : ∀ user ∈ db .users, user.isBlocked = false → (f user).isBlocked = false ∨
      ∀ row ∈ db' .sessions, row.state = .active → row.userId ≠ user.userId) :
    Guarded db' ∧ UsersFollow activates db db' := by
  refine ⟨⟨?_, ?_⟩, ?_⟩
  · rw [husers, List.pairwise_map]
    refine List.Pairwise.imp_of_mem (fun {row row'} hrow hrow' hne => ?_) h.users
    rwa [(hf row hrow).userId, (hf row' hrow').userId]
  · intro row hrow hactive
    have hbefore : ∃ user ∈ db .users, user.userId = row.userId ∧ user.isBlocked = false := by
      rcases hsessions row hrow hactive with ⟨row', hrow', hid, hactive'⟩ | hnew
      · exact hid ▸ h.sessions row' hrow' hactive'
      · exact hnew
    obtain ⟨user, huser, hid, hfree'⟩ := hbefore
    rcases hfree user huser hfree' with hstill | hnone
    · rw [husers]
      exact ⟨f user, List.mem_map_of_mem huser, (hf user huser).userId.trans hid, hstill⟩
    · exact absurd hid.symm (hnone row hrow hactive)
  · rw [UsersFollow, husers]
    exact Persists.map hf

theorem Guarded.congr (h : Guarded db) (husers : db' .users = db .users)
    (hsessions : SessionsFollow db db') : Guarded db' ∧ UsersFollow activates db db' :=
  h.rewrite (f := id) (by rw [husers, List.map_id]) hsessions (fun user _ => .refl user)
    fun _ _ => Or.inl

theorem Guarded.inserted (h : Guarded db) (hadmits : db.Admits .users row) :
    Guarded (db.insert .users row) ∧ UsersFollow activates db (db.insert .users row) := by
  refine ⟨⟨?_, ?_⟩, ?_⟩
  · rw [Database.insert_self, List.pairwise_append]
    refine ⟨h.users, List.pairwise_singleton _ _, fun other hother row' hrow' => ?_⟩
    rw [List.mem_singleton.1 hrow']
    have hclash : Table.clash .users other row = false := hadmits other hother
    simp only [Table.clash, Bool.or_eq_false_iff, decide_eq_false_iff_not] at hclash
    exact hclash.1.1.1
  · intro session hsession hactive
    rw [Database.insert_of_ne (by simp)] at hsession
    obtain ⟨user, huser, hfree⟩ := h.sessions session hsession hactive
    rw [Database.insert_self]
    exact ⟨user, List.mem_append_left _ huser, hfree⟩
  · rw [UsersFollow, Database.insert_self]
    exact Persists.append UserRow.Later.refl _ _

theorem SessionsFollow.of_eq (h : db' .sessions = db .sessions) : SessionsFollow db db' := by
  intro row hrow hactive
  rw [h] at hrow
  exact Or.inl ⟨row, hrow, rfl, hactive⟩

theorem SessionsFollow.revoked (p : SessionRow → Bool) (now : Int)
    (h : db' .sessions = (db .sessions).map (onRows p (SessionRow.revoke now))) :
    SessionsFollow db db' := by
  intro row hrow hactive
  rw [h] at hrow
  obtain ⟨row', hrow', rfl⟩ := List.mem_map.1 hrow
  exact Or.inl ⟨row', hrow', (SessionRow.later_revoke p now row').userId.symm,
    (SessionRow.active_of_revoke hactive).1⟩

theorem SessionsFollow.renewed {sessionId accessDigest : String} {now : Int} :
    SessionsFollow db (renewed sessionId accessDigest now db) := by
  intro row hrow hactive
  have hrows : Identity.renewed sessionId accessDigest now db .sessions = (db .sessions).map
      (onRows (fun row => row.sessionId = sessionId) (SessionRow.renew accessDigest now)) := rfl
  rw [hrows] at hrow
  obtain ⟨row', hrow', rfl⟩ := List.mem_map.1 hrow
  have hsame : (onRows (fun row => row.sessionId = sessionId) (SessionRow.renew accessDigest now)
      row').userId = row'.userId ∧ (onRows (fun row => row.sessionId = sessionId)
        (SessionRow.renew accessDigest now) row').state = row'.state := by
    unfold onRows
    split <;> exact ⟨rfl, rfl⟩
  exact Or.inl ⟨row', hrow', hsame.1.symm, hsame.2.symm.trans hactive⟩

theorem SessionsFollow.opened {prim : Primitives} {env : Env} {o : Opening}
    (huser : ∃ user ∈ db .users, user.userId = o.userId ∧ user.isBlocked = false) :
    SessionsFollow db (o.rows prim env db) := by
  intro row hrow hactive
  rw [Opening.rows_sessions] at hrow
  rcases List.mem_append.1 hrow with hold | hnew
  · exact Or.inl ⟨row, hold, rfl, hactive⟩
  · rw [List.mem_singleton.1 hnew]
    exact Or.inr huser

theorem UserRow.isBlocked_of_active (h : row.state = .active) :
    row.isBlocked = false := by
  simp [UserRow.isBlocked, h]

theorem Change.guarded (h : Change permit db db')
    (hrevives : ∀ user, permit.revives user → user.isBlocked = false) (hs : Guarded db) :
    Guarded db' ∧ UsersFollow activates db db' := by
  cases h with
  | user row hadmits => exact hs.inserted hadmits
  | password userId digest required =>
    have hkept : ∀ user : UserRow, (onRows (fun row => row.userId = userId)
        (UserRow.setPassword digest required) user).userId = user.userId ∧
        (onRows (fun row => row.userId = userId) (UserRow.setPassword digest required)
          user).isBlocked = user.isBlocked := by
      intro user
      unfold onRows
      split <;> exact ⟨rfl, rfl⟩
    exact hs.rewrite rfl (.of_eq (by simp)) (fun user _ => ⟨(hkept user).1,
      fun hblocked => Or.inl ((hkept user).2.trans hblocked)⟩)
      fun user _ hfree => Or.inl ((hkept user).2.trans hfree)
  | verified userId now hfree =>
    have hactive : ∀ user ∈ db .users, user.isBlocked = false → (onRows
        (fun row => row.userId = userId) (UserRow.verify now) user).isBlocked = false := by
      intro user _ hbefore
      unfold onRows
      split
      · rfl
      · exact hbefore
    refine hs.rewrite rfl (.of_eq (by simp)) (fun user huser => ?_)
      fun user huser hbefore => Or.inl (hactive user huser hbefore)
    split
    · next hid =>
      have hfree' := hrevives user (hfree user huser (by simpa using hid))
      exact ⟨rfl, fun hblocked => by rw [hfree'] at hblocked; cases hblocked⟩
    · exact .refl user
  | opened prim env o hadmits huser =>
    obtain ⟨user, hmem, hid, hstate⟩ := huser
    have hfree : user.isBlocked = false := hstate.elim UserRow.isBlocked_of_active (hrevives user)
    exact hs.congr (by simp) (.opened ⟨user, hmem, hid, hfree⟩)
  | userRevoked userId now =>
    exact hs.congr (by simp) (.revoked (fun row => row.userId = userId) now rfl)
  | sessionRevoked sessionId now =>
    exact hs.congr (by simp) (.revoked
      (fun row => row.sessionId = sessionId && row.state = .active) now rfl)
  | familyRevoked family now hfamily =>
    exact hs.congr (by simp) (.revoked (fun row => row.sessionId = family.sessionId) now rfl)
  | deviceRevoked deviceId tenantId userId now =>
    exact hs.congr (by simp) (.revoked (SessionRow.isOnDevice deviceId tenantId userId) now
      rfl)
  | renewed sessionId accessDigest now hactive hdigest => exact hs.congr (by simp) .renewed
  | noted t row hlog hadmits =>
    have hne : ∀ t', Table.isLog t' = false → t' ≠ t := by
      rintro t' hlog' rfl
      rw [hlog] at hlog'
      cases hlog'
    exact hs.congr (Database.insert_of_ne (hne _ rfl)) (.of_eq (Database.insert_of_ne (hne _ rfl)))
  | joined row => exact hs.congr (by simp) (.of_eq (by simp))
  | _ => exact hs.congr (by simp) (.of_eq (by simp))

theorem stateChanged_users {after : UserState} {now : Int} :
    stateChanged row after now db .users = setState row.userId row.state after now db .users := by
  unfold stateChanged
  dsimp only
  split
  · rfl
  · exact revokeUserSessions_of_ne (by simp) (by simp)

/-- An administrator changes the state of a user: a user whose state changes has no active session
left. -/
theorem Guarded.stated (h : Guarded db)
    {after : UserState} {now : Int} (hrow : userOf row.userId db = some row)
    (hafter : after = .active ∨ after = .suspended) (hactivates : after = .active → activates row.userId) :
    Guarded (stateChanged row after now db) ∧
      UsersFollow activates db (stateChanged row after now db) := by
  obtain ⟨hmem, -⟩ := mem_of_userOf hrow
  have hother : row.state ≠ after → stateChanged row after now db .sessions =
      (db .sessions).map (onRows (fun other => other.userId = row.userId) (SessionRow.revoke now)) := by
    intro hchanged
    rw [stateChanged, if_neg hchanged]
    rfl
  have hsessions : SessionsFollow db (stateChanged row after now db) := by
    by_cases hsame : row.state = after
    · refine .of_eq ?_
      rw [stateChanged, if_pos hsame]
      exact Database.update_of_ne (by simp)
    · exact .revoked _ _ (hother hsame)
  refine h.rewrite stateChanged_users hsessions (fun user huser => ?_) fun user huser hfree => ?_
  · split
    · next hid =>
      refine ⟨rfl, fun hblocked => ?_⟩
      rcases hafter with rfl | rfl
      · exact Or.inr (by simpa [h.eq_of_userId huser hmem (by simpa using hid)] using hactivates rfl)
      · exact Or.inl rfl
    · exact .refl user
  · split
    · next hid =>
      obtain rfl := h.eq_of_userId huser hmem (by simpa using hid)
      rcases hafter with rfl | rfl
      · exact Or.inl rfl
      · right
        intro session hsession hactive
        have hchanged : user.state ≠ .suspended := by
          rintro hsuspended
          simp [UserRow.isBlocked, hsuspended] at hfree
        rw [hother hchanged] at hsession
        obtain ⟨before, -, rfl⟩ := List.mem_map.1 hsession
        have hnot := (SessionRow.active_of_revoke hactive).2
        rw [(SessionRow.later_revoke _ now before).userId]
        simpa using hnot
    · exact Or.inl hfree

theorem Move.guarded (h : Move powers db db')
    (hrevives : ∀ user, powers.revives user → user.isBlocked = false) (hs : Guarded db) :
    Guarded db' ∧ UsersFollow powers.activates db db' := by
  cases h with
  | identity h => exact h.guarded hrevives hs
  | enrolled row hadmits henrolls => exact hs.congr (by simp) (.of_eq (by simp))
  | appointed row => exact hs.congr (by simp) (.of_eq (by simp))
  | emailed userId address =>
    refine hs.rewrite rfl (.of_eq (by simp [setEmail])) (fun user _ => ?_) fun user _ hfree => ?_
    · split
      · exact ⟨rfl, Or.inl⟩
      · exact .refl user
    · split
      · exact Or.inl hfree
      · exact Or.inl hfree
  | stated row after now hrow hafter hactivates => exact hs.stated hrow hafter hactivates
  | workspace row hprotects => exact hs.congr (by simp) (.of_eq (by simp))
  | authorized h => exact hs.congr (h .users rfl) (.of_eq (h .sessions rfl))

theorem Moves.guarded (h : Moves powers db db')
    (hrevives : ∀ user, powers.revives user → user.isBlocked = false) (hs : Guarded db) :
    Guarded db' ∧ UsersFollow powers.activates db db' := by
  induction h with
  | refl => exact ⟨hs, Persists.refl UserRow.Later.refl _⟩
  | tail _ hlast ih =>
    obtain ⟨hs', hfollow⟩ := ih
    obtain ⟨hs'', hfollow'⟩ := hlast.guarded hrevives hs'
    exact ⟨hs'', hfollow.trans UserRow.Later.trans hfollow'⟩

theorem deleteAccount_users {userId : String} :
    deleteAccount userId db .users = (db .users).filter fun row => !decide (row.userId = userId) := by
  simp [deleteAccount]

theorem deleteAccount_sessions {userId : String} :
    deleteAccount userId db .sessions =
      (db .sessions).filter fun row => !decide (row.userId = userId) := by
  simp [deleteAccount]

theorem Deletes.guarded {userId : String} (h : Deletes userId db db') (hs : Guarded db) :
    Guarded db' ∧ ∀ user ∈ db' .users, user ∈ db .users := by
  cases h with
  | kept => exact ⟨hs, fun _ => id⟩
  | deleted intent =>
    refine ⟨⟨?_, ?_⟩, ?_⟩
    · rw [Database.insert_of_ne (by simp), deleteAccount_users]
      exact List.Pairwise.filter _ hs.users
    · rw [Database.insert_of_ne (by simp), Database.insert_of_ne (by simp), deleteAccount_users,
        deleteAccount_sessions]
      intro row hrow hactive
      obtain ⟨hrow, hother⟩ := List.mem_filter.1 hrow
      obtain ⟨user, huser, hid, hfree⟩ := hs.sessions row hrow hactive
      refine ⟨user, List.mem_filter.2 ⟨huser, ?_⟩, hid, hfree⟩
      rw [hid]
      exact hother
    · rw [Database.insert_of_ne (by simp), deleteAccount_users]
      exact fun user huser => (List.mem_filter.1 huser).1

/-! ## Histories -/

/-- The operation would let a blocked user in: the address of one is verified with an open token, or
a login is completed with the claims of one. -/
def Operation.ReachesBlocked (prim : Primitives) (env : Env) (db : Db) : Operation → Prop
  | verifyEmail token _ _ => ∃ row, (db .emailVerificationTokens).find? (fun row =>
      row.tokenDigest = prim.digest token) = some row ∧ row.usedAt = none ∧ env.now < row.expiresAt ∧
        ∃ user ∈ db .users, user.userId = row.userId ∧ user.isBlocked = true
  | completeOidcLogin state _ _ _ _ provider _ _ _ => ∃ claims,
      Completes prim env db state provider claims ∧
        ∃ user, subjectUser claims.issuer claims.subject db = some user ∧ user.isBlocked = true
  | _ => False

/-- The input does not let a blocked user in by the back door. -/
def PlatformInput.Closed (config : PlatformConfig) (db : Db) : PlatformInput → Prop
  | identity env operation => ¬operation.ReachesBlocked config.prim env db
  | _ => True

def PlatformInput.activated : PlatformInput → Option String
  | admin _ _ (.approveUser userId _ _ _) => some userId
  | admin _ _ (.changeState userId state _ _ _) => if state = "active" then some userId else none
  | _ => none

def blockingPowers (i : PlatformInput) : Powers where
  revives user := user.isBlocked = false
  resets _ := True
  uses _ _ := True
  activates userId := i.activated = some userId
  enrolls _ := True

theorem permitted_of_closed (h : i.Closed config db) :
    i.Permitted (blockingPowers i) config db := by
  have hconfirms : ∀ (env : Env) c, (blockingPowers i).Confirms config.prim db env.now c :=
    fun _ _ _ _ _ _ => trivial
  cases i with
  | identity env operation =>
    cases operation with
    | verifyEmail token traceId policyVersion =>
      intro row hrow hunused hnow user huser hid
      by_contra hblocked
      exact h ⟨row, hrow, hunused, hnow, user, huser, hid, by simpa [blockingPowers] using hblocked⟩
    | completeOidcLogin state authorizationCode codeVerifier clientId redirectUri provider =>
      intro claims hcompletes user huser
      by_contra hblocked
      exact h ⟨claims, hcompletes, user, huser, by simpa [blockingPowers] using hblocked⟩
    | confirmPasswordReset => trivial
    | _ => exact hconfirms env _
  | admin env principal operation =>
    cases operation with
    | createUser => exact fun _ => trivial
    | approveUser => rfl
    | changeState userId state =>
      intro hactive
      simp [blockingPowers, PlatformInput.activated, hactive]
    | _ => trivial
  | organization env operation => trivial
  | others rows => trivial

/-- A user is blocked before the input and active after it. -/
def Revives (config : PlatformConfig) (db : Db) (i : PlatformInput) (userId : String) : Prop :=
  (∃ user ∈ db .users, user.userId = userId ∧ user.isBlocked = true) ∧
    ∃ user ∈ (platform config).next db i .users, user.userId = userId ∧ user.state = .active

theorem platform_guarded (hs : Guarded db) (hclosed : i.Closed config db) :
    Guarded ((platform config).next db i) ∧
      ∀ userId, Revives config db i userId → i.activated = some userId := by
  cases htarget : i.target with
  | none =>
    obtain ⟨hs', hfollow⟩ := (i.leaves htarget (permitted_of_closed hclosed)).guarded
      (fun _ => id) hs
    refine ⟨hs', ?_⟩
    rintro userId ⟨⟨user, huser, rfl, hblocked⟩, user', huser', hid, hactive⟩
    obtain ⟨later, hlater, hfollows⟩ := hfollow user huser
    obtain rfl : user' = later := hs'.eq_of_userId huser' hlater (hid.trans hfollows.userId.symm)
    refine (hfollows.blocked hblocked).resolve_left ?_
    simp [UserRow.isBlocked_of_active hactive]
  | some target =>
    have hdeletes : Deletes target db ((platform config).next db i) := PlatformInput.deletes htarget
    obtain ⟨hs', hsub⟩ := hdeletes.guarded hs
    refine ⟨hs', ?_⟩
    rintro userId ⟨⟨user, huser, rfl, hblocked⟩, user', huser', hid, hactive⟩
    obtain rfl := hs.eq_of_userId (hsub user' huser') huser hid
    rw [UserRow.isBlocked_of_active hactive] at hblocked
    cases hblocked

theorem map_ne_identity {α : Type} {x : Statement α} {f : α → PlatformAnswer} {a : Answer}
    (hf : ∀ b, f b ≠ .identity a) : ((f <$> x) db).1 ≠ .ok (.identity a) := by
  rw [Call.map_apply]
  intro h
  cases hx : (x db).1 with
  | error e => rw [hx] at h; cases h
  | ok b =>
    rw [hx] at h
    exact hf b (Except.ok.inj h)

theorem entrant_free (hs : Guarded db) (hclosed : i.Closed config db) {a : Answer}
    {p : IdentityPrincipal} (h : (platform config).answer db i = .ok (.identity a))
    (hp : a.entrant = some p) : ∀ user ∈ db .users, user.userId = p.userId → user.isBlocked = false := by
  cases i with
  | identity env operation =>
    have hstep := platform_identity config db env operation
    have hanswer : (service config.toConfig).answer db (.call env operation) = .ok a := by
      rw [Machine.answer, hstep] at h
      cases hx : ((service config.toConfig).step db (.call env operation)).1 with
      | error e => rw [hx] at h; cases h
      | ok b =>
        rw [hx] at h
        cases h
        exact hx
    obtain ⟨live, hlive, rfl, hactive⟩ := live_of_answer hanswer hp
    obtain ⟨hs', hfollow⟩ := (PlatformInput.leaves (.identity env operation) rfl
      (permitted_of_closed hclosed)).guarded (fun _ => id) hs
    have hnext : (platform config).next db (.identity env operation) =
        (service config.toConfig).next db (.call env operation) := congrArg Prod.snd hstep
    rw [hnext] at hs' hfollow
    obtain ⟨user', huser', hid', hfree⟩ := hs'.sessions live hlive hactive
    intro user huser hid
    by_contra hblocked
    obtain ⟨later, hlater, hfollows⟩ := hfollow user huser
    obtain rfl : user' = later := hs'.eq_of_userId huser' hlater
      (hid'.trans (hid.symm.trans hfollows.userId.symm))
    rcases hfollows.blocked (by simpa using hblocked) with hblocked' | hactivated
    · rw [hfree] at hblocked'
      cases hblocked'
    · cases hactivated
  | admin env principal operation =>
    cases operation <;> exact absurd h (map_ne_identity nofun)
  | organization env operation =>
    cases operation <;> exact absurd h (map_ne_identity nofun)
  | others rows => cases h

def officeConfig : PlatformConfig := { webConfig with admins := ["admin"] }

def office : IdentityPrincipal where
  userId := "admin"
  sessionId := "session"
  deviceId := "device"
  tenantId := "admin"

/-- A user with two outstanding tokens verifies the address with the first and is suspended. -/
def suspendedUser : List PlatformInput :=
  [.identity (saltedEnv 0 "1")
      (.signup "alice" "alice@mail.test" "first password" "trace" "policy"),
    .identity (saltedEnv (2 * minute) "2") (.resendVerification "alice" "trace" "policy"),
    .identity (saltedEnv (3 * minute) "3") (.verifyEmail "token1" "trace" "policy"),
    .admin (saltedEnv (4 * minute) "4") office
      (.changeState "usr-usr1" "suspended" "suspension-of-alice" "trace" "policy")]

def secondVerification : PlatformInput :=
  .identity (saltedEnv (5 * minute) "5") (.verifyEmail "token2" "trace" "policy")

/-- A user who logged in through a provider is suspended and begins another login. -/
def suspendedSubject : List PlatformInput :=
  [.identity (saltedEnv 0 "1")
      (.beginOidcLogin "issuer" "client" "audience" "redirect" .web "tenant" "trace" "policy"),
    .identity (saltedEnv 1 "2") (.completeOidcLogin "state1" "code" "verifier1" "client" "redirect"
      (.claims { webClaims with nonce := "nonce1" }) .web "trace" "policy"),
    .admin (saltedEnv 2 "3") office
      (.changeState "usr-usr2" "suspended" "suspension-of-bob" "trace" "policy"),
    .identity (saltedEnv 3 "4")
      (.beginOidcLogin "issuer" "client" "audience" "redirect" .web "tenant" "trace" "policy")]

def secondLogin : PlatformInput :=
  .identity (saltedEnv 4 "5") (.completeOidcLogin "state4" "code" "verifier4" "client" "redirect"
    (.claims { webClaims with nonce := "nonce4" }) .web "trace" "policy")

def secondCredentials : SessionCredentials where
  accessToken := "access5"
  refreshToken := none
  userId := "usr-usr2"
  sessionId := "ses-ses5"
  deviceId := "dev-dev5"
  tenantId := "tenant"
  clientKind := .web
  delivery := "web_session_cookie_boundary_m4_05"

def approvedUser : List PlatformInput :=
  [.admin (saltedEnv 0 "1") office
      (.createUser "carol" "carol@mail.test" "first password" "creation-of-carol" "trace" "policy"),
    .admin (saltedEnv 1 "2") office (.approveUser "usr-usr1" "approval-of-carol" "trace" "policy"),
    .identity (saltedEnv 2 "3") (.localLogin "carol" "first password" .web "trace" "policy")]

end DaonUser.Identity
