import DaonUser.Identity.Platform

/-!
# Identity: browser transactions over whole histories

The machine `androidService` takes the calls of `AndroidBrowserAuthService`, in any order, and in between
whatever others write. A transaction of an id is begun, authorized once and exchanged once before the id is
begun again; who exchanges it knows the verifier of the challenge that it was begun with
(`android_auth_holds`).
-/

namespace DaonUser.Identity

open Lib

variable {env : Env} {userId T : String} {row row' : AndroidRow} {is pre mid : List AndroidInput}
  {i : AndroidInput}

variable {prim : Primitives} {policy : AndroidPolicy} {db db' : Db}

/-! ## The machine -/

inductive AndroidOperation
  | begin (clientId redirectUri state codeChallenge codeChallengeMethod traceId : String)
  | authorize (transactionId webSession selectedTenantId traceId : String)
  | exchange (transactionId code codeVerifier redirectUri traceId : String)

inductive AndroidAnswer
  | started (value : AndroidAuthStart)
  | redirected (value : AndroidAuthRedirect)
  | exchanged (value : AndroidAuthExchange)
  | done
  deriving DecidableEq

def AndroidOperation.run (prim : Primitives) (policy : AndroidPolicy) (env : Env) :
    AndroidOperation → Statement AndroidAnswer
  | begin clientId redirectUri state codeChallenge codeChallengeMethod traceId =>
    .started <$> androidBegin policy env clientId redirectUri state codeChallenge
      codeChallengeMethod traceId
  | authorize transactionId webSession selectedTenantId traceId =>
    .redirected <$> androidAuthorize prim policy env transactionId webSession selectedTenantId traceId
  | exchange transactionId code codeVerifier redirectUri traceId =>
    .exchanged <$> androidExchange prim policy env transactionId code codeVerifier redirectUri traceId

/-- A call with what it meets, or the rows that others leave in the other tables. -/
inductive AndroidInput
  | call (env : Env) (operation : AndroidOperation)
  | others (rows : Db)

/-- `AndroidBrowserAuthService`, from an empty repository. -/
def androidService (prim : Primitives) (policy : AndroidPolicy) :
    Machine Db AndroidInput (Except IdentityError AndroidAnswer) where
  init := Database.empty
  step db
    | .call env operation => operation.run prim policy env db
    | .others rows =>
      (.ok .done, fun t => if t = .androidAuthTransactions then db t else rows t)

theorem AndroidOperation.reverts (env : Env) (operation : AndroidOperation) :
    Call.Reverts (operation.run prim policy env) db := by
  cases operation with
  | begin => simp [AndroidOperation.run, androidBegin]
  | authorize => simp [AndroidOperation.run, androidAuthorize]
  | exchange => simp [AndroidOperation.run, androidExchange]

/-! ## The methods -/

/-- The transaction that `begin` leaves. -/
def startedAndroid (env : Env) (clientId redirectUri state codeChallenge : String) : AndroidRow :=
  { newAndroid env clientId redirectUri state codeChallenge with
    expiresAt := env.later + transactionTtl, createdAt := env.later }

theorem androidBegin_spec {clientId redirectUri state codeChallenge method traceId : String} :
    Call.Returns (androidBegin policy env clientId redirectUri state codeChallenge method traceId) db
      fun started db' => started.transactionId = env.id "and" ∧
        (∀ row ∈ purge env.now db .androidAuthTransactions, row.transactionId ≠ env.id "and") ∧
        db' .androidAuthTransactions = purge env.now db .androidAuthTransactions ++
          [startedAndroid env clientId redirectUri state codeChallenge] ∧
        db' .sessions = db .sessions := by
  simp only [androidBegin, Call.returns_bind, returns_checkedTexts, Call.returns_require,
    Call.returns_ensure, returns_transaction, Call.returns_modify, returns_insertRow,
    Call.returns_pure]
  intro _ _ _ _ _ hadmits _
  have hfresh : ∀ row ∈ purge env.now db .androidAuthTransactions,
      row.transactionId ≠ env.id "and" := by
    intro row hrow
    have hclash : Table.clash .androidAuthTransactions row
        (newAndroid env clientId redirectUri state codeChallenge) = false := hadmits row hrow
    simp only [Table.clash, Bool.or_eq_false_iff, decide_eq_false_iff_not] at hclash
    exact hclash.1
  refine ⟨trivial, hfresh, ?_, by simp [restart, purge]⟩
  have hkept : (purge env.now db .androidAuthTransactions).map (fun row =>
      if (decide (row.transactionId = env.id "and")) = true then
        { row with expiresAt := env.later + transactionTtl, createdAt := env.later } else row) =
      purge env.now db .androidAuthTransactions := by
    refine (List.map_congr_left fun row hrow => ?_).trans (List.map_id _)
    simp [hfresh row hrow]
  rw [restart, Database.update_self, Database.insert_self, List.map_append]
  refine congrArg₂ (· ++ ·) hkept ?_
  simp [newAndroid, startedAndroid]

def Selectable (db : Db) (userId : String) (choices : List SelectableTenant) : Prop :=
  (selectableTenantWorkspaces userId db).1 = .ok choices

@[simp] theorem returns_selectableTenantWorkspaces {W : List SelectableTenant → Db → Prop} :
    Call.Returns (selectableTenantWorkspaces userId) db W ↔
      ∀ choices, Selectable db userId choices → W choices db := by
  have hsame : (selectableTenantWorkspaces userId db).2 = db := by
    unfold selectableTenantWorkspaces checkedTexts
    by_cases htexts : ∀ value ∈ [userId], isCheckedText value = true
    · rw [Call.ensure_bind htexts]
      rfl
    · rw [Call.bind_of_error (Call.ensure_of_not htexts)]
  constructor
  · exact fun h choices hchoices => h choices db (Prod.ext hchoices hsame)
  · intro h choices s' hreturned
    have hs' : s' = db := by rw [← hsame, hreturned]
    rw [hs']
    exact h choices (by rw [Selectable, hreturned])

@[simp] theorem returns_requireUserAndTenant {tenantId : String} {W : PUnit → Db → Prop} :
    Call.Returns (requireUserAndTenant userId tenantId) db W ↔
      ((userOf userId db).any mayUseAndroid = true → ∀ choices, Selectable db userId choices →
        choices.any (fun tenant => tenant.tenantId = tenantId) = true → W ⟨⟩ db) := by
  simp only [requireUserAndTenant, Call.returns_bind, Call.returns_get, Call.returns_ensure,
    returns_selectableTenantWorkspaces]

structure Authorization (prim : Primitives) (db db' : Db) (env : Env)
    (transactionId webSession tenantId code : String) (row : AndroidRow) (session : SessionRow) :
    Prop where
  found : androidOf transactionId db = some row
  fresh : row.codeDigest = none
  valid : Validates prim db webSession env.now session
  web : session.clientKind = .web
  drawn : code = env.text "code"
  writes : ∃ other ∈ db .androidAuthTransactions, other.isAuthorizable transactionId env.later = true
  rows : db' .androidAuthTransactions = (db .androidAuthTransactions).map
    (onRows (AndroidRow.isAuthorizable transactionId env.later) (AndroidRow.authorize
      (prim.digest code) (min (env.later + codeTtl) row.expiresAt) session.userId tenantId env.later))
  sessions : db' .sessions = db .sessions

theorem androidAuthorize_spec {transactionId webSession tenantId traceId : String} :
    Call.Returns (androidAuthorize prim policy env transactionId webSession tenantId traceId) db
      fun redirect db' => ∃ row session, Authorization prim db db' env transactionId webSession tenantId
        redirect.code row session := by
  simp only [androidAuthorize, writeCode, Call.returns_bind, returns_checkedTexts,
    returns_transaction, Call.returns_require, Call.returns_ensure, returns_principal,
    returns_requireUserAndTenant, Call.returns_get, Call.returns_modify, Call.returns_pure]
  intro _ row hfound hfresh session hvalid _ hweb _ _ _ _ hwrites _ _
  refine ⟨row, session, hfound, hfresh.2, hvalid, hweb, rfl, ?_, ?_, ?_⟩
  · simpa using hwrites
  · rw [Database.update_self]
    simp [onRows]
  · simp

/-- An exchange: the transaction has a code that nobody used, and the session is that of the user who
authorized it. -/
structure Exchange (prim : Primitives) (policy : AndroidPolicy) (db db' : Db) (env : Env)
    (transactionId code codeVerifier redirectUri : String) (answer : AndroidAuthExchange)
    (row : AndroidRow) (choices : List SelectableTenant) : Prop where
  found : androidOf transactionId db = some row
  accepted : row.accepts prim policy env.now code codeVerifier redirectUri = true
  user : (userOf (row.userId.getD "None") db).any mayUseAndroid = true
  selectable : Selectable db (row.userId.getD "None") choices
  tenant : choices.any (fun tenant => tenant.tenantId = row.tenantId.getD "None") = true
  writes : ∃ other ∈ db .androidAuthTransactions, other.isUsable transactionId env.later = true
  rows : db' .androidAuthTransactions = (db .androidAuthTransactions).map
    (onRows (AndroidRow.isUsable transactionId env.later)
      fun row => { row with usedAt := some env.later })
  sessions : db' .sessions = db .sessions ++
    [(exchangeOpening env (row.userId.getD "None") (row.tenantId.getD "None")).session prim env]
  answer : answer.credentials =
    (exchangeOpening env (row.userId.getD "None") (row.tenantId.getD "None")).credentials env

theorem androidExchange_spec {transactionId code codeVerifier redirectUri traceId : String} :
    Call.Returns (androidExchange prim policy env transactionId code codeVerifier redirectUri traceId)
      db fun answer db' => ∃ row choices, Exchange prim policy db db' env transactionId code
        codeVerifier redirectUri answer row choices := by
  simp only [androidExchange, Call.returns_bind, returns_checkedTexts, Call.returns_ensure,
    returns_transaction, Call.returns_require, returns_requireUserAndTenant, Call.returns_get,
    Call.returns_modify, returns_selectableTenantWorkspaces, returns_openSession, Call.returns_pure,
    Option.filter_eq_some_iff]
  rintro _ _ row ⟨hfound, haccepted⟩ huser choices hchoices htenant hwrites _ _ _ _ hadmits _
  refine ⟨row, choices, hfound, haccepted, huser, hchoices, htenant, ?_, ?_, ?_, rfl⟩
  · simpa using hwrites
  · rw [Opening.rows_of_ne (by simp) (by simp) (by simp) (by simp), Database.update_self]
    rfl
  · rw [Opening.rows_sessions, Database.update_of_ne (by simp)]

inductive Begins (prim : Primitives) (policy : AndroidPolicy) (db : Db) : AndroidInput → AndroidRow → Prop
  | intro {env : Env} {clientId redirectUri state codeChallenge method traceId : String}
    {started : AndroidAuthStart}
    (hanswer : (androidService prim policy).answer db
      (.call env (.begin clientId redirectUri state codeChallenge method traceId)) =
        .ok (.started started)) (hid : started.transactionId = env.id "and") :
    Begins prim policy db (.call env (.begin clientId redirectUri state codeChallenge method traceId))
      (startedAndroid env clientId redirectUri state codeChallenge)

inductive Authorizes (prim : Primitives) (policy : AndroidPolicy) (db : Db) :
    AndroidInput → AndroidRow → AndroidRow → Prop
  | intro {env : Env} {transactionId webSession tenantId traceId : String}
    {redirect : AndroidAuthRedirect} {row : AndroidRow} {session : SessionRow}
    (hanswer : (androidService prim policy).answer db
      (.call env (.authorize transactionId webSession tenantId traceId)) = .ok (.redirected redirect))
    (h : Authorization prim db ((androidService prim policy).next db
      (.call env (.authorize transactionId webSession tenantId traceId))) env transactionId webSession
        tenantId redirect.code row session) :
    Authorizes prim policy db (.call env (.authorize transactionId webSession tenantId traceId)) row
      (row.authorize (prim.digest redirect.code) (min (env.later + codeTtl) row.expiresAt)
        session.userId tenantId env.later)

inductive Exchanges (prim : Primitives) (policy : AndroidPolicy) (db : Db) :
    AndroidInput → AndroidRow → Prop
  | intro {env : Env} {transactionId code codeVerifier redirectUri traceId : String}
    {answer : AndroidAuthExchange} {row : AndroidRow} {choices : List SelectableTenant}
    (hanswer : (androidService prim policy).answer db
      (.call env (.exchange transactionId code codeVerifier redirectUri traceId)) =
        .ok (.exchanged answer))
    (h : Exchange prim policy db ((androidService prim policy).next db
      (.call env (.exchange transactionId code codeVerifier redirectUri traceId))) env transactionId code
        codeVerifier redirectUri answer row choices) :
    Exchanges prim policy db (.call env (.exchange transactionId code codeVerifier redirectUri traceId))
      row

inductive AndroidEffect (prim : Primitives) (policy : AndroidPolicy) (db : Db) (i : AndroidInput) :
    Db → Prop
  | same {db' : Db} (hrows : db' .androidAuthTransactions = db .androidAuthTransactions)
    (hsessions : ∀ env operation, i = .call env operation → db' .sessions = db .sessions) :
    AndroidEffect prim policy db i db'
  | begun {db' : Db} {now : Int} {row : AndroidRow} (hbegins : Begins prim policy db i row)
    (hfresh : ∀ other ∈ purge now db .androidAuthTransactions,
      other.transactionId ≠ row.transactionId)
    (hrows : db' .androidAuthTransactions = purge now db .androidAuthTransactions ++ [row])
    (hsessions : db' .sessions = db .sessions) : AndroidEffect prim policy db i db'
  | authorized {db' : Db} {row row' : AndroidRow} (hauthorizes : Authorizes prim policy db i row row') :
    AndroidEffect prim policy db i db'
  | exchanged {db' : Db} {row : AndroidRow} (hexchanges : Exchanges prim policy db i row) :
    AndroidEffect prim policy db i db'

theorem android_effect (prim : Primitives) (policy : AndroidPolicy) (db : Db) (i : AndroidInput) :
    AndroidEffect prim policy db i ((androidService prim policy).next db i) := by
  cases i with
  | others rows => exact .same rfl nofun
  | call env operation =>
    cases hanswer : (androidService prim policy).answer db (.call env operation) with
    | error e =>
      have hsame : (androidService prim policy).next db (.call env operation) = db :=
        operation.reverts env e _ (Prod.ext hanswer rfl)
      rw [hsame]
      exact .same rfl fun _ _ _ => rfl
    | ok a =>
      cases operation with
      | begin clientId redirectUri state codeChallenge method traceId =>
        obtain ⟨started, rfl, hid, hfresh, hrows, hsessions⟩ :=
          androidBegin_spec.of_map hanswer
        exact .begun (.intro hanswer hid) hfresh hrows hsessions
      | authorize transactionId webSession tenantId traceId =>
        obtain ⟨redirect, rfl, row, session, h⟩ := androidAuthorize_spec.of_map hanswer
        exact .authorized (.intro hanswer h)
      | exchange transactionId code codeVerifier redirectUri traceId =>
        obtain ⟨answer, rfl, row, choices, h⟩ := androidExchange_spec.of_map hanswer
        exact .exchanged (.intro hanswer h)

/-! ## Ids of their own -/

/-- The transactions have ids of their own. -/
def AndroidKeyed (db : Db) : Prop :=
  (db .androidAuthTransactions).Pairwise fun row row' => row.transactionId ≠ row'.transactionId

theorem AndroidKeyed.eq (h : AndroidKeyed db)
    (hrow : row ∈ db .androidAuthTransactions) (hrow' : row' ∈ db .androidAuthTransactions)
    (hid : row.transactionId = row'.transactionId) : row = row' := by
  by_contra hne
  have : Std.Symm fun a b : AndroidRow => a.transactionId ≠ b.transactionId := ⟨fun _ _ => Ne.symm⟩
  exact List.Pairwise.forall h hrow hrow' hne hid

theorem AndroidKeyed.rewrite {f : AndroidRow → AndroidRow} (h : AndroidKeyed db)
    (hrows : db' .androidAuthTransactions = (db .androidAuthTransactions).map f)
    (hf : ∀ row, (f row).transactionId = row.transactionId) : AndroidKeyed db' := by
  rw [AndroidKeyed, hrows, List.pairwise_map]
  refine h.imp fun {row row'} hne => ?_
  rwa [hf, hf]

theorem mem_of_androidOf {transactionId : String} (h : androidOf transactionId db = some row) :
    row ∈ db .androidAuthTransactions ∧ row.transactionId = transactionId :=
  ⟨List.mem_of_find?_eq_some h, by simpa using List.find?_some h⟩

theorem purge_subset {now : Int}
    (h : row ∈ purge now db .androidAuthTransactions) : row ∈ db .androidAuthTransactions := by
  rw [purge, Database.delete_self] at h
  exact (List.mem_filter.1 h).1

theorem onRows_authorize_id {p : AndroidRow → Bool} {digest tenantId : String}
    {expiresAt later : Int} (row : AndroidRow) :
    (onRows p (AndroidRow.authorize digest expiresAt userId tenantId later) row).transactionId =
      row.transactionId := by
  unfold onRows
  split <;> rfl

theorem onRows_use_id {p : AndroidRow → Bool} {later : Int} (row : AndroidRow) :
    (onRows p (fun row : AndroidRow => { row with usedAt := some later }) row).transactionId =
      row.transactionId := by
  unfold onRows
  split <;> rfl

theorem AndroidKeyed.next (h : AndroidKeyed db) (i : AndroidInput) :
    AndroidKeyed ((androidService prim policy).next db i) := by
  cases android_effect prim policy db i with
  | same hrows => rwa [AndroidKeyed, hrows]
  | begun hbegins hfresh hrows =>
    rw [AndroidKeyed, hrows, List.pairwise_append]
    refine ⟨?_, List.pairwise_singleton _ _, fun other hother row hrow => ?_⟩
    · rw [purge, Database.delete_self]
      exact List.Pairwise.filter _ h
    · rw [List.mem_singleton.1 hrow]
      exact hfresh other hother
  | authorized hauthorizes =>
    obtain ⟨-, hauthorization⟩ := hauthorizes
    exact h.rewrite hauthorization.rows onRows_authorize_id
  | exchanged hexchanges =>
    obtain ⟨-, hexchange⟩ := hexchanges
    exact h.rewrite hexchange.rows onRows_use_id

theorem androidKeyed_run (prim : Primitives) (policy : AndroidPolicy) (is : List AndroidInput) :
    AndroidKeyed ((androidService prim policy).run is) :=
  (androidService prim policy).run_induction List.Pairwise.nil (fun _ i h => h.next i) is

/-! ## Once each -/

theorem stays_until_begun {Q : AndroidRow → Prop}
    (hauthorize : ∀ row digest expiresAt userId tenantId later, Q row →
      Q (AndroidRow.authorize digest expiresAt userId tenantId later row))
    (huse : ∀ (row : AndroidRow) later, Q row → Q { row with usedAt := some later })
    (hnow : ∀ row ∈ (androidService prim policy).run is .androidAuthTransactions,
      row.transactionId = T → Q row) (mid : List AndroidInput)
    (hnone : ∀ mid₁ k mid₂ row, mid = mid₁ ++ k :: mid₂ →
      Begins prim policy ((androidService prim policy).run (is ++ mid₁)) k row →
        row.transactionId ≠ T) :
    ∀ row ∈ (androidService prim policy).run (is ++ mid) .androidAuthTransactions,
      row.transactionId = T → Q row := by
  induction mid using List.reverseRecOn with
  | nil => simpa using hnow
  | append_singleton mid k ih =>
    have hbefore := ih fun mid₁ j mid₂ row hsplit hbegins =>
      hnone mid₁ j (mid₂ ++ [k]) row (by simp [hsplit]) hbegins
    rw [← List.append_assoc, Machine.run_concat]
    cases android_effect prim policy ((androidService prim policy).run (is ++ mid)) k with
    | same hrows =>
      rw [hrows]
      exact hbefore
    | begun hbegins hfresh hrows =>
      rw [hrows]
      intro row hrow hid
      rcases List.mem_append.1 hrow with hold | hnew
      · exact hbefore row (purge_subset hold) hid
      · rw [List.mem_singleton.1 hnew] at hid
        exact absurd hid (hnone mid k [] _ rfl hbegins)
    | authorized hauthorizes =>
      obtain ⟨-, hauthorization⟩ := hauthorizes
      rw [hauthorization.rows]
      intro row' hrow' hid
      obtain ⟨row, hrow, rfl⟩ := List.mem_map.1 hrow'
      have hrow := hbefore row hrow (by rwa [onRows_authorize_id] at hid)
      unfold onRows
      split
      · exact hauthorize _ _ _ _ _ _ hrow
      · exact hrow
    | exchanged hexchanges =>
      obtain ⟨-, hexchange⟩ := hexchanges
      rw [hexchange.rows]
      intro row' hrow' hid
      obtain ⟨row, hrow, rfl⟩ := List.mem_map.1 hrow'
      have hrow := hbefore row hrow (by rwa [onRows_use_id] at hid)
      unfold onRows
      split
      · exact huse _ _ hrow
      · exact hrow

def Starts (prim : Primitives) (policy : AndroidPolicy) (db : Db) (i : AndroidInput) (T : String) :
    Prop :=
  ∃ started, (androidService prim policy).answer db i = .ok (.started started) ∧
    started.transactionId = T

def YieldsCode (prim : Primitives) (policy : AndroidPolicy) (db : Db) (i : AndroidInput)
    (T : String) : Prop :=
  ∃ env webSession tenantId traceId redirect, i = .call env (.authorize T webSession tenantId traceId) ∧
    (androidService prim policy).answer db i = .ok (.redirected redirect)

def YieldsSession (prim : Primitives) (policy : AndroidPolicy) (db : Db) (i : AndroidInput)
    (T : String) : Prop :=
  ∃ env code codeVerifier redirectUri traceId answer,
    i = .call env (.exchange T code codeVerifier redirectUri traceId) ∧
      (androidService prim policy).answer db i = .ok (.exchanged answer)

theorem YieldsCode.authorizes (h : YieldsCode prim policy db i T) :
    ∃ row row', Authorizes prim policy db i row row' ∧ row.transactionId = T := by
  obtain ⟨env, webSession, tenantId, traceId, redirect, rfl, hanswer⟩ := h
  obtain ⟨_, ⟨⟩, row, session, hspec⟩ := androidAuthorize_spec.of_map hanswer
  exact ⟨row, _, .intro hanswer hspec, (mem_of_androidOf hspec.found).2⟩

theorem YieldsSession.exchanges (h : YieldsSession prim policy db i T) :
    ∃ row, Exchanges prim policy db i row ∧ row.transactionId = T := by
  obtain ⟨env, code, codeVerifier, redirectUri, traceId, answer, rfl, hanswer⟩ := h
  obtain ⟨_, ⟨⟩, row, choices, hspec⟩ := androidExchange_spec.of_map hanswer
  exact ⟨row, .intro hanswer hspec, (mem_of_androidOf hspec.found).2⟩

theorem Authorizes.codes (h : Authorizes prim policy db i row row') (hkeyed : AndroidKeyed db) :
    (∀ other ∈ db .androidAuthTransactions, other.transactionId = row.transactionId →
      other.codeDigest = none) ∧
      ∀ other ∈ (androidService prim policy).next db i .androidAuthTransactions,
        other.transactionId = row.transactionId → other.codeDigest.isSome = true := by
  obtain ⟨-, h⟩ := h
  obtain ⟨hrow, hT⟩ := mem_of_androidOf h.found
  refine ⟨fun other hother hid => hkeyed.eq hother hrow hid ▸ h.fresh, ?_⟩
  rw [h.rows]
  intro other' hother' hid
  obtain ⟨other, hother, rfl⟩ := List.mem_map.1 hother'
  rw [onRows_authorize_id] at hid
  obtain ⟨written, hwritten, hwrites⟩ := h.writes
  have hsame : written.transactionId = other.transactionId := by
    simp only [AndroidRow.isAuthorizable, Bool.and_eq_true, decide_eq_true_eq] at hwrites
    rw [hwrites.1.1, hid, hT]
  rw [hkeyed.eq hwritten hother hsame] at hwrites
  rw [onRows, if_pos hwrites]
  rfl

theorem Exchanges.uses (h : Exchanges prim policy db i row) (hkeyed : AndroidKeyed db) :
    (∀ other ∈ db .androidAuthTransactions, other.transactionId = row.transactionId →
      other.usedAt = none) ∧
      ∀ other ∈ (androidService prim policy).next db i .androidAuthTransactions,
        other.transactionId = row.transactionId → other.usedAt.isSome = true := by
  obtain ⟨-, h⟩ := h
  obtain ⟨hrow, hT⟩ := mem_of_androidOf h.found
  have haccepted := h.accepted
  simp only [AndroidRow.accepts, Bool.and_eq_true, Option.isNone_iff_eq_none] at haccepted
  refine ⟨fun other hother hid => hkeyed.eq hother hrow hid ▸ haccepted.1.1.1.1.1.1, ?_⟩
  rw [h.rows]
  intro other' hother' hid
  obtain ⟨other, hother, rfl⟩ := List.mem_map.1 hother'
  rw [onRows_use_id] at hid
  obtain ⟨written, hwritten, hwrites⟩ := h.writes
  have hsame : written.transactionId = other.transactionId := by
    simp only [AndroidRow.isUsable, Bool.and_eq_true, decide_eq_true_eq] at hwrites
    rw [hwrites.1.1.1, hid, hT]
  rw [hkeyed.eq hwritten hother hsame] at hwrites
  rw [onRows, if_pos hwrites]
  rfl

def StartedSince (prim : Primitives) (policy : AndroidPolicy) (is mid : List AndroidInput)
    (T : String) : Prop :=
  ∃ mid₁ k mid₂, mid = mid₁ ++ k :: mid₂ ∧
    Starts prim policy ((androidService prim policy).run (is ++ mid₁)) k T

theorem Begins.starts (h : Begins prim policy db i row) :
    Starts prim policy db i row.transactionId := by
  obtain ⟨hanswer, hid⟩ := h
  exact ⟨_, hanswer, hid⟩

theorem stays_after {Q : AndroidRow → Prop}
    (hauthorize : ∀ row digest expiresAt userId tenantId later, Q row →
      Q (AndroidRow.authorize digest expiresAt userId tenantId later row))
    (huse : ∀ (row : AndroidRow) later, Q row → Q { row with usedAt := some later })
    (hnow : ∀ row ∈ (androidService prim policy).next ((androidService prim policy).run pre) i
      .androidAuthTransactions, row.transactionId = T → Q row)
    (hnone : ¬StartedSince prim policy (pre ++ [i]) mid T) :
    ∀ row ∈ (androidService prim policy).run (pre ++ i :: mid) .androidAuthTransactions,
      row.transactionId = T → Q row := by
  have hsplit : pre ++ i :: mid = (pre ++ [i]) ++ mid := by simp
  rw [hsplit]
  refine stays_until_begun hauthorize huse ?_ mid fun mid₁ k mid₂ row hmid hbegins hid => ?_
  · rwa [Machine.run_concat]
  · exact hnone ⟨mid₁, k, mid₂, hmid, hid ▸ hbegins.starts⟩

theorem one_code {j : AndroidInput} (h : YieldsCode prim policy ((androidService prim policy).run pre) i T)
    (h' : YieldsCode prim policy ((androidService prim policy).run (pre ++ i :: mid)) j T) :
    StartedSince prim policy (pre ++ [i]) mid T := by
  obtain ⟨row, row', hauthorizes, rfl⟩ := h.authorizes
  obtain ⟨later, later', hauthorizes', hid⟩ := h'.authorizes
  by_contra hnone
  have hcoded := stays_after (Q := fun row => row.codeDigest.isSome = true) (fun _ _ _ _ _ _ _ => rfl)
    (fun _ _ h => h) (hauthorizes.codes (androidKeyed_run prim policy pre)).2 hnone
  have hfresh := (hauthorizes'.codes (androidKeyed_run prim policy _)).1
  obtain ⟨-, hauthorization⟩ := hauthorizes'
  obtain ⟨hlater, -⟩ := mem_of_androidOf hauthorization.found
  have hsome := hcoded later hlater hid
  rw [hfresh later hlater rfl] at hsome
  cases hsome

theorem one_session {j : AndroidInput}
    (h : YieldsSession prim policy ((androidService prim policy).run pre) i T)
    (h' : YieldsSession prim policy ((androidService prim policy).run (pre ++ i :: mid)) j T) :
    StartedSince prim policy (pre ++ [i]) mid T := by
  obtain ⟨row, hexchanges, rfl⟩ := h.exchanges
  obtain ⟨later, hexchanges', hid⟩ := h'.exchanges
  by_contra hnone
  have hused := stays_after (Q := fun row => row.usedAt.isSome = true) (fun _ _ _ _ _ _ h => h)
    (fun _ _ _ => rfl) (hexchanges.uses (androidKeyed_run prim policy pre)).2 hnone
  have hfresh := (hexchanges'.uses (androidKeyed_run prim policy _)).1
  obtain ⟨-, hexchange⟩ := hexchanges'
  obtain ⟨hlater, -⟩ := mem_of_androidOf hexchange.found
  have hsome := hused later hlater hid
  rw [hfresh later hlater rfl] at hsome
  cases hsome

structure AndroidRow.SameStart (row first : AndroidRow) : Prop where
  transactionId : row.transactionId = first.transactionId
  redirectUri : row.redirectUri = first.redirectUri
  codeChallenge : row.codeChallenge = first.codeChallenge
  expiresAt : row.expiresAt = first.expiresAt

structure AndroidRow.SameCode (row coded : AndroidRow) : Prop where
  transactionId : row.transactionId = coded.transactionId
  codeDigest : row.codeDigest = coded.codeDigest
  codeExpiresAt : row.codeExpiresAt = coded.codeExpiresAt
  userId : row.userId = coded.userId
  tenantId : row.tenantId = coded.tenantId

/-- The transaction of the row was authorized by one of the inputs after the first ones. -/
def AuthorizedSince (prim : Primitives) (policy : AndroidPolicy) (is post : List AndroidInput)
    (row : AndroidRow) : Prop :=
  ∃ mid a rest before after, post = mid ++ a :: rest ∧
    Authorizes prim policy ((androidService prim policy).run (is ++ mid)) a before after ∧
      row.SameCode after

/-- One of the inputs began the transaction of the row, and a later one authorized it if it has a
code. -/
def Origin (prim : Primitives) (policy : AndroidPolicy) (is : List AndroidInput) (row : AndroidRow) :
    Prop :=
  ∃ pre b post first, is = pre ++ b :: post ∧
    Begins prim policy ((androidService prim policy).run pre) b first ∧ row.SameStart first ∧
      (row.codeDigest.isSome = true → AuthorizedSince prim policy (pre ++ [b]) post row)

theorem Origin.concat (k : AndroidInput) (h : Origin prim policy is row) (hstart : row'.SameStart row)
    (hcode : row'.codeDigest.isSome = true → row'.SameCode row ∧ row.codeDigest.isSome = true) :
    Origin prim policy (is ++ [k]) row' := by
  obtain ⟨pre, b, post, first, rfl, hbegins, hsame, hauthorized⟩ := h
  refine ⟨pre, b, post ++ [k], first, by simp, hbegins, ⟨?_, ?_, ?_, ?_⟩, fun hsome => ?_⟩
  · exact hstart.transactionId.trans hsame.transactionId
  · exact hstart.redirectUri.trans hsame.redirectUri
  · exact hstart.codeChallenge.trans hsame.codeChallenge
  · exact hstart.expiresAt.trans hsame.expiresAt
  · obtain ⟨hcode, hbefore⟩ := hcode hsome
    obtain ⟨mid, a, rest, before, after, rfl, hauthorizes, hafter⟩ := hauthorized hbefore
    exact ⟨mid, a, rest ++ [k], before, after, by simp, hauthorizes,
      hcode.transactionId.trans hafter.transactionId, hcode.codeDigest.trans hafter.codeDigest,
      hcode.codeExpiresAt.trans hafter.codeExpiresAt, hcode.userId.trans hafter.userId,
      hcode.tenantId.trans hafter.tenantId⟩

theorem origin_run (prim : Primitives) (policy : AndroidPolicy) (is : List AndroidInput) :
    ∀ row ∈ (androidService prim policy).run is .androidAuthTransactions,
      Origin prim policy is row := by
  induction is using List.reverseRecOn with
  | nil => exact nofun
  | append_singleton is k ih =>
    have hkept : ∀ row ∈ (androidService prim policy).run is .androidAuthTransactions,
        Origin prim policy (is ++ [k]) row := fun row hrow =>
      (ih row hrow).concat k ⟨rfl, rfl, rfl, rfl⟩ fun hsome => ⟨⟨rfl, rfl, rfl, rfl, rfl⟩, hsome⟩
    rw [Machine.run_concat]
    cases android_effect prim policy ((androidService prim policy).run is) k with
    | same hrows =>
      rw [hrows]
      exact hkept
    | begun hbegins hfresh hrows =>
      rw [hrows]
      intro row hrow
      rcases List.mem_append.1 hrow with hold | hnew
      · exact hkept row (purge_subset hold)
      · rw [List.mem_singleton.1 hnew]
        refine ⟨is, k, [], _, rfl, hbegins, ⟨rfl, rfl, rfl, rfl⟩, ?_⟩
        obtain ⟨-, -⟩ := hbegins
        exact nofun
    | authorized hauthorizes =>
      have hauthorizes' := hauthorizes
      obtain ⟨hanswer, hauthorization⟩ := hauthorizes
      rw [hauthorization.rows]
      intro row' hrow'
      obtain ⟨row, hrow, rfl⟩ := List.mem_map.1 hrow'
      unfold onRows
      split
      · next hwrites =>
        obtain ⟨hfound, hT⟩ := mem_of_androidOf hauthorization.found
        have hsame : row = _ := (androidKeyed_run prim policy is).eq hrow hfound (by
          simp only [AndroidRow.isAuthorizable, Bool.and_eq_true, decide_eq_true_eq] at hwrites
          rw [hwrites.1.1, hT])
        subst hsame
        obtain ⟨pre, b, post, first, rfl, hbegins, hstart, -⟩ := ih row hrow
        refine ⟨pre, b, post ++ _, first, List.append_assoc pre (b :: post) _, hbegins,
          ⟨hstart.transactionId, hstart.redirectUri, hstart.codeChallenge, hstart.expiresAt⟩,
          fun _ => ⟨post, _, [], row, _, rfl, ?_, rfl, rfl, rfl, rfl, rfl⟩⟩
        simpa using hauthorizes'
      · exact hkept row hrow
    | exchanged hexchanges =>
      obtain ⟨-, hexchange⟩ := hexchanges
      rw [hexchange.rows]
      intro row' hrow'
      obtain ⟨row, hrow, rfl⟩ := List.mem_map.1 hrow'
      unfold onRows
      split
      · exact (ih row hrow).concat _ ⟨rfl, rfl, rfl, rfl⟩
          fun hsome => ⟨⟨rfl, rfl, rfl, rfl, rfl⟩, hsome⟩
      · exact hkept row hrow

theorem selectTenant_alone {selected selected' : List SelectableTenant}
    {row : MembershipRow × WorkspaceRow} (h : selectTenant db userId selected row = .ok selected')
    (halone : selected.Pairwise fun a b => a.tenantId ≠ b.tenantId) :
    selected'.Pairwise fun a b => a.tenantId ≠ b.tenantId := by
  have hadded : ∀ added : SelectableTenant, added.tenantId = row.1.tenantId →
      (if (selected.any fun tenant => tenant.tenantId = row.1.tenantId) = true then selected
        else selected ++ [added]).Pairwise fun a b => a.tenantId ≠ b.tenantId := by
    intro added hid
    split
    · exact halone
    · next hnew =>
      rw [List.pairwise_append]
      refine ⟨halone, List.pairwise_singleton _ _, fun tenant htenant other hother => ?_⟩
      rw [List.mem_singleton.1 hother, hid]
      simp only [List.any_eq_true, decide_eq_true_eq, not_exists, not_and] at hnew
      exact hnew tenant htenant
  unfold selectTenant at h
  dsimp only at h
  split at h
  · split at h
    · cases h
      exact hadded _ rfl
    · split at h
      · cases h
        exact halone
      · cases h
  · cases h
    exact hadded _ rfl

theorem Selectable.alone {choices : List SelectableTenant}
    (h : Selectable db userId choices) : choices.Pairwise fun a b => a.tenantId ≠ b.tenantId := by
  have hfold : ∀ (rows : List (MembershipRow × WorkspaceRow)) (selected : List SelectableTenant),
      rows.foldlM (selectTenant db userId) selected = .ok choices →
      (selected.Pairwise fun a b => a.tenantId ≠ b.tenantId) →
      choices.Pairwise fun a b => a.tenantId ≠ b.tenantId := by
    intro rows
    induction rows with
    | nil =>
      intro selected hfold halone
      cases hfold
      exact halone
    | cons row rows ih =>
      intro selected hfold halone
      rw [List.foldlM_cons] at hfold
      obtain ⟨selected', hrow, hrest⟩ := Call.bind_eq_ok.1 hfold
      exact ih selected' hrest (selectTenant_alone hrow halone)
  have hreturns : Call.Returns (selectableTenantWorkspaces userId) db fun choices _ =>
      (selection db userId).foldlM (selectTenant db userId) [] = .ok choices := by
    simp only [selectableTenantWorkspaces, Call.returns_bind, returns_checkedTexts,
      Call.returns_query]
    exact fun _ _ hquery => hquery
  exact hfold _ [] (hreturns choices _ (Prod.ext h rfl)) List.Pairwise.nil

/-- What has to hold for a session: the transaction was begun with the challenge of the verifier and
for the redirect, its code is the one that is exchanged, both last, and the user may still have it
for the tenant, which one workspace stands for. -/
structure Deserved (prim : Primitives) (db : Db) (env : Env) (code codeVerifier redirectUri : String)
    (credentials : SessionCredentials) (first coded : AndroidRow) : Prop where
  transactionId : coded.transactionId = first.transactionId
  redirectUri : first.redirectUri = redirectUri
  challenge : first.codeChallenge = prim.challenge codeVerifier
  code : coded.codeDigest = some (prim.digest code)
  lasts : env.now < first.expiresAt ∧ env.later < first.expiresAt
  codeLasts : ∃ expiresAt, coded.codeExpiresAt = some expiresAt ∧ env.now < expiresAt ∧
    env.later < expiresAt
  owner : coded.userId = some credentials.userId ∧ coded.tenantId = some credentials.tenantId
  user : ∃ user ∈ db .users, user.userId = credentials.userId ∧ user.state = .active ∧
    user.passwordChangeRequired = false
  tenant : ∃ choices, Selectable db credentials.userId choices ∧ ∃ choice ∈ choices,
    choice.tenantId = credentials.tenantId ∧
      ∀ other ∈ choices, other.tenantId = credentials.tenantId → other = choice

theorem Authorizes.owned (h : Authorizes prim policy db i row row') :
    ∃ userId tenantId, row'.userId = some userId ∧ row'.tenantId = some tenantId := by
  obtain ⟨-, -⟩ := h
  exact ⟨_, _, rfl, rfl⟩

theorem session_deserved {code codeVerifier redirectUri traceId : String} {answer : AndroidAuthExchange}
    (hanswer : (androidService prim policy).answer ((androidService prim policy).run is)
      (.call env (.exchange T code codeVerifier redirectUri traceId)) = .ok (.exchanged answer)) :
    ∃ pre b mid a rest first before coded, is = pre ++ b :: (mid ++ a :: rest) ∧
      Begins prim policy ((androidService prim policy).run pre) b first ∧
      Authorizes prim policy ((androidService prim policy).run (pre ++ b :: mid)) a before coded ∧
      first.transactionId = T ∧
      Deserved prim ((androidService prim policy).run is) env code codeVerifier redirectUri
        answer.credentials first coded := by
  obtain ⟨_, ⟨⟩, row, choices, h⟩ := androidExchange_spec.of_map hanswer
  obtain ⟨hrow, hT⟩ := mem_of_androidOf h.found
  obtain ⟨pre, b, post, first, hsplit, hbegins, hstart, hauthorized⟩ := origin_run prim policy is row hrow
  have haccepted := h.accepted
  simp only [AndroidRow.accepts, Bool.and_eq_true, decide_eq_true_eq, Option.isNone_iff_eq_none]
    at haccepted
  obtain ⟨⟨⟨⟨⟨⟨-, hnow⟩, hcodeNow⟩, hredirect⟩, -⟩, hcode⟩, hchallenge⟩ := haccepted
  obtain ⟨mid, a, rest, before, coded, rfl, hauthorizes, hcoded⟩ := hauthorized (by rw [hcode]; rfl)
  have hrun : pre ++ [b] ++ mid = pre ++ b :: mid := by simp
  rw [hrun] at hauthorizes
  obtain ⟨userId, tenantId, huserId, htenantId⟩ := hauthorizes.owned
  refine ⟨pre, b, mid, a, rest, first, before, coded, hsplit, hbegins, hauthorizes,
    hstart.transactionId.symm.trans hT, ?_⟩
  have hwrites := h.writes
  obtain ⟨other, hother, hwritten⟩ := hwrites
  simp only [AndroidRow.isUsable, Bool.and_eq_true, decide_eq_true_eq] at hwritten
  obtain ⟨⟨⟨hid, -⟩, hlater⟩, hcodeLater⟩ := hwritten
  obtain rfl : other = row := (androidKeyed_run prim policy is).eq hother hrow (hid.trans hT.symm)
  have huser : other.userId.getD "None" = userId := by rw [hcoded.userId, huserId]; rfl
  have htenant : other.tenantId.getD "None" = tenantId := by rw [hcoded.tenantId, htenantId]; rfl
  have hanswer' := h.answer
  have hmay := h.user
  have hselectable := h.selectable
  have hchoice := h.tenant
  rw [huser, htenant] at hanswer'
  rw [huser] at hmay hselectable
  rw [htenant] at hchoice
  rw [hanswer']
  refine ⟨?_, ?_, ?_, ?_, ?_, ?_, ⟨huserId, htenantId⟩, ?_, ?_⟩
  · exact hcoded.transactionId.symm.trans hstart.transactionId
  · exact hstart.redirectUri.symm.trans hredirect.symm
  · exact hstart.codeChallenge.symm.trans hchallenge
  · exact hcoded.codeDigest.symm.trans hcode
  · exact ⟨hstart.expiresAt ▸ hnow, hstart.expiresAt ▸ hlater⟩
  · obtain ⟨expiresAt, hexpires, hnow'⟩ := (Option.any_eq_true _ _).1 hcodeNow
    refine ⟨expiresAt, hcoded.codeExpiresAt.symm.trans hexpires, by simpa using hnow', ?_⟩
    rw [hexpires] at hcodeLater
    simpa using hcodeLater
  · obtain ⟨user, hfound, hmay⟩ := (Option.any_eq_true _ _).1 hmay
    simp only [mayUseAndroid, Bool.and_eq_true, decide_eq_true_eq, Bool.not_eq_true'] at hmay
    exact ⟨user, (mem_of_userOf hfound).1, (mem_of_userOf hfound).2, hmay.1.1, hmay.2⟩
  · simp only [List.any_eq_true, decide_eq_true_eq] at hchoice
    obtain ⟨choice, hmem, hchoice⟩ := hchoice
    refine ⟨choices, hselectable, choice, hmem, hchoice, fun other' hother' hid' => ?_⟩
    by_contra hne
    have : Std.Symm fun a b : SelectableTenant => a.tenantId ≠ b.tenantId := ⟨fun _ _ => Ne.symm⟩
    exact List.Pairwise.forall hselectable.alone hother' hmem hne (hid'.trans hchoice.symm)

theorem session_of_call (db : Db) (env : Env) (operation : AndroidOperation) :
    (androidService prim policy).next db (.call env operation) .sessions = db .sessions ∨
      ∃ T answer session, YieldsSession prim policy db (.call env operation) T ∧
        (androidService prim policy).answer db (.call env operation) = .ok (.exchanged answer) ∧
        session.sessionId = answer.credentials.sessionId ∧
        (androidService prim policy).next db (.call env operation) .sessions =
          db .sessions ++ [session] := by
  have heffect := android_effect prim policy db (.call env operation)
  generalize hi : AndroidInput.call env operation = i at heffect ⊢
  cases heffect with
  | same hrows hsessions => exact Or.inl (hsessions env operation hi.symm)
  | begun hbegins hfresh hrows hsessions => exact Or.inl hsessions
  | authorized hauthorizes =>
    obtain ⟨-, h⟩ := hauthorizes
    exact Or.inl h.sessions
  | exchanged hexchanges =>
    obtain ⟨hanswer, h⟩ := hexchanges
    refine Or.inr ⟨_, _, _, ⟨_, _, _, _, _, _, rfl, hanswer⟩, hanswer, ?_, h.sessions⟩
    rw [h.answer]
    rfl

/-- A transaction yields one code and one session at most before its id is begun again, and every
session is deserved. -/
theorem android_auth_holds (prim : Primitives) (policy : AndroidPolicy) :
    (∀ pre i mid j T, YieldsCode prim policy ((androidService prim policy).run pre) i T →
        YieldsCode prim policy ((androidService prim policy).run (pre ++ i :: mid)) j T →
        StartedSince prim policy (pre ++ [i]) mid T) ∧
      (∀ pre i mid j T, YieldsSession prim policy ((androidService prim policy).run pre) i T →
        YieldsSession prim policy ((androidService prim policy).run (pre ++ i :: mid)) j T →
        StartedSince prim policy (pre ++ [i]) mid T) ∧
      (∀ is env operation,
        (androidService prim policy).run (is ++ [.call env operation]) .sessions =
            (androidService prim policy).run is .sessions ∨
          ∃ T answer session, YieldsSession prim policy ((androidService prim policy).run is)
              (.call env operation) T ∧
            (androidService prim policy).answer ((androidService prim policy).run is)
              (.call env operation) = .ok (.exchanged answer) ∧
            session.sessionId = answer.credentials.sessionId ∧
            (androidService prim policy).run (is ++ [.call env operation]) .sessions =
              (androidService prim policy).run is .sessions ++ [session]) ∧
      ∀ is env T code codeVerifier redirectUri traceId answer,
        (androidService prim policy).answer ((androidService prim policy).run is)
          (.call env (.exchange T code codeVerifier redirectUri traceId)) = .ok (.exchanged answer) →
        ∃ pre b mid a rest first before coded, is = pre ++ b :: (mid ++ a :: rest) ∧
          Begins prim policy ((androidService prim policy).run pre) b first ∧
          Authorizes prim policy ((androidService prim policy).run (pre ++ b :: mid)) a before coded ∧
          first.transactionId = T ∧
          Deserved prim ((androidService prim policy).run is) env code codeVerifier redirectUri
            answer.credentials first coded := by
  refine ⟨fun _ _ _ _ _ => one_code, fun _ _ _ _ _ => one_session, fun is env operation => ?_,
    fun _ _ _ _ _ _ _ _ => session_deserved⟩
  rw [Machine.run_concat]
  exact session_of_call _ env operation

end DaonUser.Identity
