import DaonUser.Identity.Logout

/-!
# Identity: the single use of a step-up grant

A grant is used once: for what it was issued for, before its expiry, and recorded under the ticket of the
call if it has one. Afterwards only the calls with that ticket and fingerprint are accepted, as replays.
`GrantsSound` holds of the grants and consumptions whatever is called, `Follows` relates later rows to
earlier ones.
-/

namespace DaonUser.Identity

open Lib

variable {consumption : Option ConsumptionRow} {c : Confirmation} {i : Input} {t : Ticket}

/-! ## Later rows -/

structure StepUpRow.Later (row row' : StepUpRow) : Prop where
  stepUpId : row'.stepUpId = row.stepUpId
  authorizationDigest : row'.authorizationDigest = row.authorizationDigest
  binding : row'.binding = row.binding
  expiresAt : row'.expiresAt = row.expiresAt
  usedAt : row.usedAt.isSome = true → row'.usedAt = row.usedAt

theorem StepUpRow.Later.refl (row : StepUpRow) : row.Later row := ⟨rfl, rfl, rfl, rfl, fun _ => rfl⟩

theorem StepUpRow.Later.trans {a b c : StepUpRow} (h : a.Later b) (h' : b.Later c) : a.Later c where
  stepUpId := h'.stepUpId.trans h.stepUpId
  authorizationDigest := h'.authorizationDigest.trans h.authorizationDigest
  binding := h'.binding.trans h.binding
  expiresAt := h'.expiresAt.trans h.expiresAt
  usedAt := fun hused => (h'.usedAt (h.usedAt hused ▸ hused)).trans (h.usedAt hused)

theorem StepUpRow.later_use (p : StepUpRow → Bool) (now : Int) (row : StepUpRow)
    (hp : p row = true → row.usedAt = none) : row.Later (onRows p (StepUpRow.use now) row) := by
  unfold onRows
  split
  · next h => exact ⟨rfl, rfl, rfl, rfl, fun hused => by simp [hp h] at hused⟩
  · exact .refl row

structure GrantsSound (db : Db) : Prop where
  grants : db.Keyed .stepUpAuthorizations
  consumptions : db.Keyed .stepUpConsumptions
  /-- A consumption is one of a used grant. -/
  used : ∀ row ∈ db .stepUpConsumptions, ∃ grant ∈ db .stepUpAuthorizations,
    grant.stepUpId = row.stepUpId ∧ grant.usedAt.isSome = true
  /-- A grant is consumed once. -/
  once : ∀ row ∈ db .stepUpConsumptions, ∀ row' ∈ db .stepUpConsumptions,
    row.stepUpId = row'.stepUpId → row = row'

/-- The grants and consumptions of a later database follow those of an earlier one: what is new was
permitted, for a grant that was unused. -/
structure Follows (permit : Permit) (db db' : Db) : Prop where
  grants : Persists StepUpRow.Later (db .stepUpAuthorizations) (db' .stepUpAuthorizations)
  consumptions : ∀ row ∈ db .stepUpConsumptions, row ∈ db' .stepUpConsumptions
  fresh : ∀ row ∈ db' .stepUpConsumptions, row ∈ db .stepUpConsumptions ∨
    (∃ grant, permit.uses grant (some row)) ∧
      ∀ grant ∈ db .stepUpAuthorizations, grant.stepUpId = row.stepUpId → grant.usedAt = none

variable {permit : Permit} {db db' : Db}

theorem GrantsSound.eq_of_stepUpId (h : GrantsSound db) {row row' : StepUpRow}
    (hrow : row ∈ db .stepUpAuthorizations) (hrow' : row' ∈ db .stepUpAuthorizations)
    (hid : row.stepUpId = row'.stepUpId) : row = row' :=
  h.grants.eq hrow hrow' (by simp [Table.clash, hid])

theorem Follows.refl (db : Db) : Follows permit db db :=
  ⟨Persists.refl StepUpRow.Later.refl _, fun _ hrow => hrow, fun _ hrow => Or.inl hrow⟩

theorem Follows.trans {db'' : Db} (h : Follows permit db db')
    (h' : Follows permit db' db'') : Follows permit db db'' where
  grants := h.grants.trans StepUpRow.Later.trans h'.grants
  consumptions row hrow := h'.consumptions row (h.consumptions row hrow)
  fresh row hrow := by
    rcases h'.fresh row hrow with hrow' | ⟨hpermitted, hunused⟩
    · exact h.fresh row hrow'
    · refine Or.inr ⟨hpermitted, fun grant hgrant hid => ?_⟩
      obtain ⟨later, hlater, hfollows⟩ := h.grants grant hgrant
      have hnone := hunused later hlater (hfollows.stepUpId.trans hid)
      by_contra hne
      have hused : grant.usedAt.isSome = true := Option.isSome_iff_ne_none.2 hne
      rw [hfollows.usedAt hused] at hnone
      exact hne hnone

theorem GrantsSound.congr (h : GrantsSound db)
    (hgrants : db' .stepUpAuthorizations = db .stepUpAuthorizations)
    (hconsumptions : db' .stepUpConsumptions = db .stepUpConsumptions) :
    GrantsSound db' ∧ Follows permit db db' := by
  refine ⟨⟨h.grants.congr hgrants, h.consumptions.congr hconsumptions, ?_, ?_⟩,
    Persists.of_eq StepUpRow.Later.refl hgrants, ?_, ?_⟩
  · rw [hconsumptions, hgrants]
    exact h.used
  · rw [hconsumptions]
    exact h.once
  · rw [hconsumptions]
    exact fun _ hrow => hrow
  · rw [hconsumptions]
    exact fun _ hrow => Or.inl hrow

theorem GrantsSound.granted (h : GrantsSound db) {row : StepUpRow}
    (hadmits : db.Admits .stepUpAuthorizations row) :
    GrantsSound (db.insert .stepUpAuthorizations row) ∧
      Follows permit db (db.insert .stepUpAuthorizations row) := by
  have hconsumptions : (db.insert .stepUpAuthorizations row : Db) .stepUpConsumptions =
      db .stepUpConsumptions := by simp
  refine ⟨⟨h.grants.insert hadmits, h.consumptions.congr hconsumptions, ?_, ?_⟩, ?_, ?_, ?_⟩
  · rw [hconsumptions, Database.insert_self]
    intro c hc
    obtain ⟨grant, hgrant, hused⟩ := h.used c hc
    exact ⟨grant, List.mem_append_left _ hgrant, hused⟩
  · rw [hconsumptions]
    exact h.once
  · rw [Database.insert_self]
    exact Persists.append StepUpRow.Later.refl _ _
  · rw [hconsumptions]
    exact fun _ hc => hc
  · rw [hconsumptions]
    exact fun _ hc => Or.inl hc

theorem useGrant_grants {stepUpId : String} {now : Int} :
    useGrant stepUpId consumption now db .stepUpAuthorizations =
      (db .stepUpAuthorizations).map
        (onRows (fun row => row.stepUpId = stepUpId && row.usedAt.isNone) (StepUpRow.use now)) := by
  cases consumption <;> rfl

theorem useGrant_consumptions {stepUpId : String} {now : Int} :
    useGrant stepUpId consumption now db .stepUpConsumptions =
      db .stepUpConsumptions ++ consumption.toList := by
  cases consumption with
  | none => exact (List.append_nil _).symm
  | some row => rfl

theorem GrantsSound.grantUsed (h : GrantsSound db) {grant : StepUpRow}
    {now : Int} (hgrant : grant ∈ db .stepUpAuthorizations)
    (hunused : grant.usedAt = none) (huses : permit.uses grant consumption)
    (hadmits : ∀ row, consumption = some row →
      row.stepUpId = grant.stepUpId ∧ db.Admits .stepUpConsumptions row) :
    GrantsSound (useGrant grant.stepUpId consumption now db) ∧
      Follows permit db (useGrant grant.stepUpId consumption now db) := by
  let used := onRows (fun row : StepUpRow => row.stepUpId = grant.stepUpId && row.usedAt.isNone)
    (StepUpRow.use now)
  have hlater : ∀ row : StepUpRow, row.Later (used row) := by
    intro row
    refine row.later_use _ now fun hp => ?_
    simp only [Bool.and_eq_true, Option.isNone_iff_eq_none] at hp
    exact hp.2
  -- no consumption of the grant is there yet: it would be one of a used grant
  have hnone : ∀ row ∈ db .stepUpConsumptions, row.stepUpId ≠ grant.stepUpId := by
    intro row hrow hid
    obtain ⟨grant', hgrant', hid', hused⟩ := h.used row hrow
    rw [h.eq_of_stepUpId hgrant' hgrant (hid'.trans hid), hunused] at hused
    cases hused
  have hunusedAt : ∀ row ∈ db .stepUpAuthorizations, row.stepUpId = grant.stepUpId →
      row.usedAt = none := by
    intro row hrow hid
    rw [h.eq_of_stepUpId hrow hgrant hid]
    exact hunused
  refine ⟨⟨?_, ?_, ?_, ?_⟩, ?_, ?_, ?_⟩
  · refine h.grants.map useGrant_grants fun row row' _ _ => ?_
    change Table.clash .stepUpAuthorizations (used row) (used row') =
      Table.clash .stepUpAuthorizations row row'
    simp only [Table.clash, (hlater row).stepUpId, (hlater row').stepUpId,
      (hlater row).authorizationDigest, (hlater row').authorizationDigest]
  · unfold Database.Keyed
    rw [useGrant_consumptions]
    cases consumption with
    | none => simpa [Database.Keyed] using h.consumptions
    | some row => simpa [Database.Keyed] using h.consumptions.insert (hadmits row rfl).2
  · rw [useGrant_consumptions, useGrant_grants]
    intro row hrow
    rcases List.mem_append.1 hrow with hrow | hrow
    · obtain ⟨grant', hgrant', hid, hused⟩ := h.used row hrow
      refine ⟨used grant', List.mem_map_of_mem hgrant', (hlater grant').stepUpId.trans hid, ?_⟩
      rw [(hlater grant').usedAt hused]
      exact hused
    · have hid := (hadmits row (by simpa using hrow)).1
      refine ⟨used grant, List.mem_map_of_mem hgrant, (hlater grant).stepUpId.trans hid.symm, ?_⟩
      simp [used, onRows, hunused, StepUpRow.use]
  · rw [useGrant_consumptions]
    intro row hrow row' hrow' hid
    rcases List.mem_append.1 hrow with hrow | hrow <;>
      rcases List.mem_append.1 hrow' with hrow' | hrow'
    · exact h.once row hrow row' hrow' hid
    · exact absurd (hid.trans (hadmits row' (by simpa using hrow')).1) (hnone row hrow)
    · exact absurd (hid.symm.trans (hadmits row (by simpa using hrow)).1) (hnone row' hrow')
    · rw [Option.mem_toList] at hrow hrow'
      exact Option.mem_unique hrow hrow'
  · rw [useGrant_grants]
    exact Persists.map fun row _ => hlater row
  · rw [useGrant_consumptions]
    exact fun row hrow => List.mem_append_left _ hrow
  · rw [useGrant_consumptions]
    intro row hrow
    rcases List.mem_append.1 hrow with hrow | hrow
    · exact Or.inl hrow
    · have hrow' : consumption = some row := by simpa using hrow
      refine Or.inr ⟨⟨grant, hrow' ▸ huses⟩, fun grant' hgrant' hid => ?_⟩
      exact hunusedAt grant' hgrant' (hid.trans (hadmits row hrow').1)

theorem Change.follows (h : Change permit db db') (hs : GrantsSound db) :
    GrantsSound db' ∧ Follows permit db db' := by
  cases h with
  | noted t row hlog =>
    have hne : ∀ t', t'.isLog = false → t' ≠ t := by
      rintro t' ht' rfl
      rw [hlog] at ht'
      cases ht'
    exact hs.congr (Database.insert_of_ne (hne _ rfl)) (Database.insert_of_ne (hne _ rfl))
  | granted row hadmits => exact hs.granted hadmits
  | grantUsed grant consumption now hgrant hunused huses hadmits =>
    exact hs.grantUsed hgrant hunused huses hadmits
  | _ => exact hs.congr (by simp) (by simp)

theorem Runs.follows (h : Runs permit db db') (hs : GrantsSound db) :
    GrantsSound db' ∧ Follows permit db db' := by
  refine h.keeps (I := fun db' => GrantsSound db' ∧ Follows permit db db') ?_ ⟨hs, .refl db⟩
  rintro db₁ db₂ hchange ⟨hs₁, hfollows⟩
  obtain ⟨hs₂, hlater⟩ := hchange.follows hs₁
  exact ⟨hs₂, hfollows.trans hlater⟩

/-! ## Steps and runs -/

variable {config : Config}

theorem grantsSound_empty : GrantsSound Database.empty :=
  ⟨Database.keyed_empty, Database.keyed_empty, nofun, nofun⟩

def Input.confirmation (config : Config) (db : Db) : Input → Option Confirmation
  | call _ operation => operation.confirmation config db
  | others _ => none

def Input.now : Input → Int
  | call env _ => env.now
  | others _ => 0

def stepPermit (config : Config) (db : Db) (i : Input) : Permit where
  revives _ := True
  resets _ := True
  uses grant row := ∃ c, i.confirmation config db = some c ∧
    FirstUse config.prim db c.raw c.binding i.now grant ∧
    row = c.ticket.map fun t => newConsumption config.prim grant c.binding t i.now

theorem service_follows (config : Config) (hs : GrantsSound db) (i : Input) :
    GrantsSound ((service config).next db i) ∧
      Follows (stepPermit config db i) db ((service config).next db i) := by
  cases i with
  | call env operation =>
    have hconfirms : (stepPermit config db (.call env operation)).Confirms config.prim db env.now
        (operation.confirmation config db) := fun c hc grant huse => ⟨c, hc, huse, rfl⟩
    have hleaves : Call.Leaves (operation.run config env) db
        (Runs (stepPermit config db (.call env operation)) db) := by
      refine operation.leaves ?_
      cases operation with
      | verifyEmail => exact fun _ _ _ _ _ _ _ => trivial
      | completeOidcLogin => exact fun _ _ _ _ => trivial
      | confirmPasswordReset => trivial
      | _ => exact hconfirms
    exact Runs.follows hleaves hs
  | others rows => exact hs.congr rfl rfl

theorem grantsSound_run (config : Config) (is : List Input) :
    GrantsSound ((service config).run is) :=
  (service config).run_induction grantsSound_empty (fun _ i hs => (service_follows config hs i).1) is

theorem follows_runFrom (config : Config) (hs : GrantsSound db) (is : List Input) :
    Follows .all db ((service config).runFrom db is) := by
  have hboth : GrantsSound ((service config).runFrom db is) ∧
      Follows .all db ((service config).runFrom db is) := by
    refine (service config).runFrom_induction
      (I := fun db' => GrantsSound db' ∧ Follows .all db db') ?_ ⟨hs, .refl db⟩ is
    rintro db' i ⟨hs', hfollows⟩
    obtain ⟨hs'', hlater⟩ := service_follows config hs' i
    refine ⟨hs'', hfollows.trans ⟨hlater.grants, hlater.consumptions, fun row hrow => ?_⟩⟩
    exact (hlater.fresh row hrow).imp_right fun h => ⟨⟨h.1.choose, trivial⟩, h.2⟩
  exact hboth.2

theorem follows_run (config : Config) (pre mid : List Input) (i : Input) :
    Follows .all ((service config).run (pre ++ [i])) ((service config).run (pre ++ i :: mid)) := by
  have hsplit : pre ++ i :: mid = (pre ++ [i]) ++ mid := by simp
  rw [hsplit, (service config).run_append (pre ++ [i]) mid]
  exact follows_runFrom config (grantsSound_run config (pre ++ [i])) mid

/-! ## Accepted confirmations -/

/-- The input is a call that asks for the confirmation and returns. -/
def Accepts (config : Config) (db : Db) (i : Input) (c : Confirmation) : Prop :=
  i.confirmation config db = some c ∧ ∃ a, (service config).answer db i = .ok a

def Confirmation.fingerprint (c : Confirmation) (prim : Primitives) (grant : StepUpRow) : String :=
  consumptionFingerprint prim grant.stepUpId c.binding

structure Spent (db : Db) (grant : StepUpRow) (t : Option Ticket) (fingerprint : String) : Prop where
  used : ∃ row ∈ db .stepUpAuthorizations, row.stepUpId = grant.stepUpId ∧ row.usedAt.isSome = true
  recorded : ∀ t', t = some t' → ∃ row ∈ db .stepUpConsumptions, row.stepUpId = grant.stepUpId ∧
    (row.operation, row.idempotencyKey) = t' ∧ row.requestFingerprint = fingerprint
  unrecorded : t = none → ∀ row ∈ db .stepUpConsumptions, row.stepUpId ≠ grant.stepUpId

theorem Spent.lasts {grant : StepUpRow} {t : Option Ticket} {fingerprint : String}
    (h : Spent db grant t fingerprint) (hfollows : Follows permit db db') :
    Spent db' grant t fingerprint where
  used := by
    obtain ⟨row, hrow, hid, hused⟩ := h.used
    obtain ⟨row', hrow', hlater⟩ := hfollows.grants row hrow
    exact ⟨row', hrow', hlater.stepUpId.trans hid, (hlater.usedAt hused).symm ▸ hused⟩
  recorded t' ht := by
    obtain ⟨row, hrow, hrecorded⟩ := h.recorded t' ht
    exact ⟨row, hfollows.consumptions row hrow, hrecorded⟩
  unrecorded ht row hrow hid := by
    rcases hfollows.fresh row hrow with hold | ⟨-, hunused⟩
    · exact h.unrecorded ht row hold hid
    · obtain ⟨grant', hgrant', hid', hused⟩ := h.used
      rw [hunused grant' hgrant' (hid'.trans hid.symm)] at hused
      cases hused

inductive Accepted (prim : Primitives) (db db' : Db) (c : Confirmation) (now : Int)
    (grant : StepUpRow) : Prop
  | first (huse : FirstUse prim db c.raw c.binding now grant)
    (hgrants : db' .stepUpAuthorizations = useGrant grant.stepUpId
      (c.ticket.map fun t => newConsumption prim grant c.binding t now) now db .stepUpAuthorizations)
    (hconsumptions : db' .stepUpConsumptions = useGrant grant.stepUpId
      (c.ticket.map fun t => newConsumption prim grant c.binding t now) now db .stepUpConsumptions)
  | again (hfound : grantOf prim c.raw db = some grant) (hused : grant.usedAt.isSome = true)
    (hreplays : replays prim db grant c.binding c.ticket = true)
    (hgrants : db' .stepUpAuthorizations = db .stepUpAuthorizations)
    (hconsumptions : db' .stepUpConsumptions = db .stepUpConsumptions)

theorem Accepted.found {prim : Primitives} {now : Int} {grant : StepUpRow}
    (h : Accepted prim db db' c now grant) : grantOf prim c.raw db = some grant := by
  cases h with
  | first huse => exact huse.found
  | again hfound => exact hfound

theorem Consumes.accepted {prim : Primitives} {now : Int} {deviceId : String}
    {db₁ : Db} (h : Consumes prim (seen deviceId now db) c.raw c.binding c.ticket now db₁)
    (hgrants : db' .stepUpAuthorizations = db₁ .stepUpAuthorizations)
    (hconsumptions : db' .stepUpConsumptions = db₁ .stepUpConsumptions) :
    ∃ grant, Accepted prim db db' c now grant := by
  cases h with
  | first grant huse hadmits =>
    refine ⟨grant, .first ⟨huse.found, huse.unused, huse.unexpired, huse.bound⟩ ?_ ?_⟩
    · rw [hgrants, useGrant_grants, useGrant_grants]
      rfl
    · rw [hconsumptions, useGrant_consumptions, useGrant_consumptions]
      rfl
  | again grant hfound hused hreplays =>
    exact ⟨grant, .again hfound hused hreplays hgrants hconsumptions⟩

theorem Accepts.accepted (h : Accepts config db i c) :
    ∃ grant, Accepted config.prim db ((service config).next db i) c i.now grant := by
  obtain ⟨hconfirmation, a, hreturned⟩ := h
  cases i with
  | others rows => cases hconfirmation
  | call env operation =>
    have hreturns : Call.Returns (operation.run config env) db fun _ db' =>
        ∃ grant, Accepted config.prim db db' c env.now grant := by
      cases operation <;> simp only [Input.confirmation, Operation.confirmation, reduceCtorEq]
        at hconfirmation
      case consumeStepUp stepUpAuthorization accessToken actionGroup targetId policyVersion traceId
          ticketOperation key =>
        simp only [Operation.run, consumeStepUp, Call.returns_map, Call.returns_bind,
          returns_checkedTexts, returns_transaction, returns_principal]
        intro _ row hrow
        refine consumeGrant_spec.mono fun _ db' hconsumes _ => ?_
        obtain ⟨raw, rfl, hconsumes⟩ := hconsumes
        obtain rfl := Option.some.inj ((confirmationOf_eq hrow).symm.trans hconfirmation)
        exact hconsumes.accepted rfl rfl
      case revokeSession accessToken sessionId stepUpAuthorization policyVersion traceId =>
        simp only [Operation.run, revokeSession, Call.returns_map, Call.returns_bind,
          returns_checkedTexts, returns_transaction, returns_principal, Call.returns_get]
        intro _ row hrow
        split_ifs
        · exact returns_deny
        · simp only [Call.returns_bind, Call.returns_modify, returns_audit]
          refine consumeGrant_spec.mono fun _ db' hconsumes _ _ => ?_
          obtain ⟨raw, rfl, hconsumes⟩ := hconsumes
          obtain rfl := Option.some.inj ((confirmationOf_eq hrow).symm.trans hconfirmation)
          exact hconsumes.accepted (by simp) (by simp)
      case revokeDevice accessToken deviceId stepUpAuthorization policyVersion traceId =>
        simp only [Operation.run, revokeDevice, Call.returns_map, Call.returns_bind,
          returns_checkedTexts, returns_transaction, returns_principal, Call.returns_get,
          Call.returns_ensure, Call.returns_modify, returns_audit]
        intro _ row hrow _
        refine consumeGrant_spec.mono fun _ db' hconsumes _ _ => ?_
        obtain ⟨raw, rfl, hconsumes⟩ := hconsumes
        obtain rfl := Option.some.inj ((confirmationOf_eq hrow).symm.trans hconfirmation)
        exact hconsumes.accepted (by simp) (by simp)
    exact hreturns a _ (Prod.ext hreturned rfl)

theorem exists_of_replays {prim : Primitives} {grant : StepUpRow}
    (h : replays prim db grant c.binding c.ticket = true) :
    ∃ t, c.ticket = some t ∧ ∃ row ∈ db .stepUpConsumptions, row.stepUpId = grant.stepUpId ∧
      (row.operation, row.idempotencyKey) = t ∧ row.requestFingerprint = c.fingerprint prim grant := by
  obtain ⟨t, ht, h⟩ := (Option.any_eq_true _ _).1 h
  obtain ⟨row, hrow, h⟩ := (Option.any_eq_true _ _).1 h
  have hfound := List.find?_some hrow
  simp only [Bool.and_eq_true, decide_eq_true_eq] at h hfound
  exact ⟨t, ht, row, List.mem_of_find?_eq_some hrow, h.2, Prod.ext hfound.1.2 hfound.2, h.1⟩

theorem Accepted.spent {prim : Primitives} {now : Int} {grant : StepUpRow}
    (h : Accepted prim db db' c now grant) (hs : GrantsSound db) :
    Spent db' grant c.ticket (c.fingerprint prim grant) := by
  have hgrant : grant ∈ db .stepUpAuthorizations := (mem_of_grantOf h.found).1
  cases h with
  | first huse hgrants hconsumptions =>
    refine ⟨?_, ?_, ?_⟩
    · rw [hgrants, useGrant_grants]
      refine ⟨_, List.mem_map_of_mem hgrant, ?_⟩
      simp [onRows, huse.unused, StepUpRow.use]
    · intro t ht
      rw [hconsumptions, useGrant_consumptions, ht]
      exact ⟨newConsumption prim grant c.binding t now, by simp, rfl, rfl, rfl⟩
    · intro ht row hrow hid
      rw [hconsumptions, useGrant_consumptions, ht] at hrow
      obtain ⟨grant', hgrant', hid', hused⟩ := hs.used row (by simpa using hrow)
      rw [hs.eq_of_stepUpId hgrant' hgrant (hid'.trans hid), huse.unused] at hused
      cases hused
  | again hfound hused hreplays hgrants hconsumptions =>
    obtain ⟨t, ht, row, hrow, hid, hticket, hfingerprint⟩ := exists_of_replays hreplays
    refine ⟨?_, ?_, ?_⟩
    · rw [hgrants]
      exact ⟨grant, hgrant, rfl, hused⟩
    · intro t' ht'
      rw [hconsumptions]
      obtain rfl : t = t' := Option.some.inj (ht.symm.trans ht')
      exact ⟨row, hrow, hid, hticket, hfingerprint⟩
    · intro hnone
      rw [ht] at hnone
      cases hnone

theorem Accepted.of_spent {prim : Primitives} {now : Int}
    {grant grant' : StepUpRow} {t : Option Ticket} {fingerprint : String}
    (h : Accepted prim db db' c now grant) (hs : GrantsSound db)
    (hspent : Spent db grant' t fingerprint) (hid : grant.stepUpId = grant'.stepUpId) :
    c.ticket = t ∧ t.isSome = true ∧ c.fingerprint prim grant = fingerprint := by
  have hgrant : grant ∈ db .stepUpAuthorizations := (mem_of_grantOf h.found).1
  obtain ⟨row', hrow', hid', hused⟩ := hspent.used
  have heq : row' = grant := hs.eq_of_stepUpId hrow' hgrant (hid'.trans hid.symm)
  cases h with
  | first huse =>
    rw [heq, huse.unused] at hused
    cases hused
  | again hfound hused hreplays =>
    obtain ⟨t', ht', row, hrow, hrowId, hticket, hfingerprint⟩ := exists_of_replays hreplays
    cases t with
    | none => exact absurd (hrowId.trans hid) (hspent.unrecorded rfl row hrow)
    | some t =>
      obtain ⟨row₀, hrow₀, hid₀, hticket₀, hfingerprint₀⟩ := hspent.recorded t rfl
      obtain rfl := hs.once row hrow row₀ hrow₀ (hrowId.trans (hid.trans hid₀.symm))
      exact ⟨ht'.trans (congrArg some (hticket.symm.trans hticket₀)), rfl,
        hfingerprint.symm.trans hfingerprint₀⟩

/-- After the inputs `pre`, the input was accepted as the first use of the grant. -/
def UsedBy (config : Config) (pre : List Input) (i : Input) (c : Confirmation) (grant : StepUpRow) :
    Prop :=
  Accepts config ((service config).run pre) i c ∧
    FirstUse config.prim ((service config).run pre) c.raw c.binding i.now grant

theorem next_of_raised {e : IdentityError} (hconfirmation : i.confirmation config db = some c)
    (hraised : (service config).answer db i = .error e) : (service config).next db i = db := by
  cases i with
  | others rows => cases hconfirmation
  | call env operation =>
    have hreverts : Call.Reverts (operation.run config env) db := by
      cases operation <;> simp only [Input.confirmation, Operation.confirmation, reduceCtorEq]
        at hconfirmation
      case consumeStepUp => simp [Operation.run, consumeStepUp]
      case revokeSession => simp [Operation.run, revokeSession]
      case revokeDevice => simp [Operation.run, revokeDevice]
    exact hreverts e _ (Prod.ext hraised rfl)

theorem origin_of_consumption (is : List Input) :
    ∀ row ∈ (service config).run is .stepUpConsumptions, ∃ pre i post c grant t,
      is = pre ++ i :: post ∧ UsedBy config pre i c grant ∧ c.ticket = some t ∧
        row = newConsumption config.prim grant c.binding t i.now := by
  induction is using List.reverseRecOn with
  | nil => exact nofun
  | append_singleton is i ih =>
    intro row hrow
    have hold : row ∈ (service config).run is .stepUpConsumptions → ∃ pre j post c grant t,
        is ++ [i] = pre ++ j :: post ∧ UsedBy config pre j c grant ∧ c.ticket = some t ∧
          row = newConsumption config.prim grant c.binding t j.now := by
      intro hmem
      obtain ⟨pre, j, post, c, grant, t, rfl, hused⟩ := ih row hmem
      exact ⟨pre, j, post ++ [i], c, grant, t, by simp, hused⟩
    rw [Machine.run_concat] at hrow
    rcases (service_follows config (grantsSound_run config is) i).2.fresh row hrow with hmem | ⟨⟨grant, hused⟩, -⟩
    · exact hold hmem
    · obtain ⟨c, hconfirmation, huse, hrecorded⟩ := hused
      obtain ⟨t, ht, hrow'⟩ := Option.map_eq_some_iff.1 hrecorded.symm
      cases hanswer : (service config).answer ((service config).run is) i with
      | error e => exact hold (next_of_raised hconfirmation hanswer ▸ hrow)
      | ok a =>
        exact ⟨is, i, [], c, grant, t, rfl, ⟨⟨hconfirmation, a, hanswer⟩, huse⟩, ht, hrow'.symm⟩

/-! ## Replays -/

/-- The checks of the texts that an accepted confirmation under a ticket has passed. -/
structure Checked (c : Confirmation) (t : Ticket) : Prop where
  raw : isOpaqueText c.raw = true
  texts : ∀ value ∈ [c.binding.actionGroup, c.binding.targetId, c.binding.policyVersion, t.1, t.2],
    isCheckedText value = true
  key : t.2.toList.length ≤ 128

theorem consumeGrant_checked {prim : Primitives} {env : Env} {raw : Option String} {b : Binding}
    {operation key : Option String} :
    Call.Returns (consumeGrant prim env raw b operation key) db fun _ _ =>
      ∀ raw', raw = some raw' → ∀ t, ticketOf operation key = some t →
        isOpaqueText raw' = true ∧ isCheckedText t.1 = true ∧ isCheckedText t.2 = true ∧
          t.2.toList.length ≤ 128 := by
  have hticket : Call.Returns (ticket operation key) db fun t _ => ∀ t', ticketOf operation key = some t' →
      isCheckedText t'.1 = true ∧ isCheckedText t'.2 = true ∧ t'.2.toList.length ≤ 128 := by
    cases operation <;> cases key <;> simp [ticket, ticketOf]
    exact fun hoperation hkey hlength => ⟨hoperation, hkey, hlength⟩
  simp only [consumeGrant, Call.returns_bind]
  refine hticket.mono fun t db' ht => ?_
  simp only [Call.returns_require, returns_opaqueTexts, List.mem_singleton, forall_eq]
  -- the checks are behind, whatever the rest of the call returns
  rintro raw' rfl htext grant - _ _ - _ _ - raw'' hraw t' ht'
  obtain rfl := Option.some.inj hraw
  exact ⟨htext, ht t' ht'⟩

theorem Accepts.checked (h : Accepts config db i c) (ht : c.ticket = some t) : Checked c t := by
  obtain ⟨hconfirmation, a, hreturned⟩ := h
  cases i with
  | others rows => cases hconfirmation
  | call env operation =>
    have hreturns : Call.Returns (operation.run config env) db fun _ _ => Checked c t := by
      cases operation <;> simp only [Input.confirmation, Operation.confirmation, reduceCtorEq]
        at hconfirmation
      case consumeStepUp stepUpAuthorization accessToken actionGroup targetId policyVersion traceId
          ticketOperation key =>
        simp only [Operation.run, consumeStepUp, Call.returns_map, Call.returns_bind,
          returns_checkedTexts, returns_transaction, returns_principal]
        intro htexts row hrow
        obtain ⟨row', hrow', raw, rfl, rfl⟩ : ∃ row', sessionOf config.prim accessToken db = some row' ∧
            ∃ raw, stepUpAuthorization = some raw ∧
              { raw, binding := row'.binding actionGroup targetId policyVersion,
                ticket := ticketOf ticketOperation key } = c := by
          simpa [confirmationOf, Option.bind_eq_some_iff] using hconfirmation
        refine consumeGrant_checked.mono fun _ _ hchecked _ => ?_
        obtain ⟨hraw, hoperation, hkey, hlength⟩ := hchecked raw rfl t ht
        refine ⟨hraw, ?_, hlength⟩
        simp only [List.mem_cons, List.not_mem_nil, or_false, forall_eq_or_imp, forall_eq] at htexts ⊢
        exact ⟨htexts.1, htexts.2.1, htexts.2.2.1, hoperation, hkey⟩
      case revokeSession accessToken sessionId stepUpAuthorization policyVersion traceId =>
        obtain ⟨row', -, raw, -, rfl⟩ : ∃ row', sessionOf config.prim accessToken db = some row' ∧
            ∃ raw, stepUpAuthorization = some raw ∧
              { raw, binding := row'.binding revokeGroup sessionId policyVersion, ticket := none } = c := by
          simpa [confirmationOf, Option.bind_eq_some_iff] using hconfirmation
        cases ht
      case revokeDevice accessToken deviceId stepUpAuthorization policyVersion traceId =>
        obtain ⟨row', -, raw, -, rfl⟩ : ∃ row', sessionOf config.prim accessToken db = some row' ∧
            ∃ raw, stepUpAuthorization = some raw ∧
              { raw, binding := row'.binding revokeGroup deviceId policyVersion, ticket := none } = c := by
          simpa [confirmationOf, Option.bind_eq_some_iff] using hconfirmation
        cases ht
    exact hreturns a _ (Prod.ext hreturned rfl)

theorem consumeGrant_of_replays {prim : Primitives} {env : Env}
    {grant : StepUpRow} (hchecked : Checked c t) (hfound : grantOf prim c.raw db = some grant)
    (hused : grant.usedAt.isSome = true)
    (hreplays : replays prim db grant c.binding (some t) = true) :
    consumeGrant prim env (some c.raw) c.binding (some t.1) (some t.2) db = (.ok ⟨⟩, db) := by
  have htexts := hchecked.texts
  simp only [List.mem_cons, List.not_mem_nil, or_false, forall_eq_or_imp, forall_eq] at htexts
  have hticket : ticket (some t.1) (some t.2) db = (.ok (some t), db) := by
    rw [ticket, checkedTexts, Call.ensure_bind (by simpa using htexts.2.2.2),
      Call.ensure_bind hchecked.key]
    rfl
  rw [consumeGrant, Call.bind_of_ok hticket,
    Call.require_bind (g := fun _ : Db => some c.raw) (a := c.raw) rfl, opaqueTexts,
    Call.ensure_bind (by simpa using hchecked.raw), Call.require_bind hfound, Call.get_bind,
    if_pos hused, if_pos hreplays]
  rfl

theorem consumeStepUp_of_replays {prim : Primitives} {env : Env}
    {grant : StepUpRow} {accessToken traceId : String} {row : SessionRow} (hchecked : Checked c t)
    (htrace : isCheckedText traceId = true) (hcommits : env.commits = true)
    (hvalid : Validates prim db accessToken env.now row)
    (hbinding : row.binding c.binding.actionGroup c.binding.targetId c.binding.policyVersion =
      c.binding)
    (hfound : grantOf prim c.raw db = some grant) (hused : grant.usedAt.isSome = true)
    (hreplays : replays prim db grant c.binding (some t) = true) :
    consumeStepUp prim env (some c.raw) accessToken c.binding.actionGroup c.binding.targetId
        c.binding.policyVersion traceId (some t.1) (some t.2) db =
      (.ok ⟨⟩, seen row.deviceId env.now db) := by
  have htexts := hchecked.texts
  simp only [List.mem_cons, List.not_mem_nil, or_false, forall_eq_or_imp, forall_eq] at htexts
  rw [consumeStepUp, checkedTexts, Call.ensure_bind (by simp [htexts, htrace])]
  refine transaction_of_ok ?_ hcommits
  rw [Call.bind_of_ok (principal_of_validates hvalid), hbinding]
  exact consumeGrant_of_replays hchecked hfound hused hreplays

theorem GrantsSound.grantOf_eq {prim : Primitives} {raw : String} (hs : GrantsSound db)
    {grant : StepUpRow} (hgrant : grant ∈ db .stepUpAuthorizations)
    (hdigest : grant.authorizationDigest = prim.digest raw) : grantOf prim raw db = some grant := by
  cases hfound : grantOf prim raw db with
  | none =>
    have hnone := List.find?_eq_none.1 hfound grant hgrant
    simp [hdigest] at hnone
  | some grant' =>
    obtain ⟨hgrant', hdigest'⟩ := mem_of_grantOf hfound
    exact congrArg some (hs.grants.eq hgrant' hgrant
      (by simp [Table.clash, hdigest'.trans hdigest.symm]))

structure ConsumptionRow.Answers (row : ConsumptionRow) (prim : Primitives) (grant : StepUpRow)
    (c : Confirmation) (t : Ticket) : Prop where
  tenantId : row.tenantId = c.binding.tenantId
  actorId : row.actorId = c.binding.actorId
  operation : row.operation = t.1
  idempotencyKey : row.idempotencyKey = t.2
  fingerprint : row.requestFingerprint = c.fingerprint prim grant
  stepUpId : row.stepUpId = grant.stepUpId

theorem GrantsSound.replays_of {prim : Primitives} {grant : StepUpRow}
    {row : ConsumptionRow} (hs : GrantsSound db) (hrow : row ∈ db .stepUpConsumptions)
    (h : row.Answers prim grant c t) : replays prim db grant c.binding (some t) = true := by
  have hfound : consumptionOf db c.binding t = some row := by
    cases hfound : consumptionOf db c.binding t with
    | none =>
      have hnone := List.find?_eq_none.1 hfound row hrow
      simp [h.tenantId, h.actorId, h.operation, h.idempotencyKey] at hnone
    | some row' =>
      have hkeys := List.find?_some hfound
      simp only [Bool.and_eq_true, decide_eq_true_eq] at hkeys
      exact congrArg some (hs.consumptions.eq (List.mem_of_find?_eq_some hfound) hrow
        (by simp [Table.clash, hkeys, h.tenantId, h.actorId, h.operation, h.idempotencyKey]))
  have hfingerprint := h.fingerprint
  rw [Confirmation.fingerprint] at hfingerprint
  simp [replays, hfound, hfingerprint, h.stepUpId]

theorem Accepted.answers {prim : Primitives} {now : Int} {grant : StepUpRow}
    (h : Accepted prim db db' c now grant) (ht : c.ticket = some t) :
    (∃ row ∈ db' .stepUpAuthorizations, grant.Later row ∧ row.usedAt.isSome = true) ∧
      ∃ row ∈ db' .stepUpConsumptions, row.Answers prim grant c t := by
  have hgrant : grant ∈ db .stepUpAuthorizations := (mem_of_grantOf h.found).1
  cases h with
  | first huse hgrants hconsumptions =>
    rw [hgrants, hconsumptions, useGrant_grants, useGrant_consumptions, ht]
    refine ⟨⟨grant.use now, ?_, ?_, rfl⟩, newConsumption prim grant c.binding t now, by simp,
      ⟨rfl, rfl, rfl, rfl, rfl, rfl⟩⟩
    · exact List.mem_map.2 ⟨grant, hgrant, by simp [onRows, huse.unused]⟩
    · exact ⟨rfl, rfl, rfl, rfl, fun hused => by simp [huse.unused] at hused⟩
  | again hfound hused hreplays hgrants hconsumptions =>
    rw [hgrants, hconsumptions]
    refine ⟨⟨grant, hgrant, .refl grant, hused⟩, ?_⟩
    rw [ht, replays, Option.any_some] at hreplays
    obtain ⟨row, hrow, hanswers⟩ := (Option.any_eq_true _ _).1 hreplays
    have hkeys := List.find?_some hrow
    simp only [Bool.and_eq_true, decide_eq_true_eq] at hkeys hanswers
    exact ⟨row, List.mem_of_find?_eq_some hrow, hkeys.1.1.1, hkeys.1.1.2, hkeys.1.2, hkeys.2,
      hanswers.1, hanswers.2⟩

theorem Accepted.replays_later {prim : Primitives} {now : Int} {grant : StepUpRow}
    (h : Accepted prim db db' c now grant) (ht : c.ticket = some t) {later : Db}
    (hs : GrantsSound later) (hfollows : Follows permit db' later) :
    ∃ grant', grantOf prim c.raw later = some grant' ∧ grant'.usedAt.isSome = true ∧
      replays prim later grant' c.binding (some t) = true := by
  obtain ⟨⟨row, hrow, hlater, hused⟩, consumption, hconsumption, hanswers⟩ := h.answers ht
  obtain ⟨row', hrow', hlater'⟩ := hfollows.grants row hrow
  have hboth := hlater.trans hlater'
  refine ⟨row', hs.grantOf_eq hrow' ?_, hlater'.usedAt hused ▸ hused,
    hs.replays_of (hfollows.consumptions consumption hconsumption) ?_⟩
  · exact hboth.authorizationDigest.trans (mem_of_grantOf h.found).2
  · refine ⟨hanswers.tenantId, hanswers.actorId, hanswers.operation, hanswers.idempotencyKey, ?_,
      hanswers.stepUpId.trans hboth.stepUpId.symm⟩
    rw [hanswers.fingerprint, Confirmation.fingerprint, Confirmation.fingerprint, hboth.stepUpId]

theorem first_or_replay {is : List Input} (h : Accepts config ((service config).run is) i c) :
    ∃ grant, grantOf config.prim c.raw ((service config).run is) = some grant ∧
      (FirstUse config.prim ((service config).run is) c.raw c.binding i.now grant ∨
        ∃ pre j post c' grant', is = pre ++ j :: post ∧ UsedBy config pre j c' grant' ∧
          grant'.stepUpId = grant.stepUpId ∧ c'.ticket = c.ticket ∧ c.ticket.isSome = true ∧
          c'.fingerprint config.prim grant' = c.fingerprint config.prim grant) := by
  obtain ⟨grant, haccepted⟩ := h.accepted
  refine ⟨grant, haccepted.found, ?_⟩
  cases haccepted with
  | first huse => exact Or.inl huse
  | again hfound hused hreplays =>
    obtain ⟨t, ht, row, hrow, hid, hticket, hfingerprint⟩ := exists_of_replays hreplays
    obtain ⟨pre, j, post, c', grant', t', rfl, hfirst, ht', hrow'⟩ :=
      origin_of_consumption is row hrow
    subst hrow'
    refine Or.inr ⟨pre, j, post, c', grant', rfl, hfirst, hid, ?_, by rw [ht]; rfl, hfingerprint⟩
    exact ht'.trans ((congrArg some hticket).trans ht.symm)

theorem same_ticket {pre mid : List Input} {j : Input} {c' : Confirmation}
    {grant grant' : StepUpRow} (h : Accepts config ((service config).run pre) i c)
    (hgrant : grantOf config.prim c.raw ((service config).run pre) = some grant)
    (h' : Accepts config ((service config).run (pre ++ i :: mid)) j c')
    (hgrant' : grantOf config.prim c'.raw ((service config).run (pre ++ i :: mid)) = some grant')
    (hid : grant'.stepUpId = grant.stepUpId) :
    c'.ticket = c.ticket ∧ c.ticket.isSome = true ∧
      c'.fingerprint config.prim grant' = c.fingerprint config.prim grant := by
  obtain ⟨grant₀, haccepted⟩ := h.accepted
  obtain rfl := Option.some.inj (haccepted.found.symm.trans hgrant)
  obtain ⟨grant₁, haccepted'⟩ := h'.accepted
  obtain rfl := Option.some.inj (haccepted'.found.symm.trans hgrant')
  have hspent : Spent ((service config).run (pre ++ [i])) grant₀ c.ticket
      (c.fingerprint config.prim grant₀) := by
    rw [Machine.run_concat]
    exact haccepted.spent (grantsSound_run config pre)
  have hlater := hspent.lasts (follows_run config pre mid i)
  exact haccepted'.of_spent (grantsSound_run config _) hlater hid

theorem replay_returns {pre mid : List Input}
    (h : Accepts config ((service config).run pre) i c) (ht : c.ticket = some t) {env : Env}
    {accessToken traceId : String} {row : SessionRow}
    (hvalid : Validates config.prim ((service config).run (pre ++ i :: mid)) accessToken env.now row)
    (hbinding : row.binding c.binding.actionGroup c.binding.targetId c.binding.policyVersion =
      c.binding)
    (htrace : isCheckedText traceId = true) (hcommits : env.commits = true) :
    (service config).answer ((service config).run (pre ++ i :: mid)) (.call env
      (.consumeStepUp (some c.raw) accessToken c.binding.actionGroup c.binding.targetId
        c.binding.policyVersion traceId (some t.1) (some t.2))) = .ok .done := by
  obtain ⟨grant, haccepted⟩ := h.accepted
  rw [← Machine.run_concat] at haccepted
  obtain ⟨grant', hfound, hused, hreplays⟩ :=
    haccepted.replays_later ht (grantsSound_run config _) (follows_run config pre mid i)
  have hreturns := consumeStepUp_of_replays (h.checked ht) htrace hcommits hvalid hbinding hfound
    hused hreplays
  exact congrArg Prod.fst (Call.map_of_ok hreturns fun _ => Answer.done)

/-- A grant is consumed before its expiry for what it was issued for, and for one ticket and
fingerprint only, whose calls are accepted ever after as replays. -/
theorem step_up_single_use (config : Config) :
    (∀ is i c, Accepts config ((service config).run is) i c →
      ∃ grant, grantOf config.prim c.raw ((service config).run is) = some grant ∧
        (FirstUse config.prim ((service config).run is) c.raw c.binding i.now grant ∨
          ∃ pre j post c' grant', is = pre ++ j :: post ∧ UsedBy config pre j c' grant' ∧
            grant'.stepUpId = grant.stepUpId ∧ c'.ticket = c.ticket ∧ c.ticket.isSome = true ∧
            c'.fingerprint config.prim grant' = c.fingerprint config.prim grant)) ∧
      (∀ pre mid i j c c' grant grant', Accepts config ((service config).run pre) i c →
        grantOf config.prim c.raw ((service config).run pre) = some grant →
        Accepts config ((service config).run (pre ++ i :: mid)) j c' →
        grantOf config.prim c'.raw ((service config).run (pre ++ i :: mid)) = some grant' →
        grant'.stepUpId = grant.stepUpId →
        c'.ticket = c.ticket ∧ c.ticket.isSome = true ∧
          c'.fingerprint config.prim grant' = c.fingerprint config.prim grant) ∧
      ∀ pre mid i c t, Accepts config ((service config).run pre) i c → c.ticket = some t →
        ∀ env accessToken traceId row,
          Validates config.prim ((service config).run (pre ++ i :: mid)) accessToken env.now row →
          row.binding c.binding.actionGroup c.binding.targetId c.binding.policyVersion = c.binding →
          isCheckedText traceId = true → env.commits = true →
          (service config).answer ((service config).run (pre ++ i :: mid)) (.call env
            (.consumeStepUp (some c.raw) accessToken c.binding.actionGroup c.binding.targetId
              c.binding.policyVersion traceId (some t.1) (some t.2))) = .ok .done :=
  ⟨fun _ _ _ h => first_or_replay h,
    fun _ _ _ _ _ _ _ _ h hgrant h' hgrant' hid => same_ticket h hgrant h' hgrant' hid,
    fun _ _ _ _ _ h ht _ _ _ _ hvalid hbinding htrace hcommits =>
      replay_returns h ht hvalid hbinding htrace hcommits⟩

end DaonUser.Identity
