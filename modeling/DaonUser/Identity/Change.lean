import DaonUser.Identity.Android
import Mathlib.Logic.Relation

/-!
# Identity: what the statements of a transaction change

`Change permit` relates the rows before and after one group of statements of `IdentityService`; `permit`
says which users a statement may bring back without a look at their state, and which reset tokens and grants
may be used. Every method is a run of such changes (`Runs`), so what they keep, every history keeps.
-/

namespace DaonUser.Identity

open Lib

/-- A table whose rows are only ever inserted, or rewritten without consequence for the others. -/
def Table.isLog : Table → Bool
  | bootstrapState => true
  | emailVerificationTokens => true
  | refreshTokens => true
  | sessionAuditOutbox => true
  | sessionTenantSwitchOutbox => true
  | adminAuditOutbox => true
  | oidcTransactions => true
  | stepUpIdempotency => true
  | _ => false

def useGrant (stepUpId : String) (consumption : Option ConsumptionRow) (now : Int) (db : Db) : Db :=
  match consumption with
  | none => useStepUp stepUpId now db
  | some row => (useStepUp stepUpId now db).insert .stepUpConsumptions row

namespace Opening

def rows (o : Opening) (prim : Primitives) (env : Env) (db : Db) : Db :=
  let db : Db := db.insert .devices (o.device env)
  let db : Db := db.insert .sessions (o.session prim env)
  match o.clientKind with
  | .web => db
  | .native =>
    let db : Db := db.insert .refreshFamilies (o.family env)
    db.insert .refreshTokens (o.refresh prim env)

/-- The keys admit the rows of the session. -/
structure Admitted (o : Opening) (prim : Primitives) (env : Env) (db : Db) : Prop where
  device : db.Admits .devices (o.device env)
  session : db.Admits .sessions (o.session prim env)
  family : o.clientKind = .native → db.Admits .refreshFamilies (o.family env)
  refresh : o.clientKind = .native → db.Admits .refreshTokens (o.refresh prim env)

end Opening

/-! ## Tables that a statement leaves alone -/

section Frames

variable {t : Table} {db : Db}

@[simp] theorem ensureTenant_of_ne {tenantId : String} (h : t ≠ .tenants) :
    ensureTenant tenantId db t = db t :=
  Database.insertOrIgnore_of_ne h

@[simp] theorem seedMinimumStepUpActions_of_ne {tenantId : String} (h : t ≠ .tenantStepUpActions) :
    seedMinimumStepUpActions tenantId db t = db t := by
  have hfold : ∀ (actions : List String) (db : Db),
      actions.foldl (seedAction tenantId) db t = db t := by
    intro actions
    induction actions with
    | nil => exact fun _ => rfl
    | cons action actions ih =>
      intro db
      rw [List.foldl_cons, ih]
      exact Database.insertOrIgnore_of_ne h
  exact hfold minimumStepUpActionGroups db

@[simp] theorem writeUser_of_ne {userId : String} {set : UserRow → UserRow} (h : t ≠ .users) :
    writeUser userId set db t = db t :=
  Database.update_of_ne h

@[simp] theorem useVerificationToken_of_ne {tokenId : String} {now : Int}
    (h : t ≠ .emailVerificationTokens) : useVerificationToken tokenId now db t = db t :=
  Database.update_of_ne h

@[simp] theorem useResetToken_of_ne {tokenId : String} {now : Int} (h : t ≠ .passwordResetTokens) :
    useResetToken tokenId now db t = db t :=
  Database.update_of_ne h

@[simp] theorem seen_of_ne {deviceId : String} {now : Int} (h : t ≠ .devices) :
    seen deviceId now db t = db t :=
  Database.update_of_ne h

@[simp] theorem trustRows_of_ne {deviceId : String} {now : Int} (h : t ≠ .devices) :
    trustRows deviceId now db t = db t :=
  Database.update_of_ne h

@[simp] theorem useRefresh_of_ne {refreshId : String} {now : Int} (h : t ≠ .refreshTokens) :
    useRefresh refreshId now db t = db t :=
  Database.update_of_ne h

@[simp] theorem useOidc_of_ne {transactionId : String} {now : Int} (h : t ≠ .oidcTransactions) :
    useOidc transactionId now db t = db t :=
  Database.update_of_ne h

@[simp] theorem renewed_of_ne {sessionId accessDigest : String} {now : Int} (h : t ≠ .sessions) :
    renewed sessionId accessDigest now db t = db t :=
  Database.update_of_ne h

@[simp] theorem revokeUserSessions_of_ne {userId : String} {now : Int} (hs : t ≠ .sessions)
    (hf : t ≠ .refreshFamilies) : revokeUserSessions userId now db t = db t := by
  simp [revokeUserSessions, revokeFamiliesOf, hs, hf]

@[simp] theorem revokeSessionRow_of_ne {sessionId : String} {now : Int} (hs : t ≠ .sessions)
    (hf : t ≠ .refreshFamilies) : revokeSessionRow sessionId now db t = db t := by
  simp [revokeSessionRow, hs, hf]

@[simp] theorem revokeFamily_of_ne {familyId sessionId : String} {now : Int} (hs : t ≠ .sessions)
    (hf : t ≠ .refreshFamilies) : revokeFamily familyId sessionId now db t = db t := by
  simp [revokeFamily, hs, hf]

@[simp] theorem revokeDeviceRows_of_ne {deviceId tenantId userId : String} {now : Int}
    (hs : t ≠ .sessions) (hf : t ≠ .refreshFamilies) (hd : t ≠ .devices) :
    revokeDeviceRows deviceId tenantId userId now db t = db t := by
  simp [revokeDeviceRows, revokeFamiliesOf, hs, hf, hd]

@[simp] theorem useGrant_of_ne {stepUpId : String} {consumption : Option ConsumptionRow} {now : Int}
    (hg : t ≠ .stepUpAuthorizations) (hc : t ≠ .stepUpConsumptions) :
    useGrant stepUpId consumption now db t = db t := by
  cases consumption <;> simp [useGrant, useStepUp, hg, hc]

@[simp] theorem Opening.rows_of_ne {o : Opening} {prim : Primitives} {env : Env} (hd : t ≠ .devices)
    (hs : t ≠ .sessions) (hf : t ≠ .refreshFamilies) (hr : t ≠ .refreshTokens) :
    o.rows prim env db t = db t := by
  obtain ⟨tenantId, userId, platform, clientKind, openedAt, accessExpiresAt⟩ := o
  cases clientKind <;> simp [Opening.rows, hd, hs, hf, hr]

end Frames

/-! ## Changes -/

structure Permit where
  revives : UserRow → Prop
  /-- The reset token with a digest may be used. -/
  resets : String → Prop
  /-- A grant may be used, and the use recorded so. -/
  uses : StepUpRow → Option ConsumptionRow → Prop

def Permit.all : Permit where
  revives _ := True
  resets _ := True
  uses _ _ := True

/-- What a group of statements makes of the rows. -/
inductive Change (permit : Permit) : Db → Db → Prop
  | tenant {db : Db} (tenantId : String) : Change permit db (ensureTenant tenantId db)
  | joined {db : Db} (row : MembershipRow) :
    Change permit db (seedMinimumStepUpActions row.tenantId (db.insertOrIgnore .memberships row))
  | user {db : Db} (row : UserRow) (hadmits : db.Admits .users row) :
    Change permit db (db.insert .users row)
  | password {db : Db} (userId digest : String) (required : Option Bool) :
    Change permit db (writeUser userId (UserRow.setPassword digest required) db)
  | verified {db : Db} (userId : String) (now : Int)
    (hfree : ∀ user ∈ db .users, user.userId = userId → permit.revives user) :
    Change permit db (writeUser userId (UserRow.verify now) db)
  | noted {db : Db} (t : Table) (row : t.Row) (hlog : t.isLog = true) (hadmits : db.Admits t row) :
    Change permit db (db.insert t row)
  | verificationUsed {db : Db} (tokenId : String) (now : Int) :
    Change permit db (useVerificationToken tokenId now db)
  | resetIssued {db : Db} (row : MailTokenRow) (hunused : row.usedAt = none)
    (hexpires : row.expiresAt = row.createdAt + resetTokenTtl)
    (hadmits : db.Admits .passwordResetTokens row) :
    Change permit db (db.insert .passwordResetTokens row)
  | resetUsed {db : Db} (row : MailTokenRow) (now : Int) (hrow : row ∈ db .passwordResetTokens)
    (hresets : permit.resets row.tokenDigest) : Change permit db (useResetToken row.tokenId now db)
  | seen {db : Db} (deviceId : String) (now : Int) : Change permit db (seen deviceId now db)
  | opened {db : Db} (prim : Primitives) (env : Env) (o : Opening) (hadmits : o.Admitted prim env db)
    (huser : ∃ user ∈ db .users, user.userId = o.userId ∧ (user.state = .active ∨ permit.revives user)) :
    Change permit db (o.rows prim env db)
  | userRevoked {db : Db} (userId : String) (now : Int) :
    Change permit db (revokeUserSessions userId now db)
  | sessionRevoked {db : Db} (sessionId : String) (now : Int) :
    Change permit db (revokeSessionRow sessionId now db)
  | familyRevoked {db : Db} (family : FamilyRow) (now : Int) (hfamily : family ∈ db .refreshFamilies) :
    Change permit db (revokeFamily family.familyId family.sessionId now db)
  | refreshUsed {db : Db} (refreshId : String) (now : Int) :
    Change permit db (useRefresh refreshId now db)
  | renewed {db : Db} (sessionId accessDigest : String) (now : Int)
    (hactive : ∃ row ∈ db .sessions, row.sessionId = sessionId ∧ row.state = .active)
    (hdigest : ∀ row ∈ db .sessions, row.sessionId = sessionId ∨ row.accessDigest ≠ accessDigest) :
    Change permit db (renewed sessionId accessDigest now db)
  | trusted {db : Db} (deviceId : String) (now : Int)
    (hdevice : ∃ row ∈ db .devices, row.deviceId = deviceId ∧ row.state ≠ .revoked) :
    Change permit db (trustRows deviceId now db)
  | deviceRevoked {db : Db} (deviceId tenantId userId : String) (now : Int) :
    Change permit db (revokeDeviceRows deviceId tenantId userId now db)
  | granted {db : Db} (row : StepUpRow) (hadmits : db.Admits .stepUpAuthorizations row) :
    Change permit db (db.insert .stepUpAuthorizations row)
  | grantUsed {db : Db} (grant : StepUpRow) (consumption : Option ConsumptionRow) (now : Int)
    (hgrant : grant ∈ db .stepUpAuthorizations) (hunused : grant.usedAt = none)
    (huses : permit.uses grant consumption)
    (hadmits : ∀ row, consumption = some row →
      row.stepUpId = grant.stepUpId ∧ db.Admits .stepUpConsumptions row) :
    Change permit db (useGrant grant.stepUpId consumption now db)
  | oidcUsed {db : Db} (transactionId : String) (now : Int) :
    Change permit db (useOidc transactionId now db)

/-- Some changes, one after the other. -/
abbrev Runs (permit : Permit) : Db → Db → Prop := Relation.ReflTransGen (Change permit)

namespace Runs

variable {permit : Permit} {db db' : Db}

theorem refl : Runs permit db db := Relation.ReflTransGen.refl

theorem next {db'' : Db} (h : Runs permit db db') (hchange : Change permit db' db'') : Runs permit db db'' :=
  Relation.ReflTransGen.tail h hchange

theorem keeps {I : Db → Prop} (hchange : ∀ db db', Change permit db db' → I db → I db')
    (h : Runs permit db db') (hI : I db) : I db' := by
  induction h with
  | refl => exact hI
  | tail _ hlast ih => exact hchange _ _ hlast ih

end Runs

end DaonUser.Identity
