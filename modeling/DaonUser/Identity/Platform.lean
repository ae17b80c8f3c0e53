import DaonUser.Identity.Resets
import DaonUser.Identity.Organization

/-!
# Identity: users, administrators and organizations together

The machine `platform` takes the calls of `IdentityService`, of `AdminUserService` and of what
provisions organizations, over one repository. `Move` relates the rows before and after a group of
statements of any of them; all but the deletion of an account are runs of moves
(`PlatformInput.leaves`).
-/

namespace DaonUser.Identity

open Lib

variable {key traceId policyVersion userId : String} {α : Type} {config : PlatformConfig}

/-! ## The machine -/

/-- The methods of `AdminUserService`. -/
inductive AdminOperation
  | createUser (loginId email initialPassword idempotencyKey traceId policyVersion : String)
  | updateUser (userId email idempotencyKey traceId policyVersion : String)
  | approveUser (userId idempotencyKey traceId policyVersion : String)
  | deleteUser (userId idempotencyKey traceId policyVersion : String)
  | changeState (userId state idempotencyKey traceId policyVersion : String)
  | requestPasswordReset (userId idempotencyKey traceId policyVersion : String)

/-- How the members of an organization and the owners of personal workspaces get their rows. -/
inductive OrganizationOperation
  | provision (requestedIdentifier applicantUserId : String)
  | ensurePersonalWorkspace (tenantId workspaceId userId : String)
  | approveJoinAccess (tenantId workspaceId userId : String)

inductive PlatformAnswer
  | identity (answer : Answer)
  | user (result : AdminUserStateResult)
  | deleted (result : AdminUserDeleteResult)
  | reset (result : AdminUserPasswordResetResult)
  | done
  deriving DecidableEq

structure PlatformConfig extends Config where
  admins : List String

def AdminOperation.run (config : PlatformConfig) (env : Env) (principal : IdentityPrincipal) :
    AdminOperation → Statement PlatformAnswer
  | createUser loginId email initialPassword idempotencyKey traceId policyVersion =>
    .user <$> Identity.createUser config.prim env config.admins principal loginId email
      initialPassword idempotencyKey traceId policyVersion
  | updateUser userId email idempotencyKey traceId policyVersion =>
    .user <$> Identity.updateUser config.prim env config.admins principal userId email
      idempotencyKey traceId policyVersion
  | approveUser userId idempotencyKey traceId policyVersion =>
    .user <$> Identity.approveUser config.prim env config.admins principal userId idempotencyKey
      traceId policyVersion
  | deleteUser userId idempotencyKey traceId policyVersion =>
    .deleted <$> Identity.deleteUser config.prim env config.admins principal userId idempotencyKey
      traceId policyVersion
  | changeState userId state idempotencyKey traceId policyVersion =>
    .user <$> Identity.changeState config.prim env config.admins principal userId state
      idempotencyKey traceId policyVersion
  | requestPasswordReset userId idempotencyKey traceId policyVersion =>
    .reset <$> Identity.adminRequestPasswordReset config.prim env config.admins principal userId
      idempotencyKey traceId policyVersion

def OrganizationOperation.run (config : PlatformConfig) (env : Env) :
    OrganizationOperation → Statement PlatformAnswer
  | provision requestedIdentifier applicantUserId =>
    (fun _ => .done) <$> Identity.provision config.prim env requestedIdentifier applicantUserId
  | ensurePersonalWorkspace tenantId workspaceId userId =>
    (fun _ => .done) <$> bootstrapWorkspace env tenantId workspaceId userId "personal_owner"
      "personal" "cloud_sync"
  | approveJoinAccess tenantId workspaceId userId =>
    (fun _ => .done) <$> Identity.approveJoinAccess env tenantId workspaceId userId

def Table.isForeign : Table → Bool
  | authTenantRoles => true
  | authMemberships => true
  | tenantMemberships => true
  | _ => false

inductive PlatformInput
  | identity (env : Env) (operation : Operation)
  | admin (env : Env) (principal : IdentityPrincipal) (operation : AdminOperation)
  | organization (env : Env) (operation : OrganizationOperation)
  | others (rows : Db)

def platform (config : PlatformConfig) :
    Machine Db PlatformInput (Except IdentityError PlatformAnswer) where
  init := Database.empty
  step db
    | .identity env operation => (PlatformAnswer.identity <$> operation.run config.toConfig env) db
    | .admin env principal operation => operation.run config env principal db
    | .organization env operation => operation.run config env db
    | .others rows => (.ok .done, fun t => if t.isForeign then rows t else db t)

theorem platform_identity (config : PlatformConfig) (db : Db) (env : Env) (operation : Operation) :
    (platform config).step db (.identity env operation) =
      (((service config.toConfig).step db (.call env operation)).1.map .identity,
        ((service config.toConfig).step db (.call env operation)).2) :=
  Call.map_apply _ _ _

/-! ## Moves -/

structure Powers extends Permit where
  /-- An administrator may make the user active. -/
  activates : String → Prop
  /-- The membership may be added to a tenant without its protected actions. -/
  enrolls : MembershipRow → Prop

/-- The tenant has a row for each of the protected actions. -/
def Protects (db : Db) (tenantId : String) : Prop :=
  ∀ group ∈ minimumStepUpActionGroups, ∃ row ∈ db .tenantStepUpActions,
    row.tenantId = tenantId ∧ row.actionGroup = group

def stateChanged (row : UserRow) (after : UserState) (now : Int) (db : Db) : Db :=
  let db : Db := setState row.userId row.state after now db
  if row.state = after then db else revokeUserSessions row.userId now db

theorem stateChanged_of_ne {t : Table} {row : UserRow} {after : UserState} {now : Int} {db : Db}
    (hu : t ≠ .users) (hs : t ≠ .sessions) (hf : t ≠ .refreshFamilies) :
    stateChanged row after now db t = db t := by
  unfold stateChanged
  dsimp only
  split
  · exact Database.update_of_ne hu
  · exact (revokeUserSessions_of_ne hs hf).trans (Database.update_of_ne hu)

/-- What a group of statements of the services makes of the rows. -/
inductive Move (powers : Powers) : Db → Db → Prop
  | identity {db db' : Db} (h : Change powers.toPermit db db') : Move powers db db'
  | enrolled {db : Db} (row : MembershipRow) (hadmits : db.Admits .memberships row)
    (henrolls : powers.enrolls row ∨
      ∃ w ∈ db .authWorkspaces, w.tenantId = row.tenantId ∧ w.workspaceKind = "organization") :
    Move powers db (db.insert .memberships row)
  | appointed {db : Db} (row : MembershipRow) :
    Move powers db (seedMinimumStepUpActions row.tenantId
      (db.upsert .memberships row fun old => { old with role := row.role }))
  | emailed {db : Db} (userId address : String) : Move powers db (setEmail userId address db)
  | stated {db : Db} (row : UserRow) (after : UserState) (now : Int)
    (hrow : userOf row.userId db = some row) (hafter : after = .active ∨ after = .suspended)
    (hactivates : after = .active → powers.activates row.userId) :
    Move powers db (stateChanged row after now db)
  | workspace {db : Db} (row : WorkspaceRow)
    (hprotects : row.workspaceKind = "organization" → Protects db row.tenantId) :
    Move powers db (db.insert .authWorkspaces row)
  | authorized {db db' : Db} (h : ∀ t : Table, t.isForeign = false → db' t = db t) :
    Move powers db db'

/-- Some moves, one after the other. -/
abbrev Moves (powers : Powers) : Db → Db → Prop := Relation.ReflTransGen (Move powers)

namespace Moves

variable {powers : Powers} {db db' : Db}

theorem refl : Moves powers db db := Relation.ReflTransGen.refl

theorem next {db'' : Db} (h : Moves powers db db') (hmove : Move powers db' db'') :
    Moves powers db db'' :=
  Relation.ReflTransGen.tail h hmove

theorem of_runs (h : Runs powers.toPermit db db') : Moves powers db db' :=
  Relation.ReflTransGen.mono (p := Move powers) (fun _ _ => Move.identity) _ _ h

theorem keeps {I : Db → Prop} (hmove : ∀ db db', Move powers db db' → I db → I db')
    (h : Moves powers db db') (hI : I db) : I db' := by
  induction h with
  | refl => exact hI
  | tail _ hlast ih => exact hmove _ _ hlast ih

end Moves

/-! ## The methods as moves -/

section Methods

variable {powers : Powers} {prim : Primitives} {env : Env} {admins : List String}
  {principal : IdentityPrincipal} {db : Db}

@[simp] theorem returns_requireAdmin {W : PUnit → Db → Prop} :
    Call.Returns (requireAdmin admins principal) db W ↔ (principal.userId ∈ admins → W ⟨⟩ db) := by
  simp [requireAdmin]

@[simp] theorem returns_validateOperation {target : List String} {W : PUnit → Db → Prop} :
    Call.Returns (validateOperation target key traceId policyVersion) db W ↔
      ((∀ value ∈ target ++ [key, traceId, policyVersion], isCheckedText value = true) →
        16 ≤ key.toList.length ∧ key.toList.length ≤ 128 → W ⟨⟩ db) := by
  simp only [validateOperation, Call.returns_bind, returns_checkedTexts, Call.returns_ensure]

@[simp] theorem reverts_requireAdmin_bind {f : PUnit → Statement α} :
    Call.Reverts (requireAdmin admins principal >>= f) db ↔
      (principal.userId ∈ admins → Call.Reverts (f ⟨⟩) db) :=
  Call.reverts_ensure_bind

@[simp] theorem reverts_validateOperation_bind {target : List String} {f : PUnit → Statement α}
    (h : Call.Reverts (f ⟨⟩) db) :
    Call.Reverts (validateOperation target key traceId policyVersion >>= f) db := by
  rw [validateOperation, Call.bind_assoc, reverts_checkedTexts_bind]
  intro _
  rw [Call.reverts_ensure_bind]
  exact fun _ => h

/-- `create_user` would make an account: an administrator asks for it under a new key, and nobody has
the login id or the address. -/
structure MakesAccount (prim : Primitives) (admins : List String) (db : Db)
    (principal : IdentityPrincipal) (loginId emailText idempotencyKey : String) : Prop where
  admin : principal.userId ∈ admins
  unasked : (createRequest prim principal (prim.lower loginId) (prim.lower emailText)
    idempotencyKey).prior db = none
  free : ∀ row ∈ db .users, row.loginId ≠ some (prim.lower loginId) ∧
    row.email ≠ some (prim.lower emailText)

theorem createUser_moves {loginId emailText initialPassword : String}
    (henrolls : MakesAccount prim admins db principal loginId emailText key → powers.enrolls
      { tenantId := env.id "tenant", userId := env.id "usr", role := "personal_owner" }) :
    Call.Returns (createUser prim env admins principal loginId emailText initialPassword key traceId
      policyVersion) db fun _ db' => Moves powers db db' := by
  simp only [createUser, email, Call.returns_bind, returns_requireAdmin, returns_validateOperation,
    returns_checkedTexts, returns_password, Call.returns_ensure, Call.returns_pure,
    returns_transaction, Call.returns_get]
  intro hadmin _ _ _ _ _ _
  split
  · simp only [Call.returns_bind, Call.returns_ensure, Call.returns_require, Call.returns_pure]
    exact fun _ _ _ _ => .refl
  · next hunasked =>
    simp only [makeUser, Call.returns_bind, Call.returns_get, Call.returns_ensure,
      returns_insertRow, Call.returns_modify, Call.returns_pure]
    intro hfree huser hmember hnoted _
    have hmade : Moves powers db _ := (Moves.refl.next (.identity (.user _ huser))).next
      (.identity (.tenant (env.id "tenant")))
    exact (hmade.next (.enrolled _ hmember (Or.inl (henrolls ⟨hadmin, hunasked, hfree⟩)))).next
      (.identity (.noted .adminAuditOutbox _ rfl hnoted))

theorem updateUser_moves {emailText : String} :
    Call.Returns (updateUser prim env admins principal userId emailText key traceId policyVersion) db
      fun _ db' => Moves powers db db' := by
  simp only [updateUser, email, Call.returns_bind, returns_requireAdmin, returns_validateOperation,
    Call.returns_ensure, Call.returns_pure, returns_transaction, Call.returns_require,
    Call.returns_get]
  intro _ _ _ _ _ row _
  split
  · simp only [Call.returns_bind, Call.returns_ensure, Call.returns_pure]
    exact fun _ _ => .refl
  · simp only [Call.returns_bind, Call.returns_ensure, Call.returns_modify, returns_insertRow,
      Call.returns_pure]
    exact fun _ _ hnoted _ => (Moves.refl.next (.emailed userId _)).next
      (.identity (.noted .adminAuditOutbox _ rfl hnoted))

theorem requestedState_eq_some {state : String} {after : UserState}
    (h : requestedState state = some after) :
    (after = .active ∧ state = "active") ∨ (after = .suspended ∧ state = "suspended") := by
  unfold requestedState at h
  split_ifs at h with hactive hsuspended
  · exact Or.inl ⟨(Option.some.inj h).symm, hactive⟩
  · exact Or.inr ⟨(Option.some.inj h).symm, hsuspended⟩

theorem changeState_moves {state : String} (hactivates : state = "active" → powers.activates userId) :
    Call.Returns (changeState prim env admins principal userId state key traceId policyVersion) db
      fun _ db' => Moves powers db db' := by
  simp only [changeState, checkTarget, Call.returns_bind, returns_requireAdmin, returns_checkedTexts,
    Call.returns_ensure, returns_transaction, Call.returns_require, Call.returns_get]
  intro _ _ after hafter _ row hrow _ _ _
  split
  · simp only [Call.returns_bind, Call.returns_ensure, Call.returns_pure]
    exact fun _ _ => .refl
  · simp only [Call.returns_bind, Call.returns_ensure, Call.returns_modify, returns_insertRow,
      Call.returns_pure, Call.returns_ite]
    intro _ hnoted
    obtain ⟨-, rfl⟩ := mem_of_userOf hrow
    have hnoted' : Moves powers db _ := Moves.refl.next
      (.identity (.noted .adminAuditOutbox _ rfl hnoted))
    have hrequested := requestedState_eq_some hafter
    have hstated := hnoted'.next (.stated row after env.now (by simpa [userOf] using hrow)
      (hrequested.imp And.left And.left) fun hactive => hactivates (by simpa [hactive] using hrequested))
    rw [stateChanged] at hstated
    refine ⟨fun hsame _ => ?_, fun hother _ => ?_⟩
    · rwa [if_pos hsame] at hstated
    · rwa [if_neg hother] at hstated

inductive Deletes (userId : String) : Db → Db → Prop
  | kept {db : Db} : Deletes userId db db
  | deleted {db : Db} (intent : AdminAuditRow) :
    Deletes userId db ((deleteAccount userId db).insert .adminAuditOutbox intent)

theorem deleteUser_spec :
    Call.Returns (deleteUser prim env admins principal userId key traceId policyVersion) db
      fun _ db' => Deletes userId db db' := by
  simp only [deleteUser, Call.returns_bind, returns_requireAdmin, returns_validateOperation,
    Call.returns_ensure, returns_transaction, Call.returns_get]
  intro _ _ _ _
  split
  · simp only [Call.returns_bind, Call.returns_ensure, Call.returns_pure]
    exact fun _ _ => .kept
  · simp only [Call.returns_bind, Call.returns_ensure, Call.returns_modify, returns_insertRow,
      Call.returns_pure]
    exact fun _ _ _ _ => .deleted _

theorem reserveReset_runs {permit : Permit} {request : AdminRequest} {loginId : String} {row : UserRow} :
    Call.Returns (reserveReset prim env principal request userId loginId traceId policyVersion row) db
      fun _ db' => Runs permit db db' := by
  simp only [reserveReset, validateTarget, Call.returns_bind, Call.returns_ensure,
    Call.returns_require, returns_checkedTexts, Call.returns_pure, Call.returns_get]
  intro _ _ _ _ _ _ _ _
  split_ifs with hadmits
  · simp only [Call.returns_bind, Call.returns_modify, Call.returns_pure]
    exact Runs.refl.next (.noted .adminAuditOutbox _ rfl hadmits)
  · simp only [Call.returns_bind, Call.returns_require, Call.returns_ensure, Call.returns_pure]
    exact fun _ _ _ => .refl

theorem adminRequestPasswordReset_leaves :
    Call.Leaves (adminRequestPasswordReset prim env admins principal userId key traceId policyVersion)
      db (Moves powers db) := by
  refine Call.leaves_bind (Call.leaves_ensure .refl) fun _ db₁ h₁ => ?_
  refine Call.leaves_bind (Call.leaves_bind (Call.leaves_ensure h₁) fun _ _ h =>
    Call.leaves_ensure h) fun _ db₂ h₂ => ?_
  refine Call.leaves_bind (Call.leaves_ensure h₂) fun _ db₃ h₃ => ?_
  refine Call.leaves_bind (Call.leaves_atomically ?_ h₃) fun loginId db₄ h₄ => ?_
  · simp only [validateTarget, Call.returns_bind, Call.returns_require, Call.returns_ensure,
      returns_checkedTexts, Call.returns_pure]
    exact fun _ _ _ _ _ _ _ _ _ _ => h₃
  · refine Call.leaves_bind (Call.Returns.leaves ?_ (by simp [resetRequest]) h₄) fun _ _ h =>
      Call.leaves_bind (Call.leaves_require h) fun _ _ h => h
    exact (resetRequest_runs fun _ => reserveReset_runs).mono fun _ _ hruns =>
      h₄.trans (Moves.of_runs hruns)

theorem mem_seed (tenantId : String) (actions : List String) {db : Db} {row : StepUpActionRow}
    (hrow : row ∈ db .tenantStepUpActions) :
    row ∈ actions.foldl (seedAction tenantId) db .tenantStepUpActions := by
  induction actions generalizing db with
  | nil => exact hrow
  | cons action actions ih => exact ih (Database.mem_insertOrIgnore_of_mem hrow)

theorem protects_seed (tenantId : String) (db : Db) :
    Protects (seedMinimumStepUpActions tenantId db) tenantId := by
  have hfold : ∀ (actions : List String) (db : Db), ∀ group ∈ actions,
      ∃ row ∈ actions.foldl (seedAction tenantId) db .tenantStepUpActions,
        row.tenantId = tenantId ∧ row.actionGroup = group := by
    intro actions
    induction actions with
    | nil => exact fun _ _ => nofun
    | cons action actions ih =>
      intro db group hgroup
      rcases List.mem_cons.1 hgroup with rfl | hgroup
      · have hself : Table.clash .tenantStepUpActions
            { tenantId, actionGroup := group, isMandatory := true }
            { tenantId, actionGroup := group, isMandatory := true } = true := by simp [Table.clash]
        obtain ⟨row, hrow, hclash⟩ := Database.exists_insertOrIgnore (S := schema)
          (t := Table.tenantStepUpActions) db hself
        simp only [Table.clash, Bool.and_eq_true, decide_eq_true_eq] at hclash
        exact ⟨row, mem_seed tenantId actions hrow, hclash⟩
      · exact ih _ group hgroup
  exact hfold minimumStepUpActionGroups db

theorem addTenantMembership_moves {tenantId role : String} :
    Call.Returns (addTenantMembership env tenantId userId role) db
      fun _ db' => Moves powers db db' ∧ Protects db' tenantId := by
  simp only [addTenantMembership, Call.returns_bind, returns_checkedTexts, returns_transaction,
    Call.returns_get, Call.returns_ensure, Call.returns_modify]
  exact fun _ _ _ => ⟨(Moves.refl.next (.identity (.tenant tenantId))).next
    (.appointed { tenantId, userId, role }), protects_seed _ _⟩

theorem bootstrapWorkspace_moves {tenantId workspaceId ownerUserId ownerRole kind dataArea : String}
    (hprotects : kind = "organization" → Protects db tenantId) :
    Call.Returns (bootstrapWorkspace env tenantId workspaceId ownerUserId ownerRole kind dataArea) db
      fun _ db' => Moves powers db db' := by
  simp only [bootstrapWorkspace, Call.returns_bind, Call.returns_ensure, returns_transaction,
    Call.returns_get]
  intro _ _
  split
  · simp only [Call.returns_ensure]
    exact fun _ _ => .refl
  · simp only [Call.returns_bind, Call.returns_ensure, returns_insertRow, Call.returns_modify]
    intro _ _ _ _
    refine (Moves.refl.next (.workspace { workspaceId, tenantId, workspaceKind := kind, dataArea }
      hprotects)).next (.authorized fun t hforeign => ?_)
    refine Database.insertOrIgnore_of_ne ?_
    rintro rfl
    cases hforeign

theorem provision_leaves {requestedIdentifier applicantUserId : String} :
    Call.Leaves (provision prim env requestedIdentifier applicantUserId) db (Moves powers db) := by
  refine Call.leaves_bind (Call.leaves_ensure .refl) fun _ db₁ h₁ => ?_
  have hjoined : Call.Returns (addTenantMembership env
      ("tenant-" ++ organizationIdentifier prim requestedIdentifier) applicantUserId
      "organization_admin") db₁ fun _ db' => Moves powers db₁ db' ∧
        Protects db' ("tenant-" ++ organizationIdentifier prim requestedIdentifier) :=
    addTenantMembership_moves
  refine hjoined.leaves_bind (by simp [addTenantMembership]) h₁ fun _ db₂ h => ?_
  obtain ⟨hmoves, hprotects⟩ := h
  have h₂ : Moves powers db db₂ := h₁.trans hmoves
  refine Call.Returns.leaves ?_ (by simp [bootstrapWorkspace]) h₂
  exact (bootstrapWorkspace_moves fun _ => hprotects).mono fun _ _ hmoves => h₂.trans hmoves

theorem approveJoinAccess_moves {tenantId workspaceId : String} :
    Call.Returns (approveJoinAccess env tenantId workspaceId userId) db
      fun _ db' => Moves powers db db' := by
  simp only [approveJoinAccess, Call.returns_bind, Call.returns_ensure, returns_transaction,
    Call.returns_get, returns_insertRow]
  intro _ hworkspace _ _ _ hmember _ _
  simp only [List.any_eq_true, Bool.and_eq_true, decide_eq_true_eq] at hworkspace
  obtain ⟨w, hw, ⟨htenant, -⟩, hkind⟩ := hworkspace
  refine (Moves.refl.next (.enrolled _ hmember (Or.inr ⟨w, hw, htenant, hkind⟩))).next
    (.authorized fun t hforeign => ?_)
  refine Database.insert_of_ne ?_
  rintro rfl
  cases hforeign

/-! ### Steps -/

def AdminOperation.Permitted (powers : Powers) (config : PlatformConfig) (env : Env) (db : Db)
    (principal : IdentityPrincipal) : AdminOperation → Prop
  | createUser loginId email _ key _ _ =>
    MakesAccount config.prim config.admins db principal loginId email key → powers.enrolls
      { tenantId := env.id "tenant", userId := env.id "usr", role := "personal_owner" }
  | approveUser userId _ _ _ => powers.activates userId
  | changeState userId state _ _ _ => state = "active" → powers.activates userId
  | _ => True

def PlatformInput.Permitted (powers : Powers) (config : PlatformConfig) (db : Db) :
    PlatformInput → Prop
  | identity env operation => operation.Permitted powers.toPermit config.toConfig env db
  | admin env principal operation => operation.Permitted powers config env db principal
  | _ => True

def PlatformInput.target : PlatformInput → Option String
  | admin _ _ (.deleteUser userId _ _ _) => some userId
  | _ => none

def Powers.all : Powers where
  toPermit := .all
  activates _ := True
  enrolls _ := True

theorem PlatformInput.permitted_all (i : PlatformInput) :
    i.Permitted .all config db := by
  cases i with
  | identity env operation => exact operation.permitted_all env
  | admin env principal operation =>
    cases operation with
    | createUser => exact fun _ => trivial
    | changeState => exact fun _ => trivial
    | _ => trivial
  | organization env operation => trivial
  | others rows => trivial

theorem leaves_mapped {x : Statement α} {f : α → PlatformAnswer} {P : Db → Prop}
    (h : Call.Leaves x db P) : Call.Leaves (f <$> x) db P :=
  Call.leaves_bind h fun _ _ hs => hs

theorem PlatformInput.leaves (i : PlatformInput) (hkeeps : i.target = none)
    (hpermitted : i.Permitted powers config db) :
    Moves powers db ((platform config).next db i) := by
  cases i with
  | identity env operation =>
    have hleaves : Call.Leaves (operation.run config.toConfig env) db
        (fun db' => Moves powers db db') :=
      Moves.of_runs (operation.leaves hpermitted)
    exact leaves_mapped hleaves
  | admin env principal operation =>
    cases operation with
    | createUser =>
      exact leaves_mapped ((createUser_moves hpermitted).leaves (by simp [createUser]) .refl)
    | updateUser => exact leaves_mapped (updateUser_moves.leaves (by simp [updateUser]) .refl)
    | approveUser =>
      refine leaves_mapped (Call.leaves_bind (Call.leaves_ensure .refl) fun _ _ hmoves => ?_)
      exact ((changeState_moves fun _ => hpermitted).mono fun _ _ h => hmoves.trans h).leaves
        (by simp [changeState]) hmoves
    | deleteUser => cases hkeeps
    | changeState =>
      exact leaves_mapped ((changeState_moves hpermitted).leaves (by simp [changeState]) .refl)
    | requestPasswordReset => exact leaves_mapped adminRequestPasswordReset_leaves
  | organization env operation =>
    cases operation with
    | provision => exact leaves_mapped provision_leaves
    | ensurePersonalWorkspace =>
      exact leaves_mapped ((bootstrapWorkspace_moves (by simp)).leaves
        (by simp [bootstrapWorkspace]) .refl)
    | approveJoinAccess =>
      exact leaves_mapped (approveJoinAccess_moves.leaves (by simp [approveJoinAccess]) .refl)
  | others rows => exact Moves.refl.next (.authorized fun t hforeign => by simp [Machine.next, platform, hforeign])

theorem PlatformInput.deletes {i : PlatformInput}
    (htarget : i.target = some userId) : Deletes userId db ((platform config).next db i) := by
  unfold PlatformInput.target at htarget
  split at htarget
  · obtain rfl := Option.some.inj htarget
    exact leaves_mapped (deleteUser_spec.leaves (by simp [deleteUser]) .kept)
  · cases htarget

end Methods

end DaonUser.Identity
