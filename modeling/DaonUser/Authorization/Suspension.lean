import DaonUser.Authorization.Owners

/-!
# Authorization: a member that its organization has suspended

The organization workflow suspends a member in its own table, and every transaction on a workspace of
an organization asks there (`Open`). Two transactions are on no workspace and do not ask:
`set_tenant_role` and `organization_admin_workspace` (`Unguarded`).
-/

namespace DaonUser.Authorization

open Lib

variable {db : Db} {principal : IdentityPrincipal}

/-- The organization workflow has suspended the membership of a principal. -/
def Suspended (db : Db) (principal : IdentityPrincipal) : Prop :=
  (workflowRow db principal.tenantId principal.userId).any (fun row => !row.active) = true

def IsOrganization (db : Db) (tenantId : String) : Prop :=
  ∃ workspace ∈ db .workspaces, workspace.tenantId = tenantId ∧
    workspace.workspaceKind = "organization"

theorem Suspended.not_active (h : Suspended db principal) : ¬OrganizationActive db principal := by
  rintro ⟨-, hactive⟩
  unfold Suspended at h
  cases hrow : workflowRow db principal.tenantId principal.userId with
  | none =>
    rw [hrow] at h
    cases h
  | some row =>
    rw [hrow] at h hactive
    simp only [Option.any_some, Bool.not_eq_true', Option.all_some] at h hactive
    rw [h] at hactive
    cases hactive

theorem workspaceRow_mem {tenantId workspaceId : String} {workspace : WorkspaceRow}
    (h : workspaceRow db tenantId workspaceId = some workspace) :
    workspace ∈ db .workspaces ∧ workspace.tenantId = tenantId ∧
      workspace.workspaceId = workspaceId := by
  have hkeys : workspace.tenantId = tenantId ∧ workspace.workspaceId = workspaceId := by
    simpa using List.find?_some h
  exact ⟨List.mem_of_find?_eq_some h, hkeys⟩

theorem IsOrganization.workspaceKind (h : IsOrganization db principal.tenantId) (hdb : Coherent db)
    {workspaceId : String} {workspace : WorkspaceRow}
    (hfound : workspaceRow db principal.tenantId workspaceId = some workspace) :
    workspace.workspaceKind = "organization" := by
  obtain ⟨other, hother, htenant, hkind⟩ := h
  obtain ⟨hmem, htenant', -⟩ := workspaceRow_mem hfound
  rw [← hkind]
  exact hdb.kind workspace hmem other hother (htenant'.trans htenant.symm)

theorem not_open (hdb : Coherent db) (hsuspended : Suspended db principal)
    (horganization : IsOrganization db principal.tenantId) {workspaceId : String}
    {workspace : WorkspaceRow} : ¬Open db principal workspaceId workspace := fun hopen =>
  hsuspended.not_active (hopen.active (horganization.workspaceKind hdb hopen.found))

/-! ## What does not ask -/

/-- The checks of `set_tenant_role` and of `organization_admin_workspace` are all met. -/
def Unguarded (db : Db) : Input → Prop
  | .call (.setTenantRole principal userId role expectedVersion trail) env =>
    role.all (· ∈ tenantRoles) = true ∧ 0 ≤ expectedVersion ∧ isSafeId userId = true ∧
      (activeRole db principal).any (fun row => row.role ∈ tenantRoles) = true ∧
      (tenantRoleOf (((db .workspaces).filter fun row => row.tenantId = principal.tenantId).map
        (·.workspaceKind))).any (fun expected => role.all (· = expected)) = true ∧
      (versionOf TenantRoleRow.version (tenantRoleRow db principal.tenantId userId) : Int) =
        expectedVersion ∧
      (role.isSome = true ∨ (tenantRoleRow db principal.tenantId userId).isSome = true) ∧
      Auditable env principal trail [userId]
  | .call (.organizationAdminWorkspace principal trail) env =>
    (∃ workspaceId, roleWorkspaces db principal.tenantId ((activeRole db principal).map (·.role)) =
      [workspaceId]) ∧ Auditable env principal trail []
  | _ => False

theorem setTenantRole_raises_iff {env : Env} {userId : String} {role : Option Role}
    {expectedVersion : Int} {trail : Trail} :
    Call.Returns (setTenantRole env principal userId role expectedVersion trail).alone db
        (fun _ _ => False) ↔
      ¬Unguarded db (.call (.setTenantRole principal userId role expectedVersion trail) env) := by
  simp only [setTenantRole, Program.returns_alone_bind, returns_checkedIds,
    Program.returns_alone_ensure, returns_denyUnless, returns_tenantRole, Program.returns_alone_read,
    Program.returns_alone_require, put, Program.returns_alone_put, returns_audit,
    Program.returns_alone_pure, Unguarded, List.all_cons, List.all_nil, Bool.and_true, not_and]
  refine imp_congr_right fun _ => imp_congr_right fun _ => imp_congr_right fun _ =>
    imp_congr_right fun _ => imp_congr_right fun _ => imp_congr_right fun _ => ?_
  cases role with
  | none =>
    cases tenantRoleRow db principal.tenantId userId with
    | none => simp
    | some row => simp
  | some role => simp

theorem organizationAdminWorkspace_raises_iff {env : Env} {trail : Trail} :
    Call.Returns (organizationAdminWorkspace env principal trail).alone db (fun _ _ => False) ↔
      ¬Unguarded db (.call (.organizationAdminWorkspace principal trail) env) := by
  simp only [returns_organizationAdminWorkspace, Unguarded, not_and, forall_exists_index]

/-! ## What asks -/

theorem eq_organizationAdmin {role : Role} (h : role.workspaceKind = some "organization") :
    role = .organizationAdmin := by
  cases role <;> simp [Role.workspaceKind] at h ⊢

section Guarded

variable (hdb : Coherent db) (hsuspended : Suspended db principal)
  (horganization : IsOrganization db principal.tenantId)

include hdb hsuspended horganization

theorem transaction_raises {env : Env} {operation : Operation}
    (hprincipal : operation.principal = some principal)
    (hguarded : ¬Unguarded db (.call operation env)) :
    Call.Returns (operation.transaction env).alone db fun _ _ => False := by
  have hopen : ∀ {workspaceId workspace}, ¬Open db principal workspaceId workspace :=
    not_open hdb hsuspended horganization
  cases operation with
  | bootstrapWorkspace => cases hprincipal
  | approveJoinAccess => cases hprincipal
  | changeJoinRole => cases hprincipal
  | authorizeAction other workspaceId action trail requested =>
    obtain rfl : other = principal := Option.some.inj hprincipal
    simp only [Operation.transaction, Program.returns_alone_bind, Program.returns_alone_pure,
      returns_authorizeAction]
    exact fun _ h => (hopen h).elim
  | evaluatePermission other workspaceId permission requested =>
    obtain rfl : other = principal := Option.some.inj hprincipal
    simp only [Operation.transaction, Program.returns_alone_bind, Program.returns_alone_pure]
    exact returns_evaluatePermission fun workspace hfound hactive _ =>
      hsuspended.not_active (hactive (horganization.workspaceKind hdb hfound))
  | authorizeAuditRead other workspaceId trail =>
    obtain rfl : other = principal := Option.some.inj hprincipal
    simp only [Operation.transaction, Program.returns_alone_bind, Program.returns_alone_pure,
      returns_authorizeAuditRead]
    cases workspaceId with
    | some workspaceId => exact fun _ h => (hopen h).elim
    | none =>
      intro row hrow hrole hactive
      obtain ⟨hmem, htenant, -, hstate⟩ := activeRole_mem hrow
      obtain ⟨workspace, hworkspace, hsame, hkind⟩ := horganization
      -- the role is for the workspaces of the organization, so it asks as well
      have hfor := hdb.role row hmem hstate workspace hworkspace (hsame.trans htenant.symm)
      rw [hkind] at hfor
      exact (hsuspended.not_active (hactive (eq_organizationAdmin hfor))).elim
  | organizationAdminWorkspace other trail =>
    obtain rfl : other = principal := Option.some.inj hprincipal
    simp only [Operation.transaction, Program.returns_alone_bind, Program.returns_alone_pure]
    exact organizationAdminWorkspace_raises_iff.2 hguarded
  | setMembership other workspaceId userId role expectedVersion trail =>
    obtain rfl : other = principal := Option.some.inj hprincipal
    simp only [Operation.transaction, setMembership, Program.returns_alone_bind,
      Program.returns_alone_ensure, returns_checkedIds, returns_workspace]
    exact fun _ _ _ h => (hopen h).elim
  | setTenantRole other userId role expectedVersion trail =>
    obtain rfl : other = principal := Option.some.inj hprincipal
    simp only [Operation.transaction, Program.returns_alone_bind, Program.returns_alone_pure]
    exact setTenantRole_raises_iff.2 hguarded
  | setSourceAccess other workspaceId userId sourceVersionId allowed expectedVersion trail =>
    obtain rfl : other = principal := Option.some.inj hprincipal
    simp only [Operation.transaction, setSourceAccess, Program.returns_alone_bind,
      Program.returns_alone_ensure, returns_checkedIds, returns_workspace]
    exact fun _ _ _ h => (hopen h).elim
  | setPermissionPolicy change =>
    obtain rfl : change.principal = principal := Option.some.inj hprincipal
    simp only [Operation.transaction, checkPolicy, Program.returns_alone_bind,
      Program.returns_alone_ensure, Program.returns_alone_ite, returns_checkedIds,
      Program.returns_alone_pure, returns_workspace]
    exact fun _ => ⟨fun _ _ _ h => (hopen h).elim, fun _ _ h => (hopen h).elim⟩
  | registerHistoricalResult other descriptor trail =>
    obtain rfl : other = principal := Option.some.inj hprincipal
    simp only [Operation.transaction, checkRegistration, Program.returns_alone_bind,
      Program.returns_alone_ensure, returns_authorizeAction]
    exact fun _ _ _ h => (hopen h).elim
  | evaluateHistoricalAccess other resultId action trail =>
    obtain rfl : other = principal := Option.some.inj hprincipal
    simp only [Operation.transaction, Program.returns_alone_bind, returns_evaluateHistoricalAccess]
    exact fun _ _ h => (hopen h.within).elim
  | authorizeRerun other resultId trail =>
    obtain rfl : other = principal := Option.some.inj hprincipal
    simp only [Operation.transaction, decideRerun, Program.returns_alone_bind,
      returns_evaluateHistoricalAccess]
    exact fun _ _ h => (hopen h.within).elim

theorem waiting_raises (env : Env) {waiting : Waiting} (hprincipal : waiting.principal = principal) :
    Call.Returns (waiting.transaction env).alone db fun _ _ => False := by
  have hopen : ∀ {workspaceId workspace}, ¬Open db principal workspaceId workspace :=
    not_open hdb hsuspended horganization
  cases waiting with
  | registration other descriptor trail =>
    obtain rfl : other = principal := hprincipal
    simp only [Waiting.transaction, recordResult, Program.returns_alone_bind, returns_workspace]
    exact fun _ h => (hopen h).elim
  | policy change =>
    obtain rfl : change.principal = principal := hprincipal
    simp only [Waiting.transaction, changePolicy, Program.returns_alone_bind,
      Program.returns_alone_ensure, returns_workspace]
    exact fun _ _ h => (hopen h).elim
  | rerun other resultId decision trail =>
    obtain rfl : other = principal := hprincipal
    simp only [Waiting.transaction, Program.returns_alone_bind, returns_snapshotRerun]
    exact fun _ _ h => (hopen h.within).elim

end Guarded

theorem answers_of_unguarded {env : Env} {operation : Operation}
    (h : Unguarded db (.call operation env)) :
    ∃ answer db', transact (operation.transaction env) db = (.ok (.answer answer), db') := by
  have hcall : ∀ {α : Type} {p : Txn α} {f : α → Answer},
      (¬Call.Returns p.alone db fun _ _ => False) →
        ∃ answer db', transact (p >>= fun a => pure (Outcome.answer (f a))) db =
          (.ok (.answer answer), db') := by
    intro α p f hp
    have hnot : ¬Call.Returns (p >>= fun a => pure (Outcome.answer (f a)) : Txn Outcome).alone db
        fun _ _ => False := by
      simpa only [Program.returns_alone_bind, Program.returns_alone_pure] using hp
    obtain ⟨outcome, db', hreturns⟩ := transact_of_not_raises hnot
    have hanswer : Call.Returns (p >>= fun a => pure (Outcome.answer (f a)) : Txn Outcome).alone db
        fun outcome _ => ∃ answer, outcome = .answer answer := by
      simp only [Program.returns_alone_bind, Program.returns_alone_pure]
      exact fun a _ _ => ⟨f a, rfl⟩
    obtain ⟨answer, rfl⟩ := Call.returns_atomically.2 hanswer outcome db' hreturns
    exact ⟨answer, db', hreturns⟩
  cases operation with
  | setTenantRole principal userId role expectedVersion trail =>
    exact hcall fun hraises => setTenantRole_raises_iff.1 hraises h
  | organizationAdminWorkspace principal trail =>
    exact hcall fun hraises => organizationAdminWorkspace_raises_iff.1 hraises h
  | _ => exact h.elim

/-- A step of a member that its organization has suspended fails and changes nothing exactly when it is
not one of the two calls that do not ask, with their own checks met. -/
theorem suspended_refused_iff {s : System} (hs : service.Reachable s)
    (hsuspended : Suspended s.db principal) (horganization : IsOrganization s.db principal.tenantId)
    {input : Input} (hinput : (input.deed s).principal = some principal) :
    ((∃ e, service.answer s input = some (.error e)) ∧ (service.next s input).db = s.db) ↔
      ¬Unguarded s.db input := by
  have hdb := coherent_reachable hs
  constructor
  · rintro ⟨⟨e, hfails⟩, -⟩ hunguarded
    cases input with
    | call operation env =>
      have hreturns : ∃ answer db, transact (operation.transaction env) s.db =
          (.ok (.answer answer), db) := answers_of_unguarded hunguarded
      obtain ⟨answer, db, hreturns⟩ := hreturns
      unfold Machine.answer service at hfails
      simp only [hreturns] at hfails
      cases hfails
    | _ => exact hunguarded.elim
  · intro hguarded
    cases input with
    | abandon n => cases hinput
    | others others => cases hinput
    | call operation env =>
      obtain ⟨e, hraises⟩ := transact_of_raises
        (transaction_raises hdb hsuspended horganization hinput hguarded)
      unfold Machine.answer Machine.next service
      simp only [hraises]
      exact ⟨⟨e, rfl⟩, trivial⟩
    | resume n env =>
      obtain ⟨waiting, hwaiting, hprincipal⟩ := Option.map_eq_some_iff.1 hinput
      obtain ⟨e, hraises⟩ := transact_of_raises (α := Answer)
        (waiting_raises hdb hsuspended horganization env hprincipal)
      unfold Machine.answer Machine.next service
      simp only [hwaiting, hraises]
      exact ⟨⟨e, rfl⟩, trivial⟩

/-! ## A suspended administrator -/

def suspension : List Input :=
  founding .organizationAdmin "organization" ++
    [.others ⟨[], [], [], [⟨"tenant", "owner", "owner", false, none⟩]⟩]

theorem suspended_suspension : Suspended (service.run suspension).db sampleOwner := by
  unfold Suspended
  decide

theorem isOrganization_suspension : IsOrganization (service.run suspension).db "tenant" := by
  have h : ((service.run suspension).db .workspaces).any
      (fun row => row.tenantId = "tenant" && row.workspaceKind = "organization") = true := by
    decide
  obtain ⟨workspace, hmem, hkeys⟩ := List.any_eq_true.1 h
  simp only [Bool.and_eq_true, decide_eq_true_eq] at hkeys
  exact ⟨workspace, hmem, hkeys⟩

theorem suspended_refused_iff_view :
    ((∃ e, service.answer (service.run suspension)
        (.call (.authorizeAction sampleOwner "workspace" .view sampleTrail []) (sampleEnv "view")) =
          some (.error e)) ∧
      (service.next (service.run suspension)
        (.call (.authorizeAction sampleOwner "workspace" .view sampleTrail []) (sampleEnv "view"))).db =
          (service.run suspension).db) ↔
      ¬Unguarded (service.run suspension).db
        (.call (.authorizeAction sampleOwner "workspace" .view sampleTrail []) (sampleEnv "view")) :=
  suspended_refused_iff ⟨suspension, rfl⟩ suspended_suspension isOrganization_suspension rfl

/-- A suspended administrator gives the tenant role to somebody else. -/
theorem suspended_sets_tenant_role :
    ¬∀ s, service.Reachable s → ∀ principal, Suspended s.db principal →
      IsOrganization s.db principal.tenantId → ∀ input : Input,
        (input.deed s).principal = some principal →
          (∃ e, service.answer s input = some (.error e)) ∧ (service.next s input).db = s.db := by
  intro h
  obtain ⟨⟨e, hfails⟩, -⟩ := h _ ⟨suspension, rfl⟩ sampleOwner suspended_suspension
    isOrganization_suspension (.call (.setTenantRole sampleOwner "friend" (some .organizationAdmin) 0
      sampleTrail) (sampleEnv "friend")) rfl
  have hreturns : service.answer (service.run suspension)
      (.call (.setTenantRole sampleOwner "friend" (some .organizationAdmin) 0 sampleTrail)
        (sampleEnv "friend")) = some (.ok (.version 1)) := by
    decide
  rw [hreturns] at hfails
  cases hfails

end DaonUser.Authorization
