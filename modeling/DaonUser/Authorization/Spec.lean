import DaonUser.Authorization.Changes

/-!
# Authorization: what the transactions have met and written

A transaction that runs alone reads one state of the database: each reading program has one rule that says
what it finds there. `Effect` sums up the transactions that write: what each has checked of the state before
it and the rows that it leaves.
-/

namespace DaonUser.Authorization

open Lib

variable {ids : List String} {workspaceId : String} {requested : List Permission}

variable {α : Type} {env : Env} {principal : IdentityPrincipal} {trail : Trail} {db : Db}
  {V : α → Db → Prop} {W : Unit → Db → Prop}

/-! ## The rules of the shared statements -/

@[simp] theorem returns_checkedIds {values : List String} :
    Call.Returns (checkedIds values).alone db W ↔ (values.all isSafeId = true → W () db) :=
  Program.returns_alone_ensure

@[simp] theorem returns_workflowIds {values : List String} :
    Call.Returns (workflowIds values).alone db W ↔ (values.all isWorkflowId = true → W () db) :=
  Program.returns_alone_ensure

def Auditable (env : Env) (principal : IdentityPrincipal) (trail : Trail) (ids : List String) :
    Prop :=
  ([principal.userId, principal.tenantId] ++ ids ++ [trail.traceId, trail.policyVersion]).all
    isSafeId = true ∧ env.audits = true

instance (ids : List String) : Decidable (Auditable env principal trail ids) :=
  inferInstanceAs (Decidable (_ ∧ _))

@[simp] theorem returns_audit :
    Call.Returns (audit env principal trail ids).alone db W ↔
      (Auditable env principal trail ids → W () db) := by
  simp only [audit, Program.returns_alone_bind, returns_checkedIds, Program.returns_alone_ensure,
    Auditable, and_imp]

@[simp] theorem returns_deny {e : AuthorizationError} :
    Call.Returns (deny env principal trail ids e).alone db V := by
  simp [deny]

@[simp] theorem returns_denyUnless {c : Prop} [Decidable c] {e : AuthorizationError} :
    Call.Returns (denyUnless c env principal trail ids e).alone db W ↔ (c → W () db) := by
  simp [denyUnless]

/-! ## What is read -/

/-- A principal that the organization workflow has not suspended. -/
def OrganizationActive (db : Db) (principal : IdentityPrincipal) : Prop :=
  [principal.tenantId, principal.userId].all isWorkflowId = true ∧
    (workflowRow db principal.tenantId principal.userId).all (·.active) = true

@[simp] theorem returns_assertOrganizationActive :
    Call.Returns (assertOrganizationActive principal).alone db W ↔
      (OrganizationActive db principal → W () db) := by
  simp only [assertOrganizationActive, Program.returns_alone_bind, returns_workflowIds,
    Program.returns_alone_read, Program.returns_alone_ensure, OrganizationActive, and_imp]

/-- A workspace that `_workspace` lets its caller work in. -/
structure Open (db : Db) (principal : IdentityPrincipal) (workspaceId : String)
    (row : WorkspaceRow) : Prop where
  safe : [principal.tenantId, workspaceId].all isSafeId = true
  found : workspaceRow db principal.tenantId workspaceId = some row
  active : row.workspaceKind = "organization" → OrganizationActive db principal

@[simp] theorem returns_workspace {V : WorkspaceRow → Db → Prop} :
    Call.Returns (workspace env principal workspaceId trail).alone db V ↔
      ∀ row, Open db principal workspaceId row → V row db := by
  simp only [workspace, Program.returns_alone_bind, returns_checkedIds, Program.returns_alone_read]
  cases hfound : workspaceRow db principal.tenantId workspaceId with
  | none =>
    simp only [returns_deny, implies_true, true_iff]
    intro row hopen
    rw [hopen.found] at hfound
    cases hfound
  | some row =>
    simp only [Program.returns_alone_bind, Program.returns_alone_ite,
      returns_assertOrganizationActive, Program.returns_alone_pure]
    constructor
    · intro h row' hopen
      obtain rfl : row = row' := Option.some.inj (hfound.symm.trans hopen.found)
      by_cases hkind : row.workspaceKind = "organization"
      · exact (h hopen.safe).1 hkind (hopen.active hkind)
      · exact (h hopen.safe).2 hkind
    · intro h hsafe
      refine ⟨fun hkind hactive => h row ⟨hsafe, hfound, fun _ => hactive⟩, fun hkind => ?_⟩
      exact h row ⟨hsafe, hfound, fun hkind' => absurd hkind' hkind⟩

def activeRole (db : Db) (principal : IdentityPrincipal) : Option TenantRoleRow :=
  (tenantRoleRow db principal.tenantId principal.userId).filter fun row => row.state = .active

def activeMembership (db : Db) (principal : IdentityPrincipal) (workspaceId : String) :
    Option MembershipRow :=
  (membershipRow db principal.tenantId workspaceId principal.userId).filter
    fun row => row.state = .active

@[simp] theorem returns_tenantRole {V : Option TenantRoleRow → Db → Prop} :
    Call.Returns (tenantRole principal).alone db V ↔ V (activeRole db principal) db :=
  Program.returns_alone_read

@[simp] theorem returns_membership {V : Option MembershipRow → Db → Prop} :
    Call.Returns (membership principal workspaceId).alone db V ↔
      V (activeMembership db principal workspaceId) db :=
  Program.returns_alone_read

def TenantRoleRow.binding (row : TenantRoleRow) (workspace : WorkspaceRow) : Option RoleBinding :=
  if row.role.workspaceKind = some workspace.workspaceKind then
    some { role := row.role, scope := .tenant, version := row.version }
  else none

def MembershipRow.binding (row : MembershipRow) : Option RoleBinding :=
  if row.role ∈ workspaceRoles then
    some { role := row.role, scope := .workspace, version := row.version }
  else none

/-- What `_role_binding` finds. -/
def bindingOf (db : Db) (principal : IdentityPrincipal) (workspace : WorkspaceRow) :
    Option RoleBinding :=
  match activeRole db principal with
  | some row => row.binding workspace
  | none => (activeMembership db principal workspace.workspaceId).bind MembershipRow.binding

theorem bindingOf_eq_some {workspace : WorkspaceRow} {binding : RoleBinding}
    (h : bindingOf db principal workspace = some binding) :
    (∃ row, activeRole db principal = some row ∧ row.role.workspaceKind = some workspace.workspaceKind ∧
      binding = { role := row.role, scope := .tenant, version := row.version }) ∨
    (activeRole db principal = none ∧
      ∃ row, activeMembership db principal workspace.workspaceId = some row ∧ row.role ∈ workspaceRoles ∧
        binding = { role := row.role, scope := .workspace, version := row.version }) := by
  unfold bindingOf at h
  cases hrole : activeRole db principal with
  | some row =>
    rw [hrole] at h
    simp only [TenantRoleRow.binding, Option.ite_none_right_eq_some, Option.some.injEq] at h
    exact Or.inl ⟨row, rfl, h.1, h.2.symm⟩
  | none =>
    rw [hrole] at h
    obtain ⟨row, hrow, h⟩ := Option.bind_eq_some_iff.1 h
    simp only [MembershipRow.binding, Option.ite_none_right_eq_some, Option.some.injEq] at h
    exact Or.inr ⟨rfl, row, hrow, h.1, h.2.symm⟩

@[simp] theorem returns_roleBinding {workspace : WorkspaceRow} {V : Option RoleBinding → Db → Prop} :
    Call.Returns (roleBinding principal workspace).alone db V ↔
      V (bindingOf db principal workspace) db := by
  simp only [roleBinding, Program.returns_alone_bind, returns_tenantRole, bindingOf]
  cases activeRole db principal with
  | some row =>
    simp only [Program.returns_alone_ite, Program.returns_alone_pure, TenantRoleRow.binding]
    split <;> simp [*]
  | none =>
    simp only [Program.returns_alone_bind, returns_membership]
    cases activeMembership db principal workspace.workspaceId with
    | none => simp
    | some row =>
      simp only [Program.returns_alone_ite, Program.returns_alone_pure, MembershipRow.binding,
        Option.bind_some]
      split <;> simp [*]

/-- What `_policy_versions` finds. -/
def policyVersionOf (db : Db) (tenantId workspaceId : String) : String :=
  policyVersionText (versionOf PolicyRow.version (policyRow db tenantId none))
    (versionOf PolicyRow.version (policyRow db tenantId (some workspaceId)))

@[simp] theorem returns_policyVersions {tenantId : String} {V : String → Db → Prop} :
    Call.Returns (policyVersions tenantId workspaceId).alone db V ↔
      V (policyVersionOf db tenantId workspaceId) db := by
  simp only [policyVersions, Program.returns_alone_bind, Program.returns_alone_read,
    Program.returns_alone_pure, policyVersionOf]

/-- What `_effective_permission` finds of a permission that is asked for. -/
def permissionOf (db : Db) (role : Role) (tenantId workspaceId : String) (permission : Permission) :
    EffectivePermission :=
  ruling role permission (ruleRow db tenantId none permission)
    (ruleRow db tenantId (some workspaceId) permission) (policyVersionOf db tenantId workspaceId)

@[simp] theorem returns_effectivePermission {role : Role} {tenantId : String}
    {permission : Permission} {V : EffectivePermission → Db → Prop} :
    Call.Returns (effectivePermission role tenantId workspaceId permission true).alone db V ↔
      V (permissionOf db role tenantId workspaceId permission) db := by
  simp only [effectivePermission, Program.returns_alone_bind, returns_policyVersions, if_true,
    Program.returns_alone_read, Program.returns_alone_pure, permissionOf]

@[simp] theorem returns_effectivePermissions {role : Role} {tenantId : String}
    {permissions : List Permission} {V : List EffectivePermission → Db → Prop} :
    Call.Returns (effectivePermissions role tenantId workspaceId permissions).alone db V ↔
      V (permissions.map (permissionOf db role tenantId workspaceId)) db := by
  induction permissions generalizing V with
  | nil => simp [effectivePermissions]
  | cons permission permissions ih =>
    simp only [effectivePermissions, Program.returns_alone_bind, returns_effectivePermission, ih,
      Program.returns_alone_pure, List.map_cons]

def needed (action : Action) (requested : List Permission) : List Permission :=
  (action.permissions ++ requested).eraseDups

/-- What `_action_grant` finds for a binding. -/
def RoleBinding.grant (db : Db) (principal : IdentityPrincipal) (workspace : WorkspaceRow)
    (action : Action) (requested : List Permission) (binding : RoleBinding) :
    Option AuthorizationGrant :=
  let effective := (needed action requested).map
    (permissionOf db binding.role principal.tenantId workspace.workspaceId)
  if binding.role.may action = true ∧ effective.all (·.effective) = true then
    some
      { actorId := principal.userId, tenantId := principal.tenantId,
        workspaceId := workspace.workspaceId, role := binding.role, roleScope := binding.scope,
        action, effectivePermissions := effective,
        requiredStepUpAction := requiredStepUp action (needed action requested),
        membershipVersion := binding.version, aclVersion := workspace.aclVersion,
        policyVersion := policyVersionOf db principal.tenantId workspace.workspaceId }
  else none

@[simp] theorem returns_actionGrant {workspace : WorkspaceRow} {binding : Option RoleBinding}
    {action : Action} {V : Option AuthorizationGrant → Db → Prop} :
    Call.Returns (actionGrant principal workspace binding action requested).alone db V ↔
      V (binding.bind (RoleBinding.grant db principal workspace action requested)) db := by
  cases binding with
  | none => simp [actionGrant]
  | some binding =>
    simp only [actionGrant, Program.returns_alone_ite, Program.returns_alone_bind,
      returns_effectivePermissions, returns_policyVersions, Program.returns_alone_pure,
      Option.bind_some, RoleBinding.grant, needed]
    by_cases hmay : binding.role.may action = true
    · by_cases heff : (((action.permissions ++ requested).eraseDups.map (permissionOf db binding.role
          principal.tenantId workspace.workspaceId)).all (·.effective)) = true
      · simp only [hmay, heff, true_implies, not_true, false_implies, and_true, and_self, if_true]
      · simp only [hmay, heff, Bool.false_eq_true, false_implies, true_implies, not_false_iff,
          not_true, true_and, and_true, and_false, if_false]
    · simp only [hmay, Bool.false_eq_true, false_implies, true_implies, not_false_iff, true_and,
        false_and, if_false]

/-- What `authorize_action` finds. -/
def grantOf (db : Db) (principal : IdentityPrincipal) (workspace : WorkspaceRow) (action : Action)
    (requested : List Permission) : Option AuthorizationGrant :=
  (bindingOf db principal workspace).bind (RoleBinding.grant db principal workspace action requested)

theorem returns_grant {workspace : WorkspaceRow} {action : Action}
    {V : Option AuthorizationGrant → Db → Prop} :
    Call.Returns (actionGrant principal workspace (bindingOf db principal workspace) action
      requested).alone db V ↔ V (grantOf db principal workspace action requested) db :=
  returns_actionGrant

@[simp] theorem returns_authorizeAction {action : Action} {V : AuthorizationGrant → Db → Prop} :
    Call.Returns (authorizeAction env principal workspaceId action trail requested).alone db V ↔
      ∀ row, Open db principal workspaceId row → ∀ grant,
        grantOf db principal row action requested = some grant →
          Auditable env principal trail [workspaceId] → V grant db := by
  simp only [authorizeAction, Program.returns_alone_bind, returns_workspace, returns_roleBinding,
    returns_grant]
  refine forall₂_congr fun row _ => ?_
  cases grantOf db principal row action requested with
  | none => simp
  | some grant => simp

@[simp] theorem returns_bindingWithin {found : Option WorkspaceRow} {V : Option RoleBinding → Db → Prop} :
    Call.Returns (bindingWithin principal found).alone db V ↔
      V (found.bind (bindingOf db principal)) db := by
  cases found with
  | none => simp [bindingWithin]
  | some row => simp [bindingWithin]

theorem returns_evaluatePermission {permission : Permission}
    {requested : Bool} {V : EffectivePermission → Db → Prop}
    (h : ∀ row, workspaceRow db principal.tenantId workspaceId = some row →
      (row.workspaceKind = "organization" → OrganizationActive db principal) →
        ∀ answer, V answer db) :
    Call.Returns (evaluatePermission principal workspaceId permission requested).alone db V := by
  simp only [evaluatePermission, Program.returns_alone_bind, returns_checkedIds,
    Program.returns_alone_read, returns_bindingWithin, Program.returns_alone_require,
    Program.returns_alone_ite, returns_assertOrganizationActive]
  intro _ row hrow
  have hanswer (binding : RoleBinding)
      (hactive : row.workspaceKind = "organization" → OrganizationActive db principal) :
      Call.Returns (effectivePermission binding.role principal.tenantId workspaceId permission
        requested).alone db V := by
    cases requested with
    | true => simpa only [returns_effectivePermission] using h row hrow hactive _
    | false => simpa [effectivePermission] using h row hrow hactive _
  constructor
  · intro _ hactive binding _
    exact hanswer binding fun _ => hactive
  · intro hkind binding _
    exact hanswer binding fun hkind' => absurd hkind' hkind

theorem returns_authorizeAuditRead {workspaceId : Option String} {V : Unit → Db → Prop} :
    Call.Returns (authorizeAuditRead env principal workspaceId trail).alone db V ↔
      match workspaceId with
      | some workspaceId => ∀ row, Open db principal workspaceId row → ∀ grant,
          grantOf db principal row .view [] = some grant →
            Auditable env principal trail [workspaceId] → V () db
      | none => ∀ row, activeRole db principal = some row → row.role ∈ tenantRoles →
          (row.role = .organizationAdmin → OrganizationActive db principal) →
            Auditable env principal trail [] → V () db := by
  cases workspaceId with
  | some workspaceId =>
    simp only [authorizeAuditRead, Program.returns_alone_bind, returns_authorizeAction,
      Program.returns_alone_pure]
  | none =>
    simp only [authorizeAuditRead, Program.returns_alone_bind, returns_tenantRole,
      Program.returns_alone_ite, returns_assertOrganizationActive, returns_audit, returns_deny]
    cases activeRole db principal with
    | none => simp
    | some row =>
      simp only [Option.map_some, Option.some.injEq, Option.any_some, decide_eq_true_eq,
        implies_true, and_true, forall_eq']
      by_cases hrole : row.role = .organizationAdmin
      · simp [hrole, tenantRoles]
      · simp [hrole]

theorem returns_organizationAdminWorkspace {V : String → Db → Prop} :
    Call.Returns (organizationAdminWorkspace env principal trail).alone db V ↔
      ∀ workspaceId, roleWorkspaces db principal.tenantId
        ((activeRole db principal).map (·.role)) = [workspaceId] →
          Auditable env principal trail [] → V workspaceId db := by
  simp only [organizationAdminWorkspace, Program.returns_alone_bind, returns_tenantRole,
    Program.returns_alone_read]
  generalize roleWorkspaces db principal.tenantId ((activeRole db principal).map (·.role)) = candidates
  cases candidates with
  | nil => simp
  | cons _ rest => cases rest <;> simp

/-! ## Historical results -/

def ResultRow.descriptor (db : Db) (row : ResultRow) : HistoricalResultDescriptor where
  resultId := row.resultId
  resultKind := row.resultKind
  tenantId := row.tenantId
  workspaceId := row.workspaceId
  sourceVersionIds := row.sourceVersionIds
  evidenceReferenceIds := row.evidenceReferenceIds
  dependencies := (((db .resultDependencies).filter fun other => other.resultId = row.resultId).map
    (·.dependency)).insertionSort fun a b => a.referenceId ≤ b.referenceId
  originalPolicyVersion := row.originalPolicyVersion
  originalMembershipVersion := row.originalMembershipVersion

/-- What `_find_descriptor_for_principal` finds. -/
def descriptorOf (db : Db) (tenantId resultId : String) : Option HistoricalResultDescriptor :=
  ((db .historicalResults).find? fun row => row.tenantId = tenantId && row.resultId = resultId).map
    (ResultRow.descriptor db)

@[simp] theorem returns_findDescriptor {resultId : String} {V : HistoricalResultDescriptor → Db → Prop} :
    Call.Returns (findDescriptor env principal resultId trail).alone db V ↔
      (isSafeId resultId = true → ∀ descriptor,
        descriptorOf db principal.tenantId resultId = some descriptor → V descriptor db) := by
  simp only [findDescriptor, Program.returns_alone_bind, returns_checkedIds,
    Program.returns_alone_read, descriptorOf, List.all_cons, List.all_nil, Bool.and_true]
  generalize hfound : (db .historicalResults).find?
    (fun row => row.tenantId = principal.tenantId && row.resultId = resultId) = found
  cases found with
  | none => simp
  | some row =>
    have hid : row.resultId = resultId := by
      have := List.find?_some hfound
      simp only [Bool.and_eq_true, decide_eq_true_eq] at this
      exact this.2
    simp only [Program.returns_alone_bind, Program.returns_alone_read, Program.returns_alone_pure,
      Option.map_some, Option.some.injEq, forall_eq', ResultRow.descriptor, hid]

def sourceOpen (db : Db) (tenantId workspaceId userId sourceVersionId : String) : Bool :=
  sourceAllowed (sourceRow db tenantId workspaceId userId sourceVersionId)

def reviewed (isOpen : String → Bool) (dependencies : List EvidenceDependency) : Findings :=
  dependencies.foldl (fun found dependency => found.add dependency (isOpen dependency.sourceVersionId))
    {}

@[simp] theorem returns_review {dependencies : List EvidenceDependency}
    {found : Findings} {V : Findings → Db → Prop} :
    Call.Returns (review principal workspaceId dependencies found).alone db V ↔
      V (dependencies.foldl (fun found dependency => found.add dependency
        (sourceOpen db principal.tenantId workspaceId principal.userId dependency.sourceVersionId))
          found) db := by
  induction dependencies generalizing found with
  | nil => simp [review]
  | cons dependency dependencies ih =>
    simp only [review, Program.returns_alone_bind, Program.returns_alone_read, ih, List.foldl_cons,
      sourceOpen]

/-- What `evaluate_historical_access` finds of a result. -/
def findingsOf (db : Db) (principal : IdentityPrincipal) (workspace : WorkspaceRow)
    (descriptor : HistoricalResultDescriptor) (action : AccessAction) : Findings :=
  match grantOf db principal workspace action.base [] with
  | none => descriptor.blocked
  | some _ => reviewed
      (sourceOpen db principal.tenantId descriptor.workspaceId principal.userId)
      descriptor.dependencies

theorem returns_findings {workspace : WorkspaceRow} {descriptor : HistoricalResultDescriptor}
    {action : AccessAction} {V : Findings → Db → Prop} :
    Call.Returns (findings principal descriptor
      (grantOf db principal workspace action.base [])).alone db V ↔
        V (findingsOf db principal workspace descriptor action) db := by
  rw [findingsOf]
  cases grantOf db principal workspace action.base [] with
  | none => simp [findings]
  | some grant => simp [findings, reviewed]

/-- The decision of `evaluate_historical_access`. -/
def decisionOf (db : Db) (env : Env) (principal : IdentityPrincipal) (workspace : WorkspaceRow)
    (descriptor : HistoricalResultDescriptor) (action : AccessAction) : AccessDecision :=
  let binding := bindingOf db principal workspace
  let found := findingsOf db principal workspace descriptor action
  { decisionId := "acd-" ++ env.token, actorId := principal.userId, action,
    resourceId := descriptor.resultId, tenantId := principal.tenantId,
    workspaceId := descriptor.workspaceId, roleScope := binding.map (·.scope),
    membershipVersion := versionOf RoleBinding.version binding, aclVersion := workspace.aclVersion,
    policyVersion := policyVersionOf db principal.tenantId descriptor.workspaceId,
    evaluatedAt := env.now, state := found.state, reasonCodes := found.reasonCodes,
    allowedReferenceIds := sorted found.allowedReferences,
    maskedReferenceIds := sorted found.maskedReferences,
    allowedSegmentIds := sorted found.allowedSegments,
    maskedSegmentIds := sorted found.maskedSegments }

structure Meets (db : Db) (principal : IdentityPrincipal) (resultId : String)
    (descriptor : HistoricalResultDescriptor) (workspace : WorkspaceRow) : Prop where
  safe : isSafeId resultId = true
  found : descriptorOf db principal.tenantId resultId = some descriptor
  within : Open db principal descriptor.workspaceId workspace

@[simp] theorem returns_evaluateHistoricalAccess {resultId : String} {action : AccessAction}
    {V : AccessDecision → Db → Prop} :
    Call.Returns (evaluateHistoricalAccess env principal resultId action trail).alone db V ↔
      ∀ descriptor workspace, Meets db principal resultId descriptor workspace →
        ∀ decision, decision = decisionOf db env principal workspace descriptor action →
          db.Admits .accessDecisions decision →
            Auditable env principal trail [descriptor.workspaceId, decision.decisionId] →
              V decision (db.insert .accessDecisions decision) := by
  simp only [evaluateHistoricalAccess, Program.returns_alone_bind, returns_findDescriptor,
    returns_workspace, returns_roleBinding, returns_grant, returns_findings,
    returns_policyVersions, Program.returns_alone_insertRow, returns_audit,
    Program.returns_alone_pure, forall_eq]
  constructor
  · rintro h descriptor workspace ⟨hsafe, hfound, hwithin⟩ hadmits hauditable
    exact h hsafe descriptor hfound workspace hwithin hadmits hauditable
  · intro h hsafe descriptor hfound workspace hwithin hadmits hauditable
    exact h descriptor workspace ⟨hsafe, hfound, hwithin⟩ hadmits hauditable

/-- The snapshot of `authorize_rerun`. -/
def snapshotOf (principal : IdentityPrincipal) (workspace : WorkspaceRow)
    (descriptor : HistoricalResultDescriptor) (binding : RoleBinding) (decision : AccessDecision) :
    RerunSnapshot where
  tenantId := principal.tenantId
  workspaceId := descriptor.workspaceId
  actorId := principal.userId
  roleScope := binding.scope
  membershipVersion := binding.version
  aclVersion := workspace.aclVersion
  policyVersion := decision.policyVersion
  dataArea := workspace.dataArea
  costLimitCents := workspace.costLimitCents
  sourceVersionIds := sorted ((descriptor.dependencies.filter fun dependency =>
    dependency.referenceId ∈ decision.allowedReferenceIds).map (·.sourceVersionId)).dedup

@[simp] theorem returns_snapshotRerun {resultId : String} {decision : AccessDecision}
    {V : RerunAuthorization → Db → Prop} :
    Call.Returns (snapshotRerun env principal resultId decision trail).alone db V ↔
      ∀ descriptor workspace, Meets db principal resultId descriptor workspace →
        ∀ binding, bindingOf db principal workspace = some binding →
          ∀ rerun : RerunRow, rerun = ⟨"rrq-" ++ env.token, descriptor.resultId, decision.decisionId,
              snapshotOf principal workspace descriptor binding decision⟩ →
            db.Admits .rerunRequests rerun →
              Auditable env principal trail [descriptor.workspaceId, rerun.runRequestId] →
                V ⟨rerun.runRequestId, decision.decisionId, rerun.snapshot⟩
                  (db.insert .rerunRequests rerun) := by
  simp only [snapshotRerun, Program.returns_alone_bind, returns_findDescriptor, returns_workspace,
    returns_roleBinding, Program.returns_alone_require, Program.returns_alone_insertRow,
    returns_audit, Program.returns_alone_pure, forall_eq]
  constructor
  · rintro h descriptor workspace ⟨hsafe, hfound, hwithin⟩ binding hbinding hadmits hauditable
    exact h hsafe descriptor hfound workspace hwithin binding hbinding hadmits hauditable
  · intro h hsafe descriptor hfound workspace hwithin binding hbinding hadmits hauditable
    exact h descriptor workspace ⟨hsafe, hfound, hwithin⟩ binding hbinding hadmits hauditable

end DaonUser.Authorization
