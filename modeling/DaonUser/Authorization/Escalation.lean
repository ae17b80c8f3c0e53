import DaonUser.Authorization.Owners
import DaonUser.Authorization.Versions

/-!
# Authorization: what a principal can give itself

`set_membership` compares the role of the caller with the role that it gives, and the policies are
open to whoever manages the workspace. A principal that acts alone gains an action only in these two
ways, and only where it held a managing role at the start.
-/

namespace DaonUser.Authorization

open Lib

variable {workspace workspace' : WorkspaceRow} {binding : RoleBinding} {s : System}

/-- `authorize_action` grants the action, in some moment and under some trace. -/
def Grants (db : Db) (principal : IdentityPrincipal) (workspaceId : String) (action : Action)
    (requested : List Permission) : Prop :=
  ∃ env trail grant,
    (transact (authorizeAction env principal workspaceId action trail requested) db).1 = .ok grant

/-- A step of a history in which a principal acts alone: a transaction of one of its calls, the end of
a call that waits, or a change of the identity and organization services that leaves the principal as
it is to them. -/
def Alone (principal : IdentityPrincipal) (s : System) (input : Input) : Prop :=
  (input.deed s).principal = some principal ∨ (∃ n, input = .abandon n) ∨
    ∃ others : Others, input = .others others ∧
      workflowRow (others.rows s.db) principal.tenantId principal.userId =
        workflowRow s.db principal.tenantId principal.userId

variable {db db' db₀ : Db} {principal : IdentityPrincipal} {workspaceId : String} {action : Action}
  {requested : List Permission}

/-! ## What a grant rests on -/

theorem grants_iff : Grants db principal workspaceId action requested ↔
    isSafeId principal.userId = true ∧ ∃ workspace, Open db principal workspaceId workspace ∧
      (grantOf db principal workspace action requested).isSome = true := by
  constructor
  · rintro ⟨env, trail, grant, hreturns⟩
    have hrule : Call.Returns
        (authorizeAction env principal workspaceId action trail requested).alone db fun _ _ =>
        isSafeId principal.userId = true ∧ ∃ workspace, Open db principal workspaceId workspace ∧
          (grantOf db principal workspace action requested).isSome = true := by
      simp only [returns_authorizeAction]
      intro workspace hopen grant hgrant hauditable
      refine ⟨?_, workspace, hopen, by rw [hgrant, Option.isSome_some]⟩
      have hsafe := hauditable.1
      simp only [List.cons_append, List.all_cons, Bool.and_eq_true] at hsafe
      exact hsafe.1
    exact Call.returns_atomically.2 hrule grant _ (Prod.ext hreturns rfl)
  · rintro ⟨huser, workspace, hopen, hgrant⟩
    obtain ⟨grant, hgrant⟩ := Option.isSome_iff_exists.1 hgrant
    have hsafe := hopen.safe
    simp only [List.all_cons, List.all_nil, Bool.and_eq_true] at hsafe
    have hraises : ¬Call.Returns (authorizeAction { now := 0, token := "", audits := true } principal
        workspaceId action ⟨"trace", "policy"⟩ requested).alone db fun _ _ => False := by
      simp only [returns_authorizeAction]
      intro hraises
      refine hraises workspace hopen grant hgrant ⟨?_, rfl⟩
      simp only [List.cons_append, List.nil_append, List.all_cons, List.all_nil, Bool.and_eq_true]
      exact ⟨huser, hsafe.1, hsafe.2.1, by decide, by decide, trivial⟩
    obtain ⟨grant', db', hreturns⟩ := transact_of_not_raises hraises
    exact ⟨_, _, grant', by rw [hreturns]⟩

theorem effective_ruling {role role' : Role} {permission : Permission}
    {tenantRule workspaceRule : Option RuleRow} {version version' : String}
    (hrole : role.grants permission = true → role'.grants permission = true)
    (h : (ruling role permission tenantRule workspaceRule version).effective = true) :
    (ruling role' permission tenantRule workspaceRule version').effective = true := by
  unfold ruling at h ⊢
  cases tenantRule with
  | none =>
    cases workspaceRule with
    | none => exact hrole h
    | some rule => exact h
  | some rule =>
    simp only at h ⊢
    split
    · next hlocked =>
      rw [if_pos hlocked] at h
      exact h
    · next hopen =>
      rw [if_neg hopen] at h
      cases workspaceRule with
      | none => rfl
      | some rule' => exact h

def SameRules (db db' : Db) (tenantId workspaceId : String) : Prop :=
  ruleRow db' tenantId none = ruleRow db tenantId none ∧
    ruleRow db' tenantId (some workspaceId) = ruleRow db tenantId (some workspaceId)

theorem isSome_grantOf_iff :
    (grantOf db principal workspace action requested).isSome = true ↔
      ∃ binding, bindingOf db principal workspace = some binding ∧ binding.role.may action = true ∧
        ∀ permission ∈ needed action requested, (permissionOf db binding.role principal.tenantId
          workspace.workspaceId permission).effective = true := by
  unfold grantOf
  cases bindingOf db principal workspace with
  | none => simp
  | some binding =>
    simp only [Option.bind_some, RoleBinding.grant, Option.some.injEq, exists_eq_left',
      List.all_map, List.all_eq_true, Function.comp_apply]
    split <;> simp_all

/-- A role that may do whatever another may, by itself. -/
structure Role.Covers (role role' : Role) : Prop where
  may : ∀ action, role'.may action = true → role.may action = true
  grants : ∀ permission, role'.grants permission = true → role.grants permission = true

theorem covers_tenantRole {role role' : Role} (h : role.workspaceKind.isSome = true) :
    role.Covers role' := by
  cases role with
  | personalOwner => exact ⟨fun _ _ => rfl, fun _ _ => rfl⟩
  | organizationAdmin => exact ⟨fun _ _ => rfl, fun _ _ => rfl⟩
  | _ => cases h

theorem grant_of_covers (hid : workspace'.workspaceId = workspace.workspaceId)
    (hrules : SameRules db db' principal.tenantId workspace.workspaceId) {binding' : RoleBinding}
    (hbinding : bindingOf db principal workspace = some binding)
    (hbinding' : bindingOf db' principal workspace' = some binding')
    (hcovers : binding.role.Covers binding'.role)
    (h : (grantOf db' principal workspace' action requested).isSome = true) :
    (grantOf db principal workspace action requested).isSome = true := by
  obtain ⟨other, hother, hmay, hall⟩ := isSome_grantOf_iff.1 h
  obtain rfl : other = binding' := Option.some.inj (hother.symm.trans hbinding')
  refine isSome_grantOf_iff.2 ⟨binding, hbinding, hcovers.may action hmay, fun permission hmem => ?_⟩
  have heffective := hall permission hmem
  unfold permissionOf at heffective ⊢
  rw [hid, hrules.1, hrules.2] at heffective
  exact effective_ruling (hcovers.grants permission) heffective

/-! ## Acting alone -/

def Manages (db : Db) (principal : IdentityPrincipal) (workspaceId : String) : Prop :=
  ∃ workspace binding, workspaceRow db principal.tenantId workspaceId = some workspace ∧
    bindingOf db principal workspace = some binding ∧ binding.manages = true

/-- What no step of a principal that acts alone changes. -/
structure Standing (principal : IdentityPrincipal) (workspaceId : String) (db db' : Db) : Prop where
  workspace : (workspaceRow db' principal.tenantId workspaceId).map
      (fun row => (row.workspaceId, row.workspaceKind)) =
    (workspaceRow db principal.tenantId workspaceId).map fun row => (row.workspaceId, row.workspaceKind)
  workflow : workflowRow db' principal.tenantId principal.userId =
    workflowRow db principal.tenantId principal.userId
  role : activeRole db principal = none → activeRole db' principal = none

/-- What it changes only while it manages the workspace. -/
structure Unmoved (principal : IdentityPrincipal) (workspaceId : String) (db db' : Db) : Prop where
  member : membershipRow db' principal.tenantId workspaceId principal.userId =
    membershipRow db principal.tenantId workspaceId principal.userId
  rules : SameRules db db' principal.tenantId workspaceId

theorem standing_of_eq (hworkspaces : db' .workspaces = db .workspaces)
    (hworkflow : db' .workflow = db .workflow) (hroles : db' .tenantRoles = db .tenantRoles) :
    Standing principal workspaceId db db' where
  workspace := by simp only [workspaceRow, hworkspaces]
  workflow := by simp only [workflowRow, hworkflow]
  role h := by simpa only [activeRole, tenantRoleRow, hroles] using h

theorem unmoved_of_eq (hmembers : db' .memberships = db .memberships)
    (hrules : db' .rules = db .rules) : Unmoved principal workspaceId db db' where
  member := by simp only [membershipRow, hmembers]
  rules := ⟨ruleRow_congr hrules, ruleRow_congr hrules⟩

theorem Standing.trans (h : Standing principal workspaceId db₀ db)
    (h' : Standing principal workspaceId db db') : Standing principal workspaceId db₀ db' where
  workspace := h'.workspace.trans h.workspace
  workflow := h'.workflow.trans h.workflow
  role hrole := h'.role (h.role hrole)

theorem Unmoved.trans (h : Unmoved principal workspaceId db₀ db)
    (h' : Unmoved principal workspaceId db db') : Unmoved principal workspaceId db₀ db' where
  member := h'.member.trans h.member
  rules := ⟨h'.rules.1.trans h.rules.1, h'.rules.2.trans h.rules.2⟩

theorem Standing.aclRaised {tenantId' workspaceId' : String} (h : Standing principal workspaceId db db') :
    Standing principal workspaceId db (aclRaised tenantId' workspaceId' db') where
  workspace := by
    rw [workspaceRow_aclRaised, ← h.workspace, Option.map_map]
    congr 1
    funext row
    simp only [Function.comp_apply]
    split <;> rfl
  workflow := h.workflow
  role hrole := h.role hrole

theorem standing_change {deed : Deed} (h : Change db deed db')
    (hprincipal : deed.principal = some principal) : Standing principal workspaceId db db' := by
  cases h with
  | same => exact standing_of_eq rfl rfl rfl
  | memberSet =>
    exact (standing_of_eq (by simp) (by simp) (by simp)).aclRaised
  | sourceSet => exact (standing_of_eq (by simp) (by simp) (by simp)).aclRaised
  | @tenantRoleSet actor' actor row htenant hactor hrole hversion =>
    obtain rfl : actor' = principal := Option.some.inj hprincipal
    have hworkspaces : (db.upsert .tenantRoles row fun _ => row : Db) .workspaces = db .workspaces :=
      Database.upsert_of_ne (by decide)
    have hworkflow : (db.upsert .tenantRoles row fun _ => row : Db) .workflow = db .workflow :=
      Database.upsert_of_ne (by decide)
    refine ⟨by simp only [workspaceRow, hworkspaces], by simp only [workflowRow, hworkflow], ?_⟩
    intro hnone
    rw [hnone] at hactor
    cases hactor
  | policySet => exact standing_of_eq (by simp [rulePut]) (by simp [rulePut]) (by simp [rulePut])
  | registered => exact standing_of_eq (by simp) (by simp) (by simp)
  | decided => exact standing_of_eq (by simp) (by simp) (by simp)
  | rerun => exact standing_of_eq (by simp) (by simp) (by simp)
  | _ => cases hprincipal

/-- The membership of a principal without a tenant role, and the rules of the workspace, are changed by
it only while it manages the workspace. -/
theorem unmoved_change {deed : Deed} (h : Change db deed db')
    (hprincipal : deed.principal = some principal) (hrole : activeRole db principal = none)
    (hmanages : ¬Manages db principal workspaceId) : Unmoved principal workspaceId db db' := by
  cases h with
  | same => exact unmoved_of_eq rfl rfl
  | @memberSet actor workspace binding row htenant hopen hbinding hassign hversion =>
    obtain rfl : actor = principal := Option.some.inj hprincipal
    have hrules : memberPut row db .rules = db .rules := by simp [memberPut]
    refine ⟨?_, ruleRow_congr hrules, ruleRow_congr hrules⟩
    have hfound : membershipRow (memberPut row db) =
        membershipRow (db.upsert .memberships row fun _ => row) := by
      funext t w u
      simp [membershipRow, memberPut]
    rw [hfound, membershipRow_upsert, if_neg]
    rintro ⟨-, rfl, -⟩
    refine hmanages ⟨workspace, binding, hopen.found, hbinding, ?_⟩
    revert hassign
    unfold RoleBinding.manages Role.assignable
    cases binding.role <;> simp
  | @policySet change workspace binding header row htenant hwithin hopen hbinding hallows hheader =>
    obtain rfl : change.principal = principal := Option.some.inj hprincipal
    have hscope : binding.scope = .workspace := by
      obtain ⟨role, hsome, -⟩ | ⟨-, member, -, -, rfl⟩ := bindingOf_eq_some hbinding
      · rw [hrole] at hsome
        cases hsome
      · rfl
    -- without a tenant role the policy is that of a workspace that the principal manages
    have hwithin' : row.workspaceId = some change.workspaceId ∧ binding.manages = true := by
      unfold PolicyChange.allows at hallows
      unfold PolicyChange.within at hwithin
      cases hkind : change.scope with
      | tenant => simp [hkind, hscope] at hallows
      | workspace => simpa only [hkind, hwithin, true_and] using hallows
    refine ⟨by simp [membershipRow, rulePut], ?_, ?_⟩
    · funext permission
      rw [rulePut, ruleRow_upsert, if_neg]
      · rfl
      rintro ⟨-, hnone, -⟩
      rw [hwithin'.1] at hnone
      cases hnone
    · funext permission
      rw [rulePut, ruleRow_upsert, if_neg]
      · rfl
      rintro ⟨-, hsome, -⟩
      rw [hwithin'.1] at hsome
      obtain rfl := Option.some.inj hsome
      exact hmanages ⟨workspace, binding, hopen.found, hbinding, hwithin'.2⟩
  | sourceSet => exact unmoved_of_eq (by simp [sourcePut]) (by simp [sourcePut])
  | tenantRoleSet => exact unmoved_of_eq (by simp) (by simp)
  | registered => exact unmoved_of_eq (by simp) (by simp)
  | decided => exact unmoved_of_eq (by simp) (by simp)
  | rerun => exact unmoved_of_eq (by simp) (by simp)
  | _ => cases hprincipal

theorem standing_next {input : Input} (h : Alone principal s input) :
    Standing principal workspaceId s.db (service.next s input).db := by
  rcases h with hprincipal | ⟨n, rfl⟩ | ⟨others, rfl, hworkflow⟩
  · rcases change_next s input with hchange | ⟨others, rfl, -⟩
    · exact standing_change hchange hprincipal
    · cases hprincipal
  · exact standing_of_eq rfl rfl rfl
  · exact ⟨rfl, hworkflow, id⟩

theorem unmoved_next {input : Input} (h : Alone principal s input)
    (hrole : activeRole s.db principal = none) (hmanages : ¬Manages s.db principal workspaceId) :
    Unmoved principal workspaceId s.db (service.next s input).db := by
  rcases h with hprincipal | ⟨n, rfl⟩ | ⟨others, rfl, -⟩
  · rcases change_next s input with hchange | ⟨others, rfl, -⟩
    · exact unmoved_change hchange hprincipal hrole hmanages
    · cases hprincipal
  · exact unmoved_of_eq rfl rfl
  · exact unmoved_of_eq rfl rfl

variable (workspaceId) in
theorem standing_run {is : List Input} (h : service.AllSteps (Alone principal) s is) :
    Standing principal workspaceId s.db (service.runFrom s is).db :=
  service.runFrom_induction_of (I := fun t => Standing principal workspaceId s.db t.db)
    (fun _ _ ht halone => ht.trans (standing_next halone)) (standing_of_eq rfl rfl rfl) h

theorem Standing.found (h : Standing principal workspaceId db db')
    (hfound : workspaceRow db' principal.tenantId workspaceId = some workspace') :
    ∃ workspace, workspaceRow db principal.tenantId workspaceId = some workspace ∧
      workspace'.workspaceId = workspace.workspaceId ∧
      workspace'.workspaceKind = workspace.workspaceKind := by
  have hsame := h.workspace
  rw [hfound] at hsame
  obtain ⟨workspace, hworkspace, hkeys⟩ := Option.map_eq_some_iff.1 hsame.symm
  simp only [Prod.mk.injEq] at hkeys
  exact ⟨workspace, hworkspace, hkeys.1.symm, hkeys.2.symm⟩

theorem bindingOf_of_unmoved (hrole : activeRole db principal = none)
    (hrole' : activeRole db' principal = none)
    (hid : workspace'.workspaceId = workspace.workspaceId)
    (hmember : membershipRow db' principal.tenantId workspace.workspaceId principal.userId =
      membershipRow db principal.tenantId workspace.workspaceId principal.userId) :
    bindingOf db' principal workspace' = bindingOf db principal workspace := by
  simp only [bindingOf, hrole, hrole', activeMembership, hid, hmember]

theorem not_manages_of_unmoved (hstanding : Standing principal workspaceId db db')
    (hunmoved : Unmoved principal workspaceId db db') (hrole : activeRole db principal = none)
    (h : ¬Manages db principal workspaceId) : ¬Manages db' principal workspaceId := by
  rintro ⟨workspace', binding, hfound', hbinding, hmanages⟩
  obtain ⟨workspace, hfound, hid, -⟩ := hstanding.found hfound'
  have hkey : workspace.workspaceId = workspaceId := (workspaceId_of_found hfound)
  rw [bindingOf_of_unmoved hrole (hstanding.role hrole) hid (by rw [hkey]; exact hunmoved.member)]
    at hbinding
  exact h ⟨workspace, binding, hfound, hbinding, hmanages⟩

variable (workspaceId) in
theorem unmoved_run {is : List Input} (h : service.AllSteps (Alone principal) s is)
    (hrole : activeRole s.db principal = none) (hmanages : ¬Manages s.db principal workspaceId) :
    Unmoved principal workspaceId s.db (service.runFrom s is).db := by
  refine (service.runFrom_induction_of (I := fun t => Standing principal workspaceId s.db t.db ∧
    Unmoved principal workspaceId s.db t.db) ?_ ⟨standing_of_eq rfl rfl rfl, unmoved_of_eq rfl rfl⟩
      h).2
  rintro t input ⟨hstanding, hunmoved⟩ halone
  refine ⟨hstanding.trans (standing_next halone), hunmoved.trans ?_⟩
  exact unmoved_next halone (hstanding.role hrole)
    (not_manages_of_unmoved hstanding hunmoved hrole hmanages)

theorem open_of_standing (h : Standing principal workspaceId db db')
    (hopen : Open db' principal workspaceId workspace') :
    ∃ workspace, Open db principal workspaceId workspace ∧
      workspace'.workspaceId = workspace.workspaceId := by
  obtain ⟨workspace, hfound, hid, hkind⟩ := h.found hopen.found
  refine ⟨workspace, ⟨hopen.safe, hfound, fun horganization => ?_⟩, hid⟩
  have hactive := hopen.active (hkind.trans horganization)
  unfold OrganizationActive at hactive ⊢
  rwa [h.workflow] at hactive

theorem bindingOf_of_activeRole (hdb : Coherent db) {holder : TenantRoleRow}
    (hrole : activeRole db principal = some holder)
    (hfound : workspaceRow db principal.tenantId workspaceId = some workspace) :
    holder.role.workspaceKind.isSome = true ∧ bindingOf db principal workspace =
      some { role := holder.role, scope := .tenant, version := holder.version } := by
  obtain ⟨hmem, htenant, -, hactive⟩ := activeRole_mem hrole
  have hkeys : workspace.tenantId = principal.tenantId ∧ workspace.workspaceId = workspaceId := by
    simpa using List.find?_some hfound
  have hkind := hdb.role holder hmem hactive workspace (List.mem_of_find?_eq_some hfound)
    (hkeys.1.trans htenant.symm)
  refine ⟨by rw [hkind, Option.isSome_some], ?_⟩
  simp only [bindingOf, hrole, TenantRoleRow.binding, hkind, if_true]

theorem manages_of_workspaceKind
    (h : binding.role.workspaceKind.isSome = true) : binding.manages = true := by
  revert h
  unfold RoleBinding.manages Role.workspaceKind
  cases binding.role <;> simp

theorem eq_workspaceAdmin (h : binding.role ∈ workspaceRoles)
    (hmanages : binding.manages = true) : binding.role = .workspaceAdmin := by
  revert h hmanages
  unfold RoleBinding.manages workspaceRoles
  cases binding.role <;> simp

/-- What a principal that acts alone has gained, it has gained by the rules of the workspace or, as a
workspace administrator, by its own membership; and it managed the workspace at the start. -/
theorem grants_of_alone {is js : List Input} (h : service.AllSteps (Alone principal) (service.run is) js)
    (hgrants : Grants (service.run (is ++ js)).db principal workspaceId action requested) :
    Grants (service.run is).db principal workspaceId action requested ∨
      ∃ workspace binding,
        workspaceRow (service.run is).db principal.tenantId workspaceId = some workspace ∧
        bindingOf (service.run is).db principal workspace = some binding ∧ binding.manages = true ∧
        (¬SameRules (service.run is).db (service.run (is ++ js)).db principal.tenantId workspaceId ∨
          binding.role = .workspaceAdmin ∧
            membershipRow (service.run (is ++ js)).db principal.tenantId workspaceId
              principal.userId ≠
            membershipRow (service.run is).db principal.tenantId workspaceId principal.userId) := by
  have hdb : Coherent (service.run is).db := coherent_reachable ⟨is, rfl⟩
  have hstanding := standing_run workspaceId h
  have hunmoved := unmoved_run workspaceId h
  rw [service.run_append] at hgrants ⊢
  obtain ⟨huser, workspace', hopen', hgrant'⟩ := grants_iff.1 hgrants
  obtain ⟨binding', hbinding', -⟩ := isSome_grantOf_iff.1 hgrant'
  obtain ⟨workspace, hopen, hid⟩ := open_of_standing hstanding hopen'
  have hkey : workspace.workspaceId = workspaceId := workspaceId_of_found hopen.found
  -- under the same rules it is enough that the role at the start covers the role at the end
  have hleft : ∀ {binding : RoleBinding}, bindingOf (service.run is).db principal workspace =
      some binding → SameRules (service.run is).db (service.runFrom (service.run is) js).db
        principal.tenantId workspaceId → binding.role.Covers binding'.role →
      Grants (service.run is).db principal workspaceId action requested := by
    intro binding hbinding hrules hcovers
    refine grants_iff.2 ⟨huser, workspace, hopen, ?_⟩
    rw [← hkey] at hrules
    exact grant_of_covers hid hrules hbinding hbinding' hcovers hgrant'
  cases hrole : activeRole (service.run is).db principal with
  | some holder =>
    obtain ⟨hkind, hbinding⟩ := bindingOf_of_activeRole hdb hrole hopen.found
    by_cases hrules : SameRules (service.run is).db (service.runFrom (service.run is) js).db
        principal.tenantId workspaceId
    · exact Or.inl (hleft hbinding hrules (covers_tenantRole hkind))
    · exact Or.inr ⟨workspace, _, hopen.found, hbinding, manages_of_workspaceKind hkind,
        Or.inl hrules⟩
  | none =>
    have hsame (hmember : membershipRow (service.runFrom (service.run is) js).db principal.tenantId
        workspaceId principal.userId = membershipRow (service.run is).db principal.tenantId
          workspaceId principal.userId) :
        bindingOf (service.run is).db principal workspace = some binding' := by
      rw [← hbinding', bindingOf_of_unmoved hrole (hstanding.role hrole) hid (by rw [hkey]; exact hmember)]
    have hcovers : binding'.role.Covers binding'.role := ⟨fun _ => id, fun _ => id⟩
    by_cases hmanages : Manages (service.run is).db principal workspaceId
    · obtain ⟨found, binding, hfound, hbinding, hmanages⟩ := hmanages
      obtain rfl : found = workspace := Option.some.inj (hfound.symm.trans hopen.found)
      by_cases hrules : SameRules (service.run is).db (service.runFrom (service.run is) js).db
          principal.tenantId workspaceId
      · by_cases hmember : membershipRow (service.runFrom (service.run is) js).db principal.tenantId
            workspaceId principal.userId = membershipRow (service.run is).db principal.tenantId
              workspaceId principal.userId
        · exact Or.inl (hleft (hsame hmember) hrules hcovers)
        · obtain ⟨holder, hsome, -⟩ | ⟨-, member, -, hmem, rfl⟩ := bindingOf_eq_some hbinding
          · rw [hrole] at hsome
            cases hsome
          · exact Or.inr ⟨found, _, hfound, hbinding, hmanages,
              Or.inr ⟨eq_workspaceAdmin hmem hmanages, hmember⟩⟩
      · exact Or.inr ⟨found, binding, hfound, hbinding, hmanages, Or.inl hrules⟩
    · obtain ⟨hmember, hrules⟩ := hunmoved hrole hmanages
      exact Or.inl (hleft (hsame hmember) hrules hcovers)

def sampleAdmin : IdentityPrincipal := { userId := "admin", tenantId := "tenant" }

def appointment : List Input :=
  founding .personalOwner "personal" ++
    [.call (.setMembership sampleOwner "workspace" "admin" .workspaceAdmin 0 sampleTrail)
      (sampleEnv "appointment")]

def promotion : List Input :=
  [.call (.setMembership sampleAdmin "workspace" "admin" .approver 1 sampleTrail)
    (sampleEnv "promotion")]

theorem alone_promotion : service.AllSteps (Alone sampleAdmin) (service.run appointment) promotion :=
  ⟨Or.inl rfl, trivial⟩

theorem grants_promotion :
    Grants (service.run (appointment ++ promotion)).db sampleAdmin "workspace" .approve [] := by
  have hreturns : (transact (authorizeAction (sampleEnv "approval") sampleAdmin "workspace" .approve
      sampleTrail []) (service.run (appointment ++ promotion)).db).1.isOk = true := by
    decide
  refine ⟨sampleEnv "approval", sampleTrail, ?_⟩
  revert hreturns
  cases (transact (authorizeAction (sampleEnv "approval") sampleAdmin "workspace" .approve
      sampleTrail []) (service.run (appointment ++ promotion)).db).1 with
  | error e => exact fun h => by cases h
  | ok grant => exact fun _ => ⟨grant, rfl⟩

theorem grants_of_alone_promotion :
    Grants (service.run appointment).db sampleAdmin "workspace" .approve [] ∨
      ∃ workspace binding,
        workspaceRow (service.run appointment).db "tenant" "workspace" = some workspace ∧
        bindingOf (service.run appointment).db sampleAdmin workspace = some binding ∧
        binding.manages = true ∧
        (¬SameRules (service.run appointment).db (service.run (appointment ++ promotion)).db "tenant"
            "workspace" ∨
          binding.role = .workspaceAdmin ∧
            membershipRow (service.run (appointment ++ promotion)).db "tenant" "workspace" "admin" ≠
              membershipRow (service.run appointment).db "tenant" "workspace" "admin") :=
  grants_of_alone alone_promotion grants_promotion

theorem promotion_gains :
    ¬∀ (is js : List Input) (principal : IdentityPrincipal),
      service.AllSteps (Alone principal) (service.run is) js → ∀ workspaceId action,
        Grants (service.run (is ++ js)).db principal workspaceId action [] →
          Grants (service.run is).db principal workspaceId action [] := by
  intro h
  have hgrants := h appointment promotion sampleAdmin alone_promotion "workspace" .approve
    grants_promotion
  obtain ⟨-, workspace, hopen, hgrant⟩ := grants_iff.1 hgrants
  have hnone : ((workspaceRow (service.run appointment).db "tenant" "workspace").bind fun workspace =>
      grantOf (service.run appointment).db sampleAdmin workspace .approve []) = none := by
    decide
  have hfound : workspaceRow (service.run appointment).db "tenant" "workspace" = some workspace :=
    hopen.found
  rw [hfound, Option.bind_some] at hnone
  rw [hnone] at hgrant
  cases hgrant

end DaonUser.Authorization
