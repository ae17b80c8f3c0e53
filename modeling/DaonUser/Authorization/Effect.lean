import DaonUser.Authorization.Spec

/-!
# Authorization: what a transaction leaves

`Change` has one case for each transaction that writes, with what it has checked of the rows before it
and the rows that it leaves; `changes` says that every transaction is one of them. The invariants are
read off these cases.
-/

namespace DaonUser.Authorization

open Lib

variable {t : Table} {role : Role} {workspaceId userId : String}

/-! ## Rows after a transaction -/

/-- The rows after `raiseAcl`. -/
def aclRaised (tenantId workspaceId : String) (db : Db) : Db :=
  db.update .workspaces (fun row => row.tenantId = tenantId && row.workspaceId = workspaceId)
    fun row => { row with aclVersion := row.aclVersion + 1 }

/-- The rows after `bootstrap_workspace`. -/
def bootstrapped (row : WorkspaceRow) (ownerUserId : String) (role : Role) (db : Db) : Db :=
  let db : Db := db.insert .workspaces row
  let db : Db := db.insertOrIgnore .tenantRoles
    { tenantId := row.tenantId, userId := ownerUserId, role }
  let db : Db := db.insertOrIgnore .policies { tenantId := row.tenantId, workspaceId := none }
  db.insert .policies { tenantId := row.tenantId, workspaceId := some row.workspaceId }

/-- The rows after `set_membership`. -/
def memberPut (row : MembershipRow) (db : Db) : Db :=
  aclRaised row.tenantId row.workspaceId (db.upsert .memberships row fun _ => row)

/-- The rows after `set_source_access`. -/
def sourcePut (row : SourceAccessRow) (db : Db) : Db :=
  aclRaised row.tenantId row.workspaceId (db.upsert .sourceAccess row fun _ => row)

/-- The rows after `set_permission_policy`. -/
def rulePut (version : Nat) (row : RuleRow) (db : Db) : Db :=
  let db : Db := db.update .policies
    (fun header => header.tenantId = row.tenantId && header.workspaceId = row.workspaceId)
    fun header => { header with version := version }
  db.upsert .rules row fun _ => row

def withDependencies (resultId : String) (dependencies : List EvidenceDependency) (db : Db) : Db :=
  dependencies.foldl (fun db dependency => db.insert .resultDependencies ⟨resultId, dependency⟩) db

def HistoricalResultDescriptor.row (descriptor : HistoricalResultDescriptor) : ResultRow where
  resultId := descriptor.resultId
  resultKind := descriptor.resultKind
  tenantId := descriptor.tenantId
  workspaceId := descriptor.workspaceId
  sourceVersionIds := descriptor.sourceVersionIds
  evidenceReferenceIds := descriptor.evidenceReferenceIds
  originalPolicyVersion := descriptor.originalPolicyVersion
  originalMembershipVersion := descriptor.originalMembershipVersion

/-- The rows after `_insert_descriptor`. -/
def registered (descriptor : HistoricalResultDescriptor) (db : Db) : Db :=
  withDependencies descriptor.resultId descriptor.dependencies
    (db.insert .historicalResults descriptor.row)

/-- The rows after `approve_join_access`. -/
def joined (tenantId workspaceId userId : String) (db : Db) : Db :=
  let db : Db := db.insert .identityMemberships { tenantId, userId, role := "member" }
  aclRaised tenantId workspaceId
    (db.insert .memberships { tenantId, workspaceId, userId, role := .viewer })

/-- The rows that `change_join_role` changes. -/
def joinRoleRow (tenantId workspaceId userId : String) (version : Int) (row : MembershipRow) : Bool :=
  row.tenantId = tenantId && row.workspaceId = workspaceId && row.userId = userId &&
    (row.version : Int) = version && row.state = .active

/-- The rows after `change_join_role`. -/
def joinRolePut (tenantId workspaceId userId : String) (role : Role) (version : Int) (db : Db) : Db :=
  aclRaised tenantId workspaceId (db.update .memberships
    (joinRoleRow tenantId workspaceId userId version)
    fun row => { row with role := role, version := row.version + 1 })

/-! ## Lookups after a write -/

section Lookups

variable {db : Db} {tenantId workspaceId userId : String}

@[simp] theorem aclRaised_of_ne (h : t ≠ .workspaces) :
    aclRaised tenantId workspaceId db t = db t :=
  Database.update_of_ne h

theorem withDependencies_of_ne {resultId : String}
    {dependencies : List EvidenceDependency} (h : t ≠ .resultDependencies) :
    withDependencies resultId dependencies db t = db t := by
  induction dependencies generalizing db with
  | nil => rfl
  | cons dependency dependencies ih => exact ih.trans (Database.insert_of_ne h)

@[simp] theorem registered_of_ne {descriptor : HistoricalResultDescriptor}
    (h : t ≠ .resultDependencies) (h' : t ≠ .historicalResults) : registered descriptor db t = db t :=
  (withDependencies_of_ne h).trans (Database.insert_of_ne h')

theorem tenantRoleRow_upsert {row : TenantRoleRow} :
    tenantRoleRow (db.upsert .tenantRoles row fun _ => row) tenantId userId =
      if row.tenantId = tenantId ∧ row.userId = userId then some row
      else tenantRoleRow db tenantId userId := by
  unfold tenantRoleRow
  split
  · next hkey =>
    obtain ⟨rfl, rfl⟩ := hkey
    exact @Database.find?_upsert_self schema .tenantRoles db row _ (by simp) fun other => by
      simp [Table.clash]
  · next hkey =>
    refine @Database.find?_upsert_of_not schema .tenantRoles db row _ _ (by simpa using hkey) fun other hclash => ?_
    simp only [Table.clash, Bool.and_eq_true, decide_eq_true_eq] at hclash
    rw [hclash.1, hclash.2]
    exact ⟨by simpa using hkey, by simpa using hkey⟩

theorem membershipRow_upsert {row : MembershipRow} :
    membershipRow (db.upsert .memberships row fun _ => row) tenantId workspaceId userId =
      if row.tenantId = tenantId ∧ row.workspaceId = workspaceId ∧ row.userId = userId then some row
      else membershipRow db tenantId workspaceId userId := by
  unfold membershipRow
  split
  · next hkey =>
    obtain ⟨rfl, rfl, rfl⟩ := hkey
    exact @Database.find?_upsert_self schema .memberships db row _ (by simp) fun other => by
      simp [Table.clash]
  · next hkey =>
    refine @Database.find?_upsert_of_not schema .memberships db row _ _ (by simpa [and_assoc] using hkey) fun other hclash => ?_
    simp only [Table.clash, Bool.and_eq_true, decide_eq_true_eq] at hclash
    rw [hclash.1.1, hclash.1.2, hclash.2]
    exact ⟨by simpa [and_assoc] using hkey, by simpa [and_assoc] using hkey⟩

theorem ruleRow_upsert {row : RuleRow} {scope : Option String} {permission : Permission} :
    ruleRow (db.upsert .rules row fun _ => row) tenantId scope permission =
      if row.tenantId = tenantId ∧ row.workspaceId = scope ∧ row.permission = permission then some row
      else ruleRow db tenantId scope permission := by
  unfold ruleRow
  split
  · next hkey =>
    obtain ⟨rfl, rfl, rfl⟩ := hkey
    exact @Database.find?_upsert_self schema .rules db row _ (by simp) fun other => by
      simp [Table.clash]
  · next hkey =>
    refine @Database.find?_upsert_of_not schema .rules db row _ _ (by simpa [and_assoc] using hkey) fun other hclash => ?_
    simp only [Table.clash, Bool.and_eq_true, decide_eq_true_eq] at hclash
    rw [hclash.1.1, hclash.1.2, hclash.2]
    exact ⟨by simpa [and_assoc] using hkey, by simpa [and_assoc] using hkey⟩

theorem sourceRow_upsert_of_ne {row : SourceAccessRow} {sourceVersionId : String}
    (h : ¬(row.tenantId = tenantId ∧ row.workspaceId = workspaceId)) :
    sourceRow (db.upsert .sourceAccess row fun _ => row) tenantId workspaceId userId sourceVersionId =
      sourceRow db tenantId workspaceId userId sourceVersionId := by
  unfold sourceRow
  have hfalse : ∀ other : SourceAccessRow, other.tenantId = row.tenantId →
      other.workspaceId = row.workspaceId → (decide (other.tenantId = tenantId) &&
        decide (other.workspaceId = workspaceId) && decide (other.userId = userId) &&
          decide (other.sourceVersionId = sourceVersionId)) = false := by
    intro other htenant hworkspace
    have : (decide (other.tenantId = tenantId) && decide (other.workspaceId = workspaceId)) = false := by
      rw [htenant, hworkspace]
      simpa using h
    rw [this, Bool.false_and, Bool.false_and]
  refine @Database.find?_upsert_of_not schema .sourceAccess db row _ _ (hfalse row rfl rfl) fun other hclash => ?_
  simp only [Table.clash, Bool.and_eq_true, decide_eq_true_eq] at hclash
  exact ⟨hfalse other hclash.1.1.1 hclash.1.1.2, hfalse row rfl rfl⟩

theorem workspaceRow_aclRaised {tenantId' workspaceId' : String} :
    workspaceRow (aclRaised tenantId' workspaceId' db) tenantId workspaceId =
      (workspaceRow db tenantId workspaceId).map fun row =>
        if row.tenantId = tenantId' ∧ row.workspaceId = workspaceId' then
          { row with aclVersion := row.aclVersion + 1 } else row := by
  unfold workspaceRow aclRaised
  refine (@Database.find?_update schema .workspaces db _ _ _ ?_).trans ?_
  · intro other
    rfl
  · simp only [Bool.and_eq_true, decide_eq_true_eq]

theorem tenantRoleRow_bootstrapped {row : WorkspaceRow} {ownerUserId : String} :
    tenantRoleRow (bootstrapped row ownerUserId role db) tenantId userId =
      (tenantRoleRow db tenantId userId).or
        (if row.tenantId = tenantId ∧ ownerUserId = userId then
          some { tenantId := row.tenantId, userId := ownerUserId, role } else none) := by
  unfold tenantRoleRow bootstrapped
  simp only [ne_eq, reduceCtorEq, not_false_eq_true, Database.insert_of_ne,
    Database.insertOrIgnore_of_ne]
  split
  · next hkey =>
    obtain ⟨rfl, rfl⟩ := hkey
    refine (@Database.find?_insertOrIgnore_self schema .tenantRoles _ _ _ (by simp) fun other => by
      simp [Table.clash]).trans ?_
    rw [Database.insert_of_ne (by decide)]
  · next hkey =>
    refine (@Database.find?_insertOrIgnore_of_not schema .tenantRoles _ _ _ (by simpa using hkey)).trans
      ?_
    rw [Database.insert_of_ne (by decide), Option.or_none]

theorem policyRow_bootstrapped {row : WorkspaceRow} {ownerUserId : String} {scope : Option String} :
    policyRow (bootstrapped row ownerUserId role db) tenantId scope =
      (policyRow db tenantId scope).or
        (if row.tenantId = tenantId ∧ (scope = none ∨ scope = some row.workspaceId) then
          some { tenantId := row.tenantId, workspaceId := scope } else none) := by
  unfold policyRow bootstrapped
  refine (@Database.find?_insert schema .policies _ _ _).trans ?_
  by_cases hnone : row.tenantId = tenantId ∧ scope = none
  · obtain ⟨rfl, rfl⟩ := hnone
    rw [@Database.find?_insertOrIgnore_self schema .policies _ _ _ (by simp) fun other => by
      simp [Table.clash], Database.insertOrIgnore_of_ne (by decide), Database.insert_of_ne (by decide)]
    simp
  · rw [@Database.find?_insertOrIgnore_of_not schema .policies _ _ _ (by simpa [@eq_comm _ none] using hnone),
      Database.insertOrIgnore_of_ne (by decide), Database.insert_of_ne (by decide)]
    by_cases htenant : row.tenantId = tenantId
    · obtain ⟨workspaceId, rfl⟩ := Option.ne_none_iff_exists'.1 fun h => hnone ⟨htenant, h⟩
      simp only [htenant, decide_true, Bool.true_and, decide_eq_true_eq, Option.some.injEq, reduceCtorEq,
        false_or, true_and, eq_comm (a := workspaceId)]
      congr 1
      split
      · next h => rw [h]
      · rfl
    · simp [htenant]

theorem workspaceRow_bootstrapped {row : WorkspaceRow} {ownerUserId : String} :
    workspaceRow (bootstrapped row ownerUserId role db) tenantId workspaceId =
      (workspaceRow db tenantId workspaceId).or
        (if row.tenantId = tenantId ∧ row.workspaceId = workspaceId then some row else none) := by
  unfold workspaceRow bootstrapped
  simp only [ne_eq, reduceCtorEq, not_false_eq_true, Database.insert_of_ne,
    Database.insertOrIgnore_of_ne]
  refine (@Database.find?_insert schema .workspaces _ _ _).trans ?_
  simp only [Bool.and_eq_true, decide_eq_true_eq]

theorem membershipRow_joined {tenantId' workspaceId' userId' : String} :
    membershipRow (joined tenantId' workspaceId' userId' db) tenantId workspaceId userId =
      (membershipRow db tenantId workspaceId userId).or
        (if tenantId' = tenantId ∧ workspaceId' = workspaceId ∧ userId' = userId then
          some { tenantId := tenantId', workspaceId := workspaceId', userId := userId', role := .viewer }
        else none) := by
  unfold membershipRow joined
  simp only [ne_eq, reduceCtorEq, not_false_eq_true, aclRaised_of_ne]
  refine (@Database.find?_insert schema .memberships _ _ _).trans ?_
  rw [Database.insert_of_ne (by decide)]
  simp only [Bool.and_eq_true, decide_eq_true_eq, and_assoc]

theorem membershipRow_joinRolePut {tenantId' workspaceId' userId' : String} {version : Int} :
    membershipRow (joinRolePut tenantId' workspaceId' userId' role version db) tenantId workspaceId
        userId =
      (membershipRow db tenantId workspaceId userId).map fun row =>
        if joinRoleRow tenantId' workspaceId' userId' version row = true then
          { row with role := role, version := row.version + 1 } else row := by
  unfold membershipRow joinRolePut
  simp only [ne_eq, reduceCtorEq, not_false_eq_true, aclRaised_of_ne]
  refine (@Database.find?_update schema .memberships db _ _ _ ?_).trans rfl
  intro other
  rfl

end Lookups

/-- Who calls `AuthorizationService`, and the user that it takes the tenant role from. -/
structure Deed where
  principal : Option IdentityPrincipal := none
  revoked : Option String := none

/-- What a transaction makes of the rows. -/
inductive Change (db : Db) : Deed → Db → Prop where
  | same (deed : Deed) : Change db deed db
  | bootstrapped {row : WorkspaceRow} {ownerUserId : String} {role : Role}
      (hrole : ownerRole row.workspaceKind = some role) (hacl : row.aclVersion = 1)
      (hfree : ∀ other ∈ db .workspaces, other.workspaceId ≠ row.workspaceId)
      (hkinds : ∀ other ∈ db .workspaces, other.tenantId = row.tenantId →
        other.workspaceKind = row.workspaceKind)
      (howner : (tenantRoleRow db row.tenantId ownerUserId).all (TenantRoleRow.owns role) = true)
      (hpolicy : policyRow db row.tenantId (some row.workspaceId) = none) :
      Change db {} (bootstrapped row ownerUserId role db)
  | memberSet {principal : IdentityPrincipal} {workspace : WorkspaceRow} {binding : RoleBinding}
      {row : MembershipRow} (htenant : row.tenantId = principal.tenantId)
      (hopen : Open db principal row.workspaceId workspace)
      (hbinding : bindingOf db principal workspace = some binding)
      (hassign : row.role ∈ binding.role.assignable)
      (hversion : row.version = versionOf MembershipRow.version
        (membershipRow db row.tenantId row.workspaceId row.userId) + 1) :
      Change db { principal := some principal } (memberPut row db)
  | tenantRoleSet {principal : IdentityPrincipal} {actor row : TenantRoleRow}
      (htenant : row.tenantId = principal.tenantId) (hactor : activeRole db principal = some actor)
      (hrole : row.state = .active → tenantRoleOf (((db .workspaces).filter fun other =>
        other.tenantId = row.tenantId).map (·.workspaceKind)) = some row.role)
      (hversion : row.version = versionOf TenantRoleRow.version
        (tenantRoleRow db row.tenantId row.userId) + 1) :
      Change db ⟨some principal, if row.state = .active then none else some row.userId⟩
        (db.upsert .tenantRoles row fun _ => row)
  | sourceSet {principal : IdentityPrincipal} {workspace : WorkspaceRow} {binding : RoleBinding}
      {row : SourceAccessRow} (htenant : row.tenantId = principal.tenantId)
      (hopen : Open db principal row.workspaceId workspace)
      (hbinding : bindingOf db principal workspace = some binding) (hmanages : binding.manages = true)
      (hversion : row.version = versionOf SourceAccessRow.version
        (sourceRow db row.tenantId row.workspaceId row.userId row.sourceVersionId) + 1) :
      Change db { principal := some principal } (sourcePut row db)
  | policySet {change : PolicyChange} {workspace : WorkspaceRow} {binding : RoleBinding}
      {header : PolicyRow} {row : RuleRow} (htenant : row.tenantId = change.principal.tenantId)
      (hwithin : row.workspaceId = change.within)
      (hopen : Open db change.principal change.workspaceId workspace)
      (hbinding : bindingOf db change.principal workspace = some binding)
      (hallows : change.allows binding = true)
      (hheader : policyRow db row.tenantId row.workspaceId = some header) :
      Change db { principal := some change.principal } (rulePut (header.version + 1) row db)
  | decided (principal : IdentityPrincipal) (decision : AccessDecision) :
      Change db { principal := some principal } (db.insert .accessDecisions decision)
  | rerun (principal : IdentityPrincipal) (row : RerunRow) :
      Change db { principal := some principal } (db.insert .rerunRequests row)
  | registered {principal : IdentityPrincipal} {descriptor : HistoricalResultDescriptor}
      (hvalid : descriptor.valid = true)
      (hfree : ∀ row ∈ db .historicalResults, row.resultId ≠ descriptor.resultId) :
      Change db { principal := some principal } (registered descriptor db)
  | joined {tenantId workspaceId userId : String}
      (hworkspace : (workspaceRow db tenantId workspaceId).isSome = true)
      (hfree : ∀ row ∈ db .memberships, row.tenantId = tenantId → row.userId ≠ userId) :
      Change db {} (joined tenantId workspaceId userId db)
  | joinRoleSet {tenantId workspaceId userId : String} {role : Role} {version : Int}
      (hworkspace : (workspaceRow db tenantId workspaceId).isSome = true) (hrole : role ∈ joinRoles) :
      Change db {} (joinRolePut tenantId workspaceId userId role version db)

/-! ## Every transaction is one of them -/

variable {env : Env} {principal : IdentityPrincipal} {trail : Trail} {db : Db}

theorem any_eq_true_iff {α : Type} {o : Option α} {p : α → Bool} :
    o.any p = true ↔ ∃ a, o = some a ∧ p a = true := by
  cases o <;> simp

theorem changes_bootstrapWorkspace {tenantId ownerUserId : String}
    {workspaceKind dataArea : String} {costLimitCents : Int} :
    Call.Returns (bootstrapWorkspace tenantId workspaceId ownerUserId role workspaceKind dataArea
      costLimitCents).alone db fun _ db' => Change db {} db' := by
  simp only [bootstrapWorkspace, Program.returns_alone_bind, returns_checkedIds,
    Program.returns_alone_ensure, Program.returns_alone_read]
  intro _ _ hrole
  cases hexisting : (db .workspaces).find? fun row => row.workspaceId = workspaceId with
  | some row =>
    simp only [Program.returns_alone_bind, Program.returns_alone_read, Program.returns_alone_ensure]
    intro _
    exact .same _
  | none =>
    simp only [Program.returns_alone_bind, Program.returns_alone_read, Program.returns_alone_ensure,
      insertRow, putIfAbsent, Program.returns_alone_insertRow, Program.returns_alone_putIfAbsent]
    intro hincompatible howner _ hpolicy
    refine @Change.bootstrapped db
      ⟨workspaceId, tenantId, workspaceKind, dataArea, costLimitCents, 1⟩ _ _ hrole rfl ?_ ?_ howner ?_
    · intro other hother
      simpa using List.find?_eq_none.1 hexisting other hother
    · intro other hother htenant
      have := List.any_eq_false.1 hincompatible other hother
      simpa [htenant] using this
    · refine List.find?_eq_none.2 fun other hother => ?_
      have hclash := hpolicy other (Database.mem_insertOrIgnore_of_mem (by simpa using hother))
      simpa [Table.clash] using hclash

theorem changes_setMembership {expectedVersion : Int} :
    Call.Returns (setMembership env principal workspaceId userId role expectedVersion trail).alone db
      fun _ db' => Change db { principal := some principal } db' := by
  simp only [setMembership, Program.returns_alone_bind, returns_checkedIds,
    Program.returns_alone_ensure, returns_workspace, returns_denyUnless, returns_roleBinding,
    Program.returns_alone_read, put, Program.returns_alone_put, raiseAcl,
    Program.returns_alone_writeCount, returns_audit, Program.returns_alone_pure,
    any_eq_true_iff, decide_eq_true_eq]
  rintro _ _ workspace hopen _ ⟨binding, hbinding, hassign⟩ _ _
  exact @Change.memberSet db principal workspace binding
    ⟨principal.tenantId, workspaceId, userId, role, .active, _⟩ rfl hopen hbinding hassign rfl

theorem changes_setTenantRole {role : Option Role} {expectedVersion : Int} :
    Call.Returns (setTenantRole env principal userId role expectedVersion trail).alone db
      fun _ db' => Change db ⟨some principal, if role.isSome then none else some userId⟩ db' := by
  simp only [setTenantRole, Program.returns_alone_bind, returns_checkedIds,
    Program.returns_alone_ensure, returns_denyUnless, returns_tenantRole,
    Program.returns_alone_read, Program.returns_alone_require, put, Program.returns_alone_put,
    returns_audit, Program.returns_alone_pure, any_eq_true_iff]
  rintro _ _ _ ⟨actor, hactor, -⟩ ⟨expected, hexpected, hsame⟩ _ next hnext _
  cases role with
  | none =>
    exact @Change.tenantRoleSet db principal actor
      ⟨principal.tenantId, userId, next, .revoked, _⟩ rfl hactor (fun hactive => by cases hactive) rfl
  | some role =>
    obtain rfl : role = next := by simpa using hnext
    obtain rfl : role = expected := by simpa using hsame
    exact @Change.tenantRoleSet db principal actor
      ⟨principal.tenantId, userId, role, .active, _⟩ rfl hactor (fun _ => hexpected) rfl

theorem changes_setSourceAccess {sourceVersionId : String} {allowed : Bool} {expectedVersion : Int} :
    Call.Returns (setSourceAccess env principal workspaceId userId sourceVersionId allowed
      expectedVersion trail).alone db fun _ db' => Change db { principal := some principal } db' := by
  simp only [setSourceAccess, Program.returns_alone_bind, returns_checkedIds,
    Program.returns_alone_ensure, returns_workspace, returns_roleBinding, Program.returns_alone_read,
    put, Program.returns_alone_put, raiseAcl, Program.returns_alone_writeCount, returns_audit,
    Program.returns_alone_pure, any_eq_true_iff]
  rintro _ _ workspace hopen ⟨binding, hbinding, hmanages⟩ _ _
  exact @Change.sourceSet db principal workspace binding
    ⟨principal.tenantId, workspaceId, userId, sourceVersionId, allowed, _⟩ rfl hopen hbinding
    hmanages rfl

theorem changes_changePolicy {change : PolicyChange} :
    Call.Returns (changePolicy env change).alone db
      fun _ db' => Change db { principal := some change.principal } db' := by
  simp only [changePolicy, Program.returns_alone_bind, Program.returns_alone_ensure,
    returns_workspace, returns_roleBinding, returns_denyUnless, Program.returns_alone_read, put,
    Program.returns_alone_write, Program.returns_alone_put, returns_audit,
    Program.returns_alone_pure, any_eq_true_iff]
  rintro hversion workspace hopen ⟨binding, hbinding, hallows⟩ hcurrent _
  cases hheader : policyRow db change.principal.tenantId change.within with
  | none =>
    have hzero : change.expectedVersion = 0 := by simpa [hheader, versionOf] using hcurrent.symm
    omega
  | some header =>
    exact @Change.policySet db change workspace binding header
      ⟨change.principal.tenantId, change.within, change.permission, change.effect, change.locked⟩
      rfl rfl hopen hbinding hallows hheader

theorem returns_insertDependencies {resultId : String} {dependencies : List EvidenceDependency}
    {V : Unit → Db → Prop} (h : V () (withDependencies resultId dependencies db)) :
    Call.Returns (insertDependencies resultId dependencies).alone db V := by
  induction dependencies generalizing db with
  | nil => simpa [insertDependencies, withDependencies] using h
  | cons dependency dependencies ih =>
    simp only [insertDependencies, Program.returns_alone_bind, Program.returns_alone_insertRow]
    intro _
    exact ih h

theorem changes_recordResult {descriptor : HistoricalResultDescriptor} :
    Call.Returns (recordResult env principal descriptor trail).alone db
      fun _ db' => Change db { principal := some principal } db' := by
  simp only [recordResult, insertDescriptor, Program.returns_alone_bind, returns_workspace,
    Program.returns_alone_read, Program.returns_alone_ensure, Program.returns_alone_insertRow,
    returns_audit]
  intro _ _ htaken hvalid _
  refine returns_insertDependencies fun _ => ?_
  refine .registered hvalid fun row hrow => ?_
  simpa using List.any_eq_false.1 htaken row hrow

theorem changes_approveJoinAccess {tenantId : String} :
    Call.Returns (approveJoinAccess tenantId workspaceId userId).alone db
      fun _ db' => Change db {} db' := by
  simp only [approveJoinAccess, organizationWorkspace, lockedUser, Program.returns_alone_bind,
    returns_workflowIds, Program.returns_alone_readLocked, Program.returns_alone_require,
    Program.returns_alone_read, Program.returns_alone_ensure, insertRow,
    Program.returns_alone_insertRow, raiseAcl, Program.returns_alone_writeCount,
    Program.returns_alone_pure, Option.filter_eq_some_iff]
  rintro _ _ workspace ⟨hworkspace, -⟩ _ _ hmember _ _ _
  refine .joined (by rw [hworkspace, Option.isSome_some]) fun row hrow htenant huser => ?_
  simp only [belongs, Bool.or_eq_false_iff, List.any_eq_false] at hmember
  exact hmember.1.2 row hrow (by simp [htenant, huser])

theorem changes_changeJoinRole {tenantId : String} {expectedVersion : Int} :
    Call.Returns (changeJoinRole tenantId workspaceId userId role expectedVersion).alone db
      fun _ db' => Change db {} db' := by
  simp only [changeJoinRole, organizationWorkspace, lockedUser, readJoinAccess,
    Program.returns_alone_bind, returns_workflowIds, Program.returns_alone_readLocked,
    Program.returns_alone_require, Program.returns_alone_read, Program.returns_alone_ensure, raiseAcl,
    Program.returns_alone_writeCount, Program.returns_alone_pure, Option.filter_eq_some_iff]
  rintro _ hrole _ _ workspace ⟨hworkspace, -⟩ _ _ _ _
  exact .joinRoleSet (by rw [hworkspace, Option.isSome_some]) hrole

end DaonUser.Authorization
