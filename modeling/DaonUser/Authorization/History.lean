import DaonUser.Authorization.Effect
import DaonUser.Lib.Machine

/-!
# Authorization: histories

The service as a machine. A step is one transaction, run alone as SQLite runs it: the only one of a call,
the first of a call that then waits, or the second of one that has waited. Between the two the process may
stop (`abandon`); `set_permission_policy` consumes its step-up there. Other services write their own tables
at any time (`others`).
-/

namespace DaonUser.Authorization

open Lib

inductive Waiting where
  | registration (principal : IdentityPrincipal) (descriptor : HistoricalResultDescriptor)
      (trail : Trail)
  | policy (change : PolicyChange)
  | rerun (principal : IdentityPrincipal) (resultId : String) (decision : AccessDecision)
      (trail : Trail)

inductive Answer where
  | done
  | granted (grant : AuthorizationGrant)
  | permission (permission : EffectivePermission)
  | workspace (workspaceId : String)
  | version (version : Nat)
  | decided (decision : AccessDecision)
  | rerun (rerun : RerunAuthorization)
  | joined (access : JoinAccess)
  deriving DecidableEq

/-- What a committed transaction leads to: an answer, an error or a second transaction. -/
inductive Outcome where
  | answer (answer : Answer)
  | refuse (e : AuthorizationError)
  | wait (waiting : Waiting)

/-- A call on `AuthorizationService`, on its repository or on `OrganizationAccessBridge`. -/
inductive Operation where
  | bootstrapWorkspace (tenantId workspaceId ownerUserId : String) (role : Role)
      (workspaceKind dataArea : String) (costLimitCents : Int)
  | authorizeAction (principal : IdentityPrincipal) (workspaceId : String) (action : Action)
      (trail : Trail) (requested : List Permission)
  | evaluatePermission (principal : IdentityPrincipal) (workspaceId : String)
      (permission : Permission) (requested : Bool)
  | authorizeAuditRead (principal : IdentityPrincipal) (workspaceId : Option String) (trail : Trail)
  | organizationAdminWorkspace (principal : IdentityPrincipal) (trail : Trail)
  | setMembership (principal : IdentityPrincipal) (workspaceId userId : String) (role : Role)
      (expectedVersion : Int) (trail : Trail)
  | setTenantRole (principal : IdentityPrincipal) (userId : String) (role : Option Role)
      (expectedVersion : Int) (trail : Trail)
  | setSourceAccess (principal : IdentityPrincipal) (workspaceId userId sourceVersionId : String)
      (allowed : Bool) (expectedVersion : Int) (trail : Trail)
  | setPermissionPolicy (change : PolicyChange)
  | registerHistoricalResult (principal : IdentityPrincipal)
      (descriptor : HistoricalResultDescriptor) (trail : Trail)
  | evaluateHistoricalAccess (principal : IdentityPrincipal) (resultId : String)
      (action : AccessAction) (trail : Trail)
  | authorizeRerun (principal : IdentityPrincipal) (resultId : String) (trail : Trail)
  | approveJoinAccess (tenantId workspaceId userId : String)
  | changeJoinRole (tenantId workspaceId userId : String) (role : Role) (expectedVersion : Int)

/-- Who calls `AuthorizationService`. -/
def Operation.principal : Operation → Option IdentityPrincipal
  | bootstrapWorkspace .. | approveJoinAccess .. | changeJoinRole .. => none
  | authorizeAction principal .. | evaluatePermission principal .. | authorizeAuditRead principal ..
  | organizationAdminWorkspace principal .. | setMembership principal .. | setTenantRole principal ..
  | setSourceAccess principal .. | registerHistoricalResult principal ..
  | evaluateHistoricalAccess principal .. | authorizeRerun principal .. => some principal
  | setPermissionPolicy change => some change.principal

def Operation.deed (operation : Operation) : Deed where
  principal := operation.principal
  revoked := match operation with
    | setTenantRole _ userId none _ _ => some userId
    | _ => none

def Waiting.principal : Waiting → IdentityPrincipal
  | registration principal .. | rerun principal .. => principal
  | policy change => change.principal

/-- The first transaction of `authorize_rerun`: its decision stays, also when it blocks. -/
def decideRerun (env : Env) (principal : IdentityPrincipal) (resultId : String) (trail : Trail) :
    Txn Outcome := do
  let decision ← evaluateHistoricalAccess env principal resultId .rerun trail
  if decision.state = .accessBlocked then return .refuse (currentAccessDenied decision)
  else return .wait (.rerun principal resultId decision trail)

def Operation.transaction (env : Env) : Operation → Txn Outcome
  | bootstrapWorkspace tenantId workspaceId ownerUserId role workspaceKind dataArea costLimitCents => do
    Authorization.bootstrapWorkspace tenantId workspaceId ownerUserId role workspaceKind dataArea
      costLimitCents
    return .answer .done
  | authorizeAction principal workspaceId action trail requested =>
    return .answer (.granted
      (← Authorization.authorizeAction env principal workspaceId action trail requested))
  | evaluatePermission principal workspaceId permission requested =>
    return .answer (.permission
      (← Authorization.evaluatePermission principal workspaceId permission requested))
  | authorizeAuditRead principal workspaceId trail => do
    Authorization.authorizeAuditRead env principal workspaceId trail
    return .answer .done
  | organizationAdminWorkspace principal trail =>
    return .answer (.workspace (← Authorization.organizationAdminWorkspace env principal trail))
  | setMembership principal workspaceId userId role expectedVersion trail =>
    return .answer (.version
      (← Authorization.setMembership env principal workspaceId userId role expectedVersion trail))
  | setTenantRole principal userId role expectedVersion trail =>
    return .answer (.version
      (← Authorization.setTenantRole env principal userId role expectedVersion trail))
  | setSourceAccess principal workspaceId userId sourceVersionId allowed expectedVersion trail =>
    return .answer (.version (← Authorization.setSourceAccess env principal workspaceId userId
      sourceVersionId allowed expectedVersion trail))
  | setPermissionPolicy change => do
    checkPolicy env change
    return .wait (.policy change)
  | registerHistoricalResult principal descriptor trail => do
    checkRegistration env principal descriptor trail
    return .wait (.registration principal descriptor trail)
  | evaluateHistoricalAccess principal resultId action trail =>
    return .answer (.decided
      (← Authorization.evaluateHistoricalAccess env principal resultId action trail))
  | authorizeRerun principal resultId trail => decideRerun env principal resultId trail
  | approveJoinAccess tenantId workspaceId userId =>
    return .answer (.joined (← Authorization.approveJoinAccess tenantId workspaceId userId))
  | changeJoinRole tenantId workspaceId userId role expectedVersion =>
    return .answer (.joined
      (← Authorization.changeJoinRole tenantId workspaceId userId role expectedVersion))

def Waiting.transaction (env : Env) : Waiting → Txn Answer
  | registration principal descriptor trail => do
    recordResult env principal descriptor trail
    return .done
  | policy change => return .version (← changePolicy env change)
  | rerun principal resultId decision trail =>
    return .rerun (← snapshotRerun env principal resultId decision trail)

/-! ## The machine -/

structure System where
  db : Db
  waiting : List Waiting

structure Others where
  users : List UserRow
  tenants : List String
  identityMemberships : List IdentityMembershipRow
  workflow : List WorkflowRow

def Others.rows (others : Others) (db : Db) : Db
  | .users => others.users
  | .tenants => others.tenants
  | .identityMemberships => others.identityMemberships
  | .workflow => others.workflow
  | t => db t

inductive Input where
  | call (operation : Operation) (env : Env)
  | resume (n : Nat) (env : Env)
  | abandon (n : Nat)
  | others (others : Others)

def transact {α : Type} (p : Txn α) (db : Db) : Except AuthorizationError α × Db :=
  Call.atomically p.alone db

def service : Machine System Input (Option (Except AuthorizationError Answer)) where
  init := { db := Database.empty, waiting := [] }
  step s
    | .call operation env =>
      match transact (operation.transaction env) s.db with
      | (.ok (.answer a), db) => (some (.ok a), { s with db })
      | (.ok (.refuse e), db) => (some (.error e), { s with db })
      | (.ok (.wait waiting), db) => (none, { db, waiting := s.waiting ++ [waiting] })
      | (.error e, db) => (some (.error e), { s with db })
    | .resume n env =>
      match s.waiting[n]? with
      | none => (none, s)
      | some waiting =>
        let (answer, db) := transact (waiting.transaction env) s.db
        (some answer, { db, waiting := s.waiting.eraseIdx n })
    | .abandon n => (none, { s with waiting := s.waiting.eraseIdx n })
    | .others others => (none, { s with db := others.rows s.db })

/-! ## Steps -/

variable {env : Env} {db : Db} {s : System}

variable (env db) in
theorem changes_transaction (operation : Operation) :
    Call.Returns (operation.transaction env).alone db
      fun _ db' => Change db operation.deed db' := by
  cases operation with
  | bootstrapWorkspace tenantId workspaceId ownerUserId role workspaceKind dataArea costLimitCents =>
    simpa only [Operation.transaction, Program.returns_alone_bind, Program.returns_alone_pure,
      Operation.deed, Operation.principal] using changes_bootstrapWorkspace
  | authorizeAction principal workspaceId action trail requested =>
    simp only [Operation.transaction, Program.returns_alone_bind, Program.returns_alone_pure,
      returns_authorizeAction]
    intro _ _ _ _ _
    exact .same _
  | evaluatePermission principal workspaceId permission requested =>
    simp only [Operation.transaction, Program.returns_alone_bind, Program.returns_alone_pure]
    exact returns_evaluatePermission fun _ _ _ _ => .same _
  | authorizeAuditRead principal workspaceId trail =>
    simp only [Operation.transaction, Program.returns_alone_bind, Program.returns_alone_pure,
      returns_authorizeAuditRead]
    cases workspaceId with
    | none => exact fun _ _ _ _ _ => .same _
    | some workspaceId => exact fun _ _ _ _ _ => .same _
  | organizationAdminWorkspace principal trail =>
    simp only [Operation.transaction, Program.returns_alone_bind, Program.returns_alone_pure,
      returns_organizationAdminWorkspace]
    exact fun _ _ _ => .same _
  | setMembership principal workspaceId userId role expectedVersion trail =>
    simpa only [Operation.transaction, Program.returns_alone_bind, Program.returns_alone_pure,
      Operation.deed, Operation.principal] using changes_setMembership
  | setTenantRole principal userId role expectedVersion trail =>
    simp only [Operation.transaction, Program.returns_alone_bind, Program.returns_alone_pure]
    cases role with
    | none => exact changes_setTenantRole
    | some role => exact changes_setTenantRole
  | setSourceAccess principal workspaceId userId sourceVersionId allowed expectedVersion trail =>
    simpa only [Operation.transaction, Program.returns_alone_bind, Program.returns_alone_pure,
      Operation.deed, Operation.principal] using changes_setSourceAccess
  | setPermissionPolicy change =>
    simp only [Operation.transaction, checkPolicy, Program.returns_alone_bind,
      Program.returns_alone_pure, Program.returns_alone_ensure, Program.returns_alone_ite,
      returns_checkedIds, returns_workspace, returns_roleBinding, returns_denyUnless]
    exact fun _ => ⟨fun _ _ _ _ _ => .same _, fun _ _ _ _ => .same _⟩
  | registerHistoricalResult principal descriptor trail =>
    simp only [Operation.transaction, checkRegistration, Program.returns_alone_bind,
      Program.returns_alone_pure, Program.returns_alone_ensure, returns_authorizeAction]
    exact fun _ _ _ _ _ _ _ => .same _
  | evaluateHistoricalAccess principal resultId action trail =>
    simp only [Operation.transaction, Program.returns_alone_bind, Program.returns_alone_pure,
      returns_evaluateHistoricalAccess]
    exact fun _ _ _ decision _ _ _ => .decided principal decision
  | authorizeRerun principal resultId trail =>
    simp only [Operation.transaction, decideRerun, Program.returns_alone_bind,
      Program.returns_alone_ite, Program.returns_alone_pure, returns_evaluateHistoricalAccess]
    exact fun _ _ _ decision _ _ _ =>
      ⟨fun _ => .decided principal decision, fun _ => .decided principal decision⟩
  | approveJoinAccess tenantId workspaceId userId =>
    simpa only [Operation.transaction, Program.returns_alone_bind, Program.returns_alone_pure,
      Operation.deed, Operation.principal] using changes_approveJoinAccess
  | changeJoinRole tenantId workspaceId userId role expectedVersion =>
    simpa only [Operation.transaction, Program.returns_alone_bind, Program.returns_alone_pure,
      Operation.deed, Operation.principal] using changes_changeJoinRole

theorem changes_waiting (waiting : Waiting) :
    Call.Returns (waiting.transaction env).alone db
      fun _ db' => Change db { principal := some waiting.principal } db' := by
  cases waiting with
  | registration principal descriptor trail =>
    simpa only [Waiting.transaction, Program.returns_alone_bind, Program.returns_alone_pure,
      Waiting.principal] using changes_recordResult
  | policy change =>
    simpa only [Waiting.transaction, Program.returns_alone_bind, Program.returns_alone_pure,
      Waiting.principal] using changes_changePolicy
  | rerun principal resultId decision trail =>
    simp only [Waiting.transaction, Program.returns_alone_bind, Program.returns_alone_pure,
      returns_snapshotRerun]
    exact fun _ _ _ _ _ row _ _ _ => .rerun principal row

def Input.deed (s : System) : Input → Deed
  | call operation _ => operation.deed
  | resume n _ => { principal := s.waiting[n]?.map Waiting.principal }
  | abandon _ | others _ => {}

theorem leaves_transact {α : Type} {p : Txn α} {P : Db → Prop}
    (h : Call.Returns p.alone db fun _ => P) (hdb : P db) : P (transact p db).2 :=
  Call.leaves_atomically h hdb

theorem transact_of_raises {α : Type} {p : Txn α} (h : Call.Returns p.alone db fun _ _ => False) :
    ∃ e, transact p db = (.error e, db) := by
  rcases hp : p.alone db with ⟨e | a, db'⟩
  · exact ⟨e, by simp only [transact, Call.atomically, hp]⟩
  · exact (h a db' hp).elim

theorem transact_of_not_raises {α : Type} {p : Txn α}
    (h : ¬Call.Returns p.alone db fun _ _ => False) : ∃ a db', transact p db = (.ok a, db') := by
  rcases hp : p.alone db with ⟨e | a, db'⟩
  · refine absurd (fun a db' hreturns => ?_) h
    rw [hp] at hreturns
    cases hreturns
  · exact ⟨a, db', by simp only [transact, Call.atomically, hp]⟩

theorem change_next (s : System) (input : Input) :
    Change s.db (input.deed s) (service.next s input).db ∨
      ∃ others : Others, input = .others others ∧ (service.next s input).db = others.rows s.db := by
  cases input with
  | call operation env =>
    left
    have hchange := leaves_transact (changes_transaction env s.db operation) (.same _)
    unfold Machine.next service
    simp only
    rcases htransact : transact (operation.transaction env) s.db with ⟨e | outcome, db⟩ <;>
      rw [htransact] at hchange
    · exact hchange
    · cases outcome <;> exact hchange
  | resume n env =>
    left
    unfold Machine.next service
    simp only [Input.deed]
    cases hwaiting : s.waiting[n]? with
    | none => exact .same _
    | some waiting => exact leaves_transact (changes_waiting waiting) (.same _)
  | abandon n => exact Or.inl (.same _)
  | others others => exact Or.inr ⟨others, rfl, rfl⟩

theorem mem_waiting_next {input : Input} {waiting : Waiting}
    (h : waiting ∈ (service.next s input).waiting) :
    waiting ∈ s.waiting ∨ ∃ operation env db, input = .call operation env ∧
      transact (operation.transaction env) s.db = (.ok (.wait waiting), db) := by
  unfold Machine.next service at h
  cases input with
  | call operation env =>
    simp only at h
    rcases htransact : transact (operation.transaction env) s.db with ⟨e | outcome, db⟩ <;>
      rw [htransact] at h
    · exact Or.inl h
    · cases outcome with
      | answer answer => exact Or.inl h
      | refuse e => exact Or.inl h
      | wait other =>
        rcases List.mem_append.1 h with hold | hnew
        · exact Or.inl hold
        · obtain rfl := List.mem_singleton.1 hnew
          exact Or.inr ⟨operation, env, db, rfl, htransact⟩
  | resume n env =>
    simp only at h
    split at h
    · exact Or.inl h
    · exact Or.inl (List.mem_of_mem_eraseIdx h)
  | abandon n => exact Or.inl (List.mem_of_mem_eraseIdx h)
  | others others => exact Or.inl h

/-! ## A tenant to run things in -/

def sampleOwner : IdentityPrincipal := { userId := "owner", tenantId := "tenant" }

def sampleTrail : Trail := { traceId := "trace", policyVersion := "policy" }

def sampleEnv (token : String) : Env := { now := 0, token, audits := true }

def founding (role : Role) (workspaceKind : String) : List Input :=
  [.call (.bootstrapWorkspace "tenant" "workspace" "owner" role workspaceKind "cloud" 0)
    (sampleEnv "founding")]

end DaonUser.Authorization
