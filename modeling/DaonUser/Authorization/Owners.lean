import DaonUser.Authorization.History

/-!
# Authorization: workspaces of one kind and the tenant roles of it

All workspaces of a tenant are of one kind, and its active tenant roles are those of that kind
(`Coherent`). A tenant keeps an active holder of its role as long as nobody takes it from the last one
(`Kept`): `set_tenant_role` looks only at the row that it changes.
-/

namespace DaonUser.Authorization

open Lib

variable {role : Role} {row : WorkspaceRow} {ownerUserId : String} {holder : TenantRoleRow}

variable {db db' : Db} {deed : Deed}

/-! ## Kinds and roles -/

theorem workspaceKind_of_ownerRole {kind : String} (h : ownerRole kind = some role) :
    role.workspaceKind = some kind := by
  unfold ownerRole at h
  split at h
  · next hkind =>
    obtain rfl := Option.some.inj h
    rw [hkind]
    rfl
  · split at h
    · next hkind =>
      obtain rfl := Option.some.inj h
      rw [hkind]
      rfl
    · cases h

theorem workspaceKind_of_tenantRoleOf {kinds : List String} (h : tenantRoleOf kinds = some role) :
    kinds ≠ [] ∧ ∀ kind ∈ kinds, role.workspaceKind = some kind := by
  unfold tenantRoleOf at h
  split at h
  · next hkinds =>
    obtain rfl := Option.some.inj h
    exact ⟨hkinds.1, fun kind hkind => by rw [hkinds.2 kind hkind]; rfl⟩
  · split at h
    · next hkinds =>
      obtain rfl := Option.some.inj h
      exact ⟨hkinds.1, fun kind hkind => by rw [hkinds.2 kind hkind]; rfl⟩
    · cases h

/-- The workspaces of a tenant are of one kind and its active roles are for that kind. A tenant role
stands in a tenant that has a workspace. -/
structure Coherent (db : Db) : Prop where
  kind : ∀ workspace ∈ db .workspaces, ∀ other ∈ db .workspaces, workspace.tenantId = other.tenantId →
    workspace.workspaceKind = other.workspaceKind
  role : ∀ holder ∈ db .tenantRoles, holder.state = .active →
    ∀ workspace ∈ db .workspaces, workspace.tenantId = holder.tenantId →
      holder.role.workspaceKind = some workspace.workspaceKind
  settled : ∀ holder ∈ db .tenantRoles, ∃ workspace ∈ db .workspaces,
    workspace.tenantId = holder.tenantId

/-- A rewriting of the workspaces that moves none and changes no kind. -/
structure Steady (f : WorkspaceRow → WorkspaceRow) : Prop where
  tenantId : ∀ row, (f row).tenantId = row.tenantId
  workspaceId : ∀ row, (f row).workspaceId = row.workspaceId
  workspaceKind : ∀ row, (f row).workspaceKind = row.workspaceKind

theorem steady_id : Steady fun row => row := ⟨fun _ => rfl, fun _ => rfl, fun _ => rfl⟩

theorem roles_change (h : Change db deed db') :
    (∃ f, Steady f ∧ db' .workspaces = (db .workspaces).map f ∧ db' .tenantRoles = db .tenantRoles) ∨
    (∃ row ownerUserId role, ownerRole row.workspaceKind = some role ∧
      (∀ other ∈ db .workspaces, other.tenantId = row.tenantId →
        other.workspaceKind = row.workspaceKind) ∧
      (tenantRoleRow db row.tenantId ownerUserId).all (TenantRoleRow.owns role) = true ∧
      db' = bootstrapped row ownerUserId role db) ∨
    ∃ (principal : IdentityPrincipal) (holder row : TenantRoleRow),
      row.tenantId = principal.tenantId ∧ activeRole db principal = some holder ∧
      (row.state = .active → tenantRoleOf (((db .workspaces).filter fun other =>
        other.tenantId = row.tenantId).map (·.workspaceKind)) = some row.role) ∧
      (row.state = .active ∨ deed.revoked = some row.userId) ∧ deed.principal = some principal ∧
      db' = (db.upsert .tenantRoles row fun _ => row : Db) := by
  have hraised : ∀ {db' : Db} {tenantId workspaceId : String}, db' .workspaces = db .workspaces →
      db' .tenantRoles = db .tenantRoles →
      ∃ f, Steady f ∧ aclRaised tenantId workspaceId db' .workspaces = (db .workspaces).map f ∧
        aclRaised tenantId workspaceId db' .tenantRoles = db .tenantRoles := by
    intro db' tenantId workspaceId hsame hroles
    refine ⟨_, ⟨fun row => ?_, fun row => ?_, fun row => ?_⟩, by
      rw [aclRaised, Database.update_self, hsame], by rw [aclRaised_of_ne (by decide), hroles]⟩ <;>
        split <;> rfl
  cases h with
  | bootstrapped hrole hacl hfree hkinds howner hpolicy =>
    exact Or.inr (Or.inl ⟨_, _, _, hrole, hkinds, howner, rfl⟩)
  | tenantRoleSet htenant hactor hrole hversion =>
    refine Or.inr (Or.inr ⟨_, _, _, htenant, hactor, hrole, ?_, rfl, rfl⟩)
    split
    · next hactive => exact Or.inl hactive
    · exact Or.inr rfl
  | memberSet =>
    exact Or.inl (hraised (Database.upsert_of_ne (by decide)) (Database.upsert_of_ne (by decide)))
  | sourceSet =>
    exact Or.inl (hraised (Database.upsert_of_ne (by decide)) (Database.upsert_of_ne (by decide)))
  | joined => exact Or.inl (hraised (by simp) (by simp))
  | joinRoleSet =>
    exact Or.inl (hraised (Database.update_of_ne (by decide)) (Database.update_of_ne (by decide)))
  | _ => exact Or.inl ⟨_, steady_id, by simp [rulePut], by simp [rulePut]⟩

theorem bootstrapped_workspaces :
    bootstrapped row ownerUserId role db .workspaces = db .workspaces ++ [row] := by
  simp [bootstrapped]

theorem mem_bootstrapped_tenantRoles (h : holder ∈ bootstrapped row ownerUserId role db .tenantRoles) :
    holder ∈ db .tenantRoles ∨
      holder = { tenantId := row.tenantId, userId := ownerUserId, role, state := .active } := by
  simp only [bootstrapped, ne_eq, reduceCtorEq, not_false_eq_true, Database.insert_of_ne,
    Database.insertOrIgnore_of_ne] at h
  simpa using Database.mem_insertOrIgnore h

theorem mem_upsert_tenantRoles {row : TenantRoleRow}
    (h : holder ∈ (db.upsert .tenantRoles row fun _ => row : Db) .tenantRoles) :
    holder ∈ db .tenantRoles ∨ holder = row := by
  rcases Database.mem_upsert h with hold | rfl | ⟨-, -, rfl⟩
  · exact Or.inl hold
  · exact Or.inr rfl
  · exact Or.inr rfl

theorem Coherent.congr (h : Coherent db) {f : WorkspaceRow → WorkspaceRow} (hf : Steady f)
    (hworkspaces : db' .workspaces = (db .workspaces).map f)
    (hroles : db' .tenantRoles = db .tenantRoles) : Coherent db' where
  kind := by
    rw [hworkspaces]
    intro workspace hworkspace other hother htenant
    obtain ⟨old, hold, rfl⟩ := List.mem_map.1 hworkspace
    obtain ⟨old', hold', rfl⟩ := List.mem_map.1 hother
    rw [hf.tenantId, hf.tenantId] at htenant
    rw [hf.workspaceKind, hf.workspaceKind]
    exact h.kind old hold old' hold' htenant
  role := by
    rw [hworkspaces, hroles]
    intro holder hholder hactive workspace hworkspace htenant
    obtain ⟨old, hold, rfl⟩ := List.mem_map.1 hworkspace
    rw [hf.tenantId] at htenant
    rw [hf.workspaceKind]
    exact h.role holder hholder hactive old hold htenant
  settled := by
    rw [hworkspaces, hroles]
    intro holder hholder
    obtain ⟨workspace, hworkspace, htenant⟩ := h.settled holder hholder
    exact ⟨f workspace, List.mem_map_of_mem hworkspace, (hf.tenantId workspace).trans htenant⟩

theorem coherent_bootstrapped (h : Coherent db) (hrole : ownerRole row.workspaceKind = some role)
    (hkinds : ∀ other ∈ db .workspaces, other.tenantId = row.tenantId →
      other.workspaceKind = row.workspaceKind) :
    Coherent (bootstrapped row ownerUserId role db) := by
  -- the kind of every workspace of the tenant is that of the new one
  have hall : ∀ workspace ∈ bootstrapped row ownerUserId role db .workspaces,
      workspace.tenantId = row.tenantId → workspace.workspaceKind = row.workspaceKind := by
    intro workspace hworkspace htenant
    rw [bootstrapped_workspaces] at hworkspace
    rcases List.mem_append.1 hworkspace with hold | hnew
    · exact hkinds workspace hold htenant
    · rw [List.mem_singleton.1 hnew]
  have hold : ∀ workspace ∈ bootstrapped row ownerUserId role db .workspaces,
      workspace.tenantId ≠ row.tenantId → workspace ∈ db .workspaces := by
    intro workspace hworkspace htenant
    rw [bootstrapped_workspaces] at hworkspace
    rcases List.mem_append.1 hworkspace with hold | hnew
    · exact hold
    · exact absurd (by rw [List.mem_singleton.1 hnew]) htenant
  refine ⟨fun workspace hworkspace other hother htenant => ?_,
    fun holder hholder hactive workspace hworkspace htenant => ?_, fun holder hholder => ?_⟩
  · by_cases hnew : workspace.tenantId = row.tenantId
    · rw [hall workspace hworkspace hnew, hall other hother (htenant.symm.trans hnew)]
    · exact h.kind workspace (hold workspace hworkspace hnew) other
        (hold other hother fun h => hnew (htenant.trans h)) htenant
  · rcases mem_bootstrapped_tenantRoles hholder with hholder | rfl
    · by_cases hnew : workspace.tenantId = row.tenantId
      · obtain ⟨settled, hsettled, hsame⟩ := h.settled holder hholder
        rw [hall workspace hworkspace hnew,
          ← hkinds settled hsettled (hsame.trans (htenant.symm.trans hnew))]
        exact h.role holder hholder hactive settled hsettled hsame
      · exact h.role holder hholder hactive workspace (hold workspace hworkspace hnew) htenant
    · rw [workspaceKind_of_ownerRole hrole, hall workspace hworkspace htenant]
  · rw [bootstrapped_workspaces]
    rcases mem_bootstrapped_tenantRoles hholder with hholder | rfl
    · obtain ⟨workspace, hworkspace, htenant⟩ := h.settled holder hholder
      exact ⟨workspace, List.mem_append_left _ hworkspace, htenant⟩
    · exact ⟨row, List.mem_append_right _ (List.mem_singleton_self row), rfl⟩

theorem coherent_roleSet (h : Coherent db) {row : TenantRoleRow}
    (hrole : row.state = .active → tenantRoleOf (((db .workspaces).filter fun other =>
      other.tenantId = row.tenantId).map (·.workspaceKind)) = some row.role)
    (hheld : ∃ holder ∈ db .tenantRoles, holder.tenantId = row.tenantId) :
    Coherent (db.upsert .tenantRoles row fun _ => row) := by
  have hworkspaces : (db.upsert .tenantRoles row fun _ => row : Db) .workspaces = db .workspaces :=
    Database.upsert_of_ne (by decide)
  refine ⟨hworkspaces ▸ h.kind, fun holder hholder hactive => ?_, fun holder hholder => ?_⟩
  · rw [hworkspaces]
    rcases mem_upsert_tenantRoles hholder with hold | rfl
    · exact h.role holder hold hactive
    · intro workspace hworkspace htenant
      refine (workspaceKind_of_tenantRoleOf (hrole hactive)).2 _ (List.mem_map_of_mem ?_)
      exact List.mem_filter.2 ⟨hworkspace, by simpa using htenant⟩
  · rw [hworkspaces]
    rcases mem_upsert_tenantRoles hholder with hold | rfl
    · exact h.settled holder hold
    · obtain ⟨other, hother, hsame⟩ := hheld
      obtain ⟨workspace, hworkspace, htenant⟩ := h.settled other hother
      exact ⟨workspace, hworkspace, htenant.trans hsame⟩

theorem activeRole_mem {principal : IdentityPrincipal}
    (h : activeRole db principal = some holder) : holder ∈ db .tenantRoles ∧
      holder.tenantId = principal.tenantId ∧ holder.userId = principal.userId ∧
      holder.state = .active := by
  obtain ⟨hfound, hactive⟩ := Option.filter_eq_some_iff.1 h
  have hkeys : holder.tenantId = principal.tenantId ∧ holder.userId = principal.userId := by
    simpa using List.find?_some hfound
  exact ⟨List.mem_of_find?_eq_some hfound, hkeys.1, hkeys.2, by simpa using hactive⟩

theorem coherent_change (h : Coherent db) (hchange : Change db deed db') : Coherent db' := by
  obtain ⟨f, hf, hworkspaces, hroles⟩ | ⟨row, ownerUserId, role, hrole, hkinds, -, rfl⟩ |
    ⟨principal, holder, row, htenant, hactor, hrole, -, -, rfl⟩ := roles_change hchange
  · exact h.congr hf hworkspaces hroles
  · exact coherent_bootstrapped h hrole hkinds
  · obtain ⟨hmem, hsame, -, -⟩ := activeRole_mem hactor
    exact coherent_roleSet h hrole ⟨holder, hmem, hsame.trans htenant.symm⟩

theorem coherent_next {s : System} (h : Coherent s.db) (input : Input) :
    Coherent (service.next s input).db := by
  rcases change_next s input with hchange | ⟨others, -, hrows⟩
  · exact coherent_change h hchange
  · rw [hrows]
    exact ⟨h.kind, h.role, h.settled⟩

theorem coherent_empty : Coherent Database.empty where
  kind _ h := by cases h
  role _ h := by cases h
  settled _ h := by cases h

theorem coherent_reachable {s : System} (h : service.Reachable s) : Coherent s.db :=
  h.induction (I := fun s => Coherent s.db) coherent_empty fun _ input hs => coherent_next hs input

/-! ## The last holder -/

/-- An active tenant role. -/
def Holds (db : Db) (tenantId userId : String) : Prop :=
  ∃ holder ∈ db .tenantRoles, holder.tenantId = tenantId ∧ holder.userId = userId ∧
    holder.state = .active

/-- The workspaces of a tenant are of one kind, its active roles are those of that kind, and there is
one as soon as there is a workspace. -/
structure Kept (db : Db) : Prop where
  kind : ∀ workspace ∈ db .workspaces, ∀ other ∈ db .workspaces, workspace.tenantId = other.tenantId →
    workspace.workspaceKind = other.workspaceKind
  role : ∀ holder ∈ db .tenantRoles, holder.state = .active →
    ∀ workspace ∈ db .workspaces, workspace.tenantId = holder.tenantId →
      holder.role.workspaceKind = some workspace.workspaceKind
  held : ∀ workspace ∈ db .workspaces, ∃ userId, Holds db workspace.tenantId userId

/-- A step that takes the tenant role from a user only while somebody else holds it. -/
def Spares (s : System) (input : Input) : Prop :=
  ∀ principal ∈ (input.deed s).principal, ∀ userId ∈ (input.deed s).revoked,
    ∃ other, other ≠ userId ∧ Holds s.db principal.tenantId other

theorem holds_upsert {tenantId userId : String} {row : TenantRoleRow} (h : Holds db tenantId userId)
    (hrow : row.userId = userId → row.tenantId = tenantId → row.state = .active) :
    Holds (db.upsert .tenantRoles row fun _ => row) tenantId userId := by
  obtain ⟨holder, hholder, rfl, rfl, hactive⟩ := h
  by_cases hkey : row.tenantId = holder.tenantId ∧ row.userId = holder.userId
  · have hfound : tenantRoleRow (db.upsert .tenantRoles row fun _ => row) row.tenantId row.userId =
        some row := by
      rw [tenantRoleRow_upsert, if_pos ⟨rfl, rfl⟩]
    exact ⟨row, List.mem_of_find?_eq_some hfound, hkey.1, hkey.2, hrow hkey.2 hkey.1⟩
  · refine ⟨holder, ?_, rfl, rfl, hactive⟩
    unfold Database.upsert
    split
    · rw [Database.insert_self]
      exact List.mem_append_left _ hholder
    · rw [Database.update_self]
      refine List.mem_map.2 ⟨holder, hholder, if_neg fun hclash => hkey ?_⟩
      simp only [Table.clash, Bool.and_eq_true, decide_eq_true_eq] at hclash
      exact ⟨hclash.1.symm, hclash.2.symm⟩

theorem holds_bootstrapped_of_holds {tenantId userId : String} (h : Holds db tenantId userId) :
    Holds (bootstrapped row ownerUserId role db) tenantId userId := by
  obtain ⟨holder, hholder, hkeys⟩ := h
  refine ⟨holder, ?_, hkeys⟩
  simp only [bootstrapped, ne_eq, reduceCtorEq, not_false_eq_true, Database.insert_of_ne,
    Database.insertOrIgnore_of_ne]
  exact Database.mem_insertOrIgnore_of_mem (by simpa using hholder)

theorem holds_bootstrapped
    (howner : (tenantRoleRow db row.tenantId ownerUserId).all (TenantRoleRow.owns role) = true) :
    Holds (bootstrapped row ownerUserId role db) row.tenantId ownerUserId := by
  have hfound : tenantRoleRow (bootstrapped row ownerUserId role db) row.tenantId ownerUserId =
      (tenantRoleRow db row.tenantId ownerUserId).or
        (some { tenantId := row.tenantId, userId := ownerUserId, role, state := .active }) := by
    rw [tenantRoleRow_bootstrapped, if_pos ⟨rfl, rfl⟩]
  cases hold : tenantRoleRow db row.tenantId ownerUserId with
  | none =>
    rw [hold, Option.none_or] at hfound
    exact ⟨_, List.mem_of_find?_eq_some hfound, rfl, rfl, rfl⟩
  | some holder =>
    rw [hold, Option.some_or] at hfound
    rw [hold, Option.all_some, TenantRoleRow.owns, Bool.and_eq_true, decide_eq_true_eq,
      decide_eq_true_eq] at howner
    have hkeys : holder.tenantId = row.tenantId ∧ holder.userId = ownerUserId := by
      simpa using List.find?_some hold
    exact ⟨holder, List.mem_of_find?_eq_some hfound, hkeys.1, hkeys.2, howner.2⟩

/-- Every tenant with a workspace has an active holder of its role. -/
def Held (db : Db) : Prop := ∀ workspace ∈ db .workspaces, ∃ userId, Holds db workspace.tenantId userId

theorem held_change (h : Held db) (hchange : Change db deed db')
    (hspares : ∀ principal ∈ deed.principal, ∀ userId ∈ deed.revoked,
      ∃ other, other ≠ userId ∧ Holds db principal.tenantId other) : Held db' := by
  obtain ⟨f, hf, hworkspaces, hroles⟩ | ⟨row, ownerUserId, role, -, -, howner, rfl⟩ |
    ⟨principal, holder, row, htenant, hactor, -, hstate, hprincipal, rfl⟩ := roles_change hchange
  · intro workspace hworkspace
    rw [hworkspaces] at hworkspace
    obtain ⟨old, hold, rfl⟩ := List.mem_map.1 hworkspace
    obtain ⟨userId, hholds⟩ := h old hold
    rw [hf.tenantId]
    exact ⟨userId, by rw [Holds, hroles]; exact hholds⟩
  · intro workspace hworkspace
    rw [bootstrapped_workspaces] at hworkspace
    rcases List.mem_append.1 hworkspace with hold | hnew
    · obtain ⟨userId, hholds⟩ := h workspace hold
      exact ⟨userId, holds_bootstrapped_of_holds hholds⟩
    · rw [List.mem_singleton.1 hnew]
      exact ⟨ownerUserId, holds_bootstrapped howner⟩
  · intro workspace hworkspace
    rw [Database.upsert_of_ne (by decide)] at hworkspace
    obtain ⟨userId, hholds⟩ := h workspace hworkspace
    by_cases hsame : row.tenantId = workspace.tenantId
    · rcases hstate with hactive | hrevoked
      · exact ⟨userId, holds_upsert hholds fun _ _ => hactive⟩
      · obtain ⟨other, hother, hholds'⟩ := hspares principal hprincipal row.userId hrevoked
        rw [← htenant, hsame] at hholds'
        exact ⟨other, holds_upsert hholds' fun huser _ => absurd huser.symm hother⟩
    · exact ⟨userId, holds_upsert hholds fun _ htenant' => absurd htenant' hsame⟩

def abdication : List Input :=
  founding .personalOwner "personal" ++
    [.call (.setTenantRole sampleOwner "owner" none 1 sampleTrail) (sampleEnv "abdication")]

end DaonUser.Authorization
