import DaonUser.Identity.Suspension

/-!
# Identity: the protected actions of a tenant

Whatever adds a member to a tenant also adds the tenant's protected actions, or adds to a tenant that
has them: that of an organization. `create_user` of an administrator does neither.
-/

namespace DaonUser.Identity

open Lib

variable {config : PlatformConfig} {powers : Powers} {permit : Permit} {db db' : Db}

/-- Every tenant with a member has its protected actions. -/
def AllProtected (db : Db) : Prop := ∀ row ∈ db .memberships, Protects db row.tenantId

/-- So has the tenant of every workspace of an organization. -/
structure Seeded (db : Db) : Prop where
  memberships : AllProtected db
  organizations : ∀ w ∈ db .authWorkspaces, w.workspaceKind = "organization" → Protects db w.tenantId

theorem seeded_empty : Seeded Database.empty := ⟨nofun, nofun⟩

def ActionsStay (db db' : Db) : Prop :=
  ∀ row ∈ db .tenantStepUpActions, row ∈ db' .tenantStepUpActions

theorem Protects.stays {tenantId : String} (h : Protects db tenantId) (hstay : ActionsStay db db') :
    Protects db' tenantId := by
  intro group hgroup
  obtain ⟨row, hrow, hkeys⟩ := h group hgroup
  exact ⟨row, hstay row hrow, hkeys⟩

theorem ActionsStay.of_eq (h : db' .tenantStepUpActions = db .tenantStepUpActions) :
    ActionsStay db db' := by
  intro row hrow
  rwa [h]

theorem Seeded.step (h : Seeded db) (hstay : ActionsStay db db')
    (hmembers : ∀ row ∈ db' .memberships,
      (∃ row' ∈ db .memberships, row'.tenantId = row.tenantId) ∨ Protects db' row.tenantId)
    (hworkspaces : ∀ w ∈ db' .authWorkspaces, w ∈ db .authWorkspaces ∨
      (w.workspaceKind = "organization" → Protects db' w.tenantId)) : Seeded db' where
  memberships := by
    intro row hrow
    rcases hmembers row hrow with ⟨row', hrow', hid⟩ | hnew
    · exact hid ▸ (h.memberships row' hrow').stays hstay
    · exact hnew
  organizations := by
    intro w hw hkind
    rcases hworkspaces w hw with hold | hnew
    · exact (h.organizations w hold hkind).stays hstay
    · exact hnew hkind

theorem Seeded.congr (h : Seeded db)
    (hactions : db' .tenantStepUpActions = db .tenantStepUpActions)
    (hmemberships : db' .memberships = db .memberships)
    (hworkspaces : db' .authWorkspaces = db .authWorkspaces) : Seeded db' := by
  refine h.step (.of_eq hactions) ?_ ?_
  · rw [hmemberships]
    exact fun row hrow => Or.inl ⟨row, hrow, rfl⟩
  · rw [hworkspaces]
    exact fun _ hw => Or.inl hw

theorem actionsStay_seed (tenantId : String) (db : Db) :
    ActionsStay db (seedMinimumStepUpActions tenantId db) :=
  fun _ hrow => mem_seed tenantId minimumStepUpActionGroups hrow

theorem Change.seeded (h : Change permit db db') (hs : Seeded db) : Seeded db' := by
  cases h with
  | joined row =>
    refine hs.step (fun action haction => ?_) (fun row' hrow' => ?_) fun w hw => Or.inl ?_
    · exact actionsStay_seed _ _ action (by simpa using haction)
    · rw [seedMinimumStepUpActions_of_ne (by simp)] at hrow'
      rcases Database.mem_insertOrIgnore hrow' with hold | rfl
      · exact Or.inl ⟨row', hold, rfl⟩
      · exact Or.inr (protects_seed _ _)
    · simpa using hw
  | noted t row hlog hadmits =>
    have hne : ∀ t', Table.isLog t' = false → t' ≠ t := by
      rintro t' hlog' rfl
      rw [hlog] at hlog'
      cases hlog'
    exact hs.congr (Database.insert_of_ne (hne _ rfl)) (Database.insert_of_ne (hne _ rfl))
      (Database.insert_of_ne (hne _ rfl))
  | _ => exact hs.congr (by simp) (by simp) (by simp)

theorem Move.seeded (h : Move powers db db') (hnone : ∀ row, ¬powers.enrolls row) (hs : Seeded db) :
    Seeded db' := by
  cases h with
  | identity h => exact h.seeded hs
  | enrolled row hadmits henrolls =>
    have hstay : ActionsStay db (db.insert .memberships row) := .of_eq (by simp)
    refine hs.step hstay (fun row' hrow' => ?_) fun w hw => Or.inl (by simpa using hw)
    rw [Database.insert_self] at hrow'
    rcases List.mem_append.1 hrow' with hold | hnew
    · exact Or.inl ⟨row', hold, rfl⟩
    · obtain ⟨w, hw, htenant, hkind⟩ := henrolls.resolve_left (hnone row)
      rw [List.mem_singleton.1 hnew, ← htenant]
      exact Or.inr ((hs.organizations w hw hkind).stays hstay)
  | appointed row =>
    refine hs.step (fun action haction => ?_) (fun row' hrow' => ?_) fun w hw => Or.inl ?_
    · exact actionsStay_seed _ _ action (by simpa using haction)
    · rw [seedMinimumStepUpActions_of_ne (by simp)] at hrow'
      rcases Database.mem_upsert hrow' with hold | rfl | ⟨old, hold, rfl⟩
      · exact Or.inl ⟨row', hold, rfl⟩
      · exact Or.inr (protects_seed _ _)
      · exact Or.inl ⟨old, hold, rfl⟩
    · simpa using hw
  | emailed userId address =>
    exact hs.congr (by simp [setEmail]) (by simp [setEmail]) (by simp [setEmail])
  | stated row after now hrow hafter hactivates =>
    exact hs.congr (stateChanged_of_ne (by simp) (by simp) (by simp))
      (stateChanged_of_ne (by simp) (by simp) (by simp))
      (stateChanged_of_ne (by simp) (by simp) (by simp))
  | workspace row hprotects =>
    have hstay : ActionsStay db (db.insert .authWorkspaces row) := .of_eq (by simp)
    refine hs.step hstay (fun row' hrow' => Or.inl ⟨row', by simpa using hrow', rfl⟩) fun w hw => ?_
    rw [Database.insert_self] at hw
    rcases List.mem_append.1 hw with hold | hnew
    · exact Or.inl hold
    · rw [List.mem_singleton.1 hnew]
      exact Or.inr fun hkind => (hprotects hkind).stays hstay
  | authorized h => exact hs.congr (h _ rfl) (h _ rfl) (h _ rfl)

theorem Moves.seeded (h : Moves powers db db') (hnone : ∀ row, ¬powers.enrolls row) (hs : Seeded db) :
    Seeded db' :=
  h.keeps (fun _ _ hmove hs => hmove.seeded hnone hs) hs

theorem Deletes.seeded {userId : String} (h : Deletes userId db db') (hs : Seeded db) :
    Seeded db' := by
  cases h with
  | kept => exact hs
  | deleted intent =>
    refine hs.step (.of_eq (by simp [deleteAccount])) (fun row hrow => ?_) fun w hw => ?_
    · have hrows : ((deleteAccount userId db).insert .adminAuditOutbox intent : Db) .memberships =
          (db .memberships).filter fun row => !decide (row.userId = userId) := by
        simp [deleteAccount]
      rw [hrows] at hrow
      exact Or.inl ⟨row, (List.mem_filter.1 hrow).1, rfl⟩
    · exact Or.inl (by simpa [deleteAccount] using hw)

/-! ## Histories -/

/-- The input would make an account by `create_user`. -/
def PlatformInput.CreatesAccount (config : PlatformConfig) (db : Db) : PlatformInput → Prop
  | admin _ principal (.createUser loginId email _ idempotencyKey _ _) =>
    MakesAccount config.prim config.admins db principal loginId email idempotencyKey
  | _ => False

def enrollingPowers : Powers where
  revives _ := True
  resets _ := True
  uses _ _ := True
  activates _ := True
  enrolls _ := False

theorem permitted_of_uncreated {i : PlatformInput} (h : ¬i.CreatesAccount config db) :
    i.Permitted enrollingPowers config db := by
  cases i with
  | identity env operation => exact operation.permitted_all env
  | admin env principal operation =>
    cases operation with
    | createUser => exact fun hmakes => h hmakes
    | changeState => exact fun _ => trivial
    | _ => trivial
  | organization env operation => trivial
  | others rows => trivial

theorem platform_seeded (hs : Seeded db) {i : PlatformInput} (hnone : ¬i.CreatesAccount config db) :
    Seeded ((platform config).next db i) := by
  cases htarget : i.target with
  | none => exact (i.leaves htarget (permitted_of_uncreated hnone)).seeded (fun _ => id) hs
  | some target => exact (PlatformInput.deletes htarget).seeded hs

end DaonUser.Identity
