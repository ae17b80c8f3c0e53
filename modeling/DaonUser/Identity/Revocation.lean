import DaonUser.Identity.Service

/-!
# Identity: what revocation is

`Sound` is what holds of sessions, families of refresh tokens and devices whatever is called: a session is
on a device of its user and on no revoked one while it is active, and a family belongs to one session, which
is not revoked before the family is. `Lasting` says that nothing that is revoked comes back.
-/

namespace DaonUser.Identity

open Lib

variable {row : SessionRow} {p : SessionRow → Bool} {now : Int}

/-! ## Later rows -/

structure DeviceRow.Later (row row' : DeviceRow) : Prop where
  deviceId : row'.deviceId = row.deviceId
  tenantId : row'.tenantId = row.tenantId
  userId : row'.userId = row.userId
  revoked : row.state = .revoked → row'.state = .revoked

/-- A revoked session also keeps its access token. -/
structure SessionRow.Later (row row' : SessionRow) : Prop where
  sessionId : row'.sessionId = row.sessionId
  tenantId : row'.tenantId = row.tenantId
  userId : row'.userId = row.userId
  deviceId : row'.deviceId = row.deviceId
  revoked : row.state = .revoked → row'.state = .revoked
  accessDigest : row.state = .revoked → row'.accessDigest = row.accessDigest

structure FamilyRow.Later (row row' : FamilyRow) : Prop where
  familyId : row'.familyId = row.familyId
  sessionId : row'.sessionId = row.sessionId
  revoked : row.state = .revoked → row'.state = .revoked

theorem DeviceRow.Later.refl (row : DeviceRow) : row.Later row := ⟨rfl, rfl, rfl, id⟩

theorem SessionRow.Later.refl (row : SessionRow) : row.Later row :=
  ⟨rfl, rfl, rfl, rfl, id, fun _ => rfl⟩

theorem FamilyRow.Later.refl (row : FamilyRow) : row.Later row := ⟨rfl, rfl, id⟩

theorem DeviceRow.Later.trans {a b c : DeviceRow} (h : a.Later b) (h' : b.Later c) : a.Later c where
  deviceId := h'.deviceId.trans h.deviceId
  tenantId := h'.tenantId.trans h.tenantId
  userId := h'.userId.trans h.userId
  revoked := fun hrevoked => h'.revoked (h.revoked hrevoked)

theorem SessionRow.Later.trans {a b c : SessionRow} (h : a.Later b) (h' : b.Later c) :
    a.Later c where
  sessionId := h'.sessionId.trans h.sessionId
  tenantId := h'.tenantId.trans h.tenantId
  userId := h'.userId.trans h.userId
  deviceId := h'.deviceId.trans h.deviceId
  revoked := fun hrevoked => h'.revoked (h.revoked hrevoked)
  accessDigest := fun hrevoked =>
    (h'.accessDigest (h.revoked hrevoked)).trans (h.accessDigest hrevoked)

theorem FamilyRow.Later.trans {a b c : FamilyRow} (h : a.Later b) (h' : b.Later c) : a.Later c where
  familyId := h'.familyId.trans h.familyId
  sessionId := h'.sessionId.trans h.sessionId
  revoked := fun hrevoked => h'.revoked (h.revoked hrevoked)

/-- The devices, sessions and families of a later database follow those of an earlier one. -/
structure Lasting (db db' : Db) : Prop where
  devices : Persists DeviceRow.Later (db .devices) (db' .devices)
  sessions : Persists SessionRow.Later (db .sessions) (db' .sessions)
  families : Persists FamilyRow.Later (db .refreshFamilies) (db' .refreshFamilies)

theorem Lasting.refl (db : Db) : Lasting db db :=
  ⟨Persists.refl DeviceRow.Later.refl _, Persists.refl SessionRow.Later.refl _,
    Persists.refl FamilyRow.Later.refl _⟩

theorem Lasting.trans {db db' db'' : Db} (h : Lasting db db') (h' : Lasting db' db'') :
    Lasting db db'' :=
  ⟨h.devices.trans DeviceRow.Later.trans h'.devices,
    h.sessions.trans SessionRow.Later.trans h'.sessions,
    h.families.trans FamilyRow.Later.trans h'.families⟩

structure SessionRow.On (row : SessionRow) (device : DeviceRow) : Prop where
  deviceId : device.deviceId = row.deviceId
  tenantId : device.tenantId = row.tenantId
  userId : device.userId = row.userId

structure Sound (db : Db) : Prop where
  devices : db.Keyed .devices
  sessions : db.Keyed .sessions
  families : db.Keyed .refreshFamilies
  /-- An active session is on a device that is not revoked. -/
  onDevice : ∀ row ∈ db .sessions, ∃ device ∈ db .devices,
    row.On device ∧ (row.state = .active → device.state ≠ .revoked)
  /-- The families of a revoked session are revoked. -/
  ofSession : ∀ family ∈ db .refreshFamilies, ∃ row ∈ db .sessions,
    row.sessionId = family.sessionId ∧ (row.state = .revoked → family.state = .revoked)
  /-- A session has one family. -/
  alone : ∀ family ∈ db .refreshFamilies, ∀ family' ∈ db .refreshFamilies,
    family.sessionId = family'.sessionId → family.familyId = family'.familyId

variable {db db' : Db}

theorem Sound.eq_of_sessionId (h : Sound db) {row' : SessionRow} (hrow : row ∈ db .sessions)
    (hrow' : row' ∈ db .sessions) (hid : row.sessionId = row'.sessionId) : row = row' :=
  h.sessions.eq hrow hrow' (by simp [Table.clash, hid])

theorem Sound.eq_of_accessDigest (h : Sound db) {row' : SessionRow} (hrow : row ∈ db .sessions)
    (hrow' : row' ∈ db .sessions) (hdigest : row.accessDigest = row'.accessDigest) : row = row' :=
  h.sessions.eq hrow hrow' (by simp [Table.clash, hdigest])

theorem Sound.eq_of_deviceId (h : Sound db) {row row' : DeviceRow} (hrow : row ∈ db .devices)
    (hrow' : row' ∈ db .devices) (hid : row.deviceId = row'.deviceId) : row = row' :=
  h.devices.eq hrow hrow' (by simp [Table.clash, hid])

theorem Sound.congr (h : Sound db) (hdevices : db' .devices = db .devices)
    (hsessions : db' .sessions = db .sessions)
    (hfamilies : db' .refreshFamilies = db .refreshFamilies) : Sound db' ∧ Lasting db db' := by
  refine ⟨⟨h.devices.congr hdevices, h.sessions.congr hsessions, h.families.congr hfamilies,
    ?_, ?_, ?_⟩, Persists.of_eq DeviceRow.Later.refl hdevices,
    Persists.of_eq SessionRow.Later.refl hsessions, Persists.of_eq FamilyRow.Later.refl hfamilies⟩
  · rw [hsessions, hdevices]
    exact h.onDevice
  · rw [hfamilies, hsessions]
    exact h.ofSession
  · rw [hfamilies]
    exact h.alone

theorem Sound.rewrite (h : Sound db) {d : DeviceRow → DeviceRow}
    {s : SessionRow → SessionRow} {f : FamilyRow → FamilyRow}
    (hdevices : db' .devices = (db .devices).map d)
    (hsessions : db' .sessions = (db .sessions).map s)
    (hfamilies : db' .refreshFamilies = (db .refreshFamilies).map f)
    (hkeyed : db'.Keyed .sessions)
    (hdevice : ∀ row ∈ db .devices, row.Later (d row))
    (hsession : ∀ row ∈ db .sessions, row.Later (s row))
    (hfamily : ∀ row ∈ db .refreshFamilies, row.Later (f row))
    (hlive : ∀ row ∈ db .sessions, (s row).state = .active → row.state = .active ∧
      ∀ device ∈ db .devices, row.On device → device.state ≠ .revoked →
        (d device).state ≠ .revoked)
    (hover : ∀ row ∈ db .sessions, ∀ family ∈ db .refreshFamilies,
      row.sessionId = family.sessionId → (s row).state = .revoked →
        row.state = .revoked ∨ (f family).state = .revoked) :
    Sound db' ∧ Lasting db db' := by
  have hdeviceKey : ∀ row row', row ∈ db .devices → row' ∈ db .devices →
      Table.clash .devices (d row) (d row') = Table.clash .devices row row' := by
    intro row row' hrow hrow'
    simp only [Table.clash, (hdevice row hrow).deviceId, (hdevice row' hrow').deviceId]
  have hfamilyKey : ∀ row row', row ∈ db .refreshFamilies → row' ∈ db .refreshFamilies →
      Table.clash .refreshFamilies (f row) (f row') =
        Table.clash .refreshFamilies row row' := by
    intro row row' hrow hrow'
    simp only [Table.clash, (hfamily row hrow).familyId, (hfamily row' hrow').familyId]
  refine ⟨⟨?_, hkeyed, ?_, ?_, ?_, ?_⟩, ?_, ?_, ?_⟩
  · exact h.devices.map hdevices hdeviceKey
  · exact h.families.map hfamilies hfamilyKey
  · rw [hsessions, hdevices]
    intro row' hrow'
    obtain ⟨row, hrow, rfl⟩ := List.mem_map.1 hrow'
    obtain ⟨device, hmem, hon, hactive⟩ := h.onDevice row hrow
    have hlater := hsession row hrow
    have hlaterDevice := hdevice device hmem
    refine ⟨d device, List.mem_map_of_mem hmem, ⟨?_, ?_, ?_⟩, fun hactive' => ?_⟩
    · rw [hlaterDevice.deviceId, hlater.deviceId, hon.deviceId]
    · rw [hlaterDevice.tenantId, hlater.tenantId, hon.tenantId]
    · rw [hlaterDevice.userId, hlater.userId, hon.userId]
    · obtain ⟨hbefore, hkept⟩ := hlive row hrow hactive'
      exact hkept device hmem hon (hactive hbefore)
  · rw [hfamilies, hsessions]
    intro family' hfamily'
    obtain ⟨family, hmem, rfl⟩ := List.mem_map.1 hfamily'
    obtain ⟨row, hrow, hid, hrevoked⟩ := h.ofSession family hmem
    have hlater := hfamily family hmem
    refine ⟨s row, List.mem_map_of_mem hrow, ?_, fun hrevoked' => ?_⟩
    · rw [(hsession row hrow).sessionId, hlater.sessionId, hid]
    · rcases hover row hrow family hmem hid hrevoked' with hbefore | hafter
      · exact hlater.revoked (hrevoked hbefore)
      · exact hafter
  · rw [hfamilies]
    intro family₁ hfamily₁ family₂ hfamily₂ hid
    obtain ⟨family, hmem, rfl⟩ := List.mem_map.1 hfamily₁
    obtain ⟨family', hmem', rfl⟩ := List.mem_map.1 hfamily₂
    rw [(hfamily family hmem).familyId, (hfamily family' hmem').familyId]
    rw [(hfamily family hmem).sessionId, (hfamily family' hmem').sessionId] at hid
    exact h.alone family hmem family' hmem' hid
  · rw [hdevices]
    exact Persists.map hdevice
  · rw [hsessions]
    exact Persists.map hsession
  · rw [hfamilies]
    exact Persists.map hfamily

section Opened

variable {prim : Primitives} {env : Env} {o : Opening}

def Opening.families (o : Opening) (env : Env) : List FamilyRow :=
  match o.clientKind with
  | .web => []
  | .native => [o.family env]

theorem Opening.rows_devices : o.rows prim env db .devices = db .devices ++ [o.device env] := by
  obtain ⟨tenantId, userId, platform, clientKind, openedAt, accessExpiresAt⟩ := o
  cases clientKind <;> simp [Opening.rows, Opening.device]

theorem Opening.rows_sessions : o.rows prim env db .sessions = db .sessions ++ [o.session prim env] := by
  obtain ⟨tenantId, userId, platform, clientKind, openedAt, accessExpiresAt⟩ := o
  cases clientKind <;> simp [Opening.rows, Opening.session]

theorem Opening.rows_families :
    o.rows prim env db .refreshFamilies = db .refreshFamilies ++ o.families env := by
  obtain ⟨tenantId, userId, platform, clientKind, openedAt, accessExpiresAt⟩ := o
  cases clientKind <;> simp [Opening.rows, Opening.families]

theorem Opening.mem_families {family : FamilyRow} (h : family ∈ o.families env) :
    family.familyId = env.id "fam" ∧ family.sessionId = env.id "ses" := by
  unfold Opening.families at h
  split at h
  · cases h
  · rw [List.mem_singleton] at h
    subst h
    exact ⟨rfl, rfl⟩

theorem Sound.opened (h : Sound db) (hadmits : o.Admitted prim env db) :
    Sound (o.rows prim env db) ∧ Lasting db (o.rows prim env db) := by
  have hnew : ∀ family ∈ db .refreshFamilies, family.sessionId ≠ env.id "ses" := by
    intro family hfamily hid
    obtain ⟨row, hrow, hrowId, -⟩ := h.ofSession family hfamily
    exact (hadmits.fresh hrow).1 (hrowId.trans hid)
  refine ⟨⟨?_, ?_, ?_, ?_, ?_, ?_⟩, ?_, ?_, ?_⟩
  · exact (h.devices.insert hadmits.device).congr (by rw [Opening.rows_devices, Database.insert_self])
  · exact (h.sessions.insert hadmits.session).congr
      (by rw [Opening.rows_sessions, Database.insert_self])
  · unfold Database.Keyed
    rw [Opening.rows_families]
    cases hkind : o.clientKind with
    | web => simpa [Database.Keyed, Opening.families, hkind] using h.families
    | native =>
      have hkeyed := h.families.insert (hadmits.family hkind)
      simpa [Database.Keyed, Opening.families, hkind] using hkeyed
  · rw [Opening.rows_sessions, Opening.rows_devices]
    intro row hrow
    rcases List.mem_append.1 hrow with hrow | hrow
    · obtain ⟨device, hdevice, hon⟩ := h.onDevice row hrow
      exact ⟨device, List.mem_append_left _ hdevice, hon⟩
    · rw [List.mem_singleton] at hrow
      subst hrow
      exact ⟨o.device env, List.mem_append_right _ (List.mem_singleton_self _), ⟨rfl, rfl, rfl⟩,
        fun _ hrevoked => by cases hrevoked⟩
  · rw [Opening.rows_families, Opening.rows_sessions]
    intro family hfamily
    rcases List.mem_append.1 hfamily with hfamily | hfamily
    · obtain ⟨row, hrow, hof⟩ := h.ofSession family hfamily
      exact ⟨row, List.mem_append_left _ hrow, hof⟩
    · exact ⟨o.session prim env, List.mem_append_right _ (List.mem_singleton_self _),
        (Opening.mem_families hfamily).2.symm, fun hrevoked => by cases hrevoked⟩
  · rw [Opening.rows_families]
    intro family hfamily family' hfamily' hid
    rcases List.mem_append.1 hfamily with hfamily | hfamily <;>
      rcases List.mem_append.1 hfamily' with hfamily' | hfamily'
    · exact h.alone family hfamily family' hfamily' hid
    · exact absurd (hid.trans (Opening.mem_families hfamily').2) (hnew family hfamily)
    · exact absurd (hid.symm.trans (Opening.mem_families hfamily).2) (hnew family' hfamily')
    · rw [(Opening.mem_families hfamily).1, (Opening.mem_families hfamily').1]
  · rw [Opening.rows_devices]
    exact Persists.append DeviceRow.Later.refl _ _
  · rw [Opening.rows_sessions]
    exact Persists.append SessionRow.Later.refl _ _
  · rw [Opening.rows_families]
    exact Persists.append FamilyRow.Later.refl _ _

end Opened

/-! ## The rows of a revocation -/

/-- The rewriting of an `UPDATE`. -/
def onRows {α : Type} (p : α → Bool) (set : α → α) (row : α) : α := if p row then set row else row

theorem SessionRow.later_revoke (p : SessionRow → Bool) (now : Int) (row : SessionRow) :
    row.Later (onRows p (SessionRow.revoke now) row) := by
  unfold onRows
  split
  · exact ⟨rfl, rfl, rfl, rfl, fun _ => rfl, fun _ => rfl⟩
  · exact .refl row

theorem FamilyRow.later_revoke (p : FamilyRow → Bool) (now : Int) (row : FamilyRow) :
    row.Later (onRows p (FamilyRow.revoke now) row) := by
  unfold onRows
  split
  · exact ⟨rfl, rfl, fun _ => rfl⟩
  · exact .refl row

theorem DeviceRow.later_revoke (p : DeviceRow → Bool) (now : Int) (row : DeviceRow) :
    row.Later (onRows p (DeviceRow.revoke now) row) := by
  unfold onRows
  split
  · exact ⟨rfl, rfl, rfl, fun _ => rfl⟩
  · exact .refl row

theorem SessionRow.active_of_revoke
    (h : (onRows p (SessionRow.revoke now) row).state = .active) : row.state = .active ∧ p row = false := by
  unfold onRows at h
  split at h
  · cases h
  · next hp => exact ⟨h, by simpa using hp⟩

theorem SessionRow.revoked_of_revoke (h : (onRows p (SessionRow.revoke now) row).state = .revoked) :
    row.state = .revoked ∨ p row = true := by
  unfold onRows at h
  split at h
  · next hp => exact Or.inr hp
  · exact Or.inl h

theorem FamilyRow.revoked_of {p : FamilyRow → Bool} {row : FamilyRow} (h : p row = true) :
    (onRows p (FamilyRow.revoke now) row).state = .revoked := by
  rw [onRows, if_pos h]
  rfl

theorem Sound.revoke (h : Sound db) {d : DeviceRow → DeviceRow}
    {q : FamilyRow → Bool} (hdevices : db' .devices = (db .devices).map d)
    (hsessions : db' .sessions = (db .sessions).map (onRows p (SessionRow.revoke now)))
    (hfamilies : db' .refreshFamilies =
      (db .refreshFamilies).map (onRows q (FamilyRow.revoke now)))
    (hdevice : ∀ row ∈ db .devices, row.Later (d row))
    (hlive : ∀ row ∈ db .sessions, p row = false → ∀ device ∈ db .devices, row.On device →
      device.state ≠ .revoked → (d device).state ≠ .revoked)
    (hover : ∀ row ∈ db .sessions, p row = true → ∀ family ∈ db .refreshFamilies,
      row.sessionId = family.sessionId → q family = true) : Sound db' ∧ Lasting db db' := by
  refine h.rewrite hdevices hsessions hfamilies ?_ hdevice (fun row _ => row.later_revoke p now)
    (fun row _ => row.later_revoke q now) ?_ ?_
  · refine h.sessions.map hsessions fun row row' _ _ => ?_
    have hsame : ∀ row : SessionRow, (onRows p (SessionRow.revoke now) row).sessionId = row.sessionId ∧
        (onRows p (SessionRow.revoke now) row).accessDigest = row.accessDigest := by
      intro row
      unfold onRows
      split <;> exact ⟨rfl, rfl⟩
    simp only [Table.clash, (hsame row).1, (hsame row).2, (hsame row').1, (hsame row').2]
  · intro row hrow hactive
    obtain ⟨hbefore, hp⟩ := SessionRow.active_of_revoke hactive
    exact ⟨hbefore, hlive row hrow hp⟩
  · intro row hrow family hfamily hid hrevoked
    rcases SessionRow.revoked_of_revoke hrevoked with hbefore | hp
    · exact Or.inl hbefore
    · exact Or.inr (FamilyRow.revoked_of (hover row hrow hp family hfamily hid))

theorem Sound.revokeSessions (h : Sound db) {q : FamilyRow → Bool} (hdevices : db' .devices = db .devices)
    (hsessions : db' .sessions = (db .sessions).map (onRows p (SessionRow.revoke now)))
    (hfamilies : db' .refreshFamilies =
      (db .refreshFamilies).map (onRows q (FamilyRow.revoke now)))
    (hover : ∀ row ∈ db .sessions, p row = true → ∀ family ∈ db .refreshFamilies,
      row.sessionId = family.sessionId → q family = true) : Sound db' ∧ Lasting db db' :=
  h.revoke (d := id) (by rw [hdevices, List.map_id]) hsessions hfamilies
    (fun row _ => .refl row) (fun _ _ _ _ _ _ hstate => hstate) hover

theorem any_of_revoked (hp : ∀ row, p (row.revoke now) = p row)
    (hrow : row ∈ db .sessions) (hprow : p row = true) {family : FamilyRow}
    (hid : row.sessionId = family.sessionId) :
    (((db .sessions).map (onRows p (SessionRow.revoke now))).any fun row =>
      p row && row.sessionId = family.sessionId) = true := by
  rw [List.any_eq_true]
  refine ⟨_, List.mem_map_of_mem hrow, ?_⟩
  rw [onRows, if_pos hprow, hp, hprow, Bool.true_and, decide_eq_true_eq]
  exact hid

theorem Sound.writeDevices (h : Sound db) {p : DeviceRow → Bool} {set : DeviceRow → DeviceRow}
    (hset : ∀ row ∈ db .devices, p row = true → row.Later (set row))
    (hkept : ∀ row ∈ db .devices, p row = true → row.state ≠ .revoked → (set row).state ≠ .revoked) :
    Sound (db.update .devices p set) ∧ Lasting db (db.update .devices p set) := by
  refine h.rewrite (d := onRows p set) (s := id) (f := id)
    (by rw [Database.update_self]; rfl) (by simp) (by simp) (h.sessions.congr (by simp)) ?_
    (fun row _ => .refl row) (fun row _ => .refl row) ?_ fun _ _ _ _ _ hrevoked => Or.inl hrevoked
  · intro row hrow
    unfold onRows
    split
    · next hp => exact hset row hrow hp
    · exact .refl row
  · intro row _ hactive
    refine ⟨hactive, fun device hdevice _ hstate => ?_⟩
    unfold onRows
    split
    · next hp => exact hkept device hdevice hp hstate
    · exact hstate

variable {permit : Permit}

theorem Sound.renewed (h : Sound db) {sessionId accessDigest : String}
    (hactive : ∃ row ∈ db .sessions, row.sessionId = sessionId ∧ row.state = .active)
    (hdigest : ∀ row ∈ db .sessions, row.sessionId = sessionId ∨ row.accessDigest ≠ accessDigest) :
    Sound (renewed sessionId accessDigest now db) ∧
      Lasting db (renewed sessionId accessDigest now db) := by
  obtain ⟨session, hsession, hid, hstate⟩ := hactive
  have honly : ∀ row ∈ db .sessions, row.sessionId = sessionId → row = session := by
    intro row hrow hrowId
    exact h.eq_of_sessionId hrow hsession (hrowId.trans hid.symm)
  let set := onRows (fun row : SessionRow => row.sessionId = sessionId)
    (SessionRow.renew accessDigest now)
  have hset : ∀ row : SessionRow, (set row).sessionId = row.sessionId ∧
      (set row).state = row.state := by
    intro row
    simp only [set, onRows]
    split <;> exact ⟨rfl, rfl⟩
  refine h.rewrite (d := id) (s := set) (f := id) (by simp)
    (by rw [Identity.renewed, Database.update_self]; rfl) (by simp) ?_ (fun row _ => .refl row)
    ?_ (fun row _ => .refl row) ?_ ?_
  · unfold Database.Keyed
    rw [Identity.renewed, Database.update_self, List.pairwise_map]
    refine List.Pairwise.imp_of_mem (fun {row row'} hrow hrow' hclash => ?_) h.sessions
    change Table.clash .sessions (set row) (set row') = false
    simp only [Table.clash, Bool.or_eq_false_iff, decide_eq_false_iff_not, (hset _).1] at hclash ⊢
    refine ⟨hclash.1, ?_⟩
    have hother : ∀ row ∈ db .sessions, row.sessionId ≠ sessionId → row.accessDigest ≠ accessDigest :=
      fun row hrow hne => (hdigest row hrow).resolve_left hne
    by_cases hrowId : row.sessionId = sessionId
    · have hne : row'.sessionId ≠ sessionId := fun hrowId' => hclash.1 (hrowId.trans hrowId'.symm)
      simpa [set, onRows, hrowId, hne, SessionRow.renew] using (hother row' hrow' hne).symm
    · by_cases hrowId' : row'.sessionId = sessionId
      · simpa [set, onRows, hrowId, hrowId', SessionRow.renew] using hother row hrow hrowId
      · simpa [set, onRows, hrowId, hrowId'] using hclash.2
  · intro row hrow
    simp only [set, onRows]
    split
    · next hrowId =>
      have hrowState : row.state = .active := by
        rw [honly row hrow (by simpa using hrowId)]
        exact hstate
      exact ⟨rfl, rfl, rfl, rfl, id, fun hrevoked => by rw [hrowState] at hrevoked; cases hrevoked⟩
    · exact .refl row
  · intro row _ hrow
    rw [(hset row).2] at hrow
    exact ⟨hrow, fun _ _ _ hdevice => hdevice⟩
  · intro row _ _ _ _ hrow
    rw [(hset row).2] at hrow
    exact Or.inl hrow

theorem Change.sound (h : Change permit db db') (hs : Sound db) : Sound db' ∧ Lasting db db' := by
  cases h with
  | tenant => exact hs.congr (by simp) (by simp) (by simp)
  | joined row => exact hs.congr (by simp) (by simp) (by simp)
  | user => exact hs.congr (by simp) (by simp) (by simp)
  | password => exact hs.congr (by simp) (by simp) (by simp)
  | verified => exact hs.congr (by simp) (by simp) (by simp)
  | noted t row hlog =>
    have hne : ∀ t', t'.isLog = false → t' ≠ t := by
      rintro t' ht' rfl
      rw [hlog] at ht'
      cases ht'
    exact hs.congr (Database.insert_of_ne (hne _ rfl)) (Database.insert_of_ne (hne _ rfl))
      (Database.insert_of_ne (hne _ rfl))
  | verificationUsed => exact hs.congr (by simp) (by simp) (by simp)
  | resetIssued => exact hs.congr (by simp) (by simp) (by simp)
  | resetUsed => exact hs.congr (by simp) (by simp) (by simp)
  | seen deviceId now =>
    exact hs.writeDevices (fun _ _ _ => ⟨rfl, rfl, rfl, id⟩) fun _ _ _ hstate => hstate
  | opened prim env o hadmits => exact hs.opened hadmits
  | userRevoked userId now =>
    exact hs.revokeSessions (p := fun row => row.userId = userId) (by simp) rfl rfl
      fun row hrow hp family _ hid => any_of_revoked (fun _ => rfl) hrow hp hid
  | sessionRevoked sessionId now =>
    refine hs.revokeSessions (p := fun row => row.sessionId = sessionId && row.state = .active)
      (q := fun family => family.sessionId = sessionId) (by simp) rfl rfl
      fun row _ hp family _ hid => ?_
    simp only [Bool.and_eq_true, decide_eq_true_eq] at hp ⊢
    exact hid.symm.trans hp.1
  | familyRevoked family now hfamily =>
    refine hs.revokeSessions (p := fun row => row.sessionId = family.sessionId)
      (q := fun other => other.familyId = family.familyId) (by simp) rfl rfl
      fun row _ hp family' hfamily' hid => ?_
    simp only [decide_eq_true_eq] at hp ⊢
    exact hs.alone family' hfamily' family hfamily (hid.symm.trans hp)
  | refreshUsed => exact hs.congr (by simp) (by simp) (by simp)
  | renewed sessionId accessDigest now hactive hdigest => exact hs.renewed hactive hdigest
  | trusted deviceId now hdevice =>
    obtain ⟨device, hmem, hid, hstate⟩ := hdevice
    refine hs.writeDevices (fun row hrow hrowId => ⟨rfl, rfl, rfl, fun hrevoked => ?_⟩)
      fun _ _ _ _ => nofun
    have heq : row = device := hs.eq_of_deviceId hrow hmem (by rw [hid]; simpa using hrowId)
    exact absurd hrevoked (heq ▸ hstate)
  | deviceRevoked deviceId tenantId userId now =>
    refine hs.revoke (p := SessionRow.isOnDevice deviceId tenantId userId) rfl rfl rfl
      (fun row _ => row.later_revoke (DeviceRow.isTarget deviceId tenantId userId) now) ?_
      fun row hrow hp family _ hid => any_of_revoked (fun _ => rfl) hrow hp hid
    intro row _ hp device _ hon hstate
    have hdevice : device.isTarget deviceId tenantId userId = false := by
      rw [DeviceRow.isTarget, hon.deviceId, hon.tenantId, hon.userId]
      exact hp
    change (onRows (DeviceRow.isTarget deviceId tenantId userId) (DeviceRow.revoke now) device).state
      ≠ .revoked
    rwa [onRows, if_neg (by simp [hdevice])]
  | granted => exact hs.congr (by simp) (by simp) (by simp)
  | grantUsed => exact hs.congr (by simp) (by simp) (by simp)
  | oidcUsed => exact hs.congr (by simp) (by simp) (by simp)

theorem Runs.sound (h : Runs permit db db') (hs : Sound db) : Sound db' ∧ Lasting db db' := by
  refine h.keeps (I := fun db' => Sound db' ∧ Lasting db db') ?_ ⟨hs, .refl db⟩
  rintro db₁ db₂ hchange ⟨hs₁, hlasting⟩
  obtain ⟨hs₂, hlater⟩ := hchange.sound hs₁
  exact ⟨hs₂, hlasting.trans hlater⟩

theorem sound_empty : Sound Database.empty :=
  ⟨Database.keyed_empty, Database.keyed_empty, Database.keyed_empty, nofun, nofun, nofun⟩

theorem service_sound (config : Config) (hs : Sound db) (i : Input) :
    Sound ((service config).next db i) ∧ Lasting db ((service config).next db i) := by
  cases i with
  | call env operation => exact (operation.leaves (operation.permitted_all env)).sound hs
  | others rows => exact hs.congr rfl rfl rfl

theorem sound_runFrom (config : Config) (hs : Sound db) (is : List Input) :
    Sound ((service config).runFrom db is) ∧ Lasting db ((service config).runFrom db is) := by
  refine (service config).runFrom_induction (I := fun db' => Sound db' ∧ Lasting db db') ?_
    ⟨hs, .refl db⟩ is
  rintro db' i ⟨hs', hlasting⟩
  obtain ⟨hnext, hlater⟩ := service_sound config hs' i
  exact ⟨hnext, hlasting.trans hlater⟩

theorem sound_run (config : Config) (is : List Input) : Sound ((service config).run is) :=
  (sound_runFrom config sound_empty is).1

theorem lasting_run (config : Config) (is js : List Input) :
    Lasting ((service config).run is) ((service config).run (is ++ js)) := by
  rw [Machine.run_append]
  exact (sound_runFrom config (sound_run config is) js).2

end DaonUser.Identity
