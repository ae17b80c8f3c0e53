import DaonUser.Authorization.Results
import DaonUser.Lib.Numeral
import DaonUser.Lib.Versions

/-!
# Authorization: what the versions of a decision stand for

Every change of a role, of a membership, of the rules of a policy or of the sources of a workspace raises a
version that no change lowers: that of the row, of the policy, or of the access list of the workspace. A
decision records them all, so two decisions that record the same versions have met the same rows.
-/

namespace DaonUser.Authorization

open Lib

/-! ## The versioned contents -/

def stamped {α : Type} (version : α → ℕ) (row : Option α) : ℕ × Option α :=
  (versionOf version row, row)

theorem later_stamped_some {α : Type} {version : α → ℕ} {old : Option α} {row : α}
    (h : version row = versionOf version old + 1) :
    Later (stamped version old) (stamped version (some row)) := by
  refine .of_lt ?_
  change versionOf version old < version row
  rw [h]
  exact Nat.lt_succ_self _

theorem later_stamped_or {α : Type} {version : α → ℕ} {old new : Option α}
    (h : ∀ row, new = some row → 0 < version row) :
    Later (stamped version old) (stamped version (old.or new)) := by
  cases old with
  | some row => exact .refl _
  | none =>
    cases new with
    | none => exact .refl _
    | some row => exact .of_lt (h row rfl)

section Contents

variable (db : Db) (tenantId workspaceId userId : String)

def roleContent : ℕ × Option TenantRoleRow :=
  stamped TenantRoleRow.version (tenantRoleRow db tenantId userId)

def memberContent : ℕ × Option MembershipRow :=
  stamped MembershipRow.version (membershipRow db tenantId workspaceId userId)

def policyContent (scope : Option String) : ℕ × (Permission → Option RuleRow) :=
  (versionOf PolicyRow.version (policyRow db tenantId scope), ruleRow db tenantId scope)

def sourceContent : ℕ × (String → String → Option SourceAccessRow) :=
  (versionOf WorkspaceRow.aclVersion (workspaceRow db tenantId workspaceId),
    sourceRow db tenantId workspaceId)

end Contents

variable {db db' : Db} {deed : Deed} {tenantId workspaceId userId : String}

theorem roleContent_congr (h : db' .tenantRoles = db .tenantRoles) :
    roleContent db' tenantId userId = roleContent db tenantId userId := by
  simp only [roleContent, tenantRoleRow, h]

theorem memberContent_congr (h : db' .memberships = db .memberships) :
    memberContent db' tenantId workspaceId userId = memberContent db tenantId workspaceId userId := by
  simp only [memberContent, membershipRow, h]

theorem ruleRow_congr {scope : Option String} (h : db' .rules = db .rules) :
    ruleRow db' tenantId scope = ruleRow db tenantId scope := by
  funext permission
  simp only [ruleRow, h]

theorem sourceRow_congr (h : db' .sourceAccess = db .sourceAccess) :
    sourceRow db' tenantId workspaceId = sourceRow db tenantId workspaceId := by
  funext userId sourceVersionId
  simp only [sourceRow, h]

theorem policyContent_congr {scope : Option String} (h : db' .policies = db .policies)
    (h' : db' .rules = db .rules) :
    policyContent db' tenantId scope = policyContent db tenantId scope := by
  simp only [policyContent, policyRow, h, ruleRow_congr h']

theorem sourceContent_congr (h : db' .workspaces = db .workspaces)
    (h' : db' .sourceAccess = db .sourceAccess) :
    sourceContent db' tenantId workspaceId = sourceContent db tenantId workspaceId := by
  simp only [sourceContent, workspaceRow, h, sourceRow_congr h']

theorem later_role (h : Change db deed db') :
    Later (roleContent db tenantId userId) (roleContent db' tenantId userId) := by
  cases h with
  | @tenantRoleSet principal actor row htenant hactor hrole hversion =>
    rw [roleContent, roleContent, tenantRoleRow_upsert]
    split
    · next hkey =>
      obtain ⟨rfl, rfl⟩ := hkey
      exact later_stamped_some hversion
    · exact .refl _
  | bootstrapped =>
    rw [roleContent, roleContent, tenantRoleRow_bootstrapped]
    refine later_stamped_or fun row hrow => ?_
    split at hrow
    · obtain rfl := Option.some.inj hrow
      exact Nat.one_pos
    · cases hrow
  | _ => exact .of_eq (roleContent_congr (by simp [memberPut, sourcePut, rulePut, joined, joinRolePut]))

theorem later_member (h : Change db deed db') :
    Later (memberContent db tenantId workspaceId userId)
      (memberContent db' tenantId workspaceId userId) := by
  cases h with
  | @memberSet principal workspace binding row htenant hopen hbinding hassign hversion =>
    have hfound : memberContent (memberPut row db) tenantId workspaceId userId =
        memberContent (db.upsert .memberships row fun _ => row) tenantId workspaceId userId :=
      memberContent_congr (aclRaised_of_ne (by decide))
    rw [hfound, memberContent, memberContent, membershipRow_upsert]
    split
    · next hkey =>
      obtain ⟨rfl, rfl, rfl⟩ := hkey
      exact later_stamped_some hversion
    · exact .refl _
  | joined =>
    rw [memberContent, memberContent, membershipRow_joined]
    refine later_stamped_or fun row hrow => ?_
    split at hrow
    · obtain rfl := Option.some.inj hrow
      exact Nat.one_pos
    · cases hrow
  | joinRoleSet =>
    rw [memberContent, memberContent, membershipRow_joinRolePut]
    cases membershipRow db tenantId workspaceId userId with
    | none => exact .refl _
    | some row =>
      rw [Option.map_some]
      split
      · exact later_stamped_some rfl
      · exact .refl _
  | _ => exact .of_eq (memberContent_congr (by simp [bootstrapped, sourcePut, rulePut]))

theorem later_aclRaised {t w : String} (hsame : db' .workspaces = db .workspaces)
    (hrow : (workspaceRow db t w).isSome = true)
    (hrules : ¬(t = tenantId ∧ w = workspaceId) →
      sourceRow db' tenantId workspaceId = sourceRow db tenantId workspaceId) :
    Later (sourceContent db tenantId workspaceId)
      (sourceContent (aclRaised t w db') tenantId workspaceId) := by
  have hfound : workspaceRow db' = workspaceRow db := by
    funext t w
    simp only [workspaceRow, hsame]
  have hsources : sourceRow (aclRaised t w db') tenantId workspaceId =
      sourceRow db' tenantId workspaceId :=
    sourceRow_congr (aclRaised_of_ne (by decide))
  by_cases hkey : t = tenantId ∧ w = workspaceId
  · obtain ⟨rfl, rfl⟩ := hkey
    obtain ⟨row, hrow⟩ := Option.isSome_iff_exists.1 hrow
    have hkeys : row.tenantId = t ∧ row.workspaceId = w := by
      simpa using List.find?_some hrow
    refine .of_lt ?_
    simp only [sourceContent, workspaceRow_aclRaised, hfound, hrow, Option.map_some, if_pos hkeys,
      versionOf, Option.elim_some]
    exact Nat.lt_succ_self _
  · refine .of_eq ?_
    have hacl : versionOf WorkspaceRow.aclVersion (workspaceRow (aclRaised t w db') tenantId workspaceId) =
        versionOf WorkspaceRow.aclVersion (workspaceRow db tenantId workspaceId) := by
      rw [workspaceRow_aclRaised, hfound]
      cases hrow' : workspaceRow db tenantId workspaceId with
      | none => rfl
      | some row =>
        have hkeys : row.tenantId = tenantId ∧ row.workspaceId = workspaceId := by
          simpa using List.find?_some hrow'
        rw [Option.map_some, if_neg fun h => hkey ⟨h.1.symm.trans hkeys.1, h.2.symm.trans hkeys.2⟩]
    simp only [sourceContent, hacl, hsources, hrules hkey]

theorem later_source (h : Change db deed db') :
    Later (sourceContent db tenantId workspaceId) (sourceContent db' tenantId workspaceId) := by
  cases h with
  | @memberSet principal workspace binding row htenant hopen hbinding hassign hversion =>
    refine later_aclRaised (Database.upsert_of_ne (by decide)) ?_ fun _ =>
      sourceRow_congr (Database.upsert_of_ne (by decide))
    rw [htenant, hopen.found, Option.isSome_some]
  | @sourceSet principal workspace binding row htenant hopen hbinding hmanages hversion =>
    refine later_aclRaised (Database.upsert_of_ne (by decide)) ?_ fun hkey => ?_
    · rw [htenant, hopen.found, Option.isSome_some]
    · funext userId sourceVersionId
      exact sourceRow_upsert_of_ne hkey
  | joined hworkspace hfree =>
    exact later_aclRaised (by simp) hworkspace fun _ => sourceRow_congr (by simp)
  | joinRoleSet hworkspace hrole =>
    exact later_aclRaised (Database.update_of_ne (by decide)) hworkspace fun _ =>
      sourceRow_congr (Database.update_of_ne (by decide))
  | @bootstrapped row ownerUserId role hrole hacl hfree hkinds howner hpolicy =>
    have hsources : sourceRow (bootstrapped row ownerUserId role db) tenantId workspaceId =
        sourceRow db tenantId workspaceId := sourceRow_congr (by simp [bootstrapped])
    rw [sourceContent, sourceContent, workspaceRow_bootstrapped, hsources]
    cases workspaceRow db tenantId workspaceId with
    | some old => exact .refl _
    | none =>
      split
      · refine .of_lt ?_
        change 0 < row.aclVersion
        rw [hacl]
        exact Nat.one_pos
      · exact .refl _
  | _ => exact .of_eq (sourceContent_congr (by simp [rulePut]) (by simp [rulePut]))

theorem later_policy {scope : Option String} (h : Change db deed db') :
    Later (policyContent db tenantId scope) (policyContent db' tenantId scope) := by
  cases h with
  | @bootstrapped row ownerUserId role hrole hacl hfree hkinds howner hpolicy =>
    have hrules : ruleRow (bootstrapped row ownerUserId role db) tenantId scope =
        ruleRow db tenantId scope := ruleRow_congr (by simp [bootstrapped])
    rw [policyContent, policyContent, policyRow_bootstrapped, hrules]
    cases policyRow db tenantId scope with
    | some old => exact .refl _
    | none =>
      split
      · exact .of_lt Nat.one_pos
      · exact .refl _
  | @policySet change workspace binding header row htenant hwithin hopen hbinding hallows hheader =>
    have hheaders : policyRow (rulePut (header.version + 1) row db) tenantId scope =
        (policyRow db tenantId scope).map fun found =>
          if found.tenantId = row.tenantId ∧ found.workspaceId = row.workspaceId then
            { found with version := header.version + 1 } else found := by
      unfold policyRow rulePut
      rw [Database.upsert_of_ne (by decide)]
      refine (@Database.find?_update schema .policies db _ _ _ ?_).trans ?_
      · intro other
        rfl
      · simp only [Bool.and_eq_true, decide_eq_true_eq]
    by_cases hkey : row.tenantId = tenantId ∧ row.workspaceId = scope
    · obtain ⟨rfl, rfl⟩ := hkey
      have hkeys : header.tenantId = row.tenantId ∧ header.workspaceId = row.workspaceId := by
        simpa using List.find?_some hheader
      refine .of_lt ?_
      simp only [policyContent, hheaders, hheader, Option.map_some, if_pos hkeys, versionOf,
        Option.elim_some]
      exact Nat.lt_succ_self _
    · have hversion : versionOf PolicyRow.version (policyRow (rulePut (header.version + 1) row db)
          tenantId scope) = versionOf PolicyRow.version (policyRow db tenantId scope) := by
        rw [hheaders]
        cases hrow' : policyRow db tenantId scope with
        | none => rfl
        | some found =>
          have hkeys : found.tenantId = tenantId ∧ found.workspaceId = scope := by
            simpa using List.find?_some hrow'
          rw [Option.map_some, if_neg fun h => hkey ⟨h.1.symm.trans hkeys.1, h.2.symm.trans hkeys.2⟩]
      have hrules : ruleRow (rulePut (header.version + 1) row db) tenantId scope =
          ruleRow db tenantId scope := by
        funext permission
        rw [rulePut, ruleRow_upsert, if_neg fun h => hkey ⟨h.1, h.2.1⟩]
        exact congrFun (ruleRow_congr (Database.update_of_ne (by decide))) permission
      refine .of_eq ?_
      simp only [policyContent, hversion, hrules]
  | _ => exact .of_eq (policyContent_congr (by simp [memberPut, sourcePut, joined, joinRolePut])
      (by simp [memberPut, sourcePut, joined, joinRolePut]))

/-- The rows of a later moment. -/
structure After (db db' : Db) : Prop where
  role : ∀ tenantId userId, Later (roleContent db tenantId userId) (roleContent db' tenantId userId)
  member : ∀ tenantId workspaceId userId, Later (memberContent db tenantId workspaceId userId)
    (memberContent db' tenantId workspaceId userId)
  policy : ∀ tenantId scope, Later (policyContent db tenantId scope) (policyContent db' tenantId scope)
  source : ∀ tenantId workspaceId,
    Later (sourceContent db tenantId workspaceId) (sourceContent db' tenantId workspaceId)
  result : ∀ tenantId resultId descriptor, descriptorOf db tenantId resultId = some descriptor →
    descriptorOf db' tenantId resultId = some descriptor

theorem After.refl (db : Db) : After db db :=
  ⟨fun _ _ => .refl _, fun _ _ _ => .refl _, fun _ _ => .refl _, fun _ _ => .refl _, fun _ _ _ h => h⟩

theorem After.trans {db'' : Db} (h : After db db') (h' : After db' db'') : After db db'' where
  role tenantId userId := (h.role tenantId userId).trans (h'.role tenantId userId)
  member tenantId workspaceId userId :=
    (h.member tenantId workspaceId userId).trans (h'.member tenantId workspaceId userId)
  policy tenantId scope := (h.policy tenantId scope).trans (h'.policy tenantId scope)
  source tenantId workspaceId := (h.source tenantId workspaceId).trans (h'.source tenantId workspaceId)
  result tenantId resultId descriptor hfound :=
    h'.result tenantId resultId descriptor (h.result tenantId resultId descriptor hfound)

theorem after_change (h : Change db deed db') : After db db' where
  role _ _ := later_role h
  member _ _ _ := later_member h
  policy _ _ := later_policy h
  source _ _ := later_source h
  result _ _ _ := descriptorOf_change h

theorem after_next (s : System) (input : Input) : After s.db (service.next s input).db := by
  rcases change_next s input with hchange | ⟨others, -, hrows⟩
  · exact after_change hchange
  · rw [hrows]
    exact ⟨fun _ _ => .refl _, fun _ _ _ => .refl _, fun _ _ => .refl _, fun _ _ => .refl _,
      fun _ _ _ h => h⟩

theorem after_or_after {is js ks : List Input} (hjs : js <+: is) (hks : ks <+: is) :
    After (service.run js).db (service.run ks).db ∨ After (service.run ks).db (service.run js).db :=
  service.related_run (R := fun s t => After s.db t.db) (I := fun _ => True) (fun s => .refl s.db)
    (fun h h' => h.trans h') trivial (fun _ _ _ => trivial) (fun s i _ => after_next s i) hjs hks

/-! ## Decisions that record the same versions -/

section Decisions

variable {env env' : Env} {principal : IdentityPrincipal} {workspace workspace' : WorkspaceRow}
  {descriptor : HistoricalResultDescriptor} {action : AccessAction}

theorem policyVersionText_injective {tenant workspace tenant' workspace' : ℕ}
    (h : policyVersionText tenant workspace = policyVersionText tenant' workspace') :
    tenant = tenant' ∧ workspace = workspace' := by
  have htext : Nat.toDigits 10 tenant ++ (":workspace-".toList ++ Nat.toDigits 10 workspace) =
      Nat.toDigits 10 tenant' ++ (":workspace-".toList ++ Nat.toDigits 10 workspace') := by
    have := congrArg String.toList h
    simpa [policyVersionText, Nat.toString_eq_repr, Nat.toList_repr] using this
  obtain ⟨htenant, hrest⟩ := append_cancel (p := Char.isDigit) isDigit_toDigits isDigit_toDigits
    (by simp) (by simp) htext
  have hworkspace := List.append_cancel_left hrest
  exact ⟨by rw [← Nat.ofDigitChars_ten_toDigits (n := tenant), htenant, Nat.ofDigitChars_ten_toDigits],
    by rw [← Nat.ofDigitChars_ten_toDigits (n := workspace), hworkspace, Nat.ofDigitChars_ten_toDigits]⟩

theorem workspaceId_of_found (h : workspaceRow db tenantId workspaceId = some workspace) :
    workspace.workspaceId = workspaceId := by
  have hkeys : workspace.tenantId = tenantId ∧ workspace.workspaceId = workspaceId := by
    simpa using List.find?_some h
  exact hkeys.2

theorem grantOf_congr {action : Action} {requested : List Permission}
    (hid : workspace.workspaceId = workspace'.workspaceId)
    (hacl : workspace.aclVersion = workspace'.aclVersion)
    (hbinding : bindingOf db principal workspace = bindingOf db' principal workspace')
    (htenant : ruleRow db principal.tenantId none = ruleRow db' principal.tenantId none)
    (hworkspace : ruleRow db principal.tenantId (some workspace.workspaceId) =
      ruleRow db' principal.tenantId (some workspace.workspaceId))
    (hpolicy : policyVersionOf db principal.tenantId workspace.workspaceId =
      policyVersionOf db' principal.tenantId workspace.workspaceId) :
    grantOf db principal workspace action requested =
      grantOf db' principal workspace' action requested := by
  unfold grantOf
  rw [hbinding]
  congr 1
  funext binding
  have hpermission : permissionOf db binding.role principal.tenantId workspace.workspaceId =
      permissionOf db' binding.role principal.tenantId workspace.workspaceId := by
    funext permission
    rw [permissionOf, permissionOf, htenant, hworkspace, hpolicy]
  simp only [RoleBinding.grant, ← hid, hpermission, hpolicy, hacl]

theorem bindingOf_eq_of_versions (h : After db db' ∨ After db' db)
    (hworkspace : workspace.workspaceId = workspace'.workspaceId)
    (hscope : (bindingOf db principal workspace).map (·.scope) =
      (bindingOf db' principal workspace').map (·.scope))
    (hversion : versionOf RoleBinding.version (bindingOf db principal workspace) =
      versionOf RoleBinding.version (bindingOf db' principal workspace')) :
    bindingOf db principal workspace = bindingOf db' principal workspace' := by
  cases hbinding : bindingOf db principal workspace with
  | none =>
    rw [hbinding, Option.map_none] at hscope
    exact (Option.map_eq_none_iff.1 hscope.symm).symm
  | some binding =>
    rw [hbinding, Option.map_some] at hscope
    obtain ⟨binding', hbinding', hscope'⟩ := Option.map_eq_some_iff.1 hscope.symm
    rw [hbinding, hbinding'] at hversion
    have hversion : binding.version = binding'.version := hversion
    rw [hbinding']
    obtain ⟨row, hrow, -, rfl⟩ | ⟨-, row, hrow, -, rfl⟩ := bindingOf_eq_some hbinding <;>
      obtain ⟨row', hrow', -, rfl⟩ | ⟨-, row', hrow', -, rfl⟩ := bindingOf_eq_some hbinding'
    · obtain ⟨hfound, -⟩ := Option.filter_eq_some_iff.1 hrow
      obtain ⟨hfound', -⟩ := Option.filter_eq_some_iff.1 hrow'
      have hsame := Later.eq_of_version
        (h.imp (fun h => h.role principal.tenantId principal.userId)
          fun h => h.role principal.tenantId principal.userId)
        (by simpa [roleContent, stamped, hfound, hfound', versionOf] using hversion)
      have hrows : some row = some row' := by
        rw [← hfound, ← hfound']
        exact congrArg Prod.snd hsame
      rw [Option.some.inj hrows]
    · cases hscope'
    · cases hscope'
    · obtain ⟨hfound, -⟩ := Option.filter_eq_some_iff.1 hrow
      obtain ⟨hfound', -⟩ := Option.filter_eq_some_iff.1 hrow'
      rw [← hworkspace] at hfound'
      have hsame := Later.eq_of_version
        (h.imp (fun h => h.member principal.tenantId workspace.workspaceId principal.userId)
          fun h => h.member principal.tenantId workspace.workspaceId principal.userId)
        (by simpa [memberContent, stamped, hfound, hfound', versionOf] using hversion)
      have hrows : some row = some row' := by
        rw [← hfound, ← hfound']
        exact congrArg Prod.snd hsame
      rw [Option.some.inj hrows]

theorem ruleRow_eq_of_versions (h : After db db' ∨ After db' db)
    (hversion : policyVersionOf db tenantId workspaceId = policyVersionOf db' tenantId workspaceId) :
    ruleRow db tenantId none = ruleRow db' tenantId none ∧
      ruleRow db tenantId (some workspaceId) = ruleRow db' tenantId (some workspaceId) := by
  obtain ⟨htenant, hworkspace⟩ := policyVersionText_injective hversion
  have hrules {scope : Option String}
      (hscope : versionOf PolicyRow.version (policyRow db tenantId scope) =
        versionOf PolicyRow.version (policyRow db' tenantId scope)) :
      ruleRow db tenantId scope = ruleRow db' tenantId scope :=
    congrArg Prod.snd (Later.eq_of_version
      (h.imp (fun h => h.policy tenantId scope) fun h => h.policy tenantId scope) hscope)
  exact ⟨hrules htenant, hrules hworkspace⟩

theorem sourceRow_eq_of_versions (h : After db db' ∨ After db' db)
    (hrow : workspaceRow db tenantId workspaceId = some workspace)
    (hrow' : workspaceRow db' tenantId workspaceId = some workspace')
    (hversion : workspace.aclVersion = workspace'.aclVersion) :
    sourceRow db tenantId workspaceId = sourceRow db' tenantId workspaceId :=
  congrArg Prod.snd (Later.eq_of_version
    (h.imp (fun h => h.source tenantId workspaceId) fun h => h.source tenantId workspaceId)
    (by simpa [sourceContent, hrow, hrow', versionOf] using hversion))

/-- Two decisions of a history on one result for one principal and one action that record the same
scope and the same versions say the same. -/
theorem decision_eq_of_versions {is js ks : List Input} (hjs : js <+: is) (hks : ks <+: is)
    {resultId : String} {trail trail' : Trail} {decision decision' : AccessDecision} {rows rows' : Db}
    (h : transact (evaluateHistoricalAccess env principal resultId action trail)
      (service.run js).db = (.ok decision, rows))
    (h' : transact (evaluateHistoricalAccess env' principal resultId action trail')
      (service.run ks).db = (.ok decision', rows'))
    (hscope : decision.roleScope = decision'.roleScope)
    (hmember : decision.membershipVersion = decision'.membershipVersion)
    (hacl : decision.aclVersion = decision'.aclVersion)
    (hpolicy : decision.policyVersion = decision'.policyVersion) :
    decision.state = decision'.state ∧ decision.reasonCodes = decision'.reasonCodes ∧
      decision.allowedReferenceIds = decision'.allowedReferenceIds ∧
      decision.maskedReferenceIds = decision'.maskedReferenceIds ∧
      decision.allowedSegmentIds = decision'.allowedSegmentIds ∧
      decision.maskedSegmentIds = decision'.maskedSegmentIds := by
  obtain ⟨descriptor, workspace, hmeets, rfl⟩ := decided_of_transact h
  obtain ⟨descriptor', workspace', hmeets', rfl⟩ := decided_of_transact h'
  have hafter := after_or_after hjs hks
  obtain rfl : descriptor = descriptor' := by
    rcases hafter with hafter | hafter
    · exact Option.some.inj ((hafter.result _ _ _ hmeets.found).symm.trans hmeets'.found)
    · exact Option.some.inj (hmeets.found.symm.trans (hafter.result _ _ _ hmeets'.found))
  have hid := workspaceId_of_found hmeets.within.found
  have hid' := workspaceId_of_found hmeets'.within.found
  have hbinding := bindingOf_eq_of_versions hafter (hid.trans hid'.symm) hscope hmember
  have hrules := ruleRow_eq_of_versions hafter hpolicy
  have hsources := sourceRow_eq_of_versions hafter hmeets.within.found hmeets'.within.found hacl
  have hgrant : grantOf (service.run js).db principal workspace action.base [] =
      grantOf (service.run ks).db principal workspace' action.base [] :=
    grantOf_congr (hid.trans hid'.symm) hacl hbinding hrules.1
      (by rw [hid, hrules.2]) (by rw [hid]; exact hpolicy)
  have hfound : findingsOf (service.run js).db principal workspace descriptor action =
      findingsOf (service.run ks).db principal workspace' descriptor action := by
    rw [findingsOf, findingsOf, hgrant]
    have hopen : sourceOpen (service.run js).db principal.tenantId descriptor.workspaceId =
        sourceOpen (service.run ks).db principal.tenantId descriptor.workspaceId := by
      funext userId sourceVersionId
      rw [sourceOpen, sourceOpen, hsources]
    rw [hopen]
  simp only [decisionOf, hfound, and_self]

end Decisions

def laterDecision : Except AuthorizationError AccessDecision × Db :=
  transact (evaluateHistoricalAccess (sampleEnv "later") sampleOwner "result" .read sampleTrail)
    (service.run (sharing ++ [.call (.authorizeAction sampleOwner "workspace" .view sampleTrail [])
      (sampleEnv "view")])).db

theorem decision_eq_of_versions_shared :
    ∃ decision decision' rows rows', sharedDecision = (.ok decision, rows) ∧
      laterDecision = (.ok decision', rows') ∧ decision.state = decision'.state ∧
      decision.reasonCodes = decision'.reasonCodes ∧
      decision.allowedReferenceIds = decision'.allowedReferenceIds ∧
      decision.maskedReferenceIds = decision'.maskedReferenceIds ∧
      decision.allowedSegmentIds = decision'.allowedSegmentIds ∧
      decision.maskedSegmentIds = decision'.maskedSegmentIds := by
  have h : (sharedDecision.1.toOption.any fun decision => laterDecision.1.toOption.any fun decision' =>
      decision.roleScope = decision'.roleScope &&
        decision.membershipVersion = decision'.membershipVersion &&
        decision.aclVersion = decision'.aclVersion &&
        decision.policyVersion = decision'.policyVersion) = true := by
    decide
  rcases hfirst : sharedDecision with ⟨e | decision, rows⟩ <;>
    rcases hsecond : laterDecision with ⟨e' | decision', rows'⟩ <;> rw [hfirst, hsecond] at h
  · cases h
  · cases h
  · cases h
  · simp only [Except.toOption, Option.any_some, Bool.and_eq_true, decide_eq_true_eq] at h
    exact ⟨decision, decision', rows, rows', rfl, rfl, decision_eq_of_versions
      (List.prefix_append _ _) (List.prefix_refl _) hfirst hsecond h.1.1.1 h.1.1.2 h.1.2 h.2⟩

end DaonUser.Authorization
