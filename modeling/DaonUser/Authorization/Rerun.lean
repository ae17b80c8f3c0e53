import DaonUser.Authorization.Versions

/-!
# Authorization: the snapshot of a rerun

`authorize_rerun` decides in one transaction and takes its snapshot in a second one, which reads the
versions. The snapshot is true of one moment exactly when what the first transaction allowed still stands in
the second (`rerun_consistent_iff`).
-/

namespace DaonUser.Authorization

open Lib

variable {principal : IdentityPrincipal} {env : Env} {db : Db}

/-! ## Waiting reruns -/

def Decided (is : List Input) (principal : IdentityPrincipal) (resultId : String)
    (decision : AccessDecision) (trail : Trail) (ks : List Input) : Prop :=
  (∃ env, ks ++ [.call (.authorizeRerun principal resultId trail) env] <+: is) ∧
    decision.state ≠ .accessBlocked ∧ ∃ env descriptor workspace,
      Meets (service.run ks).db principal resultId descriptor workspace ∧
        decision = decisionOf (service.run ks).db env principal workspace descriptor .rerun

theorem Decided.mono {is js ks : List Input} {resultId : String}
    {decision : AccessDecision} {trail : Trail} (h : Decided is principal resultId decision trail ks)
    (hle : is <+: js) : Decided js principal resultId decision trail ks := by
  obtain ⟨⟨env, hcall⟩, hrest⟩ := h
  exact ⟨⟨env, hcall.trans hle⟩, hrest⟩

theorem waits_transaction (operation : Operation) :
    Call.Returns (operation.transaction env).alone db fun outcome _ =>
      ∀ principal resultId decision trail,
        outcome = .wait (.rerun principal resultId decision trail) →
          operation = .authorizeRerun principal resultId trail ∧ decision.state ≠ .accessBlocked ∧
            ∃ descriptor workspace, Meets db principal resultId descriptor workspace ∧
              decision = decisionOf db env principal workspace descriptor .rerun := by
  cases operation with
  | authorizeRerun principal resultId trail =>
    simp only [Operation.transaction, decideRerun, Program.returns_alone_bind,
      Program.returns_alone_ite, Program.returns_alone_pure, returns_evaluateHistoricalAccess]
    intro descriptor workspace hmeets decision hdecision _ _
    refine ⟨fun _ _ _ _ _ h => (by cases h), fun hstate principal' resultId' decision' trail' h => ?_⟩
    simp only [Outcome.wait.injEq, Waiting.rerun.injEq] at h
    obtain ⟨rfl, rfl, rfl, rfl⟩ := h
    exact ⟨rfl, hstate, descriptor, workspace, hmeets, hdecision⟩
  | _ =>
    simp only [Operation.transaction, Program.returns_alone_bind, Program.returns_alone_pure]
    intro _ _ _ _ _ _ _ h
    cases h

theorem decided_of_waiting {is : List Input} {resultId : String} {decision : AccessDecision} {trail : Trail}
    (h : Waiting.rerun principal resultId decision trail ∈ (service.run is).waiting) :
    ∃ ks, Decided is principal resultId decision trail ks := by
  induction is using List.reverseRecOn with
  | nil => cases h
  | append_singleton is input ih =>
    rw [Machine.run_concat] at h
    rcases mem_waiting_next h with hold | ⟨operation, env, db, rfl, htransact⟩
    · obtain ⟨ks, hks⟩ := ih hold
      exact ⟨ks, hks.mono (List.prefix_append is [input])⟩
    · obtain ⟨rfl, hstate, descriptor, workspace, hmeets, hdecision⟩ :=
        Call.returns_atomically.2 (waits_transaction operation) _ db htransact _ _ _ _ rfl
      exact ⟨is, ⟨env, List.prefix_refl _⟩, hstate, env, descriptor, workspace, hmeets, hdecision⟩

/-! ## Snapshots of one moment -/

/-- At one moment the access list and the role of the actor had the versions of the snapshot, the role
granted the rerun and the sources were open. -/
def RerunSnapshot.TrueOf (snapshot : RerunSnapshot) (db : Db) : Prop :=
  ∃ workspace binding, workspaceRow db snapshot.tenantId snapshot.workspaceId = some workspace ∧
    workspace.aclVersion = snapshot.aclVersion ∧
    bindingOf db ⟨snapshot.actorId, snapshot.tenantId⟩ workspace = some binding ∧
    binding.scope = snapshot.roleScope ∧ binding.version = snapshot.membershipVersion ∧
    binding.role.may AccessAction.rerun.base = true ∧
    ∀ source ∈ snapshot.sourceVersionIds,
      sourceOpen db snapshot.tenantId snapshot.workspaceId snapshot.actorId source = true

/-- What the first transaction allowed still stands in the second: the sources of the result that were
open to the principal are open, and its role grants the rerun. -/
def StillStands (db db' : Db) (principal : IdentityPrincipal) (resultId : String) : Prop :=
  ∀ descriptor workspace, Meets db' principal resultId descriptor workspace →
    (∀ dependency ∈ descriptor.dependencies,
      sourceOpen db principal.tenantId descriptor.workspaceId principal.userId
          dependency.sourceVersionId = true →
        sourceOpen db' principal.tenantId descriptor.workspaceId principal.userId
          dependency.sourceVersionId = true) ∧
    ∀ binding, bindingOf db' principal workspace = some binding →
      binding.role.may AccessAction.rerun.base = true

theorem mem_allowed_of_not_blocked
    {workspace : WorkspaceRow} {descriptor : HistoricalResultDescriptor} {action : AccessAction}
    (h : (decisionOf db env principal workspace descriptor action).state ≠ .accessBlocked)
    {id : String} :
    id ∈ (decisionOf db env principal workspace descriptor action).allowedReferenceIds ↔
      ∃ dependency ∈ descriptor.dependencies,
        sourceOpen db principal.tenantId descriptor.workspaceId principal.userId
          dependency.sourceVersionId = true ∧ dependency.referenceId = id := by
  have hfound : findingsOf db principal workspace descriptor action =
      reviewed (sourceOpen db principal.tenantId descriptor.workspaceId principal.userId)
        descriptor.dependencies := by
    unfold findingsOf
    split
    · next hgrant =>
      refine absurd ?_ h
      simp only [decisionOf, findingsOf, hgrant, HistoricalResultDescriptor.blocked]
    · rfl
  have hallowed : (reviewed (sourceOpen db principal.tenantId descriptor.workspaceId principal.userId)
      descriptor.dependencies).allowedReferences = _ := (foldl_add _ descriptor.dependencies {}).1
  simp [decisionOf, hfound, hallowed, and_assoc]

theorem mem_snapshot_sources {workspace workspace' : WorkspaceRow} {descriptor : HistoricalResultDescriptor}
    {action : AccessAction} {binding : RoleBinding} (hvalid : descriptor.valid = true)
    (h : (decisionOf db env principal workspace descriptor action).state ≠ .accessBlocked)
    {source : String} :
    source ∈ (snapshotOf principal workspace' descriptor binding
        (decisionOf db env principal workspace descriptor action)).sourceVersionIds ↔
      ∃ dependency ∈ descriptor.dependencies,
        sourceOpen db principal.tenantId descriptor.workspaceId principal.userId
          dependency.sourceVersionId = true ∧ dependency.sourceVersionId = source := by
  simp only [snapshotOf, mem_sorted, List.mem_dedup, List.mem_map, List.mem_filter, decide_eq_true_eq,
    mem_allowed_of_not_blocked h]
  constructor
  · rintro ⟨dependency, ⟨hmem, other, hother, hopen, hsame⟩, rfl⟩
    rw [eq_of_reference hvalid hother hmem hsame] at hopen
    exact ⟨dependency, hmem, hopen, rfl⟩
  · rintro ⟨dependency, hmem, hopen, rfl⟩
    exact ⟨dependency, ⟨hmem, dependency, hmem, hopen, rfl⟩, rfl⟩

theorem rerun_of_answer {s : System} {n : ℕ} {rerun : RerunAuthorization}
    (h : service.answer s (.resume n env) = some (.ok (.rerun rerun))) :
    ∃ principal resultId decision trail,
      Waiting.rerun principal resultId decision trail ∈ s.waiting ∧
      rerun.accessDecisionId = decision.decisionId ∧ ∃ descriptor workspace binding,
        Meets s.db principal resultId descriptor workspace ∧
          bindingOf s.db principal workspace = some binding ∧
            rerun.snapshot = snapshotOf principal workspace descriptor binding decision := by
  unfold Machine.answer service at h
  simp only at h
  cases hwaiting : s.waiting[n]? with
  | none => simp [hwaiting] at h
  | some waiting =>
    simp only [hwaiting, Option.some.injEq] at h
    have hmem := List.mem_of_getElem? hwaiting
    have hreturns : Call.Returns (waiting.transaction env).alone s.db fun answer _ =>
        answer = .rerun rerun → ∃ principal resultId decision trail,
          waiting = .rerun principal resultId decision trail ∧
          rerun.accessDecisionId = decision.decisionId ∧ ∃ descriptor workspace binding,
            Meets s.db principal resultId descriptor workspace ∧
              bindingOf s.db principal workspace = some binding ∧
                rerun.snapshot = snapshotOf principal workspace descriptor binding decision := by
      cases waiting with
      | rerun principal resultId decision trail =>
        simp only [Waiting.transaction, Program.returns_alone_bind, Program.returns_alone_pure,
          returns_snapshotRerun, Answer.rerun.injEq]
        rintro descriptor workspace hmeets binding hbinding row rfl - - rfl
        exact ⟨principal, resultId, decision, trail, rfl, rfl, descriptor, workspace, binding, hmeets,
          hbinding, rfl⟩
      | _ =>
        simp only [Waiting.transaction, Program.returns_alone_bind, Program.returns_alone_pure]
        intro _ _ _ h
        cases h
    obtain ⟨principal, resultId, decision, trail, rfl, hrest⟩ :=
      Call.returns_atomically.2 hreturns _ _ (Prod.ext h rfl) rfl
    exact ⟨principal, resultId, decision, trail, hmem, hrest⟩

/-- A snapshot that `authorize_rerun` returns is true of one moment of the history exactly when what its
first transaction allowed still stands in its second. -/
theorem rerun_consistent_iff {is : List Input} {n : ℕ} {env : Env} {rerun : RerunAuthorization}
    (h : service.answer (service.run is) (.resume n env) = some (.ok (.rerun rerun))) :
    ∃ principal resultId trail decision ks, Decided is principal resultId decision trail ks ∧
      rerun.accessDecisionId = decision.decisionId ∧
      ((∃ js, js <+: is ∧ rerun.snapshot.TrueOf (service.run js).db) ↔
        StillStands (service.run ks).db (service.run is).db principal resultId) := by
  obtain ⟨principal, resultId, decision, trail, hwaiting, hid, descriptor, workspace, binding, hmeets,
    hbinding, hsnapshot⟩ := rerun_of_answer h
  obtain ⟨ks, hdecided⟩ := decided_of_waiting hwaiting
  refine ⟨principal, resultId, trail, decision, ks, hdecided, hid, ?_⟩
  obtain ⟨⟨callEnv, hcall⟩, hstate, decideEnv, descriptor', workspace', hmeets', rfl⟩ := hdecided
  have hks : ks <+: is := (List.prefix_append ks _).trans hcall
  obtain rfl : descriptor' = descriptor := by
    rcases after_or_after hks (List.prefix_refl is) with hafter | hafter
    · exact Option.some.inj ((hafter.result _ _ _ hmeets'.found).symm.trans hmeets.found)
    · exact Option.some.inj (hmeets'.found.symm.trans (hafter.result _ _ _ hmeets.found))
  have hvalid : descriptor'.valid = true := by
    obtain ⟨row, hrow, rfl⟩ := Option.map_eq_some_iff.1 hmeets.found
    exact (recorded_reachable ⟨is, rfl⟩).valid row (List.mem_of_find?_eq_some hrow)
  rw [hsnapshot]
  constructor
  · rintro ⟨js, hjs, workspaceJ, bindingJ, hfoundJ, hacl, hbindingJ, hscope, hversion, hmay, hopen⟩
    have hafter := after_or_after hjs (List.prefix_refl is)
    have hsources : sourceRow (service.run js).db principal.tenantId descriptor'.workspaceId =
        sourceRow (service.run is).db principal.tenantId descriptor'.workspaceId :=
      sourceRow_eq_of_versions hafter hfoundJ hmeets.within.found hacl
    have hids := (workspaceId_of_found hfoundJ).trans (workspaceId_of_found hmeets.within.found).symm
    have hsame : bindingOf (service.run js).db principal workspaceJ =
        bindingOf (service.run is).db principal workspace := by
      refine bindingOf_eq_of_versions hafter hids ?_ ?_
      · rw [hbinding, show bindingOf (service.run js).db principal workspaceJ = some bindingJ from
          hbindingJ]
        exact congrArg some hscope
      · rw [hbinding, show bindingOf (service.run js).db principal workspaceJ = some bindingJ from
          hbindingJ]
        exact hversion
    rintro descriptor'' workspace'' hmeets''
    obtain rfl : descriptor' = descriptor'' := Option.some.inj (hmeets.found.symm.trans hmeets''.found)
    obtain rfl : workspace = workspace'' :=
      Option.some.inj (hmeets.within.found.symm.trans hmeets''.within.found)
    refine ⟨fun dependency hmem hdependency => ?_, fun binding' hbinding' => ?_⟩
    · rw [sourceOpen, ← hsources]
      exact hopen _ ((mem_snapshot_sources hvalid hstate).2 ⟨dependency, hmem, hdependency, rfl⟩)
    · rw [← hsame, show bindingOf (service.run js).db principal workspaceJ = some bindingJ from
        hbindingJ] at hbinding'
      rw [← Option.some.inj hbinding']
      exact hmay
  · intro hstands
    obtain ⟨hopen, hmay⟩ := hstands descriptor' workspace hmeets
    refine ⟨is, List.prefix_refl is, workspace, binding, hmeets.within.found, rfl, hbinding, rfl, rfl,
      hmay binding hbinding, fun source hsource => ?_⟩
    obtain ⟨dependency, hmem, hdependency, rfl⟩ := (mem_snapshot_sources hvalid hstate).1 hsource
    exact hopen dependency hmem hdependency

/-! ## A source that is closed in between -/

/-- A rerun is decided, and before its second transaction one of its sources is closed to the owner. -/
def closing : List Input :=
  founding .personalOwner "personal" ++
    [.call (.registerHistoricalResult sampleOwner sharedResult sampleTrail) (sampleEnv "check"),
      .resume 0 (sampleEnv "record"),
      .call (.authorizeRerun sampleOwner "result" sampleTrail) (sampleEnv "decide"),
      .call (.setSourceAccess sampleOwner "workspace" "owner" "closed" false 0 sampleTrail)
        (sampleEnv "close")]

/-- The answer is a rerun whose snapshot holds the closed source. -/
def holdsClosed : Option (Except AuthorizationError Answer) → Bool
  | some (.ok (.rerun rerun)) => rerun.snapshot.tenantId = "tenant" &&
      rerun.snapshot.workspaceId = "workspace" && rerun.snapshot.actorId = "owner" &&
      rerun.snapshot.aclVersion = 2 && "closed" ∈ rerun.snapshot.sourceVersionIds
  | _ => false

theorem closing_answer : ∃ rerun,
    service.answer (service.run closing) (.resume 0 (sampleEnv "snapshot")) =
        some (.ok (.rerun rerun)) ∧
      rerun.snapshot.tenantId = "tenant" ∧ rerun.snapshot.workspaceId = "workspace" ∧
      rerun.snapshot.actorId = "owner" ∧ rerun.snapshot.aclVersion = 2 ∧
      "closed" ∈ rerun.snapshot.sourceVersionIds := by
  have h : holdsClosed (service.answer (service.run closing) (.resume 0 (sampleEnv "snapshot"))) = true := by
    decide
  unfold holdsClosed at h
  split at h
  · next rerun hanswer =>
    simp only [Bool.and_eq_true, decide_eq_true_eq, and_assoc] at h
    exact ⟨rerun, hanswer, h⟩
  · cases h

theorem rerun_consistent_iff_closing :
    ∃ rerun, service.answer (service.run closing) (.resume 0 (sampleEnv "snapshot")) =
      some (.ok (.rerun rerun)) ∧
    ∃ principal resultId trail decision ks, Decided closing principal resultId decision trail ks ∧
      rerun.accessDecisionId = decision.decisionId ∧
      ((∃ js, js <+: closing ∧ rerun.snapshot.TrueOf (service.run js).db) ↔
        StillStands (service.run ks).db (service.run closing).db principal resultId) := by
  obtain ⟨rerun, hanswer, -⟩ := closing_answer
  exact ⟨rerun, hanswer, rerun_consistent_iff hanswer⟩

theorem closed_source_in_snapshot :
    ¬∀ (is : List Input) (n : ℕ) (env : Env) (rerun : RerunAuthorization),
      service.answer (service.run is) (.resume n env) = some (.ok (.rerun rerun)) →
        ∃ js, js <+: is ∧ rerun.snapshot.TrueOf (service.run js).db := by
  intro h
  obtain ⟨rerun, hanswer, htenant, hworkspace, hactor, hacl, hsource⟩ := closing_answer
  obtain ⟨js, hjs, workspace, binding, hfound, hversion, -, -, -, -, hopen⟩ := h _ _ _ _ hanswer
  have hopen := hopen "closed" hsource
  rw [htenant, hworkspace, hactor] at hopen
  rw [htenant, hworkspace] at hfound
  have hrow : ((workspaceRow (service.run closing).db "tenant" "workspace").any
      fun row => row.aclVersion = 2) = true := by
    decide
  obtain ⟨workspace', hfound', hversion'⟩ := any_eq_true_iff.1 hrow
  have hsources := sourceRow_eq_of_versions (after_or_after hjs (List.prefix_refl closing)) hfound
    hfound' (by rw [hversion, hacl, of_decide_eq_true hversion'])
  have hclosed : sourceOpen (service.run closing).db "tenant" "workspace" "owner" "closed" = false := by
    decide
  rw [sourceOpen, hsources] at hopen
  rw [sourceOpen, hopen] at hclosed
  cases hclosed

end DaonUser.Authorization
