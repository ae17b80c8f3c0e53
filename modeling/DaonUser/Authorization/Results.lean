import DaonUser.Authorization.History

/-!
# Authorization: results and what a decision discloses of them

A result that is registered stays as it is, and its descriptor is valid (`Recorded`). What a decision
discloses is a matter of the descriptor: `Discreet` is what is asked of a decision, and
`discreet_iff` says which descriptors it is right for.
-/

namespace DaonUser.Authorization

open Lib

variable {db db' : Db} {deed : Deed} {descriptor : HistoricalResultDescriptor}

/-! ## Registered results -/

theorem withDependencies_self {resultId : String} {dependencies : List EvidenceDependency} :
    withDependencies resultId dependencies db .resultDependencies =
      db .resultDependencies ++ dependencies.map (DependencyRow.mk resultId) := by
  induction dependencies generalizing db with
  | nil => simp [withDependencies]
  | cons dependency dependencies ih =>
    have hrest : withDependencies resultId (dependency :: dependencies) db =
        withDependencies resultId dependencies
          (db.insert .resultDependencies ⟨resultId, dependency⟩) := rfl
    rw [hrest, ih, Database.insert_self, List.append_assoc, List.map_cons]
    rfl

theorem registered_results :
    registered descriptor db .historicalResults = db .historicalResults ++ [descriptor.row] :=
  (withDependencies_of_ne (by decide)).trans Database.insert_self

theorem registered_dependencies :
    registered descriptor db .resultDependencies =
      db .resultDependencies ++ descriptor.dependencies.map (DependencyRow.mk descriptor.resultId) := by
  rw [registered, withDependencies_self, Database.insert_of_ne (by decide)]

theorem descriptor_registered_of_ne {row : ResultRow} (h : row.resultId ≠ descriptor.resultId) :
    row.descriptor (registered descriptor db) = row.descriptor db := by
  have hothers : ((descriptor.dependencies.map (DependencyRow.mk descriptor.resultId)).filter
      fun other => other.resultId = row.resultId) = [] := by
    simp [List.filter_map, Function.comp_def, h.symm]
  simp only [ResultRow.descriptor, registered_dependencies, List.filter_append, hothers,
    List.append_nil]

theorem descriptor_registered_self
    (h : ∀ row ∈ db .resultDependencies, row.resultId ≠ descriptor.resultId) :
    descriptor.row.descriptor (registered descriptor db) =
      { descriptor with dependencies :=
          descriptor.dependencies.insertionSort fun a b => a.referenceId ≤ b.referenceId } := by
  have hold : ((db .resultDependencies).filter
      fun other => other.resultId = descriptor.row.resultId) = [] :=
    List.filter_eq_nil_iff.2 fun row hrow => by simp [HistoricalResultDescriptor.row, h row hrow]
  have hnew : (descriptor.dependencies.map (DependencyRow.mk descriptor.resultId)).filter
      (fun other => other.resultId = descriptor.row.resultId) =
        descriptor.dependencies.map (DependencyRow.mk descriptor.resultId) :=
    List.filter_eq_self.2 fun row hrow => by
      obtain ⟨dependency, -, rfl⟩ := List.mem_map.1 hrow
      simp [HistoricalResultDescriptor.row]
  simp only [ResultRow.descriptor, registered_dependencies, List.filter_append, hold, hnew,
    List.nil_append, List.map_map]
  simp [HistoricalResultDescriptor.row, Function.comp_def]

theorem descriptor_congr {row : ResultRow} (h : db' .resultDependencies = db .resultDependencies) :
    row.descriptor db' = row.descriptor db := by
  simp only [ResultRow.descriptor, h]

def EvidenceDependency.sound (sourceIds referenceIds : List String) (dependency : EvidenceDependency) :
    Prop :=
  isSafeId dependency.referenceId = true ∧ isSafeId dependency.sourceVersionId = true ∧
    dependency.referenceId ∈ referenceIds ∧ dependency.sourceVersionId ∈ sourceIds ∧
    dependency.segmentIds ≠ [] ∧ dependency.segmentIds.all isSafeId = true

theorem dependenciesValid_iff {sourceIds referenceIds seen : List String}
    {dependencies : List EvidenceDependency} :
    dependenciesValid sourceIds referenceIds seen dependencies = true ↔
      (∀ dependency ∈ dependencies, dependency.sound sourceIds referenceIds) ∧
        (dependencies.map (·.referenceId)).Nodup ∧
          ∀ dependency ∈ dependencies, dependency.referenceId ∉ seen := by
  induction dependencies generalizing seen with
  | nil => simp [dependenciesValid]
  | cons dependency dependencies ih =>
    simp only [dependenciesValid, Bool.and_eq_true, decide_eq_true_eq, ih, List.forall_mem_cons,
      List.map_cons, List.nodup_cons]
    constructor
    · rintro ⟨⟨⟨⟨⟨⟨⟨hreference, hsource⟩, hin⟩, hin'⟩, hseen⟩, hsegments⟩, hsafe⟩, hall, hnodup, hrest⟩
      refine ⟨⟨⟨hreference, hsource, hin, hin', hsegments, hsafe⟩, hall⟩, ⟨fun hmem => ?_, hnodup⟩,
        hseen, fun other hother hmem => hrest other hother (List.mem_cons_of_mem _ hmem)⟩
      obtain ⟨other, hother, hsame⟩ := List.mem_map.1 hmem
      exact hrest other hother (hsame ▸ List.mem_cons_self)
    · rintro ⟨⟨⟨hreference, hsource, hin, hin', hsegments, hsafe⟩, hall⟩, ⟨hnew, hnodup⟩, hseen, hrest⟩
      refine ⟨⟨⟨⟨⟨⟨⟨hreference, hsource⟩, hin⟩, hin'⟩, hseen⟩, hsegments⟩, hsafe⟩, hall, hnodup,
        fun other hother hmem => ?_⟩
      rcases List.mem_cons.1 hmem with hsame | hmem
      · exact hnew (hsame ▸ List.mem_map_of_mem hother)
      · exact hrest other hother hmem

theorem valid_of_perm {dependencies : List EvidenceDependency}
    (h : dependencies.Perm descriptor.dependencies) (hvalid : descriptor.valid = true) :
    ({ descriptor with dependencies := dependencies } : HistoricalResultDescriptor).valid = true := by
  simp only [HistoricalResultDescriptor.valid, Bool.and_eq_true, dependenciesValid_iff] at hvalid ⊢
  obtain ⟨hchecks, hsound, hnodup, hseen⟩ := hvalid
  exact ⟨hchecks, fun dependency hmem => hsound dependency (h.mem_iff.1 hmem),
    (h.map _).nodup_iff.2 hnodup, fun dependency hmem => hseen dependency (h.mem_iff.1 hmem)⟩

/-- Dependencies belong to results, and what is read of a result is valid. -/
structure Recorded (db : Db) : Prop where
  owned : ∀ row ∈ db .resultDependencies,
    ∃ result ∈ db .historicalResults, result.resultId = row.resultId
  valid : ∀ row ∈ db .historicalResults, (row.descriptor db).valid = true

theorem Recorded.congr (h : Recorded db) (hresults : db' .historicalResults = db .historicalResults)
    (hdependencies : db' .resultDependencies = db .resultDependencies) : Recorded db' where
  owned := by
    rw [hresults, hdependencies]
    exact h.owned
  valid := by
    rw [hresults]
    intro row hrow
    rw [descriptor_congr hdependencies]
    exact h.valid row hrow

theorem results_change (h : Change db deed db') :
    (db' .historicalResults = db .historicalResults ∧
      db' .resultDependencies = db .resultDependencies) ∨
    ∃ descriptor, descriptor.valid = true ∧
      (∀ row ∈ db .historicalResults, row.resultId ≠ descriptor.resultId) ∧
        db' = registered descriptor db := by
  cases h with
  | registered hvalid hfree => exact Or.inr ⟨_, hvalid, hfree, rfl⟩
  | _ => exact Or.inl ⟨by simp [bootstrapped, memberPut, sourcePut, rulePut, joined, joinRolePut],
      by simp [bootstrapped, memberPut, sourcePut, rulePut, joined, joinRolePut]⟩

theorem Recorded.change (h : Recorded db) (hchange : Change db deed db') : Recorded db' := by
  obtain ⟨hresults, hdependencies⟩ | ⟨descriptor, hvalid, hfree, rfl⟩ := results_change hchange
  · exact h.congr hresults hdependencies
  have hnone : ∀ row ∈ db .resultDependencies, row.resultId ≠ descriptor.resultId := by
    intro row hrow hid
    obtain ⟨result, hresult, hsame⟩ := h.owned row hrow
    exact hfree result hresult (hsame.trans hid)
  refine ⟨fun row hrow => ?_, fun row hrow => ?_⟩
  · rw [registered_dependencies] at hrow
    rw [registered_results]
    rcases List.mem_append.1 hrow with hrow | hrow
    · obtain ⟨result, hresult, hsame⟩ := h.owned row hrow
      exact ⟨result, List.mem_append_left _ hresult, hsame⟩
    · obtain ⟨dependency, -, rfl⟩ := List.mem_map.1 hrow
      exact ⟨descriptor.row, List.mem_append_right _ (List.mem_singleton_self _), rfl⟩
  · rw [registered_results] at hrow
    rcases List.mem_append.1 hrow with hrow | hrow
    · rw [descriptor_registered_of_ne (hfree row hrow)]
      exact h.valid row hrow
    · rw [List.mem_singleton.1 hrow, descriptor_registered_self hnone]
      exact valid_of_perm (List.perm_insertionSort _ _) hvalid

theorem recorded_reachable {s : System} (h : service.Reachable s) : Recorded s.db := by
  refine h.induction (I := fun s => Recorded s.db) ⟨fun row hrow => ?_, fun row hrow => ?_⟩
    fun s input hs => ?_
  · cases hrow
  · cases hrow
  · rcases change_next s input with hchange | ⟨others, -, hrows⟩
    · exact hs.change hchange
    · rw [hrows]
      exact hs.congr rfl rfl

theorem descriptorOf_change (hchange : Change db deed db') {tenantId resultId : String}
    (hfound : descriptorOf db tenantId resultId = some descriptor) :
    descriptorOf db' tenantId resultId = some descriptor := by
  unfold descriptorOf at hfound ⊢
  obtain ⟨row, hrow, rfl⟩ := Option.map_eq_some_iff.1 hfound
  obtain ⟨hresults, hdependencies⟩ | ⟨added, hvalid, hfree, rfl⟩ := results_change hchange
  · rw [hresults, hrow, Option.map_some, descriptor_congr hdependencies]
  · rw [registered_results, List.find?_append, hrow, Option.some_or, Option.map_some,
      descriptor_registered_of_ne (hfree row (List.mem_of_find?_eq_some hrow))]

/-! ## What a decision discloses -/

section Disclosure

variable {isOpen : String → Bool} {dependencies : List EvidenceDependency} {found : Findings}

theorem add_state_eq_available {dependency : EvidenceDependency} {allowed : Bool} :
    (found.add dependency allowed).state = .available ↔ found.state = .available ∧ allowed = true := by
  unfold Findings.add
  cases allowed with
  | true => simp
  | false =>
    simp only [Bool.false_eq_true, if_false, and_false, iff_false]
    split
    · simp
    · split
      · simp
      · split
        · simp
        · next hblocked => simpa using fun h => hblocked (by simp [h])

variable (isOpen) in
theorem foldl_add (dependencies : List EvidenceDependency) (found : Findings) :
    let result := dependencies.foldl
      (fun found dependency => found.add dependency (isOpen dependency.sourceVersionId)) found
    let opened := dependencies.filter fun dependency => isOpen dependency.sourceVersionId
    let closed := dependencies.filter fun dependency => !isOpen dependency.sourceVersionId
    result.allowedReferences = found.allowedReferences ++ opened.map (·.referenceId) ∧
      result.maskedReferences = found.maskedReferences ++ closed.map (·.referenceId) ∧
      result.allowedSegments = found.allowedSegments ++ opened.flatMap (·.segmentIds) ∧
      result.maskedSegments = found.maskedSegments ++ closed.flatMap (·.segmentIds) ∧
      (result.state = .available ↔ found.state = .available ∧ closed = []) := by
  induction dependencies generalizing found with
  | nil => simp
  | cons dependency dependencies ih =>
    obtain ⟨hallowed, hmasked, hallowed', hmasked', hstate⟩ :=
      ih (found.add dependency (isOpen dependency.sourceVersionId))
    simp only [List.foldl_cons, hallowed, hmasked, hallowed', hmasked', hstate,
      add_state_eq_available, List.filter_cons]
    cases isOpen dependency.sourceVersionId with
    | true => simp [Findings.add]
    | false =>
      have hadd : (found.add dependency false).allowedReferences = found.allowedReferences ∧
          (found.add dependency false).allowedSegments = found.allowedSegments ∧
          (found.add dependency false).maskedReferences =
            found.maskedReferences ++ [dependency.referenceId] ∧
          (found.add dependency false).maskedSegments =
            found.maskedSegments ++ dependency.segmentIds := by
        unfold Findings.add
        simp only [Bool.false_eq_true, if_false]
        split
        · simp
        · split
          · simp
          · split <;> simp
      simp [hadd]

/-- What is asked of a decision on a result while some sources are open: nothing that belongs to a
closed source is allowed, what is allowed is not masked as well, every reference is one or the other,
and the result is available only when all its sources are open. -/
structure Discreet (isOpen : String → Bool) (descriptor : HistoricalResultDescriptor)
    (decision : AccessDecision) : Prop where
  references : ∀ dependency ∈ descriptor.dependencies, isOpen dependency.sourceVersionId = false →
    dependency.referenceId ∉ decision.allowedReferenceIds
  segments : ∀ dependency ∈ descriptor.dependencies, isOpen dependency.sourceVersionId = false →
    ∀ segment ∈ dependency.segmentIds, segment ∉ decision.allowedSegmentIds
  referencesApart : ∀ id ∈ decision.allowedReferenceIds, id ∉ decision.maskedReferenceIds
  segmentsApart : ∀ id ∈ decision.allowedSegmentIds, id ∉ decision.maskedSegmentIds
  covered : ∀ id ∈ descriptor.evidenceReferenceIds,
    id ∈ decision.allowedReferenceIds ∨ id ∈ decision.maskedReferenceIds
  available : decision.state = .available → ∀ source ∈ descriptor.sourceVersionIds, isOpen source = true

/-- A result whose dependencies say all about its sources: every reference has a dependency, no segment
comes from an open and from a closed source, and while the sources of all dependencies are open the
other sources of the result are open too. -/
structure Separable (isOpen : String → Bool) (descriptor : HistoricalResultDescriptor) : Prop where
  referenced : ∀ id ∈ descriptor.evidenceReferenceIds,
    ∃ dependency ∈ descriptor.dependencies, dependency.referenceId = id
  apart : ∀ dependency ∈ descriptor.dependencies, ∀ other ∈ descriptor.dependencies,
    isOpen dependency.sourceVersionId = true → isOpen other.sourceVersionId = false →
      ∀ segment ∈ dependency.segmentIds, segment ∉ other.segmentIds
  sourced : (∀ dependency ∈ descriptor.dependencies, isOpen dependency.sourceVersionId = true) →
    ∀ source ∈ descriptor.sourceVersionIds, isOpen source = true

@[simp] theorem mem_sorted {text : String} {texts : List String} :
    text ∈ sorted texts ↔ text ∈ texts :=
  List.mem_insertionSort _

theorem eq_of_reference (hvalid : descriptor.valid = true) {dependency other : EvidenceDependency}
    (hmem : dependency ∈ descriptor.dependencies) (hmem' : other ∈ descriptor.dependencies)
    (h : dependency.referenceId = other.referenceId) : dependency = other := by
  simp only [HistoricalResultDescriptor.valid, Bool.and_eq_true, dependenciesValid_iff] at hvalid
  exact List.inj_on_of_nodup_map hvalid.2.2.1 hmem hmem' h

theorem reviewed_discreet_iff (hvalid : descriptor.valid = true) {decision : AccessDecision}
    (hreview : reviewed isOpen descriptor.dependencies = found)
    (hallowed : decision.allowedReferenceIds = sorted found.allowedReferences)
    (hmasked : decision.maskedReferenceIds = sorted found.maskedReferences)
    (hallowed' : decision.allowedSegmentIds = sorted found.allowedSegments)
    (hmasked' : decision.maskedSegmentIds = sorted found.maskedSegments)
    (hstate : decision.state = found.state) :
    Discreet isOpen descriptor decision ↔ Separable isOpen descriptor := by
  obtain ⟨hrefs, hrefs', hsegs, hsegs', hstates⟩ :=
    foldl_add isOpen descriptor.dependencies {}
  rw [reviewed] at hreview
  rw [hreview] at hrefs hrefs' hsegs hsegs' hstates
  have mem_allowed (id : String) : id ∈ decision.allowedReferenceIds ↔
      ∃ dependency ∈ descriptor.dependencies, isOpen dependency.sourceVersionId = true ∧
        dependency.referenceId = id := by
    simp [hallowed, hrefs, and_assoc]
  have mem_masked (id : String) : id ∈ decision.maskedReferenceIds ↔
      ∃ dependency ∈ descriptor.dependencies, isOpen dependency.sourceVersionId = false ∧
        dependency.referenceId = id := by
    simp [hmasked, hrefs', and_assoc]
  have mem_allowed' (id : String) : id ∈ decision.allowedSegmentIds ↔
      ∃ dependency ∈ descriptor.dependencies, isOpen dependency.sourceVersionId = true ∧
        id ∈ dependency.segmentIds := by
    simp [hallowed', hsegs, and_assoc]
  have mem_masked' (id : String) : id ∈ decision.maskedSegmentIds ↔
      ∃ dependency ∈ descriptor.dependencies, isOpen dependency.sourceVersionId = false ∧
        id ∈ dependency.segmentIds := by
    simp [hmasked', hsegs', and_assoc]
  have available_iff : decision.state = .available ↔
      ∀ dependency ∈ descriptor.dependencies, isOpen dependency.sourceVersionId = true := by
    simp [hstate, hstates]
  constructor
  · intro h
    refine ⟨fun id hid => ?_, fun dependency hmem other hmem' hopen hclosed segment hsegment hshared =>
      h.segments other hmem' hclosed segment hshared
        ((mem_allowed' segment).2 ⟨dependency, hmem, hopen, hsegment⟩),
      fun hall => h.available (available_iff.2 hall)⟩
    rcases h.covered id hid with hmem | hmem
    · obtain ⟨dependency, hdependency, -, hsame⟩ := (mem_allowed id).1 hmem
      exact ⟨dependency, hdependency, hsame⟩
    · obtain ⟨dependency, hdependency, -, hsame⟩ := (mem_masked id).1 hmem
      exact ⟨dependency, hdependency, hsame⟩
  · intro h
    have hapart : ∀ dependency ∈ descriptor.dependencies, isOpen dependency.sourceVersionId = false →
        dependency.referenceId ∉ decision.allowedReferenceIds := by
      intro dependency hmem hclosed hallowed
      obtain ⟨other, hmem', hopen, hsame⟩ := (mem_allowed _).1 hallowed
      rw [eq_of_reference hvalid hmem' hmem hsame, hclosed] at hopen
      cases hopen
    refine ⟨hapart, fun dependency hmem hclosed segment hsegment hallowed => ?_,
      fun id hallowed hmasked => ?_, fun id hallowed hmasked => ?_, fun id hid => ?_,
      fun hstate => h.sourced (available_iff.1 hstate)⟩
    · obtain ⟨other, hmem', hopen, hsegment'⟩ := (mem_allowed' segment).1 hallowed
      exact h.apart other hmem' dependency hmem hopen hclosed segment hsegment' hsegment
    · obtain ⟨dependency, hmem, hclosed, rfl⟩ := (mem_masked id).1 hmasked
      exact hapart dependency hmem hclosed hallowed
    · obtain ⟨dependency, hmem, hclosed, hsegment⟩ := (mem_masked' id).1 hmasked
      obtain ⟨other, hmem', hopen, hsegment'⟩ := (mem_allowed' id).1 hallowed
      exact h.apart other hmem' dependency hmem hopen hclosed id hsegment' hsegment
    · obtain ⟨dependency, hmem, rfl⟩ := h.referenced id hid
      cases hopen : isOpen dependency.sourceVersionId with
      | true => exact Or.inl ((mem_allowed _).2 ⟨dependency, hmem, hopen, rfl⟩)
      | false => exact Or.inr ((mem_masked _).2 ⟨dependency, hmem, hopen, rfl⟩)

end Disclosure

theorem blocked_discreet {isOpen : String → Bool} {decision : AccessDecision}
    (hallowed : decision.allowedReferenceIds = [])
    (hmasked : decision.maskedReferenceIds = sorted descriptor.evidenceReferenceIds)
    (hallowed' : decision.allowedSegmentIds = []) (hstate : decision.state = .accessBlocked) :
    Discreet isOpen descriptor decision where
  references := by simp [hallowed]
  segments := by simp [hallowed']
  referencesApart := by simp [hallowed]
  segmentsApart := by simp [hallowed']
  covered := fun id hid => Or.inr (by simpa [hmasked] using hid)
  available := by simp [hstate]

theorem decided_of_transact {env : Env} {principal : IdentityPrincipal} {resultId : String}
    {action : AccessAction} {trail : Trail} {decision : AccessDecision} {rows : Db}
    (h : transact (evaluateHistoricalAccess env principal resultId action trail) db =
      (.ok decision, rows)) :
    ∃ descriptor workspace, Meets db principal resultId descriptor workspace ∧
      decision = decisionOf db env principal workspace descriptor action := by
  have hreturns : Call.Returns (evaluateHistoricalAccess env principal resultId action trail).alone db
      fun decision _ => ∃ descriptor workspace, Meets db principal resultId descriptor workspace ∧
        decision = decisionOf db env principal workspace descriptor action :=
    returns_evaluateHistoricalAccess.2 fun descriptor workspace hmeets _ hdecision _ _ =>
      ⟨descriptor, workspace, hmeets, hdecision⟩
  exact Call.returns_atomically.2 hreturns decision rows h

/-- A decision on a result discloses nothing that it should not exactly when there is no grant or the
result is separable. -/
theorem evaluateHistoricalAccess_discreet_iff {s : System} (hs : service.Reachable s) {env : Env}
    {principal : IdentityPrincipal} {resultId : String} {action : AccessAction} {trail : Trail}
    {decision : AccessDecision} {db : Db}
    (h : transact (evaluateHistoricalAccess env principal resultId action trail) s.db =
      (.ok decision, db)) :
    ∃ descriptor workspace, Meets s.db principal resultId descriptor workspace ∧
      (Discreet (sourceOpen s.db principal.tenantId descriptor.workspaceId principal.userId) descriptor
          decision ↔
        grantOf s.db principal workspace action.base [] = none ∨
          Separable (sourceOpen s.db principal.tenantId descriptor.workspaceId principal.userId)
            descriptor) := by
  obtain ⟨descriptor, workspace, hmeets, rfl⟩ := decided_of_transact h
  refine ⟨descriptor, workspace, hmeets, ?_⟩
  have hvalid : descriptor.valid = true := by
    obtain ⟨row, hrow, rfl⟩ := Option.map_eq_some_iff.1 hmeets.found
    exact (recorded_reachable hs).valid row (List.mem_of_find?_eq_some hrow)
  cases hgrant : grantOf s.db principal workspace action.base [] with
  | none =>
    have hfound : findingsOf s.db principal workspace descriptor action = descriptor.blocked := by
      rw [findingsOf, hgrant]
    refine iff_of_true ?_ (Or.inl rfl)
    exact blocked_discreet (by simp [decisionOf, hfound, HistoricalResultDescriptor.blocked, sorted])
      (by simp [decisionOf, hfound, HistoricalResultDescriptor.blocked])
      (by simp [decisionOf, hfound, HistoricalResultDescriptor.blocked, sorted])
      (by simp [decisionOf, hfound, HistoricalResultDescriptor.blocked])
  | some grant =>
    have hfound : reviewed
        (sourceOpen s.db principal.tenantId descriptor.workspaceId principal.userId)
        descriptor.dependencies = findingsOf s.db principal workspace descriptor action := by
      rw [findingsOf, hgrant]
    rw [reviewed_discreet_iff hvalid hfound rfl rfl rfl rfl rfl]
    simp

/-! ## A segment of an open and a closed source -/

def sharedResult : HistoricalResultDescriptor where
  resultId := "result"
  resultKind := "document"
  tenantId := "tenant"
  workspaceId := "workspace"
  sourceVersionIds := ["open", "closed"]
  evidenceReferenceIds := ["first", "second"]
  dependencies := [⟨"first", "open", ["segment"], false, true⟩,
    ⟨"second", "closed", ["segment"], false, true⟩]
  originalPolicyVersion := "policy"
  originalMembershipVersion := 1

/-- The result is registered, and then one of its sources is closed to the owner. -/
def sharing : List Input :=
  founding .personalOwner "personal" ++
    [.call (.registerHistoricalResult sampleOwner sharedResult sampleTrail) (sampleEnv "check"),
      .resume 0 (sampleEnv "record"),
      .call (.setSourceAccess sampleOwner "workspace" "owner" "closed" false 0 sampleTrail)
        (sampleEnv "close")]

def sharedDecision : Except AuthorizationError AccessDecision × Db :=
  transact (evaluateHistoricalAccess (sampleEnv "decide") sampleOwner "result" .read sampleTrail)
    (service.run sharing).db

theorem sharedDecision_returns :
    ∃ decision db, sharedDecision = (.ok decision, db) ∧ "segment" ∈ decision.allowedSegmentIds ∧
      "segment" ∈ decision.maskedSegmentIds := by
  have h : (sharedDecision.1.toOption.any fun decision =>
      "segment" ∈ decision.allowedSegmentIds && "segment" ∈ decision.maskedSegmentIds) = true := by
    decide
  rcases hrun : sharedDecision with ⟨e | decision, db⟩ <;> rw [hrun] at h
  · cases h
  · simp only [Except.toOption, Option.any_some, Bool.and_eq_true, decide_eq_true_eq] at h
    exact ⟨decision, db, rfl, h.1, h.2⟩

theorem evaluateHistoricalAccess_discreet_iff_shared :
    ∃ decision db, sharedDecision = (.ok decision, db) ∧ ∃ descriptor workspace,
      Meets (service.run sharing).db sampleOwner "result" descriptor workspace ∧
        (Discreet (sourceOpen (service.run sharing).db "tenant" descriptor.workspaceId "owner")
            descriptor decision ↔
          grantOf (service.run sharing).db sampleOwner workspace .view [] = none ∨
            Separable (sourceOpen (service.run sharing).db "tenant" descriptor.workspaceId "owner")
              descriptor) := by
  obtain ⟨decision, db, hrun, -, -⟩ := sharedDecision_returns
  exact ⟨decision, db, hrun, evaluateHistoricalAccess_discreet_iff ⟨sharing, rfl⟩ hrun⟩

theorem shared_segment_disclosed :
    ¬∀ s, service.Reachable s → ∀ env principal resultId action trail decision db,
      transact (evaluateHistoricalAccess env principal resultId action trail) s.db =
        (.ok decision, db) →
      ∀ descriptor, descriptorOf s.db principal.tenantId resultId = some descriptor →
        Discreet (sourceOpen s.db principal.tenantId descriptor.workspaceId principal.userId)
          descriptor decision := by
  intro h
  obtain ⟨decision, db, hrun, hallowed, hmasked⟩ := sharedDecision_returns
  have hsome : (descriptorOf (service.run sharing).db "tenant" "result").isSome = true := by
    decide
  obtain ⟨descriptor, hfound⟩ := Option.isSome_iff_exists.1 hsome
  have hdiscreet := h _ ⟨sharing, rfl⟩ _ _ _ _ _ _ _ hrun descriptor hfound
  exact hdiscreet.segmentsApart "segment" hallowed hmasked

end DaonUser.Authorization
