import DaonUser.Sync.Admission

/-!
# Sync: target versions that are reindexed

A call that completes an operation requests reindexing of the target versions that it makes itself.
`reindexed_of_completesAtOnce`: these are all the target versions of the operation in the runs in which
no completing call finds earlier ones.
-/

namespace DaonUser.Sync.Postgres

open Lib

variable {targets : List TargetVersion} {operationId : String} {row : StoredOperation}

variable {prim : Primitives} {scope : Scope prim}

/-- Once reindexing of an operation is requested, it is requested for its target versions and no
others. -/
def Reindexed (s : Store) : Prop :=
  ∀ operationId row, s.tables.operations.get? operationId = some row →
    row.stateDocument.reindexRequested = true → ∀ targetVersionId,
      (∃ request ∈ s.tables.reindexRequests, request.operationId = operationId ∧
        request.targetVersionId = targetVersionId) ↔
      ∃ target ∈ s.tables.targets, target.operationId = operationId ∧
        target.targetVersionId = targetVersionId

/-- The call leaves no approved item that is not completed, and nothing unresolved. -/
def Completes (operation : Operation) : Request → Prop
  | .transferBatch _ _ _ _ payloads =>
    operation.conflicting payloads = [] ∧ ∀ itemId ∈ operation.approvedItemIds,
      itemId ∈ operation.completedItemIds ∨ itemId ∈ payloads.map (·.itemId)
  | .resolveConflict _ conflictId _ _ _ _ =>
    (∀ conflict ∈ operation.conflicts,
        conflict.state = .resolved ∨ conflict.conflictId = conflictId) ∧
      ∀ itemId ∈ operation.approvedItemIds, itemId ∈ operation.completedItemIds ∨
        ∃ conflict ∈ operation.conflicts, conflict.conflictId = conflictId ∧
          conflict.itemId = itemId
  | _ => False

/-- A new write that the store takes finds no target version of the operation that it completes. -/
def CompletesAtOnce (s : Store) (i : Input scope) : Prop :=
  ∀ operationId row operation r, s.tables.operations.get? operationId = some row →
    hydrate row.toOperationRow = .ok (operation, r) → Mutates operationId i.request →
      Admitted (s.core operationId i.context operation r) i.core →
        Admissible s i operationId operation r → Completes operation i.request →
          operation.targetVersions = []

/-! ## Completing calls -/

theorem mem_markResolved_of_ne {conflictId : String} {conflicts : List Conflict}
    {conflict : Conflict} (h : conflict ∈ conflicts) (hne : conflict.conflictId ≠ conflictId) :
    conflict ∈ Operation.markResolved conflictId conflicts := by
  induction conflicts with
  | nil => cases h
  | cons first conflicts ih =>
    unfold Operation.markResolved
    split
    · next hfirst =>
      rcases List.mem_cons.1 h with rfl | h
      · exact absurd hfirst hne
      · exact List.mem_cons_of_mem _ h
    · rcases List.mem_cons.1 h with rfl | h
      · exact List.mem_cons_self
      · exact List.mem_cons_of_mem _ (ih h)

section Completes

variable {operation : Operation} (requested : operation.reindexRequested = false)

include requested

theorem completes_transfer {env : Sync.Env} {context : SyncContext} {key key' batchId : String}
    {cursor cursor' : Option String} {id : String} {expectedVersion : ExpectedVersion}
    {drawn asked : Nat} {payloads : List TransferPayload} {entries : List Entry}
    {sent : List Transmission}
    (sends : Sends prim env context key operation drawn asked payloads entries sent none)
    (named : ∀ itemId item, operation.items.get? itemId = some item → item.itemId = itemId)
    (completes : (operation.transfer entries batchId cursor).reindexRequested = true) :
    Completes operation (.transferBatch id expectedVersion key' cursor' payloads) := by
  obtain ⟨-, -, -, -, -, happroved, -, -, hflag⟩ := enterAll_frame operation entries
  unfold Operation.transfer Operation.recordBatch at completes
  dsimp only at completes
  split at completes
  · rw [hflag, requested] at completes
    cases completes
  split at completes
  · next hconflictIds hcompleted =>
    have hconflicts : conflictsOf entries = [] := by
      simpa [newBatch] using hconflictIds
    have hclaims := sends.claims named
    rw [hconflicts, List.map_nil] at hclaims
    refine ⟨List.map_eq_nil_iff.1 hclaims.symm, fun itemId hitemId => ?_⟩
    have hmem := hcompleted itemId (happroved ▸ hitemId)
    rcases (mem_completed_enterAll operation entries).1 hmem with hold | ⟨target, htarget, rfl⟩
    · exact Or.inl hold
    · obtain ⟨payload, hpayload, item, ids, listed, rfl⟩ := sends.targets target htarget
      exact Or.inr (List.mem_map.2 ⟨payload, hpayload, (named _ _ listed).symm⟩)
  · rw [hflag, requested] at completes
    cases completes

theorem completes_settle {conflictId id key : String}
    {conflict : Conflict} {expectedVersion : ExpectedVersion} {choice : ConflictResolutionChoice}
    {content : Option (List UInt8)} (hconflict : conflict ∈ operation.conflicts)
    (hid : conflict.conflictId = conflictId)
    (completes : (operation.settle targets conflictId conflict.itemId).reindexRequested = true) :
    Completes operation (.resolveConflict id conflictId expectedVersion key choice content) := by
  unfold Operation.settle Operation.resolve at completes
  dsimp only at completes
  split at completes
  · next hdone =>
    refine ⟨fun other hother => ?_, fun itemId hitemId => ?_⟩
    · by_cases hsame : other.conflictId = conflictId
      · exact Or.inr hsame
      · exact Or.inl (hdone.1 other (mem_markResolved_of_ne hother hsame))
    · rcases Finset.mem_insert.1 (hdone.2 itemId hitemId) with rfl | hold
      · exact Or.inr ⟨conflict, hconflict, hid, rfl⟩
      · exact Or.inl hold
  · rw [requested] at completes
    cases completes

end Completes

/-! ## Reindex requests -/

/-- `Reindexed`, with what it takes to keep it: an operation has no requests before completion. -/
structure Tracked (s : Store) : Prop where
  reindexed : Reindexed s
  quiet : ∀ operationId row, s.tables.operations.get? operationId = some row →
    row.stateDocument.reindexRequested = false →
      ∀ request ∈ s.tables.reindexRequests, request.operationId ≠ operationId
  owned : ∀ request ∈ s.tables.reindexRequests,
    s.tables.operations.get? request.operationId ≠ none

namespace Tracked

variable {s s' : Store}

theorem unchanged (h : Tracked s) (tables : s'.tables = s.tables) : Tracked s' := by
  refine ⟨?_, ?_, ?_⟩
  · unfold Reindexed
    rw [tables]
    exact h.reindexed
  · rw [tables]
    exact h.quiet
  · rw [tables]
    exact h.owned

theorem create (h : Tracked s) (tables : s'.tables = { s.tables with
      operations := s.tables.operations.set operationId row })
    (free : s.tables.operations.get? operationId = none)
    (requested : row.stateDocument.reindexRequested = false) : Tracked s' := by
  refine ⟨fun id row' found flag => ?_, fun id row' found flag => ?_, fun request hrequest => ?_⟩
  all_goals simp only [tables] at *
  · rw [Dict.get?_set] at found
    split at found
    · cases found
      rw [requested] at flag
      cases flag
    · exact h.reindexed id row' found flag
  · rw [Dict.get?_set] at found
    split at found
    · next hsame =>
      intro request hrequest hid
      exact h.owned request hrequest (by rw [hid, ← hsame, free])
    · exact h.quiet id row' found flag
  · exact Dict.get?_set_ne_none (h.owned request hrequest) _ _

theorem write (h : Tracked s) {row' : StoredOperation} {new : Rows}
    (found : s.tables.operations.get? operationId = some row)
    (requested : row.stateDocument.reindexRequested = false)
    (written : Written s s' operationId row' new)
    (targets : ∀ target ∈ new.targets, target.operationId = operationId)
    (requests : ∀ request ∈ new.reindexRequests, request.operationId = operationId)
    (ids : new.reindexRequests.map (·.targetVersionId) =
      if row'.stateDocument.reindexRequested then new.targets.map (·.targetVersionId) else [])
    (once : row'.stateDocument.reindexRequested = true →
      ∀ target ∈ s.tables.targets, target.operationId ≠ operationId) : Tracked s' := by
  have hquiet := h.quiet operationId row found requested
  have hother : ∀ {id}, operationId ≠ id → ∀ request ∈ (s.tables.toRows.add new).reindexRequests,
      request.operationId = id → request ∈ s.tables.reindexRequests := by
    intro id hne request hrequest hid
    refine (List.mem_append.1 hrequest).resolve_right fun hnew => hne ?_
    rw [← requests request hnew, hid]
  refine ⟨fun id row'' found' flag targetVersionId => ?_, fun id row'' found' flag => ?_,
    fun request hrequest => ?_⟩
  all_goals rw [written] at *
  · rw [Dict.get?_set] at found'
    split at found'
    · next hsame =>
      subst hsame
      cases found'
      rw [if_pos flag] at ids
      constructor
      · rintro ⟨request, hrequest, hid, rfl⟩
        have hnew : request ∈ new.reindexRequests :=
          (List.mem_append.1 hrequest).resolve_left fun hold => hquiet request hold hid
        have hmem := List.mem_map_of_mem (f := (·.targetVersionId)) hnew
        rw [ids] at hmem
        obtain ⟨target, htarget, hsame⟩ := List.mem_map.1 hmem
        exact ⟨target, List.mem_append_right _ htarget, targets target htarget, hsame⟩
      · rintro ⟨target, htarget, hid, rfl⟩
        have hnew : target ∈ new.targets :=
          (List.mem_append.1 htarget).resolve_left fun hold => once flag target hold hid
        have hmem := List.mem_map_of_mem (f := (·.targetVersionId)) hnew
        rw [← ids] at hmem
        obtain ⟨request, hrequest, hsame⟩ := List.mem_map.1 hmem
        exact ⟨request, List.mem_append_right _ hrequest, requests request hrequest, hsame⟩
    · next hne =>
      refine Iff.trans ?_ ((h.reindexed id row'' found' flag targetVersionId).trans ?_)
      · constructor
        · rintro ⟨request, hrequest, hid, hsame⟩
          exact ⟨request, hother hne request hrequest hid, hid, hsame⟩
        · rintro ⟨request, hrequest, hid, hsame⟩
          exact ⟨request, List.mem_append_left _ hrequest, hid, hsame⟩
      · constructor
        · rintro ⟨target, htarget, hid, hsame⟩
          exact ⟨target, List.mem_append_left _ htarget, hid, hsame⟩
        · rintro ⟨target, htarget, hid, hsame⟩
          refine ⟨target, (List.mem_append.1 htarget).resolve_right fun hnew => hne ?_, hid, hsame⟩
          rw [← targets target hnew, hid]
  · rw [Dict.get?_set] at found'
    split at found'
    · next hsame =>
      subst hsame
      cases found'
      rw [flag] at ids
      have hnone := List.map_eq_nil_iff.1 ids
      intro request hrequest
      rw [Rows.add, hnone, List.append_nil] at hrequest
      exact hquiet request hrequest
    · next hne =>
      intro request hrequest hid
      exact h.quiet id row'' found' flag request (hother hne request hrequest hid) hid
  · rcases List.mem_append.1 hrequest with hold | hnew
    · exact Dict.get?_set_ne_none (h.owned request hold) _ _
    · rw [requests request hnew]
      simp

end Tracked

theorem Mirrors.no_targets {rows : Rows} {operation : Operation}
    (h : Mirrors rows operationId operation) (none : operation.targetVersions = []) :
    ∀ target ∈ rows.targets, target.operationId ≠ operationId := by
  intro row hrow hid
  obtain ⟨target, htarget, -⟩ := h.targetOf hrow hid
  rw [none] at htarget
  cases htarget

theorem Persisted.not_requested {rows : Rows} {drawn : Nat}
    {operation : Operation} {r : Repository} (h : Persisted prim rows drawn operation r)
    (hydrated : hydrate row.toOperationRow = .ok (operation, r))
    (incomplete : operation.state ≠ .reindexRequested) :
    operation.reindexRequested = false ∧ row.stateDocument.reindexRequested = false := by
  have hrequested : operation.reindexRequested = false := by
    rw [← Bool.not_eq_true, h.staged.requested]
    exact incomplete
  exact ⟨hrequested, (hydratedFrom hydrated).reindexRequested ▸ hrequested⟩

theorem map_requests {after : Operation} {n : Nat} :
    (drawnRows prim "sync-reindex" (fun requestId target =>
        (⟨requestId, operationId, target.targetVersionId⟩ : ReindexRow)) n
      (if after.reindexRequested then targets else [])).map (·.targetVersionId) =
      if after.reindexRequested then
        (targets.map (targetRow operationId after)).map (·.targetVersionId)
      else [] := by
  rw [map_drawnRows (g := TargetVersion.targetVersionId)]
  · split
    · rw [List.map_map]
      rfl
    · rfl
  · exact fun _ _ => rfl

theorem operationId_requests {n : Nat} :
    ∀ request ∈ drawnRows prim "sync-reindex" (fun requestId target =>
        (⟨requestId, operationId, target.targetVersionId⟩ : ReindexRow)) n targets,
      request.operationId = operationId := by
  intro request hrequest
  obtain ⟨m, target, -, -, -, rfl⟩ := mem_drawnRows hrequest
  rfl

theorem operationId_targets {after : Operation} :
    ∀ target ∈ targets.map (targetRow operationId after), target.operationId = operationId := by
  intro target htarget
  obtain ⟨made, -, rfl⟩ := List.mem_map.1 htarget
  rfl

theorem tracked_next {s : Store} {i : Input scope} (h : Consistent prim s) (tracked : Tracked s)
    (once : CompletesAtOnce s i) : Tracked ((machine scope).next s i) := by
  have heffect := effect_next h i
  generalize (machine scope).answer s i = o at heffect
  generalize (machine scope).next s i = s' at heffect ⊢
  cases heffect with
  | unchanged tables grows => exact tracked.unchanged tables
  | created request drawn entries free tables grows => exact tracked.create tables free rfl
  | @approved operationId itemIds _ _ key _ row operation before after r r' snapshotId fingerprint _
      request found hydrated hbefore admitted admissible _ hafter drawn entry written grows =>
    obtain ⟨rfl, -, hpersisted⟩ := h.hydrated found hydrated
    have hawaiting := hpersisted.staged.awaiting.2 admissible.first
    obtain ⟨hflag, requested⟩ := hpersisted.not_requested hydrated (by rw [hawaiting]; decide)
    have hafterFlag : after.reindexRequested = false := by
      rw [hafter, hbefore]
      exact hflag
    refine tracked.write found requested written (by simp [approvalRows]) (by simp [approvalRows])
      ?_ ?_
    · simp [approvalRows]
    · intro flag
      exact absurd (hafterFlag.symm.trans flag) (by decide)
  | @transferred operationId _ key cursor payloads row operation before after r r' entries sent
      batchId fingerprint batch n _ request found hydrated hbefore admitted admissible failure sends
      hafter hbatch drawn hn entry written grows =>
    obtain ⟨rfl, -, hpersisted⟩ := h.hydrated found hydrated
    obtain ⟨hflag, requested⟩ := hpersisted.not_requested hydrated admissible.incomplete
    refine tracked.write found requested written operationId_targets operationId_requests
      map_requests fun flag => ?_
    have flag : after.reindexRequested = true := flag
    rw [hafter] at flag
    have hcompletes : Completes before i.request := by
      rw [request]
      exact completes_transfer (by rw [hbefore, hflag]) sends
        (by rw [hbefore]; exact hpersisted.sound.named) flag
    rw [hbefore] at hcompletes
    refine hpersisted.mirrors.no_targets (once _ row operation r found hydrated ?_ ?_ ?_ hcompletes)
    · rw [request]
      rfl
    · rw [Admitted, show i.core.request = _ from request]
      exact ⟨_, admitted⟩
    · refine ⟨failure, fun _ => ?_⟩
      rw [request]
      exact admissible
  | @resolved operationId conflictId _ key choice content row operation before after r r'
      conflict item targets sent fingerprint value _ request found hydrated hbefore admitted
      admissible failure resends hafter result entry written grows =>
    obtain ⟨rfl, -, hpersisted⟩ := h.hydrated found hydrated
    obtain ⟨hflag, requested⟩ := hpersisted.not_requested hydrated admissible.incomplete
    refine tracked.write found requested written operationId_targets operationId_requests
      map_requests fun flag => ?_
    have flag : after.reindexRequested = true := flag
    rw [hafter] at flag
    have hfind := (Operation.openConflict_same admitted.opened).1
    have hid : conflict.conflictId = conflictId := by simpa using List.find?_some hfind
    have hnamed : ∀ itemId item, before.items.get? itemId = some item → item.itemId = itemId := by
      rw [hbefore]
      exact hpersisted.sound.named
    rw [hnamed _ _ admitted.listed] at flag
    have hcompletes : Completes before i.request := by
      rw [request]
      exact completes_settle (by rw [hbefore, hflag]) (List.mem_of_find?_eq_some hfind) hid flag
    rw [hbefore] at hcompletes
    refine hpersisted.mirrors.no_targets (once _ row operation r found hydrated ?_ ?_ ?_ hcompletes)
    · rw [request]
      rfl
    · rw [Admitted, show i.core.request = _ from request]
      exact ⟨_, _, _, admitted⟩
    · refine ⟨failure, fun _ => ?_⟩
      rw [request]
      intro conflict' hopened
      have hopened : before.openConflict conflictId = .ok conflict' := by
        rw [hbefore]
        exact hopened
      obtain rfl : conflict = conflict' := Except.ok.inj (admitted.opened.symm.trans hopened)
      exact admissible

/-- Where every completing call makes all the target versions of its operation, all of them are
reindexed. -/
theorem reindexed_of_completesAtOnce (scope : Scope prim) (is : List (Input scope)) :
    (machine scope).AllSteps CompletesAtOnce (machine scope).init is →
      (machine scope).AllStates Reindexed (machine scope).init is := by
  intro hsteps
  have hstep : ∀ s i, Consistent prim s ∧ Tracked s → CompletesAtOnce s i →
      Consistent prim ((machine scope).next s i) ∧ Tracked ((machine scope).next s i) :=
    fun s i hs once => ⟨consistent_next hs.1 i, tracked_next hs.1 hs.2 once⟩
  have htracked : Tracked (machine scope).init := by
    refine ⟨?_, ?_, ?_⟩ <;> simp [Reindexed, machine, Tables.empty]
  exact ((machine scope).allStates_of hstep ⟨.init, htracked⟩ hsteps).mono fun s hs =>
    hs.2.reindexed

namespace Sample

def approvalOfBoth : Input workspace :=
  stored (Sync.Sample.call (.approve "sync-0" ["a", "b"] "step-up" (.version 1) "key-2" true))

def twoBatches : List (Input workspace) :=
  [stored Sync.Sample.preview, approvalOfBoth, stored (Sync.Sample.batch "a" 2 "key-3"),
    stored (Sync.Sample.batch "b" 3 "key-4")]

def oneBatch : List (Input workspace) :=
  [stored Sync.Sample.preview, stored (Sync.Sample.approval "a" 1 "key-2"),
    stored (Sync.Sample.batch "a" 2 "key-3")]

end Sample

theorem reindexed_oneBatch :
    (machine Sample.workspace).AllStates Reindexed (machine Sample.workspace).init
      Sample.oneBatch := by
  refine reindexed_of_completesAtOnce _ _ ⟨?_, ?_, ?_, trivial⟩
  · exact fun operationId row operation r found hydrated mutates => mutates.elim
  · exact fun operationId row operation r found hydrated mutates admitted admissible completes =>
      completes.elim
  · intro operationId row operation r found hydrated mutates _ _ _
    obtain rfl : "sync-0" = operationId := mutates
    have hfixture : ∀ row ∈ ((machine Sample.workspace).run [Sample.stored Sync.Sample.preview,
          Sample.stored (Sync.Sample.approval "a" 1 "key-2")]).tables.operations.get? "sync-0",
        ∀ loaded ∈ (hydrate row.toOperationRow).toOption, loaded.1.targetVersions = [] := by
      decide +kernel
    rw [Machine.run, Machine.runFrom_cons, Machine.runFrom_cons, Machine.runFrom_nil] at hfixture
    exact hfixture row found (operation, r) (by rw [hydrated]; rfl)

/-- The second of two batches requests reindexing of its own target version only. -/
theorem first_target_not_reindexed :
    ¬∀ is, (machine Sample.workspace).AllStates Reindexed (machine Sample.workspace).init is := by
  intro h
  have hlast : Reindexed ((machine Sample.workspace).run Sample.twoBatches) :=
    (h Sample.twoBatches).last
  have hfixture : (∃ row ∈ ((machine Sample.workspace).run
        Sample.twoBatches).tables.operations.get? "sync-0",
        row.stateDocument.reindexRequested = true) ∧
      (∃ target ∈ ((machine Sample.workspace).run Sample.twoBatches).tables.targets,
        target.operationId = "sync-0" ∧ target.targetVersionId = "0") ∧
      ∀ request ∈ ((machine Sample.workspace).run Sample.twoBatches).tables.reindexRequests,
        request.targetVersionId ≠ "0" := by
    decide +kernel
  obtain ⟨⟨row, found, requested⟩, target, none⟩ := hfixture
  obtain ⟨request, hrequest, -, hid⟩ := (hlast "sync-0" row found requested "0").2 target
  exact none request hrequest hid

end DaonUser.Sync.Postgres
