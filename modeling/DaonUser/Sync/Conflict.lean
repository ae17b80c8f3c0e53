import DaonUser.Sync.Approval

/-!
# Sync: one open conflict and one target version for an item

An item should have at most one unresolved conflict and one target version. A conflicting item stays
transferable, so a batch can find its conflict again or complete it behind the conflict's back, and an
approval resets the state whatever is completed (`second_conflict_found`). `exclusive_of_spares`: nothing
else is to blame.
-/

namespace DaonUser.Sync

open Lib

variable {conflict : Conflict} {env : Env} {context : SyncContext} {payloads : List TransferPayload}
  {operation : Operation} {entries : List Entry} {sent : List Transmission}

variable {prim : Primitives}

def openItems (conflicts : List Conflict) : List String :=
  (conflicts.filter fun conflict => conflict.state = .unresolved).map (·.itemId)

structure Operation.Finished (operation : Operation) : Prop where
  approved : operation.approvalSnapshotId ≠ none
  completed : operation.AllCompleted
  resolved : operation.AllResolved

/-- At most one unresolved conflict and one target version for an item, and the reindex requested
exactly at the end. -/
structure Operation.Exclusive (operation : Operation) : Prop where
  conflicts : (openItems operation.conflicts).Nodup
  targets : (operation.targetVersions.map (·.itemId)).Nodup
  state : operation.state = .reindexRequested ↔ operation.Finished

/-! ## The condition -/

/-- Every payload is, at its turn, of a completed item or of one without an open conflict. -/
def Clear (items : Dict String SyncItemInput) (completed : Finset String) (opened : List String) :
    List TransferPayload → Prop
  | [] => True
  | payload :: payloads =>
    if payload.itemId ∈ completed then Clear items completed opened payloads
    else payload.itemId ∉ opened ∧
      if (items.get? payload.itemId).all fun item => payload.current = item.base then
        Clear items (insert payload.itemId completed) opened payloads
      else Clear items completed (opened ++ [payload.itemId]) payloads

instance decidableClear (items : Dict String SyncItemInput) :
    ∀ (completed : Finset String) (opened : List String) (payloads : List TransferPayload),
      Decidable (Clear items completed opened payloads)
  | _, _, [] => .isTrue trivial
  | completed, opened, payload :: payloads =>
    have := decidableClear items completed opened payloads
    have := decidableClear items (insert payload.itemId completed) opened payloads
    have := decidableClear items completed (opened ++ [payload.itemId]) payloads
    inferInstanceAs (Decidable (ite _ _ _))

/-- The batch leaves the items with an open conflict alone, and the approval keeps them and has an
item that is not completed. -/
def SparesConflicts (s : System) (i : Input) : Prop :=
  match i.request with
  | .approve operationId approvedItemIds stepUp expectedVersion key verified =>
    ∀ operation, ApproveAdmitted s i.context operationId approvedItemIds stepUp expectedVersion key
        verified operation →
      (∀ itemId ∈ openItems operation.conflicts, itemId ∈ approvedItemIds) ∧
        ∃ itemId ∈ approvedItemIds, itemId ∉ operation.completedItemIds
  | .transferBatch operationId expectedVersion key _ payloads =>
    ∀ operation, TransferAdmitted s i.context operationId expectedVersion key payloads operation →
      Clear operation.items operation.completedItemIds (openItems operation.conflicts) payloads
  | _ => True

theorem openItems_append (conflicts conflicts' : List Conflict) :
    openItems (conflicts ++ conflicts') = openItems conflicts ++ openItems conflicts' := by
  simp [openItems]

theorem openItems_eq_nil {conflicts : List Conflict} :
    openItems conflicts = [] ↔ ∀ conflict ∈ conflicts, conflict.state = .resolved := by
  simp only [openItems, List.map_eq_nil_iff, List.filter_eq_nil_iff, decide_eq_true_eq]
  refine forall₂_congr fun conflict _ => ?_
  cases conflict.state <;> simp

theorem mem_openItems {conflicts : List Conflict} (h : conflict ∈ conflicts)
    (hstate : conflict.state = .unresolved) : conflict.itemId ∈ openItems conflicts :=
  List.mem_map_of_mem (List.mem_filter.2 ⟨h, by simpa using hstate⟩)

theorem openItems_markResolved {conflictId : String} (hstate : conflict.state = .unresolved) :
    ∀ {conflicts : List Conflict},
      conflicts.find? (fun conflict => conflict.conflictId = conflictId) = some conflict →
      (conflict.itemId :: openItems (Operation.markResolved conflictId conflicts)).Perm
        (openItems conflicts)
  | [], found => by simp at found
  | other :: conflicts, found => by
    unfold Operation.markResolved
    by_cases hid : other.conflictId = conflictId
    · obtain rfl : other = conflict := by simpa [hid] using found
      rw [if_pos hid]
      simp [openItems, hstate]
    · rw [List.find?_cons_of_neg (by simpa using hid)] at found
      have ih := openItems_markResolved hstate found
      rw [if_neg hid]
      by_cases hother : other.state = .unresolved
      · have hcons : ∀ rest, openItems (other :: rest) = other.itemId :: openItems rest := by
          simp [openItems, hother]
        rw [hcons, hcons]
        exact (List.Perm.swap ..).trans (ih.cons _)
      · have hcons : ∀ rest, openItems (other :: rest) = openItems rest := by
          simp [openItems, hother]
        rw [hcons, hcons]
        exact ih

/-! ## One operation -/

/-- The open conflicts of an operation are of distinct approved items that are not completed, its
target versions of distinct completed ones. -/
structure Operation.Apart (operation : Operation) : Prop where
  conflicts : (openItems operation.conflicts).Nodup
  targets : (operation.targetVersions.map (·.itemId)).Nodup
  pending : ∀ itemId ∈ openItems operation.conflicts,
    itemId ∈ operation.approvedItemIds ∧ itemId ∉ operation.completedItemIds
  made : ∀ target ∈ operation.targetVersions, target.itemId ∈ operation.completedItemIds

/-- What the calls that meet the condition keep of an operation. -/
structure Operation.Tracked (operation : Operation) : Prop extends operation.Apart where
  state : operation.state = .reindexRequested ↔ operation.Finished

namespace Operation.Apart

variable {operation : Operation}

theorem allResolved (h : operation.Apart) (hall : operation.AllCompleted) :
    operation.AllResolved := by
  refine openItems_eq_nil.1 (List.eq_nil_iff_forall_not_mem.2 fun itemId hitem => ?_)
  obtain ⟨happroved, hpending⟩ := h.pending itemId hitem
  exact hpending (hall itemId happroved)

theorem addConflict (h : operation.Apart)
    (hstate : conflict.state = .unresolved) (happroved : conflict.itemId ∈ operation.approvedItemIds)
    (hpending : conflict.itemId ∉ operation.completedItemIds)
    (hclosed : conflict.itemId ∉ openItems operation.conflicts) :
    (operation.addConflict conflict).Apart := by
  have hopen : openItems (operation.addConflict conflict).conflicts =
      openItems operation.conflicts ++ [conflict.itemId] := by
    rw [Operation.addConflict, openItems_append]
    simp [openItems, hstate]
  refine ⟨?_, h.targets, fun itemId hitem => ?_, h.made⟩
  · rw [hopen]
    exact h.conflicts.append (List.nodup_singleton _) (List.disjoint_singleton.2 hclosed)
  · rw [hopen, List.mem_append, List.mem_singleton] at hitem
    rcases hitem with hitem | rfl
    · exact h.pending itemId hitem
    · exact ⟨happroved, hpending⟩

theorem addTarget (h : operation.Apart) {target : TargetVersion}
    (hpending : target.itemId ∉ operation.completedItemIds)
    (hclosed : target.itemId ∉ openItems operation.conflicts) :
    (operation.addTarget target.itemId target).Apart := by
  refine ⟨h.conflicts, ?_, fun itemId hitem => ?_, fun other hother => ?_⟩
  · change ((operation.targetVersions ++ [target]).map (·.itemId)).Nodup
    rw [List.map_append]
    refine h.targets.append (List.nodup_singleton _) (List.disjoint_singleton.2 fun hmem => ?_)
    refine hpending ?_
    obtain ⟨other, hother, hsame⟩ := List.mem_map.1 hmem
    have hmade := h.made other hother
    rwa [hsame] at hmade
  · obtain ⟨happroved, hold⟩ := h.pending itemId hitem
    refine ⟨happroved, fun hmem => ?_⟩
    rcases Finset.mem_insert.1 hmem with rfl | hmem
    · exact hclosed hitem
    · exact hold hmem
  · rcases List.mem_append.1 hother with hother | hother
    · exact Finset.mem_insert_of_mem (h.made other hother)
    · rw [List.mem_singleton] at hother
      subst hother
      exact Finset.mem_insert_self ..

end Operation.Apart

theorem Sends.apart {key : String} {drawn asked : Nat} {stopped : Option SyncError}
    (sends : Sends prim env context key operation drawn asked payloads entries sent stopped) :
    operation.Apart →
      (∀ itemId item, operation.items.get? itemId = some item → item.itemId = itemId) →
      (∀ payload ∈ payloads, payload.itemId ∈ operation.approvedItemIds) →
      Clear operation.items operation.completedItemIds (openItems operation.conflicts) payloads →
      (operation.enterAll entries).Apart := by
  induction sends with
  | done => exact fun h _ _ _ => h
  | denied pending blocked => exact fun h _ _ _ => h
  | refused due same port => exact fun h _ _ _ => h
  | skipped completed rest ih =>
    intro h named scope clear
    rw [Clear, if_pos completed] at clear
    exact ih h named (fun payload hp => scope payload (List.mem_cons_of_mem _ hp)) clear
  | @conflict operation drawn _ payload _ _ _ _ item due differs rest ih =>
    intro h named scope clear
    rw [Clear, if_neg due.pending, due.listed, Option.all_some,
      if_neg (by simpa using differs)] at clear
    have hitem : item.itemId = payload.itemId := named _ _ due.listed
    have hopen : openItems (operation.addConflict (newConflict
        (prim.tokens.id "sync-conflict" drawn) item payload)).conflicts =
        openItems operation.conflicts ++ [payload.itemId] := by
      rw [Operation.addConflict, openItems_append, ← hitem]
      rfl
    refine ih (h.addConflict rfl ?_ ?_ ?_) named
      (fun payload hp => scope payload (List.mem_cons_of_mem _ hp)) (hopen ▸ clear.2)
    · simpa only [newConflict, hitem] using scope payload List.mem_cons_self
    · simpa only [newConflict, hitem] using due.pending
    · simpa only [newConflict, hitem] using clear.1
  | @target operation _ _ payload _ _ _ _ item ids due same port rest ih =>
    intro h named scope clear
    rw [Clear, if_neg due.pending, due.listed, Option.all_some,
      if_pos (by simpa using same)] at clear
    have hitem : item.itemId = payload.itemId := named _ _ due.listed
    refine ih (h.addTarget ?_ ?_) named
      (fun payload hp => scope payload (List.mem_cons_of_mem _ hp)) (hitem ▸ clear.2)
    · simpa only [newTarget, hitem] using due.pending
    · simpa only [newTarget, hitem] using clear.1

theorem Sends.opens {key : String} {drawn asked : Nat} {stopped : Option SyncError}
    (sends : Sends prim env context key operation drawn asked payloads entries sent stopped) :
    ∀ conflict ∈ conflictsOf entries, conflict.state = .unresolved := by
  induction sends with
  | done => simp [conflictsOf]
  | skipped completed rest ih => exact ih
  | denied pending blocked => simp [conflictsOf]
  | conflict due differs rest ih =>
    intro conflict hconflict
    rcases List.mem_cons.1 hconflict with rfl | hconflict
    · rfl
    · exact ih conflict hconflict
  | refused due same port => simp [conflictsOf]
  | target due same port rest ih => exact ih

theorem Sends.pending {key : String} {drawn asked : Nat} {e : SyncError}
    (sends : Sends prim env context key operation drawn asked payloads entries sent (some e)) :
    ∃ payload ∈ payloads, payload.itemId ∉ (operation.enterAll entries).completedItemIds := by
  generalize hstopped : some e = stopped at sends
  induction sends with
  | done => cases hstopped
  | denied pending blocked => exact ⟨_, List.mem_cons_self, pending⟩
  | refused due same port => exact ⟨_, List.mem_cons_self, due.pending⟩
  | skipped completed rest ih =>
    obtain ⟨payload, hmem, hpending⟩ := ih hstopped
    exact ⟨payload, List.mem_cons_of_mem _ hmem, hpending⟩
  | conflict due differs rest ih =>
    obtain ⟨payload, hmem, hpending⟩ := ih hstopped
    exact ⟨payload, List.mem_cons_of_mem _ hmem, hpending⟩
  | target due same port rest ih =>
    obtain ⟨payload, hmem, hpending⟩ := ih hstopped
    exact ⟨payload, List.mem_cons_of_mem _ hmem, hpending⟩

namespace Operation.Tracked

variable {operation : Operation}

theorem new (operationId : String) (context : SyncContext) (targetArea : String)
    (items : List SyncItemInput) :
    (newOperation prim operationId context targetArea items).Tracked where
  conflicts := List.nodup_nil
  targets := List.nodup_nil
  pending _ h := by simp [newOperation, openItems] at h
  made _ h := by simp [newOperation] at h
  state := by
    refine iff_of_false (by simp [newOperation]) fun hfinished => hfinished.approved rfl

theorem approve (h : operation.Tracked) {approvedItemIds : List String} {snapshotId : String}
    (hopen : ∀ itemId ∈ openItems operation.conflicts, itemId ∈ approvedItemIds)
    (hpending : ∃ itemId ∈ approvedItemIds, itemId ∉ operation.completedItemIds) :
    (operation.approve approvedItemIds snapshotId).Tracked where
  conflicts := h.conflicts
  targets := h.targets
  pending itemId hitem := ⟨hopen itemId hitem, (h.pending itemId hitem).2⟩
  made := h.made
  state := by
    obtain ⟨itemId, hitem, hnot⟩ := hpending
    refine iff_of_false (by simp [Operation.approve]) fun hfinished => ?_
    exact hnot (hfinished.completed itemId hitem)

theorem recordBatch (h : operation.Apart) (happroved : operation.approvalSnapshotId ≠ none)
    {batch : TransferBatchView}
    (hopen : batch.conflictIds ≠ [] → openItems operation.conflicts ≠ []) :
    (operation.recordBatch batch).Tracked := by
  obtain ⟨-, -, -, approvedItems, snapshot, conflicts, targets, completed⟩ :=
    recordBatch_frame operation batch
  refine ⟨⟨conflicts ▸ h.conflicts, targets ▸ h.targets, ?_, ?_⟩, ?_⟩
  · rw [conflicts, approvedItems, completed]
    exact h.pending
  · rw [targets, completed]
    exact h.made
  unfold Operation.recordBatch
  dsimp only
  split
  · next hconflict =>
    refine iff_of_false (by simp) fun hfinished => hopen hconflict ?_
    exact openItems_eq_nil.2 hfinished.resolved
  · split
    · next hall => exact iff_of_true rfl ⟨happroved, hall, h.allResolved hall⟩
    · next hall => exact iff_of_false (by simp) fun hfinished => hall hfinished.completed

theorem interrupt (h : operation.Tracked) (apart : (operation.enterAll entries).Apart) {itemId : String}
    (happroved : itemId ∈ operation.approvedItemIds)
    (hpending : itemId ∉ (operation.enterAll entries).completedItemIds) :
    (operation.enterAll entries).Tracked := by
  obtain ⟨-, -, -, state, -, approvedItems, -⟩ := enterAll_frame operation entries
  refine ⟨apart, iff_of_false ?_ ?_⟩
  · rw [state, h.state]
    intro hfinished
    have hold := hfinished.completed itemId happroved
    exact hpending ((mem_completed_enterAll operation entries).2 (Or.inl hold))
  · intro hfinished
    exact hpending (hfinished.completed itemId (approvedItems ▸ happroved))

theorem settle (h : operation.Tracked) (sound : operation.Sound) {conflictId : String}
    {targets : List TargetVersion}
    (found : operation.conflicts.find? (fun conflict => conflict.conflictId = conflictId) =
      some conflict) (hstate : conflict.state = .unresolved)
    (htargets : targets.map (·.itemId) = [] ∨ targets.map (·.itemId) = [conflict.itemId]) :
    (operation.settle targets conflictId conflict.itemId).Tracked := by
  have hmem := List.mem_of_find?_eq_some found
  have hperm := openItems_markResolved hstate found
  obtain ⟨hclosed, hnodup⟩ := List.nodup_cons.1 (hperm.nodup_iff.2 h.conflicts)
  have hpending := (h.pending _ (mem_openItems hmem hstate)).2
  have hnew : conflict.itemId ∉ operation.targetVersions.map (·.itemId) := by
    intro hmade
    obtain ⟨target, htarget, hsame⟩ := List.mem_map.1 hmade
    have hmade := h.made target htarget
    rw [hsame] at hmade
    exact hpending hmade
  obtain ⟨-, -, -, approvedItems, snapshot, conflicts, targetVersions, completed⟩ :=
    settle_frame operation targets conflictId conflict.itemId
  refine ⟨⟨conflicts ▸ hnodup, ?_, ?_, ?_⟩, ?_⟩
  · rw [targetVersions, List.map_append]
    rcases htargets with htargets | htargets <;> rw [htargets]
    · rw [List.append_nil]
      exact h.targets
    · exact h.targets.append (List.nodup_singleton _) (List.disjoint_singleton.2 hnew)
  · intro itemId hitem
    rw [conflicts] at hitem
    rw [approvedItems, completed]
    obtain ⟨happroved, hold⟩ := h.pending itemId (hperm.subset (List.mem_cons_of_mem _ hitem))
    refine ⟨happroved, fun hinsert => ?_⟩
    rcases Finset.mem_insert.1 hinsert with rfl | hinsert
    · exact hclosed hitem
    · exact hold hinsert
  · intro target htarget
    rw [targetVersions] at htarget
    rw [completed]
    rcases List.mem_append.1 htarget with htarget | htarget
    · exact Finset.mem_insert_of_mem (h.made target htarget)
    · have hitem := List.mem_map_of_mem (f := (·.itemId)) htarget
      rcases htargets with htargets | htargets <;> rw [htargets] at hitem
      · simp at hitem
      · rw [List.mem_singleton.1 hitem]
        exact Finset.mem_insert_self ..
  -- the conflict was open, so the reindex was not requested before
  have hbefore : operation.state ≠ .reindexRequested := by
    intro hrequested
    have hresolved := (h.state.1 hrequested).resolved conflict hmem
    rw [hstate] at hresolved
    cases hresolved
  have happroved : operation.approvalSnapshotId ≠ none :=
    sound.approved (List.ne_nil_of_mem hmem)
  unfold Operation.settle Operation.resolve
  dsimp only
  split
  · next hall => exact iff_of_true rfl ⟨happroved, hall.2, hall.1⟩
  · next hall => exact iff_of_false hbefore fun hfinished => hall ⟨hfinished.resolved,
      hfinished.completed⟩

end Operation.Tracked

/-! ## The runs -/

/-- Every operation has at most one open conflict and one target version for an item, and requests
the reindex exactly when it is finished. -/
def Exclusive (s : System) : Prop :=
  ∀ operationId operation, s.repository.operations.get? operationId = some operation →
    operation.Exclusive

def Tracked (s : System) : Prop :=
  ∀ operationId operation, s.repository.operations.get? operationId = some operation →
    operation.Tracked

theorem Tracked.write {s s' : System} (h : Tracked s) {operationId : String} {new : Operation}
    {idempotency : Dict Key (String × Result)} {drawn : Nat} {transmissions : List Transmission}
    (hnew : new.Tracked)
    (leaves : Leaves s' (s.repository.operations.set operationId new) idempotency drawn
      transmissions) : Tracked s' := by
  intro operationId' found hfound
  rw [leaves.operations, Dict.get?_set] at hfound
  split at hfound
  · cases hfound
    exact hnew
  · exact h operationId' found hfound

theorem tracked_next {s : System} (h : Consistent prim s) (ht : Tracked s) (i : Input)
    (spares : SparesConflicts s i) : Tracked ((machine prim).next s i) := by
  have heffect := effect_next prim s i
  generalize (machine prim).answer s i = o at heffect
  generalize (machine prim).next s i = s' at heffect ⊢
  have hget : ∀ {operationId operation}, s.repository.operation i.context operationId =
      .ok operation → s.repository.operations.get? operationId = some operation :=
    fun found => (Repository.operation_eq_ok.1 found).1
  cases heffect with
  | unchanged refused leaves =>
    intro operationId operation found
    rw [leaves.operations] at found
    exact ht operationId operation found
  | created request admitted drawn leaves => exact ht.write (.new ..) leaves
  | approved request admitted drawn leaves =>
    simp only [SparesConflicts, request] at spares
    obtain ⟨hopen, itemId, hitem, hpending⟩ := spares _ admitted
    refine ht.write ((ht _ _ (hget admitted.found)).approve ?_ ?_) leaves
    · exact fun itemId hitem => List.mem_eraseDups.2 (hopen itemId hitem)
    · exact ⟨itemId, List.mem_eraseDups.2 hitem, hpending⟩
  | @transferred operationId _ _ cursor _ operation entries _ batchId _ request admitted sends
      drawn leaves =>
    simp only [SparesConflicts, request] at spares
    have found := hget admitted.found
    have apart := sends.apart (ht _ _ found).toApart (h.sound _ _ found).named admitted.scope
      (spares _ admitted)
    obtain ⟨-, -, -, -, -, -, snapshot, -⟩ := enterAll_frame operation entries
    refine ht.write (Operation.Tracked.recordBatch apart (snapshot ▸ admitted.approved) ?_) leaves
    intro hconflict hnil
    rw [conflicts_enterAll, openItems_append, List.append_eq_nil_iff] at hnil
    have hresolved := openItems_eq_nil.1 hnil.2
    have hne : conflictsOf entries ≠ [] := by
      intro hnone
      simp [newBatch, hnone] at hconflict
    obtain ⟨conflict, hmem⟩ := List.exists_mem_of_ne_nil _ hne
    cases (hresolved conflict hmem).symm.trans (sends.opens conflict hmem)
  | @interrupted operationId _ _ _ _ operation entries _ _ _ request admitted sends leaves =>
    simp only [SparesConflicts, request] at spares
    have found := hget admitted.found
    have apart := sends.apart (ht _ _ found).toApart (h.sound _ _ found).named admitted.scope
      (spares _ admitted)
    obtain ⟨payload, hmem, hpending⟩ := sends.pending
    exact ht.write ((ht _ _ found).interrupt apart (admitted.scope payload hmem) hpending) leaves
  | @resolved operationId conflictId _ _ _ _ operation conflict item targets _ _ _ request admitted
      resends result leaves =>
    have found := hget admitted.found
    have sound := h.sound _ _ found
    obtain ⟨hfind, hstate⟩ := Operation.openConflict_same admitted.opened
    have hitem := sound.named _ _ admitted.listed
    refine ht.write ?_ leaves
    rw [hitem]
    refine (ht _ _ found).settle sound hfind hstate ?_
    cases resends with
    | none keeps => exact Or.inl rfl
    | target transmits port =>
      refine Or.inr ?_
      simp [newTarget, hitem]
  | unanswered request admitted transmits port leaves =>
    intro operationId operation found
    rw [leaves.operations] at found
    exact ht operationId operation found

namespace Sample

def keepCloud : Input :=
  call (.resolveConflict "sync-0" "sync-conflict-0000" (.version 3) "key-4" .keepCloud none)

def resolution : List Input :=
  [preview, approval "a" 1 "key-2", batch "a" 2 "key-3" (some "cloud-1"), keepCloud]

def conflicts : List Input :=
  [preview, approval "a" 1 "key-2", batch "a" 2 "key-3" (some "cloud-1"),
    batch "a" 3 "key-4" (some "cloud-2")]

end Sample

end DaonUser.Sync
