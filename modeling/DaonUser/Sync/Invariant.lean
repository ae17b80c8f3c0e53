import DaonUser.Sync.Spec

/-!
# Sync: what every reachable state satisfies

`Operation.Sound` is what every call keeps of an operation, `Consistent` what every call keeps of
the system. `Sends.keeps` is the induction rule of the loop of `transfer_batch`: what its two writes
keep, the loop keeps.
-/

namespace DaonUser.Sync

open Lib

variable {env : Env} {context : SyncContext} {payloads : List TransferPayload} {operation new : Operation}
  {entries : List Entry} {sent : List Transmission} {stopped : Option SyncError} {s' : System}

variable {prim : Primitives}

/-! ## The loop -/

theorem Sends.keeps {key : String} {P : Operation → Prop}
    (hconflict : ∀ operation payload item conflictId, P operation → payload ∈ payloads →
      Due operation payload item → payload.current ≠ item.base →
      P (operation.addConflict (newConflict conflictId item payload)))
    (htarget : ∀ operation payload item ids, P operation → payload ∈ payloads →
      Due operation payload item → P (operation.addTarget item.itemId (newTarget item "copy" ids)))
    {drawn asked : Nat}
    (sends : Sends prim env context key operation drawn asked payloads entries sent stopped)
    (h : P operation) : P (operation.enterAll entries) := by
  induction sends with
  | done => exact h
  | skipped completed rest ih =>
    exact ih (fun o p i c hp hm => hconflict o p i c hp (List.mem_cons_of_mem _ hm))
      (fun o p i ids hp hm => htarget o p i ids hp (List.mem_cons_of_mem _ hm)) h
  | denied pending blocked => exact h
  | conflict due differs rest ih =>
    exact ih (fun o p i c hp hm => hconflict o p i c hp (List.mem_cons_of_mem _ hm))
      (fun o p i ids hp hm => htarget o p i ids hp (List.mem_cons_of_mem _ hm))
      (hconflict _ _ _ _ h List.mem_cons_self due differs)
  | refused due same port => exact h
  | target due same port rest ih =>
    exact ih (fun o p i c hp hm => hconflict o p i c hp (List.mem_cons_of_mem _ hm))
      (fun o p i ids hp hm => htarget o p i ids hp (List.mem_cons_of_mem _ hm))
      (htarget _ _ _ _ h List.mem_cons_self due)

theorem Sends.asks {key : String} {drawn asked : Nat}
    (sends : Sends prim env context key operation drawn asked payloads entries sent stopped) :
    ∀ t ∈ sent, t.operationId = operation.operationId ∧
      t.approved = operation.approvedItemIds ∧
      ∃ payload ∈ payloads, operation.items.get? payload.itemId = some t.item := by
  induction sends with
  | done => simp
  | denied pending blocked => simp
  | refused due same port =>
    intro t ht
    rw [List.mem_singleton] at ht
    subst ht
    exact ⟨rfl, rfl, _, List.mem_cons_self, due.listed⟩
  | skipped completed rest ih =>
    intro t ht
    obtain ⟨hid, happroved, payload, hpayload, hitem⟩ := ih t ht
    exact ⟨hid, happroved, payload, List.mem_cons_of_mem _ hpayload, hitem⟩
  | conflict due differs rest ih =>
    intro t ht
    obtain ⟨hid, happroved, payload, hpayload, hitem⟩ := ih t ht
    exact ⟨hid, happroved, payload, List.mem_cons_of_mem _ hpayload, hitem⟩
  | target due same port rest ih =>
    intro t ht
    rcases List.mem_cons.1 ht with rfl | ht
    · exact ⟨rfl, rfl, _, List.mem_cons_self, due.listed⟩
    · obtain ⟨hid, happroved, payload, hpayload, hitem⟩ := ih t ht
      exact ⟨hid, happroved, payload, List.mem_cons_of_mem _ hpayload, hitem⟩

/-! ## An operation -/

/-- The item is one of the preview and its dependencies are completed. -/
def Operation.Ready (operation : Operation) (itemId : String) : Prop :=
  ∃ item, operation.items.get? itemId = some item ∧
    ∀ d ∈ item.dependencyItemIds, d ∈ operation.completedItemIds

structure Operation.Sound (operation : Operation) : Prop where
  named : ∀ itemId item, operation.items.get? itemId = some item → item.itemId = itemId
  previewed : ∀ itemId ∈ operation.approvedItemIds, operation.items.get? itemId ≠ none
  closed : operation.ClosedUnder operation.approvedItemIds
  completed : ∀ itemId ∈ operation.completedItemIds, operation.Ready itemId
  conflicts : ∀ conflict ∈ operation.conflicts, operation.Ready conflict.itemId
  approved : operation.conflicts ≠ [] → operation.approvalSnapshotId ≠ none

theorem Operation.Ready.mono {itemId : String}
    (h : operation.Ready itemId) (items : new.items = operation.items)
    (completed : operation.completedItemIds ⊆ new.completedItemIds) : new.Ready itemId := by
  obtain ⟨item, listed, dependencies⟩ := h
  exact ⟨item, items ▸ listed, fun d hd => completed (dependencies d hd)⟩

theorem Due.ready {payload : TransferPayload} {item : SyncItemInput}
    (due : Due operation payload item) : operation.Ready payload.itemId :=
  ⟨item, due.listed, due.dependencies⟩

@[simp] theorem map_itemId_markResolved (conflictId : String) (conflicts : List Conflict) :
    (Operation.markResolved conflictId conflicts).map (·.itemId) = conflicts.map (·.itemId) := by
  induction conflicts with
  | nil => rfl
  | cons conflict conflicts ih =>
    unfold Operation.markResolved
    split
    · rfl
    · simp [ih]

theorem recordBatch_frame (operation : Operation) (batch : TransferBatchView) :
    (operation.recordBatch batch).operationId = operation.operationId ∧
      (operation.recordBatch batch).context = operation.context ∧
      (operation.recordBatch batch).items = operation.items ∧
      (operation.recordBatch batch).approvedItemIds = operation.approvedItemIds ∧
      (operation.recordBatch batch).approvalSnapshotId = operation.approvalSnapshotId ∧
      (operation.recordBatch batch).conflicts = operation.conflicts ∧
      (operation.recordBatch batch).targetVersions = operation.targetVersions ∧
      (operation.recordBatch batch).completedItemIds = operation.completedItemIds := by
  unfold Operation.recordBatch
  dsimp only
  split
  · exact ⟨rfl, rfl, rfl, rfl, rfl, rfl, rfl, rfl⟩
  · split <;> exact ⟨rfl, rfl, rfl, rfl, rfl, rfl, rfl, rfl⟩

theorem settle_frame (operation : Operation) (targets : List TargetVersion) (conflictId itemId : String) :
    (operation.settle targets conflictId itemId).operationId = operation.operationId ∧
      (operation.settle targets conflictId itemId).context = operation.context ∧
      (operation.settle targets conflictId itemId).items = operation.items ∧
      (operation.settle targets conflictId itemId).approvedItemIds = operation.approvedItemIds ∧
      (operation.settle targets conflictId itemId).approvalSnapshotId =
        operation.approvalSnapshotId ∧
      (operation.settle targets conflictId itemId).conflicts =
        Operation.markResolved conflictId operation.conflicts ∧
      (operation.settle targets conflictId itemId).targetVersions =
        operation.targetVersions ++ targets ∧
      (operation.settle targets conflictId itemId).completedItemIds =
        insert itemId operation.completedItemIds := by
  unfold Operation.settle Operation.resolve
  dsimp only
  split <;> exact ⟨rfl, rfl, rfl, rfl, rfl, rfl, rfl, rfl⟩

theorem recordBatch_history (operation : Operation) (batch : TransferBatchView) :
    (operation.recordBatch batch).batches = operation.batches ++ [batch] ∧
      (operation.recordBatch batch).version = operation.version + 1 := by
  unfold Operation.recordBatch
  dsimp only
  split
  · exact ⟨rfl, rfl⟩
  · split <;> exact ⟨rfl, rfl⟩

theorem settle_history (operation : Operation) (targets : List TargetVersion) (conflictId itemId : String) :
    (operation.settle targets conflictId itemId).batches = operation.batches ∧
      (operation.settle targets conflictId itemId).version = operation.version + 1 := by
  unfold Operation.settle Operation.resolve
  dsimp only
  split <;> exact ⟨rfl, rfl⟩

namespace Operation.Sound

variable {operation : Operation}

theorem extend (h : operation.Sound) (items : new.items = operation.items)
    (approvedItems : new.approvedItemIds = operation.approvedItemIds)
    (snapshot : new.approvalSnapshotId = operation.approvalSnapshotId)
    (grows : operation.completedItemIds ⊆ new.completedItemIds)
    (completed : ∀ itemId ∈ new.completedItemIds, itemId ∈ operation.completedItemIds ∨
      operation.Ready itemId)
    (conflicts : ∀ conflict ∈ new.conflicts, operation.Ready conflict.itemId)
    (approved : new.conflicts ≠ [] → operation.approvalSnapshotId ≠ none) : new.Sound where
  named := items ▸ h.named
  previewed := by rw [items, approvedItems]; exact h.previewed
  closed := by
    have hclosed := h.closed
    unfold ClosedUnder at hclosed ⊢
    rw [items, approvedItems]
    exact hclosed
  completed itemId hitem :=
    ((completed itemId hitem).elim (h.completed itemId) id).mono items grows
  conflicts conflict hconflict := (conflicts conflict hconflict).mono items grows
  approved hne := by rw [snapshot]; exact approved hne

theorem approve (h : operation.Sound) {approvedItemIds : List String} {snapshotId : String}
    (scope : ∀ itemId ∈ approvedItemIds, operation.items.get? itemId ≠ none)
    (closed : operation.ClosedUnder approvedItemIds) :
    (operation.approve approvedItemIds snapshotId).Sound where
  named := h.named
  previewed := scope
  closed := closed
  completed := h.completed
  conflicts := h.conflicts
  approved _ := by simp [Operation.approve]

theorem enterAll (h : operation.Sound) (happroved : operation.approvalSnapshotId ≠ none) {key : String}
    {drawn asked : Nat}
    (sends : Sends prim env context key operation drawn asked payloads entries sent stopped) :
    (operation.enterAll entries).Sound := by
  refine (sends.keeps (P := fun o => o.Sound ∧ o.approvalSnapshotId ≠ none) ?_ ?_
    ⟨h, happroved⟩).1
  · rintro o payload item conflictId ⟨ho, hsnapshot⟩ _ due _
    refine ⟨ho.extend rfl rfl rfl subset_rfl (fun _ => Or.inl) ?_ fun _ => hsnapshot, hsnapshot⟩
    intro conflict hconflict
    rcases List.mem_append.1 hconflict with hconflict | hconflict
    · exact ho.conflicts conflict hconflict
    · rw [List.mem_singleton] at hconflict
      subst hconflict
      change o.Ready item.itemId
      rw [ho.named _ _ due.listed]
      exact due.ready
  · rintro o payload item ids ⟨ho, hsnapshot⟩ _ due
    refine ⟨ho.extend rfl rfl rfl (Finset.subset_insert _ _) ?_ ho.conflicts fun _ => hsnapshot,
      hsnapshot⟩
    intro itemId hitem
    rcases Finset.mem_insert.1 hitem with rfl | hitem
    · rw [ho.named _ _ due.listed]
      exact Or.inr due.ready
    · exact Or.inl hitem

theorem recordBatch (h : operation.Sound) (batch : TransferBatchView) :
    (operation.recordBatch batch).Sound := by
  obtain ⟨-, -, items, approvedItems, snapshot, conflicts, -, completed⟩ :=
    recordBatch_frame operation batch
  refine h.extend items approvedItems snapshot completed.ge ?_ ?_ ?_
  · exact fun itemId hitem => Or.inl (completed ▸ hitem)
  · exact fun conflict hconflict => h.conflicts conflict (conflicts ▸ hconflict)
  · exact fun hne => h.approved (conflicts ▸ hne)

theorem settle (h : operation.Sound) (targets : List TargetVersion) {conflictId itemId : String}
    (ready : operation.Ready itemId) : (operation.settle targets conflictId itemId).Sound := by
  obtain ⟨-, -, items, approvedItems, snapshot, conflicts, -, completed⟩ :=
    settle_frame operation targets conflictId itemId
  have hmap : (operation.settle targets conflictId itemId).conflicts.map (·.itemId) =
      operation.conflicts.map (·.itemId) := by
    rw [conflicts, map_itemId_markResolved]
  refine h.extend items approvedItems snapshot (completed ▸ Finset.subset_insert _ _) ?_ ?_ ?_
  · intro other hother
    rw [completed] at hother
    rcases Finset.mem_insert.1 hother with rfl | hother
    · exact Or.inr ready
    · exact Or.inl hother
  · intro conflict hconflict
    have hmem := List.mem_map_of_mem (f := (·.itemId)) hconflict
    rw [hmap, List.mem_map] at hmem
    obtain ⟨old, hold, hsame⟩ := hmem
    exact hsame ▸ h.conflicts old hold
  · intro hne
    refine h.approved fun hnil => hne ?_
    rw [hnil, List.map_nil, List.map_eq_nil_iff] at hmap
    exact hmap

end Operation.Sound

theorem get?_byId {items : List SyncItemInput} {itemId : String} {item : SyncItemInput}
    (h : (byId items).get? itemId = some item) : item.itemId = itemId ∧ item ∈ items := by
  have hpairs := Dict.get?_ofList h
  obtain ⟨other, hother, hpair⟩ := List.mem_map.1 hpairs
  obtain ⟨rfl, rfl⟩ := Prod.mk.inj hpair
  exact ⟨rfl, hother⟩

theorem newOperation_sound (operationId : String) (context : SyncContext) (targetArea : String)
    (items : List SyncItemInput) :
    (newOperation prim operationId context targetArea items).Sound where
  named _ _ h := (get?_byId h).1
  previewed := by simp [newOperation]
  closed := by simp [Operation.ClosedUnder, newOperation]
  completed := by simp [newOperation]
  conflicts := by simp [newOperation]
  approved := by simp [newOperation]

/-! ## The system -/

/-- What every call keeps of the system. -/
structure Consistent (prim : Primitives) (s : System) : Prop where
  keyed : ∀ operationId operation, s.repository.operations.get? operationId = some operation →
    operation.operationId = operationId
  sound : ∀ operationId operation, s.repository.operations.get? operationId = some operation →
    operation.Sound
  drawn : ∀ operationId, s.repository.operations.get? operationId ≠ none →
    ∃ n < s.drawn, operationId = prim.tokens.id "sync" n
  sent : ∀ t ∈ s.transmissions, s.repository.operations.get? t.operationId ≠ none

namespace Consistent

variable {s : System}

theorem init : Consistent prim System.init where
  keyed _ _ h := by simp [System.init] at h
  sound _ _ h := by simp [System.init] at h
  drawn _ h := by simp [System.init] at h
  sent _ h := by simp [System.init] at h

theorem unused (h : Consistent prim s) :
    s.repository.operations.get? (prim.tokens.id "sync" s.drawn) = none := by
  by_contra hused
  obtain ⟨n, hn, hid⟩ := h.drawn _ hused
  rw [TokenSource.id_inj] at hid
  omega

theorem create (h : Consistent prim s) {idempotency : Dict Key (String × Result)}
    (hid : operation.operationId = prim.tokens.id "sync" s.drawn) (sound : operation.Sound)
    (leaves : Leaves s' (s.repository.operations.set (prim.tokens.id "sync" s.drawn) operation)
      idempotency (s.drawn + 1) s.transmissions) : Consistent prim s' := by
  refine ⟨?_, ?_, ?_, ?_⟩
  · intro operationId found hfound
    rw [leaves.operations, Dict.get?_set] at hfound
    split at hfound
    · next hsame => cases hfound; rw [← hsame, hid]
    · exact h.keyed operationId found hfound
  · intro operationId found hfound
    rw [leaves.operations, Dict.get?_set] at hfound
    split at hfound
    · cases hfound; exact sound
    · exact h.sound operationId found hfound
  · intro operationId hused
    rw [leaves.operations, Dict.get?_set] at hused
    rw [leaves.drawn]
    split at hused
    · next hsame => exact ⟨s.drawn, Nat.lt_succ_self _, hsame.symm⟩
    · obtain ⟨n, hn, rfl⟩ := h.drawn operationId hused
      exact ⟨n, Nat.lt_succ_of_lt hn, rfl⟩
  · intro t ht
    rw [leaves.transmissions] at ht
    rw [leaves.operations]
    exact Dict.get?_set_ne_none (h.sent t ht) _ _

theorem write (h : Consistent prim s) {operationId : String}
    {idempotency : Dict Key (String × Result)} {drawn : Nat}
    (found : s.repository.operations.get? operationId = some operation)
    (hid : new.operationId = operation.operationId) (sound : new.Sound) (hdrawn : s.drawn ≤ drawn)
    (hsent : ∀ t ∈ sent, t.operationId = operation.operationId)
    (leaves : Leaves s' (s.repository.operations.set operationId new) idempotency drawn
      (s.transmissions ++ sent)) : Consistent prim s' := by
  refine ⟨?_, ?_, ?_, ?_⟩
  · intro operationId' found' hfound
    rw [leaves.operations, Dict.get?_set] at hfound
    split at hfound
    · next hsame =>
      cases hfound
      rw [← hsame, hid, h.keyed operationId operation found]
    · exact h.keyed operationId' found' hfound
  · intro operationId' found' hfound
    rw [leaves.operations, Dict.get?_set] at hfound
    split at hfound
    · cases hfound; exact sound
    · exact h.sound operationId' found' hfound
  · intro operationId' hused
    rw [leaves.operations, Dict.get?_set] at hused
    rw [leaves.drawn]
    have hold : s.repository.operations.get? operationId' ≠ none := by
      split at hused
      · next hsame => rw [← hsame, found]; simp
      · exact hused
    obtain ⟨n, hn, rfl⟩ := h.drawn operationId' hold
    exact ⟨n, by omega, rfl⟩
  · intro t ht
    rw [leaves.transmissions] at ht
    rw [leaves.operations]
    rcases List.mem_append.1 ht with ht | ht
    · exact Dict.get?_set_ne_none (h.sent t ht) _ _
    · rw [hsent t ht, h.keyed operationId operation found, Dict.get?_set_self]
      simp

theorem unchanged (h : Consistent prim s)
    (leaves : Leaves s' s.repository.operations s.repository.idempotency s.drawn
      s.transmissions) : Consistent prim s' where
  keyed := by rw [leaves.operations]; exact h.keyed
  sound := by rw [leaves.operations]; exact h.sound
  drawn := by rw [leaves.operations, leaves.drawn]; exact h.drawn
  sent := by rw [leaves.operations, leaves.transmissions]; exact h.sent

end Consistent

theorem consistent_next {s : System} (h : Consistent prim s) (i : Input) :
    Consistent prim ((machine prim).next s i) := by
  have heffect := effect_next prim s i
  generalize (machine prim).answer s i = o at heffect
  generalize (machine prim).next s i = s' at heffect ⊢
  have hget : ∀ {operationId operation}, s.repository.operation i.context operationId =
      .ok operation → s.repository.operations.get? operationId = some operation :=
    fun found => (Repository.operation_eq_ok.1 found).1
  cases heffect with
  | unchanged refused leaves => exact h.unchanged leaves
  | created request admitted drawn leaves =>
    subst drawn
    exact h.create rfl (newOperation_sound ..) leaves
  | approved request admitted drawn leaves =>
    have found := hget admitted.found
    refine h.write found ?_ ?_ (Nat.le_succ _) ?_ leaves.appendNil
    · rfl
    · exact (h.sound _ _ found).approve admitted.scope.2 admitted.closed
    · simp
  | transferred request admitted sends drawn leaves =>
    have found := hget admitted.found
    have sound := (h.sound _ _ found).enterAll admitted.approved sends
    refine h.write found ?_ (sound.recordBatch _) (by omega) (fun t ht => ?_) leaves
    · exact (recordBatch_frame _ _).1.trans (enterAll_frame _ _).1
    · exact (sends.asks t ht).1
  | interrupted request admitted sends leaves =>
    have found := hget admitted.found
    have sound := (h.sound _ _ found).enterAll admitted.approved sends
    exact h.write found (enterAll_frame _ _).1 sound (by omega)
      (fun t ht => (sends.asks t ht).1) leaves
  | resolved request admitted resends result leaves =>
    have found := hget admitted.found
    have sound := h.sound _ _ found
    refine h.write found (settle_frame ..).1 (sound.settle _ ?_) (Nat.le_succ _) ?_ leaves
    · have hmem := List.mem_of_find?_eq_some (Operation.openConflict_same admitted.opened).1
      rw [sound.named _ _ admitted.listed]
      exact sound.conflicts _ hmem
    · intro t ht
      cases resends with
      | none => simp at ht
      | target =>
        rw [List.mem_singleton] at ht
        rw [ht]
        rfl
  | unanswered request admitted transmits port leaves =>
    have found := hget admitted.found
    rw [← Dict.set_of_get? found] at leaves
    refine h.write found rfl (h.sound _ _ found) le_rfl ?_ leaves
    intro t ht
    rw [List.mem_singleton] at ht
    rw [ht]
    rfl

theorem consistent_run (prim : Primitives) (is : List Input) :
    Consistent prim ((machine prim).run is) :=
  (machine prim).run_induction (I := Consistent prim) .init (fun _ i h => consistent_next h i) is

end DaonUser.Sync
