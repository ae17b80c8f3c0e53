import DaonUser.Sync.Keys

/-!
# Sync: what each call needs to be committed

`SyncService` runs on the hydrated operation, then the rows that it added are inserted and the operation is
updated under the guard. `ApproveAdmissible`, `TransferAdmissible` and `ResolveAdmissible` say when these
statements go through, in terms of the call and of the store before it; `persist_approve` and its like prove
it and say what is left.
-/

namespace DaonUser.Sync.Postgres

open Lib

variable {prim : Primitives}

/-! ## The conditions -/

structure ApproveAdmissible (t : Tables) (actorId key : String) (operation : Operation) :
    Prop where
  first : operation.approvalSnapshotId = none
  key : ∀ row ∈ t.approvals, ¬(row.actorId = actorId ∧ row.idempotencyKey = key)

/-- A batch before completion, under a key that is new to the actor, whose conflicts are the first
of their items and have a cloud version that can be stored, and whose target versions get ids that can
be stored. -/
structure TransferAdmissible (t : Tables) (env : Env) (asked : Nat) (actorId key : String)
    (payloads : List TransferPayload) (operation : Operation) : Prop where
  incomplete : operation.state ≠ .reindexRequested
  first : ∀ payload ∈ operation.conflicting payloads,
    ∀ conflict ∈ operation.conflicts, conflict.itemId ≠ payload.itemId
  cloud : ∀ payload ∈ operation.conflicting payloads,
    CloudFits payload.currentCloudVersionId payload.currentCloudDigest
  apart : ((operation.conflicting payloads).map (·.itemId)).Nodup
  port : PortFits t env (env.answers asked (operation.copied payloads).length)
  key : ∀ row ∈ t.batches, ¬(row.actorId = actorId ∧ row.idempotencyKey = key)

/-- A resolution before completion, under a key that is new to the actor; if it transmits, of an item
without target version, and for ids that can be stored. -/
structure ResolveAdmissible (t : Tables) (env : Env) (asked : Nat) (actorId key : String)
    (choice : ConflictResolutionChoice) (operation : Operation) (conflict : Conflict) : Prop where
  incomplete : operation.state ≠ .reindexRequested
  single : choice.Transmits → ∀ target ∈ operation.targetVersions, target.itemId ≠ conflict.itemId
  port : choice.Transmits → PortFits t env (env.answers asked 1)
  key : ∀ row ∈ t.resolutions, ¬(row.actorId = actorId ∧ row.idempotencyKey = key)

/-! ## What the calls keep of an operation -/

theorem enterAll_sameIdentity (operation : Operation) (entries : List Entry) :
    operation.SameIdentity (operation.enterAll entries) := by
  induction entries generalizing operation with
  | nil => exact ⟨rfl, rfl, rfl⟩
  | cons entry entries ih =>
    obtain ⟨hid, harea, hdigest⟩ := ih (operation.enter entry)
    cases entry <;> exact ⟨hid, harea, hdigest⟩

theorem recordBatch_sameIdentity (operation : Operation) (batch : TransferBatchView) :
    operation.SameIdentity (operation.recordBatch batch) := by
  unfold Operation.recordBatch
  dsimp only
  split
  · exact ⟨rfl, rfl, rfl⟩
  · split <;> exact ⟨rfl, rfl, rfl⟩

theorem transfer_sameIdentity (operation : Operation) (entries : List Entry) (batchId : String)
    (cursor : Option String) :
    operation.SameIdentity (operation.transfer entries batchId cursor) := by
  have hrecord := recordBatch_sameIdentity (operation.enterAll entries)
    (newBatch (operation.enterAll entries) batchId cursor ((targetsOf entries).map (·.itemId))
      ((conflictsOf entries).map (·.conflictId)))
  have henter := enterAll_sameIdentity operation entries
  exact ⟨hrecord.operationId.trans henter.operationId, hrecord.targetArea.trans henter.targetArea,
    hrecord.manifestDigest.trans henter.manifestDigest⟩

theorem settle_sameIdentity (operation : Operation) (targets : List TargetVersion)
    (conflictId itemId : String) :
    operation.SameIdentity (operation.settle targets conflictId itemId) := by
  unfold Operation.settle Operation.resolve
  dsimp only
  split <;> exact ⟨rfl, rfl, rfl⟩

structure Transferred (operation after : Operation) (entries : List Entry)
    (batch : TransferBatchView) : Prop where
  items : after.items = operation.items
  version : after.version = operation.version + 1
  approvedItemIds : after.approvedItemIds = operation.approvedItemIds
  approvalSnapshotId : after.approvalSnapshotId = operation.approvalSnapshotId
  batches : after.batches = operation.batches ++ [batch]
  conflicts : after.conflicts = operation.conflicts ++ conflictsOf entries
  targetVersions : after.targetVersions = operation.targetVersions ++ targetsOf entries
  completed : ∀ itemId, itemId ∈ after.completedItemIds ↔ itemId ∈ operation.completedItemIds ∨
    ∃ target ∈ targetsOf entries, target.itemId = itemId
  state : after.state = .conflict ∧ after.reindexRequested = operation.reindexRequested ∨
    after.state = .transferring ∧ after.reindexRequested = operation.reindexRequested ∨
    after.state = .reindexRequested ∧ after.reindexRequested = true

theorem transferred (operation : Operation) (entries : List Entry) (batchId : String)
    (cursor : Option String) :
    Transferred operation (operation.transfer entries batchId cursor) entries
      (newBatch (operation.enterAll entries) batchId cursor ((targetsOf entries).map (·.itemId))
        ((conflictsOf entries).map (·.conflictId))) := by
  obtain ⟨-, -, items, approved, snapshot, conflicts, targets, completed⟩ :=
    recordBatch_frame (operation.enterAll entries) (newBatch (operation.enterAll entries) batchId
      cursor ((targetsOf entries).map (·.itemId)) ((conflictsOf entries).map (·.conflictId)))
  obtain ⟨batches, version⟩ := recordBatch_history (operation.enterAll entries)
    (newBatch (operation.enterAll entries) batchId cursor ((targetsOf entries).map (·.itemId))
      ((conflictsOf entries).map (·.conflictId)))
  obtain ⟨-, -, items', -, version', approved', snapshot', batches', flag⟩ :=
    enterAll_frame operation entries
  refine ⟨items.trans items', by rw [← version']; exact version, approved.trans approved',
    snapshot.trans snapshot', by rw [← batches']; exact batches, ?_, ?_, ?_, ?_⟩
  · exact conflicts.trans (conflicts_enterAll operation entries)
  · exact targets.trans (targetVersions_enterAll operation entries)
  · intro itemId
    rw [Operation.transfer, completed]
    exact mem_completed_enterAll operation entries
  · rw [← flag]
    unfold Operation.transfer Operation.recordBatch
    dsimp only
    split
    · exact Or.inl ⟨rfl, rfl⟩
    · split
      · exact Or.inr (Or.inr ⟨rfl, rfl⟩)
      · exact Or.inr (Or.inl ⟨rfl, rfl⟩)

theorem settle_state (operation : Operation) (targets : List TargetVersion)
    (conflictId itemId : String) :
    (operation.settle targets conflictId itemId).state = operation.state ∧
        (operation.settle targets conflictId itemId).reindexRequested =
          operation.reindexRequested ∨
      (operation.settle targets conflictId itemId).state = .reindexRequested ∧
        (operation.settle targets conflictId itemId).reindexRequested = true := by
  unfold Operation.settle Operation.resolve
  dsimp only
  split
  · exact Or.inr ⟨rfl, rfl⟩
  · exact Or.inl ⟨rfl, rfl⟩

/-! ## What `persist` needs -/

theorem Consistent.hydrated {s : Store} (h : Consistent prim s) {operationId : String}
    {row : StoredOperation} {operation : Operation} {r : Repository}
    (found : s.tables.operations.get? operationId = some row)
    (hydrated : hydrate row.toOperationRow = .ok (operation, r)) :
    operation.operationId = operationId ∧ HydratedFrom row.toOperationRow operation r ∧
      Persisted prim s.tables.toRows s.drawn operation r := by
  obtain ⟨hid, operation', r', hydrated', hpersisted⟩ := h.persisted operationId row found
  obtain ⟨rfl, rfl⟩ := Prod.mk.inj (Except.ok.inj (hydrated.symm.trans hydrated'))
  have hfrom := hydratedFrom hydrated
  exact ⟨hfrom.operationId.trans hid, hfrom, hpersisted⟩

theorem persist_eq {env : Env} {context : SyncContext} {operationId : String}
    {row : StoredOperation} {before after : Operation} {r : Repository} {result : Reply}
    {newBatches : List TransferBatchView} {newConflicts : List Conflict}
    {newTargets : List TargetVersion}
    (hbatches : after.batches = before.batches ++ newBatches)
    (hconflicts : after.conflicts.drop before.conflicts.length = newConflicts)
    (htargets : after.targetVersions = before.targetVersions ++ newTargets) :
    persist prim env context operationId row before after r result = (do
      persistApproval context operationId before after r
      insertRows conflicts (newConflicts.map (conflictRow operationId after))
      Call.ensure (∀ target ∈ newTargets, after.items.get? target.itemId ≠ none)
        (interpreterError "KeyError")
      insertRows (targetVersions env) (newTargets.map (targetRow operationId after))
      persistBatches prim context operationId after r newConflicts newBatches
      persistResolution context operationId r result
      insertDrawn prim "sync-reindex" reindexRequests
        (fun requestId target => ⟨requestId, operationId, target.targetVersionId⟩)
        (if after.reindexRequested then newTargets else [])
      updateOperation operationId row after r) := by
  obtain rfl : after.batches.drop before.batches.length = newBatches := by
    rw [hbatches, List.drop_left]
  obtain rfl : after.targetVersions.drop before.targetVersions.length = newTargets := by
    rw [htargets, List.drop_left]
  subst hconflicts
  rfl

theorem persistApproval_of_approved {context : SyncContext} {operationId : String}
    {before after : Operation} {r : Repository} (h : before.approvalSnapshotId ≠ none) :
    persistApproval context operationId before after r = pure ⟨⟩ := by
  obtain ⟨snapshotId, hsnapshot⟩ := Option.ne_none_iff_exists'.1 h
  unfold persistApproval
  rw [hsnapshot]

theorem needs_insertRows_nil {α ρ : Type} {s : Store} {table : Table Tables ρ}
    {f : PUnit → Statement α} {c : Prop} {E : Store → Prop} {R : α → Store → Prop}
    (hf : Call.Needs (f ⟨⟩) s c E R) : Call.Needs (insertRows table [] >>= f) s c E R := hf

theorem needs_insertDrawn_nil {α ι ρ : Type} {s : Store} {kind : String} {table : Table Tables ρ}
    {build : String → ι → ρ} {f : PUnit → Statement α} {c : Prop} {E : Store → Prop}
    {R : α → Store → Prop} (hf : Call.Needs (f ⟨⟩) s c E R) :
    Call.Needs (insertDrawn prim kind table build [] >>= f) s c E R := hf

section Persist

variable {s : Store} {n : Nat} {env : Env} {context : SyncContext} {operationId key : String}
  {row : StoredOperation} {operation before after : Operation} {r r' : Repository}
  {fingerprint snapshotId : String} {itemIds : List String} {transmissions : List Transmission}

def approvalRows (operationId snapshotId actorId key : String) (itemIds : List String) :
    Rows where
  approvals := [⟨snapshotId, operationId, actorId, key⟩]
  manifestItems := itemIds.map fun itemId => ⟨snapshotId, operationId, itemId⟩

theorem persistApproval_needs (h : Consistent prim s)
    (found : s.tables.operations.get? operationId = some row)
    (hydrated : hydrate row.toOperationRow = .ok (operation, r))
    (hbefore : before = { operation with context := context })
    (hafter : after = before.approve itemIds snapshotId)
    (unapproved : operation.approvalSnapshotId = none)
    (drawn : snapshotId = prim.tokens.id "sync-approval" s.drawn)
    (entries : r'.idempotency = r.idempotency.set (operationId, context.actorId, "approve", key)
      (fingerprint, .text snapshotId))
    (nodup : itemIds.Nodup) (listed : ∀ itemId ∈ itemIds, operation.items.get? itemId ≠ none) :
    Call.Needs (persistApproval context operationId before after r')
      ⟨s.tables, n, transmissions⟩
      (∀ row ∈ s.tables.approvals, ¬(row.actorId = context.actorId ∧ row.idempotencyKey = key))
      (n ≤ ·.drawn)
      fun _ s' => s' = ⟨{ s.tables.toRows.add
        (approvalRows operationId snapshotId context.actorId key itemIds) with
          operations := s.tables.operations }, n, transmissions⟩ := by
  obtain ⟨rfl, -, hpersisted⟩ := h.hydrated found hydrated
  have stored : s.tables.operations.get? operation.operationId ≠ none := by simp [found]
  have fresh : ∀ row ∈ s.tables.approvals, row.approvalSnapshotId ≠ snapshotId := by
    intro row hrow hsame
    have hfresh := h.linked.fresh le_rfl "sync-approval"
    rw [← drawn, ← hsame] at hfresh
    exact hfresh (Rows.approval_mem_drawnIds hrow)
  have unlisted : ∀ itemId, ¬s.tables.HasManifest operation.operationId itemId := by
    intro itemId hmanifest
    rw [hpersisted.mirrors.hasManifest_iff, hpersisted.staged.unlisted unapproved] at hmanifest
    simp at hmanifest
  subst hafter hbefore
  unfold persistApproval
  simp only [unapproved, Operation.approve]
  have hget := congrArg (·.get? (operation.operationId, context.actorId, "approve", key)) entries
  simp only [Dict.get?_set_self] at hget
  refine needs_firstEntry hget (by simp) ?_ ?_
  · intro key' value' hget hp
    rcases Dict.of_get?_set (entries ▸ hget) with hold | ⟨hkey, -⟩
    · simp only [decide_eq_true_eq] at hp
      exact absurd hp.2 (hpersisted.unapproved unapproved key' value' hold)
    · exact hkey
  refine Call.Needs.iff (c := _ ∧ True) ?_ (and_true _).to_iff
  refine needs_insertRows le_rfl (approvalSnapshots.admitsAll_singleton.trans
    (approval_admits_iff hpersisted.mirrors unapproved stored fresh)) fun _ => ?_
  refine Call.needs_ensure_of listed ?_
  refine ((insertRows_needs manifestItems _ le_rfl).iff (iff_true_intro ?_)).imp ?_
  · refine manifest_admitsAll ?_ ?_ ?_ ?_ nodup
    · exact unlisted
    · exact stored
    · exact ⟨_, List.mem_append_right _ (List.mem_singleton_self _), rfl⟩
    · intro row hrow
      obtain ⟨approval, happroval, hsame⟩ := h.linked.manifestItems row hrow
      exact hsame ▸ fresh approval happroval
  · intro _ _ s' hs'
    rw [hs']
    simp [Rows.add, approvalRows, manifestItems, approvalSnapshots]

theorem persist_approve (h : Consistent prim s)
    (found : s.tables.operations.get? operationId = some row)
    (hydrated : hydrate row.toOperationRow = .ok (operation, r))
    (hbefore : before = { operation with context := context })
    (hafter : after = before.approve itemIds snapshotId)
    (drawn : snapshotId = prim.tokens.id "sync-approval" s.drawn)
    (entries : r'.idempotency = r.idempotency.set (operationId, context.actorId, "approve", key)
      (fingerprint, .text snapshotId))
    (nodup : itemIds.Nodup) (listed : ∀ itemId ∈ itemIds, operation.items.get? itemId ≠ none)
    {value : SyncOperationView} :
    Call.Needs (persist prim env context operationId row before after r' (.operation value))
      ⟨s.tables, n, transmissions⟩ (ApproveAdmissible s.tables context.actorId key operation)
      (n ≤ ·.drawn) fun _ s' =>
        s'.tables = { s.tables.toRows.add
          (approvalRows operationId snapshotId context.actorId key itemIds) with
            operations := s.tables.operations.set operationId (row.written after r') } ∧
          n ≤ s'.drawn := by
  obtain ⟨-, hfrom, hpersisted⟩ := h.hydrated found hydrated
  have hversion : after.version = row.version + 1 := by
    rw [hafter, hbefore, ← hfrom.version]
    rfl
  have hstate : (row.state, after.state) ∈ transitions ↔ operation.approvalSnapshotId = none := by
    rw [← hpersisted.staged.awaiting, hfrom.state, hafter]
    change (row.state, OperationState.approved) ∈ transitions ↔ _
    cases row.state <;> decide
  have happroval : Call.Needs (persistApproval context operationId before after r')
      ⟨s.tables, n, transmissions⟩
      (operation.approvalSnapshotId = none → ∀ row ∈ s.tables.approvals,
        ¬(row.actorId = context.actorId ∧ row.idempotencyKey = key)) (n ≤ ·.drawn)
      fun _ s' => s'.drawn = n ∧ s'.tables.operations = s.tables.operations ∧
        (operation.approvalSnapshotId = none → s'.tables = { s.tables.toRows.add
          (approvalRows operationId snapshotId context.actorId key itemIds) with
            operations := s.tables.operations }) := by
    by_cases unapproved : operation.approvalSnapshotId = none
    · refine ((persistApproval_needs h found hydrated hbefore hafter unapproved drawn entries nodup
        listed).iff (imp_iff_right unapproved).symm).imp ?_
      rintro - - s' rfl
      exact ⟨rfl, rfl, fun _ => rfl⟩
    · rw [persistApproval_of_approved (by rw [hbefore]; exact unapproved)]
      refine (Call.needs_pure ?_).iff (iff_of_true trivial fun hnone => absurd hnone unapproved)
      exact ⟨rfl, rfl, fun hnone => absurd hnone unapproved⟩
  have hconflicts : after.conflicts.drop before.conflicts.length = [] := by
    rw [hafter]
    exact List.drop_length
  have hadmissible : ((operation.approvalSnapshotId = none → ∀ row ∈ s.tables.approvals,
        ¬(row.actorId = context.actorId ∧ row.idempotencyKey = key)) ∧
      operation.approvalSnapshotId = none) ↔
      ApproveAdmissible s.tables context.actorId key operation :=
    ⟨fun hboth => ⟨hboth.2, hboth.1 hboth.2⟩, fun hall => ⟨fun _ => hall.key, hall.first⟩⟩
  rw [persist_eq (by rw [hafter]; exact (List.append_nil _).symm) hconflicts
    (by rw [hafter]; exact (List.append_nil _).symm)]
  refine Call.Needs.iff ?_ hadmissible
  refine Call.needs_bind happroval fun _ _ s₁ ⟨hdrawn, hoperations, htables⟩ => ?_
  subst hdrawn
  refine needs_insertRows_nil ?_
  refine Call.needs_ensure_of (by simp) ?_
  refine needs_insertRows_nil ?_
  refine Call.needs_pure_bind (Call.needs_pure_bind ?_)
  rw [ite_self]
  refine needs_insertDrawn_nil (((updateOperation_needs le_rfl hversion).iff hstate).imp ?_)
  rintro unapproved - s' rfl
  refine ⟨?_, le_rfl⟩
  simp [htables unapproved, Dict.update_of_get? found]

theorem conflictItems_eq {new : List Conflict} (nodup : (new.map (·.conflictId)).Nodup) :
    conflictItems new (new.map (·.conflictId)) = .ok (new.map (·.itemId)) := by
  have hget : ∀ conflict ∈ new, (Dict.ofList (new.map fun conflict =>
      (conflict.conflictId, conflict.itemId))).get? conflict.conflictId =
      some conflict.itemId := by
    intro conflict hconflict
    rw [← Dict.mem_entries_iff, Dict.ofList, Dict.entries_foldl_set (by
      rw [Dict.empty, List.nil_append, List.map_map]
      exact nodup)]
    exact List.mem_append_right _ (List.mem_map_of_mem (f := fun conflict : Conflict =>
      (conflict.conflictId, conflict.itemId)) hconflict)
  have key : ∀ some : List Conflict, some ⊆ new →
      conflictItems new (some.map (·.conflictId)) = .ok (some.map (·.itemId)) := by
    intro some
    induction some with
    | nil => exact fun _ => rfl
    | cons conflict some ih =>
      intro hsubset
      have hrest := ih fun c hc => hsubset (List.mem_cons_of_mem _ hc)
      unfold conflictItems at hrest ⊢
      rw [List.map_cons, List.mapM_cons, hrest, hget conflict (hsubset List.mem_cons_self)]
      rfl
  exact key new fun _ h => h

def attemptRows (prim : Primitives) (operationId batchId : String) (n : Nat)
    (transferred conflicting : List String) : List AttemptRow :=
  drawnRows prim "sync-attempt" (fun attemptId itemId => ⟨attemptId, batchId, operationId, itemId⟩)
      n transferred ++
    drawnRows prim "sync-attempt" (fun attemptId itemId => ⟨attemptId, batchId, operationId, itemId⟩)
      (n + transferred.length) conflicting

theorem persistBatches_needs {t : Tables} {new : List Conflict} {batch : TransferBatchView}
    {K : Prop}
    (entry : r'.idempotency.get? (operationId, context.actorId, "transfer", key) =
      some (fingerprint, .text batch.batchId))
    (unique : ∀ key' value', r'.idempotency.get? key' = some value' → key'.2.2.1 = "transfer" →
      value'.2 = .text batch.batchId → key' = (operationId, context.actorId, "transfer", key))
    (admits : transferBatches.Admits t ⟨batch.batchId, operationId, after.approvalSnapshotId,
      context.actorId, batch.sequence, key⟩ ↔ K)
    (listed : ∀ itemId ∈ batch.transferredItemIds, after.items.get? itemId ≠ none)
    (ids : batch.conflictIds = new.map (·.conflictId)) (nodup : (new.map (·.conflictId)).Nodup)
    (fresh : ∀ row ∈ t.attempts, ∀ m ≥ n, row.attemptId ≠ prim.tokens.id "sync-attempt" m)
    (manifest : ∀ itemId ∈ batch.transferredItemIds, t.HasManifest operationId itemId)
    (manifest' : ∀ itemId ∈ new.map (·.itemId), t.HasManifest operationId itemId) :
    Call.Needs (persistBatches prim context operationId after r' new [batch])
      ⟨t, n, transmissions⟩ K (n ≤ ·.drawn) fun _ s' => s' =
        ⟨{ t with
            batches := t.batches ++ [⟨batch.batchId, operationId, after.approvalSnapshotId,
              context.actorId, batch.sequence, key⟩]
            attempts := t.attempts ++ attemptRows prim operationId batch.batchId n
              batch.transferredItemIds (new.map (·.itemId)) },
          n + batch.transferredItemIds.length + new.length, transmissions⟩ := by
  unfold persistBatches
  refine needs_firstEntry entry (by simp) (fun key' value' hget hp => ?_) ?_
  · simp only [decide_eq_true_eq] at hp
    exact unique key' value' hget hp.2.1 hp.2.2
  refine Call.Needs.iff (c := _ ∧ True) ?_ (and_true _).to_iff
  refine needs_insertRows le_rfl (transferBatches.admitsAll_singleton.trans admits) fun _ => ?_
  refine Call.needs_ensure_of listed ?_
  have hbatch : ∃ row ∈ t.batches ++ [⟨batch.batchId, operationId, after.approvalSnapshotId,
      context.actorId, batch.sequence, key⟩], row.batchId = batch.batchId :=
    ⟨_, List.mem_append_right _ (List.mem_singleton_self _), rfl⟩
  refine needs_insertDrawn_of le_rfl (attempts_admitsAll fresh hbatch manifest) ?_
  refine Call.needs_query (a := new.map (·.itemId)) (by rw [ids]; exact conflictItems_eq nodup) ?_
  refine needs_insertDrawn_of (Nat.le_add_right _ _) (attempts_admitsAll ?_ hbatch manifest') ?_
  · intro row hrow m hm
    rcases List.mem_append.1 hrow with hrow | hrow
    · exact fresh row hrow m (le_trans (Nat.le_add_right _ _) hm)
    · obtain ⟨m', itemId, -, hm', -, rfl⟩ := mem_drawnRows hrow
      intro hsame
      have hmm : m' = m := (prim.tokens.id_inj _).1 hsame
      have hm : n + batch.transferredItemIds.length ≤ m := hm
      have hm' : m' < n + batch.transferredItemIds.length := hm'
      omega
  · refine Call.needs_pure ?_
    simp [transferBatches, transferAttempts, attemptRows]

def batchRows (prim : Primitives) (operationId actorId key : String) (after : Operation)
    (entries : List Entry) (batch : TransferBatchView) (n : Nat) : Rows where
  conflicts := (conflictsOf entries).map (conflictRow operationId after)
  targets := (targetsOf entries).map (targetRow operationId after)
  batches := [⟨batch.batchId, operationId, after.approvalSnapshotId, actorId, batch.sequence, key⟩]
  attempts := attemptRows prim operationId batch.batchId n batch.transferredItemIds
    ((conflictsOf entries).map (·.itemId))
  reindexRequests := drawnRows prim "sync-reindex"
    (fun requestId target => ⟨requestId, operationId, target.targetVersionId⟩)
    (n + batch.transferredItemIds.length + (conflictsOf entries).length)
    (if after.reindexRequested then targetsOf entries else [])

section Transfer

variable {entries : List Entry} {batchId : String} {cursor : Option String}
  {payloads : List TransferPayload} {sent : List Transmission}

theorem newConflict_of_sends (h : Consistent prim s)
    (hpersisted : Persisted prim s.tables.toRows s.drawn operation r)
    (sends : Sends prim env.toEnv context key operation (s.drawn + 1) s.transmissions.length
      payloads entries sent none)
    (scope : ∀ payload ∈ payloads, payload.itemId ∈ operation.approvedItemIds) :
    ∀ conflict ∈ conflictsOf entries, NewConflict s.tables operation conflict := by
  intro conflict hconflict
  obtain ⟨payload, hpayload, item, conflictId, listed, rfl⟩ := sends.conflicts conflict hconflict
  obtain ⟨-, -, -, -, -, hdigest, -, -, hbase, -, hbaseDigest⟩ := item.valid
  refine ⟨fun row hrow hsame => ?_, ?_, hdigest, hbase, hbaseDigest⟩
  · have hid := List.mem_map_of_mem (f := (·.conflictId)) hconflict
    rw [sends.conflictIds, List.mem_map] at hid
    obtain ⟨m, hm, hid⟩ := hid
    rw [List.mem_range'_1] at hm
    have hfresh := h.linked.fresh (n := m) (by omega) "sync-conflict"
    rw [hid, ← hsame] at hfresh
    exact hfresh (Rows.conflict_mem_drawnIds hrow)
  · change item.itemId ∈ operation.approvedItemIds
    rw [hpersisted.sound.named _ _ listed]
    exact scope payload hpayload

theorem newTarget_of_sends (hpersisted : Persisted prim s.tables.toRows s.drawn operation r)
    (sends : Sends prim env.toEnv context key operation (s.drawn + 1) s.transmissions.length
      payloads entries sent none)
    (scope : ∀ payload ∈ payloads, payload.itemId ∈ operation.approvedItemIds) :
    ∀ target ∈ targetsOf entries, NewTarget operation target := by
  intro target htarget
  obtain ⟨payload, hpayload, item, ids, listed, rfl⟩ := sends.targets target htarget
  obtain ⟨-, -, -, -, -, hdigest, -⟩ := item.valid
  refine ⟨?_, hdigest, by simp [newTarget]⟩
  change item.itemId ∈ operation.approvedItemIds
  rw [hpersisted.sound.named _ _ listed]
  exact scope payload hpayload

theorem transferAdmissible_iff (hpersisted : Persisted prim s.tables.toRows s.drawn operation r)
    {drawn : Nat}
    (sends : Sends prim env.toEnv context key operation drawn s.transmissions.length
      payloads entries sent none) :
    ((∀ conflict ∈ conflictsOf entries,
        (∀ other ∈ operation.conflicts, other.itemId ≠ conflict.itemId) ∧
          CloudFits conflict.cloudVersionId conflict.cloudDigest) ∧
        ((conflictsOf entries).map (·.itemId)).Nodup) ∧
      (PortFits s.tables env ((targetsOf entries).map fun target =>
          (target.targetVersionId, target.targetObjectId)) ∧
        (∀ target ∈ targetsOf entries, ∀ made ∈ operation.targetVersions,
          made.itemId ≠ target.itemId) ∧ ((targetsOf entries).map (·.itemId)).Nodup) ∧
      (∀ row ∈ s.tables.batches, ¬(row.actorId = context.actorId ∧ row.idempotencyKey = key)) ∧
      operation.state ≠ .reindexRequested ↔
    TransferAdmissible s.tables env s.transmissions.length context.actorId key payloads
      operation := by
  have named := hpersisted.sound.named
  have hclaims := sends.claims named
  have hitems : (conflictsOf entries).map (·.itemId) =
      (operation.conflicting payloads).map (·.itemId) := by
    have hfirst := congrArg (List.map Prod.fst) hclaims
    rwa [List.map_map, List.map_map] at hfirst
  have hconflicts : (∀ conflict ∈ conflictsOf entries,
      (∀ other ∈ operation.conflicts, other.itemId ≠ conflict.itemId) ∧
        CloudFits conflict.cloudVersionId conflict.cloudDigest) ↔
      ∀ payload ∈ operation.conflicting payloads,
        (∀ other ∈ operation.conflicts, other.itemId ≠ payload.itemId) ∧
          CloudFits payload.currentCloudVersionId payload.currentCloudDigest := by
    have hall := List.forall_mem_map (l := conflictsOf entries)
      (f := fun conflict => (conflict.itemId, conflict.cloudVersionId, conflict.cloudDigest))
      (P := fun claim => (∀ other ∈ operation.conflicts, other.itemId ≠ claim.1) ∧
        CloudFits claim.2.1 claim.2.2)
    rw [hclaims, List.forall_mem_map] at hall
    exact hall.symm
  have hmade : ∀ target ∈ targetsOf entries, ∀ made ∈ operation.targetVersions,
      made.itemId ≠ target.itemId := by
    intro target htarget made hmem hsame
    have hcompleted := hpersisted.staged.made made hmem
    rw [hsame] at hcompleted
    exact (sends.targetItems named).2 target htarget hcompleted
  rw [hconflicts, hitems, sends.targetIds named]
  constructor
  · rintro ⟨⟨hall, hapart⟩, ⟨hport, _, _⟩, hkey, hstate⟩
    exact ⟨hstate, fun p hp => (hall p hp).1, fun p hp => (hall p hp).2, hapart, hport, hkey⟩
  · rintro ⟨hstate, hfirst, hcloud, hapart, hport, hkey⟩
    exact ⟨⟨fun p hp => ⟨hfirst p hp, hcloud p hp⟩, hapart⟩,
      ⟨hport, hmade, (sends.targetItems named).1⟩, hkey, hstate⟩

theorem persist_transfer (h : Consistent prim s)
    (found : s.tables.operations.get? operationId = some row)
    (hydrated : hydrate row.toOperationRow = .ok (operation, r))
    (hbefore : before = { operation with context := context })
    (hafter : after = before.transfer entries batchId cursor)
    (approved : operation.approvalSnapshotId ≠ none)
    (drawn : batchId = prim.tokens.id "sync-batch" s.drawn)
    (sends : Sends prim env.toEnv context key before (s.drawn + 1) s.transmissions.length
      payloads entries sent none)
    (scope : ∀ payload ∈ payloads, payload.itemId ∈ operation.approvedItemIds)
    (entry : r'.idempotency = r.idempotency.set (operationId, context.actorId, "transfer", key)
      (fingerprint, .text batchId))
    (hn : s.drawn < n) {batch : TransferBatchView}
    (hbatch : batch = newBatch (before.enterAll entries) batchId cursor
      ((targetsOf entries).map (·.itemId)) ((conflictsOf entries).map (·.conflictId))) :
    Call.Needs (persist prim env context operationId row before after r' (.batch batch))
      ⟨s.tables, n, transmissions⟩
      (TransferAdmissible s.tables env s.transmissions.length context.actorId key payloads
        operation)
      (n ≤ ·.drawn) fun _ s' =>
        s'.tables = { s.tables.toRows.add
          (batchRows prim operationId context.actorId key after entries batch n) with
            operations := s.tables.operations.set operationId (row.written after r') } ∧
          n + batch.transferredItemIds.length + (conflictsOf entries).length +
            (if after.reindexRequested then targetsOf entries else []).length ≤ s'.drawn := by
  obtain ⟨rfl, hfrom, hpersisted⟩ := h.hydrated found hydrated
  have stored : s.tables.operations.get? operation.operationId ≠ none := by simp [found]
  replace sends : Sends prim env.toEnv context key operation (s.drawn + 1) s.transmissions.length
      payloads entries sent none := by
    rw [hbefore] at sends
    exact sends.setContext operation.context
  have parts : Transferred before after entries batch := by
    rw [hafter, hbatch]
    exact transferred ..
  have snapshot : after.approvalSnapshotId = operation.approvalSnapshotId := by
    rw [parts.approvalSnapshotId, hbefore]
  have hversion : after.version = row.version + 1 := by
    rw [parts.version, hbefore, ← hfrom.version]
  have hstate : (row.state, after.state) ∈ transitions ↔ operation.state ≠ .reindexRequested := by
    have hawaiting : row.state ≠ .awaitingApproval := by
      rw [← hfrom.state]
      exact fun hstate => approved (hpersisted.staged.awaiting.1 hstate)
    rw [hfrom.state]
    rcases parts.state with ⟨hafter, -⟩ | ⟨hafter, -⟩ | ⟨hafter, -⟩ <;> rw [hafter] <;>
      revert hawaiting <;> cases row.state <;> decide
  have hids : ((conflictsOf entries).map (·.conflictId)).Nodup := by
    rw [sends.conflictIds]
    exact (List.nodup_range').map fun m m' hsame => (prim.tokens.id_inj _).1 hsame
  have listed : ∀ target ∈ targetsOf entries, after.items.get? target.itemId ≠ none := by
    intro target htarget
    rw [parts.items, hbefore]
    exact hpersisted.sound.previewed _ (newTarget_of_sends hpersisted sends scope target
      htarget).approved
  have hbatchId : batch.batchId = batchId := by rw [hbatch]; rfl
  have htransferred : batch.transferredItemIds = (targetsOf entries).map (·.itemId) := by
    rw [hbatch]
    rfl
  have hsequence : batch.sequence = operation.batches.length + 1 := by
    rw [hbatch, hbefore]
    exact congrArg (·.length + 1) (enterAll_frame _ _).2.2.2.2.2.2.2.1
  have freshBatch : ∀ row ∈ s.tables.batches, row.batchId ≠ batch.batchId := by
    intro row hrow hsame
    have hfresh := h.linked.fresh le_rfl "sync-batch"
    rw [← drawn, ← hbatchId, ← hsame] at hfresh
    exact hfresh (Rows.batch_mem_drawnIds hrow)
  have freshAttempt : ∀ row ∈ s.tables.attempts, ∀ m ≥ n,
      row.attemptId ≠ prim.tokens.id "sync-attempt" m := by
    intro row hrow m hm hsame
    have hfresh := h.linked.fresh (n := m) (by omega) "sync-attempt"
    rw [← hsame] at hfresh
    exact hfresh (Rows.attempt_mem_drawnIds hrow)
  have manifest : ∀ itemId ∈ operation.approvedItemIds,
      s.tables.HasManifest operation.operationId itemId :=
    fun itemId hitem => hpersisted.mirrors.hasManifest_iff.2 hitem
  have unique : ∀ key' value', r'.idempotency.get? key' = some value' →
      key'.2.2.1 = "transfer" → value'.2 = .text batch.batchId →
      key' = (operation.operationId, context.actorId, "transfer", key) := by
    intro key' value' hget hkind hvalue
    rcases Dict.of_get?_set (entry ▸ hget) with hold | ⟨hkey, -⟩
    · have hdrawn := (hpersisted.entries key' value'.1 value'.2 hold).2.2
      rw [hvalue] at hdrawn
      obtain ⟨m, hm, hid⟩ := hdrawn hkind
      rw [hbatchId, drawn] at hid
      have hms : s.drawn = m := (prim.tokens.id_inj _).1 hid
      omega
    · exact hkey
  have hentry : r'.idempotency.get? (operation.operationId, context.actorId, "transfer", key) =
      some (fingerprint, .text batch.batchId) := by
    rw [entry, hbatchId, Dict.get?_set_self]
  have hsub : ∀ target ∈ (if after.reindexRequested then targetsOf entries else []),
      target ∈ targetsOf entries := by
    intro target htarget
    split at htarget
    · exact htarget
    · simp at htarget
  rw [persist_eq parts.batches (by rw [parts.conflicts, List.drop_left]) parts.targetVersions,
    persistApproval_of_approved (by rw [hbefore]; exact approved)]
  refine Call.needs_pure_bind (Call.Needs.iff ?_ (transferAdmissible_iff hpersisted sends))
  refine needs_insertRows le_rfl (conflicts_admitsAll_iff hpersisted.mirrors approved snapshot
    (newConflict_of_sends h hpersisted sends scope) hids) fun _ => ?_
  refine Call.needs_ensure_of listed ?_
  refine needs_insertRows le_rfl (targets_admitsAll_iff (t := s.tables) hpersisted.mirrors approved
    snapshot (newTarget_of_sends hpersisted sends scope)) fun htargets => ?_
  refine Call.needs_bind (persistBatches_needs (K := ∀ row ∈ s.tables.batches,
    ¬(row.actorId = context.actorId ∧ row.idempotencyKey = key)) hentry unique ?_ ?_ ?_ hids
    freshAttempt ?_ ?_) fun _ _ s₁ hs₁ => ?_
  · rw [hsequence]
    exact batch_admits_iff (t := s.tables) hpersisted.mirrors approved snapshot stored freshBatch
  · rw [htransferred]
    exact List.forall_mem_map.2 listed
  · rw [hbatch]
    rfl
  · rw [htransferred]
    exact List.forall_mem_map.2 fun target htarget =>
      manifest _ (newTarget_of_sends hpersisted sends scope target htarget).approved
  · exact List.forall_mem_map.2 fun conflict hconflict =>
      manifest _ (newConflict_of_sends h hpersisted sends scope conflict hconflict).approved
  subst hs₁
  have hport := ((targets_admitsAll_iff (t := s.tables) hpersisted.mirrors approved snapshot
    (newTarget_of_sends hpersisted sends scope)).1 htargets).1
  refine Call.needs_pure_bind (needs_insertDrawn_of ?_ (reindex_admitsAll ?_ ?_ ?_ ?_ ?_) ?_)
  · dsimp only
    omega
  · exact stored
  · intro row hrow m hm hsame
    have hm : n + batch.transferredItemIds.length + (conflictsOf entries).length ≤ m := hm
    have hfresh := h.linked.fresh (n := m) (by omega) "sync-reindex"
    rw [← hsame] at hfresh
    exact hfresh (Rows.reindex_mem_drawnIds hrow)
  · intro row hrow target htarget hsame
    obtain ⟨other, hother, hid⟩ := h.linked.reindexRequests row hrow
    refine hport.new (target.targetVersionId, target.targetObjectId) ?_ other hother
      (hid.trans hsame)
    exact List.mem_map_of_mem (f := fun target : TargetVersion =>
      (target.targetVersionId, target.targetObjectId)) (hsub target htarget)
  · exact fun target htarget => ⟨_, List.mem_append_right _
      (List.mem_map_of_mem (hsub target htarget)), rfl⟩
  · have hdistinct := hport.distinct
    rw [List.map_map] at hdistinct
    split
    · exact hdistinct
    · exact List.nodup_nil
  refine ((updateOperation_needs ?_ hversion).iff hstate).imp ?_
  · dsimp only
    omega
  rintro - - s' rfl
  refine ⟨?_, le_rfl⟩
  simp [Rows.add, batchRows, conflicts, targetVersions, reindexRequests,
    Dict.update_of_get? found]

end Transfer

def resolutionRows (prim : Primitives) (operationId actorId key : String) (after : Operation)
    (targets : List TargetVersion) (value : ConflictResolutionView) (n : Nat) : Rows where
  targets := targets.map (targetRow operationId after)
  resolutions := [⟨value.resolutionId, value.conflictId, operationId, actorId, key⟩]
  reindexRequests := drawnRows prim "sync-reindex"
    (fun requestId target => ⟨requestId, operationId, target.targetVersionId⟩) n
    (if after.reindexRequested then targets else [])

section Resolve

variable {conflictId : String} {choice : ConflictResolutionChoice} {content : Option (List UInt8)}
  {conflict : Conflict} {item : SyncItemInput} {targets : List TargetVersion}
  {sent : List Transmission} {asked : Nat}

theorem length_markResolved (conflictId : String) (conflicts : List Conflict) :
    (Operation.markResolved conflictId conflicts).length = conflicts.length := by
  have hmap := congrArg List.length (map_itemId_markResolved conflictId conflicts)
  rwa [List.length_map, List.length_map] at hmap

theorem newTarget_of_resends (hpersisted : Persisted prim s.tables.toRows s.drawn operation r)
    (hconflict : conflict ∈ operation.conflicts)
    (listed : operation.items.get? conflict.itemId = some item)
    (resends : Resends env.toEnv context key before item choice asked content targets sent) :
    ∀ target ∈ targets, NewTarget operation target ∧ target.itemId = conflict.itemId := by
  have hitem : item.itemId = conflict.itemId := hpersisted.sound.named _ _ listed
  obtain ⟨-, -, -, -, -, hdigest, -⟩ := item.valid
  cases resends with
  | none keeps => simp
  | target transmits port =>
    intro target htarget
    rw [List.mem_singleton] at htarget
    subst htarget
    refine ⟨⟨?_, hdigest, ?_⟩, hitem⟩
    · change item.itemId ∈ operation.approvedItemIds
      rw [hitem]
      exact hpersisted.staged.contested conflict hconflict
    · change choice.value ∈ _
      rcases transmits with rfl | rfl <;> decide

theorem resends_iff {t : Tables} (hitems : ∀ target ∈ targets, target.itemId = conflict.itemId)
    (resends : Resends env.toEnv context key before item choice asked content targets sent) :
    PortFits t env (targets.map fun target => (target.targetVersionId, target.targetObjectId)) ∧
        (∀ target ∈ targets, ∀ made ∈ operation.targetVersions, made.itemId ≠ target.itemId) ∧
        (targets.map (·.itemId)).Nodup ↔
      (choice.Transmits → ∀ made ∈ operation.targetVersions, made.itemId ≠ conflict.itemId) ∧
        (choice.Transmits → PortFits t env (env.answers asked 1)) := by
  cases resends with
  | none keeps =>
    refine iff_of_true ⟨⟨List.nodup_nil, by simp, by simp⟩, by simp, List.nodup_nil⟩ ⟨?_, ?_⟩
    · exact fun transmits => absurd transmits keeps
    · exact fun transmits => absurd transmits keeps
  | @target _ ids transmits port =>
    have hanswers : env.answers asked 1 = [ids] := by
      rw [Env.answers, List.range'_one, List.filterMap_cons_some (by rw [port]; rfl)]
      rfl
    have hitem := hitems _ (List.mem_singleton_self _)
    rw [hanswers]
    simp only [List.map_cons, List.map_nil, List.mem_singleton, forall_eq, List.nodup_singleton,
      and_true, hitem, transmits, forall_const]
    exact and_comm

theorem persist_resolve (h : Consistent prim s)
    (found : s.tables.operations.get? operationId = some row)
    (hydrated : hydrate row.toOperationRow = .ok (operation, r))
    (hbefore : before = { operation with context := context })
    (hafter : after = before.settle targets conflictId item.itemId)
    (opened : operation.openConflict conflictId = .ok conflict)
    (listed : operation.items.get? conflict.itemId = some item)
    (resends : Resends env.toEnv context key before item choice s.transmissions.length content
      targets sent) {value : ConflictResolutionView}
    (hid : value.resolutionId = prim.tokens.id "sync-resolution" s.drawn)
    (hconflictId : value.conflictId = conflictId)
    (entry : r'.idempotency = r.idempotency.set (operationId, context.actorId, "resolution", key)
      (fingerprint, .resolution value))
    (hn : s.drawn < n) :
    Call.Needs (persist prim env context operationId row before after r' (.resolution value))
      ⟨s.tables, n, transmissions⟩
      (ResolveAdmissible s.tables env s.transmissions.length context.actorId key choice operation
        conflict)
      (n ≤ ·.drawn) fun _ s' =>
        s'.tables = { s.tables.toRows.add
          (resolutionRows prim operationId context.actorId key after targets value n) with
            operations := s.tables.operations.set operationId (row.written after r') } ∧
          n + (if after.reindexRequested then targets else []).length ≤ s'.drawn := by
  obtain ⟨rfl, hfrom, hpersisted⟩ := h.hydrated found hydrated
  have stored : s.tables.operations.get? operation.operationId ≠ none := by simp [found]
  obtain ⟨hfind, hopen⟩ := Operation.openConflict_same opened
  have hconflict := List.mem_of_find?_eq_some hfind
  have hsame : conflict.conflictId = conflictId := by simpa using List.find?_some hfind
  have approved : operation.approvalSnapshotId ≠ none :=
    hpersisted.sound.approved (List.ne_nil_of_mem hconflict)
  obtain ⟨-, -, items, -, snapshot, conflicts', targetVersions', -⟩ :=
    settle_frame before targets conflictId item.itemId
  obtain ⟨batches, version⟩ := settle_history before targets conflictId item.itemId
  rw [← hafter] at items snapshot conflicts' targetVersions' batches version
  have hsnapshot : after.approvalSnapshotId = operation.approvalSnapshotId := by
    rw [snapshot, hbefore]
  have hversion : after.version = row.version + 1 := by rw [version, hbefore, ← hfrom.version]
  have hstate : (row.state, after.state) ∈ transitions ↔ operation.state ≠ .reindexRequested := by
    have hawaiting : row.state ≠ .awaitingApproval := by
      rw [← hfrom.state]
      exact fun hstate => approved (hpersisted.staged.awaiting.1 hstate)
    have hcalm : row.state ≠ .approved := by
      rw [← hfrom.state]
      exact fun hstate => List.ne_nil_of_mem hconflict (hpersisted.staged.calm hstate)
    have hnext := settle_state before targets conflictId item.itemId
    rw [← hafter, hbefore] at hnext
    dsimp only at hnext
    rw [hfrom.state] at hnext ⊢
    rcases hnext with ⟨hnext, -⟩ | ⟨hnext, -⟩ <;> rw [hnext] <;>
      revert hawaiting hcalm <;> cases row.state <;> decide
  have hnew := newTarget_of_resends hpersisted hconflict listed resends
  have hlisted : ∀ target ∈ targets, after.items.get? target.itemId ≠ none := by
    intro target htarget
    rw [items, hbefore]
    exact hpersisted.sound.previewed _ (hnew target htarget).1.approved
  have hdrop : after.conflicts.drop before.conflicts.length = [] := by
    rw [conflicts', ← length_markResolved conflictId before.conflicts]
    exact List.drop_length
  have hkeys : (PortFits s.tables env (targets.map fun target =>
          (target.targetVersionId, target.targetObjectId)) ∧
        (∀ target ∈ targets, ∀ made ∈ operation.targetVersions, made.itemId ≠ target.itemId) ∧
        (targets.map (·.itemId)).Nodup) ∧
      (∀ row ∈ s.tables.resolutions,
        ¬(row.actorId = context.actorId ∧ row.idempotencyKey = key)) ∧
      operation.state ≠ .reindexRequested ↔
      ResolveAdmissible s.tables env s.transmissions.length context.actorId key choice operation
        conflict := by
    rw [resends_iff (fun target htarget => (hnew target htarget).2) resends]
    constructor
    · rintro ⟨⟨hsingle, hport⟩, hkey, hstate⟩
      exact ⟨hstate, hsingle, hport, hkey⟩
    · rintro ⟨hstate, hsingle, hport, hkey⟩
      exact ⟨⟨hsingle, hport⟩, hkey, hstate⟩
  have freshResolution : ∀ row ∈ s.tables.resolutions, row.resolutionId ≠ value.resolutionId := by
    intro row hrow hsame
    have hfresh := h.linked.fresh le_rfl "sync-resolution"
    rw [← hid, ← hsame] at hfresh
    exact hfresh (Rows.resolution_mem_drawnIds hrow)
  have unique : ∀ key' value', r'.idempotency.get? key' = some value' →
      isResolution operation.operationId value.resolutionId key' value'.2 = true →
      key' = (operation.operationId, context.actorId, "resolution", key) := by
    intro key' value' hget hp
    rcases Dict.of_get?_set (entry ▸ hget) with hold | ⟨hkey, -⟩
    · have hdrawn := (hpersisted.entries key' value'.1 value'.2 hold).2.2
      unfold isResolution at hp
      split at hp
      · next other hother =>
        rw [hother] at hdrawn
        obtain ⟨m, hm, hother⟩ := hdrawn
        simp only [decide_eq_true_eq] at hp
        rw [hp.2.2, hid] at hother
        have hms : s.drawn = m := (prim.tokens.id_inj _).1 hother
        omega
      · cases hp
    · exact hkey
  have hsub : ∀ target ∈ (if after.reindexRequested then targets else []), target ∈ targets := by
    intro target htarget
    split at htarget
    · exact htarget
    · simp at htarget
  rw [persist_eq (by rw [batches]; exact (List.append_nil _).symm) hdrop targetVersions',
    persistApproval_of_approved (by rw [hbefore]; exact approved)]
  refine Call.needs_pure_bind (Call.Needs.iff ?_ hkeys)
  refine needs_insertRows_nil ?_
  refine Call.needs_ensure_of hlisted ?_
  refine needs_insertRows le_rfl (targets_admitsAll_iff (t := s.tables) hpersisted.mirrors approved
    hsnapshot fun target htarget => (hnew target htarget).1) fun htargets => ?_
  have hport := ((targets_admitsAll_iff (t := s.tables) hpersisted.mirrors approved hsnapshot
    fun target htarget => (hnew target htarget).1).1 htargets).1
  refine Call.needs_pure_bind ?_
  refine Call.needs_bind (V := fun _ s₁ => s₁ = ⟨{ s.tables with
    targets := s.tables.targets ++ targets.map (targetRow operation.operationId after)
    resolutions := s.tables.resolutions ++ [⟨value.resolutionId, value.conflictId,
      operation.operationId, context.actorId, key⟩] }, n, transmissions⟩) ?_ fun _ _ s₁ hs₁ => ?_
  · refine needs_firstEntry (by rw [entry, Dict.get?_set_self]) (by simp [isResolution]) unique ?_
    refine Call.Needs.imp (Call.Needs.iff (insertRows_needs conflictResolutions _ le_rfl) ?_) ?_
    · refine conflictResolutions.admitsAll_singleton.trans (resolution_admits_iff (t := s.tables)
        stored freshResolution ?_ ?_)
      · rw [hconflictId, ← hsame]
        exact hpersisted.unsettled conflict hconflict hopen
      · obtain ⟨row, hrow, -, hrowId, -⟩ := hpersisted.mirrors.conflictRow hconflict
        exact ⟨row, hrow, by rw [hrowId, hsame, hconflictId]⟩
    · rintro - - s₁ rfl
      simp [targetVersions, conflictResolutions]
  subst hs₁
  refine needs_insertDrawn_of le_rfl (reindex_admitsAll ?_ ?_ ?_ ?_ ?_) ?_
  · exact stored
  · intro row hrow m hm hsame
    have hm : n ≤ m := hm
    have hfresh := h.linked.fresh (n := m) (by omega) "sync-reindex"
    rw [← hsame] at hfresh
    exact hfresh (Rows.reindex_mem_drawnIds hrow)
  · intro row hrow target htarget hsame
    obtain ⟨other, hother, hotherId⟩ := h.linked.reindexRequests row hrow
    refine hport.new (target.targetVersionId, target.targetObjectId) ?_ other hother
      (hotherId.trans hsame)
    exact List.mem_map_of_mem (f := fun target : TargetVersion =>
      (target.targetVersionId, target.targetObjectId)) (hsub target htarget)
  · exact fun target htarget => ⟨_, List.mem_append_right _
      (List.mem_map_of_mem (hsub target htarget)), rfl⟩
  · have hdistinct := hport.distinct
    rw [List.map_map] at hdistinct
    split
    · exact hdistinct
    · exact List.nodup_nil
  refine ((updateOperation_needs (Nat.le_add_right _ _) hversion).iff hstate).imp ?_
  rintro - - s' rfl
  refine ⟨?_, le_rfl⟩
  simp [Rows.add, resolutionRows, reindexRequests, Dict.update_of_get? found]

end Resolve

end Persist

end DaonUser.Sync.Postgres
