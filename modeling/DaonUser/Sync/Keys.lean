import DaonUser.Sync.Persist

/-!
# Sync: what the keys admit

For each table the rows that `_mutate` inserts and what the keys and checks ask of them, in terms of
the operation before the call. Ids that are drawn are new, and the manifest has every approved item,
so what is left are the items, the ids that the port answers and the idempotency keys.
-/

namespace DaonUser.Sync.Postgres

open Lib

variable {prim : Primitives} {t : Tables} {operationId : String} {operation after : Operation}

section Drawn

variable {ι ρ : Type} {kind : String} {build : String → ι → ρ} {n : Nat} {xs : List ι}

theorem mem_drawnRows {row : ρ} (h : row ∈ drawnRows prim kind build n xs) :
    ∃ m x, n ≤ m ∧ m < n + xs.length ∧ x ∈ xs ∧ row = build (prim.tokens.id kind m) x := by
  induction xs generalizing n with
  | nil => simp [drawnRows] at h
  | cons x xs ih =>
    rw [List.length_cons]
    rcases List.mem_cons.1 h with rfl | h
    · exact ⟨n, x, le_rfl, by omega, List.mem_cons_self, rfl⟩
    · obtain ⟨m, x', hn, hm, hx', hrow⟩ := ih h
      exact ⟨m, x', by omega, by omega, List.mem_cons_of_mem _ hx', hrow⟩

theorem pairwise_drawnRows {S : ι → ι → Prop} {R : ρ → ρ → Prop} (hxs : xs.Pairwise S)
    (hR : ∀ m m' x x', m ≠ m' → S x x' →
      R (build (prim.tokens.id kind m) x) (build (prim.tokens.id kind m') x')) :
    (drawnRows prim kind build n xs).Pairwise R := by
  induction xs generalizing n with
  | nil => exact .nil
  | cons x xs ih =>
    obtain ⟨hx, hxs⟩ := List.pairwise_cons.1 hxs
    refine List.pairwise_cons.2 ⟨fun row hrow => ?_, ih hxs⟩
    obtain ⟨m, x', hn, -, hx', rfl⟩ := mem_drawnRows hrow
    exact hR n m x x' (by omega) (hx x' hx')

theorem map_drawnRows {β : Type} {f : ρ → β} {g : ι → β} (h : ∀ id x, f (build id x) = g x) :
    (drawnRows prim kind build n xs).map f = xs.map g := by
  induction xs generalizing n with
  | nil => rfl
  | cons x xs ih => rw [drawnRows, List.map_cons, List.map_cons, h, ih]

end Drawn

/-! ## Conflicts -/

/-- What is known of a conflict that a batch makes. -/
structure NewConflict (t : Tables) (operation : Operation) (conflict : Conflict) : Prop where
  fresh : ∀ row ∈ t.conflicts, row.conflictId ≠ conflict.conflictId
  approved : conflict.itemId ∈ operation.approvedItemIds
  localDigest : isDigest conflict.localDigest = true
  base : (conflict.baseVersionId = none ↔ conflict.baseDigest = none) ∧
    conflict.baseDigest.all isDigest = true

/-- The cloud version of a conflict can be stored. -/
def CloudFits (cloudVersionId cloudDigest : Option String) : Prop :=
  (cloudVersionId = none ↔ cloudDigest = none) ∧ cloudDigest.all isDigest = true

theorem conflict_admits_iff (mirrors : Mirrors t.toRows operationId operation)
    (approved : operation.approvalSnapshotId ≠ none)
    (snapshot : after.approvalSnapshotId = operation.approvalSnapshotId) {conflict : Conflict}
    (new : NewConflict t operation conflict) :
    conflicts.Admits t (conflictRow operationId after conflict) ↔
      (∀ other ∈ operation.conflicts, other.itemId ≠ conflict.itemId) ∧
        CloudFits conflict.cloudVersionId conflict.cloudDigest := by
  constructor
  · rintro ⟨hapart, _, _, _, hcloud, hdigest, _⟩
    refine ⟨fun other hother hsame => ?_, hcloud, hdigest⟩
    obtain ⟨row, hrow, hid, -, hitem⟩ := mirrors.conflictRow hother
    exact (hapart row hrow).2 ⟨hid, hitem.trans hsame⟩
  · rintro ⟨hother, hcloud, hdigest⟩
    refine ⟨fun row hrow => ⟨new.fresh row hrow, fun ⟨hid, hitem⟩ => ?_⟩, ?_, ?_, new.localDigest,
      hcloud, hdigest, new.base⟩
    · obtain ⟨other, hmem, -, hsame⟩ := mirrors.conflictOf hrow hid
      exact hother other hmem (hsame.trans hitem)
    · exact mirrors.hasManifest_iff.2 new.approved
    · change t.HasApproval after.approvalSnapshotId
      rw [snapshot]
      exact mirrors.hasApproval approved

theorem conflicts_admitsAll_iff (mirrors : Mirrors t.toRows operationId operation)
    (approved : operation.approvalSnapshotId ≠ none)
    (snapshot : after.approvalSnapshotId = operation.approvalSnapshotId) {new : List Conflict}
    (hnew : ∀ conflict ∈ new, NewConflict t operation conflict)
    (hids : (new.map (·.conflictId)).Nodup) :
    conflicts.AdmitsAll t (new.map (conflictRow operationId after)) ↔
      (∀ conflict ∈ new, (∀ other ∈ operation.conflicts, other.itemId ≠ conflict.itemId) ∧
        CloudFits conflict.cloudVersionId conflict.cloudDigest) ∧
      (new.map (·.itemId)).Nodup := by
  have hpairs : (new.map (conflictRow operationId after)).Pairwise conflicts.Apart ↔
      (new.map (·.itemId)).Nodup := by
    rw [List.Nodup, List.pairwise_map, List.pairwise_map]
    rw [List.Nodup, List.pairwise_map] at hids
    constructor
    · exact fun h => h.imp fun hapart hsame => hapart.2 ⟨rfl, hsame⟩
    · exact fun h => (hids.and h).imp fun hboth => ⟨hboth.1, fun hsame => hboth.2 hsame.2⟩
  rw [Table.AdmitsAll, hpairs, List.forall_mem_map]
  refine and_congr_left fun _ => forall₂_congr fun conflict hconflict => ?_
  exact conflict_admits_iff mirrors approved snapshot (hnew conflict hconflict)

/-! ## Target versions -/

/-- What is known of a target version that a call makes. -/
structure NewTarget (operation : Operation) (target : TargetVersion) : Prop where
  approved : target.itemId ∈ operation.approvedItemIds
  digest : isDigest target.digestSha256 = true
  relation : target.relation ∈ ["copy", "keep_local_as_new_version", "keep_both"]

/-- The ids that the port answers can be stored. -/
structure PortFits (t : Tables) (env : Env) (ids : List (String × String)) : Prop where
  distinct : (ids.map (·.1)).Nodup
  new : ∀ id ∈ ids, ∀ row ∈ t.targets, row.targetVersionId ≠ id.1
  objects : ∀ id ∈ ids, env.objects id.2 = true

theorem target_admits_iff {env : Env} (mirrors : Mirrors t.toRows operationId operation)
    (approved : operation.approvalSnapshotId ≠ none)
    (snapshot : after.approvalSnapshotId = operation.approvalSnapshotId) {target : TargetVersion}
    (new : NewTarget operation target) :
    (targetVersions env).Admits t (targetRow operationId after target) ↔
      (∀ row ∈ t.targets, row.targetVersionId ≠ target.targetVersionId) ∧
        (∀ made ∈ operation.targetVersions, made.itemId ≠ target.itemId) ∧
        env.objects target.targetObjectId = true := by
  constructor
  · rintro ⟨hapart, _, _, hobject, _⟩
    refine ⟨fun row hrow => (hapart row hrow).1, fun made hmade hsame => ?_, hobject⟩
    obtain ⟨row, hrow, hid, -, hitem⟩ := mirrors.targetRow hmade
    exact (hapart row hrow).2 ⟨hid, hitem.trans hsame⟩
  · rintro ⟨hids, hmade, hobject⟩
    refine ⟨fun row hrow => ⟨hids row hrow, fun ⟨hid, hitem⟩ => ?_⟩, ?_, ?_, hobject, new.digest,
      new.relation⟩
    · obtain ⟨made, hmem, -, hsame⟩ := mirrors.targetOf hrow hid
      exact hmade made hmem (hsame.trans hitem)
    · exact mirrors.hasManifest_iff.2 new.approved
    · change t.HasApproval after.approvalSnapshotId
      rw [snapshot]
      exact mirrors.hasApproval approved

theorem targets_admitsAll_iff {env : Env} (mirrors : Mirrors t.toRows operationId operation)
    (approved : operation.approvalSnapshotId ≠ none)
    (snapshot : after.approvalSnapshotId = operation.approvalSnapshotId)
    {new : List TargetVersion} (hnew : ∀ target ∈ new, NewTarget operation target) :
    (targetVersions env).AdmitsAll t (new.map (targetRow operationId after)) ↔
      PortFits t env (new.map fun target => (target.targetVersionId, target.targetObjectId)) ∧
        (∀ target ∈ new, ∀ made ∈ operation.targetVersions, made.itemId ≠ target.itemId) ∧
        (new.map (·.itemId)).Nodup := by
  have hpairs : (new.map (targetRow operationId after)).Pairwise (targetVersions env).Apart ↔
      (new.map (·.targetVersionId)).Nodup ∧ (new.map (·.itemId)).Nodup := by
    simp only [List.Nodup, List.pairwise_map]
    rw [← List.pairwise_and_iff]
    refine List.Pairwise.iff fun target target' => ?_
    exact and_congr_right fun _ => ⟨fun h hsame => h ⟨rfl, hsame⟩, fun h hsame => h hsame.2⟩
  have hadmits : (∀ row ∈ new.map (targetRow operationId after), (targetVersions env).Admits t row) ↔
      ∀ target ∈ new, (∀ row ∈ t.targets, row.targetVersionId ≠ target.targetVersionId) ∧
        (∀ made ∈ operation.targetVersions, made.itemId ≠ target.itemId) ∧
        env.objects target.targetObjectId = true := by
    rw [List.forall_mem_map]
    exact forall₂_congr fun target htarget =>
      target_admits_iff mirrors approved snapshot (hnew target htarget)
  rw [Table.AdmitsAll, hpairs, hadmits]
  constructor
  · rintro ⟨hall, hids, hitems⟩
    refine ⟨⟨by rwa [List.map_map], ?_, ?_⟩, fun target h => (hall target h).2.1, hitems⟩
    · exact List.forall_mem_map.2 fun target h => (hall target h).1
    · exact List.forall_mem_map.2 fun target h => (hall target h).2.2
  · rintro ⟨hport, hmade, hitems⟩
    refine ⟨fun target h => ⟨?_, hmade target h, ?_⟩, ?_, hitems⟩
    · exact List.forall_mem_map.1 hport.new target h
    · exact List.forall_mem_map.1 hport.objects target h
    · have hids := hport.distinct
      rwa [List.map_map] at hids

theorem nodup_eraseDups {α : Type} [DecidableEq α] : ∀ l : List α, l.eraseDups.Nodup
  | [] => by simp
  | a :: as => by
    rw [List.eraseDups_cons, List.nodup_cons]
    exact ⟨by simp [List.mem_eraseDups], nodup_eraseDups _⟩
termination_by l => l.length
decreasing_by exact Nat.lt_succ_of_le (List.length_filter_le _ _)

theorem approval_admits_iff (mirrors : Mirrors t.toRows operationId operation)
    (unapproved : operation.approvalSnapshotId = none)
    (stored : t.operations.get? operationId ≠ none) {snapshotId actorId key : String}
    (fresh : ∀ row ∈ t.approvals, row.approvalSnapshotId ≠ snapshotId) :
    approvalSnapshots.Admits t ⟨snapshotId, operationId, actorId, key⟩ ↔
      ∀ row ∈ t.approvals, ¬(row.actorId = actorId ∧ row.idempotencyKey = key) := by
  constructor
  · exact fun h row hrow => (h.1 row hrow).2.2
  · exact fun h => ⟨fun row hrow => ⟨fresh row hrow, mirrors.unapproved unapproved row hrow,
      h row hrow⟩, stored⟩

theorem manifest_admitsAll (unlisted : ∀ itemId, ¬t.HasManifest operationId itemId)
    (stored : t.operations.get? operationId ≠ none) {snapshotId : String} {itemIds : List String}
    (approval : t.HasApproval (some snapshotId))
    (fresh : ∀ row ∈ t.manifestItems, row.approvalSnapshotId ≠ snapshotId)
    (nodup : itemIds.Nodup) :
    manifestItems.AdmitsAll t (itemIds.map fun itemId => ⟨snapshotId, operationId, itemId⟩) := by
  refine ⟨List.forall_mem_map.2 fun itemId _ => ⟨fun row hrow => ⟨?_, ?_⟩, approval, stored⟩, ?_⟩
  · exact fun h => fresh row hrow h.1
  · exact fun h => unlisted itemId ⟨row, hrow, h⟩
  · refine List.pairwise_map.2 (nodup.imp fun hne => ⟨?_, ?_⟩)
    · exact fun h => hne h.2
    · exact fun h => hne h.2

theorem batch_admits_iff (mirrors : Mirrors t.toRows operationId operation)
    (approved : operation.approvalSnapshotId ≠ none)
    (snapshot : after.approvalSnapshotId = operation.approvalSnapshotId)
    (stored : t.operations.get? operationId ≠ none) {batchId actorId key : String}
    (fresh : ∀ row ∈ t.batches, row.batchId ≠ batchId) :
    transferBatches.Admits t ⟨batchId, operationId, after.approvalSnapshotId, actorId,
        operation.batches.length + 1, key⟩ ↔
      ∀ row ∈ t.batches, ¬(row.actorId = actorId ∧ row.idempotencyKey = key) := by
  constructor
  · exact fun h row hrow => (h.1 row hrow).2.2
  · refine fun h => ⟨fun row hrow => ⟨fresh row hrow, ?_, h row hrow⟩, stored, ?_, Nat.succ_pos _⟩
    · exact fun ⟨hid, hsequence⟩ => mirrors.sequence_ne hrow hid hsequence
    · change t.HasApproval after.approvalSnapshotId
      rw [snapshot]
      exact mirrors.hasApproval approved

theorem attempts_admitsAll {n : Nat} {batchId : String} {itemIds : List String}
    (fresh : ∀ row ∈ t.attempts, ∀ m ≥ n, row.attemptId ≠ prim.tokens.id "sync-attempt" m)
    (batch : ∃ row ∈ t.batches, row.batchId = batchId)
    (manifest : ∀ itemId ∈ itemIds, t.HasManifest operationId itemId) :
    transferAttempts.AdmitsAll t (drawnRows prim "sync-attempt"
      (fun attemptId itemId => ⟨attemptId, batchId, operationId, itemId⟩) n itemIds) := by
  refine ⟨fun row hrow => ?_, pairwise_drawnRows (S := fun _ _ => True) ?_ ?_⟩
  · obtain ⟨m, itemId, hm, -, hitem, rfl⟩ := mem_drawnRows hrow
    exact ⟨fun other hother => fresh other hother m hm, batch, manifest itemId hitem⟩
  · exact List.pairwise_of_forall fun _ _ => trivial
  · exact fun m m' _ _ hne _ hsame => hne ((prim.tokens.id_inj _).1 hsame)

theorem resolution_admits_iff (stored : t.operations.get? operationId ≠ none)
    {resolutionId conflictId actorId key : String}
    (fresh : ∀ row ∈ t.resolutions, row.resolutionId ≠ resolutionId)
    (unsettled : ∀ row ∈ t.resolutions, row.conflictId ≠ conflictId)
    (conflict : ∃ row ∈ t.conflicts, row.conflictId = conflictId) :
    conflictResolutions.Admits t ⟨resolutionId, conflictId, operationId, actorId, key⟩ ↔
      ∀ row ∈ t.resolutions, ¬(row.actorId = actorId ∧ row.idempotencyKey = key) := by
  constructor
  · exact fun h row hrow => (h.1 row hrow).2.2
  · exact fun h => ⟨fun row hrow => ⟨fresh row hrow, unsettled row hrow, h row hrow⟩, conflict,
      stored⟩

theorem reindex_admitsAll (stored : t.operations.get? operationId ≠ none) {n : Nat}
    {new : List TargetVersion}
    (fresh : ∀ row ∈ t.reindexRequests, ∀ m ≥ n,
      row.reindexRequestId ≠ prim.tokens.id "sync-reindex" m)
    (apart : ∀ row ∈ t.reindexRequests, ∀ target ∈ new,
      row.targetVersionId ≠ target.targetVersionId)
    (targets : ∀ target ∈ new, ∃ row ∈ t.targets, row.targetVersionId = target.targetVersionId)
    (distinct : (new.map (·.targetVersionId)).Nodup) :
    reindexRequests.AdmitsAll t (drawnRows prim "sync-reindex"
      (fun requestId target => ⟨requestId, operationId, target.targetVersionId⟩) n new) := by
  refine ⟨fun row hrow => ?_, pairwise_drawnRows (List.pairwise_map.1 distinct) ?_⟩
  · obtain ⟨m, target, hm, -, htarget, rfl⟩ := mem_drawnRows hrow
    exact ⟨fun other hother => ⟨fresh other hother m hm,
      fun h => apart other hother target htarget h.2⟩, stored, targets target htarget⟩
  · exact fun m m' target target' hne hdistinct =>
      ⟨fun hsame => hne ((prim.tokens.id_inj _).1 hsame), fun h => hdistinct h.2⟩

end DaonUser.Sync.Postgres
