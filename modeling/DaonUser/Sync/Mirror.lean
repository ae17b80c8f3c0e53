import DaonUser.Sync.Batch
import DaonUser.Sync.Store

/-!
# Sync: the rows of an operation and its document

What an operation's document says about approvals, conflicts, target versions and batches is in the other
tables too: `Mirrors` for one operation, `Persisted` for one that is hydrated from its row, `Consistent` for
a whole store. `Consistent.write` keeps it over a call that writes one operation and adds rows of it.
-/

namespace DaonUser.Sync.Postgres

open Lib

variable {prim : Primitives}

/-! ## Rows -/

namespace Rows

def add (rows new : Rows) : Rows where
  approvals := rows.approvals ++ new.approvals
  manifestItems := rows.manifestItems ++ new.manifestItems
  conflicts := rows.conflicts ++ new.conflicts
  targets := rows.targets ++ new.targets
  batches := rows.batches ++ new.batches
  attempts := rows.attempts ++ new.attempts
  resolutions := rows.resolutions ++ new.resolutions
  reindexRequests := rows.reindexRequests ++ new.reindexRequests

def owners (rows : Rows) : List String :=
  rows.approvals.map (·.operationId) ++ rows.manifestItems.map (·.operationId) ++
    rows.conflicts.map (·.operationId) ++ rows.targets.map (·.operationId) ++
    rows.batches.map (·.operationId)

def drawnIds (rows : Rows) : List (String × String) :=
  rows.approvals.map (fun row => ("sync-approval", row.approvalSnapshotId)) ++
    rows.conflicts.map (fun row => ("sync-conflict", row.conflictId)) ++
    rows.batches.map (fun row => ("sync-batch", row.batchId)) ++
    rows.attempts.map (fun row => ("sync-attempt", row.attemptId)) ++
    rows.resolutions.map (fun row => ("sync-resolution", row.resolutionId)) ++
    rows.reindexRequests.map (fun row => ("sync-reindex", row.reindexRequestId))

theorem mem_owners_add {rows new : Rows} {operationId : String} :
    operationId ∈ (rows.add new).owners ↔ operationId ∈ rows.owners ∨ operationId ∈ new.owners := by
  simp only [owners, add, List.map_append, List.mem_append]
  tauto

section Drawn

variable {rows : Rows}

theorem approval_mem_drawnIds {row : ApprovalRow} (h : row ∈ rows.approvals) :
    ("sync-approval", row.approvalSnapshotId) ∈ rows.drawnIds := by
  simp only [drawnIds, List.mem_append, List.mem_map]
  grind

theorem conflict_mem_drawnIds {row : ConflictRow} (h : row ∈ rows.conflicts) :
    ("sync-conflict", row.conflictId) ∈ rows.drawnIds := by
  simp only [drawnIds, List.mem_append, List.mem_map]
  grind

theorem batch_mem_drawnIds {row : BatchRow} (h : row ∈ rows.batches) :
    ("sync-batch", row.batchId) ∈ rows.drawnIds := by
  simp only [drawnIds, List.mem_append, List.mem_map]
  grind

theorem attempt_mem_drawnIds {row : AttemptRow} (h : row ∈ rows.attempts) :
    ("sync-attempt", row.attemptId) ∈ rows.drawnIds := by
  simp only [drawnIds, List.mem_append, List.mem_map]
  grind

theorem resolution_mem_drawnIds {row : ResolutionRow} (h : row ∈ rows.resolutions) :
    ("sync-resolution", row.resolutionId) ∈ rows.drawnIds := by
  simp only [drawnIds, List.mem_append, List.mem_map]
  grind

theorem reindex_mem_drawnIds {row : ReindexRow} (h : row ∈ rows.reindexRequests) :
    ("sync-reindex", row.reindexRequestId) ∈ rows.drawnIds := by
  simp only [drawnIds, List.mem_append, List.mem_map]
  grind

end Drawn

theorem mem_drawnIds_add {rows new : Rows} {id : String × String} :
    id ∈ (rows.add new).drawnIds ↔ id ∈ rows.drawnIds ∨ id ∈ new.drawnIds := by
  simp only [drawnIds, add, List.map_append, List.mem_append]
  tauto

end Rows

def rowsOf {ρ : Type} (owner : ρ → String) (operationId : String) (rows : List ρ) : List ρ :=
  rows.filter fun row => owner row = operationId

section RowsOf

variable {ρ : Type} {owner : ρ → String} {operationId : String} {rows new : List ρ}

theorem mem_rowsOf {row : ρ} :
    row ∈ rowsOf owner operationId rows ↔ row ∈ rows ∧ owner row = operationId := by
  rw [rowsOf, List.mem_filter, decide_eq_true_eq]

theorem rowsOf_append_own (h : ∀ row ∈ new, owner row = operationId) :
    rowsOf owner operationId (rows ++ new) = rowsOf owner operationId rows ++ new := by
  rw [rowsOf, List.filter_append, (List.filter_eq_self (l := new)).2 (by simpa using h)]
  rfl

theorem rowsOf_append_other (h : ∀ row ∈ new, owner row ≠ operationId) :
    rowsOf owner operationId (rows ++ new) = rowsOf owner operationId rows := by
  rw [rowsOf, List.filter_append, (List.filter_eq_nil_iff (l := new)).2 (by simpa using h),
    List.append_nil]
  rfl

theorem rowsOf_eq_nil (h : operationId ∉ rows.map owner) : rowsOf owner operationId rows = [] :=
  List.filter_eq_nil_iff.2 fun row hrow hsame =>
    h (List.mem_map.2 ⟨row, hrow, by simpa using hsame⟩)

end RowsOf

/-- The rows of an operation say what its document says. -/
structure Mirrors (rows : Rows) (operationId : String) (operation : Operation) : Prop where
  approvals : (rowsOf (·.operationId) operationId rows.approvals).map (·.approvalSnapshotId) =
    operation.approvalSnapshotId.toList
  manifestItems : (rowsOf (·.operationId) operationId rows.manifestItems).map (·.itemId) =
    operation.approvedItemIds
  conflicts : (rowsOf (·.operationId) operationId rows.conflicts).map
      (fun row => (row.conflictId, row.itemId)) =
    operation.conflicts.map fun conflict => (conflict.conflictId, conflict.itemId)
  targets : (rowsOf (·.operationId) operationId rows.targets).map
      (fun row => (row.targetVersionId, row.itemId)) =
    operation.targetVersions.map fun target => (target.targetVersionId, target.itemId)
  batches : (rowsOf (·.operationId) operationId rows.batches).map (·.sequence) =
    List.range' 1 operation.batches.length

namespace Mirrors

variable {rows : Rows} {operationId : String} {operation : Operation}

theorem hasManifest_iff (h : Mirrors rows operationId operation) {itemId : String} :
    rows.HasManifest operationId itemId ↔ itemId ∈ operation.approvedItemIds := by
  simp only [← h.manifestItems, List.mem_map, mem_rowsOf, Rows.HasManifest, and_assoc]

theorem hasApproval (h : Mirrors rows operationId operation)
    (happroved : operation.approvalSnapshotId ≠ none) :
    rows.HasApproval operation.approvalSnapshotId := by
  obtain ⟨snapshotId, hsnapshot⟩ := Option.ne_none_iff_exists'.1 happroved
  have hmem : snapshotId ∈ operation.approvalSnapshotId.toList := by simp [hsnapshot]
  rw [← h.approvals, List.mem_map] at hmem
  obtain ⟨row, hrow, hid⟩ := hmem
  exact ⟨row, (mem_rowsOf.1 hrow).1, by rw [hid, hsnapshot]⟩

theorem unapproved (h : Mirrors rows operationId operation)
    (hunapproved : operation.approvalSnapshotId = none) :
    ∀ row ∈ rows.approvals, row.operationId ≠ operationId := by
  intro row hrow hid
  have hmem := List.mem_map_of_mem (f := (·.approvalSnapshotId)) (mem_rowsOf.2 ⟨hrow, hid⟩)
  rw [h.approvals, hunapproved] at hmem
  simp at hmem

theorem conflictRow (h : Mirrors rows operationId operation) {conflict : Conflict}
    (hconflict : conflict ∈ operation.conflicts) :
    ∃ row ∈ rows.conflicts, row.operationId = operationId ∧
      row.conflictId = conflict.conflictId ∧ row.itemId = conflict.itemId := by
  have hmem := List.mem_map_of_mem (f := fun conflict : Conflict =>
    (conflict.conflictId, conflict.itemId)) hconflict
  rw [← h.conflicts, List.mem_map] at hmem
  obtain ⟨row, hrow, hsame⟩ := hmem
  obtain ⟨hrow, hid⟩ := mem_rowsOf.1 hrow
  exact ⟨row, hrow, hid, congrArg Prod.fst hsame, congrArg Prod.snd hsame⟩

theorem conflictOf (h : Mirrors rows operationId operation) {row : ConflictRow}
    (hrow : row ∈ rows.conflicts) (hid : row.operationId = operationId) :
    ∃ conflict ∈ operation.conflicts, conflict.conflictId = row.conflictId ∧
      conflict.itemId = row.itemId := by
  have hmem := List.mem_map_of_mem (f := fun row : ConflictRow => (row.conflictId, row.itemId))
    (mem_rowsOf.2 ⟨hrow, hid⟩)
  rw [h.conflicts, List.mem_map] at hmem
  obtain ⟨conflict, hconflict, hsame⟩ := hmem
  exact ⟨conflict, hconflict, congrArg Prod.fst hsame, congrArg Prod.snd hsame⟩

theorem targetOf (h : Mirrors rows operationId operation) {row : TargetRow}
    (hrow : row ∈ rows.targets) (hid : row.operationId = operationId) :
    ∃ target ∈ operation.targetVersions, target.targetVersionId = row.targetVersionId ∧
      target.itemId = row.itemId := by
  have hmem := List.mem_map_of_mem (f := fun row : TargetRow => (row.targetVersionId, row.itemId))
    (mem_rowsOf.2 ⟨hrow, hid⟩)
  rw [h.targets, List.mem_map] at hmem
  obtain ⟨target, htarget, hsame⟩ := hmem
  exact ⟨target, htarget, congrArg Prod.fst hsame, congrArg Prod.snd hsame⟩

theorem targetRow (h : Mirrors rows operationId operation) {target : TargetVersion}
    (htarget : target ∈ operation.targetVersions) :
    ∃ row ∈ rows.targets, row.operationId = operationId ∧
      row.targetVersionId = target.targetVersionId ∧ row.itemId = target.itemId := by
  have hmem := List.mem_map_of_mem (f := fun target : TargetVersion =>
    (target.targetVersionId, target.itemId)) htarget
  rw [← h.targets, List.mem_map] at hmem
  obtain ⟨row, hrow, hsame⟩ := hmem
  obtain ⟨hrow, hid⟩ := mem_rowsOf.1 hrow
  exact ⟨row, hrow, hid, congrArg Prod.fst hsame, congrArg Prod.snd hsame⟩

theorem sequence_ne (h : Mirrors rows operationId operation) {row : BatchRow}
    (hrow : row ∈ rows.batches) (hid : row.operationId = operationId) :
    row.sequence ≠ operation.batches.length + 1 := by
  have hmem := List.mem_map_of_mem (f := (·.sequence)) (mem_rowsOf.2 ⟨hrow, hid⟩)
  rw [h.batches, List.mem_range'_1] at hmem
  omega

theorem add_other (h : Mirrors rows operationId operation) {new : Rows}
    (hother : operationId ∉ new.owners) : Mirrors (rows.add new) operationId operation := by
  simp only [Rows.owners, List.mem_append, not_or, List.mem_map, not_exists, not_and] at hother
  obtain ⟨⟨⟨⟨happrovals, hmanifest⟩, hconflicts⟩, htargets⟩, hbatches⟩ := hother
  refine ⟨?_, ?_, ?_, ?_, ?_⟩
  · exact (congrArg _ (rowsOf_append_other happrovals)).trans h.approvals
  · exact (congrArg _ (rowsOf_append_other hmanifest)).trans h.manifestItems
  · exact (congrArg _ (rowsOf_append_other hconflicts)).trans h.conflicts
  · exact (congrArg _ (rowsOf_append_other htargets)).trans h.targets
  · exact (congrArg _ (rowsOf_append_other hbatches)).trans h.batches

theorem add_own (h : Mirrors rows operationId operation) {new : Rows} {after : Operation}
    (owned : ∀ id ∈ new.owners, id = operationId)
    (approvals : operation.approvalSnapshotId.toList ++ new.approvals.map (·.approvalSnapshotId) =
      after.approvalSnapshotId.toList)
    (manifestItems : operation.approvedItemIds ++ new.manifestItems.map (·.itemId) =
      after.approvedItemIds)
    (conflicts : operation.conflicts.map (fun conflict => (conflict.conflictId, conflict.itemId)) ++
        new.conflicts.map (fun row => (row.conflictId, row.itemId)) =
      after.conflicts.map fun conflict => (conflict.conflictId, conflict.itemId))
    (targets : operation.targetVersions.map
          (fun target => (target.targetVersionId, target.itemId)) ++
        new.targets.map (fun row => (row.targetVersionId, row.itemId)) =
      after.targetVersions.map fun target => (target.targetVersionId, target.itemId))
    (batches : List.range' 1 operation.batches.length ++ new.batches.map (·.sequence) =
      List.range' 1 after.batches.length) : Mirrors (rows.add new) operationId after := by
  simp only [Rows.owners, List.mem_append, List.mem_map, or_imp, forall_and, forall_exists_index,
    and_imp, forall_apply_eq_imp_iff₂] at owned
  obtain ⟨⟨⟨⟨happrovals, hmanifest⟩, hconflicts⟩, htargets⟩, hbatches⟩ := owned
  refine ⟨?_, ?_, ?_, ?_, ?_⟩
  · rw [Rows.add, rowsOf_append_own happrovals, List.map_append, h.approvals, approvals]
  · rw [Rows.add, rowsOf_append_own hmanifest, List.map_append, h.manifestItems, manifestItems]
  · rw [Rows.add, rowsOf_append_own hconflicts, List.map_append, h.conflicts, conflicts]
  · rw [Rows.add, rowsOf_append_own htargets, List.map_append, h.targets, targets]
  · rw [Rows.add, rowsOf_append_own hbatches, List.map_append, h.batches, batches]

theorem of_not_mem_owners (h : operationId ∉ rows.owners) (operationId' : String)
    (context : SyncContext) (targetArea : String) (items : List SyncItemInput) :
    Mirrors rows operationId (newOperation prim operationId' context targetArea items) := by
  simp only [Rows.owners, List.mem_append, not_or] at h
  obtain ⟨⟨⟨⟨happrovals, hmanifest⟩, hconflicts⟩, htargets⟩, hbatches⟩ := h
  refine ⟨?_, ?_, ?_, ?_, ?_⟩
  · rw [rowsOf_eq_nil happrovals]; rfl
  · rw [rowsOf_eq_nil hmanifest]; rfl
  · rw [rowsOf_eq_nil hconflicts]; rfl
  · rw [rowsOf_eq_nil htargets]; rfl
  · rw [rowsOf_eq_nil hbatches]; rfl

end Mirrors

/-! ## Operations -/

/-- What the guard and the keys keep of a stored operation, besides what every operation keeps. -/
structure Staged (operation : Operation) : Prop where
  awaiting : operation.state = .awaitingApproval ↔ operation.approvalSnapshotId = none
  unlisted : operation.approvalSnapshotId = none → operation.approvedItemIds = []
  requested : operation.reindexRequested = true ↔ operation.state = .reindexRequested
  calm : operation.state = .approved → operation.conflicts = []
  made : ∀ target ∈ operation.targetVersions, target.itemId ∈ operation.completedItemIds
  contested : ∀ conflict ∈ operation.conflicts, conflict.itemId ∈ operation.approvedItemIds

/-- The entry was made by a call, with an id that was drawn before. -/
def Drawn (prim : Primitives) (drawn : Nat) (key : Key) (result : Result) : Prop :=
  CallEntry key result ∧ match result with
    | .text text => key.2.2.1 = "transfer" → ∃ n < drawn, text = prim.tokens.id "sync-batch" n
    | .resolution value => ∃ n < drawn, value.resolutionId = prim.tokens.id "sync-resolution" n
    | .document _ => True

theorem Drawn.mono {drawn drawn' : Nat} {key : Key} {result : Result}
    (h : Drawn prim drawn key result) (hdrawn : drawn ≤ drawn') : Drawn prim drawn' key result := by
  refine ⟨h.1, ?_⟩
  cases result with
  | text text =>
    intro hkind
    obtain ⟨n, hn, hid⟩ := h.2 hkind
    exact ⟨n, by omega, hid⟩
  | resolution value =>
    obtain ⟨n, hn, hid⟩ := h.2
    exact ⟨n, by omega, hid⟩
  | document value => trivial

structure Persisted (prim : Primitives) (rows : Rows) (drawn : Nat) (operation : Operation)
    (r : Repository) : Prop where
  sound : operation.Sound
  staged : Staged operation
  batches : ∀ batch ∈ operation.batches, batch.replayed = false
  entries : ∀ key fingerprint result, r.idempotency.get? key = some (fingerprint, result) →
    key.1 = operation.operationId ∧ Drawn prim drawn key result
  unapproved : operation.approvalSnapshotId = none → ∀ key value,
    r.idempotency.get? key = some value → key.2.2.1 ≠ "approve"
  mirrors : Mirrors rows operation.operationId operation
  unsettled : ∀ conflict ∈ operation.conflicts, conflict.state = .unresolved →
    ∀ row ∈ rows.resolutions, row.conflictId ≠ conflict.conflictId

structure Linked (prim : Primitives) (rows : Rows) (drawn : Nat) : Prop where
  drawn : ∀ id ∈ rows.drawnIds, ∃ n < drawn, id.2 = prim.tokens.id id.1 n
  conflictIds : (rows.conflicts.map (·.conflictId)).Nodup
  manifestItems : ∀ row ∈ rows.manifestItems, ∃ approval ∈ rows.approvals,
    approval.approvalSnapshotId = row.approvalSnapshotId
  resolutions : ∀ row ∈ rows.resolutions, ∃ conflict ∈ rows.conflicts,
    conflict.conflictId = row.conflictId
  reindexRequests : ∀ row ∈ rows.reindexRequests, ∃ target ∈ rows.targets,
    target.targetVersionId = row.targetVersionId

/-- What every call keeps of the store. -/
structure Consistent (prim : Primitives) (s : Store) : Prop where
  linked : Linked prim s.tables.toRows s.drawn
  owned : ∀ operationId ∈ s.tables.owners, s.tables.operations.get? operationId ≠ none
  persisted : ∀ operationId row, s.tables.operations.get? operationId = some row →
    row.operationId = operationId ∧ ∃ operation r,
      hydrate row.toOperationRow = .ok (operation, r) ∧
        Persisted prim s.tables.toRows s.drawn operation r

namespace Persisted

variable {rows new : Rows} {drawn drawn' : Nat} {operation : Operation} {r : Repository}

theorem context (h : Persisted prim rows drawn operation r) (context : SyncContext) :
    Persisted prim rows drawn { operation with context := context } r where
  sound := ⟨h.sound.named, h.sound.previewed, h.sound.closed, h.sound.completed, h.sound.conflicts,
    h.sound.approved⟩
  staged := ⟨h.staged.awaiting, h.staged.unlisted, h.staged.requested, h.staged.calm, h.staged.made,
    h.staged.contested⟩
  batches := h.batches
  entries := h.entries
  unapproved := h.unapproved
  mirrors := ⟨h.mirrors.approvals, h.mirrors.manifestItems, h.mirrors.conflicts, h.mirrors.targets,
    h.mirrors.batches⟩
  unsettled := h.unsettled

theorem entriesOf (h : Persisted prim rows drawn operation r) {r' : Repository}
    (hentries : r'.idempotency = r.entriesOf operation.operationId) :
    Persisted prim rows drawn operation r' := by
  have hget : ∀ {key value}, r'.idempotency.get? key = some value →
      r.idempotency.get? key = some value := by
    intro key value hvalue
    rw [hentries] at hvalue
    exact (Dict.get?_filterKeys.1 hvalue).1
  exact { h with
    entries := fun key fingerprint result hvalue => h.entries key fingerprint result (hget hvalue)
    unapproved := fun hnone key value hvalue => h.unapproved hnone key value (hget hvalue) }

theorem add_other (h : Persisted prim rows drawn operation r) (hdrawn : drawn ≤ drawn')
    (hother : operation.operationId ∉ new.owners)
    (hresolutions : ∀ row ∈ new.resolutions, ∀ conflict ∈ operation.conflicts,
      row.conflictId ≠ conflict.conflictId) :
    Persisted prim (rows.add new) drawn' operation r where
  sound := h.sound
  staged := h.staged
  batches := h.batches
  entries key fingerprint result hget :=
    ⟨(h.entries key fingerprint result hget).1, (h.entries key fingerprint result hget).2.mono hdrawn⟩
  unapproved := h.unapproved
  mirrors := h.mirrors.add_other hother
  unsettled conflict hconflict hstate row hrow := by
    rcases List.mem_append.1 hrow with hrow | hrow
    · exact h.unsettled conflict hconflict hstate row hrow
    · exact hresolutions row hrow conflict hconflict

end Persisted

theorem Linked.add {rows new : Rows} {drawn drawn' : Nat} (h : Linked prim rows drawn)
    (hdrawn : drawn ≤ drawn')
    (hids : ∀ id ∈ new.drawnIds, ∃ n, drawn ≤ n ∧ n < drawn' ∧ id.2 = prim.tokens.id id.1 n)
    (hconflicts : (new.conflicts.map (·.conflictId)).Nodup)
    (hmanifest : ∀ row ∈ new.manifestItems, ∃ approval ∈ new.approvals,
      approval.approvalSnapshotId = row.approvalSnapshotId)
    (hresolutions : ∀ row ∈ new.resolutions, ∃ conflict ∈ rows.conflicts,
      conflict.conflictId = row.conflictId)
    (hreindex : ∀ row ∈ new.reindexRequests, ∃ target ∈ new.targets,
      target.targetVersionId = row.targetVersionId) : Linked prim (rows.add new) drawn' where
  drawn id hid := by
    rcases Rows.mem_drawnIds_add.1 hid with hid | hid
    · obtain ⟨n, hn, hsame⟩ := h.drawn id hid
      exact ⟨n, by omega, hsame⟩
    · obtain ⟨n, -, hn, hsame⟩ := hids id hid
      exact ⟨n, hn, hsame⟩
  conflictIds := by
    rw [Rows.add, List.map_append, List.nodup_append]
    refine ⟨h.conflictIds, hconflicts, fun id hold id' hnew hsame => ?_⟩
    obtain ⟨row, hrow, rfl⟩ := List.mem_map.1 hold
    obtain ⟨row', hrow', rfl⟩ := List.mem_map.1 hnew
    obtain ⟨n, hn, hid⟩ := h.drawn _ (Rows.conflict_mem_drawnIds hrow)
    obtain ⟨n', hn', -, hid'⟩ := hids _ (Rows.conflict_mem_drawnIds hrow')
    have hn : n = n' := (prim.tokens.id_inj _).1 (hid.symm.trans (hsame.trans hid'))
    omega
  manifestItems row hrow := by
    rcases List.mem_append.1 hrow with hrow | hrow
    · obtain ⟨approval, happroval, hsame⟩ := h.manifestItems row hrow
      exact ⟨approval, List.mem_append_left _ happroval, hsame⟩
    · obtain ⟨approval, happroval, hsame⟩ := hmanifest row hrow
      exact ⟨approval, List.mem_append_right _ happroval, hsame⟩
  resolutions row hrow := by
    obtain ⟨conflict, hconflict, hsame⟩ :
        ∃ conflict ∈ rows.conflicts, conflict.conflictId = row.conflictId := by
      rcases List.mem_append.1 hrow with hrow | hrow
      · exact h.resolutions row hrow
      · exact hresolutions row hrow
    exact ⟨conflict, List.mem_append_left _ hconflict, hsame⟩
  reindexRequests row hrow := by
    rcases List.mem_append.1 hrow with hrow | hrow
    · obtain ⟨target, htarget, hsame⟩ := h.reindexRequests row hrow
      exact ⟨target, List.mem_append_left _ htarget, hsame⟩
    · obtain ⟨target, htarget, hsame⟩ := hreindex row hrow
      exact ⟨target, List.mem_append_right _ htarget, hsame⟩

theorem Linked.fresh {rows : Rows} {drawn n : Nat} (h : Linked prim rows drawn) (hn : drawn ≤ n)
    (kind : String) : (kind, prim.tokens.id kind n) ∉ rows.drawnIds := by
  intro hmem
  obtain ⟨m, hm, hsame⟩ := h.drawn _ hmem
  have hmn : n = m := (prim.tokens.id_inj kind).1 hsame
  omega

theorem Linked.owner_eq {rows : Rows} {drawn : Nat} (h : Linked prim rows drawn)
    {row row' : ConflictRow} (hrow : row ∈ rows.conflicts) (hrow' : row' ∈ rows.conflicts)
    (hsame : row.conflictId = row'.conflictId) : row.operationId = row'.operationId := by
  rw [List.inj_on_of_nodup_map h.conflictIds hrow hrow' hsame]

namespace Consistent

variable {s s' : Store}

theorem init : Consistent prim ⟨.empty, 0, []⟩ where
  linked := ⟨by simp [Tables.empty, Rows.drawnIds], by simp [Tables.empty], by simp [Tables.empty],
    by simp [Tables.empty], by simp [Tables.empty]⟩
  owned := by simp [Tables.empty, Rows.owners]
  persisted := by simp [Tables.empty]

theorem unchanged (h : Consistent prim s) (tables : s'.tables = s.tables)
    (grows : s.drawn ≤ s'.drawn) : Consistent prim s' where
  linked := by
    rw [tables]
    refine { h.linked with drawn := fun id hid => ?_ }
    obtain ⟨n, hn, hsame⟩ := h.linked.drawn id hid
    exact ⟨n, by omega, hsame⟩
  owned := by rw [tables]; exact h.owned
  persisted operationId row found := by
    rw [tables] at found ⊢
    obtain ⟨hid, operation, r, hydrated, hpersisted⟩ := h.persisted operationId row found
    refine ⟨hid, operation, r, hydrated, { hpersisted with entries := ?_ }⟩
    intro key fingerprint result hget
    obtain ⟨hkey, hdrawn⟩ := hpersisted.entries key fingerprint result hget
    exact ⟨hkey, hdrawn.mono grows⟩

theorem write (h : Consistent prim s) {operationId : String} {row : StoredOperation}
    {operation after : Operation} {r r' : Repository} {new : Rows}
    (found : s.tables.operations.get? operationId = some row)
    (hydrated : hydrate row.toOperationRow = .ok (operation, r))
    (same : operation.SameIdentity after)
    (tables : s'.tables = { s.tables.toRows.add new with
      operations := s.tables.operations.set operationId (row.written after r') })
    (grows : s.drawn ≤ s'.drawn) (owned : ∀ id ∈ new.owners, id = operationId)
    (linked : Linked prim (s.tables.toRows.add new) s'.drawn)
    (resolutions : ∀ row ∈ new.resolutions, ∃ conflict ∈ operation.conflicts,
      conflict.conflictId = row.conflictId)
    (persisted : Persisted prim (s.tables.toRows.add new) s'.drawn after r') :
    Consistent prim s' := by
  obtain ⟨hid, operation', r'', hydrated', hold⟩ := h.persisted operationId row found
  obtain ⟨rfl, rfl⟩ := Prod.mk.inj (Except.ok.inj (hydrated.symm.trans hydrated'))
  have hfrom := hydratedFrom hydrated
  have hoperationId : operation.operationId = operationId := hfrom.operationId.trans hid
  refine ⟨tables ▸ linked, ?_, ?_⟩
  · intro id howner
    rw [tables] at howner ⊢
    rcases Rows.mem_owners_add.1 howner with howner | howner
    · exact Dict.get?_set_ne_none (h.owned id howner) _ _
    · rw [owned id howner]
      simp
  · intro id row' found'
    rw [tables] at found' ⊢
    rw [Dict.get?_set] at found'
    split at found'
    · next hsame =>
      cases found'
      refine ⟨hsame ▸ hid, _, _, hydrate_written hfrom same persisted.sound.named persisted.batches
        ?_, ?_⟩
      · intro key fingerprint result hget
        exact (persisted.entries key fingerprint result hget).2.1
      · refine (persisted.context operation.context).entriesOf ?_
        rw [← same.operationId]
    · next hne =>
      obtain ⟨hid', operation', r'', hydrated', hpersisted⟩ := h.persisted id row' found'
      have hoperationId' : operation'.operationId = id :=
        (hydratedFrom hydrated').operationId.trans hid'
      refine ⟨hid', operation', r'', hydrated', hpersisted.add_other grows ?_ ?_⟩
      · rw [hoperationId']
        exact fun howner => hne (owned id howner).symm
      · intro resolution hresolution conflict hconflict hsame
        obtain ⟨other, hother, hotherId⟩ := resolutions resolution hresolution
        obtain ⟨row₁, hrow₁, howner₁, hid₁, -⟩ := hold.mirrors.conflictRow hother
        obtain ⟨row₂, hrow₂, howner₂, hid₂, -⟩ := hpersisted.mirrors.conflictRow hconflict
        have howner := h.linked.owner_eq hrow₁ hrow₂
          (hid₁.trans (hotherId.trans (hsame.trans hid₂.symm)))
        rw [howner₁, howner₂, hoperationId, hoperationId'] at howner
        exact hne howner

theorem create (h : Consistent prim s) {operationId : String} {row : StoredOperation}
    {operation : Operation} {r : Repository} (hid : row.operationId = operationId)
    (hydrated : hydrate row.toOperationRow = .ok (operation, r))
    (tables : s'.tables = { s.tables with
      operations := s.tables.operations.set operationId row })
    (grows : s.drawn ≤ s'.drawn)
    (persisted : Persisted prim s.tables.toRows s'.drawn operation r) : Consistent prim s' := by
  have hkept : Consistent prim ⟨s.tables, s'.drawn, s.transmissions⟩ := h.unchanged rfl grows
  refine ⟨tables ▸ hkept.linked, ?_, ?_⟩
  · rw [tables]
    exact fun id howner => Dict.get?_set_ne_none (h.owned id howner) _ _
  · intro id row' found
    rw [tables] at found ⊢
    rw [Dict.get?_set] at found
    split at found
    · next hsame =>
      cases found
      exact ⟨hsame ▸ hid, operation, r, hydrated, persisted⟩
    · exact hkept.persisted id row' found

end Consistent

end DaonUser.Sync.Postgres
