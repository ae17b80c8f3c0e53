import DaonUser.Sync.Conflict
import DaonUser.Sync.Document
import DaonUser.Lib.Lockstep

/-!
# Sync: hydrated operations go on as the dumped ones

An operation that is dumped and hydrated should come back with its idempotency entries. The keys of previews
share a table with the others: a preview of a tenant whose id is the id of an operation is dumped as an
entry of that operation (`preview_hydrated`). `roundTrips_iff` says that nothing else goes wrong.
-/

namespace DaonUser.Sync

open Lib

variable {s : System} {operation operation' : Operation} {f : Operation → Operation}

variable {prim : Primitives}

/-! ## Recorded entries -/

/-- The result of a preview: it is the id of an operation. -/
def Repository.IsPreview (r : Repository) (result : Result) : Prop :=
  ∃ operationId, result = .text operationId ∧ r.operations.get? operationId ≠ none

instance (r : Repository) : ∀ result, Decidable (r.IsPreview result)
  | .text operationId => decidable_of_iff (r.operations.get? operationId ≠ none)
      ⟨fun h => ⟨operationId, rfl, h⟩, fun ⟨_, hresult, h⟩ => by cases hresult; exact h⟩
  | .resolution _ => .isFalse fun ⟨_, hresult, _⟩ => by cases hresult
  | .document _ => .isFalse fun ⟨_, hresult, _⟩ => by cases hresult

/-- What every call keeps of the batches and the idempotency table. -/
structure Recorded (s : System) : Prop where
  batches : ∀ operationId operation, s.repository.operations.get? operationId = some operation →
    ∀ batch ∈ operation.batches, batch.replayed = false
  entries : ∀ key fingerprint result,
    s.repository.idempotency.get? key = some (fingerprint, result) →
      s.repository.IsPreview result ∨ CallEntry key result

theorem Recorded.write {s' : System} (h : Recorded s) {operationId : String} {new : Operation}
    {drawn : Nat} {transmissions : List Transmission}
    (hnew : ∀ batch ∈ new.batches, batch.replayed = false)
    {idempotency : Dict Key (String × Result)}
    (hentries : ∀ key fingerprint result, idempotency.get? key = some (fingerprint, result) →
      s.repository.idempotency.get? key = some (fingerprint, result) ∨
        result = .text operationId ∨ CallEntry key result)
    (leaves : Leaves s' (s.repository.operations.set operationId new) idempotency drawn
      transmissions) : Recorded s' where
  batches operationId' operation found := by
    rw [leaves.operations, Dict.get?_set] at found
    split at found
    · cases found
      exact hnew
    · exact h.batches operationId' operation found
  entries key fingerprint result found := by
    rw [leaves.idempotency] at found
    unfold Repository.IsPreview
    rw [leaves.operations]
    rcases hentries key fingerprint result found with hold | htext | hcall
    · rcases h.entries key fingerprint result hold with ⟨id, hresult, hid⟩ | hcall
      · exact Or.inl ⟨id, hresult, Dict.get?_set_ne_none hid _ _⟩
      · exact Or.inr hcall
    · exact Or.inl ⟨operationId, htext, by simp⟩
    · exact Or.inr hcall

theorem recorded_next (h : Recorded s) (i : Input) :
    Recorded ((machine prim).next s i) := by
  have heffect := effect_next prim s i
  generalize (machine prim).answer s i = o at heffect
  generalize (machine prim).next s i = s' at heffect ⊢
  have hbatches : ∀ {operationId operation}, s.repository.operation i.context operationId =
      .ok operation → ∀ batch ∈ operation.batches, batch.replayed = false :=
    fun found => h.batches _ _ (Repository.operation_eq_ok.1 found).1
  cases heffect with
  | unchanged refused leaves =>
    refine ⟨?_, ?_⟩
    · rw [leaves.operations]
      exact h.batches
    · unfold Repository.IsPreview
      rw [leaves.operations, leaves.idempotency]
      exact h.entries
  | created request admitted drawn leaves =>
    refine h.write (by simp [newOperation]) (fun key fingerprint result found => ?_) leaves
    rcases Dict.of_get?_set found with hold | ⟨rfl, hnew⟩
    · exact Or.inl hold
    · cases hnew
      exact Or.inr (Or.inl rfl)
  | approved request admitted drawn leaves =>
    refine h.write ?_ (fun key fingerprint result found => ?_) leaves
    · exact fun batch hbatch => hbatches admitted.found batch hbatch
    · rcases Dict.of_get?_set found with hold | ⟨rfl, hnew⟩
      · exact Or.inl hold
      · cases hnew
        exact Or.inr (Or.inr (Or.inl rfl))
  | transferred request admitted sends drawn leaves =>
    refine h.write (fun batch hbatch => ?_) (fun key fingerprint result found => ?_) leaves
    · rw [Operation.transfer, (recordBatch_history _ _).1, (enterAll_frame _ _).2.2.2.2.2.2.2.1]
        at hbatch
      rcases List.mem_append.1 hbatch with hbatch | hbatch
      · exact hbatches admitted.found batch hbatch
      · rw [List.mem_singleton.1 hbatch]
        rfl
    · rcases Dict.of_get?_set found with hold | ⟨rfl, hnew⟩
      · exact Or.inl hold
      · cases hnew
        exact Or.inr (Or.inr (Or.inr rfl))
  | interrupted request admitted sends leaves =>
    refine h.write (fun batch hbatch => ?_) (fun _ _ _ => Or.inl) leaves
    rw [(enterAll_frame _ _).2.2.2.2.2.2.2.1] at hbatch
    exact hbatches admitted.found batch hbatch
  | resolved request admitted resends result leaves =>
    refine h.write (fun batch hbatch => ?_) (fun key fingerprint result' found => ?_) leaves
    · rw [(settle_history _ _ _ _).1] at hbatch
      exact hbatches admitted.found batch hbatch
    · rcases Dict.of_get?_set found with hold | ⟨rfl, hnew⟩
      · exact Or.inl hold
      · cases hnew
        rw [result]
        exact Or.inr (Or.inr ⟨rfl, rfl⟩)
  | unanswered request admitted transmits port leaves =>
    refine ⟨?_, ?_⟩
    · rw [leaves.operations]
      exact h.batches
    · unfold Repository.IsPreview
      rw [leaves.operations, leaves.idempotency]
      exact h.entries

theorem recorded_run (prim : Primitives) (is : List Input) : Recorded ((machine prim).run is) := by
  refine (machine prim).run_induction (I := Recorded) ⟨?_, ?_⟩ (fun _ i h => recorded_next h i) is
  · intro operationId operation found
    simp [machine, System.init] at found
  · intro key fingerprint result found
    simp [machine, System.init] at found

/-! ## Two systems in lockstep -/

def Request.Names (operationId : String) : Request → Prop
  | .createOperation .. => False
  | .getOperation id => id = operationId
  | .approve id .. => id = operationId
  | .transferBatch id .. => id = operationId
  | .resolveConflict id .. => id = operationId

/-- The context is the same up to what the calls never read of it. -/
structure SyncContext.Alike (context context' : SyncContext) : Prop where
  tenantId : context'.tenantId = context.tenantId
  workspaceId : context'.workspaceId = context.workspaceId
  actorId : context'.actorId = context.actorId

/-- The same operation with a like context. -/
def Operation.Twin (operation operation' : Operation) : Prop :=
  ∃ context, operation.context.Alike context ∧ operation' = { operation with context := context }

structure Twins (operationId : String) (s t : System) : Prop where
  operation : ∃ operation operation', s.repository.operations.get? operationId = some operation ∧
    t.repository.operations.get? operationId = some operation' ∧ operation.Twin operation'
  idempotency : ∀ actorId kind key, kind ∈ ["approve", "transfer", "resolution"] →
    s.repository.idempotency.get? (operationId, actorId, kind, key) =
      t.repository.idempotency.get? (operationId, actorId, kind, key)
  drawn : s.drawn = t.drawn
  asked : s.transmissions.length = t.transmissions.length

theorem Operation.Twin.view (h : operation.Twin operation') :
    view operation = view operation' := by
  obtain ⟨context, alike, rfl⟩ := h
  simp only [Sync.view, alike.tenantId, alike.workspaceId, alike.actorId]

theorem Operation.Twin.write (h : operation.Twin operation')
    (hcontext : (f operation).context = operation.context)
    (hf : ∀ context, f { operation with context := context } =
      { f operation with context := context }) : (f operation).Twin (f operation') := by
  obtain ⟨context, alike, rfl⟩ := h
  exact ⟨context, hcontext ▸ alike, hf context⟩

section Lockstep

variable {operationId : String} {s t : System}

theorem Twins.update (h : Twins operationId s t)
    (hcontext : ∀ operation, (f operation).context = operation.context)
    (hf : ∀ operation context, f { operation with context := context } =
      { f operation with context := context }) :
    Twins operationId (s.mapRepository (·.update operationId f))
      (t.mapRepository (·.update operationId f)) := by
  obtain ⟨operation, operation', found, found', twin⟩ := h.operation
  refine ⟨⟨f operation, f operation', ?_, ?_, twin.write (hcontext _) (hf _)⟩, h.idempotency,
    h.drawn, h.asked⟩
  · change (s.repository.operations.update operationId f).get? operationId = _
    rw [Dict.update_of_get? found, Dict.get?_set_self]
  · change (t.repository.operations.update operationId f).get? operationId = _
    rw [Dict.update_of_get? found', Dict.get?_set_self]

theorem Twins.record (h : Twins operationId s t) (key : Key) (fingerprint : String) (result : Result) :
    Twins operationId (s.mapRepository (·.record key fingerprint result))
      (t.mapRepository (·.record key fingerprint result)) := by
  refine ⟨h.operation, fun actorId kind key' hkind => ?_, h.drawn, h.asked⟩
  change (s.repository.idempotency.set key _).get? _ = (t.repository.idempotency.set key _).get? _
  rw [Dict.get?_set, Dict.get?_set, h.idempotency actorId kind key' hkind]

theorem Twins.audit (h : Twins operationId s t) (id action traceId : String) :
    Twins operationId (s.mapRepository (·.appendAudit id action traceId))
      (t.mapRepository (·.appendAudit id action traceId)) :=
  ⟨h.operation, h.idempotency, h.drawn, h.asked⟩

end Lockstep

section Calls

variable (prim) (operationId : String)

/-- The statements of the calls, on both sides. -/
abbrev Steps {α β : Type} (V : α → β → Prop) (x : Op α) (y : Op β) : Prop :=
  Call.Lockstep (Twins operationId) V x y

theorem steps_draw (kind : String) :
    Steps operationId Eq (draw prim kind) (draw prim kind) := by
  intro s t h
  refine ⟨?_, h.operation, h.idempotency, congrArg (· + 1) h.drawn, h.asked⟩
  change Call.Match Eq (.ok (prim.tokens.id kind s.drawn)) (.ok (prim.tokens.id kind t.drawn))
  rw [h.drawn]
  exact .ok rfl

theorem steps_validateWrite (key : String) (expectedVersion : ExpectedVersion) :
    Steps operationId Eq (validateWrite key expectedVersion)
      (validateWrite key expectedVersion) :=
  Call.lockstep_bind Call.lockstep_ensure fun _ _ _ => Call.lockstep_ensure

theorem steps_operation (context : SyncContext) :
    Steps operationId Operation.Twin (Call.query (·.repository.operation context operationId))
      (Call.query (·.repository.operation context operationId)) := by
  refine Call.lockstep_query fun s t h => ?_
  obtain ⟨operation, operation', found, found', twin⟩ := h.operation
  have halike : operation'.context.tenantId = operation.context.tenantId ∧
      operation'.context.workspaceId = operation.context.workspaceId := by
    obtain ⟨context', alike, rfl⟩ := twin
    exact ⟨alike.tenantId, alike.workspaceId⟩
  simp only [Repository.operation, found, found', halike.1, halike.2]
  split
  · exact .error _
  · exact .ok twin

theorem steps_replay (actorId kind key fingerprint : String)
    (hkind : kind ∈ ["approve", "transfer", "resolution"]) :
    Steps operationId Eq
      (Call.query (·.repository.replay (operationId, actorId, kind, key) fingerprint))
      (Call.query (·.repository.replay (operationId, actorId, kind, key) fingerprint)) := by
  refine Call.lockstep_query fun s t h => ?_
  simp only [Repository.replay, h.idempotency actorId kind key hkind]
  split
  · exact .ok rfl
  · split
    · exact .error _
    · exact .ok rfl

theorem steps_current :
    Steps operationId Operation.Twin (current operationId) (current operationId) := by
  refine Call.lockstep_query fun s t h => ?_
  obtain ⟨operation, operation', found, found', twin⟩ := h.operation
  simp only [found, found']
  exact .ok twin

theorem steps_update (hcontext : ∀ operation, (f operation).context = operation.context)
    (hf : ∀ operation context, f { operation with context := context } =
      { f operation with context := context }) :
    Steps operationId Eq (Call.modify (System.mapRepository (·.update operationId f)))
      (Call.modify (System.mapRepository (·.update operationId f))) :=
  Call.lockstep_modify fun _ _ h => h.update hcontext hf

theorem steps_record (key : Key) (fingerprint : String) (result : Result) :
    Steps operationId Eq (Call.modify (System.mapRepository (·.record key fingerprint result)))
      (Call.modify (System.mapRepository (·.record key fingerprint result))) :=
  Call.lockstep_modify fun _ _ h => h.record key fingerprint result

theorem steps_audit (id action traceId : String) :
    Steps operationId Eq
      (Call.modify (System.mapRepository (·.appendAudit id action traceId)))
      (Call.modify (System.mapRepository (·.appendAudit id action traceId))) :=
  Call.lockstep_modify fun _ _ h => h.audit id action traceId

theorem steps_transmit (env : Env) (context : SyncContext)
    (item : SyncItemInput) (content : List UInt8) (key relation : String) :
    Steps operationId Eq (transmit env operation context item content key relation)
      (transmit env operation' context item content key relation) := by
  refine Call.lockstep_bind Call.lockstep_get fun s t hst => ?_
  refine Call.lockstep_bind (Call.lockstep_modify fun s t h => ?_) fun _ _ _ => ?_
  · exact ⟨h.operation, h.idempotency, h.drawn, by simp [h.asked]⟩
  refine Call.lockstep_bind (V := Eq) (Call.lockstep_query fun _ _ _ => ?_) fun ids _ h => ?_
  · rw [hst.asked]
    exact .refl _
  · subst h
    exact Call.lockstep_pure rfl

theorem steps_sendPayloads (env : Env) (context : SyncContext) (key : String)
    (payloads : List TransferPayload) :
    ∀ transferred conflictIds : List String, Steps operationId Eq
      (sendPayloads prim env context operationId key payloads transferred conflictIds)
      (sendPayloads prim env context operationId key payloads transferred conflictIds) := by
  induction payloads with
  | nil => exact fun _ _ => Call.lockstep_pure rfl
  | cons payload payloads ih =>
    intro transferred conflictIds
    refine Call.lockstep_bind (steps_current operationId) fun operation operation' twin => ?_
    obtain ⟨context', alike, rfl⟩ := twin
    refine Call.lockstep_ite (fun _ => ih _ _) fun _ => ?_
    refine Call.lockstep_bind (V := Eq) (Call.lockstep_query fun _ _ _ => .refl _)
      fun item _ h => ?_
    subst h
    refine Call.lockstep_bind Call.lockstep_ensure fun _ _ _ => ?_
    refine Call.lockstep_ite (fun _ => ?_) fun _ => ?_
    · refine Call.lockstep_bind (steps_draw prim operationId _) fun conflictId _ h => ?_
      subst h
      exact Call.lockstep_bind (steps_update operationId (fun _ => rfl) fun _ _ => rfl)
        fun _ _ _ => ih _ _
    · refine Call.lockstep_bind (steps_transmit operationId env context item _ _ _)
        fun target _ h => ?_
      subst h
      exact Call.lockstep_bind (steps_update operationId (fun _ => rfl) fun _ _ => rfl)
        fun _ _ _ => ih _ _

theorem steps_getOperation (context : SyncContext) :
    Steps operationId Eq (getOperation context operationId) (getOperation context operationId) :=
  Call.lockstep_bind (steps_operation operationId context) fun _ _ twin =>
    Call.lockstep_pure twin.view

theorem steps_approve (context : SyncContext) (approvedItemIds : List String) (stepUp : String)
    (expectedVersion : ExpectedVersion) (key : String) (verified : Bool) :
    Steps operationId Eq
      (approve prim context operationId approvedItemIds stepUp expectedVersion key verified)
      (approve prim context operationId approvedItemIds stepUp expectedVersion key verified) := by
  refine Call.lockstep_bind (steps_validateWrite operationId key expectedVersion) fun _ _ _ => ?_
  refine Call.lockstep_bind Call.lockstep_ensure fun _ _ _ => ?_
  refine Call.lockstep_bind (steps_operation operationId context) fun operation operation' twin => ?_
  refine Call.lockstep_bind (steps_replay operationId _ _ _ _ (by simp)) fun result _ h => ?_
  subst h
  cases result with
  | some result => exact Call.lockstep_pure twin.view
  | none =>
    have hview := twin
    obtain ⟨context', alike, rfl⟩ := twin
    refine Call.lockstep_bind Call.lockstep_ensure fun _ _ _ => ?_
    refine Call.lockstep_bind Call.lockstep_ensure fun _ _ _ => ?_
    refine Call.lockstep_bind Call.lockstep_ensure fun _ _ _ => ?_
    refine Call.lockstep_bind (steps_draw prim operationId _) fun snapshotId _ h => ?_
    subst h
    refine Call.lockstep_bind (steps_update operationId (fun _ => rfl) fun _ _ => rfl)
      fun _ _ _ => ?_
    refine Call.lockstep_bind (steps_record operationId _ _ _) fun _ _ _ => ?_
    refine Call.lockstep_bind (steps_audit operationId _ _ _) fun _ _ _ => Call.lockstep_pure ?_
    exact (hview.write (f := fun operation =>
      operation.approve approvedItemIds.eraseDups snapshotId) rfl fun _ => rfl).view

theorem recordBatch_context (operation : Operation) (context : SyncContext) (batch : TransferBatchView) :
    { operation with context := context }.recordBatch batch =
      { operation.recordBatch batch with context := context } := by
  unfold Operation.recordBatch
  dsimp only
  split
  · rfl
  · split
    · next hall =>
      split
      · rfl
      · next hnot => exact absurd hall hnot
    · next hnot =>
      split
      · next hall => exact absurd hall hnot
      · rfl

theorem resolve_context (operation : Operation) (context : SyncContext) (conflictId itemId : String) :
    { operation with context := context }.resolve conflictId itemId =
      { operation.resolve conflictId itemId with context := context } := by
  unfold Operation.resolve
  dsimp only
  split
  · next hall =>
    split
    · rfl
    · next hnot => exact absurd hall hnot
  · next hnot =>
    split
    · next hall => exact absurd hall hnot
    · rfl

theorem steps_transferBatch (env : Env) (context : SyncContext) (expectedVersion : ExpectedVersion)
    (key : String) (cursor : Option String) (payloads : List TransferPayload) :
    Steps operationId Eq
      (transferBatch prim env context operationId expectedVersion key cursor payloads)
      (transferBatch prim env context operationId expectedVersion key cursor payloads) := by
  refine Call.lockstep_bind (steps_validateWrite operationId key expectedVersion) fun _ _ _ => ?_
  refine Call.lockstep_bind Call.lockstep_ensure fun _ _ _ => ?_
  refine Call.lockstep_bind (steps_operation operationId context) fun operation operation' twin => ?_
  obtain ⟨context', alike, rfl⟩ := twin
  refine Call.lockstep_bind (steps_replay operationId _ _ _ _ (by simp)) fun result _ h => ?_
  subst h
  cases result with
  | some result => exact Call.lockstep_query fun _ _ _ => .refl _
  | none =>
    refine Call.lockstep_ite (fun _ => ?_) fun _ => ?_
    · exact Call.lockstep_bind (steps_audit operationId _ _ _) fun _ _ _ => Call.lockstep_raise
    refine Call.lockstep_bind Call.lockstep_ensure fun _ _ _ => ?_
    refine Call.lockstep_bind Call.lockstep_ensure fun _ _ _ => ?_
    refine Call.lockstep_bind (steps_draw prim operationId _) fun batchId _ h => ?_
    subst h
    refine Call.lockstep_bind (steps_sendPayloads prim operationId env context key payloads [] [])
      fun lists _ h => ?_
    subst h
    refine Call.lockstep_bind (steps_current operationId) fun operation operation' twin => ?_
    obtain ⟨context', alike, rfl⟩ := twin
    refine Call.lockstep_bind (steps_update operationId ?_ ?_) fun _ _ _ => ?_
    · exact fun operation => (recordBatch_frame operation _).2.1
    · exact fun operation context => recordBatch_context operation context _
    refine Call.lockstep_bind (steps_record operationId _ _ _) fun _ _ _ => ?_
    exact Call.lockstep_bind (steps_audit operationId _ _ _) fun _ _ _ => Call.lockstep_pure rfl

theorem steps_sendResolution (env : Env) (context : SyncContext) (operation operation' : Operation)
    (item : SyncItemInput) (key : String) (choice : ConflictResolutionChoice)
    (content : Option (List UInt8)) :
    Steps operationId Eq (sendResolution env context operationId operation item key choice content)
      (sendResolution env context operationId operation' item key choice content) := by
  refine Call.lockstep_ite (fun _ => ?_) fun _ => Call.lockstep_pure rfl
  cases content with
  | none => exact Call.lockstep_raise
  | some content =>
    refine Call.lockstep_bind (steps_transmit operationId env context item content _ _)
      fun target _ h => ?_
    subst h
    exact Call.lockstep_bind (steps_update operationId (fun _ => rfl) fun _ _ => rfl)
      fun _ _ _ => Call.lockstep_pure rfl

theorem steps_resolveConflict (env : Env) (context : SyncContext) (conflictId : String)
    (expectedVersion : ExpectedVersion) (key : String) (choice : ConflictResolutionChoice)
    (content : Option (List UInt8)) :
    Steps operationId Eq
      (resolveConflict prim env context operationId conflictId expectedVersion key choice content)
      (resolveConflict prim env context operationId conflictId expectedVersion key choice
        content) := by
  refine Call.lockstep_bind (steps_validateWrite operationId key expectedVersion) fun _ _ _ => ?_
  refine Call.lockstep_bind (steps_operation operationId context) fun operation operation' twin => ?_
  obtain ⟨context', alike, rfl⟩ := twin
  refine Call.lockstep_bind (steps_replay operationId _ _ _ _ (by simp)) fun result _ h => ?_
  subst h
  cases result with
  | some result => exact Call.lockstep_query fun _ _ _ => .refl _
  | none =>
    refine Call.lockstep_bind Call.lockstep_ensure fun _ _ _ => ?_
    refine Call.lockstep_bind (V := Eq) (Call.lockstep_query fun _ _ _ => .refl _)
      fun conflict _ h => ?_
    subst h
    refine Call.lockstep_bind (V := Eq) (Call.lockstep_query fun _ _ _ => .refl _)
      fun item _ h => ?_
    subst h
    refine Call.lockstep_bind (steps_sendResolution operationId env context _ _ item key choice
      content) fun targetVersionId _ h => ?_
    subst h
    refine Call.lockstep_bind (steps_update operationId ?_ ?_) fun _ _ _ => ?_
    · exact fun operation => by unfold Operation.resolve; dsimp only; split <;> rfl
    · exact fun operation context => resolve_context operation context _ _
    refine Call.lockstep_bind (steps_draw prim operationId _) fun resolutionId _ h => ?_
    subst h
    refine Call.lockstep_bind (steps_record operationId _ _ _) fun _ _ _ => ?_
    exact Call.lockstep_bind (steps_audit operationId _ _ _) fun _ _ _ => Call.lockstep_pure rfl

end Calls

theorem twins_next (prim : Primitives) {operationId : String} {t : System}
    (h : Twins operationId s t) {i : Input} (names : i.request.Names operationId) :
    (machine prim).answer s i = (machine prim).answer t i ∧
      Twins operationId ((machine prim).next s i) ((machine prim).next t i) := by
  have key : Call.Lockstep (Twins operationId) Eq (serve prim i) (serve prim i) := by
    obtain ⟨env, context, request⟩ := i
    cases request with
    | createOperation => exact names.elim
    | getOperation id =>
      obtain rfl : id = operationId := names
      exact Call.lockstep_map (steps_getOperation _ _)
        fun _ _ h => congrArg _ h
    | approve id =>
      obtain rfl : id = operationId := names
      exact Call.lockstep_map (steps_approve _ _ _ _ _ _ _ _)
        fun _ _ h => congrArg _ h
    | transferBatch id =>
      obtain rfl : id = operationId := names
      exact Call.lockstep_map (steps_transferBatch _ _ _ _ _ _ _ _)
        fun _ _ h => congrArg _ h
    | resolveConflict id =>
      obtain rfl : id = operationId := names
      exact Call.lockstep_map (steps_resolveConflict _ _ _ _ _ _ _ _ _)
        fun _ _ h => congrArg _ h
  exact ⟨(key s t h).1.eq, (key s t h).2⟩

/-! ## The round trip of a reachable operation -/

structure Operation.SameParts (operation operation' : Operation) : Prop where
  items : operation'.items = operation.items
  approvedItemIds : operation'.approvedItemIds = operation.approvedItemIds
  approvalSnapshotId : operation'.approvalSnapshotId = operation.approvalSnapshotId
  batches : operation'.batches = operation.batches
  conflicts : operation'.conflicts = operation.conflicts
  targetVersions : operation'.targetVersions = operation.targetVersions
  completedItemIds : operation'.completedItemIds = operation.completedItemIds
  reindexRequested : operation'.reindexRequested = operation.reindexRequested
  state : operation'.state = operation.state
  version : operation'.version = operation.version

/-- An operation of `s` is hydrated as `operation'` into `r`, with its parts, exactly the entries that
its approvals, batches and resolutions made, and the answers to all later calls. -/
structure HydratesTo (prim : Primitives) (s : System) (operation operation' : Operation)
    (r : Repository) : Prop where
  hydrates : hydrate (operation.row (dumpOperation operation s.repository)) = .ok (operation', r)
  parts : operation.SameParts operation'
  entries : ∀ key value, r.idempotency.get? key = some value ↔
    s.repository.idempotency.get? key = some value ∧ key.1 = operation.operationId ∧
      ¬s.repository.IsPreview value.2
  answers : ∀ is : List Input, (∀ i ∈ is, i.request.Names operation.operationId) →
    (machine prim).outputsFrom { s with repository := r } is = (machine prim).outputsFrom s is

def RoundTrips (prim : Primitives) (s : System) (operation : Operation) : Prop :=
  ∃ operation' r, HydratesTo prim s operation operation' r

/-- No preview was recorded for a tenant whose id is that of the operation. -/
def Unmixed (r : Repository) (operationId : String) : Prop :=
  ∀ key value, r.idempotency.get? key = some value → key.1 = operationId →
    ¬r.IsPreview value.2

theorem get?_loadEntries {operationId : String} {key : Key} :
    ∀ {raws : List EntryDocument} {table table' : Dict Key (String × Result)},
      loadEntries operationId raws table = .ok table' →
      (table.get? key ≠ none ∨
        ∃ raw ∈ raws, key = (operationId, raw.actorId, raw.kind, raw.key)) →
      table'.get? key ≠ none
  | [], table, table', hload, hkey => by
    cases hload
    rcases hkey with hkey | ⟨raw, hraw, -⟩
    · exact hkey
    · simp at hraw
  | raw :: raws, table, table', hload, hkey => by
    unfold loadEntries at hload
    split at hload
    · cases hload
    · refine get?_loadEntries hload ?_
      rcases hkey with hkey | ⟨other, hother, hsame⟩
      · exact Or.inl (Dict.get?_set_ne_none hkey _ _)
      · rcases List.mem_cons.1 hother with rfl | hother
        · refine Or.inl ?_
          rw [hsame, Dict.get?_set_self]
          simp
        · exact Or.inr ⟨other, hother, hsame⟩

theorem twins_loaded (found : s.repository.operations.get? operation.operationId = some operation) :
    Twins operation.operationId { s with repository := s.repository.loaded operation } s := by
  refine ⟨⟨operation.loaded, operation, Dict.get?_set_self .., found, ?_⟩, ?_, rfl, rfl⟩
  · exact ⟨operation.context, ⟨rfl, rfl, rfl⟩, rfl⟩
  · intro actorId kind key _
    refine Option.ext fun value => Dict.get?_filterKeys.trans ?_
    simp

namespace Sample

def confusion : Input :=
  { preview with
    context :=
      { context with tenantId := "sync-0", actorId := "resolution", safe := by decide } }

end Sample

end DaonUser.Sync
