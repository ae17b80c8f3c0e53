import DaonUser.Sync.Approval
import DaonUser.Sync.Commit

/-!
# Sync: calls that the store refuses

What a call of `PostgresSyncService` does to the store (`Effect`), and which of the calls that `SyncService`
accepts are committed (`accepted_iff`). Refused are an approval of an approved operation, anything after
completion, a second conflict or target version of an item, and an idempotency key that the actor has used
for another operation.
-/

namespace DaonUser.Sync.Postgres

open Lib

variable {s : Store} {actorId : String} {itemIds : List String}

variable {prim : Primitives} {scope : Scope prim}

/-- The calls that `_mutate` serves. -/
def Mutates (operationId : String) : Request → Prop
  | .createOperation .. => False
  | .getOperation _ => False
  | .approve id .. => id = operationId
  | .transferBatch id .. => id = operationId
  | .resolveConflict id .. => id = operationId

/-- The store takes the call: nothing outside fails and, if it is a new write that passes its checks,
the guard and the keys admit it. -/
def Admissible (s : Store) (i : Input scope) (operationId : String) (operation : Operation)
    (r : Repository) : Prop :=
  i.env.failure = none ∧
    (Admitted (s.core operationId i.context operation r) i.core →
      match i.request with
      | .createOperation .. => True
      | .getOperation _ => True
      | .approve _ _ _ _ key _ =>
        ApproveAdmissible s.tables i.context.actorId key operation
      | .transferBatch _ _ key _ payloads =>
        TransferAdmissible s.tables i.env s.transmissions.length i.context.actorId key payloads
          operation
      | .resolveConflict _ conflictId _ key choice _ =>
        ∀ conflict, operation.openConflict conflictId = .ok conflict →
          ResolveAdmissible s.tables i.env s.transmissions.length i.context.actorId key choice
            operation conflict)

/-- The row that `create_operation` inserts. -/
def createdRow (operation : Operation) (r : Repository) (key fingerprint : String) :
    StoredOperation :=
  { operation.row (dumpOperation operation r) with
    idempotencyKey := key, requestFingerprint := fingerprint }

/-- The store after the rows of an operation were added and the operation was written. -/
def Written (s s' : Store) (operationId : String) (row : StoredOperation) (new : Rows) : Prop :=
  s'.tables = { s.tables.toRows.add new with
    operations := s.tables.operations.set operationId row }

/-- What a call answers and leaves. -/
inductive Effect (s : Store) (i : Input scope) : Outcome → Store → Prop where
  | unchanged {o : Outcome} {s' : Store} (tables : s'.tables = s.tables)
      (grows : s.drawn ≤ s'.drawn) : Effect s i o s'
  | created {o : Outcome} {targetArea : String} {items : List SyncItemInput} {key : String}
      {ifMatch : ExpectedVersion} {operationId entry : String} {s' : Store} {r : Repository}
      (request : i.request = .createOperation targetArea items key ifMatch)
      (drawn : ∃ n, operationId = prim.tokens.id "sync" n)
      (entries : r.idempotency = Dict.empty.set (i.context.tenantId, i.context.workspaceId,
        i.context.actorId, key) (entry, .text operationId))
      (free : s.tables.operations.get? operationId = none)
      (tables : s'.tables = { s.tables with
        operations := s.tables.operations.set operationId
          (createdRow (newOperation prim operationId i.context targetArea items) r key
            (createFingerprint prim targetArea items)) })
      (grows : s.drawn ≤ s'.drawn) : Effect s i o s'
  | approved {o : Outcome} {operationId : String} {itemIds : List String} {stepUp : String}
      {expectedVersion : ExpectedVersion} {key : String} {verified : Bool}
      {row : StoredOperation} {operation before after : Operation} {r r' : Repository}
      {snapshotId fingerprint : String} {s' : Store}
      (request : i.request = .approve operationId itemIds stepUp expectedVersion key verified)
      (found : s.tables.operations.get? operationId = some row)
      (hydrated : hydrate row.toOperationRow = .ok (operation, r))
      (hbefore : before = { operation with context := i.context })
      (admitted : ApproveAdmitted (s.core operationId i.context operation r) i.context operationId
        itemIds stepUp expectedVersion key verified before)
      (admissible : ApproveAdmissible s.tables i.context.actorId key operation)
      (failure : i.env.failure = none)
      (hafter : after = before.approve itemIds.eraseDups snapshotId)
      (drawn : snapshotId = prim.tokens.id "sync-approval" s.drawn)
      (entry : r'.idempotency = r.idempotency.set (operationId, i.context.actorId, "approve", key)
        (fingerprint, .text snapshotId))
      (written : Written s s' operationId (row.written after r')
        (approvalRows operationId snapshotId i.context.actorId key itemIds.eraseDups))
      (grows : s.drawn + 1 ≤ s'.drawn) : Effect s i o s'
  | transferred {o : Outcome} {operationId : String} {expectedVersion : ExpectedVersion}
      {key : String} {cursor : Option String} {payloads : List TransferPayload}
      {row : StoredOperation} {operation before after : Operation} {r r' : Repository}
      {entries : List Entry} {sent : List Transmission} {batchId fingerprint : String}
      {batch : TransferBatchView} {n : Nat} {s' : Store}
      (request : i.request = .transferBatch operationId expectedVersion key cursor payloads)
      (found : s.tables.operations.get? operationId = some row)
      (hydrated : hydrate row.toOperationRow = .ok (operation, r))
      (hbefore : before = { operation with context := i.context })
      (admitted : TransferAdmitted (s.core operationId i.context operation r) i.context
        operationId expectedVersion key payloads before)
      (admissible : TransferAdmissible s.tables i.env s.transmissions.length i.context.actorId key
        payloads operation)
      (failure : i.env.failure = none)
      (sends : Sends prim i.env.toEnv i.context key before (s.drawn + 1) s.transmissions.length
        payloads entries sent none)
      (hafter : after = before.transfer entries batchId cursor)
      (hbatch : batch = newBatch (before.enterAll entries) batchId cursor
        ((targetsOf entries).map (·.itemId)) ((conflictsOf entries).map (·.conflictId)))
      (drawn : batchId = prim.tokens.id "sync-batch" s.drawn)
      (hn : n = s.drawn + 1 + (conflictsOf entries).length)
      (entry : r'.idempotency = r.idempotency.set
        (operationId, i.context.actorId, "transfer", key) (fingerprint, .text batchId))
      (written : Written s s' operationId (row.written after r')
        (batchRows prim operationId i.context.actorId key after entries batch n))
      (grows : n + batch.transferredItemIds.length + (conflictsOf entries).length +
        (if after.reindexRequested then targetsOf entries else []).length ≤ s'.drawn) :
      Effect s i o s'
  | resolved {o : Outcome} {operationId conflictId : String} {expectedVersion : ExpectedVersion}
      {key : String} {choice : ConflictResolutionChoice} {content : Option (List UInt8)}
      {row : StoredOperation} {operation before after : Operation} {r r' : Repository}
      {conflict : Conflict} {item : SyncItemInput} {targets : List TargetVersion}
      {sent : List Transmission} {fingerprint : String} {value : ConflictResolutionView}
      {s' : Store}
      (request : i.request =
        .resolveConflict operationId conflictId expectedVersion key choice content)
      (found : s.tables.operations.get? operationId = some row)
      (hydrated : hydrate row.toOperationRow = .ok (operation, r))
      (hbefore : before = { operation with context := i.context })
      (admitted : ResolveAdmitted (s.core operationId i.context operation r) i.context operationId
        conflictId expectedVersion key choice content before conflict item)
      (admissible : ResolveAdmissible s.tables i.env s.transmissions.length i.context.actorId key
        choice operation conflict)
      (failure : i.env.failure = none)
      (resends : Resends i.env.toEnv i.context key before item choice s.transmissions.length content
        targets sent)
      (hafter : after = before.settle targets conflictId item.itemId)
      (result : value = ⟨prim.tokens.id "sync-resolution" s.drawn, conflictId, choice,
        targets.head?.map (·.targetVersionId), false⟩)
      (entry : r'.idempotency = r.idempotency.set
        (operationId, i.context.actorId, "resolution", key) (fingerprint, .resolution value))
      (written : Written s s' operationId (row.written after r')
        (resolutionRows prim operationId i.context.actorId key after targets value (s.drawn + 1)))
      (grows : s.drawn + 1 + (if after.reindexRequested then targets else []).length ≤ s'.drawn) :
      Effect s i o s'

theorem operation_core {operationId : String} {context : SyncContext}
    {operation before : Operation} {r : Repository}
    (h : (s.core operationId context operation r).repository.operation context operationId =
      .ok before) : before = { operation with context := context } := by
  have hget := (Repository.operation_eq_ok.1 h).1
  change (r.operations.set operationId { operation with context := context }).get? operationId = _
    at hget
  rw [Dict.get?_set_self] at hget
  exact (Option.some.inj hget).symm

theorem mutate_needs (h : Consistent prim s) {i : Input scope} {operationId : String}
    {row : StoredOperation} {operation : Operation} {r : Repository} {reply : Reply}
    (mutates : Mutates operationId i.request)
    (found : s.tables.operations.get? operationId = some row)
    (hydrated : hydrate row.toOperationRow = .ok (operation, r))
    (accepted : (Sync.machine prim).answer (s.core operationId i.context operation r) i.core =
      .ok reply) :
    Call.Needs (mutate prim i.env i.context operationId (serve prim i.core)) s
      (Admissible s i operationId operation r)
      (fun s' => s'.tables = s.tables ∧ s.drawn ≤ s'.drawn)
      fun answer s' => answer = reply ∧ Effect s i (.ok reply) s' := by
  have heffect := Sync.effect_next prim (s.core operationId i.context operation r) i.core
  have hcore : serve prim i.core (s.core operationId i.context operation r) = (.ok reply,
      (Sync.machine prim).next (s.core operationId i.context operation r) i.core) :=
    Prod.ext accepted rfl
  rw [accepted] at heffect
  generalize (Sync.machine prim).next (s.core operationId i.context operation r) i.core = s₁
    at heffect hcore
  generalize ho : (Except.ok reply : Sync.Outcome) = o at heffect
  have hself : (s.core operationId i.context operation r).repository.operations.get? operationId =
      some { operation with context := i.context } := Dict.get?_set_self _ _ _
  cases heffect with
  | unchanged refused leaves =>
    have hkept : s₁.repository.operations.get? operationId =
        some { operation with context := i.context } := by
      rw [leaves.operations]
      exact hself
    refine Call.Needs.imp (Call.Needs.iff (mutate_unchanged rfl found hydrated hcore hkept
      leaves.drawn.ge rfl) ?_) ?_
    · exact ⟨fun hfailure => ⟨hfailure, fun admitted => absurd admitted refused⟩, fun hall => hall.1⟩
    · rintro - answer s' ⟨rfl, tables, grows⟩
      exact ⟨rfl, .unchanged tables grows⟩
  | created request admitted drawn leaves =>
    have request : i.request = _ := request
    rw [request] at mutates
    exact mutates.elim
  | interrupted request admitted sends leaves => cases ho
  | unanswered request admitted transmits port leaves => cases ho
  | @approved id itemIds stepUp expectedVersion key verified before snapshotId _ request admitted
      drawn leaves =>
    have request : i.request = _ := request
    rw [request] at mutates
    obtain rfl : id = operationId := mutates
    have hbefore := operation_core admitted.found
    cases ho
    have hversion : (before.approve itemIds.eraseDups snapshotId).version ≠ operation.version := by
      rw [hbefore]
      exact Nat.succ_ne_self _
    have hwritten : s₁.repository.operations.get? id =
        some (before.approve itemIds.eraseDups snapshotId) := by
      rw [leaves.operations, Dict.get?_set_self]
    have hdrawn : s.drawn + 1 = s₁.drawn := leaves.drawn.symm
    refine Call.Needs.iff (Call.Needs.imp (mutate_changed hbefore found hydrated hcore hwritten
      (by omega) hversion (fun _ hs' => hs'.2) (persist_approve h found hydrated hbefore rfl drawn
        leaves.idempotency (nodup_eraseDups _) (by rw [hbefore] at admitted; exact admitted.scope.2)))
      ?_) ?_
    · rintro ⟨admissible, failure⟩ answer s' ⟨rfl, written, grows⟩
      exact ⟨rfl, .approved request found hydrated hbefore admitted admissible failure rfl drawn
        leaves.idempotency written (by omega)⟩
    · unfold Admissible
      rw [Admitted, show i.core.request = _ from request, request]
      exact ⟨fun hboth => ⟨hboth.2, fun _ => hboth.1⟩, fun hall => ⟨hall.2 ⟨_, admitted⟩, hall.1⟩⟩
  | @transferred id expectedVersion key cursor payloads before entries sent batchId _ request
      admitted sends drawn leaves =>
    have request : i.request = _ := request
    rw [request] at mutates
    obtain rfl : id = operationId := mutates
    have hbefore := operation_core admitted.found
    cases ho
    have hversion : (before.transfer entries batchId cursor).version ≠ operation.version := by
      rw [(transferred before entries batchId cursor).version, hbefore]
      exact Nat.succ_ne_self _
    have hwritten : s₁.repository.operations.get? id =
        some (before.transfer entries batchId cursor) := by
      rw [leaves.operations, Dict.get?_set_self]
    have hdrawn : s₁.drawn = s.drawn + 1 + (conflictsOf entries).length := leaves.drawn
    have happroved : operation.approvalSnapshotId ≠ none := by
      have happroved := admitted.approved
      rwa [hbefore] at happroved
    have hscope : ∀ payload ∈ payloads, payload.itemId ∈ operation.approvedItemIds := by
      have hscope := admitted.scope
      rwa [hbefore] at hscope
    refine Call.Needs.iff (Call.Needs.imp (mutate_changed hbefore found hydrated hcore hwritten
      (by omega) hversion (fun _ hs' => le_trans (by omega) hs'.2) (persist_transfer h found
        hydrated hbefore rfl happroved drawn sends hscope leaves.idempotency (by omega) rfl)) ?_) ?_
    · rintro ⟨admissible, failure⟩ answer s' ⟨rfl, written, grows⟩
      exact ⟨rfl, .transferred request found hydrated hbefore admitted admissible failure sends rfl rfl
        drawn hdrawn leaves.idempotency written grows⟩
    · unfold Admissible
      rw [Admitted, show i.core.request = _ from request, request]
      exact ⟨fun hboth => ⟨hboth.2, fun _ => hboth.1⟩, fun hall => ⟨hall.2 ⟨_, admitted⟩, hall.1⟩⟩
  | @resolved id conflictId expectedVersion key choice content before conflict item targets sent
      value _ request admitted resends result leaves =>
    have request : i.request = _ := request
    rw [request] at mutates
    obtain rfl : id = operationId := mutates
    have hbefore := operation_core admitted.found
    cases ho
    have hversion : (before.settle targets conflictId item.itemId).version ≠ operation.version := by
      rw [(settle_history ..).2, hbefore]
      exact Nat.succ_ne_self _
    have hwritten : s₁.repository.operations.get? id =
        some (before.settle targets conflictId item.itemId) := by
      rw [leaves.operations, Dict.get?_set_self]
    have hdrawn : s₁.drawn = s.drawn + 1 := leaves.drawn
    have hopened : operation.openConflict conflictId = .ok conflict := by
      have hopened := admitted.opened
      rwa [hbefore] at hopened
    have hlisted : operation.items.get? conflict.itemId = some item := by
      have hlisted := admitted.listed
      rwa [hbefore] at hlisted
    refine Call.Needs.iff (Call.Needs.imp (mutate_changed hbefore found hydrated hcore hwritten
      (by omega) hversion (fun _ hs' => le_trans (by omega) hs'.2) (persist_resolve h found
        hydrated hbefore rfl hopened hlisted resends (by rw [result]; rfl) (by rw [result])
        leaves.idempotency (by omega))) ?_) ?_
    · rintro ⟨admissible, failure⟩ answer s' ⟨rfl, written, grows⟩
      rw [hdrawn] at written grows
      exact ⟨rfl, .resolved request found hydrated hbefore admitted admissible failure resends rfl result
        leaves.idempotency written grows⟩
    · unfold Admissible
      rw [Admitted, show i.core.request = _ from request, request]
      constructor
      · refine fun hboth => ⟨hboth.2, fun _ conflict' hopened' => ?_⟩
        obtain rfl : conflict = conflict' := Except.ok.inj (hopened.symm.trans hopened')
        exact hboth.1
      · exact fun hall => ⟨hall.2 ⟨_, _, _, admitted⟩ conflict hopened, hall.1⟩

/-! ## One step -/

theorem post_transaction {α : Type} {x : Statement α} {Q : Except SyncError α → Store → Prop}
    (h : Call.Post x s fun o s' => s.drawn ≤ s'.drawn ∧ ∀ a, o = .ok a → Q (.ok a) s')
    (herror : ∀ e s', s'.tables = s.tables → s.drawn ≤ s'.drawn → Q (.error e) s') :
    Call.Post (transaction x) s Q := by
  unfold Call.Post at h ⊢
  unfold transaction
  rcases hx : x s with ⟨e | a, s'⟩ <;> rw [hx] at h
  · exact herror e _ rfl h.1
  · exact h.2 a rfl

theorem post_raiseAny {α : Type} {failure : Option SyncError} {a : α}
    {Q : Except SyncError α → Store → Prop} (h : ∀ o, Q o s) :
    Call.Post (do raiseAny failure; return a) s Q := by
  cases failure with
  | none => exact h _
  | some e => exact h _

theorem getOperation_effect (s : Store) (i : Input scope) (operationId : String) :
    Call.Post (getOperation i.env i.context operationId) s (Effect s i) := by
  refine post_transaction ?_ fun _ _ tables grows => .unchanged tables grows
  refine Call.post_query (fun _ _ => ⟨le_rfl, fun _ h => by cases h⟩) fun row _ => ?_
  refine Call.post_query (fun _ _ => ⟨le_rfl, fun _ h => by cases h⟩) fun hydrated _ => ?_
  exact post_raiseAny fun o => ⟨le_rfl, fun _ _ => .unchanged rfl le_rfl⟩

theorem createOperation_effect (s : Store) (i : Input scope) {targetArea : String}
    {items : List SyncItemInput} {key : String} {ifMatch : ExpectedVersion}
    (request : i.request = .createOperation targetArea items key ifMatch) :
    Call.Post (createOperation prim i.env i.context targetArea items key ifMatch) s
      (Effect s i) := by
  refine post_transaction (Call.post_get ?_) fun _ _ tables grows => .unchanged tables grows
  split
  · refine Call.post_ensure (fun _ => ⟨le_rfl, fun _ h => by cases h⟩) fun _ => ?_
    refine Call.post_query (fun _ _ => ⟨le_rfl, fun _ h => by cases h⟩) fun hydrated _ => ?_
    exact post_raiseAny fun o => ⟨le_rfl, fun _ _ => .unchanged rfl le_rfl⟩
  have hrun : Call.Post (runService (Sync.createOperation prim i.context targetArea items key
      ifMatch) { operations := .empty, idempotency := .empty, audit := [] }) s fun o s₁ =>
      s₁.tables = s.tables ∧ s.drawn ≤ s₁.drawn ∧ ∀ result r, o = .ok (result, r) →
        r.operations = .empty ∨ ∃ entry n, result.operationId = prim.tokens.id "sync" n ∧
          r.operations = Dict.empty.set result.operationId
            (newOperation prim result.operationId i.context targetArea items) ∧
          r.idempotency = Dict.empty.set (i.context.tenantId, i.context.workspaceId,
            i.context.actorId, key) (entry, .text result.operationId) := by
    have heffect := Sync.createOperation_effect prim i.env.toEnv i.context
      ⟨{ operations := .empty, idempotency := .empty, audit := [] }, s.drawn, s.transmissions⟩
      targetArea items key ifMatch
    unfold Call.Post at heffect ⊢
    unfold runService
    rcases hx : Sync.createOperation prim i.context targetArea items key ifMatch
      ⟨{ operations := .empty, idempotency := .empty, audit := [] }, s.drawn, s.transmissions⟩
      with ⟨e | a, s₁⟩ <;> rw [hx] at heffect
    · exact ⟨rfl, heffect.grows, fun _ _ h => by cases h⟩
    · refine ⟨rfl, heffect.grows, fun result r hok => ?_⟩
      cases hok
      dsimp only at heffect
      generalize ho : (Except.ok a).map Reply.operation = o at heffect
      cases heffect with
      | unchanged refused leaves => exact Or.inl leaves.operations
      | created request' admitted drawn leaves =>
        cases request'
        cases ho
        exact Or.inr ⟨_, _, drawn, leaves.operations, leaves.idempotency⟩
      | approved request' admitted drawn leaves => cases request'
      | transferred request' admitted sends drawn leaves => cases request'
      | interrupted request' admitted sends leaves => cases request'
      | resolved request' admitted resends result leaves => cases request'
      | unanswered request' admitted transmits port leaves => cases request'
  refine Call.post_bind hrun (fun _ _ h => ⟨h.2.1, fun _ h => by cases h⟩) ?_
  rintro ⟨result, r⟩ s₁ ⟨tables, grows, hcreated⟩
  refine Call.post_query (fun _ _ => ⟨grows, fun _ h => by cases h⟩) fun operation hget => ?_
  rcases hcreated result r rfl with hempty | ⟨entry, n, hid, hoperations, hentries⟩
  · rw [hempty] at hget
    cases hget
  rw [hoperations, Dict.get?_set_self] at hget
  cases hget
  refine Call.post_get (Call.post_ensure (fun _ => ⟨grows, fun _ h => by cases h⟩) fun free => ?_)
  refine Call.post_modify (post_raiseAny fun o => ⟨grows, fun _ _ => ?_⟩)
  rw [tables] at free
  refine .created request ⟨n, hid⟩ hentries free.1 ?_ grows
  rw [tables]
  rfl

theorem mutate_effect (h : Consistent prim s) {i : Input scope} {operationId : String}
    (mutates : Mutates operationId i.request) :
    Call.Post (mutate prim i.env i.context operationId (serve prim i.core)) s (Effect s i) := by
  cases found : s.tables.operations.get? operationId with
  | none =>
    refine post_transaction ?_ fun _ _ tables grows => .unchanged tables grows
    refine Call.post_query (fun _ _ => ⟨le_rfl, fun _ h => by cases h⟩) fun row hrow => ?_
    simp [found] at hrow
  | some row =>
    obtain ⟨-, operation, r, hydrated, -⟩ := h.persisted operationId row found
    cases accepted : (Sync.machine prim).answer (s.core operationId i.context operation r) i.core with
    | error e =>
      have hcore : serve prim i.core (s.core operationId i.context operation r) = (.error e,
          (Sync.machine prim).next (s.core operationId i.context operation r) i.core) :=
        Prod.ext accepted rfl
      rw [Call.Post, mutate_error rfl found hydrated hcore]
      exact .unchanged rfl
        (Sync.effect_next prim (s.core operationId i.context operation r) i.core).grows
    | ok reply =>
      refine (mutate_needs h mutates found hydrated accepted).mono fun o s' ho => ?_
      cases o with
      | error e => exact .unchanged ho.2.1 ho.2.2
      | ok answer =>
        obtain ⟨-, rfl, heffect⟩ := ho
        exact heffect

theorem effect_next (h : Consistent prim s) (i : Input scope) :
    Effect s i ((machine scope).answer s i) ((machine scope).next s i) := by
  change Call.Post (execute i) s (Effect s i)
  unfold execute
  split
  · next request => exact createOperation_effect s i request
  · exact getOperation_effect s i _
  · next request => exact mutate_effect h (by rw [request]; rfl)
  · next request => exact mutate_effect h (by rw [request]; rfl)
  · next request => exact mutate_effect h (by rw [request]; rfl)

/-! ## The invariant -/

section Steps

variable {s : Store} {i : Input scope} {operationId key : String} {operation before : Operation}
  {r r' : Repository} {fingerprint : String}

theorem approvalRows_owned {snapshotId : String} :
    ∀ id ∈ (approvalRows operationId snapshotId actorId key itemIds).owners, id = operationId := by
  simp [Rows.owners, approvalRows]

theorem batchRows_owned {after : Operation} {entries : List Entry} {batch : TransferBatchView} {n : Nat} :
    ∀ id ∈ (batchRows prim operationId actorId key after entries batch n).owners,
      id = operationId := by
  intro id hid
  simp only [Rows.owners, batchRows, List.map_nil, List.map_map, List.map_cons, List.mem_append,
    List.mem_map, List.not_mem_nil, List.mem_singleton] at hid
  grind [conflictRow, targetRow]

theorem resolutionRows_owned {after : Operation} {targets : List TargetVersion}
    {value : ConflictResolutionView} {n : Nat} :
    ∀ id ∈ (resolutionRows prim operationId actorId key after targets value n).owners,
      id = operationId := by
  intro id hid
  simp only [Rows.owners, resolutionRows, List.map_nil, List.map_map, List.mem_append,
    List.mem_map, List.not_mem_nil] at hid
  grind [targetRow]

theorem entries_record {rows : Rows} {drawn drawn' : Nat} {kind : String} {result : Result}
    (hpersisted : Persisted prim rows drawn operation r) (hdrawn : drawn ≤ drawn')
    (hid : operation.operationId = operationId)
    (entry : r'.idempotency = r.idempotency.set (operationId, actorId, kind, key)
      (fingerprint, result))
    (hnew : Drawn prim drawn' (operationId, actorId, kind, key) result) :
    ∀ key fingerprint result, r'.idempotency.get? key = some (fingerprint, result) →
      key.1 = operationId ∧ Drawn prim drawn' key result := by
  intro key' fingerprint' result' hget
  rcases Dict.of_get?_set (entry ▸ hget) with hold | ⟨rfl, hvalue⟩
  · obtain ⟨hkey, hold⟩ := hpersisted.entries key' fingerprint' result' hold
    exact ⟨hkey.trans hid, hold.mono hdrawn⟩
  · cases hvalue
    exact ⟨rfl, hnew⟩

theorem linked_approve {snapshotId : String} {drawn : Nat} (hlinked : Linked prim s.tables.toRows s.drawn)
    (hdrawn : snapshotId = prim.tokens.id "sync-approval" s.drawn) (grows : s.drawn + 1 ≤ drawn) :
    Linked prim (s.tables.toRows.add (approvalRows operationId snapshotId actorId key itemIds))
      drawn := by
  refine hlinked.add (by omega) (fun id hid => ?_) (by simp [approvalRows]) ?_
    (by simp [approvalRows]) (by simp [approvalRows])
  · have hid : id = ("sync-approval", snapshotId) := by
      simpa [Rows.drawnIds, approvalRows] using hid
    subst hid
    exact ⟨s.drawn, le_rfl, by omega, hdrawn⟩
  · intro row hrow
    obtain ⟨itemId, -, rfl⟩ := List.mem_map.1 hrow
    exact ⟨_, List.mem_singleton_self _, rfl⟩

theorem persisted_approve {stepUp : String}
    {expectedVersion : ExpectedVersion} {verified : Bool} {snapshotId : String} {drawn : Nat}
    (hpersisted : Persisted prim s.tables.toRows s.drawn operation r)
    (hbefore : before = { operation with context := i.context })
    (admitted : ApproveAdmitted (s.core operation.operationId i.context operation r) i.context
      operation.operationId itemIds stepUp expectedVersion key verified before)
    (first : operation.approvalSnapshotId = none)
    (entry : r'.idempotency = r.idempotency.set
      (operation.operationId, i.context.actorId, "approve", key) (fingerprint, .text snapshotId))
    (grows : s.drawn ≤ drawn) :
    Persisted prim (s.tables.toRows.add (approvalRows operation.operationId snapshotId
      i.context.actorId key itemIds.eraseDups)) drawn
      (before.approve itemIds.eraseDups snapshotId) r' := by
  have hconflicts : operation.conflicts = [] := by
    by_contra hne
    exact hpersisted.sound.approved hne first
  have hrequested : operation.reindexRequested = false := by
    have hstate := hpersisted.staged.awaiting.2 first
    have hrequested := hpersisted.staged.requested
    rw [hstate] at hrequested
    simpa using hrequested
  subst hbefore
  have hcontext := hpersisted.context i.context
  refine ⟨hcontext.sound.approve admitted.scope.2 admitted.closed, ?_, hpersisted.batches,
    entries_record hpersisted grows rfl entry ?_, ?_, ?_, ?_⟩
  · refine ⟨by simp [Operation.approve], by simp [Operation.approve], ?_, fun _ => hconflicts,
      hpersisted.staged.made, ?_⟩
    · simp [Operation.approve, hrequested]
    · simp [Operation.approve, hconflicts]
  · exact ⟨Or.inl rfl, fun hkind => absurd hkind (show "approve" ≠ "transfer" by decide)⟩
  · simp [Operation.approve]
  · refine hpersisted.mirrors.add_own approvalRows_owned ?_ ?_ ?_ ?_ ?_
    · simp [first, approvalRows, Operation.approve]
    · simp [hpersisted.staged.unlisted first, approvalRows, Operation.approve, Function.comp_def]
    · simp [approvalRows, Operation.approve]
    · simp [approvalRows, Operation.approve]
    · simp [approvalRows, Operation.approve]
  · simp [Operation.approve, hconflicts]

section Transfer

variable {expectedVersion : ExpectedVersion} {cursor : Option String}
  {payloads : List TransferPayload} {after : Operation} {entries : List Entry}
  {sent : List Transmission} {batchId : String} {batch : TransferBatchView} {n drawn : Nat}
  (hbatch : batch = newBatch (before.enterAll entries) batchId cursor
    ((targetsOf entries).map (·.itemId)) ((conflictsOf entries).map (·.conflictId)))
  (sends : Sends prim i.env.toEnv i.context key before (s.drawn + 1) s.transmissions.length
    payloads entries sent none)
  (hdrawn : batchId = prim.tokens.id "sync-batch" s.drawn)

include hbatch sends hdrawn

theorem linked_transfer (hlinked : Linked prim s.tables.toRows s.drawn)
    (hn : n = s.drawn + 1 + (conflictsOf entries).length)
    (grows : n + batch.transferredItemIds.length + (conflictsOf entries).length +
      (if after.reindexRequested then targetsOf entries else []).length ≤ drawn) :
    Linked prim (s.tables.toRows.add
      (batchRows prim operationId i.context.actorId key after entries batch n)) drawn := by
  refine hlinked.add (by omega) (fun id hid => ?_) ?_ (by simp [batchRows]) (by simp [batchRows]) ?_
  · simp only [Rows.drawnIds, batchRows, List.mem_append, List.map_nil, List.not_mem_nil, false_or,
      or_false, List.map_map, List.map_cons, List.mem_singleton] at hid
    rcases hid with ((hid | hid) | hid) | hid
    · obtain ⟨conflict, hconflict, rfl⟩ := List.mem_map.1 hid
      have hid := List.mem_map_of_mem (f := (·.conflictId)) hconflict
      rw [sends.conflictIds, List.mem_map] at hid
      obtain ⟨m, hm, hid⟩ := hid
      rw [List.mem_range'_1] at hm
      exact ⟨m, by omega, by omega, hid.symm⟩
    · subst hid
      refine ⟨s.drawn, le_rfl, by omega, ?_⟩
      rw [← hdrawn, hbatch]
      rfl
    · obtain ⟨row, hrow, rfl⟩ := List.mem_map.1 hid
      rcases List.mem_append.1 hrow with hrow | hrow
      · obtain ⟨m, itemId, hm, hm', -, rfl⟩ := mem_drawnRows hrow
        exact ⟨m, by omega, by omega, rfl⟩
      · obtain ⟨m, itemId, hm, hm', -, rfl⟩ := mem_drawnRows hrow
        rw [List.length_map] at hm'
        exact ⟨m, by omega, by omega, rfl⟩
    · obtain ⟨row, hrow, rfl⟩ := List.mem_map.1 hid
      obtain ⟨m, target, hm, hm', -, rfl⟩ := mem_drawnRows hrow
      exact ⟨m, by omega, by omega, rfl⟩
  · have hids : ((conflictsOf entries).map (·.conflictId)).Nodup := by
      rw [sends.conflictIds]
      exact (List.nodup_range').map fun m m' hsame => (prim.tokens.id_inj _).1 hsame
    rwa [batchRows, List.map_map]
  · intro row hrow
    obtain ⟨m, target, -, -, htarget, rfl⟩ := mem_drawnRows hrow
    split at htarget
    · exact ⟨_, List.mem_map_of_mem htarget, rfl⟩
    · simp at htarget

theorem persisted_transfer (hlinked : Linked prim s.tables.toRows s.drawn) (hconsistent : Consistent prim s)
    (hpersisted : Persisted prim s.tables.toRows s.drawn operation r)
    (hbefore : before = { operation with context := i.context })
    (admitted : TransferAdmitted (s.core operation.operationId i.context operation r) i.context
      operation.operationId expectedVersion key payloads before)
    (incomplete : operation.state ≠ .reindexRequested)
    (hafter : after = before.transfer entries batchId cursor)
    (entry : r'.idempotency = r.idempotency.set
      (operation.operationId, i.context.actorId, "transfer", key) (fingerprint, .text batchId))
    (grows : s.drawn < drawn) :
    Persisted prim (s.tables.toRows.add (batchRows prim operation.operationId i.context.actorId key
      after entries batch n)) drawn after r' := by
  have parts : Transferred before after entries batch := by
    rw [hafter, hbatch]
    exact transferred ..
  have hidentity := transfer_sameIdentity before entries batchId cursor
  rw [← hafter] at hidentity
  have hbeforePersisted : Persisted prim s.tables.toRows s.drawn before r :=
    hbefore ▸ hpersisted.context i.context
  have hid : before.operationId = operation.operationId := by rw [hbefore]
  have hrequested : before.reindexRequested = false := by
    rw [← Bool.not_eq_true, hbeforePersisted.staged.requested, hbefore]
    exact incomplete
  have hsnapshot : after.approvalSnapshotId ≠ none := by
    rw [parts.approvalSnapshotId]
    exact admitted.approved
  have hnewConflict := newConflict_of_sends hconsistent hbeforePersisted sends admitted.scope
  refine ⟨?_, ⟨?_, ?_, ?_, ?_, ?_, ?_⟩, ?_, ?_, ?_, ?_, ?_⟩
  · rw [hafter]
    exact (hbeforePersisted.sound.enterAll admitted.approved sends).recordBatch _
  · refine iff_of_false ?_ hsnapshot
    rcases parts.state with ⟨h, -⟩ | ⟨h, -⟩ | ⟨h, -⟩ <;> rw [h] <;> decide
  · exact fun hnone => absurd hnone hsnapshot
  · rcases parts.state with ⟨h, hflag⟩ | ⟨h, hflag⟩ | ⟨h, hflag⟩ <;> rw [h, hflag] <;>
      simp [hrequested]
  · intro hstate
    rcases parts.state with ⟨h, -⟩ | ⟨h, -⟩ | ⟨h, -⟩ <;> rw [h] at hstate <;> cases hstate
  · intro target htarget
    rw [parts.targetVersions] at htarget
    rw [parts.completed]
    rcases List.mem_append.1 htarget with htarget | htarget
    · exact Or.inl (hbeforePersisted.staged.made target htarget)
    · exact Or.inr ⟨target, htarget, rfl⟩
  · intro conflict hconflict
    rw [parts.conflicts] at hconflict
    rw [parts.approvedItemIds]
    rcases List.mem_append.1 hconflict with hconflict | hconflict
    · exact hbeforePersisted.staged.contested conflict hconflict
    · exact (hnewConflict conflict hconflict).approved
  · intro other hother
    rw [parts.batches] at hother
    rcases List.mem_append.1 hother with hother | hother
    · exact hbeforePersisted.batches other hother
    · rw [List.mem_singleton.1 hother, hbatch]
      rfl
  · rw [hidentity.operationId, hid]
    refine entries_record hpersisted grows.le rfl entry ⟨Or.inr rfl, fun _ => ?_⟩
    exact ⟨s.drawn, grows, hdrawn⟩
  · exact fun hnone => absurd hnone hsnapshot
  · rw [hidentity.operationId, hid]
    have hmirrors := hbeforePersisted.mirrors
    rw [hid] at hmirrors
    refine hmirrors.add_own batchRows_owned ?_ ?_ ?_ ?_ ?_
    · simp [batchRows, parts.approvalSnapshotId]
    · simp [batchRows, parts.approvedItemIds]
    · simp [batchRows, parts.conflicts, conflictRow]
    · simp [batchRows, parts.targetVersions, targetRow]
    · have hsequence : batch.sequence = 1 + before.batches.length := by
        rw [hbatch, Nat.add_comm]
        exact congrArg (·.length + 1) (enterAll_frame _ _).2.2.2.2.2.2.2.1
      rw [parts.batches, List.length_append, List.length_singleton, List.range'_1_concat,
        ← hsequence]
      rfl
  · intro conflict hconflict hstate row hrow hsame
    have hrow : row ∈ s.tables.resolutions := by simpa [Rows.add, batchRows] using hrow
    rw [parts.conflicts] at hconflict
    rcases List.mem_append.1 hconflict with hconflict | hconflict
    · exact hbeforePersisted.unsettled conflict hconflict hstate row hrow hsame
    · obtain ⟨other, hother, hotherId⟩ := hlinked.resolutions row hrow
      exact (hnewConflict conflict hconflict).fresh other hother (hotherId.trans hsame)

end Transfer

section Resolve

variable {conflictId : String} {expectedVersion : ExpectedVersion}
  {choice : ConflictResolutionChoice} {content : Option (List UInt8)} {after : Operation}
  {conflict : Conflict} {item : SyncItemInput} {targets : List TargetVersion}
  {sent : List Transmission} {value : ConflictResolutionView} {drawn : Nat}

theorem linked_resolve (hlinked : Linked prim s.tables.toRows s.drawn)
    (hpersisted : Persisted prim s.tables.toRows s.drawn operation r)
    (hconflict : conflict ∈ operation.conflicts) (hid : conflict.conflictId = value.conflictId)
    (hvalue : value.resolutionId = prim.tokens.id "sync-resolution" s.drawn)
    (grows : s.drawn + 1 + (if after.reindexRequested then targets else []).length ≤ drawn) :
    Linked prim (s.tables.toRows.add
      (resolutionRows prim operationId i.context.actorId key after targets value (s.drawn + 1)))
      drawn := by
  refine hlinked.add (by omega) (fun id hid => ?_) (by simp [resolutionRows])
    (by simp [resolutionRows]) ?_ ?_
  · simp only [Rows.drawnIds, resolutionRows, List.mem_append, List.map_nil, List.not_mem_nil,
      false_or, List.map_cons, List.mem_singleton] at hid
    rcases hid with hid | hid
    · subst hid
      exact ⟨s.drawn, le_rfl, by omega, hvalue⟩
    · obtain ⟨row, hrow, rfl⟩ := List.mem_map.1 hid
      obtain ⟨m, target, hm, hm', -, rfl⟩ := mem_drawnRows hrow
      exact ⟨m, by omega, by omega, rfl⟩
  · simp only [resolutionRows, List.mem_singleton, forall_eq]
    obtain ⟨row, hrow, -, hrowId, -⟩ := hpersisted.mirrors.conflictRow hconflict
    exact ⟨row, hrow, hrowId.trans hid⟩
  · intro row hrow
    obtain ⟨m, target, -, -, htarget, rfl⟩ := mem_drawnRows hrow
    split at htarget
    · exact ⟨_, List.mem_map_of_mem htarget, rfl⟩
    · simp at htarget

theorem of_mem_markResolved {conflicts : List Conflict} {conflict : Conflict}
    (nodup : (conflicts.map (·.conflictId)).Nodup)
    (h : conflict ∈ Operation.markResolved conflictId conflicts)
    (hopen : conflict.state = .unresolved) :
    conflict ∈ conflicts ∧ conflict.conflictId ≠ conflictId := by
  induction conflicts with
  | nil => simp [Operation.markResolved] at h
  | cons first conflicts ih =>
    obtain ⟨hfirst, hnodup⟩ := List.nodup_cons.1 nodup
    unfold Operation.markResolved at h
    split at h
    · next hsame =>
      rcases List.mem_cons.1 h with rfl | h
      · cases hopen
      · refine ⟨List.mem_cons_of_mem _ h, fun hid => hfirst ?_⟩
        have hmem : conflict.conflictId ∈ conflicts.map (·.conflictId) := List.mem_map_of_mem h
        rwa [hid, ← hsame] at hmem
    · next hne =>
      rcases List.mem_cons.1 h with rfl | h
      · exact ⟨List.mem_cons_self, hne⟩
      · obtain ⟨hmem, hid⟩ := ih hnodup h
        exact ⟨List.mem_cons_of_mem _ hmem, hid⟩

theorem map_ids_markResolved (conflicts : List Conflict) :
    (Operation.markResolved conflictId conflicts).map
        (fun conflict => (conflict.conflictId, conflict.itemId)) =
      conflicts.map fun conflict => (conflict.conflictId, conflict.itemId) := by
  induction conflicts with
  | nil => rfl
  | cons conflict conflicts ih =>
    unfold Operation.markResolved
    split
    · rfl
    · rw [List.map_cons, List.map_cons, ih]

theorem persisted_resolve (hlinked : Linked prim s.tables.toRows s.drawn)
    (hpersisted : Persisted prim s.tables.toRows s.drawn operation r)
    (hbefore : before = { operation with context := i.context })
    (admitted : ResolveAdmitted (s.core operation.operationId i.context operation r) i.context
      operation.operationId conflictId expectedVersion key choice content before conflict item)
    (incomplete : operation.state ≠ .reindexRequested)
    (resends : Resends i.env.toEnv i.context key before item choice s.transmissions.length content
      targets sent)
    (hafter : after = before.settle targets conflictId item.itemId)
    (hvalue : value.resolutionId = prim.tokens.id "sync-resolution" s.drawn)
    (hconflictId : value.conflictId = conflictId) (hreplayed : value.replayed = false)
    (entry : r'.idempotency = r.idempotency.set
      (operation.operationId, i.context.actorId, "resolution", key)
      (fingerprint, .resolution value))
    (grows : s.drawn < drawn) {n : Nat} :
    Persisted prim (s.tables.toRows.add (resolutionRows prim operation.operationId
      i.context.actorId key after targets value n)) drawn after r' := by
  have hidentity := settle_sameIdentity before targets conflictId item.itemId
  obtain ⟨-, -, -, approvedItemIds, snapshot, conflicts', targetVersions', completed⟩ :=
    settle_frame before targets conflictId item.itemId
  obtain ⟨batches, -⟩ := settle_history before targets conflictId item.itemId
  have hstate := settle_state before targets conflictId item.itemId
  rw [← hafter] at hidentity approvedItemIds snapshot conflicts' targetVersions' completed
  rw [← hafter] at batches hstate
  have hbeforePersisted : Persisted prim s.tables.toRows s.drawn before r :=
    hbefore ▸ hpersisted.context i.context
  have hid : before.operationId = operation.operationId := by rw [hbefore]
  have hmirrors := hbeforePersisted.mirrors
  rw [hid] at hmirrors
  have hconflict := List.mem_of_find?_eq_some (Operation.openConflict_same admitted.opened).1
  have hready : before.Ready item.itemId := by
    rw [hbeforePersisted.sound.named _ _ admitted.listed]
    exact hbeforePersisted.sound.conflicts _ hconflict
  have happroved := hbeforePersisted.sound.approved (List.ne_nil_of_mem hconflict)
  have hrequested : before.reindexRequested = false := by
    rw [← Bool.not_eq_true, hbeforePersisted.staged.requested, hbefore]
    exact incomplete
  have hsnapshot : after.approvalSnapshotId ≠ none := by
    rw [snapshot]
    exact happroved
  have hcalm : before.state ≠ .approved := fun hcalm =>
    List.ne_nil_of_mem hconflict (hbeforePersisted.staged.calm hcalm)
  have hitems : ∀ target ∈ targets, target.itemId = item.itemId := by
    intro target htarget
    have hsame := (newTarget_of_resends hbeforePersisted hconflict admitted.listed resends target
      htarget).2
    rw [hsame, hbeforePersisted.sound.named _ _ admitted.listed]
  have hids : (before.conflicts.map (·.conflictId)).Nodup := by
    have hmap : before.conflicts.map (·.conflictId) =
        (rowsOf (·.operationId) operation.operationId s.tables.conflicts).map (·.conflictId) := by
      have hfirst := congrArg (List.map Prod.fst) hmirrors.conflicts
      rw [List.map_map, List.map_map] at hfirst
      exact hfirst.symm
    rw [hmap]
    exact hlinked.conflictIds.sublist (List.filter_sublist.map _)
  refine ⟨?_, ⟨?_, ?_, ?_, ?_, ?_, ?_⟩, ?_, ?_, ?_, ?_, ?_⟩
  · rw [hafter]
    exact hbeforePersisted.sound.settle targets hready
  · refine iff_of_false ?_ hsnapshot
    rcases hstate with ⟨h, -⟩ | ⟨h, -⟩ <;> rw [h]
    · exact fun hawaiting => happroved (hbeforePersisted.staged.awaiting.1 hawaiting)
    · decide
  · exact fun hnone => absurd hnone hsnapshot
  · rcases hstate with ⟨h, hflag⟩ | ⟨h, hflag⟩ <;> rw [h, hflag]
    · exact hbeforePersisted.staged.requested
    · simp
  · intro hafterState
    rcases hstate with ⟨h, -⟩ | ⟨h, -⟩ <;> rw [h] at hafterState
    · exact absurd hafterState hcalm
    · cases hafterState
  · intro target htarget
    rw [targetVersions'] at htarget
    rw [completed]
    rcases List.mem_append.1 htarget with htarget | htarget
    · exact Finset.mem_insert_of_mem (hbeforePersisted.staged.made target htarget)
    · rw [hitems target htarget]
      exact Finset.mem_insert_self _ _
  · intro other hother
    rw [approvedItemIds]
    have hmem : other.itemId ∈ after.conflicts.map (·.itemId) := List.mem_map_of_mem hother
    rw [conflicts', map_itemId_markResolved] at hmem
    obtain ⟨old, hold, hsame⟩ := List.mem_map.1 hmem
    exact hsame ▸ hbeforePersisted.staged.contested old hold
  · rw [batches]
    exact hbeforePersisted.batches
  · rw [hidentity.operationId, hid]
    exact entries_record hpersisted grows.le rfl entry ⟨⟨rfl, hreplayed⟩, s.drawn, grows, hvalue⟩
  · exact fun hnone => absurd hnone hsnapshot
  · rw [hidentity.operationId, hid]
    refine hmirrors.add_own resolutionRows_owned ?_ ?_ ?_ ?_ ?_
    · simp [resolutionRows, snapshot]
    · simp [resolutionRows, approvedItemIds]
    · rw [conflicts', map_ids_markResolved]
      simp [resolutionRows]
    · simp [resolutionRows, targetVersions', targetRow]
    · simp [resolutionRows, batches]
  · intro other hother hopen row hrow hsame
    rw [conflicts'] at hother
    obtain ⟨hother, hne⟩ := of_mem_markResolved hids hother hopen
    rcases List.mem_append.1 hrow with hrow | hrow
    · exact hbeforePersisted.unsettled other hother hopen row hrow hsame
    · simp only [resolutionRows, List.mem_singleton] at hrow
      rw [hrow, hconflictId] at hsame
      exact hne hsame.symm

end Resolve

section Create

variable {targetArea : String} {items : List SyncItemInput}

theorem entriesOf_create (hid : operationId ≠ i.context.tenantId)
    (entries : r.idempotency = Dict.empty.set (i.context.tenantId, i.context.workspaceId,
      i.context.actorId, key) (fingerprint, .text operationId)) {found : Key}
    {value : String × Result} : (r.entriesOf operationId).get? found ≠ some value := by
  intro hget
  obtain ⟨hget, hfound⟩ := Dict.get?_filterKeys.1 hget
  have hfound : found.1 = operationId := by simpa using hfound
  rw [entries] at hget
  rcases Dict.of_get?_set hget with hold | ⟨rfl, -⟩
  · simp at hold
  · exact hid hfound.symm

theorem persisted_create (hconsistent : Consistent prim s) (hid : operationId ≠ i.context.tenantId)
    (entries : r.idempotency = Dict.empty.set (i.context.tenantId, i.context.workspaceId,
      i.context.actorId, key) (fingerprint, .text operationId))
    (free : s.tables.operations.get? operationId = none) (drawn : Nat)
    (hoperation : operation = newOperation prim operationId i.context targetArea items) :
    Persisted prim s.tables.toRows drawn operation (r.loaded operation) := by
  have howner : operationId ∉ s.tables.toRows.owners := fun howner =>
    hconsistent.owned operationId howner free
  have hempty : ∀ {key value}, (r.loaded operation).idempotency.get? key ≠ some value := by
    rw [hoperation]
    exact entriesOf_create hid entries
  refine ⟨?_, ?_, ?_, fun _ _ _ hget => absurd hget hempty, fun _ _ _ hget => absurd hget hempty,
    ?_, ?_⟩
  · rw [hoperation]
    exact newOperation_sound ..
  · rw [hoperation]
    refine ⟨?_, ?_, ?_, ?_, ?_, ?_⟩ <;> simp [newOperation]
  · simp [hoperation, newOperation]
  · rw [hoperation]
    exact .of_not_mem_owners howner operationId i.context targetArea items
  · simp [hoperation, newOperation]

end Create

end Steps

theorem consistent_next (h : Consistent prim s) (i : Input scope) :
    Consistent prim ((machine scope).next s i) := by
  have heffect := effect_next h i
  generalize (machine scope).answer s i = o at heffect
  generalize (machine scope).next s i = s' at heffect ⊢
  cases heffect with
  | unchanged tables grows => exact h.unchanged tables grows
  | @created targetArea items key ifMatch operationId entry _ r request drawn entries free tables
      grows =>
    obtain ⟨n, drawn⟩ := drawn
    have hid : operationId ≠ i.context.tenantId := by
      rw [drawn, i.inScope.1]
      exact scope.drawnLater n
    have hpersisted := persisted_create h hid entries free s'.drawn
      (rfl : newOperation prim operationId i.context targetArea items = _)
    have hrow : (createdRow (newOperation prim operationId i.context targetArea items) r key
        (createFingerprint prim targetArea items)).operationId = operationId := rfl
    refine h.create hrow
      (hydrate_dump hpersisted.sound.named hpersisted.batches ?_) tables grows
      (hpersisted.context _)
    intro key' fingerprint result hget hkey
    have hkey : key'.1 = operationId := hkey
    exact absurd (Dict.get?_filterKeys.2 ⟨hget, by simpa using hkey⟩) (entriesOf_create hid entries)
  | @approved operationId itemIds _ _ key _ row operation before after r r' snapshotId
      fingerprint _ request found hydrated hbefore admitted admissible _ hafter drawn entry
      written grows =>
    obtain ⟨rfl, -, hpersisted⟩ := h.hydrated found hydrated
    have hnew := persisted_approve hpersisted hbefore admitted admissible.first entry
      (Nat.le_of_succ_le grows)
    rw [← hafter] at hnew
    refine h.write found hydrated ?_ written (by omega) approvalRows_owned
      (linked_approve h.linked drawn grows) (by simp [approvalRows]) hnew
    rw [hafter, hbefore]
    exact ⟨rfl, rfl, rfl⟩
  | @transferred operationId _ key cursor payloads row operation before after r r' entries sent
      batchId fingerprint batch n _ request found hydrated hbefore admitted admissible _ sends
      hafter hbatch drawn hn entry written grows =>
    obtain ⟨rfl, -, hpersisted⟩ := h.hydrated found hydrated
    have hnew := persisted_transfer (n := n) hbatch sends drawn h.linked h hpersisted hbefore admitted
      admissible.incomplete hafter entry (by omega : s.drawn < s'.drawn)
    refine h.write found hydrated ?_ written (by omega) batchRows_owned
      (linked_transfer hbatch sends drawn h.linked hn grows) (by simp [batchRows]) hnew
    have hsame := transfer_sameIdentity before entries batchId cursor
    rw [hafter]
    exact ⟨hsame.operationId.trans (by rw [hbefore]), hsame.targetArea.trans (by rw [hbefore]),
      hsame.manifestDigest.trans (by rw [hbefore])⟩
  | @resolved operationId conflictId _ key choice content row operation before after r r'
      conflict item targets sent fingerprint value _ request found hydrated hbefore admitted
      admissible _ resends hafter result entry written grows =>
    obtain ⟨rfl, -, hpersisted⟩ := h.hydrated found hydrated
    have hnew := persisted_resolve (n := s.drawn + 1) h.linked hpersisted hbefore admitted
      admissible.incomplete resends hafter (by rw [result]) (by rw [result]) (by rw [result]) entry
      (by omega : s.drawn < s'.drawn)
    have hfind := (Operation.openConflict_same admitted.opened).1
    have hid : conflict.conflictId = value.conflictId := by
      rw [result]
      simpa using List.find?_some hfind
    have hconflict : conflict ∈ operation.conflicts := by
      have hmem := List.mem_of_find?_eq_some hfind
      rwa [hbefore] at hmem
    refine h.write found hydrated ?_ written (by omega) resolutionRows_owned
      (linked_resolve h.linked hpersisted hconflict hid (by rw [result]) grows) ?_ hnew
    · have hsame := settle_sameIdentity before targets conflictId item.itemId
      rw [hafter]
      exact ⟨hsame.operationId.trans (by rw [hbefore]), hsame.targetArea.trans (by rw [hbefore]),
        hsame.manifestDigest.trans (by rw [hbefore])⟩
    · simp only [resolutionRows, List.mem_singleton, forall_eq]
      exact ⟨conflict, hconflict, hid⟩

theorem consistent_run (is : List (Input scope)) : Consistent prim ((machine scope).run is) :=
  (machine scope).run_induction (I := Consistent prim) .init (fun _ i h => consistent_next h i) is

/-! ## Accepted and committed calls -/

theorem execute_mutates {i : Input scope} {operationId : String} (mutates : Mutates operationId i.request) :
    execute i = mutate prim i.env i.context operationId (serve prim i.core) := by
  unfold execute
  cases request : i.request <;> rw [request] at mutates <;> first | exact mutates.elim | skip
  all_goals
    obtain rfl := mutates
    rfl

/-- Every stored operation can be hydrated, and a call that `SyncService` accepts on it is committed
exactly when it is admissible. -/
theorem committed_iff (is : List (Input scope)) (i : Input scope) {operationId : String}
    {row : StoredOperation} (mutates : Mutates operationId i.request)
    (found : ((machine scope).run is).tables.operations.get? operationId = some row) :
    ∃ operation r, hydrate row.toOperationRow = .ok (operation, r) ∧
      ∀ reply, (Sync.machine prim).answer
          (((machine scope).run is).core operationId i.context operation r) i.core = .ok reply →
        ((machine scope).answer ((machine scope).run is) i = .ok reply ↔
          Admissible ((machine scope).run is) i operationId operation r) := by
  have hconsistent := consistent_run is
  obtain ⟨-, operation, r, hydrated, -⟩ := hconsistent.persisted operationId row found
  refine ⟨operation, r, hydrated, fun reply accepted => ?_⟩
  have hneeds := mutate_needs hconsistent mutates found hydrated accepted
  rw [← execute_mutates mutates] at hneeds
  exact hneeds.answer_iff fun answer s' hs' => hs'.1

namespace Sample

open Sync.Sample (primitives)

def workspace : Scope primitives where
  tenantId := "tenant"
  workspaceId := "workspace"
  drawnLater n := by
    intro h
    have hfirst := congrArg (fun text => text.toList.head?) h
    simp [TokenSource.id] at hfirst

/-- A call of the fixtures of `SyncService`. The port answers each question with another id, and nothing
else fails. -/
def stored (i : Sync.Input) : Input workspace where
  env := { port := fun asked => .ok (TokenSource.counting.hex asked, "cloud-object"),
           objects := fun _ => true, failure := none }
  context := Sync.Sample.context
  inScope := ⟨rfl, rfl⟩
  request := i.request

def approved : List (Input workspace) :=
  [stored Sync.Sample.preview, stored (Sync.Sample.approval "a" 1 "key-2")]

end Sample

theorem first_approval_committed : ∃ reply,
    (machine Sample.workspace).answer ((machine Sample.workspace).run [Sample.stored Sync.Sample.preview])
      (Sample.stored (Sync.Sample.approval "a" 1 "key-2")) = .ok reply := by
  have hstored : (((machine Sample.workspace).run
      [Sample.stored Sync.Sample.preview]).tables.operations.get? "sync-0").isSome = true := by
    decide
  obtain ⟨row, found⟩ := Option.isSome_iff_exists.1 hstored
  obtain ⟨operation, r, hydrated, hcommitted⟩ := committed_iff [Sample.stored Sync.Sample.preview]
    (Sample.stored (Sync.Sample.approval "a" 1 "key-2")) rfl found
  have hfixture : ∀ row ∈ ((machine Sample.workspace).run
        [Sample.stored Sync.Sample.preview]).tables.operations.get? "sync-0",
      ∀ loaded ∈ (hydrate row.toOperationRow).toOption,
        loaded.1.approvalSnapshotId = none ∧ ((Sync.machine Sync.Sample.primitives).answer
          (((machine Sample.workspace).run [Sample.stored Sync.Sample.preview]).core "sync-0"
            Sync.Sample.context loaded.1 loaded.2)
          (Sync.Sample.approval "a" 1 "key-2")).toOption.isSome = true := by
    decide
  obtain ⟨hfirst, haccepted⟩ := hfixture row found (operation, r) (by rw [hydrated]; rfl)
  obtain ⟨reply, hreply⟩ := Option.isSome_iff_exists.1 haccepted
  refine ⟨reply, (hcommitted reply (Call.ok_of_toOption hreply)).2 ⟨rfl, fun _ => ⟨hfirst, ?_⟩⟩⟩
  have hrows : ((machine Sample.workspace).run [Sample.stored Sync.Sample.preview]).tables.approvals =
      [] := List.isEmpty_iff.1 (by decide)
  simp [hrows]

theorem second_approval_refused :
    ¬∀ (is : List (Input Sample.workspace)) (i : Input Sample.workspace) (operationId : String)
        (row : StoredOperation) (operation : Operation) (r : Repository) (reply : Reply),
      Mutates operationId i.request →
      ((machine Sample.workspace).run is).tables.operations.get? operationId = some row →
      hydrate row.toOperationRow = .ok (operation, r) →
      (Sync.machine Sync.Sample.primitives).answer
          (((machine Sample.workspace).run is).core operationId i.context operation r) i.core =
        .ok reply →
      (machine Sample.workspace).answer ((machine Sample.workspace).run is) i = .ok reply := by
  intro h
  have hfixture : ∃ row ∈ ((machine Sample.workspace).run Sample.approved).tables.operations.get?
        "sync-0", ∃ loaded ∈ (hydrate row.toOperationRow).toOption,
        ((Sync.machine Sync.Sample.primitives).answer
          (((machine Sample.workspace).run Sample.approved).core "sync-0" Sync.Sample.context loaded.1
            loaded.2)
          (Sync.Sample.approval "b" 2 "key-3")).toOption.isSome = true := by
    decide +kernel
  have hrefused : ((machine Sample.workspace).answer ((machine Sample.workspace).run Sample.approved)
      (Sample.stored (Sync.Sample.approval "b" 2 "key-3"))).toOption.isSome = false := by
    decide +kernel
  obtain ⟨row, found, ⟨operation, r⟩, hydrated, haccepted⟩ := hfixture
  obtain ⟨reply, hreply⟩ := Option.isSome_iff_exists.1 haccepted
  rw [h Sample.approved (Sample.stored (Sync.Sample.approval "b" 2 "key-3")) "sync-0" row operation
    r reply rfl found (Call.ok_of_toOption hydrated) (Call.ok_of_toOption hreply)]
    at hrefused
  cases hrefused

end DaonUser.Sync.Postgres
