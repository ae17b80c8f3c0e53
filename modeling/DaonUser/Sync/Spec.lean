import DaonUser.Sync.Service

/-!
# Sync: what each call does

The checks of `approve`, `transfer_batch` and `resolve_conflict` as structures of named facts, and what the
calls write when these hold. `Sends` is the loop of `transfer_batch` as a relation. `effect_next` collects
the calls into one inductive; no later proof unfolds a call.
-/

namespace DaonUser.Sync

open Lib

variable {context : SyncContext} {operation : Operation} {α : Type} {s : System}

variable {prim : Primitives}

/-! ## Reads -/

theorem Repository.operation_eq_ok {r : Repository} {operationId : String} :
    r.operation context operationId = .ok operation ↔
      r.operations.get? operationId = some operation ∧
        operation.context.tenantId = context.tenantId ∧
        operation.context.workspaceId = context.workspaceId := by
  unfold Repository.operation
  cases h : r.operations.get? operationId with
  | none => simp
  | some found =>
    simp only [Option.some.injEq]
    split
    · next hscope =>
      simp only [reduceCtorEq, false_iff]
      rintro ⟨hfound, htenant, hworkspace⟩
      subst hfound
      exact hscope.elim (· htenant) (· hworkspace)
    · next hscope =>
      simp only [ne_eq, not_or, not_not] at hscope
      simp only [Except.ok.injEq]
      constructor
      · intro hfound
        subst hfound
        exact ⟨rfl, hscope⟩
      · exact fun h => h.1

theorem Repository.operation_unique {r : Repository} {operationId : String}
    (h : r.operation context operationId = .ok operation) :
    ∀ operation', r.operation context operationId = .ok operation' → operation' = operation :=
  fun _ h' => Except.ok.inj (h'.symm.trans h)

theorem Repository.replay_eq_none {r : Repository} {key : Key} {fingerprint : String} :
    r.replay key fingerprint = .ok none ↔ r.idempotency.get? key = none := by
  unfold Repository.replay
  split
  · next h => simp [h]
  · next h => split <;> simp [h]

/-- The checks of `_validate_write`. -/
structure Writable (key : String) (expectedVersion : ExpectedVersion) : Prop where
  key : isSafeId key = true
  version : expectedVersion.wellFormed = true

section Checks

variable {α : Type} {s : System} {Q : Except SyncError α → System → Prop}

theorem post_validateWrite {key : String} {expectedVersion : ExpectedVersion} {f : PUnit → Op α}
    (herror : ∀ e, ¬Writable key expectedVersion → Q (.error e) s)
    (hok : Writable key expectedVersion → Call.Post (f ⟨⟩) s Q) :
    Call.Post (validateWrite key expectedVersion >>= f) s Q := by
  rw [validateWrite, Call.bind_assoc]
  refine Call.post_ensure (fun h => herror _ fun hw => h hw.key) fun hkey => ?_
  exact Call.post_ensure (fun h => herror _ fun hw => h hw.version) fun hv => hok ⟨hkey, hv⟩

theorem post_replay {key : Key} {fingerprint : String} {f : Option Result → Op α}
    (herror : ∀ e, s.repository.idempotency.get? key ≠ none → Q (.error e) s)
    (hused : ∀ a, s.repository.idempotency.get? key ≠ none → Call.Post (f (some a)) s Q)
    (hfree : s.repository.idempotency.get? key = none → Call.Post (f none) s Q) :
    Call.Post (Call.query (·.repository.replay key fingerprint) >>= f) s Q := by
  have hne : ∀ {x}, s.repository.replay key fingerprint = x → x ≠ .ok none →
      s.repository.idempotency.get? key ≠ none := by
    rintro _ rfl hx hnone
    exact hx (Repository.replay_eq_none.2 hnone)
  refine Call.post_query (fun e h => herror e (hne h nofun)) fun a h => ?_
  cases a with
  | none => exact hfree (Repository.replay_eq_none.1 h)
  | some a => exact hused a (hne h nofun)

theorem post_draw {kind : String} {f : String → Op α}
    (h : Call.Post (f (prim.tokens.id kind s.drawn)) { s with drawn := s.drawn + 1 } Q) :
    Call.Post (draw prim kind >>= f) s Q := h

end Checks

/-! ## The loop of `transfer_batch` -/

inductive Entry where
  | conflict (value : Conflict)
  | target (value : TargetVersion)

def Operation.enter (operation : Operation) : Entry → Operation
  | .conflict value => operation.addConflict value
  | .target value => operation.addTarget value.itemId value

def Operation.enterAll (operation : Operation) (entries : List Entry) : Operation :=
  entries.foldl Operation.enter operation

def conflictsOf : List Entry → List Conflict
  | [] => []
  | .conflict value :: entries => value :: conflictsOf entries
  | .target _ :: entries => conflictsOf entries

def targetsOf : List Entry → List TargetVersion
  | [] => []
  | .conflict _ :: entries => targetsOf entries
  | .target value :: entries => value :: targetsOf entries

def batchTransmission (context : SyncContext) (key : String) (operation : Operation)
    (item : SyncItemInput) (payload : TransferPayload) : Transmission where
  operationId := operation.operationId
  approved := operation.approvedItemIds
  context := context
  item := item
  content := payload.content
  idempotencyKey := key ++ ":" ++ item.itemId
  relation := "copy"

def newTarget (item : SyncItemInput) (relation : String) (ids : String × String) :
    TargetVersion where
  targetVersionId := ids.1
  targetObjectId := ids.2
  itemId := item.itemId
  digestSha256 := item.digestSha256
  previousCloudVersionId := item.baseCloudVersionId
  relation := relation

/-- The item of the payload is the next one: not completed, with its dependencies completed. -/
structure Due (operation : Operation) (payload : TransferPayload) (item : SyncItemInput) :
    Prop where
  pending : payload.itemId ∉ operation.completedItemIds
  listed : operation.items.get? payload.itemId = some item
  dependencies : ∀ d ∈ item.dependencyItemIds, d ∈ operation.completedItemIds

/-- The loop, after `drawn` tokens and `asked` questions: the entries it makes, its questions, and
the error that stops it, if any. -/
inductive Sends (prim : Primitives) (env : Env) (context : SyncContext) (key : String) :
    Operation → Nat → Nat → List TransferPayload → List Entry → List Transmission →
      Option SyncError → Prop where
  | done {operation : Operation} {drawn asked : Nat} :
      Sends prim env context key operation drawn asked [] [] [] none
  | skipped {operation : Operation} {drawn asked : Nat} {payload : TransferPayload}
      {payloads : List TransferPayload} {entries : List Entry} {sent : List Transmission}
      {stopped : Option SyncError}
      (completed : payload.itemId ∈ operation.completedItemIds)
      (rest : Sends prim env context key operation drawn asked payloads entries sent stopped) :
      Sends prim env context key operation drawn asked (payload :: payloads) entries sent stopped
  | denied {operation : Operation} {drawn asked : Nat} {payload : TransferPayload}
      {payloads : List TransferPayload} {e : SyncError}
      (pending : payload.itemId ∉ operation.completedItemIds)
      (blocked : ∀ item, ¬Due operation payload item) :
      Sends prim env context key operation drawn asked (payload :: payloads) [] [] (some e)
  | conflict {operation : Operation} {drawn asked : Nat} {payload : TransferPayload}
      {payloads : List TransferPayload} {entries : List Entry} {sent : List Transmission}
      {stopped : Option SyncError} {item : SyncItemInput}
      (due : Due operation payload item) (differs : payload.current ≠ item.base)
      (rest : Sends prim env context key
        (operation.addConflict (newConflict (prim.tokens.id "sync-conflict" drawn) item payload))
        (drawn + 1) asked payloads entries sent stopped) :
      Sends prim env context key operation drawn asked (payload :: payloads)
        (.conflict (newConflict (prim.tokens.id "sync-conflict" drawn) item payload) :: entries)
        sent stopped
  | refused {operation : Operation} {drawn asked : Nat} {payload : TransferPayload}
      {payloads : List TransferPayload} {item : SyncItemInput} {e : SyncError}
      (due : Due operation payload item) (same : payload.current = item.base)
      (port : env.port asked = .error e) :
      Sends prim env context key operation drawn asked (payload :: payloads) []
        [batchTransmission context key operation item payload] (some e)
  | target {operation : Operation} {drawn asked : Nat} {payload : TransferPayload}
      {payloads : List TransferPayload} {entries : List Entry} {sent : List Transmission}
      {stopped : Option SyncError} {item : SyncItemInput} {ids : String × String}
      (due : Due operation payload item) (same : payload.current = item.base)
      (port : env.port asked = .ok ids)
      (rest : Sends prim env context key
        (operation.addTarget item.itemId (newTarget item "copy" ids)) drawn (asked + 1) payloads
        entries sent stopped) :
      Sends prim env context key operation drawn asked (payload :: payloads)
        (.target (newTarget item "copy" ids) :: entries)
        (batchTransmission context key operation item payload :: sent) stopped

/-- The operations, the idempotency table, the tokens and the questions that a call leaves. -/
structure Leaves (s : System) (operations : Dict String Operation)
    (idempotency : Dict Key (String × Result)) (drawn : Nat)
    (transmissions : List Transmission) : Prop where
  operations : s.repository.operations = operations
  idempotency : s.repository.idempotency = idempotency
  drawn : s.drawn = drawn
  transmissions : s.transmissions = transmissions

@[simp] theorem enterAll_nil (operation : Operation) : operation.enterAll [] = operation := rfl

@[simp] theorem enterAll_cons (operation : Operation) (entry : Entry) (entries : List Entry) :
    operation.enterAll (entry :: entries) = (operation.enter entry).enterAll entries := rfl

section Frame

variable (operation : Operation) (entries : List Entry)

theorem enterAll_frame :
    (operation.enterAll entries).operationId = operation.operationId ∧
      (operation.enterAll entries).context = operation.context ∧
      (operation.enterAll entries).items = operation.items ∧
      (operation.enterAll entries).state = operation.state ∧
      (operation.enterAll entries).version = operation.version ∧
      (operation.enterAll entries).approvedItemIds = operation.approvedItemIds ∧
      (operation.enterAll entries).approvalSnapshotId = operation.approvalSnapshotId ∧
      (operation.enterAll entries).batches = operation.batches ∧
      (operation.enterAll entries).reindexRequested = operation.reindexRequested := by
  induction entries generalizing operation with
  | nil => simp
  | cons entry entries ih => cases entry <;> exact ih _

theorem conflicts_enterAll :
    (operation.enterAll entries).conflicts = operation.conflicts ++ conflictsOf entries := by
  induction entries generalizing operation with
  | nil => simp [conflictsOf]
  | cons entry entries ih =>
    rw [enterAll_cons, ih]
    cases entry <;> simp [Operation.enter, Operation.addConflict, Operation.addTarget, conflictsOf]

theorem targetVersions_enterAll :
    (operation.enterAll entries).targetVersions = operation.targetVersions ++ targetsOf entries := by
  induction entries generalizing operation with
  | nil => simp [targetsOf]
  | cons entry entries ih =>
    rw [enterAll_cons, ih]
    cases entry <;> simp [Operation.enter, Operation.addConflict, Operation.addTarget, targetsOf]

theorem mem_completed_enterAll {itemId : String} :
    itemId ∈ (operation.enterAll entries).completedItemIds ↔
      itemId ∈ operation.completedItemIds ∨ ∃ target ∈ targetsOf entries, target.itemId = itemId := by
  induction entries generalizing operation with
  | nil => simp [targetsOf]
  | cons entry entries ih =>
    rw [enterAll_cons, ih]
    cases entry with
    | conflict value => simp [Operation.enter, Operation.addConflict, targetsOf]
    | target value =>
      simp only [Operation.enter, Operation.addTarget, Finset.mem_insert, targetsOf,
        List.mem_cons, exists_eq_or_imp, eq_comm (a := itemId)]
      tauto

end Frame

/-- How the loop ends, when it starts in `s` with `operation`. -/
def LoopEnds (prim : Primitives) (env : Env) (context : SyncContext) (operationId key : String)
    (payloads : List TransferPayload) (transferred conflictIds : List String) (s : System)
    (operation : Operation) (o : Except SyncError (List String × List String)) (s' : System) :
    Prop :=
  ∃ entries sent stopped,
    Sends prim env context key operation s.drawn s.transmissions.length payloads entries sent
      stopped ∧
    Leaves s' (s.repository.operations.set operationId (operation.enterAll entries))
      s.repository.idempotency (s.drawn + (conflictsOf entries).length)
      (s.transmissions ++ sent) ∧
    o = match stopped with
      | none => .ok (transferred ++ (targetsOf entries).map (·.itemId),
          conflictIds ++ (conflictsOf entries).map (·.conflictId))
      | some e => .error e

theorem post_current {operationId : String} {f : Operation → Op α} {Q : Except SyncError α → System → Prop}
    (found : s.repository.operations.get? operationId = some operation)
    (h : Call.Post (f operation) s Q) : Call.Post (current operationId >>= f) s Q := by
  refine Call.post_query (fun e he => ?_) fun a ha => ?_
  · simp [found] at he
  · simp only [found, Except.ok.injEq] at ha
    subst ha
    exact h

theorem post_itemOf {itemId : String} {f : SyncItemInput → Op α} {Q : Except SyncError α → System → Prop}
    (herror : ∀ e, operation.items.get? itemId = none → Q (.error e) s)
    (hok : ∀ item, operation.items.get? itemId = some item → Call.Post (f item) s Q) :
    Call.Post (itemOf operation itemId >>= f) s Q := by
  refine Call.post_query (fun e h => ?_) fun item h => ?_
  · cases hitem : operation.items.get? itemId with
    | none => exact herror e hitem
    | some item => simp [hitem] at h
  · cases hitem : operation.items.get? itemId with
    | none => simp [hitem] at h
    | some found =>
      simp only [hitem, Except.ok.injEq] at h
      subst h
      exact hok found hitem

def System.ask (s : System) (transmission : Transmission) : System :=
  { s with transmissions := s.transmissions ++ [transmission] }

theorem post_transmit {env : Env} {item : SyncItemInput} {content : List UInt8} {key relation : String}
    {f : TargetVersion → Op α} {Q : Except SyncError α → System → Prop}
    (herror : ∀ e, env.port s.transmissions.length = .error e →
      Q (.error e) (s.ask ⟨operation.operationId, operation.approvedItemIds, context, item,
        content, key, relation⟩))
    (hok : ∀ ids, env.port s.transmissions.length = .ok ids →
      Call.Post (f (newTarget item relation ids)) (s.ask ⟨operation.operationId,
        operation.approvedItemIds, context, item, content, key, relation⟩) Q) :
    Call.Post (transmit env operation context item content key relation >>= f) s Q := by
  rw [transmit, Call.bind_assoc]
  apply Call.post_get
  rw [Call.bind_assoc]
  apply Call.post_modify
  rw [Call.bind_assoc]
  exact Call.post_query herror hok

theorem sendPayloads_spec (env : Env) (context : SyncContext) (operationId key : String)
    (payloads : List TransferPayload) :
    ∀ (transferred conflictIds : List String) (s : System) (operation : Operation),
      s.repository.operations.get? operationId = some operation →
      Call.Post (sendPayloads prim env context operationId key payloads transferred conflictIds) s
        (LoopEnds prim env context operationId key payloads transferred conflictIds s
          operation) := by
  induction payloads with
  | nil =>
    intro transferred conflictIds s operation found
    refine ⟨[], [], none, .done, ⟨?_, rfl, rfl, (List.append_nil _).symm⟩, ?_⟩
    · exact (Dict.set_of_get? found).symm
    · simp only [targetsOf, conflictsOf, List.map_nil, List.append_nil]
      rfl
  | cons payload payloads ih =>
    intro transferred conflictIds s operation found
    have hstay : s.repository.operations.set operationId operation = s.repository.operations :=
      Dict.set_of_get? found
    have hdenied : ∀ e, payload.itemId ∉ operation.completedItemIds →
        (∀ item, ¬Due operation payload item) →
        LoopEnds prim env context operationId key (payload :: payloads) transferred conflictIds s
          operation (.error e) s := by
      intro e pending blocked
      exact ⟨[], [], some e, .denied pending blocked,
        ⟨hstay.symm, rfl, rfl, (List.append_nil _).symm⟩, rfl⟩
    apply post_current found
    split
    · next completed =>
      refine (ih transferred conflictIds s operation found).mono ?_
      rintro o s' ⟨entries, sent, stopped, sends, leaves, ho⟩
      exact ⟨entries, sent, stopped, .skipped completed sends, leaves, ho⟩
    · next pending =>
      refine post_itemOf (fun e unlisted => hdenied e pending fun item due => ?_)
        fun item listed => ?_
      · rw [due.listed] at unlisted
        cases unlisted
      refine Call.post_ensure (fun missing => hdenied _ pending fun item' due => missing ?_)
        fun dependencies => ?_
      · obtain rfl : item' = item := Option.some.inj (due.listed.symm.trans listed)
        exact due.dependencies
      have due : Due operation payload item := ⟨pending, listed, dependencies⟩
      split
      · next differs =>
        refine post_draw (Call.post_modify ?_)
        refine (ih _ _ _ (operation.addConflict (newConflict
          (prim.tokens.id "sync-conflict" s.drawn) item payload)) ?_).mono ?_
        · change (s.repository.operations.update operationId _).get? operationId = _
          rw [Dict.update_of_get? found, Dict.get?_set_self]
        rintro o s' ⟨entries, sent, stopped, sends, leaves, ho⟩
        refine ⟨_, sent, stopped, .conflict due differs sends, ⟨?_, leaves.idempotency, ?_,
          leaves.transmissions⟩, ?_⟩
        · rw [leaves.operations]
          change (s.repository.operations.update operationId _).set operationId _ = _
          rw [Dict.update_of_get? found, Dict.set_set]
          rfl
        · rw [leaves.drawn]
          simp only [conflictsOf, List.length_cons, System.mapRepository]
          omega
        · rw [ho]
          cases stopped <;>
            simp [conflictsOf, targetsOf, newConflict]
      · next same =>
        rw [ne_eq, not_not] at same
        refine post_transmit (fun e port => ?_) fun ids port => ?_
        · exact ⟨[], _, some e, .refused due same port, ⟨hstay.symm, rfl, rfl, rfl⟩, rfl⟩
        refine Call.post_modify ?_
        refine (ih _ _ _ (operation.addTarget item.itemId (newTarget item "copy" ids)) ?_).mono ?_
        · change (s.repository.operations.update operationId _).get? operationId = _
          rw [Dict.update_of_get? found, Dict.get?_set_self]
        rintro o s' ⟨entries, sent, stopped, sends, leaves, ho⟩
        refine ⟨.target (newTarget item "copy" ids) :: entries,
          batchTransmission context key operation item payload :: sent, stopped,
          .target due same port ?_, ⟨?_, leaves.idempotency, leaves.drawn, ?_⟩, ?_⟩
        · simpa [System.ask, System.mapRepository] using sends
        · rw [leaves.operations]
          change (s.repository.operations.update operationId _).set operationId _ = _
          rw [Dict.update_of_get? found, Dict.set_set]
          rfl
        · rw [leaves.transmissions]
          simp [System.ask, System.mapRepository, batchTransmission]
        · rw [ho]
          cases stopped <;> simp [conflictsOf, targetsOf, newTarget]

/-! ## The checks of the calls -/

structure CreateAdmitted (s : System) (context : SyncContext) (targetArea : String)
    (items : List SyncItemInput) (key : String) (ifMatch : ExpectedVersion) : Prop where
  writable : Writable key ifMatch
  preview : ifMatch = .any ∧ targetArea = "cloud_sync" ∧ items ≠ []
  distinct : (byId items).entries.length = items.length
  fresh : s.repository.idempotency.get? (context.tenantId, context.workspaceId, context.actorId,
    key) = none

structure ApproveAdmitted (s : System) (context : SyncContext) (operationId : String)
    (approvedItemIds : List String) (stepUp : String) (expectedVersion : ExpectedVersion)
    (key : String) (verified : Bool) (operation : Operation) : Prop where
  writable : Writable key expectedVersion
  steppedUp : verified = true ∧ stepUp ≠ ""
  found : s.repository.operation context operationId = .ok operation
  fresh : s.repository.idempotency.get? (operationId, context.actorId, "approve", key) = none
  current : expectedVersion = .version operation.version
  scope : approvedItemIds.eraseDups ≠ [] ∧
    ∀ itemId ∈ approvedItemIds.eraseDups, operation.items.get? itemId ≠ none
  closed : operation.ClosedUnder approvedItemIds.eraseDups

structure TransferAdmitted (s : System) (context : SyncContext) (operationId : String)
    (expectedVersion : ExpectedVersion) (key : String) (payloads : List TransferPayload)
    (operation : Operation) : Prop where
  writable : Writable key expectedVersion
  batch : payloads ≠ []
  found : s.repository.operation context operationId = .ok operation
  fresh : s.repository.idempotency.get? (operationId, context.actorId, "transfer", key) = none
  approved : operation.approvalSnapshotId ≠ none
  current : expectedVersion = .version operation.version
  scope : ∀ payload ∈ payloads, payload.itemId ∈ operation.approvedItemIds

structure ResolveAdmitted (s : System) (context : SyncContext) (operationId conflictId : String)
    (expectedVersion : ExpectedVersion) (key : String) (choice : ConflictResolutionChoice)
    (content : Option (List UInt8)) (operation : Operation) (conflict : Conflict)
    (item : SyncItemInput) : Prop where
  writable : Writable key expectedVersion
  found : s.repository.operation context operationId = .ok operation
  fresh : s.repository.idempotency.get? (operationId, context.actorId, "resolution", key) = none
  current : expectedVersion = .version operation.version
  opened : operation.openConflict conflictId = .ok conflict
  listed : operation.items.get? conflict.itemId = some item
  content : choice.Transmits → content ≠ none

theorem ResolveAdmitted.unique
    {operationId conflictId : String} {expectedVersion : ExpectedVersion} {key : String}
    {choice : ConflictResolutionChoice} {content : Option (List UInt8)}
    {operation' : Operation} {conflict conflict' : Conflict} {item item' : SyncItemInput}
    (h : ResolveAdmitted s context operationId conflictId expectedVersion key choice content
      operation conflict item)
    (h' : ResolveAdmitted s context operationId conflictId expectedVersion key choice content
      operation' conflict' item') :
    operation' = operation ∧ conflict' = conflict ∧ item' = item := by
  obtain rfl : operation' = operation := Except.ok.inj (h'.found.symm.trans h.found)
  obtain rfl : conflict' = conflict := Except.ok.inj (h'.opened.symm.trans h.opened)
  exact ⟨rfl, rfl, Option.some.inj (h'.listed.symm.trans h.listed)⟩

def resolutionTransmission (context : SyncContext) (key : String) (operation : Operation)
    (item : SyncItemInput) (choice : ConflictResolutionChoice) (content : List UInt8) :
    Transmission where
  operationId := operation.operationId
  approved := operation.approvedItemIds
  context := context
  item := item
  content := content
  idempotencyKey := key ++ ":" ++ item.itemId
  relation := choice.value

inductive Resends (env : Env) (context : SyncContext) (key : String) (operation : Operation)
    (item : SyncItemInput) (choice : ConflictResolutionChoice) (asked : Nat) :
    Option (List UInt8) → List TargetVersion → List Transmission → Prop where
  | none {content : Option (List UInt8)} (keeps : ¬choice.Transmits) :
      Resends env context key operation item choice asked content [] []
  | target {content : List UInt8} {ids : String × String} (transmits : choice.Transmits)
      (port : env.port asked = .ok ids) :
      Resends env context key operation item choice asked (some content)
        [newTarget item choice.value ids]
        [resolutionTransmission context key operation item choice content]

/-- The call is a new write that passes its checks. -/
def Admitted (s : System) (i : Input) : Prop :=
  match i.request with
  | .createOperation targetArea items key ifMatch =>
    CreateAdmitted s i.context targetArea items key ifMatch
  | .getOperation _ => False
  | .approve operationId approvedItemIds stepUp expectedVersion key verified =>
    ∃ operation, ApproveAdmitted s i.context operationId approvedItemIds stepUp expectedVersion key
      verified operation
  | .transferBatch operationId expectedVersion key _ payloads =>
    ∃ operation, TransferAdmitted s i.context operationId expectedVersion key payloads operation
  | .resolveConflict operationId conflictId expectedVersion key choice content =>
    ∃ operation conflict item, ResolveAdmitted s i.context operationId conflictId expectedVersion
      key choice content operation conflict item

/-! ## One step of the machine -/

/-- The operation that a `transfer_batch` leaves. -/
def Operation.transfer (operation : Operation) (entries : List Entry) (batchId : String)
    (cursor : Option String) : Operation :=
  (operation.enterAll entries).recordBatch (newBatch (operation.enterAll entries) batchId cursor
    ((targetsOf entries).map (·.itemId)) ((conflictsOf entries).map (·.conflictId)))

/-- The operation that a `resolve_conflict` leaves. -/
def Operation.settle (operation : Operation) (targets : List TargetVersion)
    (conflictId itemId : String) : Operation :=
  { operation with targetVersions := operation.targetVersions ++ targets }.resolve conflictId
    itemId

/-- What a call answers and leaves. -/
inductive Effect (prim : Primitives) (s : System) (i : Input) : Outcome → System → Prop where
  | unchanged {o : Outcome} {s' : System} (refused : ¬Admitted s i)
      (leaves : Leaves s' s.repository.operations s.repository.idempotency s.drawn
        s.transmissions) :
      Effect prim s i o s'
  | created {targetArea : String} {items : List SyncItemInput} {key : String}
      {ifMatch : ExpectedVersion} {operationId fingerprint : String} {s' : System}
      (request : i.request = .createOperation targetArea items key ifMatch)
      (admitted : CreateAdmitted s i.context targetArea items key ifMatch)
      (drawn : operationId = prim.tokens.id "sync" s.drawn)
      (leaves : Leaves s'
        (s.repository.operations.set operationId
          (newOperation prim operationId i.context targetArea items))
        (s.repository.idempotency.set (i.context.tenantId, i.context.workspaceId,
          i.context.actorId, key) (fingerprint, .text operationId))
        (s.drawn + 1) s.transmissions) :
      Effect prim s i
        (.ok (.operation (view (newOperation prim operationId i.context targetArea items)))) s'
  | approved {operationId : String} {approvedItemIds : List String} {stepUp : String}
      {expectedVersion : ExpectedVersion} {key : String} {verified : Bool} {operation : Operation}
      {snapshotId : String} {s' : System}
      (request : i.request =
        .approve operationId approvedItemIds stepUp expectedVersion key verified)
      (admitted : ApproveAdmitted s i.context operationId approvedItemIds stepUp expectedVersion
        key verified operation)
      (drawn : snapshotId = prim.tokens.id "sync-approval" s.drawn)
      (leaves : Leaves s'
        (s.repository.operations.set operationId
          (operation.approve approvedItemIds.eraseDups snapshotId))
        (s.repository.idempotency.set (operationId, i.context.actorId, "approve", key)
          (approveFingerprint prim operationId approvedItemIds stepUp expectedVersion,
            .text snapshotId))
        (s.drawn + 1) s.transmissions) :
      Effect prim s i
        (.ok (.operation (view (operation.approve approvedItemIds.eraseDups snapshotId)))) s'
  | transferred {operationId : String} {expectedVersion : ExpectedVersion} {key : String}
      {cursor : Option String} {payloads : List TransferPayload} {operation : Operation}
      {entries : List Entry} {sent : List Transmission} {batchId : String} {s' : System}
      (request : i.request = .transferBatch operationId expectedVersion key cursor payloads)
      (admitted : TransferAdmitted s i.context operationId expectedVersion key payloads operation)
      (sends : Sends prim i.env i.context key operation (s.drawn + 1) s.transmissions.length
        payloads entries sent none)
      (drawn : batchId = prim.tokens.id "sync-batch" s.drawn)
      (leaves : Leaves s'
        (s.repository.operations.set operationId (operation.transfer entries batchId cursor))
        (s.repository.idempotency.set (operationId, i.context.actorId, "transfer", key)
          (transferFingerprint prim operationId expectedVersion cursor payloads, .text batchId))
        (s.drawn + 1 + (conflictsOf entries).length) (s.transmissions ++ sent)) :
      Effect prim s i
        (.ok (.batch (newBatch (operation.enterAll entries) batchId cursor
          ((targetsOf entries).map (·.itemId)) ((conflictsOf entries).map (·.conflictId))))) s'
  | interrupted {operationId : String} {expectedVersion : ExpectedVersion} {key : String}
      {cursor : Option String} {payloads : List TransferPayload} {operation : Operation}
      {entries : List Entry} {sent : List Transmission} {e : SyncError} {s' : System}
      (request : i.request = .transferBatch operationId expectedVersion key cursor payloads)
      (admitted : TransferAdmitted s i.context operationId expectedVersion key payloads operation)
      (sends : Sends prim i.env i.context key operation (s.drawn + 1) s.transmissions.length
        payloads entries sent (some e))
      (leaves : Leaves s'
        (s.repository.operations.set operationId (operation.enterAll entries))
        s.repository.idempotency (s.drawn + 1 + (conflictsOf entries).length)
        (s.transmissions ++ sent)) :
      Effect prim s i (.error e) s'
  | resolved {operationId conflictId : String} {expectedVersion : ExpectedVersion} {key : String}
      {choice : ConflictResolutionChoice} {content : Option (List UInt8)} {operation : Operation}
      {conflict : Conflict} {item : SyncItemInput} {targets : List TargetVersion}
      {sent : List Transmission} {resolution : ConflictResolutionView} {s' : System}
      (request : i.request =
        .resolveConflict operationId conflictId expectedVersion key choice content)
      (admitted : ResolveAdmitted s i.context operationId conflictId expectedVersion key choice
        content operation conflict item)
      (resends : Resends i.env i.context key operation item choice s.transmissions.length content
        targets sent)
      (result : resolution = ⟨prim.tokens.id "sync-resolution" s.drawn, conflictId, choice,
        targets.head?.map (·.targetVersionId), false⟩)
      (leaves : Leaves s'
        (s.repository.operations.set operationId
          (operation.settle targets conflictId item.itemId))
        (s.repository.idempotency.set (operationId, i.context.actorId, "resolution", key)
          (resolveFingerprint prim operationId conflictId expectedVersion choice content,
            .resolution resolution))
        (s.drawn + 1) (s.transmissions ++ sent)) :
      Effect prim s i (.ok (.resolution resolution)) s'
  | unanswered {operationId conflictId : String} {expectedVersion : ExpectedVersion} {key : String}
      {choice : ConflictResolutionChoice} {content : List UInt8} {operation : Operation}
      {conflict : Conflict} {item : SyncItemInput} {e : SyncError} {s' : System}
      (request : i.request =
        .resolveConflict operationId conflictId expectedVersion key choice (some content))
      (admitted : ResolveAdmitted s i.context operationId conflictId expectedVersion key choice
        (some content) operation conflict item)
      (transmits : choice.Transmits) (port : i.env.port s.transmissions.length = .error e)
      (leaves : Leaves s' s.repository.operations s.repository.idempotency s.drawn
        (s.transmissions ++ [resolutionTransmission i.context key operation item choice content])) :
      Effect prim s i (.error e) s'

theorem Leaves.refl (s : System) :
    Leaves s s.repository.operations s.repository.idempotency s.drawn s.transmissions :=
  ⟨rfl, rfl, rfl, rfl⟩

theorem Leaves.appendNil {operations : Dict String Operation}
    {idempotency : Dict Key (String × Result)} {drawn : Nat} {transmissions : List Transmission}
    (h : Leaves s operations idempotency drawn transmissions) :
    Leaves s operations idempotency drawn (transmissions ++ []) := by
  rwa [List.append_nil]

section Calls

variable (prim) (env : Env) (context : SyncContext) (s : System)

theorem createOperation_effect (targetArea : String) (items : List SyncItemInput) (key : String)
    (ifMatch : ExpectedVersion) :
    Call.Post (createOperation prim context targetArea items key ifMatch) s fun o s' =>
      Effect prim s ⟨env, context, .createOperation targetArea items key ifMatch⟩
        (o.map .operation) s' := by
  refine post_validateWrite (fun _ h => ?_) fun writable => ?_
  · exact .unchanged (fun admitted => h admitted.writable) (.refl s)
  refine Call.post_ensure (fun h => ?_) fun preview => ?_
  · exact .unchanged (fun admitted => h admitted.preview) (.refl s)
  refine Call.post_ensure (fun h => ?_) fun distinct => ?_
  · exact .unchanged (fun admitted => h admitted.distinct) (.refl s)
  refine post_replay (fun _ h => ?_) (fun result h => ?_) fun fresh => ?_
  · exact .unchanged (fun admitted => h admitted.fresh) (.refl s)
  · have hused : ¬Admitted s ⟨env, context, .createOperation targetArea items key ifMatch⟩ :=
      fun admitted => h admitted.fresh
    exact Call.post_query (fun _ _ => .unchanged hused (.refl s))
      fun _ _ => .unchanged hused (.refl s)
  refine post_draw (Call.post_modify (Call.post_modify (Call.post_modify ?_)))
  exact .created rfl ⟨writable, preview, distinct, fresh⟩ rfl ⟨rfl, rfl, rfl, rfl⟩

theorem approve_effect (operationId : String) (approvedItemIds : List String) (stepUp : String)
    (expectedVersion : ExpectedVersion) (key : String) (verified : Bool) :
    Call.Post (approve prim context operationId approvedItemIds stepUp expectedVersion key
      verified) s fun o s' =>
      Effect prim s
        ⟨env, context, .approve operationId approvedItemIds stepUp expectedVersion key verified⟩
        (o.map .operation) s' := by
  refine post_validateWrite (fun _ h => ?_) fun writable => ?_
  · exact .unchanged (fun ⟨_, admitted⟩ => h admitted.writable) (.refl s)
  refine Call.post_ensure (fun h => ?_) fun steppedUp => ?_
  · exact .unchanged (fun ⟨_, admitted⟩ => h admitted.steppedUp) (.refl s)
  refine Call.post_query (fun e h => ?_) fun operation found => ?_
  · refine .unchanged (fun ⟨_, admitted⟩ => ?_) (.refl s)
    cases h.symm.trans admitted.found
  refine post_replay (fun _ h => ?_) (fun result h => ?_) fun fresh => ?_
  · exact .unchanged (fun ⟨_, admitted⟩ => h admitted.fresh) (.refl s)
  · exact .unchanged (fun ⟨_, admitted⟩ => h admitted.fresh) (.refl s)
  have hsame := Repository.operation_unique found
  refine Call.post_ensure (fun h => ?_) fun current => ?_
  · refine .unchanged (fun ⟨operation', admitted⟩ => h ?_) (.refl s)
    exact hsame operation' admitted.found ▸ admitted.current
  refine Call.post_ensure (fun h => ?_) fun scope => ?_
  · refine .unchanged (fun ⟨operation', admitted⟩ => h ?_) (.refl s)
    exact hsame operation' admitted.found ▸ admitted.scope
  refine Call.post_ensure (fun h => ?_) fun closed => ?_
  · refine .unchanged (fun ⟨operation', admitted⟩ => h ?_) (.refl s)
    exact hsame operation' admitted.found ▸ admitted.closed
  refine post_draw (Call.post_modify (Call.post_modify (Call.post_modify ?_)))
  refine .approved rfl ⟨writable, steppedUp, found, fresh, current, scope, closed⟩ rfl
    ⟨?_, rfl, rfl, rfl⟩
  exact Dict.update_of_get? (Repository.operation_eq_ok.1 found).1 _

theorem transferBatch_effect (operationId : String) (expectedVersion : ExpectedVersion)
    (key : String) (cursor : Option String) (payloads : List TransferPayload) :
    Call.Post (transferBatch prim env context operationId expectedVersion key cursor payloads) s
      fun o s' =>
      Effect prim s
        ⟨env, context, .transferBatch operationId expectedVersion key cursor payloads⟩
        (o.map .batch) s' := by
  refine post_validateWrite (fun _ h => ?_) fun writable => ?_
  · exact .unchanged (fun ⟨_, admitted⟩ => h admitted.writable) (.refl s)
  refine Call.post_ensure (fun h => ?_) fun batch => ?_
  · exact .unchanged (fun ⟨_, admitted⟩ => h admitted.batch) (.refl s)
  refine Call.post_query (fun e h => ?_) fun operation found => ?_
  · refine .unchanged (fun ⟨_, admitted⟩ => ?_) (.refl s)
    cases h.symm.trans admitted.found
  refine post_replay (fun _ h => ?_) (fun result h => ?_) fun fresh => ?_
  · exact .unchanged (fun ⟨_, admitted⟩ => h admitted.fresh) (.refl s)
  · exact .unchanged (fun ⟨_, admitted⟩ => h admitted.fresh) (.refl s)
  have hsame := Repository.operation_unique found
  refine Call.post_ite (fun unapproved => Call.post_modify (Call.post_raise ?_)) fun approved => ?_
  · refine .unchanged (fun ⟨operation', admitted⟩ => ?_) ⟨rfl, rfl, rfl, rfl⟩
    exact admitted.approved (hsame operation' admitted.found ▸ unapproved)
  refine Call.post_ensure (fun h => ?_) fun current => ?_
  · refine .unchanged (fun ⟨operation', admitted⟩ => h ?_) (.refl s)
    exact hsame operation' admitted.found ▸ admitted.current
  refine Call.post_ensure (fun h => ?_) fun scope => ?_
  · refine .unchanged (fun ⟨operation', admitted⟩ => h ?_) (.refl s)
    exact hsame operation' admitted.found ▸ admitted.scope
  have admitted : TransferAdmitted s context operationId expectedVersion key payloads operation :=
    ⟨writable, batch, found, fresh, approved, current, scope⟩
  have hget := (Repository.operation_eq_ok.1 found).1
  refine post_draw (Call.post_bind (sendPayloads_spec env context operationId key payloads [] []
    { s with drawn := s.drawn + 1 } operation hget) ?_ ?_)
  · rintro e s' ⟨entries, sent, stopped, sends, leaves, ho⟩
    cases stopped with
    | none => cases ho
    | some e' =>
      cases ho
      exact .interrupted rfl admitted sends leaves
  · rintro ⟨transferred, conflictIds⟩ s' ⟨entries, sent, stopped, sends, leaves, ho⟩
    cases stopped with
    | some e' => cases ho
    | none =>
      simp only [List.nil_append, Except.ok.injEq, Prod.mk.injEq] at ho
      obtain ⟨rfl, rfl⟩ := ho
      have hget' : s'.repository.operations.get? operationId =
          some (operation.enterAll entries) := by
        rw [leaves.operations, Dict.get?_set_self]
      refine post_current hget' (Call.post_modify (Call.post_modify (Call.post_modify ?_)))
      refine .transferred rfl admitted sends rfl ⟨?_, ?_, leaves.drawn, leaves.transmissions⟩
      · change s'.repository.operations.update operationId _ = _
        rw [Dict.update_of_get? hget', leaves.operations, Dict.set_set]
        rfl
      · change s'.repository.idempotency.set _ _ = _
        rw [leaves.idempotency]

theorem Operation.openConflict_same {conflictId : String}
    {conflict : Conflict} (h : operation.openConflict conflictId = .ok conflict) :
    operation.conflicts.find? (fun conflict => conflict.conflictId = conflictId) =
      some conflict ∧ conflict.state = .unresolved := by
  unfold Operation.openConflict at h
  split at h
  · cases h
  · next found =>
    split at h
    · cases h
    · next hstate =>
      cases h
      exact ⟨found, not_not.1 hstate⟩

theorem resolveConflict_effect (operationId conflictId : String)
    (expectedVersion : ExpectedVersion) (key : String) (choice : ConflictResolutionChoice)
    (content : Option (List UInt8)) :
    Call.Post (resolveConflict prim env context operationId conflictId expectedVersion key choice
      content) s fun o s' =>
      Effect prim s
        ⟨env, context, .resolveConflict operationId conflictId expectedVersion key choice content⟩
        (o.map .resolution) s' := by
  refine post_validateWrite (fun _ h => ?_) fun writable => ?_
  · exact .unchanged (fun ⟨_, _, _, admitted⟩ => h admitted.writable) (.refl s)
  refine Call.post_query (fun e h => ?_) fun operation found => ?_
  · refine .unchanged (fun ⟨_, _, _, admitted⟩ => ?_) (.refl s)
    cases h.symm.trans admitted.found
  refine post_replay (fun _ h => ?_) (fun result h => ?_) fun fresh => ?_
  · exact .unchanged (fun ⟨_, _, _, admitted⟩ => h admitted.fresh) (.refl s)
  · have hused : ¬Admitted s ⟨env, context,
        .resolveConflict operationId conflictId expectedVersion key choice content⟩ :=
      fun ⟨_, _, _, admitted⟩ => h admitted.fresh
    cases result with
    | text value => exact .unchanged hused (.refl s)
    | resolution value => exact .unchanged hused (.refl s)
    | document value => exact .unchanged hused (.refl s)
  have hsame := Repository.operation_unique found
  refine Call.post_ensure (fun h => ?_) fun current => ?_
  · refine .unchanged (fun ⟨operation', _, _, admitted⟩ => h ?_) (.refl s)
    exact hsame operation' admitted.found ▸ admitted.current
  refine Call.post_query (fun e h => ?_) fun conflict opened => ?_
  · refine .unchanged (fun ⟨operation', conflict', _, admitted⟩ => ?_) (.refl s)
    have hopened := admitted.opened
    rw [hsame operation' admitted.found, h] at hopened
    cases hopened
  have hconflict : ∀ operation' conflict' item',
      ResolveAdmitted s context operationId conflictId expectedVersion key choice content
        operation' conflict' item' → operation.items.get? conflict.itemId = some item' := by
    intro operation' conflict' item' admitted
    have hopened := admitted.opened
    rw [hsame operation' admitted.found, opened] at hopened
    cases hopened
    exact hsame operation' admitted.found ▸ admitted.listed
  refine post_itemOf (fun e h => ?_) fun item listed => ?_
  · refine .unchanged (fun ⟨_, _, _, admitted⟩ => ?_) (.refl s)
    cases h.symm.trans (hconflict _ _ _ admitted)
  have hget := (Repository.operation_eq_ok.1 found).1
  unfold sendResolution
  by_cases transmits : choice.Transmits
  · rw [if_pos transmits]
    cases content with
    | none =>
      exact .unchanged (fun ⟨_, _, _, admitted⟩ => admitted.content transmits rfl) (.refl s)
    | some content =>
      have admitted : ResolveAdmitted s context operationId conflictId expectedVersion key choice
          (some content) operation conflict item :=
        ⟨writable, found, fresh, current, opened, listed, fun _ => by simp⟩
      simp only [Call.bind_assoc]
      refine post_transmit (fun e port => ?_) fun ids port => ?_
      · exact .unanswered rfl admitted transmits port ⟨rfl, rfl, rfl, rfl⟩
      refine Call.post_modify (Call.post_pure_bind (Call.post_modify (post_draw ?_)))
      refine Call.post_modify (Call.post_modify (Call.post_pure ?_))
      refine .resolved rfl admitted (.target transmits port) rfl ⟨?_, rfl, rfl, rfl⟩
      change ((s.repository.operations.update operationId _).update operationId _) = _
      rw [Dict.update_of_get? hget, Dict.update_set]
      rfl
  · rw [if_neg transmits]
    have admitted : ResolveAdmitted s context operationId conflictId expectedVersion key choice
        content operation conflict item :=
      ⟨writable, found, fresh, current, opened, listed, fun h => absurd h transmits⟩
    refine Call.post_pure_bind (Call.post_modify (post_draw ?_))
    refine Call.post_modify (Call.post_modify (Call.post_pure ?_))
    refine .resolved rfl admitted (.none transmits) rfl ⟨?_, rfl, rfl, ?_⟩
    · change s.repository.operations.update operationId _ = _
      rw [Dict.update_of_get? hget, Operation.settle, List.append_nil]
    · exact (List.append_nil _).symm

end Calls

theorem effect_next (prim : Primitives) (s : System) (i : Input) :
    Effect prim s i ((machine prim).answer s i) ((machine prim).next s i) := by
  obtain ⟨env, context, request⟩ := i
  cases request with
  | createOperation targetArea items key ifMatch =>
    exact Call.post_map (createOperation_effect ..)
  | getOperation operationId =>
    refine Call.post_map (Call.post_query (fun _ _ => ?_) fun _ _ => ?_)
    · exact .unchanged id (.refl s)
    · exact .unchanged id (.refl s)
  | approve operationId approvedItemIds stepUp expectedVersion key verified =>
    exact Call.post_map (approve_effect ..)
  | transferBatch operationId expectedVersion key cursor payloads =>
    exact Call.post_map (transferBatch_effect ..)
  | resolveConflict operationId conflictId expectedVersion key choice content =>
    exact Call.post_map (resolveConflict_effect ..)

theorem Effect.grows {s' : System} {i : Input} {o : Outcome} (h : Effect prim s i o s') :
    s.drawn ≤ s'.drawn := by
  cases h with
  | unchanged refused leaves => exact leaves.drawn.ge
  | created request admitted drawn leaves => exact leaves.drawn ▸ Nat.le_succ _
  | approved request admitted drawn leaves => exact leaves.drawn ▸ Nat.le_succ _
  | transferred request admitted sends drawn leaves => have := leaves.drawn; omega
  | interrupted request admitted sends leaves => have := leaves.drawn; omega
  | resolved request admitted resends result leaves => exact leaves.drawn ▸ Nat.le_succ _
  | unanswered request admitted transmits port leaves => exact leaves.drawn.ge

end DaonUser.Sync
