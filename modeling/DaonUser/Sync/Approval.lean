import DaonUser.Sync.Invariant

/-!
# Sync: completed and transmitted items are approved ones

Every completed item and every item that the transfer port was called for should be an approved one. But
`approve` can be called again with other items, and `resolve_conflict` never looks at the approved items
(`completed_item_unapproved`). `scoped_iff` says exactly which calls of a run do not do this.
-/

namespace DaonUser.Sync

open Lib

variable {prim : Primitives}

/-- What the approval of an operation promises when the port was asked `transmissions`. -/
structure Operation.InScope (operation : Operation) (transmissions : List Transmission) :
    Prop where
  completed : ∀ itemId ∈ operation.completedItemIds, itemId ∈ operation.approvedItemIds
  previewed : ∀ itemId ∈ operation.approvedItemIds, operation.items.get? itemId ≠ none
  closed : ∀ itemId ∈ operation.approvedItemIds, ∀ item ∈ operation.items.get? itemId,
    ∀ d ∈ item.dependencyItemIds, d ∈ operation.approvedItemIds
  dependencies : ∀ itemId ∈ operation.completedItemIds, ∀ item ∈ operation.items.get? itemId,
    ∀ d ∈ item.dependencyItemIds, d ∈ operation.completedItemIds
  sent : ∀ t ∈ transmissions, t.operationId = operation.operationId →
    t.item.itemId ∈ t.approved ∧ t.item.itemId ∈ operation.approvedItemIds

/-- Every operation is in the scope of its approval. -/
def Scoped (s : System) : Prop :=
  ∀ operationId operation, s.repository.operations.get? operationId = some operation →
    operation.InScope s.transmissions

/-- The call does not take an item out of the scope in which it was completed or transmitted, and
does not resolve a conflict of an item out of scope. -/
def KeepsScope (s : System) (i : Input) : Prop :=
  match i.request with
  | .approve operationId approvedItemIds stepUp expectedVersion key verified =>
    ∀ operation, ApproveAdmitted s i.context operationId approvedItemIds stepUp expectedVersion key
        verified operation →
      (∀ itemId ∈ operation.completedItemIds, itemId ∈ approvedItemIds) ∧
        ∀ t ∈ s.transmissions, t.operationId = operationId → t.item.itemId ∈ approvedItemIds
  | .resolveConflict operationId conflictId expectedVersion key choice content =>
    ∀ operation conflict item, ResolveAdmitted s i.context operationId conflictId expectedVersion
      key choice content operation conflict item → conflict.itemId ∈ operation.approvedItemIds
  | _ => True

theorem Operation.Sound.inScope_iff {operation : Operation} (h : operation.Sound)
    {transmissions : List Transmission} :
    operation.InScope transmissions ↔
      (∀ itemId ∈ operation.completedItemIds, itemId ∈ operation.approvedItemIds) ∧
        ∀ t ∈ transmissions, t.operationId = operation.operationId →
          t.item.itemId ∈ t.approved ∧ t.item.itemId ∈ operation.approvedItemIds := by
  constructor
  · exact fun hscope => ⟨hscope.completed, hscope.sent⟩
  · rintro ⟨completed, sent⟩
    refine ⟨completed, h.previewed, h.closed, fun itemId hitem item listed => ?_, sent⟩
    obtain ⟨item', listed', dependencies⟩ := h.completed itemId hitem
    obtain rfl : item' = item := Option.some.inj (listed'.symm.trans listed)
    exact dependencies

theorem Scoped.write_iff {s s' : System} (h : Consistent prim s) (hs : Scoped s)
    {operationId : String} {operation new : Operation}
    {idempotency : Dict Key (String × Result)} {drawn : Nat} {sent : List Transmission}
    (found : s.repository.operations.get? operationId = some operation)
    (hsent : ∀ t ∈ sent, t.operationId = operation.operationId)
    (leaves : Leaves s' (s.repository.operations.set operationId new) idempotency drawn
      (s.transmissions ++ sent)) :
    Scoped s' ↔ new.InScope (s.transmissions ++ sent) := by
  unfold Scoped
  rw [leaves.operations, leaves.transmissions]
  constructor
  · exact fun hs' => hs' operationId new (Dict.get?_set_self ..)
  · intro hnew operationId' other hother
    rw [Dict.get?_set] at hother
    split at hother
    · cases hother
      exact hnew
    · next hne =>
      have hscope := hs operationId' other hother
      refine ((h.sound _ _ hother).inScope_iff).2 ⟨hscope.completed, fun t ht hid => ?_⟩
      rcases List.mem_append.1 ht with ht | ht
      · exact hscope.sent t ht hid
      · refine absurd ?_ hne
        rw [← h.keyed _ _ found, ← hsent t ht, hid, h.keyed _ _ hother]

theorem Sends.inScope {s : System} {operation : Operation} (h : operation.Sound)
    (hscope : operation.InScope s.transmissions) {env : Env} {context : SyncContext}
    {key : String} {payloads : List TransferPayload} {drawn asked : Nat} {entries : List Entry}
    {sent : List Transmission} {stopped : Option SyncError}
    (sends : Sends prim env context key operation drawn asked payloads entries sent stopped)
    (scope : ∀ payload ∈ payloads, payload.itemId ∈ operation.approvedItemIds) :
    (∀ itemId ∈ (operation.enterAll entries).completedItemIds,
        itemId ∈ operation.approvedItemIds) ∧
      ∀ t ∈ s.transmissions ++ sent, t.operationId = operation.operationId →
        t.item.itemId ∈ t.approved ∧ t.item.itemId ∈ operation.approvedItemIds := by
  constructor
  · refine (sends.keeps (P := fun o => o.items = operation.items ∧
      ∀ itemId ∈ o.completedItemIds, itemId ∈ operation.approvedItemIds) ?_ ?_
      ⟨rfl, hscope.completed⟩).2
    · exact fun o payload item conflictId ho _ _ _ => ho
    · rintro o payload item ids ⟨hitems, ho⟩ hmem due
      refine ⟨hitems, fun itemId hitem => ?_⟩
      rcases Finset.mem_insert.1 hitem with rfl | hitem
      · rw [h.named _ _ (hitems ▸ due.listed)]
        exact scope payload hmem
      · exact ho itemId hitem
  · intro t ht hid
    rcases List.mem_append.1 ht with ht | ht
    · exact hscope.sent t ht hid
    · obtain ⟨-, happroved, payload, hmem, listed⟩ := sends.asks t ht
      rw [happroved, h.named _ _ listed]
      exact ⟨scope payload hmem, scope payload hmem⟩

theorem keepsScope_resolve {s : System} {i : Input} {operationId conflictId : String}
    {expectedVersion : ExpectedVersion} {key : String} {choice : ConflictResolutionChoice}
    {content : Option (List UInt8)} {operation : Operation} {conflict : Conflict}
    {item : SyncItemInput}
    (request : i.request =
      .resolveConflict operationId conflictId expectedVersion key choice content)
    (admitted : ResolveAdmitted s i.context operationId conflictId expectedVersion key choice
      content operation conflict item) :
    KeepsScope s i ↔ conflict.itemId ∈ operation.approvedItemIds := by
  simp only [KeepsScope, request]
  constructor
  · exact fun hkeeps => hkeeps operation conflict item admitted
  · intro happroved operation' conflict' item' admitted'
    obtain ⟨rfl, rfl, rfl⟩ := admitted.unique admitted'
    exact happroved

theorem scoped_next_iff {s : System} (h : Consistent prim s) (hs : Scoped s) (i : Input) :
    Scoped ((machine prim).next s i) ↔ KeepsScope s i := by
  have heffect := effect_next prim s i
  have hnext := consistent_next h i
  generalize (machine prim).answer s i = o at heffect
  generalize (machine prim).next s i = s' at heffect hnext ⊢
  have hget : ∀ {operationId operation}, s.repository.operation i.context operationId =
      .ok operation → s.repository.operations.get? operationId = some operation :=
    fun found => (Repository.operation_eq_ok.1 found).1
  cases heffect with
  | unchanged refused leaves =>
    have hkeeps : KeepsScope s i := by
      unfold KeepsScope
      split
      · next request =>
        intro operation admitted
        refine absurd ?_ refused
        simp only [Admitted, request]
        exact ⟨operation, admitted⟩
      · next request =>
        intro operation conflict item admitted
        refine absurd ?_ refused
        simp only [Admitted, request]
        exact ⟨operation, conflict, item, admitted⟩
      · trivial
    refine iff_of_true ?_ hkeeps
    unfold Scoped
    rw [leaves.operations, leaves.transmissions]
    exact hs
  | created request admitted drawn leaves =>
    have hkeeps : KeepsScope s i := by simp [KeepsScope, request]
    refine iff_of_true ?_ hkeeps
    intro operationId operation hfound
    rw [leaves.transmissions]
    rw [leaves.operations, Dict.get?_set] at hfound
    split at hfound
    · cases hfound
      refine (newOperation_sound ..).inScope_iff.2 ⟨by simp [newOperation], fun t ht hid => ?_⟩
      refine absurd ?_ (h.sent t ht)
      rw [hid, newOperation, drawn, h.unused]
    · exact hs operationId operation hfound
  | @approved operationId approvedItemIds _ _ _ _ operation snapshotId _ request admitted drawn
      leaves =>
    have found := hget admitted.found
    have hscope := hs _ _ found
    have hid := h.keyed _ _ found
    have sound := hnext.sound operationId (operation.approve approvedItemIds.eraseDups snapshotId)
      (by rw [leaves.operations, Dict.get?_set_self])
    rw [hs.write_iff h found (by simp) leaves.appendNil, sound.inScope_iff]
    simp only [KeepsScope, request, List.append_nil]
    constructor
    · rintro ⟨completed, sent⟩ operation' admitted'
      obtain rfl : operation' = operation :=
        Except.ok.inj (admitted'.found.symm.trans admitted.found)
      refine ⟨fun itemId hitem => List.mem_eraseDups.1 (completed itemId hitem), ?_⟩
      exact fun t ht hop => List.mem_eraseDups.1 (sent t ht (hop.trans hid.symm)).2
    · intro hkeeps
      obtain ⟨completed, sent⟩ := hkeeps operation admitted
      refine ⟨fun itemId hitem => List.mem_eraseDups.2 (completed itemId hitem), ?_⟩
      intro t ht hop
      have hop' : t.operationId = operation.operationId := hop
      exact ⟨(hscope.sent t ht hop').1, List.mem_eraseDups.2 (sent t ht (hop'.trans hid))⟩
  | @transferred operationId _ _ cursor _ operation entries sent batchId _ request admitted sends
      drawn leaves =>
    have found := hget admitted.found
    have hkeeps : KeepsScope s i := by simp [KeepsScope, request]
    refine iff_of_true ?_ hkeeps
    have sound := hnext.sound operationId (operation.transfer entries batchId cursor)
      (by rw [leaves.operations, Dict.get?_set_self])
    rw [hs.write_iff h found (fun t ht => (sends.asks t ht).1) leaves, sound.inScope_iff]
    obtain ⟨hid, -, -, approvedItems, -, -, -, completed⟩ :=
      recordBatch_frame (operation.enterAll entries) (newBatch (operation.enterAll entries) batchId
        cursor ((targetsOf entries).map (·.itemId)) ((conflictsOf entries).map (·.conflictId)))
    obtain ⟨hid', -, -, -, -, approvedItems', -⟩ := enterAll_frame operation entries
    unfold Operation.transfer
    rw [approvedItems, approvedItems', completed, hid, hid']
    exact sends.inScope (h.sound _ _ found) (hs _ _ found) admitted.scope
  | @interrupted operationId _ _ _ _ operation entries sent _ _ request admitted sends leaves =>
    have found := hget admitted.found
    have hkeeps : KeepsScope s i := by simp [KeepsScope, request]
    refine iff_of_true ?_ hkeeps
    have sound := hnext.sound operationId (operation.enterAll entries)
      (by rw [leaves.operations, Dict.get?_set_self])
    rw [hs.write_iff h found (fun t ht => (sends.asks t ht).1) leaves, sound.inScope_iff]
    obtain ⟨hid', -, -, -, -, approvedItems', -⟩ := enterAll_frame operation entries
    rw [approvedItems', hid']
    exact sends.inScope (h.sound _ _ found) (hs _ _ found) admitted.scope
  | @resolved operationId conflictId _ _ _ _ operation conflict item targets sent _ _ request
      admitted resends result leaves =>
    have found := hget admitted.found
    have hscope := hs _ _ found
    have hsent : ∀ t ∈ sent, t.operationId = operation.operationId ∧
        t.approved = operation.approvedItemIds ∧ t.item = item := by
      intro t ht
      cases resends with
      | none => simp at ht
      | target =>
        rw [List.mem_singleton] at ht
        rw [ht]
        exact ⟨rfl, rfl, rfl⟩
    have sound := hnext.sound operationId (operation.settle targets conflictId item.itemId)
      (by rw [leaves.operations, Dict.get?_set_self])
    rw [hs.write_iff h found (fun t ht => (hsent t ht).1) leaves, sound.inScope_iff,
      keepsScope_resolve request admitted]
    obtain ⟨hid, -, -, approvedItems, -, -, -, completed⟩ :=
      settle_frame operation targets conflictId item.itemId
    rw [approvedItems, completed, hid, (h.sound _ _ found).named _ _ admitted.listed]
    constructor
    · exact fun hnew => hnew.1 _ (Finset.mem_insert_self ..)
    · intro happroved
      constructor
      · intro itemId hitem
        rcases Finset.mem_insert.1 hitem with rfl | hitem
        · exact happroved
        · exact hscope.completed itemId hitem
      · intro t ht hop
        rcases List.mem_append.1 ht with ht | ht
        · exact hscope.sent t ht hop
        · obtain ⟨-, hat, hitem⟩ := hsent t ht
          rw [hat, hitem, (h.sound _ _ found).named _ _ admitted.listed]
          exact ⟨happroved, happroved⟩
  | @unanswered operationId _ _ _ _ _ operation conflict item _ _ request admitted transmits port
      leaves =>
    have found := hget admitted.found
    have hscope := hs _ _ found
    rw [← Dict.set_of_get? found] at leaves
    rw [hs.write_iff h found (fun t ht => by rw [List.mem_singleton.1 ht]; rfl) leaves,
      (h.sound _ _ found).inScope_iff, keepsScope_resolve request admitted,
      ← (h.sound _ _ found).named _ _ admitted.listed]
    constructor
    · rintro ⟨_, hsent⟩
      exact (hsent _ (List.mem_append_right _ (List.mem_singleton_self _)) rfl).2
    · intro happroved
      refine ⟨hscope.completed, fun t ht hop => ?_⟩
      rcases List.mem_append.1 ht with ht | ht
      · exact hscope.sent t ht hop
      · rw [List.mem_singleton.1 ht]
        exact ⟨happroved, happroved⟩

/-- A run keeps every operation in scope exactly when its calls meet the condition. -/
theorem scoped_iff (prim : Primitives) (is : List Input) :
    (machine prim).AllStates Scoped (machine prim).init is ↔
      (machine prim).AllSteps KeepsScope (machine prim).init is := by
  refine (machine prim).allStates_iff_allSteps (I := Consistent prim)
    (fun s i h => consistent_next h i) (fun s i h hs => scoped_next_iff h hs i) .init ?_
  intro operationId operation found
  simp [machine, System.init] at found

/-! ## A second approval -/

namespace Sample

theorem context_safe : ∀ v ∈ ["tenant", "workspace", "actor", "trace", "policy"],
    isSafeId v = true := by decide

def context : SyncContext where
  tenantId := "tenant"
  workspaceId := "workspace"
  actorId := "actor"
  traceId := "trace"
  policyVersion := "policy"
  safe := context_safe

def fields (itemId : String) : ItemFields where
  itemId := itemId
  sourceVersionId := some "version"
  localObjectId := "object"
  digestSha256 := "e3b0c44298fc1c149afbf4c8996fb92427ae41e4649b934ca495991b7852b855"
  byteSize := 0
  contentType := "text/plain"
  baseCloudVersionId := none
  baseCloudDigest := none

def item (itemId : String) (h : (fields itemId).Valid := by decide) : SyncItemInput :=
  { fields itemId with valid := h }

def call (request : Request) : Input where
  env := { port := fun _ => .ok ("cloud-version", "cloud-object") }
  context := context
  request := request

def preview : Input := call (.createOperation "cloud_sync" [item "a", item "b"] "key-1" .any)

def approval (itemId : String) (version : Int) (key : String) : Input :=
  call (.approve "sync-0" [itemId] "step-up" (.version version) key true)

/-- A batch of one item that claims a version of the cloud, with the digest of no content. -/
def batch (itemId : String) (version : Int) (key : String) (cloud : Option String := none) :
    Input :=
  call (.transferBatch "sync-0" (.version version) key none
    [⟨itemId, [], cloud, cloud.map fun _ => (fields itemId).digestSha256⟩])

def primitives : Primitives where
  fingerprint
    | .list [_, .list [.dict _, .dict _]] =>
      "f635839b4f6419b0a1e64c3d64d7d53bc25379cd2f7929b2c5fd197e39ea2b9c"
    | .list [_, .list [.str "a"], _, _] =>
      "5491e11ab8803c23200b957effb061be04930d9944940efabb1978b7bd429fba"
    | .list [_, .list [.str "b"], _, _] =>
      "859209b77cc8d1630e38e35cb5c8e1e2818fd25dd70549d00fbf81bf42613dc2"
    | .list [_, _, _, .list [.list [_, _, .null, _]]] =>
      "6395310bac1051d53118b249bdade5cb1852eedf49132efc0540a6e39a5be78b"
    | .list [_, _, _, .list [.list [_, _, .str "cloud-1", _]]] =>
      "4ea84522ac98b9e30633b8a425259ef9bb45a3b08b15b127daab5d19d5ae7ea5"
    | .list [_, _, _, .list [.list [_, _, .str "cloud-2", _]]] =>
      "b23def56c1c4783d59e107a8d95ff4d91ed69860660336e5b3295ffc29ca499a"
    | _ => "e87b8f599ec359416b5420fef1f7c1e05297a123665b789ecd6288e7d149f363"
  sha256 content :=
    if content = [] then "e3b0c44298fc1c149afbf4c8996fb92427ae41e4649b934ca495991b7852b855"
    else "a9896fe915e4de4a9749fca359900e0ae352e711cb3990a14123859d43b33521"
  tokens := .counting

def reapproval : List Input :=
  [preview, approval "a" 1 "key-2", batch "a" 2 "key-3", approval "b" 3 "key-4"]

end Sample

/-- A second approval leaves out what was completed under the first. -/
theorem completed_item_unapproved :
    ¬∀ is, (machine Sample.primitives).AllStates Scoped (machine Sample.primitives).init is := by
  intro h
  have hlast : Scoped ((machine Sample.primitives).run Sample.reapproval) :=
    (h Sample.reapproval).last
  have hitems : (((machine Sample.primitives).run Sample.reapproval).repository.operations.get?
      "sync-0").map (fun operation => (operation.completedItemIds, operation.approvedItemIds)) =
      some ({"a"}, ["b"]) := by decide
  obtain ⟨operation, found, hpair⟩ := Option.map_eq_some_iff.1 hitems
  obtain ⟨completed, approved⟩ := Prod.mk.inj hpair
  have happroved := (hlast _ _ found).completed "a" (by simp [completed])
  simp [approved] at happroved

end DaonUser.Sync

