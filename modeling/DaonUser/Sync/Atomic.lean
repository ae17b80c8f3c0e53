import DaonUser.Sync.Approval

/-!
# Sync: calls that raise

A call holds no transaction: what it wrote before it raised stays. Only the loop of `transfer_batch`
writes before it can raise, so a call that raises leaves the operations and the idempotency table as they
were unless a batch is stopped after it has made an entry (`raised_atomic_iff`).
-/

namespace DaonUser.Sync

open Lib

variable {prim : Primitives}

/-- Every operation and the idempotency table are as they were. -/
structure SameRecords (s s' : System) : Prop where
  operations : s'.repository.operations = s.repository.operations
  idempotency : s'.repository.idempotency = s.repository.idempotency

/-- The payload that a batch comes to first: the others before it are of completed items. -/
def firstPending (operation : Operation) (payloads : List TransferPayload) : Option TransferPayload :=
  payloads.find? fun payload => payload.itemId ∉ operation.completedItemIds

/-- A payload that the loop comes to after `asked` questions makes an entry: its item is there with its
dependencies completed, and it is in conflict or the port answers. -/
def Passes (env : Env) (operation : Operation) (asked : Nat) (payload : TransferPayload) : Prop :=
  ∃ item, Due operation payload item ∧
    (payload.current = item.base → ∃ ids, env.port asked = .ok ids)

/-- Where the call is a batch that passes its checks, the payload that it comes to first is refused. -/
def RefusedFirst (s : System) (i : Input) : Prop :=
  match i.request with
  | .transferBatch operationId expectedVersion key _ payloads => ∀ operation,
      TransferAdmitted s i.context operationId expectedVersion key payloads operation →
      ∀ payload ∈ firstPending operation payloads,
        ¬Passes i.env operation s.transmissions.length payload
  | _ => True

theorem firstPending_skip {operation : Operation} {payload : TransferPayload}
    (payloads : List TransferPayload) (h : payload.itemId ∈ operation.completedItemIds) :
    firstPending operation (payload :: payloads) = firstPending operation payloads :=
  List.find?_cons_of_neg (by simpa using h)

theorem firstPending_cons {operation : Operation} {payload : TransferPayload}
    (payloads : List TransferPayload) (h : payload.itemId ∉ operation.completedItemIds) :
    firstPending operation (payload :: payloads) = some payload :=
  List.find?_cons_of_pos (by simpa using h)

theorem Sends.entries_eq_nil_iff {env : Env} {context : SyncContext} {key : String}
    {operation : Operation} {drawn asked : Nat} {payloads : List TransferPayload}
    {entries : List Entry} {sent : List Transmission} {e : SyncError}
    (sends : Sends prim env context key operation drawn asked payloads entries sent (some e)) :
    entries = [] ↔
      ∀ payload ∈ firstPending operation payloads, ¬Passes env operation asked payload := by
  generalize hstopped : some e = stopped at sends
  induction sends with
  | done => cases hstopped
  | skipped completed rest ih =>
    rw [firstPending_skip _ completed]
    exact ih hstopped
  | denied pending blocked =>
    rw [firstPending_cons _ pending]
    refine iff_of_true rfl ?_
    rintro payload ⟨⟩ ⟨item, due, -⟩
    exact blocked item due
  | refused due same port =>
    rw [firstPending_cons _ due.pending]
    refine iff_of_true rfl ?_
    rintro payload ⟨⟩ ⟨item', due', hanswers⟩
    obtain rfl := Option.some.inj (due'.listed.symm.trans due.listed)
    obtain ⟨ids, hids⟩ := hanswers same
    rw [port] at hids
    cases hids
  | conflict due differs rest ih =>
    rw [firstPending_cons _ due.pending]
    refine iff_of_false (List.cons_ne_nil _ _) fun h => ?_
    exact h _ rfl ⟨_, due, fun same => absurd same differs⟩
  | target due same port rest ih =>
    rw [firstPending_cons _ due.pending]
    refine iff_of_false (List.cons_ne_nil _ _) fun h => ?_
    exact h _ rfl ⟨_, due, fun _ => ⟨_, port⟩⟩

theorem enterAll_eq_self_iff {operation : Operation} {entries : List Entry} :
    operation.enterAll entries = operation ↔ entries = [] := by
  refine ⟨fun h => ?_, fun h => h ▸ rfl⟩
  have hconflicts := conflicts_enterAll operation entries
  have htargets := targetVersions_enterAll operation entries
  rw [h, eq_comm, List.append_right_eq_self] at hconflicts htargets
  cases entries with
  | nil => rfl
  | cons entry entries =>
    cases entry with
    | conflict value => cases hconflicts
    | target value => cases htargets

theorem sameRecords_iff {s s' : System} {operationId : String} {operation : Operation}
    {entries : List Entry} {drawn : Nat} {transmissions : List Transmission}
    (hfound : s.repository.operations.get? operationId = some operation)
    (leaves : Leaves s' (s.repository.operations.set operationId (operation.enterAll entries))
      s.repository.idempotency drawn transmissions) :
    SameRecords s s' ↔ entries = [] := by
  rw [← @enterAll_eq_self_iff operation]
  constructor
  · intro h
    have hget := congrArg (·.get? operationId) (leaves.operations.symm.trans h.operations)
    simp only [Dict.get?_set_self, hfound] at hget
    exact Option.some.inj hget
  · intro h
    exact ⟨by rw [leaves.operations, h, Dict.set_of_get? hfound], leaves.idempotency⟩

/-- A call that raises leaves the operations and the idempotency table as they were exactly when it is no
batch that was stopped after an entry. -/
theorem raised_atomic_iff (prim : Primitives) (s : System) (i : Input) (e : SyncError)
    (hraises : (machine prim).answer s i = .error e) :
    SameRecords s ((machine prim).next s i) ↔ RefusedFirst s i := by
  have heffect := effect_next prim s i
  rw [hraises] at heffect
  generalize (machine prim).next s i = s' at heffect
  obtain ⟨env, context, request⟩ := i
  cases heffect with
  | unchanged refused leaves =>
    refine iff_of_true ⟨leaves.operations, leaves.idempotency⟩ ?_
    unfold RefusedFirst
    split
    · next hrequest =>
      subst hrequest
      exact fun operation admitted => absurd ⟨operation, admitted⟩ refused
    · trivial
  | interrupted hrequest admitted sends leaves =>
    subst hrequest
    have hfound := (Repository.operation_eq_ok.1 admitted.found).1
    rw [sameRecords_iff hfound leaves, sends.entries_eq_nil_iff]
    constructor
    · intro h operation' admitted'
      obtain rfl := Except.ok.inj (admitted'.found.symm.trans admitted.found)
      exact h
    · exact fun h => h _ admitted
  | unanswered hrequest admitted transmits port leaves =>
    subst hrequest
    exact iff_of_true ⟨leaves.operations, leaves.idempotency⟩ trivial

/-! ## A batch that is stopped half way -/

namespace Sample

def approvedPair : List Input :=
  [preview, call (.approve "sync-0" ["a", "b"] "step-up" (.version 1) "key-2" true)]

def pair (answered : Nat) : Input where
  env := { port := fun n =>
    if n < answered then .ok ("cloud-version", "cloud-object")
    else .error { code := "SYNC_TRANSFER_FAILED", status := 503, retryable := true } }
  context := context
  request := .transferBatch "sync-0" (.version 2) "key-3" none
    [⟨"a", [], none, none⟩, ⟨"b", [], none, none⟩]

end Sample

/-- A batch that is refused at once. -/
theorem raised_atomic_pair :
    SameRecords ((machine Sample.primitives).run Sample.approvedPair)
        ((machine Sample.primitives).next ((machine Sample.primitives).run Sample.approvedPair)
          (Sample.pair 0)) ↔
      RefusedFirst ((machine Sample.primitives).run Sample.approvedPair) (Sample.pair 0) :=
  raised_atomic_iff Sample.primitives ((machine Sample.primitives).run Sample.approvedPair)
    (Sample.pair 0) { code := "SYNC_TRANSFER_FAILED", status := 503, retryable := true }
    (by decide)

/-- The port refuses the second payload, and the first one stays transferred. -/
theorem stopped_batch_kept :
    ¬∀ (s : System) (i : Input) (e : SyncError), (machine Sample.primitives).Reachable s →
      (machine Sample.primitives).answer s i = .error e →
      SameRecords s ((machine Sample.primitives).next s i) := by
  intro h
  have hsame := h ((machine Sample.primitives).run Sample.approvedPair) (Sample.pair 1)
    { code := "SYNC_TRANSFER_FAILED", status := 503, retryable := true } ⟨_, rfl⟩ (by decide)
  have hbefore : (((machine Sample.primitives).run Sample.approvedPair).repository.operations.get?
      "sync-0").map (·.completedItemIds) = some ∅ := by decide
  have hafter : (((machine Sample.primitives).next ((machine Sample.primitives).run
      Sample.approvedPair) (Sample.pair 1)).repository.operations.get? "sync-0").map
        (·.completedItemIds) = some {"a"} := by decide
  rw [hsame.operations, hbefore] at hafter
  exact absurd (Option.some.inj hafter) (by decide)

end DaonUser.Sync
