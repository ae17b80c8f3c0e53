import DaonUser.ObjectQueue.Store

/-!
# Object queue: submitting an object

`ObjectQueueCoordinator.submit` uploads the content to the staging key of the object and then registers the
object and its job, with any number of calls between the two. `Submissions` holds the rows of every scope,
the staged uploads and the calls that wait for their registration; `submissions` takes halves and other
transactions in any order.
-/

namespace DaonUser.ObjectQueue

open Lib

/-! ## Registrations -/

/-- The arguments of `register_object_job` but its clock. -/
structure Registration where
  context : CloudAccessContext
  objectId : String
  area : String
  staged : StagedObject
  finalKey : String
  idempotencyKey : String
  traceId : String
  maxAttempts : Nat
  forceRollback : Bool
  deriving DecidableEq

def Registration.input (r : Registration) (env : Env) (createdAt : Int) : Input where
  context := r.context
  env := env
  transaction := .registerObjectJob r.objectId r.area r.staged r.finalKey r.idempotencyKey r.traceId
    r.maxAttempts createdAt r.forceRollback

def Input.registration (i : Input) : Option Registration :=
  match i.transaction with
  | .registerObjectJob objectId area staged finalKey key traceId maxAttempts _ rollback =>
    some ⟨i.context, objectId, area, staged, finalKey, key, traceId, maxAttempts, rollback⟩
  | _ => none

theorem input_of_registration {i : Input} {r : Registration} (h : i.registration = some r) :
    ∃ createdAt, i = r.input i.env createdAt := by
  obtain ⟨context, env, transaction⟩ := i
  cases transaction with
  | registerObjectJob objectId area staged finalKey key traceId maxAttempts createdAt rollback =>
    obtain rfl := Option.some.inj h
    exact ⟨createdAt, rfl⟩
  | claim => cases h
  | getJob => cases h
  | complete => cases h
  | fail => cases h
  | reprocess => cases h

/-- `_safe_id`, the key policy and the metadata checks of `register_object_job` let it pass. -/
structure Registration.Checked (r : Registration) : Prop where
  capability : r.context.capability = "object.write"
  stagingKey : isKeyOf "_staging/" r.context r.area r.staged.key = true
  finalKey : isKeyOf "" r.context r.area r.finalKey = true
  key : isSafeId r.idempotencyKey = true
  trace : isSafeId r.traceId = true
  metadata : isDigest r.staged.digestSha256 = true ∧ isContentType r.staged.contentType = true
  bounds : 0 ≤ r.staged.byteSize ∧ 1 ≤ r.maxAttempts ∧ r.maxAttempts ≤ 100

instance (r : Registration) : Decidable r.Checked :=
  decidable_of_iff (r.context.capability = "object.write" ∧
      isKeyOf "_staging/" r.context r.area r.staged.key = true ∧
      isKeyOf "" r.context r.area r.finalKey = true ∧ isSafeId r.idempotencyKey = true ∧
      isSafeId r.traceId = true ∧
      (isDigest r.staged.digestSha256 = true ∧ isContentType r.staged.contentType = true) ∧
      0 ≤ r.staged.byteSize ∧ 1 ≤ r.maxAttempts ∧ r.maxAttempts ≤ 100)
    ⟨fun h => ⟨h.1, h.2.1, h.2.2.1, h.2.2.2.1, h.2.2.2.2.1, h.2.2.2.2.2.1, h.2.2.2.2.2.2⟩,
      fun h => ⟨h.capability, h.stagingKey, h.finalKey, h.key, h.trace, h.metadata, h.bounds⟩⟩

/-! ## Staging -/

structure Upload where
  content : List UInt8
  contentType : String
  deriving DecidableEq

inductive Put where
  /-- It fails and stores nothing. -/
  | failed (error : ObjectQueueError)
  /-- It stores the content, and the check of what is stored fails. -/
  | unverified (error : ObjectQueueError)
  | stored (etag : String) (versionId : Option String)

def putStaged (put : Put) (key : String) (content : List UInt8) (contentType digest : String) :
    Call (Dict String Upload) ObjectQueueError StagedObject :=
  match put with
  | .failed error => Call.raise error
  | .unverified error => do
    Call.modify fun staging => staging.set key ⟨content, contentType⟩
    Call.raise error
  | .stored etag versionId => do
    Call.modify fun staging => staging.set key ⟨content, contentType⟩
    return { key := key, digestSha256 := digest, byteSize := content.length,
             contentType := contentType, etag := etag, versionId := versionId }

def stagingKey (context : CloudAccessContext) (area objectId : String) : String :=
  "_staging/" ++ context.tenantId ++ "/" ++ context.workspaceId ++ "/" ++ area ++ "/" ++ objectId

def finalKey (context : CloudAccessContext) (area objectId : String) : String :=
  context.tenantId ++ "/" ++ context.workspaceId ++ "/" ++ area ++ "/" ++ objectId

/-- The arguments of `submit`, what its id factory draws and its retry policy allows. -/
structure Submit where
  context : CloudAccessContext
  area : String
  content : List UInt8
  contentType : String
  idempotencyKey : String
  traceId : String
  objectId : Option String
  drawn : String
  maxAttempts : Nat

/-- `submit` up to the registration. -/
def prepare (digest : List UInt8 → String) (call : Submit) (put : Put) :
    Call (Dict String Upload) ObjectQueueError Registration := do
  Call.ensure (isContentType call.contentType) { code := "OBJECT_METADATA_INVALID" }
  let objectId := call.objectId.getD call.drawn
  Call.ensure (isOpaqueId objectId) { code := "OBJECT_ID_INVALID" }
  -- `_validate` of the key policy; a context has checked its ids
  Call.ensure (["source", "output"].contains call.area) { code := "OBJECT_KEY_INVALID" }
  let staged ← putStaged put (stagingKey call.context call.area objectId) call.content
    call.contentType (digest call.content)
  return {
    context := call.context, objectId := objectId, area := call.area, staged := staged,
    finalKey := finalKey call.context call.area objectId, idempotencyKey := call.idempotencyKey,
    traceId := call.traceId, maxAttempts := call.maxAttempts, forceRollback := false }

/-! ## The machine -/

/-- The rows of every scope, the staging area, and the calls whose content is staged. -/
structure Submissions where
  queues : Scope → System
  staging : Dict String Upload
  waiting : List Registration

inductive Command where
  /-- A call of `submit` runs up to the registration. -/
  | upload (call : Submit) (put : Put)
  /-- A waiting call registers its object. -/
  | register (place : Nat) (env : Env) (createdAt : Int)
  /-- Any transaction of another caller, `register_object_job` included. -/
  | transact (input : Input)

namespace Submissions

def transaction (s : Submissions) : Command → Option Input
  | .upload .. => none
  | .register place env createdAt => s.waiting[place]?.map fun r => r.input env createdAt
  | .transact input => some input

def remaining (s : Submissions) : Command → List Registration
  | .register place .. => s.waiting.eraseIdx place
  | _ => s.waiting

def upload (digest : List UInt8 → String) (s : Submissions) (call : Submit) (put : Put) :
    Option Outcome × Submissions :=
  let result := prepare digest call put s.staging
  match result.1 with
  | .error e => (some (.error e), { s with staging := result.2 })
  | .ok r => (none, { s with staging := result.2, waiting := s.waiting ++ [r] })

/-- One step; `none` when no call answers in it. -/
def step (sha256 : String → String) (digest : List UInt8 → String) (s : Submissions)
    (c : Command) : Option Outcome × Submissions :=
  match c with
  | .upload call put => s.upload digest call put
  | c =>
    match s.transaction c with
    | none => (none, s)
    | some i =>
      let result := (database sha256).step s.queues i
      (some result.1, { s with queues := result.2, waiting := s.remaining c })

end Submissions

def submissions (sha256 : String → String) (digest : List UInt8 → String) :
    Machine Submissions Command (Option Outcome) where
  init := { queues := (database sha256).init, staging := Dict.empty, waiting := [] }
  step := Submissions.step sha256 digest

/-- `submit`, with nothing between its halves. -/
def submit (sha256 : String → String) (digest : List UInt8 → String) (call : Submit) (put : Put)
    (env : Env) (createdAt : Int) (s : Submissions) : Option Outcome × Submissions :=
  match s.upload digest call put with
  | (some o, s') => (some o, s')
  | (none, s') => s'.step sha256 digest (.register s.waiting.length env createdAt)

section

variable {sha256 : String → String} {digest : List UInt8 → String}

theorem upload_queues (s : Submissions) (call : Submit) (put : Put) :
    (s.upload digest call put).2.queues = s.queues := by
  unfold Submissions.upload
  simp only
  split <;> rfl

theorem queues_next (s : Submissions) (c : Command) :
    ((submissions sha256 digest).next s c).queues =
      match s.transaction c with
      | none => s.queues
      | some i => (database sha256).next s.queues i := by
  cases c with
  | upload call put => exact upload_queues s call put
  | register place env createdAt =>
    change (Submissions.step sha256 digest s (.register place env createdAt)).2.queues = _
    simp only [Submissions.step]
    cases s.transaction (.register place env createdAt) with
    | none => rfl
    | some i => rfl
  | transact input => rfl

theorem answer_of_transaction {s : Submissions} {c : Command} {i : Input}
    (h : s.transaction c = some i) :
    (submissions sha256 digest).answer s c = some ((database sha256).answer s.queues i) := by
  cases c with
  | upload call put => cases h
  | register place env createdAt =>
    change (Submissions.step sha256 digest s (.register place env createdAt)).1 = _
    simp only [Submissions.step, h]
    rfl
  | transact input =>
    obtain rfl := Option.some.inj h
    rfl

end

end DaonUser.ObjectQueue
