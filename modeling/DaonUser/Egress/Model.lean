import DaonUser.Base
import DaonUser.Lib.Dict
import DaonUser.Lib.JsonRead
import DaonUser.Lib.Machine

/-!
# Egress policies

The values of `egress_policy`, and what a store of policy bindings has to do over any sequence of
`create_and_activate` calls (`Lawful`). A store also takes the first binding of a scope, which
`seed` and `seed_scope` write.

`sha256` of a text is a parameter.
-/

namespace DaonUser.Egress

open Lib

/-! ## Values -/

/-- The `EgressPolicyError`s of `create_and_activate`, and what the database raises. -/
inductive EgressPolicyError where
  | unavailable
  | idempotencyKeyReused
  | versionConflict
  | idempotencyKeyInvalid
  | database
  deriving DecidableEq

structure EgressPolicyContext where
  tenantId : String
  workspaceId : String
  actorId : String
  traceId : String
  authorizationPolicyVersion : String
  valid : ∀ id ∈ [tenantId, workspaceId, actorId, traceId, authorizationPolicyVersion],
    isSafeId id = true

inductive ScopeType where
  | organization
  | workspace
  deriving DecidableEq

def ScopeType.text : ScopeType → String
  | organization => "organization"
  | workspace => "workspace"

structure Scope where
  tenantId : String
  scopeType : ScopeType
  workspaceId : Option String
  deriving DecidableEq

/-- `_key` of the reference store, `_workspace` of the other one. -/
def EgressPolicyContext.scope (context : EgressPolicyContext) (scopeType : ScopeType) : Scope where
  tenantId := context.tenantId
  scopeType := scopeType
  workspaceId := match scopeType with
    | .organization => none
    | .workspace => some context.workspaceId

inductive Mode where
  | denyExternal
  | allowApprovedExternal
  deriving DecidableEq

def Mode.text : Mode → String
  | denyExternal => "deny_external"
  | allowApprovedExternal => "allow_approved_external"

/-- `_PROVIDER_KINDS`. -/
inductive ProviderKind where
  | externalApi
  | serverInternal
  | localRuntime
  deriving DecidableEq

def ProviderKind.text : ProviderKind → String
  | externalApi => "external_api"
  | serverInternal => "server_internal"
  | localRuntime => "local_runtime"

/-- `_CLASSIFICATION_RANK`. -/
inductive Classification where
  | public_
  | internal
  | confidential
  | restricted
  deriving DecidableEq

def Classification.text : Classification → String
  | public_ => "public"
  | internal => "internal"
  | confidential => "confidential"
  | restricted => "restricted"

/-- `_APPROVER_RANK`. -/
inductive Approver where
  | workspaceManager
  | organizationAdmin
  deriving DecidableEq

def Approver.text : Approver → String
  | workspaceManager => "workspace_manager"
  | organizationAdmin => "organization_admin"

/-- `_DESTINATION.fullmatch`. -/
def isDestination (s : String) : Bool :=
  match s.toList with
  | [] => false
  | c :: cs => c.isAlphanum && cs.length ≤ 252 && (cs.getLast?.all Char.isAlphanum) &&
    cs.all fun d => d.isAlphanum || d = '.' || d = '-'

/-- The fields of an `EgressPolicyPayload`. -/
structure PayloadFields where
  mode : Mode
  allowedProviderKinds : List ProviderKind
  allowedDestinations : List String
  classification : Classification
  maxBytes : Nat
  maskingRequired : Bool
  redactionRequired : Bool
  requiredApprover : Approver
  questionStepUpRequired : Bool
  deriving DecidableEq

/-- `__post_init__`. -/
structure PayloadFields.Valid (p : PayloadFields) : Prop where
  bytes : p.maxBytes ≤ 104857600
  sizes : p.allowedProviderKinds.length ≤ 32 ∧ p.allowedDestinations.length ≤ 64
  distinct : p.allowedProviderKinds.Nodup ∧ p.allowedDestinations.Nodup
  destinations : ∀ destination ∈ p.allowedDestinations, isDestination destination = true
  denied : p.mode = .denyExternal → p.questionStepUpRequired = true ∧ p.allowedProviderKinds = [] ∧
    p.allowedDestinations = [] ∧ p.maxBytes = 0

structure EgressPolicyPayload where
  fields : PayloadFields
  valid : fields.Valid

def EgressPolicyPayload.denyExternal : EgressPolicyPayload where
  fields := ⟨.denyExternal, [], [], .restricted, 0, true, true, .organizationAdmin, true⟩
  valid := ⟨by decide, by decide, by decide, by simp, fun _ => ⟨rfl, rfl, rfl, rfl⟩⟩

def EgressPolicyPayload.asDict (payload : EgressPolicyPayload) : Json Int :=
  let p := payload.fields
  .obj ([("allowed_destinations", .arr (p.allowedDestinations.map .str)),
    ("allowed_provider_kinds", .arr (p.allowedProviderKinds.map fun kind => .str kind.text)),
    ("classification", .str p.classification.text), ("masking_required", .bool p.maskingRequired),
    ("max_bytes", .num p.maxBytes), ("mode", .str p.mode.text),
    ("redaction_required", .bool p.redactionRequired),
    ("required_approver", .str p.requiredApprover.text)] ++
    if p.questionStepUpRequired then [] else [("question_step_up_required", .bool false)])

/-- `digest_sha256`. -/
def EgressPolicyPayload.digest (sha256 : String → String) (payload : EgressPolicyPayload) : String :=
  sha256 payload.asDict.canonical

structure EgressPolicyBindingView where
  scope : Scope
  policyVersionId : String
  policyVersion : Nat
  policyState : String
  bindingId : String
  bindingVersion : Nat
  active : Bool
  current : Bool
  payload : EgressPolicyPayload

def EgressPolicyBindingView.etag (sha256 : String → String) (view : EgressPolicyBindingView) : String :=
  "\"egress-policy:" ++ view.scope.scopeType.text ++ ":" ++ toString view.bindingVersion ++ ":" ++
    view.payload.digest sha256 ++ "\""

/-- The same binding, which may have been replaced since. -/
def EgressPolicyBindingView.Same (view view' : EgressPolicyBindingView) : Prop :=
  { view with active := true, current := true } = { view' with active := true, current := true }

/-- The arguments of `create_and_activate`. -/
structure Call where
  context : EgressPolicyContext
  scopeType : ScopeType
  payload : EgressPolicyPayload
  expectedEtag : String
  idempotencyKey : String

def Call.scope (call : Call) : Scope := call.context.scope call.scopeType

def Call.fingerprint (sha256 : String → String) (call : Call) : String :=
  sha256 (Json.canonical (.obj [("scope_type", .str call.scopeType.text),
    ("payload", call.payload.asDict), ("expected_etag", .str call.expectedEtag)] : Json Int))

/-- What happens to a store. A database may abort the transaction of a call after its writes. -/
inductive Step where
  | seed (context : EgressPolicyContext) (scopeType : ScopeType) (payload : EgressPolicyPayload)
  | call (call : Call) (aborts : Bool)

abbrev Answer := Option (Except EgressPolicyError EgressPolicyBindingView)

/-! ## What a store has to do -/

/-- What is read off the state of a store: the current bindings of a scope, the fingerprint that is
recorded under the replay key of a call, and which calls have one replay key. -/
structure Store (σ : Type) where
  currents : σ → Scope → List EgressPolicyBindingView
  recorded : σ → Call → Option String
  sameKey : Call → Call → Prop

structure IsCall {σ : Type} (e : Event σ Step Answer) (call : Call)
    (result : Except EgressPolicyError EgressPolicyBindingView) : Prop where
  input : ∃ aborts, e.input = .call call aborts
  output : e.output = some result

structure LawfulCall {σ : Type} (store : Store σ) (sha256 : String → String) (call : Call) (s : σ)
    (result : Except EgressPolicyError EgressPolicyBindingView) (s' : σ) : Prop where
  /-- A call that is accepted and is no replay makes the next version, which is then the current one. -/
  accepted : ∀ view, result = .ok view → store.recorded s call = none →
    ∃ old, store.currents s call.scope = [old] ∧ store.currents s' call.scope = [view] ∧
      view.bindingVersion = old.bindingVersion + 1
  /-- A replay is answered and changes nothing. -/
  replay : store.recorded s call = some (call.fingerprint sha256) → s' = s ∧ ∃ view, result = .ok view
  /-- Another request under the same key is refused. -/
  reused : ∀ fingerprint ∈ store.recorded s call, fingerprint ≠ call.fingerprint sha256 →
    ∃ e, result = .error e
  refused : ∀ e, result = .error e → s' = s
  /-- No other scope's binding is returned or changed. -/
  isolated : (∀ view, result = .ok view → view.scope = call.scope) ∧
    ∀ scope, scope ≠ call.scope → store.currents s' scope = store.currents s scope

structure Lawful {σ : Type} (store : Store σ) (sha256 : String → String)
    (events : List (Event σ Step Answer)) : Prop where
  calls : ∀ e ∈ events, ∀ call result, IsCall e call result →
    LawfulCall store sha256 call e.pre result e.post
  /-- A scope has at most one current binding, and keeps having one. -/
  one : ∀ e ∈ events, ∀ scope, (store.currents e.post scope).length ≤ 1 ∧
    (store.currents e.pre scope ≠ [] → store.currents e.post scope ≠ [])
  /-- A replay returns the binding of the first call. -/
  first : events.Pairwise fun e e' => ∀ call call' view view', IsCall e call (.ok view) →
    store.recorded e.pre call = none → IsCall e' call' (.ok view') → store.sameKey call call' →
    view.Same view'

end DaonUser.Egress
