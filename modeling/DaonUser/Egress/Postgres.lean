import DaonUser.Egress.Reference
import Mathlib.Data.List.Nodup

/-!
# The egress policies in PostgreSQL

The three tables that `PostgresEgressPolicyRepository.create_and_activate` uses, with the keys that can
refuse a row, and the seeds of `seed_scope`. A transaction sees the rows of its tenant that belong to no
workspace or to its own. Calls come one after the other, so that the locks wait for nothing and
`latest_row` is `current_row`.
-/

namespace DaonUser.Egress.Postgres

open Lib

/-! ## Tables -/

/-- A row of `egress_policy_versions`. All are `active`, and `canonical_json` is the payload's. -/
structure VersionRow where
  scope : Scope
  policyVersionId : String
  policyVersion : Nat
  payload : EgressPolicyPayload
  createdBy : String
  traceId : String

/-- A row of `egress_policy_bindings`. -/
structure BindingRow where
  scope : Scope
  bindingId : String
  policyVersionId : String
  bindingVersion : Nat
  active : Bool
  current : Bool
  createdBy : String
  traceId : String

/-- The primary key of `idempotency_records`. The operation is `egress_policy.{scope_type}.activate`. -/
structure RecordKey where
  tenantId : String
  workspaceId : String
  actorId : String
  operation : ScopeType
  idempotencyKey : String
  deriving DecidableEq

def RecordKey.scope (key : RecordKey) : Scope where
  tenantId := key.tenantId
  scopeType := key.operation
  workspaceId := match key.operation with
    | .organization => none
    | .workspace => some key.workspaceId

/-- A row of `idempotency_records`. -/
structure RecordRow where
  key : RecordKey
  fingerprint : String
  policyVersionId : String
  bindingId : String

structure Tables where
  versions : List VersionRow
  bindings : List BindingRow
  records : List RecordRow

def empty : Tables := ⟨[], [], []⟩

def recordKey (call : Call) : RecordKey :=
  ⟨call.context.tenantId, call.context.workspaceId, call.context.actorId, call.scopeType,
    call.idempotencyKey⟩

/-- The policy of the tables lets the transactions of a context see the rows of a scope. -/
def visible (context : EgressPolicyContext) (scope : Scope) : Bool :=
  scope.tenantId = context.tenantId &&
    (scope.workspaceId = none || scope.workspaceId = some context.workspaceId)

def view (version : VersionRow) (binding : BindingRow) : EgressPolicyBindingView where
  scope := binding.scope
  policyVersionId := version.policyVersionId
  policyVersion := version.policyVersion
  policyState := "active"
  bindingId := binding.bindingId
  bindingVersion := binding.bindingVersion
  active := binding.active
  current := binding.current
  payload := version.payload

/-- The version that a binding is joined with, which its primary key determines. -/
def joins (binding : BindingRow) (version : VersionRow) : Bool :=
  version.scope.tenantId = binding.scope.tenantId && version.policyVersionId = binding.policyVersionId

def viewOf (versions : List VersionRow) (binding : BindingRow) : Option EgressPolicyBindingView :=
  (versions.find? (joins binding)).map (view · binding)

def rows (context : EgressPolicyContext) (s : Tables) : List EgressPolicyBindingView :=
  (s.bindings.filter (visible context ·.scope)).filterMap
    (viewOf (s.versions.filter (visible context ·.scope)))

def selectCurrent (context : EgressPolicyContext) (scope : Scope) (s : Tables) :
    Option EgressPolicyBindingView :=
  (rows context s).find? fun view => view.scope = scope && view.current

def selectIds (context : EgressPolicyContext) (record : RecordRow) (s : Tables) :
    Option EgressPolicyBindingView :=
  (rows context s).find? fun view =>
    view.policyVersionId = record.policyVersionId && view.bindingId = record.bindingId

/-- The keys of `egress_policy_versions` admit the row. -/
def AdmitsVersion (versions : List VersionRow) (row : VersionRow) : Prop :=
  ∀ other ∈ versions, ¬(other.scope.tenantId = row.scope.tenantId ∧
    other.policyVersionId = row.policyVersionId) ∧
    ¬(other.scope = row.scope ∧ other.policyVersion = row.policyVersion)

instance (versions : List VersionRow) (row : VersionRow) : Decidable (AdmitsVersion versions row) :=
  inferInstanceAs (Decidable (∀ other ∈ versions, _))

/-- The keys of `egress_policy_bindings` admit the row, which is current. -/
def AdmitsBinding (bindings : List BindingRow) (row : BindingRow) : Prop :=
  ∀ other ∈ bindings, ¬(other.scope.tenantId = row.scope.tenantId ∧ other.bindingId = row.bindingId) ∧
    ¬(other.scope = row.scope ∧ other.bindingVersion = row.bindingVersion) ∧
    ¬(other.scope = row.scope ∧ other.current = true)

instance (bindings : List BindingRow) (row : BindingRow) : Decidable (AdmitsBinding bindings row) :=
  inferInstanceAs (Decidable (∀ other ∈ bindings, _))

/-! ## Transactions -/

def identifier (sha256 : String → String) (kind : String) (parts : List String) : String :=
  kind ++ String.ofList ((sha256 ("\x1f".intercalate parts)).toList.take 32)

def scopeKey (call : Call) : String :=
  match call.scopeType with
  | .organization => call.context.tenantId
  | .workspace => call.context.workspaceId

def nextVersion (sha256 : String → String) (call : Call) (current : EgressPolicyBindingView) :
    VersionRow where
  scope := call.scope
  policyVersionId := identifier sha256 "egress-policy-" [call.context.tenantId, scopeKey call,
    call.scopeType.text, toString (current.policyVersion + 1), call.payload.digest sha256]
  policyVersion := current.policyVersion + 1
  payload := call.payload
  createdBy := call.context.actorId
  traceId := call.context.traceId

def nextBinding (sha256 : String → String) (call : Call) (current : EgressPolicyBindingView) :
    BindingRow where
  scope := call.scope
  bindingId := identifier sha256 "egress-binding-" [call.context.tenantId, scopeKey call,
    call.scopeType.text, toString (current.bindingVersion + 1),
    (nextVersion sha256 call current).policyVersionId]
  policyVersionId := (nextVersion sha256 call current).policyVersionId
  bindingVersion := current.bindingVersion + 1
  active := true
  current := true
  createdBy := call.context.actorId
  traceId := call.context.traceId

/-- The `UPDATE` of the binding with an id. -/
def replaced (context : EgressPolicyContext) (bindingId : String) (row : BindingRow) : BindingRow :=
  if visible context row.scope && row.bindingId = bindingId && row.active && row.current then
    { row with active := false, current := false }
  else row

def recordOf (sha256 : String → String) (call : Call) (current : EgressPolicyBindingView) : RecordRow where
  key := recordKey call
  fingerprint := call.fingerprint sha256
  policyVersionId := (nextVersion sha256 call current).policyVersionId
  bindingId := (nextBinding sha256 call current).bindingId

/-- The writes of a call. The version is there when the guard of the binding looks for it. -/
def activated (sha256 : String → String) (call : Call) (current : EgressPolicyBindingView)
    (s : Tables) : Tables where
  versions := s.versions ++ [nextVersion sha256 call current]
  bindings := s.bindings.map (replaced call.context current.bindingId) ++
    [nextBinding sha256 call current]
  records := s.records ++ [recordOf sha256 call current]

def Admits (sha256 : String → String) (call : Call) (current : EgressPolicyBindingView)
    (s : Tables) : Prop :=
  AdmitsVersion s.versions (nextVersion sha256 call current) ∧
    AdmitsBinding (s.bindings.map (replaced call.context current.bindingId))
      (nextBinding sha256 call current)

instance (sha256 : String → String) (call : Call) (current : EgressPolicyBindingView) (s : Tables) :
    Decidable (Admits sha256 call current s) :=
  inferInstanceAs (Decidable (_ ∧ _))

def isKey (key : String) : Bool := key ≠ "" && key.toList.length ≤ 255

def createAndActivate (sha256 : String → String) (call : Call) (aborts : Bool) (s : Tables) :
    Except EgressPolicyError EgressPolicyBindingView × Tables :=
  if isKey call.idempotencyKey = false then (.error .idempotencyKeyInvalid, s)
  else match s.records.find? (·.key = recordKey call) with
    | some record =>
      if record.fingerprint ≠ call.fingerprint sha256 then (.error .idempotencyKeyReused, s)
      else match selectIds call.context record s with
        | some view => (.ok view, s)
        | none => (.error .unavailable, s)
    | none =>
      match selectCurrent call.context call.scope s with
      | none => (.error .unavailable, s)
      | some current =>
        if current.etag sha256 ≠ call.expectedEtag then (.error .versionConflict, s)
        else if Admits sha256 call current s ∧ aborts = false then
          (.ok (view (nextVersion sha256 call current) (nextBinding sha256 call current)),
            activated sha256 call current s)
        else (.error .database, s)

/-- `f"{tenant}:organization"` or `f"{tenant}:{workspace}"`. -/
def seedName (scope : Scope) : String := scope.tenantId ++ ":" ++ scope.workspaceId.getD "organization"

def seedVersion (md5 : String → String) (scope : Scope) (payload : EgressPolicyPayload) : VersionRow where
  scope := scope
  policyVersionId := "egress-backfill-policy:" ++ md5 (seedName scope)
  policyVersion := 1
  payload := payload
  createdBy := "runtime:seed_scope"
  traceId := "runtime:seed_scope:" ++ md5 (seedName scope)

def seedBinding (md5 : String → String) (scope : Scope) : BindingRow where
  scope := scope
  bindingId := "egress-backfill-binding:" ++ md5 (seedName scope)
  policyVersionId := "egress-backfill-policy:" ++ md5 (seedName scope)
  bindingVersion := 1
  active := true
  current := true
  createdBy := "runtime:seed_scope"
  traceId := "runtime:seed_scope:" ++ md5 (seedName scope)

/-- `INSERT … ON CONFLICT DO NOTHING` of the first version. -/
def seededVersions (md5 : String → String) (scope : Scope) (payload : EgressPolicyPayload)
    (versions : List VersionRow) : List VersionRow :=
  if AdmitsVersion versions (seedVersion md5 scope payload) then
    versions ++ [seedVersion md5 scope payload]
  else versions

/-- The seeds of a scope, where it has no current binding. The guard of the bindings asks for a version of
the scope. -/
def seed (md5 : String → String) (scope : Scope) (payload : EgressPolicyPayload) (s : Tables) : Tables :=
  let versions := seededVersions md5 scope payload s.versions
  let binding := seedBinding md5 scope
  if ∃ row ∈ s.bindings, row.scope = scope ∧ row.current = true then s
  else if ∃ version ∈ versions, version.scope = scope ∧
      version.policyVersionId = binding.policyVersionId then
    { s with
      versions := versions
      bindings := if AdmitsBinding s.bindings binding then s.bindings ++ [binding] else s.bindings }
  else s

def machine (sha256 md5 : String → String) : Machine Tables Step Answer where
  init := empty
  step s step := match step with
    | .seed context scopeType payload => (none, seed md5 (context.scope scopeType) payload s)
    | .call call aborts =>
      (some (createAndActivate sha256 call aborts s).1, (createAndActivate sha256 call aborts s).2)

def store : Store Tables where
  currents s scope :=
    (s.bindings.filter fun row => row.scope = scope && row.current).filterMap (viewOf s.versions)
  recorded s call := (s.records.find? (·.key = recordKey call)).map (·.fingerprint)
  sameKey call call' := recordKey call = recordKey call'

end DaonUser.Egress.Postgres
