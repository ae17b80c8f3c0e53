import DaonUser.Base
import DaonUser.Lib.Call
import DaonUser.Lib.Dict
import Mathlib.Algebra.Group.Int.Defs
import Mathlib.Data.List.Sort
import Mathlib.Data.Rat.Defs
import Mathlib.Data.String.Basic

/-!
# Licenses: documents, the view of a license, and what it allows

`verify_document` makes a license of the claims of a document, whose signature the verifier checks.
`LicenseService.get` shows the license that is stored, and `require_creation` asks it before something is
created. What the ports of the service answer is part of the state.
-/

namespace DaonUser.License

open Lib

/-! ## Errors -/

/-- A `LicenseError` with its status, or an error of the language. -/
inductive Exn where
  | license (code : String) (status : Nat)
  | typeError
  deriving DecidableEq

/-- `raise LicenseError(code, status)`. -/
def fail {α : Type} (code : String) (status : Nat) : Except Exn α := .error (.license code status)

/-- `_SAFE_CODE.fullmatch`. -/
def isSafeCode (s : String) : Bool :=
  match s.toList with
  | [] => false
  | c :: cs => c.isLower && cs.all (fun d => d.isLower || d.isDigit || d == '_') && cs.length ≤ 63

def resourceCodes : List String := ["users", "notebooks"]

def defaultResourceLimits : List (String × Int) := [("users", 1), ("notebooks", 1)]

def defaultFeatures : List String := ["llm_access"]

def claimKeys : List String :=
  ["schema_version", "license_id", "product", "edition", "organization_id", "issued_at", "expires_at",
    "features", "resource_limits"]

def creationActions : List (String × String × List String) :=
  [("studio.generate", "llm_access", []), ("notebook.create", "notebook_management", ["notebooks"])]

/-! ## Documents -/

inductive Claim where
  | int (n : Int)
  | bool (b : Bool)
  | float (q : Rat)
  | str (s : String)
  | list (items : List Claim)
  | mapping (members : List (String × Claim))
  | null

structure LicenseContext where
  tenantId : String
  workspaceId : String
  safe : [tenantId, workspaceId].all isSafeId = true

/-- `VerifiedLicense`, as `verify_document` makes it. -/
structure VerifiedLicense where
  licenseId : String
  product : String
  edition : String
  organizationId : String
  issuedAt : Int
  expiresAt : Int
  features : List String
  resourceLimits : List (String × Int)
  claimsDigest : String
  keyId : String
  lasting : issuedAt < expiresAt
  sortedFeatures : features.Pairwise (· < ·)
  limited : ∀ limit ∈ resourceLimits, limit.1 ∈ resourceCodes ∧ 1 ≤ limit.2 ∧ limit.2 ≤ 2 ^ 63 - 1
  sortedLimits : (resourceLimits.map (·.1)).Pairwise (· < ·)

structure Primitives where
  /-- `verifier.verify`: the claims, their digest and the id of the key. -/
  verify : Claim → Except Exn (List (String × Claim) × String × String)
  /-- `datetime.fromisoformat`: the time, in UTC, and the offset. -/
  fromisoformat : String → Option (Int × Int)
  productCode : String

/-- `value == 1`. -/
def Claim.isOne : Claim → Bool
  | .int n => n = 1
  | .bool b => b
  | .float q => q = 1
  | _ => false

def safeClaimText : Option Claim → Except Exn String
  | some (.str s) => if isSafeId s then .ok s else fail "LICENSE_DOCUMENT_INVALID" 400
  | _ => fail "LICENSE_DOCUMENT_INVALID" 400

def utcTimestamp (prim : Primitives) : Option Claim → Except Exn Int
  | some (.str s) =>
    if s.toList.getLast? = some 'Z' then
      match prim.fromisoformat (String.ofList s.toList.dropLast ++ "+00:00") with
      | some (time, 0) => .ok time
      | _ => fail "LICENSE_DOCUMENT_INVALID" 400
    else fail "LICENSE_DOCUMENT_INVALID" 400
  | _ => fail "LICENSE_DOCUMENT_INVALID" 400

def sortedFeatures? : Option Claim → Option { features : List String // features.Pairwise (· < ·) }
  | some (.list items) => do
    let features ← items.mapM fun
      | .str s => if isSafeCode s then some s else none
      | _ => none
    if h : features.Pairwise (· < ·) then
      if 1 ≤ features.length ∧ features.length ≤ 64 then some ⟨features, h⟩ else none
    else none
  | _ => none

abbrev Limit :=
  { limit : String × Int // limit.1 ∈ resourceCodes ∧ 1 ≤ limit.2 ∧ limit.2 ≤ 2 ^ 63 - 1 }

/-- One of the `resource_limits`. -/
def limit? : String × Claim → Option Limit
  | (resource, .int limit) =>
    if h : resource ∈ resourceCodes ∧ 1 ≤ limit ∧ limit ≤ 2 ^ 63 - 1 then some ⟨(resource, limit), h⟩
    else none
  | _ => none

def normalizedLimits? : Option Claim →
    Option { limits : List Limit // ((limits.map (·.1)).map (·.1)).Pairwise (· < ·) }
  | some (.mapping members) => do
    if 1 ≤ members.length ∧ members.length ≤ 64 then
      let limits ← members.mapM limit?
      if h : ((limits.map (·.1)).map (·.1)).Pairwise (· < ·) then some ⟨limits, h⟩ else none
    else none
  | _ => none

/-- `verify_document`, at the time of the clock. -/
def verifyDocument (prim : Primitives) (context : LicenseContext) (now : Int) (document : Claim) :
    Except Exn VerifiedLicense := do
  let (claims, claimsDigest, keyId) ← prim.verify document
  let field := fun key => claims.lookup key
  if ¬((∀ member ∈ claims, member.1 ∈ claimKeys) ∧ (∀ key ∈ claimKeys, key ∈ claims.map (·.1)) ∧
      (field "schema_version").any Claim.isOne) then
    fail "LICENSE_SCHEMA_UNSUPPORTED" 400
  let product ← safeClaimText (field "product")
  if product ≠ prim.productCode then fail "LICENSE_PRODUCT_MISMATCH" 400
  let organizationId ← safeClaimText (field "organization_id")
  if organizationId ≠ context.tenantId then fail "LICENSE_ORGANIZATION_MISMATCH" 403
  let issuedAt ← utcTimestamp prim (field "issued_at")
  let expiresAt ← utcTimestamp prim (field "expires_at")
  if h : now + 300000000 < issuedAt ∨ expiresAt ≤ issuedAt then fail "LICENSE_PERIOD_INVALID" 400
  else if expiresAt ≤ now then fail "LICENSE_EXPIRED" 409
  else
    match sortedFeatures? (field "features"), normalizedLimits? (field "resource_limits") with
    | some features, some limits => do
      let licenseId ← safeClaimText (field "license_id")
      if licenseId.toList.length < 5 then fail "LICENSE_DOCUMENT_INVALID" 400
      let edition ← safeClaimText (field "edition")
      return {
        licenseId, product, edition, organizationId, issuedAt, expiresAt
        features := features.1
        resourceLimits := limits.1.map (·.1)
        claimsDigest, keyId
        lasting := not_le.1 fun hle => h (Or.inr hle)
        sortedFeatures := features.2
        limited := fun limit hlimit => by
          obtain ⟨checked, -, rfl⟩ := List.mem_map.1 hlimit
          exact checked.2
        sortedLimits := limits.2 }
    | _, _ => fail "LICENSE_DOCUMENT_INVALID" 400

/-! ## The view -/

inductive Amount where
  | int (n : Int)
  | bool (b : Bool)
  | other
  deriving DecidableEq

/-- What the ports answer: `repository.current`, the clock and the reader of the usage. -/
structure State where
  stored : Option VerifiedLicense
  now : Int
  usage : Dict String Amount

/-- `usage.get(resource, 0)`, checked. -/
def used (usage : Dict String Amount) (resource : String) : Except Exn Int :=
  match (usage.get? resource).getD (.int 0) with
  | .int n => if n < 0 then fail "LICENSE_USAGE_UNAVAILABLE" 503 else .ok n
  | _ => fail "LICENSE_USAGE_UNAVAILABLE" 503

/-- An item of `resources`. -/
structure ResourceView where
  resource : String
  limit : Int
  used : Int
  remaining : Int
  status : String
  deriving DecidableEq

/-- What `get` returns. -/
structure LicenseView where
  product : String
  edition : Option String
  licenseIdHint : Option String
  issuedAt : Option Int
  expiresAt : Option Int
  status : String
  features : List String
  resources : List ResourceView
  /-- The `code` and the `action`. -/
  warning : Option (String × String)
  creationAllowed : Bool
  existingReadAllowed : Bool
  existingExportAllowed : Bool
  deriving DecidableEq

/-- The items of `resources`. -/
def resourceViews (usage : Dict String Amount) (limits : List (String × Int)) :
    Except Exn (List ResourceView) :=
  limits.mapM fun (resource, limit) => do
    let used ← used usage resource
    return { resource, limit, used, remaining := max 0 (limit - used),
             status := if limit ≤ used then "limit_reached" else "available" }

/-- `text[-5:]`. -/
def lastFive (text : String) : String := String.ofList (text.toList.drop (text.toList.length - 5))

def view (s : State) (stored : VerifiedLicense) : Except Exn LicenseView := do
  let resources ← resourceViews s.usage stored.resourceLimits
  let limitReached := resources.any fun item => item.limit ≤ item.used
  let expired : Bool := stored.expiresAt ≤ s.now
  let expiring := !expired && decide (stored.expiresAt - s.now ≤ 30 * 86400 * 1000000)
  let (status, warning) : String × Option (String × String) :=
    if expired then
      ("expired", some ("LICENSE_EXPIRED", "조직 관리자에게 라이선스 갱신을 요청하세요."))
    else if limitReached then
      ("limit_reached", some ("LICENSE_RESOURCE_LIMIT_REACHED",
        "사용량을 확인하거나 조직 관리자에게 한도 변경을 요청하세요."))
    else if expiring then
      ("expiring_soon", some ("LICENSE_EXPIRES_WITHIN_30_DAYS", "조직 관리자에게 라이선스 갱신을 요청하세요."))
    else ("active", none)
  return {
    product := stored.product
    edition := some stored.edition
    licenseIdHint := some ("…" ++ lastFive stored.licenseId)
    issuedAt := some stored.issuedAt
    expiresAt := some stored.expiresAt
    status, features := stored.features, resources, warning
    creationAllowed := !expired && !limitReached
    existingReadAllowed := true
    existingExportAllowed := true }

/-- `LicenseService.get`. -/
def get (prim : Primitives) (s : State) : Except Exn LicenseView :=
  match s.stored with
  | some stored => view s stored
  | none => do
    let resources ← resourceViews s.usage defaultResourceLimits
    let notebooks ← used s.usage "notebooks"
    return {
      product := prim.productCode
      edition := none
      licenseIdHint := none
      issuedAt := none
      expiresAt := none
      status := "not_configured"
      features := defaultFeatures
      resources
      warning := some ("LICENSE_NOT_CONFIGURED", "조직 관리자에게 라이선스 적용을 요청하세요.")
      creationAllowed := notebooks < 1
      existingReadAllowed := true
      existingExportAllowed := true }

def requireLlmAccess (s : State) : Except Exn Unit :=
  match s.stored with
  | none => .ok ()
  | some stored =>
    if stored.expiresAt ≤ s.now then fail "LICENSE_EXPIRED" 409
    else if "llm_access" ∉ stored.features then fail "LICENSE_FEATURE_NOT_ALLOWED" 409
    else .ok ()

def Amount.value : Amount → Except Exn Int
  | .int n => .ok n
  | .bool b => .ok b.toInt
  | .other => .error .typeError

def Amount.isIncrement : Amount → Bool
  | .int n => 1 ≤ n
  | _ => false

def requireLimit (limit used : Int) : Except Exn Unit :=
  if limit < used then fail "LICENSE_RESOURCE_LIMIT_REACHED" 409 else .ok ()

/-- What `require_creation` asks for an increment where no license is stored. -/
def requireDefault (s : State) (increment : String × Amount) : Except Exn Unit := do
  let used ← ((s.usage.get? increment.1).getD (.int 0)).value
  let amount ← increment.2.value
  requireLimit ((defaultResourceLimits.lookup increment.1).getD 0) (used + amount)

def requireIncrement (s : State) (stored : VerifiedLicense) (increment : String × Amount) :
    Except Exn Unit :=
  match (Dict.ofList stored.resourceLimits).get? increment.1 with
  | none => .ok ()
  | some limit => do
    let used ← used s.usage increment.1
    let amount ← increment.2.value
    requireLimit limit (used + amount)

def requireCreation (s : State) (action : String) (increments : Dict String Amount) : Except Exn Unit :=
  if action = "source.create" then .ok ()
  else if action = "studio.generate" then requireLlmAccess s
  else
    match creationActions.lookup action with
    | none => fail "LICENSE_CREATION_ACTION_INVALID" 400
    | some (feature, allowedResources) =>
      if increments.entries = [] ∨ increments.entries.any (fun increment =>
          increment.1 ∉ allowedResources || !increment.2.isIncrement) then
        fail "LICENSE_CREATION_ACTION_INVALID" 400
      else
        match s.stored with
        | none => increments.entries.forM (requireDefault s)
        | some stored =>
          if stored.expiresAt ≤ s.now then fail "LICENSE_EXPIRED" 409
          else if feature ∉ stored.features then fail "LICENSE_FEATURE_NOT_ALLOWED" 409
          else increments.entries.forM (requireIncrement s stored)

end DaonUser.License
