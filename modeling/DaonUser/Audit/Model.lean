import DaonUser.Base
import DaonUser.Lib.Dict
import DaonUser.Lib.Json

/-!
# Audit: events and their validation

The drafts that are appended, what `_validate_draft` makes of them, and the text over which an event is
hashed. A projection is any Python value; `_freeze_json` and `_thaw_json` turn it back and forth
between what the store keeps and what `json.dumps` writes.

The digest, `str.casefold`, `ipaddress.ip_address` and `urlsplit` are parameters: nothing is assumed
of them but the form of a digest.
-/

namespace DaonUser.Audit

open Lib

/-! ## Values -/

inductive PyFloat where
  | finite (d : Decimal)
  | infinite (negative : Bool)
  | nan
  deriving DecidableEq

/-- A Python value. A mapping is a `dict` or not; a key that is not a `str` is `none`. -/
inductive Value where
  | none
  | bool (b : Bool)
  | int (n : Int)
  | float (f : PyFloat)
  | str (s : String)
  | mapping (isDict : Bool) (items : List (Option String × Value))
  | list (items : List Value)
  | tuple (items : List Value)
  | other

inductive Number where
  | int (n : Int)
  | float (d : Decimal)
  deriving DecidableEq

namespace Number

/-- `int.__repr__` and `float.__repr__`. -/
def numeral : Number → Numeral
  | int n => ⟨n < 0, Nat.toDigits 10 n.natAbs, [], Option.none⟩
  | float d => d.shortest

theorem numeral_wellFormed (x : Number) : x.numeral.WellFormed := by
  cases x with
  | int n => exact ⟨isDigit_toDigits, Nat.toDigits_ne_nil, by simp [numeral]⟩
  | float d => exact d.shortest_wellFormed

theorem numeral_injective {x y : Number} (h : x.numeral = y.numeral) : x = y := by
  cases x with
  | int n =>
    cases y with
    | int m =>
      obtain ⟨hsign, hdigits, -⟩ := Numeral.mk.inj h
      have habs : n.natAbs = m.natAbs := by
        rw [← Nat.ofDigitChars_ten_toDigits (n := n.natAbs), hdigits, Nat.ofDigitChars_ten_toDigits]
      rw [decide_eq_decide] at hsign
      congr 1
      omega
    | float d =>
      have hmarked := d.shortest_marked
      rw [show d.shortest = (int n).numeral from h.symm] at hmarked
      simp [numeral] at hmarked
  | float d =>
    cases y with
    | int m =>
      have hmarked := d.shortest_marked
      rw [show d.shortest = (int m).numeral from h] at hmarked
      simp [numeral] at hmarked
    | float d' => exact congrArg float (Decimal.shortest_injective h)

instance : JsonNumber Number where
  chars x := x.numeral.chars
  numeral x := Numeral.isNumeralChar_chars x.numeral_wellFormed
  nonempty x := Numeral.chars_ne_nil x.numeral_wellFormed
  injective x y h :=
    numeral_injective (Numeral.chars_injective x.numeral_wellFormed y.numeral_wellFormed h)

end Number

/-- What `ipaddress.ip_address` knows of an address. -/
structure IpAddress where
  text : String
  isPrivate : Bool
  isLoopback : Bool
  isLinkLocal : Bool
  isReserved : Bool
  isUnspecified : Bool

structure Primitives where
  /-- `hashlib.sha256(text.encode("utf-8")).hexdigest()`. -/
  sha256 : String → String
  digest : ∀ text, isDigest (sha256 text) = true
  /-- `str.casefold`. -/
  casefold : String → String
  /-- `ipaddress.ip_address`, `none` where it raises. -/
  ipAddress : String → Option IpAddress
  /-- `urlsplit(candidate).hostname`, `none` where it raises. -/
  hostname : String → Option (Option String)

inductive AuditError where
  | validation (code : String)
  | valueError
  | typeError
  | overflow
  | database
  deriving DecidableEq

def fail {α : Type} (code : String) : Except AuditError α := .error (.validation code)

def maxTextLength : Nat := 128

def validateText (value : Option String) (fieldName : String) : Except AuditError String :=
  match value with
  | none => fail ("INVALID_" ++ fieldName)
  | some value =>
    if value.toList ≠ stripChars isSpace value.toList ∨ value = "" ∨
        maxTextLength < value.toList.length then
      fail ("INVALID_" ++ fieldName)
    else if value.toList.any fun c => c.toNat < 32 then fail ("INVALID_" ++ fieldName)
    else .ok value

structure Utc where
  year : Nat
  month : Nat
  day : Nat
  hour : Nat
  minute : Nat
  second : Nat
  microsecond : Nat
  inRange : (1 ≤ year ∧ year ≤ 9999) ∧ (1 ≤ month ∧ month ≤ 12) ∧ (1 ≤ day ∧ day ≤ 31) ∧
    hour < 24 ∧ minute < 60 ∧ second < 60 ∧ microsecond < 1000000
  deriving DecidableEq

namespace Utc

def fields (t : Utc) : List Nat :=
  [t.year, t.month, t.day, t.hour, t.minute, t.second, t.microsecond]

instance : LE Utc where
  le t u := t.fields ≤ u.fields

instance (t u : Utc) : Decidable (t ≤ u) := inferInstanceAs (Decidable (t.fields ≤ u.fields))

end Utc

/-- A `datetime`: its fields in UTC and its `utcoffset()` in microseconds, `none` when it has none. -/
structure DateTime where
  utc : Utc
  utcoffset : Option Int
  deriving DecidableEq

def validateUtc (value : Option DateTime) (fieldName : String) : Except AuditError DateTime :=
  match value with
  | none => fail ("INVALID_" ++ fieldName)
  | some value =>
    if value.utcoffset = none ∨ value.utcoffset ≠ some 0 then fail ("INVALID_" ++ fieldName)
    else .ok { value with utcoffset := some 0 }

def canonicalTime (value : DateTime) : String :=
  String.ofList (Numeral.padded 4 value.utc.year ++ '-' :: Numeral.padded 2 value.utc.month ++ '-' ::
    Numeral.padded 2 value.utc.day ++ 'T' :: Numeral.padded 2 value.utc.hour ++ ':' ::
    Numeral.padded 2 value.utc.minute ++ ':' :: Numeral.padded 2 value.utc.second ++ '.' ::
    Numeral.padded 6 value.utc.microsecond ++ ['Z'])

/-! ## Hosts -/

def forbiddenKeyParts : List String :=
  ["password", "secret", "token", "credential", "apikey", "rawprovidererror", "internalurl",
    "internalhost", "dbhost", "dockerhost"]

def forbiddenValueHosts : List String := ["localhost", "host.docker.internal", "docker.internal"]

/-- `[a-z]` where the case is ignored. -/
def isLetter (c : Char) : Bool := c.isAlpha || [0x130, 0x131, 0x17f, 0x212a].contains c.toNat

/-- `[a-z0-9]` where the case is ignored. -/
def isAlnum (c : Char) : Bool := isLetter c || c.isDigit

/-- `_ABSOLUTE_ENDPOINT_PATTERN.match`. -/
def isAbsoluteEndpoint : List Char → Bool
  | [] => false
  | c :: cs =>
    isLetter c &&
      "://".toList.isPrefixOf (cs.dropWhile fun c => isAlnum c || "+.-".toList.contains c)

/-- A port in `_HOST_PORT_PATTERN`. -/
def isPort (cs : List Char) : Bool := cs ≠ [] && cs.length ≤ 5 && cs.all (·.isDigit)

/-- The host of `_HOST_PORT_PATTERN.fullmatch`. -/
def hostPort (cs : List Char) : Option (List Char) :=
  match cs with
  | '[' :: rest =>
    match rest.takeWhile (· ≠ ']'), rest.dropWhile (· ≠ ']') with
    | host, ']' :: ':' :: port => if host ≠ [] ∧ isPort port then some host else none
    | _, _ => none
  | cs =>
    match cs.takeWhile fun c => isAlnum c || ".-".toList.contains c,
      cs.dropWhile fun c => isAlnum c || ".-".toList.contains c with
    | host, ':' :: port => if host ≠ [] ∧ isPort port then some host else none
    | _, _ => none

/-- A label of `_RAW_HOST_PATTERN`. -/
def isLabel (cs : List Char) : Bool :=
  cs.head?.any isAlnum && cs.getLast?.any isAlnum && cs.all (fun c => isAlnum c || c = '-') &&
    cs.length ≤ 63

/-- `_RAW_HOST_PATTERN.fullmatch`. -/
def isRawHost (cs : List Char) : Bool :=
  let body := if cs.getLast? = some '.' then cs.dropLast else cs
  body.length ≤ 253 && (body.splitOn '.').all isLabel

section Library

variable (prim : Primitives)

def normalizedKey (value : String) : List Char :=
  (prim.casefold value).toList.filter fun c => c.isLower || c.isDigit

def isForbiddenHost (hostname : String) : Bool :=
  let normalized := ((prim.casefold hostname).toList.reverse.dropWhile (· = '.')).reverse
  if forbiddenValueHosts.contains (String.ofList normalized) then true
  else if ".internal".toList.isSuffixOf normalized || ".local".toList.isSuffixOf normalized then true
  else
    match prim.ipAddress (String.ofList normalized) with
    | none => false
    | some address =>
      address.isPrivate || address.isLoopback || address.isLinkLocal || address.isReserved ||
        address.isUnspecified

def validateStringValue (value : String) : Except AuditError Unit :=
  let candidate := stripChars isSpace value.toList
  let rawAddress :=
    if 2 ≤ candidate.length ∧ candidate.head? = some '[' ∧ candidate.getLast? = some ']' then
      candidate.tail.dropLast
    else candidate
  if (prim.ipAddress (String.ofList rawAddress)).any (isForbiddenHost prim ·.text) then
    fail "UNSAFE_JSON_VALUE"
  else if "//".toList.isPrefixOf candidate || isAbsoluteEndpoint candidate then
    match prim.hostname (String.ofList candidate) with
    | none => fail "UNSAFE_JSON_VALUE"
    | some none => .ok ()
    | some (some host) =>
      if host ≠ "" ∧ isForbiddenHost prim host then fail "UNSAFE_JSON_VALUE" else .ok ()
  else
    match hostPort candidate with
    | some host =>
      if isForbiddenHost prim (String.ofList host) then fail "UNSAFE_JSON_VALUE" else .ok ()
    | none =>
      if isRawHost candidate ∧ isForbiddenHost prim (String.ofList candidate) then
        fail "UNSAFE_JSON_VALUE"
      else .ok ()

/-! ## Projections -/

/-- The checks of a key in `_freeze_json`. -/
def checkKey (key : Option String) : Except AuditError Unit :=
  match key with
  | none => fail "INVALID_JSON_KEY"
  | some key =>
    if key = "" ∨ maxTextLength < key.toList.length then fail "INVALID_JSON_KEY"
    else if forbiddenKeyParts.any fun part =>
        (normalizedKey prim key).tails.any fun rest => part.toList.isPrefixOf rest then
      fail "FORBIDDEN_JSON_KEY"
    else .ok ()

def maxJsonDepth : Nat := 8

mutual

def freezeJson (depth : Nat) (value : Value) : Except AuditError Value :=
  if maxJsonDepth < depth then fail "JSON_DEPTH_EXCEEDED"
  else
    match value with
    | .none => .ok .none
    | .bool b => .ok (.bool b)
    | .int n => .ok (.int n)
    | .str s => do
      validateStringValue prim s
      return .str s
    | .float (.finite d) => .ok (.float (.finite d))
    | .float _ => fail "NON_FINITE_JSON_NUMBER"
    | .mapping _ items => do return .mapping false (← freezeItems depth items [])
    | .list items => do return .tuple (← freezeList depth items)
    | .tuple _ => fail "NON_JSON_VALUE"
    | .other => fail "NON_JSON_VALUE"

def freezeItems (depth : Nat) :
    List (Option String × Value) → List (Option String × Value) →
      Except AuditError (List (Option String × Value))
  | [], frozen => .ok frozen
  | (key, item) :: items, frozen => do
    checkKey prim key
    let value ← freezeJson (depth + 1) item
    freezeItems depth items (Dict.put key value frozen)

def freezeList (depth : Nat) : List Value → Except AuditError (List Value)
  | [] => .ok []
  | item :: items => do
    let value ← freezeJson (depth + 1) item
    return value :: (← freezeList depth items)

end

end Library

mutual

def thawJson : Value → Value
  | .none => .none
  | .bool b => .bool b
  | .int n => .int n
  | .float f => .float f
  | .str s => .str s
  | .mapping _ items => .mapping true (thawItems items [])
  | .list items => .list items
  | .tuple items => .list (thawList items)
  | .other => .other

def thawItems : List (Option String × Value) → List (Option String × Value) →
    List (Option String × Value)
  | [], thawed => thawed
  | (key, item) :: items, thawed => thawItems items (Dict.put key (thawJson item) thawed)

def thawList : List Value → List Value
  | [] => []
  | item :: items => thawJson item :: thawList items

end

/-- The digits that `int.__repr__` writes at most. -/
def maxStrDigits : Nat := 4300

mutual

/-- What `json.dumps` writes, with `allow_nan=False`. Keys that are not strings do not come here. -/
def toJson : Value → Except AuditError (Json Number)
  | .none => .ok .null
  | .bool b => .ok (.bool b)
  | .int n =>
    if (Nat.toDigits 10 n.natAbs).length ≤ maxStrDigits then .ok (.num (.int n))
    else .error .valueError
  | .float (.finite d) => .ok (.num (.float d))
  | .float _ => .error .valueError
  | .str s => .ok (.str s)
  | .mapping true items => do return .obj (← toMembers items)
  | .mapping false _ => .error .typeError
  | .list items => do return .arr (← toItems items)
  | .tuple items => do return .arr (← toItems items)
  | .other => .error .typeError

def toMembers : List (Option String × Value) → Except AuditError (List (String × Json Number))
  | [] => .ok []
  | (none, _) :: _ => .error .typeError
  | (some key, item) :: items => do
    let value ← toJson item
    return (key, value) :: (← toMembers items)

def toItems : List Value → Except AuditError (List (Json Number))
  | [] => .ok []
  | item :: items => do
    let value ← toJson item
    return value :: (← toItems items)

end

def maxJsonBytes : Nat := 16384

def validateProjection (prim : Primitives) (value : Value) (fieldName : String) :
    Except AuditError Value :=
  match value with
  | .none => .ok .none
  | .mapping isDict items => do
    let frozen ← freezeJson prim 0 (.mapping isDict items)
    let encoded ← toJson (thawJson frozen)
    if maxJsonBytes < encoded.canonical.utf8ByteSize then fail (fieldName ++ "_TOO_LARGE")
    else return frozen
  | _ => fail ("INVALID_" ++ fieldName)

/-! ## Events -/

inductive ActorType where
  | user
  | service
  | system
  deriving DecidableEq

inductive AuditOutcome where
  | succeeded
  | denied
  | failed
  deriving DecidableEq

def ActorType.value : ActorType → String
  | user => "user"
  | service => "service"
  | system => "system"

def AuditOutcome.value : AuditOutcome → String
  | succeeded => "succeeded"
  | denied => "denied"
  | failed => "failed"

/-- `AuditEventDraft`. A field that is not of its type is `none`. -/
structure AuditEventDraft where
  eventId : Option String
  occurredAt : Option DateTime
  actorId : Option String
  actorType : Option ActorType
  tenantId : Option String
  workspaceId : Option (Option String)
  action : Option String
  targetType : Option String
  targetId : Option String
  outcome : Option AuditOutcome
  traceId : Option String
  policyVersion : Option String
  before : Value
  after : Value
  metadata : Value

/-- What `_validate_draft` returns. -/
structure AuditFields where
  eventId : String
  occurredAt : DateTime
  actorId : String
  actorType : ActorType
  tenantId : String
  workspaceId : Option String
  action : String
  targetType : String
  targetId : String
  outcome : AuditOutcome
  traceId : String
  policyVersion : String
  before : Value
  after : Value
  metadata : Value

structure AuditEvent extends AuditFields where
  sequence : Int
  previousEventHash : String
  eventHash : String

/-- The draft that `_validate_event_contract` makes of an event. -/
def AuditFields.draft (fields : AuditFields) : AuditEventDraft where
  eventId := some fields.eventId
  occurredAt := some fields.occurredAt
  actorId := some fields.actorId
  actorType := some fields.actorType
  tenantId := some fields.tenantId
  workspaceId := some fields.workspaceId
  action := some fields.action
  targetType := some fields.targetType
  targetId := some fields.targetId
  outcome := some fields.outcome
  traceId := some fields.traceId
  policyVersion := some fields.policyVersion
  before := thawJson fields.before
  after := thawJson fields.after
  metadata := thawJson fields.metadata

def validateEnum {α : Type} (value : Option α) (fieldName : String) : Except AuditError α :=
  match value with
  | none => fail ("INVALID_" ++ fieldName)
  | some value => .ok value

def validateOptional (value : Option (Option String)) (fieldName : String) :
    Except AuditError (Option String) :=
  match value with
  | some none => .ok none
  | none => fail ("INVALID_" ++ fieldName)
  | some (some value) => do return some (← validateText (some value) fieldName)

def validateMetadata (prim : Primitives) (value : Value) : Except AuditError Value := do
  match ← validateProjection prim value "METADATA" with
  | .none => fail "INVALID_METADATA"
  | metadata => return metadata

def validateDraft (prim : Primitives) (draft : AuditEventDraft) : Except AuditError AuditFields := do
  let actorType ← validateEnum draft.actorType "ACTOR_TYPE"
  let outcome ← validateEnum draft.outcome "OUTCOME"
  let workspaceId ← validateOptional draft.workspaceId "WORKSPACE_ID"
  let metadata ← validateMetadata prim draft.metadata
  let eventId ← validateText draft.eventId "EVENT_ID"
  let occurredAt ← validateUtc draft.occurredAt "OCCURRED_AT"
  let actorId ← validateText draft.actorId "ACTOR_ID"
  let tenantId ← validateText draft.tenantId "TENANT_ID"
  let action ← validateText draft.action "ACTION"
  let targetType ← validateText draft.targetType "TARGET_TYPE"
  let targetId ← validateText draft.targetId "TARGET_ID"
  let traceId ← validateText draft.traceId "TRACE_ID"
  let policyVersion ← validateText draft.policyVersion "POLICY_VERSION"
  let before ← validateProjection prim draft.before "BEFORE"
  let after ← validateProjection prim draft.after "AFTER"
  return { eventId, occurredAt, actorId, actorType, tenantId, workspaceId, action, targetType,
           targetId, outcome, traceId, policyVersion, before, after, metadata }

def validateEventContract (prim : Primitives) (event : AuditEvent) : Except AuditError Unit := do
  if event.sequence < 1 then fail "INVALID_SEQUENCE"
  else if isDigest event.previousEventHash = false then fail "INVALID_PREVIOUS_EVENT_HASH"
  else if isDigest event.eventHash = false then fail "INVALID_EVENT_HASH"
  else do
    let _ ← validateDraft prim event.draft
    return ()

def optionalText : Option String → Json Number
  | none => .null
  | some text => .str text

def eventPayload (event : AuditEvent) : Except AuditError (Json Number) := do
  let before ← toJson (thawJson event.before)
  let after ← toJson (thawJson event.after)
  let metadata ← toJson (thawJson event.metadata)
  return .obj
    [("sequence", .num (.int event.sequence)), ("event_id", .str event.eventId),
      ("occurred_at", .str (canonicalTime event.occurredAt)), ("actor_id", .str event.actorId),
      ("actor_type", .str event.actorType.value), ("tenant_id", .str event.tenantId),
      ("workspace_id", optionalText event.workspaceId), ("action", .str event.action),
      ("target_type", .str event.targetType), ("target_id", .str event.targetId),
      ("outcome", .str event.outcome.value), ("trace_id", .str event.traceId),
      ("policy_version", .str event.policyVersion), ("before", before), ("after", after),
      ("metadata", metadata), ("previous_event_hash", .str event.previousEventHash)]

def calculateEventHash (prim : Primitives) (event : AuditEvent) : Except AuditError String := do
  return prim.sha256 (← eventPayload event).canonical

end DaonUser.Audit
