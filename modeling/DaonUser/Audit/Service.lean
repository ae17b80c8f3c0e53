import DaonUser.Audit.Model
import DaonUser.Lib.Base64
import DaonUser.Lib.Call
import DaonUser.Lib.Machine
import Mathlib.Data.Finset.Insert

/-!
# Audit: the store in memory

`AuditEventStore`: `append` makes a hash chain of the accepted drafts, `list` reads it in pages,
`verify_integrity` checks a sequence of events. The lock makes one step of each call.
-/

namespace DaonUser.Audit

open Lib

/-! ## Appending -/

def genesisHash : String := String.ofList (List.replicate 64 '0')

/-- `PY_SSIZE_T_MAX`: a longer list cannot be built. -/
def maxListLength : Nat := 2 ^ 63 - 1

structure AuditEventStore where
  events : List AuditEvent
  eventIds : Finset String

abbrev Op (α : Type) := Call AuditEventStore AuditError α

def headHash (events : List AuditEvent) : String :=
  (events.getLast?.map (·.eventHash)).getD genesisHash

def append (prim : Primitives) (draft : AuditEventDraft) : Op AuditEvent := do
  let validated ← Call.query fun _ => validateDraft prim draft
  let s ← Call.get
  Call.ensure (validated.eventId ∉ s.eventIds) (.validation "DUPLICATE_EVENT_ID")
  let provisional : AuditEvent :=
    { validated with
      sequence := s.events.length + 1,
      previousEventHash := headHash s.events,
      eventHash := genesisHash }
  let eventHash ← Call.query fun _ => calculateEventHash prim provisional
  let event := { provisional with eventHash := eventHash }
  Call.ensure (s.events.length < maxListLength) .overflow
  Call.modify fun s =>
    { events := s.events ++ [event], eventIds := insert event.eventId s.eventIds }
  return event

def machine (prim : Primitives) :
    Machine AuditEventStore AuditEventDraft (Except AuditError AuditEvent) where
  init := { events := [], eventIds := ∅ }
  step s draft := append prim draft s

inductive IntegrityCode where
  | ok
  | invalidEvent
  | duplicateEventId
  | sequenceMismatch
  | previousHashMismatch
  | eventHashMismatch
  deriving DecidableEq

def IntegrityCode.value : IntegrityCode → String
  | ok => "OK"
  | invalidEvent => "INVALID_EVENT"
  | duplicateEventId => "DUPLICATE_EVENT_ID"
  | sequenceMismatch => "SEQUENCE_MISMATCH"
  | previousHashMismatch => "PREVIOUS_HASH_MISMATCH"
  | eventHashMismatch => "EVENT_HASH_MISMATCH"

structure IntegrityResult where
  valid : Bool
  code : IntegrityCode
  position : Option Nat
  checkedCount : Nat
  headHash : String
  message : String
  deriving DecidableEq

def integrityFailure (code : IntegrityCode) (position : Option Nat) (checkedCount : Nat)
    (headHash : String) : IntegrityResult where
  valid := false
  code := code
  position := position
  checkedCount := checkedCount
  headHash := headHash
  message := "AUDIT_INTEGRITY_FAILED:" ++ code.value

def checkEvent (prim : Primitives) (index : Nat) (seenIds : Finset String)
    (expectedPrevious : String) (event : AuditEvent) : Except IntegrityCode Unit :=
  match validateEventContract prim event with
  | .error _ => .error .invalidEvent
  | .ok _ =>
    if event.eventId ∈ seenIds then .error .duplicateEventId
    else if event.sequence ≠ index then .error .sequenceMismatch
    else if event.previousEventHash ≠ expectedPrevious then .error .previousHashMismatch
    else
      match calculateEventHash prim event with
      | .error _ => .error .invalidEvent
      | .ok expectedHash =>
        if event.eventHash ≠ expectedHash then .error .eventHashMismatch else .ok ()

/-- The loop of `verify_integrity`, after `checked` events. -/
def verifyFrom (prim : Primitives) (checked : Nat) (seenIds : Finset String)
    (expectedPrevious : String) : List AuditEvent → IntegrityResult
  | [] =>
    { valid := true, code := .ok, position := none, checkedCount := checked,
      headHash := expectedPrevious, message := "AUDIT_CHAIN_VALID" }
  | event :: events =>
    match checkEvent prim (checked + 1) seenIds expectedPrevious event with
    | .error code => integrityFailure code (some (checked + 1)) checked expectedPrevious
    | .ok _ => verifyFrom prim (checked + 1) (insert event.eventId seenIds) event.eventHash events

def verifyIntegrity (prim : Primitives) (events : List AuditEvent) : IntegrityResult :=
  verifyFrom prim 0 ∅ genesisHash events

/-- `str(n)`. -/
def intChars (n : Int) : List Char :=
  if n < 0 then '-' :: Nat.toDigits 10 n.natAbs else Nat.toDigits 10 n.natAbs

/-- Digits, in groups that `_` separates. -/
def parseDigits (cs : List Char) : Option Int :=
  let groups := cs.splitOn '_'
  if groups.all fun group => group ≠ [] && group.all (·.isDigit) then
    some (Nat.ofDigitChars 10 groups.flatten 0)
  else none

/-- `int(text)`, `none` where it raises. -/
def parseInt (cs : List Char) : Option Int :=
  match stripChars isSpace cs with
  | '-' :: rest => (parseDigits rest).map (- ·)
  | '+' :: rest => parseDigits rest
  | rest => parseDigits rest

def cursorPrefix : List Char := "audit-v1".toList

def encodeCursor (sequence : Int) : String :=
  String.ofList (Base64.encode ((cursorPrefix ++ ':' :: intChars sequence).map (·.toNat)))

def decodeCursor (cursor : Option String) : Except AuditError Int :=
  match cursor with
  | none => .ok 0
  | some cursor =>
    if cursor = "" ∨ 512 < cursor.toList.length then fail "INVALID_CURSOR"
    else if cursor.toList.any fun c => 128 ≤ c.toNat then fail "INVALID_CURSOR"
    else
      match Base64.decode (Base64.pad cursor.toList) with
      | none => fail "INVALID_CURSOR"
      | some bytes =>
        if bytes.any fun b => 128 ≤ b then fail "INVALID_CURSOR"
        else
          let decoded := bytes.map Char.ofNat
          match decoded.takeWhile (· ≠ ':'), decoded.dropWhile (· ≠ ':') with
          | pre, _ :: rawSequence =>
            match parseInt rawSequence with
            | none => fail "INVALID_CURSOR"
            | some sequence =>
              if pre ≠ cursorPrefix ∨ sequence < 0 ∨ encodeCursor sequence ≠ cursor then
                fail "INVALID_CURSOR"
              else .ok sequence
          | _, [] => fail "INVALID_CURSOR"

/-! ## Listing -/

def maxPageLimit : Nat := 200

/-- The filters of a `list` call and its limit. -/
structure Query where
  tenantId : String
  workspaceId : Option String
  action : Option String
  outcome : Option AuditOutcome
  traceId : Option String
  occurredAfter : Option DateTime
  occurredBefore : Option DateTime
  limit : Int

structure AuditPage where
  items : List AuditEvent
  nextCursor : Option String

def validateBound (value : Option DateTime) (fieldName : String) : Except AuditError Unit :=
  match value with
  | none => .ok ()
  | some value => (validateUtc (some value) fieldName).map fun _ => ()

def validateFilter (value : Option String) (fieldName : String) : Except AuditError Unit :=
  match value with
  | none => .ok ()
  | some value => (validateText (some value) fieldName).map fun _ => ()

/-- The checks of the arguments of `list`, the cursor apart. -/
def validateQuery (q : Query) : Except AuditError Unit := do
  let _ ← validateText (some q.tenantId) "TENANT_ID"
  validateFilter q.workspaceId "WORKSPACE_ID"
  validateFilter q.action "ACTION"
  validateFilter q.traceId "TRACE_ID"
  validateBound q.occurredAfter "OCCURRED_AFTER"
  validateBound q.occurredBefore "OCCURRED_BEFORE"
  if ¬q.occurredAfter.all (fun after => q.occurredBefore.all fun before =>
      after.utc ≤ before.utc) then
    fail "INVALID_TIME_RANGE"
  else if ¬(1 ≤ q.limit ∧ q.limit ≤ maxPageLimit) then fail "INVALID_LIMIT"
  else .ok ()

def Query.Matches (q : Query) (event : AuditEvent) : Bool :=
  event.tenantId = q.tenantId &&
    q.workspaceId.all (fun workspaceId => event.workspaceId = some workspaceId) &&
    q.action.all (fun action => event.action = action) &&
    q.outcome.all (fun outcome => event.outcome = outcome) &&
    q.traceId.all (fun traceId => event.traceId = traceId) &&
    q.occurredAfter.all (fun after => after.utc ≤ event.occurredAt.utc) &&
    q.occurredBefore.all (fun before => event.occurredAt.utc ≤ before.utc)

def list (q : Query) (cursor : Option String) (s : AuditEventStore) : Except AuditError AuditPage :=
  do
  validateQuery q
  let afterSequence ← decodeCursor cursor
  let matched := s.events.filter fun event => afterSequence < event.sequence && q.Matches event
  let items := matched.take q.limit.toNat
  return {
    items := items
    nextCursor :=
      if q.limit < matched.length then items.getLast?.map (encodeCursor ·.sequence) else none }

end DaonUser.Audit
