import DaonUser.Lib.Utf8
import DaonUser.Recovery.Reservation
import DaonUser.RunCost.Model

/-!
# The ledger of a run

`reserve_operations_run_cost` and `settle_operations_run_cost` on the table `operations_run_cost_events`,
with its keys, its policy and its trigger, for one run. The other transactions change whether an actor may
use the run, but no event: the trigger refuses it.

Amounts of the table are billionths. `::timestamptz` is a parameter, and `sequence` does not run out. NaN
and infinities, which are settled as any amount above the reserved one, are left out.
-/

namespace DaonUser.RunCost

open Lib
open Recovery (Settings RestoreRecords isSetting registeredRestoreActorAllowed)

/-! ## Rows -/

/-- A row of `operations_run_cost_events`, without the columns of the run and `received_at`. -/
structure EventRow where
  actorId : String
  sequence : Nat
  attemptKey : String
  state : CostState
  amount : Option Int
  currency : Option String
  policy : Json Numeric
  inputTokenUpperBound : Int
  outputTokenLimit : Int
  priceVersion : String
  usageDigest : Option String
  receiptId : Option String
  observedAt : Int

structure RunKey where
  tenantId : String
  workspaceId : String
  runKind : RunKind
  runId : String
  deriving DecidableEq

/-- A row of `runs` and of `processing_runs`. -/
structure RunRow where
  tenantId : String
  workspaceId : String
  recordId : String
  createdBy : String
  deriving DecidableEq

structure Surroundings where
  records : RestoreRecords
  runs : List RunRow
  processingRuns : List RunRow

structure CostRows where
  events : List EventRow
  others : Surroundings

/-- The lock of `pg_advisory_xact_lock`. -/
inductive CostLock where
  | run
  deriving DecidableEq

inductive CostError where
  | scopeInvalid
  | inputInvalid
  | settlementInvalid
  | settlementReplay
  /-- A text is no moment. -/
  | invalidDatetime
  | numericOverflow
  | policyViolation
  | checkViolation
  | uniqueViolation
  /-- The database gives the transaction up. -/
  | aborted
  deriving DecidableEq

abbrev Op := Program CostRows CostLock CostError

structure CostSettings extends Settings where
  capability : String
  deriving DecidableEq

/-- `^cost-[0-9a-f]{64}$`. -/
def isReceiptId (s : String) : Bool :=
  startsWith s "cost-" && isDigest (String.ofList (s.toList.drop 5))

/-- A value of a column `numeric(24,9)`. -/
def toColumn (x : Numeric) : Option Int :=
  let billionths := roundAway (x.unscaled * 10 ^ 9) (10 ^ x.scale)
  if billionths.natAbs < 10 ^ 24 then some billionths else none

def ofColumn (billionths : Int) : ℚ := billionths / 1000000000

/-- `octet_length(p::text)`. -/
def octetLength (p : Json Numeric) : Nat := (utf8 (Jsonb.textChars Numeric.chars p)).length

/-- The `CHECK`s. -/
def EventRow.Checks (run : RunKey) (e : EventRow) : Prop :=
  (isSafeId run.runId ∧ 0 < e.sequence ∧ isSafeId e.attemptKey) ∧
  ((∃ members, e.policy.members? = some members) ∧ octetLength e.policy ≤ 16384) ∧
  (0 ≤ e.inputTokenUpperBound ∧ e.inputTokenUpperBound ≤ 2147483647) ∧
  (1 ≤ e.outputTokenLimit ∧ e.outputTokenLimit ≤ 512) ∧
  isSafeId e.priceVersion ∧ e.usageDigest.all isDigest ∧ e.receiptId.all isReceiptId ∧
  match e.state with
  | .reserved => (e.amount.any (0 ≤ ·) ∧ e.currency = some "USD") ∧
    e.receiptId = none ∧ e.usageDigest = none
  | .known => (e.amount.any (0 ≤ ·) ∧ e.currency = some "USD") ∧
    e.receiptId ≠ none ∧ e.usageDigest ≠ none
  | .uncertain => (e.amount = none ∧ e.currency = none) ∧ e.receiptId ≠ none

instance (run : RunKey) (e : EventRow) : Decidable (e.Checks run) := by
  unfold EventRow.Checks
  have : Decidable (∃ members, e.policy.members? = some members) :=
    decidable_of_iff (e.policy.members?.isSome = true) Option.isSome_iff_exists
  cases e.state <;> infer_instance

/-- The `PRIMARY KEY` and the `UNIQUE` keys admit a new event. -/
def Admits (new : EventRow) (rows : CostRows) : Prop :=
  ∀ e ∈ rows.events, e.sequence ≠ new.sequence ∧
    ¬(e.attemptKey = new.attemptKey ∧ e.state = new.state) ∧
    ¬(e.receiptId ≠ none ∧ e.receiptId = new.receiptId)

instance (new : EventRow) : DecidablePred (Admits new) := fun rows =>
  inferInstanceAs (Decidable (∀ e ∈ rows.events, _))

section Calls

variable (run : RunKey)

/-- `operations_run_cost_parent_allowed`. -/
def parentAllowed (settings : CostSettings) (actorId : String) (others : Surroundings) : Bool :=
  settings.capability = "run.cost" &&
    registeredRestoreActorAllowed settings.toSettings others.records run.tenantId run.workspaceId actorId &&
    (match run.runKind with
      | .question => others.runs
      | .document => others.processingRuns).any fun x =>
        x.tenantId = run.tenantId && x.workspaceId = run.workspaceId && x.recordId = run.runId &&
          x.createdBy = actorId

/-- `operations_run_cost_scope`, for reads and for new rows. -/
def inCostScope (settings : CostSettings) (e : EventRow) : Bool :=
  isSetting settings.tenantId run.tenantId && isSetting settings.workspaceId run.workspaceId &&
    isSetting settings.actorId e.actorId

def visible (settings : CostSettings) (rows : CostRows) : List EventRow :=
  rows.events.filter (inCostScope run settings)

def ensureAllowed (settings : CostSettings) (actorId : String) : Op Unit := do
  let allowed ← Program.read fun rows => parentAllowed run settings actorId rows.others
  Program.ensure (allowed = true) .scopeInvalid

/-- An `INSERT`, with `guard_operations_run_cost_event`. -/
def insertEvent (settings : CostSettings) (guardedAt : Int) (new : EventRow) : Op Unit := do
  ensureAllowed run settings new.actorId
  Program.ensure (new.observedAt ≤ guardedAt + 5000000) .scopeInvalid
  Program.ensure (inCostScope run settings new = true) .policyViolation
  Program.ensure (new.Checks run) .checkViolation
  Program.insert (fun _ => []) (Admits new) (fun rows => { rows with events := rows.events ++ [new] })
    .uniqueViolation

/-- `coalesce(max(e.sequence), 0) + 1`. -/
def nextSequence (events : List EventRow) : Nat := (events.map (·.sequence)).foldr max 0 + 1

/-! ## `reserve_operations_run_cost` -/

/-- `p->>key`. -/
def textAt (key : String) (p : Json Numeric) : Option String := Jsonb.memberText? Numeric.chars key p

def hasText (key text : String) (p : Json Numeric) : Bool := textAt key p = some text

def hasString (key : String) (p : Json Numeric) : Bool := (Jsonb.member? key p).any Jsonb.isString

def wholeNumber (s : String) : Nat := Nat.ofDigitChars 10 s.toList 0

/-- `^[1-9][0-9]{0,9}$` and not above `2147483647`. -/
def isVersionText (s : String) : Bool :=
  s.toList.all Char.isDigit && isWhole s.toList && s.toList ≠ ['0'] && s.toList.length ≤ 10 &&
    wholeNumber s ≤ 2147483647

/-- `^(0|[1-9][0-9]{0,12})$` and not above `1000000000000`. -/
def isLimitText (s : String) : Bool :=
  s.toList.all Char.isDigit && isWhole s.toList && s.toList.length ≤ 13 && wholeNumber s ≤ 1000000000000

/-- `(\+00:00|Z)$`. -/
def isUtcText (s : String) : Bool :=
  "+00:00".toList.isSuffixOf s.toList || "Z".toList.isSuffixOf s.toList

/-- `::numeric`, of the text of a price. -/
def numericOf (parts : List Char × List Char) : Numeric :=
  ⟨Nat.ofDigitChars 10 (parts.1 ++ parts.2) 0, parts.2.length⟩

/-- `(card->>key)::numeric`. -/
def priceAt (key : String) (card : Json Numeric) : Numeric :=
  (((textAt key card).bind priceParts).map numericOf).getD ⟨0, 0⟩

/-- `(p->>'limit_minor_units')::numeric`. -/
def limitAt (p : Json Numeric) : Numeric := .ofInt (wholeNumber ((textAt "limit_minor_units" p).getD ""))

/-- `p->'price_card'`. -/
def cardOf (p : Json Numeric) : Json Numeric := (Jsonb.member? "price_card" p).getD .null

def HasKeys (keys : List String) (p : Json Numeric) : Prop :=
  ∃ members ∈ p.members?, Json.HasKeys keys members

instance (keys : List String) (p : Json Numeric) : Decidable (HasKeys keys p) :=
  inferInstanceAs (Decidable (∃ members ∈ p.members?, _))

/-- What is asked of a policy, its card and the moment apart. -/
def PolicyFields (actorId : String) (p : Json Numeric) : Prop :=
  octetLength p ≤ 16384 ∧ HasKeys policyKeys p ∧
  ((Jsonb.member? "schema_version" p).any fun v => Jsonb.equal (·.value = ·.value) v (.num ⟨1, 0⟩)) ∧
  ((Jsonb.member? "version" p).any Jsonb.isNumber ∧ (textAt "version" p).any isVersionText) ∧
  (hasText "tenant_id" run.tenantId p ∧ hasText "workspace_id" run.workspaceId p ∧
    hasText "actor_id" actorId p ∧ hasText "run_kind" run.runKind.text p) ∧
  (hasText "model_id" "solar-pro4" p ∧ hasText "currency" "USD" p ∧
    hasText "connection_id" "provider-upstage" p) ∧
  ((textAt "policy_id" p).any isSafeId ∧ hasString "policy_id" p) ∧
  (Jsonb.member? "limit_minor_units" p).any Jsonb.isNumber ∧
  (textAt "limit_minor_units" p).any isLimitText

/-- What is asked of a card, the moment apart. -/
def CardFields (card : Json Numeric) : Prop :=
  HasKeys cardKeys card ∧
  (hasText "base_url" usdEndpoint card ∧ hasText "model_id" "solar-pro4" card ∧
    hasText "currency" "USD" card) ∧
  ((textAt "version" card).any isSafeId ∧ hasString "version" card) ∧
  (∀ key ∈ ["input_per_million", "cached_input_per_million", "output_per_million"],
    hasString key card ∧ ((textAt key card).bind priceParts).isSome ∧
      (priceAt key card).value ≤ 1000000) ∧
  (priceAt "cached_input_per_million" card).value ≤ (priceAt "input_per_million" card).value ∧
  ∀ key ∈ ["valid_from", "valid_until"],
    hasString key card ∧ (textAt key card).any isUtcText

instance (actorId : String) (p : Json Numeric) : Decidable (PolicyFields run actorId p) :=
  inferInstanceAs (Decidable (_ ∧ _))

instance (card : Json Numeric) : Decidable (CardFields card) :=
  inferInstanceAs (Decidable (_ ∧ _))

/-- A call of the function, with what the clock says after the lock and in the trigger. -/
structure ReserveCall where
  settings : CostSettings
  actorId : String
  attemptKey : Option String
  policy : Option (Json Numeric)
  inputBound : Option Int
  outputLimit : Option Int
  stamp : Int
  guardedAt : Int

def BoundsValid (inputBound outputLimit : Option Int) : Prop :=
  inputBound.any (fun ib => 0 ≤ ib && ib ≤ 2147483647) ∧ outputLimit.any fun ob => 1 ≤ ob && ob ≤ 512

instance (inputBound outputLimit : Option Int) : Decidable (BoundsValid inputBound outputLimit) :=
  inferInstanceAs (Decidable (_ ∧ _))

/-- `ceil((ib*input + ob*output)/1000000*1000000000)/1000000000`. -/
def maximumAmount (ib ob : Int) (card : Json Numeric) : Numeric :=
  let amount := ((Numeric.ofInt ib).mul (priceAt "input_per_million" card)).add
    ((Numeric.ofInt ob).mul (priceAt "output_per_million" card))
  ((((amount.div (.ofInt 1000000)).mul (.ofInt 1000000000)).ceil).div (.ofInt 1000000000))

structure ReserveRow where
  state : String
  safeCode : String
  sequence : Option Nat
  maximumAmount : Option Numeric
  currency : Option String
  priceVersion : Option String
  observedAt : Option Int
  deriving DecidableEq

def ReserveRow.refused (state safeCode : String) : ReserveRow :=
  ⟨state, safeCode, none, none, none, none, none⟩

def reservedEvent (c : ReserveCall) (attemptKey : String) (p : Json Numeric) (ib ob : Int)
    (priceVersion : String) (sequence : Nat) (amount : Int) : EventRow where
  actorId := c.actorId
  sequence := sequence
  attemptKey := attemptKey
  state := .reserved
  amount := some amount
  currency := some "USD"
  policy := p
  inputTokenUpperBound := ib
  outputTokenLimit := ob
  priceVersion := priceVersion
  usageDigest := none
  receiptId := none
  observedAt := c.stamp

/-- `e.policy`, of the first event. -/
def frozenPolicy (events : List EventRow) : Option (Json Numeric) :=
  ((events.insertionSort fun e e' => e.sequence ≤ e'.sequence).head?).map (·.policy)

def unsettled (events : List EventRow) : Bool :=
  events.any fun e => e.state = .uncertain || e.state = .reserved &&
    !events.any fun z => z.attemptKey = e.attemptKey && z.state = .known

/-- `coalesce(sum(e.amount) FILTER (WHERE e.state = 'known'), 0)`. -/
def knownTotal (events : List EventRow) : Int :=
  (events.map fun e => if e.state = .known then e.amount.getD 0 else 0).sum

section Moments

variable (timestamptz : String → Option Int)

/-- The card is current; `none` when a text is no moment. -/
def cardCurrent (stamp : Int) (card : Json Numeric) : Option Bool := do
  let validFrom ← (textAt "valid_from" card).bind timestamptz
  let validUntil ← (textAt "valid_until" card).bind timestamptz
  some ((validFrom ≤ stamp && stamp < validUntil) &&
    (1 ≤ validUntil - validFrom && validUntil - validFrom ≤ day))

/-- The policy of a call is confirmed; `none` when a text is no moment. -/
def policyConfirmed (c : ReserveCall) : Option Bool :=
  match c.policy with
  | none => some false
  | some p =>
    if PolicyFields run c.actorId p ∧ CardFields (cardOf p) ∧ BoundsValid c.inputBound c.outputLimit then
      cardCurrent timestamptz c.stamp (cardOf p)
    else some false

/-- `reserve_operations_run_cost`. -/
def reserve (c : ReserveCall) : Op ReserveRow := do
  ensureAllowed run c.settings c.actorId
  Program.ensure (c.attemptKey.any isSafeId = true) .inputInvalid
  Program.readLocked (fun _ => [.run]) fun _ => ()
  ensureAllowed run c.settings c.actorId
  let confirmed ← Program.require (policyConfirmed run timestamptz c) .invalidDatetime
  match confirmed, c.attemptKey, c.policy, c.inputBound, c.outputLimit with
  | true, some i, some p, some ib, some ob => do
    let recorded ← Program.read fun rows => (visible run c.settings rows).any (·.attemptKey = i)
    if recorded then pure (.refused "blocked" "COST_ATTEMPT_ALREADY_RECORDED")
    else do
      let frozen ← Program.read fun rows => frozenPolicy (visible run c.settings rows)
      if frozen.any fun f => !Jsonb.equal (·.value = ·.value) f p then
        pure (.refused "unknown" "COST_POLICY_UNCONFIRMED")
      else do
        let open_ ← Program.read fun rows => unsettled (visible run c.settings rows)
        if open_ then pure (.refused "unknown" "COST_SETTLEMENT_UNCONFIRMED")
        else do
          let maximum := maximumAmount ib ob (cardOf p)
          let (total, latest) ← Program.read fun rows =>
            (knownTotal (visible run c.settings rows), nextSequence (visible run c.settings rows))
          if ((limitAt p).div (.ofInt 100)).value < ofColumn total + maximum.value then
            pure (.refused "blocked" "COST_LIMIT_EXCEEDED")
          else do
            let amount ← Program.require (toColumn maximum) .numericOverflow
            let version := (textAt "version" (cardOf p)).getD ""
            insertEvent run c.settings c.guardedAt (reservedEvent c i p ib ob version latest amount)
            pure ⟨"reserved", "COST_RESERVED", latest, maximum, "USD", version, c.stamp⟩
  | _, _, _, _, _ => pure (.refused "unknown" "COST_POLICY_UNCONFIRMED")

end Moments

/-! ## `settle_operations_run_cost` -/

structure SettleCall where
  settings : CostSettings
  actorId : String
  attemptKey : String
  sequence : Int
  state : Option String
  amount : Option Numeric
  currency : Option String
  priceVersion : Option String
  usageDigest : Option String
  receiptId : Option String
  observedAt : Option Int
  now : Int
  guardedAt : Int

def SettleCall.isReservation (c : SettleCall) (e : EventRow) : Bool :=
  e.attemptKey = c.attemptKey && (e.sequence : Int) = c.sequence && e.state = .reserved

def SettleCall.isTerminal (c : SettleCall) (e : EventRow) : Bool :=
  e.attemptKey = c.attemptKey && e.state ≠ .reserved

/-- `n = round(n, 9)`. -/
def hasBillionths (n : Numeric) : Bool :=
  n.value = roundAway (n.unscaled * 10 ^ 9) (10 ^ n.scale) / 1000000000

def SettleCall.Valid (c : SettleCall) (reserved : EventRow) : Prop :=
  (reserved.actorId = c.actorId ∧ c.priceVersion = some reserved.priceVersion) ∧
  (c.observedAt.any fun o => reserved.observedAt ≤ o && o ≤ c.now + 5000000) ∧
  c.receiptId.any isReceiptId ∧
  (c.state.any fun s => s ∈ ["known", "unknown", "uncertain"]) ∧
  (c.state = some "known" → (c.amount.any fun n => 0 ≤ n.value && hasBillionths n) ∧
    c.currency = some "USD" ∧ c.usageDigest.any isDigest) ∧
  (c.state ≠ some "known" → c.amount = none ∧ c.currency = none)

instance (c : SettleCall) (reserved : EventRow) : Decidable (c.Valid reserved) :=
  inferInstanceAs (Decidable (_ ∧ _))

structure Settlement where
  state : CostState
  amount : Option Numeric
  currency : Option String
  usageDigest : Option String

/-- What is recorded of a settlement: an amount above the reserved one is not taken. -/
def SettleCall.settlement (c : SettleCall) (reserved : EventRow) : Settlement :=
  if c.state = some "known" then
    if c.amount.any fun n => reserved.amount.any fun bound => ofColumn bound < n.value then
      ⟨.uncertain, none, none, none⟩
    else ⟨.known, c.amount, c.currency, c.usageDigest⟩
  else ⟨.uncertain, c.amount, c.currency, c.usageDigest⟩

/-- The terminal event is what the call would record. -/
def SettleCall.Repeats (c : SettleCall) (reserved terminal : EventRow) : Prop :=
  let s := c.settlement reserved
  terminal.state = s.state ∧ terminal.amount.map ofColumn = s.amount.map (·.value) ∧
    terminal.currency = s.currency ∧ some terminal.priceVersion = c.priceVersion ∧
    terminal.usageDigest = s.usageDigest ∧ terminal.receiptId = c.receiptId ∧
    some terminal.observedAt = c.observedAt

instance (c : SettleCall) (reserved terminal : EventRow) : Decidable (c.Repeats reserved terminal) :=
  inferInstanceAs (Decidable (_ ∧ _))

def terminalEvent (c : SettleCall) (reserved : EventRow) (sequence : Nat) (amount : Option Int) :
    EventRow where
  actorId := c.actorId
  sequence := sequence
  attemptKey := c.attemptKey
  state := (c.settlement reserved).state
  amount := amount
  currency := (c.settlement reserved).currency
  policy := reserved.policy
  inputTokenUpperBound := reserved.inputTokenUpperBound
  outputTokenLimit := reserved.outputTokenLimit
  priceVersion := c.priceVersion.getD ""
  usageDigest := (c.settlement reserved).usageDigest
  receiptId := c.receiptId
  observedAt := c.observedAt.getD 0

def amountColumn : Option Numeric → Op (Option Int)
  | none => pure none
  | some n => do
    let amount ← Program.require (toColumn n) .numericOverflow
    pure (some amount)

/-- `settle_operations_run_cost`. -/
def settle (c : SettleCall) : Op Nat := do
  ensureAllowed run c.settings c.actorId
  Program.readLocked (fun _ => [.run]) fun _ => ()
  let reserved ← Program.read fun rows => (visible run c.settings rows).find? c.isReservation
  let reserved ← Program.require reserved .settlementInvalid
  Program.ensure (c.Valid reserved) .settlementInvalid
  let terminal ← Program.read fun rows => (visible run c.settings rows).find? c.isTerminal
  match terminal with
  | some terminal => do
    Program.ensure (c.Repeats reserved terminal) .settlementReplay
    pure terminal.sequence
  | none => do
    let latest ← Program.read fun rows => nextSequence (visible run c.settings rows)
    let amount ← amountColumn (c.settlement reserved).amount
    insertEvent run c.settings c.guardedAt (terminalEvent c reserved latest amount)
    pure latest

/-- A transaction: one of the functions, or one that changes what surrounds the ledger. -/
inductive CostCall where
  | reserve (c : ReserveCall)
  | settle (c : SettleCall)
  | change (write : Surroundings → Surroundings)

inductive CostAnswer where
  | reserve (row : ReserveRow)
  | settle (sequence : Nat)
  | done
  deriving DecidableEq

def CostCall.program (timestamptz : String → Option Int) : CostCall → Op CostAnswer
  | .reserve c => do
    let row ← RunCost.reserve run timestamptz c
    pure (.reserve row)
  | .settle c => do
    let sequence ← RunCost.settle run c
    pure (.settle sequence)
  | .change write => do
    Program.write (fun _ => []) fun rows => { rows with others := write rows.others }
    pure .done

def costDatabase {P : Type} [DecidableEq P] (timestamptz : String → Option Int)
    (others : Surroundings) :
    Machine (Cluster P CostCall CostRows CostLock CostError CostAnswer)
      (Move P CostCall CostError) (Option (Ended CostCall CostError CostAnswer)) :=
  readCommitted (CostCall.program run timestamptz) ⟨[], others⟩

end Calls

end DaonUser.RunCost
