import DaonUser.Base
import DaonUser.Lib.Datetime
import DaonUser.Lib.DecimalTuple
import DaonUser.Lib.Dict
import DaonUser.Lib.Jsonb
import DaonUser.Lib.JsonRead

/-!
# The cost of a run

The price cards and the policies of `operations_run_cost.py`, and the documents of policies of
`operations_run_cost_postgres.py`. Amounts are rational numbers: those of valid cards and bounds have less
than the 28 digits of the decimal context, so no operation rounds them. SHA-256 is a parameter.
-/

namespace DaonUser.RunCost

open Lib

/-! ## Prices -/

/-- `re.fullmatch('[A-Z]{3}', s)`. -/
def isCurrency (s : String) : Bool := s.toList.all Char.isUpper && s.toList.length = 3

/-- `_money`. -/
def isMoney (amount : ℚ) : Bool := 0 ≤ amount && amount < 1000000000000

/-- What `PriceCard` asks of an amount. -/
def isPrice (d : DecimalTuple) : Bool := isMoney d.value && d.value ≤ 1000000 && -9 ≤ d.exponent

def day : Int := 86400000000

structure PriceCard where
  version : String
  baseUrl : String
  modelId : String
  currency : String
  inputPerMillion : DecimalTuple
  cachedInputPerMillion : DecimalTuple
  outputPerMillion : DecimalTuple
  validFrom : Datetime
  validUntil : Datetime
  ids : [version, modelId].all isSafeId = true ∧ isCurrency currency = true
  prices : [inputPerMillion, cachedInputPerMillion, outputPerMillion].all isPrice = true
  cached : cachedInputPerMillion.value ≤ inputPerMillion.value
  window : 0 < validUntil.instant - validFrom.instant ∧ validUntil.instant - validFrom.instant ≤ day

def PriceCard.current (card : PriceCard) (now : Int) : Bool :=
  card.validFrom.instant ≤ now && now < card.validUntil.instant

inductive RunKind where
  | question
  | document
  deriving DecidableEq

def RunKind.text : RunKind → String
  | question => "question"
  | document => "document"

structure RunCostPolicy where
  policyId : String
  version : Nat
  tenantId : String
  workspaceId : String
  actorId : String
  connectionId : String
  modelId : String
  runKind : RunKind
  currency : String
  limitMinorUnits : Nat
  priceCard : PriceCard
  ids : [policyId, tenantId, workspaceId, actorId, connectionId, modelId].all isSafeId = true
  numbers : (1 ≤ version ∧ version ≤ 2 ^ 31 - 1) ∧ limitMinorUnits ≤ 10 ^ 12
  currencyCode : isCurrency currency = true

def usdEndpoint : String := "https://api.upstage.ai/v1"

/-! ## Amounts -/

/-- `quantize(_NANO, rounding=ROUND_CEILING)`. -/
def quantizeNano (amount : ℚ) : ℚ := ⌈amount * 1000000000⌉ / 1000000000

structure PriceCardCharge where
  amount : ℚ
  currency : String
  basis : String
  priceVersion : String
  usageDigest : String

/-- What is read from a `usage`: nothing where a number is missing or no integer. -/
structure Usage where
  promptTokens : Option Int
  completionTokens : Option Int
  cachedInputTokens : Option Int

def isTokens (n : Int) : Bool := 0 ≤ n && n ≤ 2 ^ 31 - 1

def priceActualUsage (sha256 : String → String) (card : PriceCard) (usage : Usage) (now : Int) :
    Option PriceCardCharge := do
  guard (card.current now = true)
  let prompt ← usage.promptTokens
  let completion ← usage.completionTokens
  let cached ← usage.cachedInputTokens
  guard ([prompt, completion, cached].all isTokens = true ∧ cached ≤ prompt)
  let value := ((prompt - cached : Int) * card.inputPerMillion.value +
    cached * card.cachedInputPerMillion.value + completion * card.outputPerMillion.value) / 1000000
  let digest := sha256 (String.ofList (Json.chars (.arr [.str "measured-usage-price-card-v1",
    .str card.version, .num prompt, .num completion, .num cached] : Json Int)))
  guard (isMoney (quantizeNano value) = true ∧ isDigest digest = true)
  some ⟨quantizeNano value, card.currency, "price_card", card.version, digest⟩

inductive CostState where
  | reserved
  | known
  | uncertain
  deriving DecidableEq

/-! ## Documents -/

/-- `result['price_card']`. -/
def priceCardDocument (card : PriceCard) : Json Int :=
  .obj [
    ("version", .str card.version),
    ("base_url", .str card.baseUrl),
    ("model_id", .str card.modelId),
    ("currency", .str card.currency),
    ("input_per_million", .str card.inputPerMillion.format),
    ("cached_input_per_million", .str card.cachedInputPerMillion.format),
    ("output_per_million", .str card.outputPerMillion.format),
    ("valid_from", .str card.validFrom.isoformat),
    ("valid_until", .str card.validUntil.isoformat)]

def costPolicyDocument (policy : RunCostPolicy) : Json Int :=
  .obj [
    ("policy_id", .str policy.policyId),
    ("version", .num policy.version),
    ("tenant_id", .str policy.tenantId),
    ("workspace_id", .str policy.workspaceId),
    ("actor_id", .str policy.actorId),
    ("connection_id", .str policy.connectionId),
    ("model_id", .str policy.modelId),
    ("run_kind", .str policy.runKind.text),
    ("currency", .str policy.currency),
    ("limit_minor_units", .num policy.limitMinorUnits),
    ("schema_version", .num 1),
    ("price_card", priceCardDocument policy.priceCard)]

def policyKeys : List String :=
  ["actor_id", "connection_id", "currency", "limit_minor_units", "model_id", "policy_id", "price_card",
    "run_kind", "schema_version", "tenant_id", "version", "workspace_id"]

def cardKeys : List String :=
  ["base_url", "cached_input_per_million", "currency", "input_per_million", "model_id",
    "output_per_million", "valid_from", "valid_until", "version"]

/-- `(0|[1-9][0-9]*)`, of digits. -/
def isWhole (digits : List Char) : Bool := digits ≠ [] && (digits = ['0'] || digits.head? ≠ some '0')

/-- The digits of a text that matches `(0|[1-9][0-9]*)(\.[0-9]{1,9})?`. -/
def priceParts (s : String) : Option (List Char × List Char) :=
  (plainParts s).filter fun parts => isWhole parts.1 && parts.2.length ≤ 9

end DaonUser.RunCost
