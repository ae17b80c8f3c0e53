import DaonUser.Lib.Lists
import DaonUser.RunCost.Postgres

/-!
# Amounts in the table

The numbers that the functions compute keep their value in the columns of the table: the maximum of a
reservation has nine digits after the point (`ofColumn_maximum`), a hundredth of a limit is exact
(`value_limit_div`), and the limit of a policy is the same however its document is written
(`limitAt_of_equal`).
-/

namespace DaonUser.RunCost

open Lib

/-! ## Columns -/

theorem ofColumn_add (a b : Int) : ofColumn (a + b) = ofColumn a + ofColumn b := by
  simp only [ofColumn]
  push_cast
  ring

theorem ofColumn_le {a b : Int} : ofColumn a ≤ ofColumn b ↔ a ≤ b := by
  rw [ofColumn, ofColumn, div_le_div_iff_of_pos_right (by norm_num), Int.cast_le]

theorem ofColumn_toColumn {x : Numeric} {m k : Int} (hk : x.value * 1000000000 = k)
    (hm : toColumn x = some m) : ofColumn m = x.value := by
  have hunscaled : x.unscaled * 10 ^ 9 = k * ((10 ^ x.scale : Nat) : Int) := by
    have hq : ((x.unscaled * 10 ^ 9 : Int) : ℚ) = ((k * ((10 ^ x.scale : Nat) : Int) : Int) : ℚ) := by
      push_cast
      rw [← hk, Numeric.value]
      field_simp
    exact_mod_cast hq
  unfold toColumn at hm
  rw [hunscaled, roundAway_mul k (by positivity)] at hm
  simp only at hm
  split at hm
  · obtain rfl := Option.some.inj hm
    rw [ofColumn, ← hk]
    ring
  · cases hm

theorem value_div_billion {n : Int} (h : 9 ≤ Numeric.divScale (.ofInt n) (.ofInt 1000000000)) :
    ((Numeric.ofInt n).div (.ofInt 1000000000)).value = n / 1000000000 := by
  have hpow : (10 : ℚ) ^ Numeric.divScale (.ofInt n) (.ofInt 1000000000) = 1000000000 *
      10 ^ (Numeric.divScale (.ofInt n) (.ofInt 1000000000) - 9) := by
    rw [show (1000000000 : ℚ) = 10 ^ 9 by norm_num, ← pow_add, Nat.add_sub_cancel' h]
  rw [Numeric.value_div_of_mul_pow
    (n := n * 10 ^ (Numeric.divScale (.ofInt n) (.ofInt 1000000000) - 9)) (by decide)]
  · simp
  · rw [hpow, Numeric.value_ofInt, Numeric.value_ofInt]
    push_cast
    field_simp

theorem billionths_div (n : Int) :
    ∃ k : Int, ((Numeric.ofInt n).div (.ofInt 1000000000)).value * 1000000000 = k := by
  rcases Nat.le_total 9 (Numeric.divScale (.ofInt n) (.ofInt 1000000000)) with hle | hle
  · refine ⟨n, ?_⟩
    rw [value_div_billion hle]
    ring
  · refine ⟨((Numeric.ofInt n).div (.ofInt 1000000000)).unscaled *
      10 ^ (9 - Numeric.divScale (.ofInt n) (.ofInt 1000000000)), ?_⟩
    have hpow : (1000000000 : ℚ) = 10 ^ (9 - Numeric.divScale (.ofInt n) (.ofInt 1000000000)) *
        10 ^ Numeric.divScale (.ofInt n) (.ofInt 1000000000) := by
      rw [← pow_add, Nat.sub_add_cancel hle]
      norm_num
    rw [hpow, Numeric.value]
    have hscale : ((Numeric.ofInt n).div (.ofInt 1000000000)).scale =
        Numeric.divScale (.ofInt n) (.ofInt 1000000000) := rfl
    rw [hscale]
    push_cast
    field_simp

theorem ofColumn_maximum {ib ob m : Int} {card : Json Numeric}
    (hm : toColumn (maximumAmount ib ob card) = some m) :
    ofColumn m = (maximumAmount ib ob card).value := by
  obtain ⟨k, hk⟩ := billionths_div _
  exact ofColumn_toColumn hk hm

theorem wholeNumber_of_isLimitText {x : Numeric} (h : isLimitText (String.ofList x.chars) = true) :
    ∃ n : Nat, n ≤ 1000000000000 ∧ x = .ofInt n ∧ wholeNumber (String.ofList x.chars) = n := by
  simp only [isLimitText, String.toList_ofList, Bool.and_eq_true, decide_eq_true_eq, List.all_eq_true] at h
  obtain ⟨n, hx, hchars⟩ := Numeric.chars_of_isDigit h.1.1.1
  have hnumber : wholeNumber (String.ofList x.chars) = n := by
    rw [wholeNumber, String.toList_ofList, hchars, Nat.ofDigitChars_ten_toDigits]
  exact ⟨n, hnumber ▸ h.2, hx, hnumber⟩

theorem limitAt_eq {run : RunKey} {actorId : String} {p : Json Numeric}
    (h : PolicyFields run actorId p) : ∃ n : Nat, n ≤ 1000000000000 ∧ limitAt p = .ofInt n ∧
      Jsonb.member? "limit_minor_units" p = some (.num (.ofInt n)) := by
  obtain ⟨-, -, -, -, -, -, -, hnumber, htext⟩ := h
  obtain ⟨v, hv, hnumber⟩ := (Option.any_eq_true _ _).1 hnumber
  cases v with
  | num x =>
    have hat : textAt "limit_minor_units" p = some (String.ofList x.chars) := by
      rw [textAt, Jsonb.memberText?, hv]
      rfl
    rw [hat, Option.any_some] at htext
    obtain ⟨n, hn, rfl, heq⟩ := wholeNumber_of_isLimitText htext
    refine ⟨n, hn, ?_, hv⟩
    rw [limitAt, hat, Option.getD_some, heq]
  | _ => cases hnumber

theorem limitAt_of_equal {run : RunKey} {actorId actorId' : String} {f p : Json Numeric}
    (hf : PolicyFields run actorId f) (hp : PolicyFields run actorId' p)
    (h : Jsonb.equal (·.value = ·.value) f p = true) : limitAt f = limitAt p := by
  obtain ⟨n, -, hn, hmember⟩ := limitAt_eq hf
  obtain ⟨m, -, hm, hmember'⟩ := limitAt_eq hp
  obtain ⟨w, hw, hequal⟩ := Jsonb.member?_of_equal h hmember
  obtain rfl := Option.some.inj (hmember'.symm.trans hw)
  have hvalue : (n : ℚ) = m := by simpa [Jsonb.equal] using hequal
  rw [hn, hm, Nat.cast_inj.1 hvalue]

theorem leading_ofInt_le {n : Int} {k : Nat} (h : n.natAbs < 10 ^ (4 * (k + 1))) :
    (Numeric.ofInt n).leading.1 ≤ k := by
  unfold Numeric.leading
  split
  · exact Int.natCast_nonneg k
  · next hne =>
    have hlog : Nat.log 10 n.natAbs < 4 * (k + 1) :=
      Nat.log_lt_of_lt_pow (by simpa [Numeric.ofInt] using hne) h
    simp only [Numeric.ofInt]
    omega

theorem value_limit_div {n : Nat} (h : n ≤ 1000000000000) :
    ((Numeric.ofInt n).div (.ofInt 100)).value = n / 100 := by
  have hleading : (Numeric.ofInt 100).leading = (0, 100) := by decide
  have hweight : (Numeric.ofInt n).leading.1 ≤ (3 : Nat) := leading_ofInt_le (by omega)
  have hscale : 2 ≤ Numeric.divScale (.ofInt n) (.ofInt 100) := by
    unfold Numeric.divScale
    rw [hleading]
    dsimp only
    split
    · omega
    · omega
  have hpow : (10 : ℚ) ^ Numeric.divScale (.ofInt n) (.ofInt 100) =
      100 * 10 ^ (Numeric.divScale (.ofInt n) (.ofInt 100) - 2) := by
    rw [show (100 : ℚ) = 10 ^ 2 by norm_num, ← pow_add, Nat.add_sub_cancel' hscale]
  rw [Numeric.value_div_of_mul_pow (n := n * 10 ^ (Numeric.divScale (.ofInt n) (.ofInt 100) - 2))
    (by decide)]
  · simp
  · rw [hpow, Numeric.value_ofInt, Numeric.value_ofInt]
    push_cast
    field_simp

/-- `ib*input + ob*output`. -/
def tokenAmount (ib ob : Int) (card : Json Numeric) : Numeric :=
  ((Numeric.ofInt ib).mul (priceAt "input_per_million" card)).add
    ((Numeric.ofInt ob).mul (priceAt "output_per_million" card))

/-- The two divisions of a maximum, each rounded to the digits of its quotient, do not end below the ceiling
of the exact quotient. -/
def CeilingKept (amount : Numeric) : Prop :=
  quantizeNano (amount.value / 1000000) ≤
    ((((amount.div (.ofInt 1000000)).mul (.ofInt 1000000000)).ceil).div (.ofInt 1000000000)).value

instance (amount : Numeric) : Decidable (CeilingKept amount) := inferInstanceAs (Decidable (_ ≤ _))

theorem maximumAmount_eq (ib ob : Int) (card : Json Numeric) :
    maximumAmount ib ob card = (((((tokenAmount ib ob card).div (.ofInt 1000000)).mul
      (.ofInt 1000000000)).ceil).div (.ofInt 1000000000)) := rfl

theorem quantizeNano_mono {a b : ℚ} (h : a ≤ b) : quantizeNano a ≤ quantizeNano b := by
  have hceil : ⌈a * 1000000000⌉ ≤ ⌈b * 1000000000⌉ :=
    Int.ceil_mono (mul_le_mul_of_nonneg_right h (by norm_num))
  exact div_le_div_of_nonneg_right (by exact_mod_cast hceil) (by norm_num)

/-! ## The price of a usage -/

section Usage

theorem value_numericOf (parts : List Char × List Char) :
    (numericOf parts).value = (DecimalTuple.ofPlain parts).value := by
  unfold numericOf DecimalTuple.ofPlain DecimalTuple.value Numeric.value
  rcases Nat.eq_zero_or_pos parts.2.length with hzero | hpos
  · simp [hzero]
  · have hneg : ¬0 ≤ -((parts.2.length : Nat) : Int) := by omega
    have hback : (-(-((parts.2.length : Nat) : Int))).toNat = parts.2.length := by omega
    rw [if_neg hneg, hback]
    simp

theorem priceParts_format {d : DecimalTuple} {parts : List Char × List Char}
    (h : priceParts d.format = some parts) : d.negative = false ∧ (numericOf parts).value = d.value := by
  obtain ⟨hparts, hwhole⟩ := Option.filter_eq_some_iff.1 h
  have hnegative : d.negative = false := by
    by_contra hne
    have hsign : d.negative = true := by simpa using hne
    have hnil : plainParts d.format = none := by
      unfold plainParts DecimalTuple.format
      rw [hsign, String.toList_ofList]
      rfl
    rw [hnil] at hparts
    cases hparts
  refine ⟨hnegative, ?_⟩
  rw [DecimalTuple.plainParts_format hnegative] at hparts
  rw [value_numericOf, ← Option.some.inj hparts, DecimalTuple.value_ofPlain_format hnegative]

def policyJson (policy : RunCostPolicy) : Json Numeric :=
  Jsonb.mapNumbers .ofInt (costPolicyDocument policy)

def PriceCard.priceList (card : PriceCard) : List (String × DecimalTuple) :=
  [("input_per_million", card.inputPerMillion), ("cached_input_per_million", card.cachedInputPerMillion),
    ("output_per_million", card.outputPerMillion)]

def cardJson (card : PriceCard) : Json Numeric := Jsonb.mapNumbers .ofInt (priceCardDocument card)

theorem member?_policyJson (policy : RunCostPolicy) :
    Jsonb.member? "price_card" (policyJson policy) = some (cardJson policy.priceCard) := by
  simp [policyJson, cardJson, costPolicyDocument, Jsonb.mapNumbers, Jsonb.mapNumbersMembers,
    Jsonb.member?, Json.field?]

theorem member?_cardJson (card : PriceCard) :
    ∀ price ∈ card.priceList, Jsonb.member? price.1 (cardJson card) = some (.str price.2.format) := by
  simp [PriceCard.priceList, cardJson, priceCardDocument, Jsonb.mapNumbers, Jsonb.mapNumbersMembers,
    Jsonb.member?, Json.field?]

theorem value_priceAt {policy : RunCostPolicy} {p : Json Numeric}
    (hequal : Jsonb.equal (·.value = ·.value) (policyJson policy) p = true)
    (hcard : CardFields (cardOf p)) :
    ∀ price ∈ policy.priceCard.priceList, (priceAt price.1 (cardOf p)).value = price.2.value := by
  intro price hprice
  obtain ⟨stored, hstored, hsame⟩ := Jsonb.member?_of_equal hequal (member?_policyJson policy)
  obtain ⟨w, hw, htext⟩ := Jsonb.member?_of_equal hsame (member?_cardJson _ price hprice)
  have hcardOf : cardOf p = stored := by rw [cardOf, hstored, Option.getD_some]
  have hat : textAt price.1 (cardOf p) = some price.2.format := by
    cases w with
    | str s =>
      have heq : price.2.format = s := by simpa [Jsonb.equal] using htext
      rw [textAt, Jsonb.memberText?, hcardOf, hw, heq]
      rfl
    | _ => cases htext
  have hkey : price.1 ∈ ["input_per_million", "cached_input_per_million", "output_per_million"] := by
    have hkeys : policy.priceCard.priceList.map (·.1) =
        ["input_per_million", "cached_input_per_million", "output_per_million"] := rfl
    exact hkeys ▸ List.mem_map_of_mem hprice
  obtain ⟨-, hsome, -⟩ := hcard.2.2.2.1 price.1 hkey
  rw [hat, Option.bind_some] at hsome
  obtain ⟨parts, hparts⟩ := Option.isSome_iff_exists.1 hsome
  rw [priceAt, hat, Option.bind_some, hparts, Option.map_some, Option.getD_some]
  exact (priceParts_format hparts).2

theorem value_tokenAmount {policy : RunCostPolicy} {p : Json Numeric} (ib ob : Int)
    (hequal : Jsonb.equal (·.value = ·.value) (policyJson policy) p = true)
    (hcard : CardFields (cardOf p)) : (tokenAmount ib ob (cardOf p)).value =
      ib * policy.priceCard.inputPerMillion.value + ob * policy.priceCard.outputPerMillion.value := by
  have hprices := value_priceAt hequal hcard
  have hin : (priceAt "input_per_million" (cardOf p)).value = policy.priceCard.inputPerMillion.value :=
    hprices (_, policy.priceCard.inputPerMillion) (by simp [PriceCard.priceList])
  have hout : (priceAt "output_per_million" (cardOf p)).value =
      policy.priceCard.outputPerMillion.value :=
    hprices (_, policy.priceCard.outputPerMillion) (by simp [PriceCard.priceList])
  rw [tokenAmount, Numeric.value_add, Numeric.value_mul, Numeric.value_mul, hin, hout, Numeric.value_ofInt,
    Numeric.value_ofInt]

/-- A usage stays within the bounds of a reservation. -/
def Usage.Within (usage : Usage) (ib ob : Int) : Prop :=
  (∀ prompt ∈ usage.promptTokens, prompt ≤ ib) ∧ ∀ completion ∈ usage.completionTokens, completion ≤ ob

theorem charge_le_ceiling {sha256 : String → String} {policy : RunCostPolicy} {p : Json Numeric}
    {usage : Usage} {now ib ob : Int} {charge : PriceCardCharge}
    (hequal : Jsonb.equal (·.value = ·.value) (policyJson policy) p = true)
    (hcard : CardFields (cardOf p)) (hwithin : usage.Within ib ob)
    (hcharge : priceActualUsage sha256 policy.priceCard usage now = some charge) :
    charge.amount ≤ quantizeNano ((tokenAmount ib ob (cardOf p)).value / 1000000) := by
  have hamount := value_tokenAmount ib ob hequal hcard
  have hvalues := policy.priceCard.prices
  simp only [List.all_cons, List.all_nil, Bool.and_true, Bool.and_eq_true, isPrice, isMoney,
    decide_eq_true_eq] at hvalues
  unfold priceActualUsage at hcharge
  obtain ⟨-, hcharge⟩ := guard_bind_eq_some.1 hcharge
  obtain ⟨prompt, hprompt, hcharge⟩ := Option.bind_eq_some_iff.1 hcharge
  obtain ⟨completion, hcompletion, hcharge⟩ := Option.bind_eq_some_iff.1 hcharge
  obtain ⟨cached, hcached, hcharge⟩ := Option.bind_eq_some_iff.1 hcharge
  obtain ⟨⟨htokens, hle⟩, hcharge⟩ := guard_bind_eq_some.1 hcharge
  obtain ⟨-, hcharge⟩ := guard_bind_eq_some.1 hcharge
  obtain rfl := Option.some.inj hcharge
  simp only [List.all_cons, List.all_nil, Bool.and_true, Bool.and_eq_true, isTokens,
    decide_eq_true_eq] at htokens
  refine quantizeNano_mono (div_le_div_of_nonneg_right ?_ (by norm_num))
  rw [hamount]
  have hprompt' : (prompt : ℚ) ≤ ib := by exact_mod_cast hwithin.1 prompt hprompt
  have hcompletion' : (completion : ℚ) ≤ ob := by exact_mod_cast hwithin.2 completion hcompletion
  have hcached' : (0 : ℚ) ≤ cached := by exact_mod_cast htokens.2.2.1
  have hoff : (cached : ℚ) * policy.priceCard.cachedInputPerMillion.value ≤
      cached * policy.priceCard.inputPerMillion.value :=
    mul_le_mul_of_nonneg_left policy.priceCard.cached hcached'
  have hinput : (prompt : ℚ) * policy.priceCard.inputPerMillion.value ≤
      ib * policy.priceCard.inputPerMillion.value :=
    mul_le_mul_of_nonneg_right hprompt' hvalues.1.1.1.1
  have houtput : (completion : ℚ) * policy.priceCard.outputPerMillion.value ≤
      ob * policy.priceCard.outputPerMillion.value :=
    mul_le_mul_of_nonneg_right hcompletion' hvalues.2.2.1.1.1
  push_cast
  linarith

end Usage

end DaonUser.RunCost
