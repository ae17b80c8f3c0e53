import DaonUser.Lib.Numeric

/-!
# Decimals and their plain text

A `DecimalTuple` is a finite `decimal.Decimal`: a sign, digits and an exponent. `format` writes it without
an exponent; `plainParts` takes such a text apart again, and what is read from it has the same value
(`value_ofPlain_format`), where the sign is not negative.
-/

namespace Lib

/-- What `as_tuple` shows of a finite `decimal.Decimal`. -/
structure DecimalTuple where
  negative : Bool
  digits : Nat
  exponent : Int
  deriving DecidableEq

def plainParts (s : String) : Option (List Char × List Char) :=
  let whole := s.toList.takeWhile Char.isDigit
  match s.toList.dropWhile Char.isDigit with
  | [] => some (whole, [])
  | '.' :: fraction =>
    if fraction ≠ [] ∧ fraction.all Char.isDigit then some (whole, fraction) else none
  | _ => none

namespace DecimalTuple

def value (d : DecimalTuple) : ℚ :=
  (if d.negative then -1 else 1) *
    if 0 ≤ d.exponent then (d.digits : ℚ) * 10 ^ d.exponent.toNat
    else d.digits / 10 ^ (-d.exponent).toNat

def wholeChars (d : DecimalTuple) : List Char :=
  if 0 ≤ d.exponent then Nat.toDigits 10 (d.digits * 10 ^ d.exponent.toNat)
  else Nat.toDigits 10 (d.digits / 10 ^ (-d.exponent).toNat)

def fractionChars (d : DecimalTuple) : List Char :=
  if 0 ≤ d.exponent then []
  else Numeral.padded (-d.exponent).toNat (d.digits % 10 ^ (-d.exponent).toNat)

/-- `format(d, 'f')`. -/
def format (d : DecimalTuple) : String :=
  String.ofList ((if d.negative then ['-'] else []) ++ d.wholeChars ++
    if 0 ≤ d.exponent then [] else '.' :: d.fractionChars)

/-- `Decimal(text)`, of a plain text. -/
def ofPlain (parts : List Char × List Char) : DecimalTuple :=
  ⟨false, Nat.ofDigitChars 10 (parts.1 ++ parts.2) 0, -(parts.2.length : Int)⟩

section Format

variable {d : DecimalTuple}

theorem isDigit_wholeChars : ∀ c ∈ d.wholeChars, c.isDigit = true := by
  unfold wholeChars
  split
  · exact isDigit_toDigits
  · exact isDigit_toDigits

theorem isDigit_fractionChars : ∀ c ∈ d.fractionChars, c.isDigit = true := by
  unfold fractionChars
  split
  · exact fun c hc => by cases hc
  · exact fun c hc => Numeral.isDigit_padded c hc

theorem length_fractionChars : d.fractionChars.length = (-d.exponent).toNat := by
  unfold fractionChars
  split
  · next h => simp only [List.length_nil]; omega
  · next h => exact Numeral.length_padded (by omega) (Nat.mod_lt _ (by positivity))

theorem ofDigitChars_format :
    Nat.ofDigitChars 10 (d.wholeChars ++ d.fractionChars) 0 = d.digits * 10 ^ d.exponent.toNat := by
  by_cases h : 0 ≤ d.exponent
  · simp only [wholeChars, fractionChars, if_pos h, List.append_nil, Nat.ofDigitChars_ten_toDigits]
  · have hlength := length_fractionChars (d := d)
    have hzero : d.exponent.toNat = 0 := by omega
    rw [Nat.ofDigitChars_append, Nat.ofDigitChars_eq_ofDigitChars_zero, hlength]
    simp only [wholeChars, fractionChars, if_neg h, Nat.ofDigitChars_ten_toDigits,
      Numeral.ofDigitChars_padded]
    rw [hzero, pow_zero, mul_one]
    exact Nat.div_add_mod _ _

theorem plainParts_format (h : d.negative = false) :
    plainParts d.format = some (d.wholeChars, d.fractionChars) := by
  have hdigit := isDigit_wholeChars (d := d)
  unfold plainParts format
  rw [h, String.toList_ofList]
  by_cases he : 0 ≤ d.exponent
  · have hfraction : d.fractionChars = [] := if_pos he
    have htake : (d.wholeChars ++ []).takeWhile Char.isDigit =
        d.wholeChars ++ [].takeWhile Char.isDigit := List.takeWhile_append_of_pos hdigit
    have hdrop : (d.wholeChars ++ []).dropWhile Char.isDigit = [].dropWhile Char.isDigit :=
      List.dropWhile_append_of_pos hdigit
    rw [List.append_nil] at htake hdrop
    simp [if_pos he, hfraction, htake, hdrop]
  · have hnonempty : d.fractionChars ≠ [] := by
      intro hnil
      have hlength := length_fractionChars (d := d)
      rw [hnil, List.length_nil] at hlength
      omega
    have hall : d.fractionChars.all Char.isDigit = true := List.all_eq_true.2 isDigit_fractionChars
    have htake : (d.wholeChars ++ '.' :: d.fractionChars).takeWhile Char.isDigit = d.wholeChars := by
      rw [List.takeWhile_append_of_pos hdigit]
      simp
    have hdrop : (d.wholeChars ++ '.' :: d.fractionChars).dropWhile Char.isDigit =
        '.' :: d.fractionChars := by
      rw [List.dropWhile_append_of_pos hdigit]
      simp
    simp only [if_neg he, Bool.false_eq_true, if_false, List.nil_append, htake, hdrop, ne_eq, hnonempty,
      not_false_eq_true, hall, and_self, if_true]

/-- … and read as the number that was written. -/
theorem value_ofPlain_format (h : d.negative = false) :
    (ofPlain (d.wholeChars, d.fractionChars)).value = d.value := by
  unfold ofPlain value
  simp only [ofDigitChars_format, length_fractionChars, h, Bool.false_eq_true, if_false, one_mul]
  by_cases he : 0 ≤ d.exponent
  · have hzero : (-d.exponent).toNat = 0 := by omega
    simp [he, hzero]
  · have hzero : d.exponent.toNat = 0 := by omega
    have hneg : ¬0 ≤ -(((-d.exponent).toNat : Nat) : Int) := by omega
    have hback : (-(-(((-d.exponent).toNat : Nat) : Int))).toNat = (-d.exponent).toNat := by omega
    rw [if_neg he, if_neg hneg, hzero, hback, pow_zero, mul_one]

end Format

end DecimalTuple

end Lib
