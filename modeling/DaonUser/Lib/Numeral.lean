import Mathlib.Data.List.Basic
import Mathlib.Data.List.Induction
import Mathlib.Data.Nat.Log
import Mathlib.Tactic.Ring

/-!
# Decimal numerals

A `Numeral` is a number as it is written: a sign, digits, digits after a point, an exponent. Its text
determines it (`Numeral.chars_injective`). A `Decimal` is a number `±m * 10 ^ e` in lowest terms;
`Decimal.shortest` writes it the way that floating-point numbers are printed for round trips and
`Numeral.plain` writes a numeral again without an exponent. `Numeral.toDecimal` reads both back.
-/

namespace Lib

theorem append_cancel {α : Type*} {p : α → Bool} {xs ys r r' : List α} (hxs : ∀ c ∈ xs, p c = true)
    (hys : ∀ c ∈ ys, p c = true) (hr : ∀ c ∈ r.head?, p c = false)
    (hr' : ∀ c ∈ r'.head?, p c = false) (h : xs ++ r = ys ++ r') : xs = ys ∧ r = r' := by
  induction xs generalizing ys with
  | nil =>
    cases ys with
    | nil => exact ⟨rfl, h⟩
    | cons y ys =>
      subst h
      have hy := hr y rfl
      rw [hys y List.mem_cons_self] at hy
      cases hy
  | cons x xs ih =>
    cases ys with
    | nil =>
      subst h
      have hx := hr' x rfl
      rw [hxs x List.mem_cons_self] at hx
      cases hx
    | cons y ys =>
      obtain ⟨rfl, htail⟩ := List.cons.inj h
      obtain ⟨rfl, hrest⟩ := ih (fun c hc => hxs c (List.mem_cons_of_mem _ hc))
        (fun c hc => hys c (List.mem_cons_of_mem _ hc)) htail
      exact ⟨rfl, hrest⟩

/-! ## Numerals -/

structure Numeral where
  negative : Bool
  whole : List Char
  fraction : List Char
  exponent : Option Int
  deriving DecidableEq

def isNumeralChar (c : Char) : Bool := c.isDigit || "+-.e".toList.contains c

theorem isNumeralChar_of_isDigit {c : Char} (h : c.isDigit = true) : isNumeralChar c = true := by
  rw [isNumeralChar, h, Bool.true_or]

def exponentChars (e : Int) : List Char :=
  (if e < 0 then '-' else '+') ::
    (List.replicate (2 - (Nat.toDigits 10 e.natAbs).length) '0' ++ Nat.toDigits 10 e.natAbs)

def exponentSuffix : Option Int → List Char
  | none => []
  | some e => 'e' :: exponentChars e

namespace Numeral

/-- The digits are digits, and there are some before the point. -/
structure WellFormed (t : Numeral) : Prop where
  whole : ∀ c ∈ t.whole, c.isDigit = true
  nonempty : t.whole ≠ []
  fraction : ∀ c ∈ t.fraction, c.isDigit = true

def suffix (t : Numeral) : List Char :=
  (if t.fraction = [] then [] else '.' :: t.fraction) ++ exponentSuffix t.exponent

def chars (t : Numeral) : List Char :=
  (if t.negative then ['-'] else []) ++ (t.whole ++ t.suffix)

end Numeral

theorem isDigit_toDigits {n : Nat} : ∀ c ∈ Nat.toDigits 10 n, c.isDigit = true :=
  fun _ hc => Nat.isDigit_of_mem_toDigits (by decide) (by decide) hc

theorem head?_toDigits {n : Nat} (h : 0 < n) : (Nat.toDigits 10 n).head?.any (· ≠ '0') = true := by
  induction n using Nat.strong_induction_on with
  | _ n ih =>
    by_cases hlt : n < 10
    · have hdigit : ∀ m < 10, 0 < m → ([Nat.digitChar m].head?.any (· ≠ '0')) = true := by decide
      rw [Nat.toDigits_of_lt_base hlt]
      exact hdigit n hlt h
    · obtain ⟨d, ds, hds⟩ := List.exists_cons_of_ne_nil (Nat.toDigits_ne_nil (n := n / 10) (b := 10))
      have hhead := ih (n / 10) (by omega) (by omega)
      rw [Nat.toDigits_of_base_le (by decide) (not_lt.1 hlt), hds]
      rwa [hds] at hhead

theorem toDigits_ofDigitChars {cs : List Char} (hdigit : ∀ c ∈ cs, c.isDigit = true)
    (hhead : cs.head?.any (· ≠ '0') = true) :
    0 < Nat.ofDigitChars 10 cs 0 ∧ Nat.toDigits 10 (Nat.ofDigitChars 10 cs 0) = cs := by
  have hlast : ∀ c : Char, c.isDigit = true →
      c.toNat - '0'.toNat < 10 ∧ Nat.toDigits 10 (c.toNat - '0'.toNat) = [c] := by
    intro c hc
    obtain ⟨hlow, hhigh⟩ : 48 ≤ c.toNat ∧ c.toNat ≤ 57 := Char.isDigit_iff_toNat.1 hc
    have hvalues : ∀ n < 10, Nat.toDigits 10 n = [Char.ofNat (48 + n)] := by decide
    have hlt : c.toNat - 48 < 10 := by omega
    refine ⟨hlt, (hvalues _ hlt).trans ?_⟩
    rw [Nat.add_sub_cancel' hlow, Char.ofNat_toNat]
  induction cs using List.reverseRecOn with
  | nil => cases hhead
  | append_singleton cs c ih =>
    obtain ⟨hlt, hdigits⟩ := hlast c (hdigit c (by simp))
    rw [Nat.ofDigitChars_append, Nat.ofDigitChars_cons, Nat.ofDigitChars_nil]
    cases cs with
    | nil =>
      have hne : c ≠ '0' := of_decide_eq_true hhead
      have hpos : c.toNat ≠ 48 := fun heq => hne (Char.toNat_inj.1 heq)
      have hlow : 48 ≤ c.toNat := (Char.isDigit_iff_toNat.1 (hdigit c (by simp))).1
      refine ⟨?_, by simpa using hdigits⟩
      simp
      omega
    | cons d cs =>
      obtain ⟨hpos, hcs⟩ := ih (fun e he => hdigit e (List.mem_append_left _ he)) hhead
      refine ⟨by omega, ?_⟩
      rw [← Nat.toDigits_append_toDigits (by decide) hpos hlt, hcs, hdigits]

theorem exponentChars_injective {e e' : Int} (h : exponentChars e = exponentChars e') : e = e' := by
  obtain ⟨hsign, hdigits⟩ := List.cons.inj h
  have hvalue : ∀ e : Int, Nat.ofDigitChars 10 (List.replicate
      (2 - (Nat.toDigits 10 e.natAbs).length) '0' ++ Nat.toDigits 10 e.natAbs) 0 = e.natAbs := by
    intro e
    rw [Nat.ofDigitChars_append, Nat.ofDigitChars_replicate_zero, Nat.mul_zero,
      Nat.ofDigitChars_ten_toDigits]
  have habs : e.natAbs = e'.natAbs := by rw [← hvalue e, ← hvalue e', hdigits]
  by_cases he : e < 0 <;> by_cases he' : e' < 0 <;> simp [he, he'] at hsign <;> omega

theorem isNumeralChar_exponentChars {e : Int} : ∀ c ∈ exponentChars e, isNumeralChar c = true := by
  intro c hc
  rcases List.mem_cons.1 hc with rfl | hc
  · split <;> decide
  · rcases List.mem_append.1 hc with hc | hc
    · rw [List.eq_of_mem_replicate hc]
      decide
    · exact isNumeralChar_of_isDigit (isDigit_toDigits c hc)

theorem exponentSuffix_stops (e : Option Int) : ∀ c ∈ (exponentSuffix e).head?, c.isDigit = false := by
  cases e <;> simp [exponentSuffix]

theorem exponentSuffix_injective {e e' : Option Int} (h : exponentSuffix e = exponentSuffix e') :
    e = e' := by
  cases e <;> cases e' <;> simp only [exponentSuffix, reduceCtorEq] at h
  · rfl
  · rw [exponentChars_injective (List.cons.inj h).2]

namespace Numeral

variable {t u : Numeral}

theorem suffix_stops (t : Numeral) : ∀ c ∈ t.suffix.head?, c.isDigit = false := by
  unfold suffix
  split
  · exact exponentSuffix_stops _
  · simp

theorem suffix_injective (ht : t.WellFormed) (hu : u.WellFormed) (h : t.suffix = u.suffix) :
    t.fraction = u.fraction ∧ t.exponent = u.exponent := by
  unfold suffix at h
  split at h <;> split at h
  · next ht hu => exact ⟨ht.trans hu.symm, exponentSuffix_injective h⟩
  · cases he : t.exponent <;> simp [he, exponentSuffix] at h
  · cases he : u.exponent <;> simp [he, exponentSuffix] at h
  · obtain ⟨hfraction, hrest⟩ := append_cancel ht.fraction hu.fraction (exponentSuffix_stops _)
      (exponentSuffix_stops _) (List.cons.inj h).2
    exact ⟨hfraction, exponentSuffix_injective hrest⟩

theorem chars_injective (ht : t.WellFormed) (hu : u.WellFormed) (h : t.chars = u.chars) : t = u := by
  have hhead : ∀ {t : Numeral}, t.WellFormed → ∀ rest : List Char, t.whole ++ t.suffix ≠ '-' :: rest := by
    intro t ht rest h
    obtain ⟨c, cs, hcs⟩ := List.exists_cons_of_ne_nil ht.nonempty
    have hc := ht.whole c (by rw [hcs]; exact List.mem_cons_self)
    rw [hcs] at h
    rw [(List.cons.inj h).1] at hc
    exact absurd hc (by decide)
  have hsign : t.negative = u.negative ∧ t.whole ++ t.suffix = u.whole ++ u.suffix := by
    unfold chars at h
    cases hneg : t.negative <;> cases hneg' : u.negative <;> simp only [hneg, hneg'] at h
    · exact ⟨rfl, h⟩
    · exact absurd h (hhead ht _)
    · exact absurd h.symm (hhead hu _)
    · exact ⟨rfl, (List.cons.inj h).2⟩
  obtain ⟨hwhole, hsuffix⟩ :=
    append_cancel ht.whole hu.whole t.suffix_stops u.suffix_stops hsign.2
  obtain ⟨hfraction, hexponent⟩ := suffix_injective ht hu hsuffix
  cases t
  cases u
  simp_all

theorem isNumeralChar_chars (ht : t.WellFormed) : ∀ c ∈ t.chars, isNumeralChar c = true := by
  intro c hc
  unfold chars suffix at hc
  simp only [List.mem_append] at hc
  rcases hc with hc | hc | hc | hc
  · split at hc
    · rw [List.mem_singleton.1 hc]
      decide
    · cases hc
  · exact isNumeralChar_of_isDigit (ht.whole c hc)
  · split at hc
    · cases hc
    · rcases List.mem_cons.1 hc with rfl | hc
      · decide
      · exact isNumeralChar_of_isDigit (ht.fraction c hc)
  · cases he : t.exponent with
    | none => simp [he, exponentSuffix] at hc
    | some e =>
      rw [he] at hc
      rcases List.mem_cons.1 hc with rfl | hc
      · decide
      · exact isNumeralChar_exponentChars c hc

theorem chars_ne_nil (ht : t.WellFormed) : t.chars ≠ [] := by
  unfold chars
  simp [ht.nonempty]

end Numeral

/-! ## Decimals -/

/-- `m` without its last zeros, and the exponent that makes up for them. -/
def stripZeros : Nat → Nat → Int → Nat × Int
  | 0, m, e => (m, e)
  | fuel + 1, m, e => if m % 10 = 0 then stripZeros fuel (m / 10) (e + 1) else (m, e)

theorem stripZeros_mod {fuel m : Nat} {e : Int} (hm : m ≠ 0) (hfuel : m ≤ fuel) :
    (stripZeros fuel m e).1 % 10 ≠ 0 := by
  induction fuel generalizing m e with
  | zero => omega
  | succ fuel ih =>
    unfold stripZeros
    split
    · exact ih (by omega) (by omega)
    · assumption

theorem stripZeros_fuel {f g m : Nat} {e : Int} (hm : m ≠ 0) (hf : m ≤ f) (hg : m ≤ g) :
    stripZeros f m e = stripZeros g m e := by
  induction f generalizing g m e with
  | zero => omega
  | succ f ih =>
    cases g with
    | zero => omega
    | succ g =>
      unfold stripZeros
      split
      · exact ih (by omega) (by omega) (by omega)
      · rfl

/-- A number `±mantissa * 10 ^ exponent` in lowest terms. Zero has a sign. -/
structure Decimal where
  negative : Bool
  mantissa : Nat
  exponent : Int
  lowest : mantissa % 10 ≠ 0 ∨ mantissa = 0 ∧ exponent = 0
  deriving DecidableEq

namespace Decimal

/-- `±m * 10 ^ e`. -/
def of (negative : Bool) (m : Nat) (e : Int) : Decimal :=
  if hm : m = 0 then ⟨negative, 0, 0, Or.inr ⟨rfl, rfl⟩⟩
  else ⟨negative, (stripZeros m m e).1, (stripZeros m m e).2, Or.inl (stripZeros_mod hm le_rfl)⟩

theorem of_mul_ten (negative : Bool) (m : Nat) (e : Int) :
    of negative (m * 10) e = of negative m (e + 1) := by
  by_cases hm : m = 0
  · simp [of, hm]
  · have hstrip : stripZeros (m * 10) (m * 10) e = stripZeros m m (e + 1) := by
      obtain ⟨fuel, hfuel⟩ := Nat.exists_eq_succ_of_ne_zero (show m * 10 ≠ 0 by omega)
      rw [hfuel, stripZeros, ← hfuel, if_pos (by omega), Nat.mul_div_cancel _ (by decide)]
      exact stripZeros_fuel hm (by omega) le_rfl
    simp [of, hm, hstrip]

theorem of_mul_pow (negative : Bool) (m j : Nat) (e : Int) :
    of negative (m * 10 ^ j) e = of negative m (e + j) := by
  induction j generalizing e with
  | zero => simp
  | succ j ih =>
    rw [pow_succ, ← Nat.mul_assoc, of_mul_ten, ih]
    congr 1
    omega

theorem of_self (d : Decimal) : of d.negative d.mantissa d.exponent = d := by
  obtain ⟨negative, m, e, lowest⟩ := d
  rcases lowest with hm | ⟨rfl, rfl⟩
  · have hstrip : stripZeros m m e = (m, e) := by
      obtain ⟨fuel, hfuel⟩ := Nat.exists_eq_succ_of_ne_zero (show m ≠ 0 by omega)
      rw [hfuel, stripZeros, ← hfuel, if_neg hm]
    have hzero : m ≠ 0 := by omega
    simp [of, hzero, hstrip]
  · rfl

/-- The number as `repr` prints a float: without an exponent where the point is not more than four
digits before the first digit nor more than sixteen after it. -/
def shortest (d : Decimal) : Numeral :=
  let digits := Nat.toDigits 10 d.mantissa
  let point : Int := digits.length + d.exponent
  if -4 < point ∧ point ≤ 16 then
    if point ≤ 0 then
      ⟨d.negative, ['0'], List.replicate (-point).toNat '0' ++ digits, none⟩
    else if 0 ≤ d.exponent then
      ⟨d.negative, digits ++ List.replicate d.exponent.toNat '0', ['0'], none⟩
    else ⟨d.negative, digits.take point.toNat, digits.drop point.toNat, none⟩
  else ⟨d.negative, digits.take 1, digits.drop 1, some (point - 1)⟩

end Decimal

namespace Numeral

def significand (t : Numeral) : Nat := Nat.ofDigitChars 10 (t.whole ++ t.fraction) 0

def scale (t : Numeral) : Int := t.exponent.getD 0 - t.fraction.length

def toDecimal (t : Numeral) : Decimal := .of t.negative t.significand t.scale

theorem toDecimal_mk (negative : Bool) (whole fraction : List Char) (exponent : Option Int) :
    toDecimal ⟨negative, whole, fraction, exponent⟩ =
      .of negative (Nat.ofDigitChars 10 (whole ++ fraction) 0)
        (exponent.getD 0 - fraction.length) := rfl

/-- `n` digits, the first ones zeros. -/
def padded (n m : Nat) : List Char :=
  List.replicate (n - (Nat.toDigits 10 m).length) '0' ++ Nat.toDigits 10 m

/-- The number as `numeric` prints it: all digits after the point are kept, there is no exponent, and
zero has no sign. -/
def plain (t : Numeral) : Numeral :=
  let negative := t.negative && t.significand ≠ 0
  if 0 ≤ t.scale then
    ⟨negative, Nat.toDigits 10 (t.significand * 10 ^ t.scale.toNat), [], none⟩
  else
    ⟨negative, Nat.toDigits 10 (t.significand / 10 ^ (-t.scale).toNat),
      padded (-t.scale).toNat (t.significand % 10 ^ (-t.scale).toNat), none⟩

theorem isDigit_padded {n m : Nat} : ∀ c ∈ padded n m, c.isDigit = true := by
  intro c hc
  rcases List.mem_append.1 hc with hc | hc
  · rw [List.eq_of_mem_replicate hc]
    decide
  · exact isDigit_toDigits c hc

theorem length_padded {n m : Nat} (hn : 0 < n) (hm : m < 10 ^ n) : (padded n m).length = n := by
  have hlength : (Nat.toDigits 10 m).length ≤ n :=
    (Nat.length_toDigits_le_iff (by decide) hn).2 hm
  rw [padded, List.length_append, List.length_replicate]
  omega

theorem ofDigitChars_padded {n m : Nat} : Nat.ofDigitChars 10 (padded n m) 0 = m := by
  rw [padded, Nat.ofDigitChars_append, Nat.ofDigitChars_replicate_zero, Nat.mul_zero,
    Nat.ofDigitChars_ten_toDigits]

theorem toDecimal_plain {t : Numeral} (h : t.negative = true → t.significand ≠ 0) :
    t.plain.toDecimal = t.toDecimal := by
  have hnegative : (t.negative && decide (t.significand ≠ 0)) = t.negative := by
    cases hneg : t.negative with
    | false => rfl
    | true => simp [h hneg]
  unfold plain
  dsimp only
  rw [hnegative]
  split
  · next hscale =>
    rw [toDecimal_mk, List.append_nil, Nat.ofDigitChars_ten_toDigits, Decimal.of_mul_pow, toDecimal]
    congr 1
    simp only [Option.getD_none, List.length_nil]
    omega
  · next hscale =>
    have hlength := length_padded (n := (-t.scale).toNat) (by omega)
      (Nat.mod_lt t.significand (Nat.pow_pos (by decide)))
    rw [toDecimal_mk, Nat.ofDigitChars_append, Nat.ofDigitChars_ten_toDigits,
      Nat.ofDigitChars_eq_ofDigitChars_zero, ofDigitChars_padded, hlength, Nat.div_add_mod,
      toDecimal]
    congr 1
    simp only [Option.getD_none]
    omega

end Numeral

namespace Decimal

variable (d : Decimal)

theorem shortest_wellFormed : d.shortest.WellFormed := by
  have hne : Nat.toDigits 10 d.mantissa ≠ [] := Nat.toDigits_ne_nil
  have hlength := List.length_pos_of_ne_nil hne
  unfold shortest
  dsimp only
  split
  · split
    · refine ⟨by simp, by simp, fun c hc => ?_⟩
      rcases List.mem_append.1 hc with hc | hc
      · rw [List.eq_of_mem_replicate hc]
        decide
      · exact isDigit_toDigits c hc
    · split
      · refine ⟨fun c hc => ?_, by simp, by simp⟩
        rcases List.mem_append.1 hc with hc | hc
        · exact isDigit_toDigits c hc
        · rw [List.eq_of_mem_replicate hc]
          decide
      · refine ⟨fun c hc => isDigit_toDigits c (List.mem_of_mem_take hc), ?_,
          fun c hc => isDigit_toDigits c (List.mem_of_mem_drop hc)⟩
        rw [Ne, List.take_eq_nil_iff]
        rintro (h | h)
        · omega
        · exact hne h
  · refine ⟨fun c hc => isDigit_toDigits c (List.mem_of_mem_take hc), ?_,
      fun c hc => isDigit_toDigits c (List.mem_of_mem_drop hc)⟩
    rw [Ne, List.take_eq_nil_iff]
    rintro (h | h)
    · cases h
    · exact hne h

theorem toDecimal_shortest : d.shortest.toDecimal = d := by
  have hne : Nat.toDigits 10 d.mantissa ≠ [] := Nat.toDigits_ne_nil
  have hlength := List.length_pos_of_ne_nil hne
  refine Eq.trans ?_ d.of_self
  unfold shortest
  dsimp only
  split
  · split
    · rw [Numeral.toDecimal_mk, List.cons_append, List.nil_append, ← List.cons_append,
        ← List.replicate_succ, Nat.ofDigitChars_append, Nat.ofDigitChars_replicate_zero,
        Nat.mul_zero, Nat.ofDigitChars_ten_toDigits]
      congr 1
      simp only [Option.getD_none, List.length_append, List.length_replicate]
      omega
    · split
      · rw [Numeral.toDecimal_mk, List.append_assoc, ← List.replicate_succ', Nat.ofDigitChars_append,
          Nat.ofDigitChars_replicate_zero, Nat.ofDigitChars_ten_toDigits, Nat.mul_comm,
          Decimal.of_mul_pow]
        congr 1
        simp only [Option.getD_none, List.length_singleton]
        omega
      · rw [Numeral.toDecimal_mk, List.take_append_drop, Nat.ofDigitChars_ten_toDigits]
        congr 1
        simp only [Option.getD_none, List.length_drop]
        omega
  · rw [Numeral.toDecimal_mk, List.take_append_drop, Nat.ofDigitChars_ten_toDigits]
    congr 1
    simp only [Option.getD_some, List.length_drop]
    omega

theorem shortest_injective {d d' : Decimal} (h : d.shortest = d'.shortest) : d = d' := by
  rw [← d.toDecimal_shortest, h, d'.toDecimal_shortest]

theorem shortest_marked : d.shortest.fraction ≠ [] ∨ d.shortest.exponent ≠ none := by
  have hlength := List.length_pos_of_ne_nil (Nat.toDigits_ne_nil (n := d.mantissa) (b := 10))
  unfold shortest
  dsimp only
  split
  · left
    split
    · simp [Nat.toDigits_ne_nil]
    · split
      · simp
      · rw [Ne, List.drop_eq_nil_iff]
        omega
  · simp

/-- A number has at most sixteen digits before its point. -/
def Small : Prop := (Nat.toDigits 10 d.mantissa).length + d.exponent ≤ 16

instance : Decidable d.Small := inferInstanceAs (Decidable (_ ≤ _))

theorem plain_shortest_fraction (h : d.Small) : d.shortest.plain.fraction ≠ [] := by
  have hlength := List.length_pos_of_ne_nil (Nat.toDigits_ne_nil (n := d.mantissa) (b := 10))
  have hscale : d.shortest.scale < 0 := by
    unfold Small at h
    unfold shortest Numeral.scale
    dsimp only
    split
    · split
      · simp only [Option.getD_none, List.length_append, List.length_replicate]
        omega
      · split
        · simp
        · simp only [Option.getD_none, List.length_drop]
          omega
    · simp only [Option.getD_some, List.length_drop]
      omega
  unfold Numeral.plain
  dsimp only
  rw [if_neg (by omega)]
  simp [Numeral.padded, Nat.toDigits_ne_nil]

end Decimal

end Lib
