import DaonUser.Lib.Numeral
import Mathlib.Algebra.Order.Floor.Ring
import Mathlib.Data.Rat.Floor
import Mathlib.Tactic.FieldSimp
import Mathlib.Tactic.Linarith

/-!
# The `numeric` of PostgreSQL

A `Numeric` is a number with the digits after the point that it is shown with. Sums and products are
exact. A quotient has a scale of its own, which leaves about sixteen digits (`divScale`), and is rounded to
it: it is exact where that many digits after the point hold it (`value_div_of_mul_pow`).
-/

namespace Lib

/-- A finite `numeric`: `unscaled / 10 ^ scale`. -/
structure Numeric where
  unscaled : Int
  scale : Nat
  deriving DecidableEq

/-- The nearest integer to `n / d`; a half goes away from zero. -/
def roundAway (n : Int) (d : Nat) : Int := n.sign * ((2 * n.natAbs + d) / (2 * d) : Nat)

theorem roundAway_mul (n : Int) {d : Nat} (hd : 0 < d) : roundAway (n * d) d = n := by
  have hquotient : (2 * (n.natAbs * d) + d) / (2 * d) = n.natAbs := by
    have hsum : 2 * (n.natAbs * d) + d = d + n.natAbs * (2 * d) := by ring
    rw [hsum, Nat.add_mul_div_right _ _ (by omega), Nat.div_eq_of_lt (by omega), Nat.zero_add]
  rw [roundAway, Int.natAbs_mul, Int.natAbs_natCast, hquotient, Int.sign_mul,
    Int.sign_natCast_of_ne_zero (by omega), mul_one, Int.sign_mul_natAbs]

namespace Numeric

/-! ## Values -/

def value (x : Numeric) : ℚ := x.unscaled / 10 ^ x.scale

/-- A `bigint` as a `numeric`. -/
def ofInt (n : Int) : Numeric := ⟨n, 0⟩

@[simp] theorem value_ofInt (n : Int) : (ofInt n).value = n := by simp [value, ofInt]

/-- The digits that a `numeric` is shown with. -/
def chars (x : Numeric) : List Char :=
  (if x.unscaled < 0 then ['-'] else []) ++ Nat.toDigits 10 (x.unscaled.natAbs / 10 ^ x.scale) ++
    if x.scale = 0 then []
    else '.' :: Numeral.padded x.scale (x.unscaled.natAbs % 10 ^ x.scale)

theorem chars_of_isDigit {x : Numeric} (h : ∀ c ∈ x.chars, c.isDigit = true) :
    ∃ n : Nat, x = ofInt n ∧ x.chars = Nat.toDigits 10 n := by
  obtain ⟨unscaled, scale⟩ := x
  have hscale : scale = 0 := by
    by_contra hne
    have hpoint := h '.' (by simp [chars, hne])
    exact absurd hpoint (by decide)
  have hnonneg : 0 ≤ unscaled := by
    by_contra hneg
    have hsign := h '-' (by simp [chars, lt_of_not_ge hneg])
    exact absurd hsign (by decide)
  subst hscale
  refine ⟨unscaled.toNat, ?_, ?_⟩
  · rw [ofInt, Int.toNat_of_nonneg hnonneg]
  · have habs : unscaled.natAbs = unscaled.toNat := by omega
    simp [chars, not_lt.2 hnonneg, habs]

/-! ## Operations -/

/-- `x + y`. -/
def add (x y : Numeric) : Numeric :=
  ⟨x.unscaled * 10 ^ (max x.scale y.scale - x.scale) +
    y.unscaled * 10 ^ (max x.scale y.scale - y.scale), max x.scale y.scale⟩

/-- `x * y`. -/
def mul (x y : Numeric) : Numeric := ⟨x.unscaled * y.unscaled, x.scale + y.scale⟩

/-- `ceil(x)`. -/
def ceil (x : Numeric) : Numeric := ⟨-(-x.unscaled / 10 ^ x.scale), 0⟩

def leading (x : Numeric) : Int × Nat :=
  if x.unscaled = 0 then (0, 0)
  else
    let weight := ((Nat.log 10 x.unscaled.natAbs : Int) - x.scale) / 4
    (weight, x.unscaled.natAbs * 10 ^ (-4 * weight).toNat / 10 ^ (x.scale + (4 * weight).toNat))

/-- `select_div_scale`. -/
def divScale (x y : Numeric) : Nat :=
  let weight := x.leading.1 - y.leading.1 - if x.leading.2 ≤ y.leading.2 then 1 else 0
  max (max (16 - 4 * weight).toNat x.scale) y.scale

/-- `x / y`, where `y` is positive. -/
def div (x y : Numeric) : Numeric :=
  ⟨roundAway (x.unscaled * 10 ^ (divScale x y + y.scale)) (y.unscaled.natAbs * 10 ^ x.scale),
    divScale x y⟩

theorem value_add (x y : Numeric) : (x.add y).value = x.value + y.value := by
  have hx : (10 : ℚ) ^ max x.scale y.scale = 10 ^ (max x.scale y.scale - x.scale) * 10 ^ x.scale := by
    rw [← pow_add, Nat.sub_add_cancel (Nat.le_max_left _ _)]
  have hy : (10 : ℚ) ^ max x.scale y.scale = 10 ^ (max x.scale y.scale - y.scale) * 10 ^ y.scale := by
    rw [← pow_add, Nat.sub_add_cancel (Nat.le_max_right _ _)]
  simp only [value, add]
  push_cast
  rw [add_div]
  congr 1
  · rw [hx, mul_comm (x.unscaled : ℚ), mul_div_mul_left _ _ (by positivity)]
  · rw [hy, mul_comm (y.unscaled : ℚ), mul_div_mul_left _ _ (by positivity)]

theorem value_mul (x y : Numeric) : (x.mul y).value = x.value * y.value := by
  simp only [value, mul]
  push_cast
  rw [pow_add, mul_div_mul_comm]

theorem value_div_of_mul_pow {x y : Numeric} {n : Int} (hy : 0 < y.unscaled)
    (hn : x.value / y.value * 10 ^ divScale x y = n) : (x.div y).value = x.value / y.value := by
  have hpos : (0 : ℚ) < y.unscaled := by exact_mod_cast hy
  have habs : |(y.unscaled : ℚ)| = y.unscaled := abs_of_pos hpos
  have hunscaled : x.unscaled * 10 ^ (divScale x y + y.scale) =
      n * ((y.unscaled.natAbs * 10 ^ x.scale : Nat) : Int) := by
    have hq : ((x.unscaled * 10 ^ (divScale x y + y.scale) : Int) : ℚ) =
        ((n * ((y.unscaled.natAbs * 10 ^ x.scale : Nat) : Int) : Int) : ℚ) := by
      push_cast
      rw [habs, ← hn, value, value]
      field_simp
      ring
    exact_mod_cast hq
  have hd : 0 < y.unscaled.natAbs * 10 ^ x.scale := by
    have : 0 < y.unscaled.natAbs := Int.natAbs_pos.2 hy.ne'
    positivity
  have hvalue : (x.div y).value = (n : ℚ) / 10 ^ divScale x y := by
    rw [value, div]
    dsimp only
    rw [hunscaled, roundAway_mul n hd]
  rw [hvalue, ← hn, mul_div_assoc, div_self (by positivity), mul_one]

end Numeric

end Lib
