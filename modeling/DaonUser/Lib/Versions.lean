import Mathlib.Data.Nat.Notation
import Mathlib.Tactic.Common

/-!
# Contents with a version

A versioned content comes after another when its version is higher or nothing has changed (`Later`).
Contents that come one after the other and have one version are equal, so where every writer of a
content raises its version, the version says what the content is.
-/

namespace Lib

variable {C : Type*}

/-- `y` is `x` or has a higher version. -/
def Later (x y : ℕ × C) : Prop := x.1 < y.1 ∨ y = x

namespace Later

variable {x y z : ℕ × C}

theorem refl (x : ℕ × C) : Later x x := Or.inr rfl

theorem of_lt (h : x.1 < y.1) : Later x y := Or.inl h

theorem of_eq (h : y = x) : Later x y := Or.inr h

theorem trans (h : Later x y) (h' : Later y z) : Later x z := by
  rcases h with h | rfl
  · rcases h' with h' | rfl
    · exact Or.inl (Nat.lt_trans h h')
    · exact Or.inl h
  · exact h'

theorem eq_of_version (h : Later x y ∨ Later y x) (hversion : x.1 = y.1) : x = y := by
  rcases h with (h | h) | (h | h)
  · exact absurd hversion (Nat.ne_of_lt h)
  · exact h.symm
  · exact absurd hversion (Nat.ne_of_gt h)
  · exact h

end Later

end Lib
