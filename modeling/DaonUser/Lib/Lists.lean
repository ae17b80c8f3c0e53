import Mathlib.Data.List.Pairwise

/-!
# Lists with one element of a kind, and guards
-/

namespace Lib

variable {α : Type}

theorem find?_eq_some_of_unique {p : α → Bool} {xs : List α} {x : α} (hx : x ∈ xs)
    (hp : p x = true) (hunique : ∀ y ∈ xs, p y = true → y = x) : xs.find? p = some x := by
  cases hfind : xs.find? p with
  | none => exact absurd hp (List.find?_eq_none.1 hfind x hx)
  | some y => rw [hunique y (List.mem_of_find?_eq_some hfind) (List.find?_some hfind)]

theorem filter_eq_singleton {p : α → Bool} {xs : List α} {x : α} (hnodup : xs.Nodup)
    (hx : x ∈ xs) (hp : p x = true) (hunique : ∀ y ∈ xs, p y = true → y = x) :
    xs.filter p = [x] := by
  induction xs with
  | nil => cases hx
  | cons y ys ih =>
    obtain ⟨hfresh, hys⟩ := List.nodup_cons.1 hnodup
    by_cases hpy : p y = true
    · obtain rfl := hunique y List.mem_cons_self hpy
      rw [List.filter_cons_of_pos hpy, List.filter_eq_nil_iff.2]
      intro z hz hpz
      rw [hunique z (List.mem_cons_of_mem _ hz) hpz] at hz
      exact hfresh hz
    · rw [List.filter_cons_of_neg hpy]
      rcases List.mem_cons.1 hx with rfl | hx
      · exact absurd hp hpy
      · exact ih hys hx fun z hz => hunique z (List.mem_cons_of_mem _ hz)

theorem guard_bind_eq_some {α : Type} {c : Prop} [Decidable c] {f : Unit → Option α} {a : α} :
    (guard c >>= f) = some a ↔ c ∧ f () = some a := by
  by_cases hc : c
  · have hsome : (guard c : Option Unit) = some () := if_pos hc
    rw [hsome]
    simp [hc]
  · have hnone : (guard c : Option Unit) = none := if_neg hc
    rw [hnone]
    constructor
    · intro h
      cases h
    · intro h
      exact absurd h.1 hc

end Lib
