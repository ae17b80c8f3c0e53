import Mathlib.Data.Set.Function

/-!
# Rows in slots of their own

`slot k` is where the row of key `k` stands, if there is one, and `taken` are the slots in use. `Slots` says
that the rows use these slots and no two the same. A row leaves its slot (`Slots.release`) or takes a free
one (`Slots.take`).
-/

namespace Lib

variable {κ σ : Type*} {slot : κ → Option σ} {taken : Set σ} {k : κ} {s : σ}

/-- The slots in use are those of the rows, and no two rows have the same. -/
structure Slots (slot : κ → Option σ) (taken : Set σ) : Prop where
  mem_iff : ∀ s, s ∈ taken ↔ ∃ k, slot k = some s
  injective : ∀ {k k' s}, slot k = some s → slot k' = some s → k = k'

namespace Slots

theorem release {slot' : κ → Option σ} {taken' : Set σ} (h : Slots slot taken) (hk : slot k = some s)
    (hslot : slot' k = none) (hothers : ∀ k', k' ≠ k → slot' k' = slot k')
    (htaken : ∀ s', s' ∈ taken' ↔ s' ∈ taken ∧ s' ≠ s) : Slots slot' taken' := by
  have hold : ∀ {k' s'}, slot' k' = some s' → k' ≠ k ∧ slot k' = some s' := by
    intro k' s' hs'
    have hne : k' ≠ k := by
      rintro rfl
      rw [hslot] at hs'
      cases hs'
    exact ⟨hne, (hothers k' hne).symm.trans hs'⟩
  refine ⟨fun s' => ?_, fun hs hs' => h.injective (hold hs).2 (hold hs').2⟩
  rw [htaken, h.mem_iff]
  constructor
  · rintro ⟨⟨k', hk'⟩, hne⟩
    have hkey : k' ≠ k := by
      rintro rfl
      exact hne (Option.some.inj (hk'.symm.trans hk))
    exact ⟨k', (hothers k' hkey).trans hk'⟩
  · rintro ⟨k', hk'⟩
    obtain ⟨hkey, hs'⟩ := hold hk'
    refine ⟨⟨k', hs'⟩, ?_⟩
    rintro rfl
    exact hkey (h.injective hs' hk)

theorem take {slot' : κ → Option σ} {taken' : Set σ} (h : Slots slot taken) (hfree : s ∉ taken)
    (hnone : slot k = none) (hslot : slot' k = some s) (hothers : ∀ k', k' ≠ k → slot' k' = slot k')
    (htaken : ∀ s', s' ∈ taken' ↔ s' ∈ taken ∨ s' = s) : Slots slot' taken' := by
  classical
  have hnew : ∀ {k' s'}, slot' k' = some s' → (k' = k ∧ s' = s) ∨ (s' ≠ s ∧ slot k' = some s') := by
    intro k' s' hs'
    by_cases hkey : k' = k
    · rw [hkey, hslot] at hs'
      exact Or.inl ⟨hkey, (Option.some.inj hs').symm⟩
    · have hold := (hothers k' hkey).symm.trans hs'
      refine Or.inr ⟨?_, hold⟩
      rintro rfl
      exact hfree ((h.mem_iff s').2 ⟨k', hold⟩)
  refine ⟨fun s' => ?_, fun {k₁ k₂ s'} h₁ h₂ => ?_⟩
  · rw [htaken, h.mem_iff]
    constructor
    · rintro (⟨k', hk'⟩ | rfl)
      · have hkey : k' ≠ k := by
          rintro rfl
          rw [hnone] at hk'
          cases hk'
        exact ⟨k', (hothers k' hkey).trans hk'⟩
      · exact ⟨k, hslot⟩
    · rintro ⟨k', hk'⟩
      rcases hnew hk' with ⟨-, rfl⟩ | ⟨-, hold⟩
      · exact Or.inr rfl
      · exact Or.inl ⟨k', hold⟩
  · rcases hnew h₁ with ⟨rfl, rfl⟩ | ⟨hne, hold⟩
    · rcases hnew h₂ with ⟨rfl, -⟩ | ⟨hne, -⟩
      · rfl
      · exact absurd rfl hne
    · rcases hnew h₂ with ⟨-, rfl⟩ | ⟨-, hold'⟩
      · exact absurd rfl hne
      · exact h.injective hold hold'

end Slots

end Lib
