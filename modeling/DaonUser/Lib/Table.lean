import Mathlib.Data.List.Basic
import Mathlib.Logic.Basic

/-!
# Tables with constraints

A `Table τ ρ` is one table, with rows `ρ`, of a database with states `τ`. `Apart` says that two rows agree
on no primary or unique key, `Fits` that a row meets the foreign keys and checks, which do not depend on the
table itself. Rows that are inserted one after the other need the same as all of them at once
(`admitsAll_cons`).
-/

namespace Lib

universe u v

structure Table (τ : Type u) (ρ : Type v) where
  rows : τ → List ρ
  append : τ → List ρ → τ
  Apart : ρ → ρ → Prop
  Fits : τ → ρ → Prop
  decidableApart : ∀ row row', Decidable (Apart row row')
  decidableFits : ∀ t row, Decidable (Fits t row)
  rows_append : ∀ t new, rows (append t new) = rows t ++ new
  append_nil : ∀ t, append t [] = t
  append_append : ∀ t new new', append (append t new) new' = append t (new ++ new')
  fits_append : ∀ t new row, Fits (append t new) row ↔ Fits t row

namespace Table

variable {τ : Type u} {ρ : Type v} (table : Table τ ρ)

def Admits (t : τ) (row : ρ) : Prop :=
  (∀ other ∈ table.rows t, table.Apart other row) ∧ table.Fits t row

instance (t : τ) (row : ρ) : Decidable (table.Admits t row) :=
  have := table.decidableApart
  have := table.decidableFits
  inferInstanceAs (Decidable (_ ∧ _))

/-- The constraints admit some rows together. -/
def AdmitsAll (t : τ) (new : List ρ) : Prop :=
  (∀ row ∈ new, table.Admits t row) ∧ new.Pairwise table.Apart

theorem admits_append {t : τ} {row row' : ρ} :
    table.Admits (table.append t [row]) row' ↔ table.Admits t row' ∧ table.Apart row row' := by
  unfold Admits
  rw [table.rows_append, table.fits_append]
  constructor
  · rintro ⟨hapart, hfits⟩
    refine ⟨⟨fun other hother => hapart other (List.mem_append_left _ hother), hfits⟩, ?_⟩
    exact hapart row (List.mem_append_right _ (List.mem_singleton_self row))
  · rintro ⟨⟨hapart, hfits⟩, hrow⟩
    refine ⟨fun other hother => ?_, hfits⟩
    rcases List.mem_append.1 hother with hother | hother
    · exact hapart other hother
    · rw [List.mem_singleton.1 hother]
      exact hrow

theorem admitsAll_nil (t : τ) : table.AdmitsAll t [] := ⟨by simp, List.Pairwise.nil⟩

theorem admitsAll_cons {t : τ} {row : ρ} {new : List ρ} :
    table.AdmitsAll t (row :: new) ↔
      table.Admits t row ∧ table.AdmitsAll (table.append t [row]) new := by
  simp only [AdmitsAll, List.forall_mem_cons, List.pairwise_cons, table.admits_append]
  constructor
  · rintro ⟨⟨hrow, hnew⟩, hfirst, hpairs⟩
    exact ⟨hrow, fun row' h => ⟨hnew row' h, hfirst row' h⟩, hpairs⟩
  · rintro ⟨hrow, hnew, hpairs⟩
    exact ⟨⟨hrow, fun row' h => (hnew row' h).1⟩, fun row' h => (hnew row' h).2, hpairs⟩

theorem admitsAll_singleton {t : τ} {row : ρ} :
    table.AdmitsAll t [row] ↔ table.Admits t row := by
  rw [admitsAll_cons, and_iff_left (table.admitsAll_nil _)]

theorem append_cons (t : τ) (row : ρ) (new : List ρ) :
    table.append (table.append t [row]) new = table.append t (row :: new) :=
  table.append_append t [row] new

end Table

end Lib
