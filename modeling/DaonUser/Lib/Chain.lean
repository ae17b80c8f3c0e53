import Mathlib.Data.List.Basic
import Mathlib.Data.List.Nodup
import Mathlib.Data.List.Range
import Mathlib.Tactic.Common

/-!
# Append-only version chains

Rows are appended and never written over, each with a key and a version. `Chained` says that the versions of
every key are `1, 2, …, n` in the order of the rows. A row may be appended when its version is new and is
the first one or follows one that is there (`Extends`), and that keeps the rows chained (`Chained.append`).
`Latest` is the row of a key with the highest version.
-/

namespace Lib

variable {ρ κ : Type*} [DecidableEq κ] (key : ρ → κ) (version : ρ → Int)

def versionsOf (rows : List ρ) (k : κ) : List Int :=
  (rows.filter fun row => key row = k).map version

/-- `1, 2, …, n`. -/
def firstVersions (n : Nat) : List Int := (List.range n).map fun i : Nat => (i : Int) + 1

/-- The versions of every key are contiguous from 1. -/
def Chained (rows : List ρ) : Prop :=
  ∀ k, ∃ n, versionsOf key version rows k = firstVersions n

structure Latest (rows : List ρ) (row : ρ) : Prop where
  mem : row ∈ rows
  highest : ∀ other ∈ rows, key other = key row → version other ≤ version row

/-- The version of the row is new, and it is the first one or the one before it is there. -/
structure Extends (rows : List ρ) (row : ρ) : Prop where
  new : version row ∉ versionsOf key version rows (key row)
  next : version row = 1 ∨ version row - 1 ∈ versionsOf key version rows (key row)

variable {key version} {rows : List ρ} {row : ρ} {k : κ} {n : Nat}

theorem mem_firstVersions {v : Int} : v ∈ firstVersions n ↔ 1 ≤ v ∧ v ≤ n := by
  simp only [firstVersions, List.mem_map, List.mem_range]
  constructor
  · rintro ⟨i, hi, rfl⟩
    omega
  · rintro ⟨h1, hn⟩
    exact ⟨(v - 1).toNat, by omega, by omega⟩

theorem firstVersions_succ : firstVersions (n + 1) = firstVersions n ++ [(n : Int) + 1] := by
  simp [firstVersions, List.range_succ]

theorem nodup_firstVersions : (firstVersions n).Nodup := by
  refine List.Nodup.map ?_ List.nodup_range
  intro i j h
  simp only at h
  omega

theorem mem_versionsOf {v : Int} :
    v ∈ versionsOf key version rows k ↔ ∃ row ∈ rows, key row = k ∧ version row = v := by
  simp [versionsOf, and_assoc]

theorem versionsOf_append_self :
    versionsOf key version (rows ++ [row]) (key row) =
      versionsOf key version rows (key row) ++ [version row] := by
  simp [versionsOf]

theorem versionsOf_append_of_ne (h : key row ≠ k) :
    versionsOf key version (rows ++ [row]) k = versionsOf key version rows k := by
  simp [versionsOf, h]

namespace Chained

theorem nil : Chained key version ([] : List ρ) := fun _ => ⟨0, rfl⟩

theorem version_eq (h : versionsOf key version rows (key row) = firstVersions n)
    (hrow : Extends key version rows row) : version row = n + 1 := by
  obtain ⟨hnew, hnext⟩ := hrow
  rw [h, mem_firstVersions] at hnew hnext
  rcases hnext with hfirst | hprior
  · omega
  · omega

theorem append (h : Chained key version rows) (hrow : Extends key version rows row) :
    Chained key version (rows ++ [row]) := by
  intro k
  by_cases hk : key row = k
  · subst hk
    obtain ⟨n, hn⟩ := h (key row)
    refine ⟨n + 1, ?_⟩
    rw [versionsOf_append_self, hn, firstVersions_succ, version_eq hn hrow]
  · obtain ⟨n, hn⟩ := h k
    exact ⟨n, by rw [versionsOf_append_of_ne hk, hn]⟩

theorem eq_of_version (h : Chained key version rows) {row row' : ρ} (hrow : row ∈ rows)
    (hrow' : row' ∈ rows) (hkey : key row = key row') (hversion : version row = version row') :
    row = row' := by
  obtain ⟨n, hn⟩ := h (key row)
  have hnodup : (versionsOf key version rows (key row)).Nodup := hn ▸ nodup_firstVersions
  refine List.inj_on_of_nodup_map hnodup ?_ ?_ hversion
  · simpa using hrow
  · simpa [hkey] using hrow'

theorem nodup (h : Chained key version rows) : rows.Nodup := by
  rw [List.nodup_iff_sublist]
  intro row htwice
  obtain ⟨n, hn⟩ := h (key row)
  have hnodup : (versionsOf key version rows (key row)).Nodup := hn ▸ nodup_firstVersions
  have htwice' := (htwice.filter fun other => key other = key row).map version
  simp only [decide_true, List.filter_cons_of_pos, List.filter_nil, List.map_cons,
    List.map_nil] at htwice'
  exact List.nodup_iff_sublist.1 hnodup _ htwice'

theorem latest_unique (h : Chained key version rows) {row row' : ρ}
    (hrow : Latest key version rows row) (hrow' : Latest key version rows row')
    (hkey : key row = key row') : row = row' := by
  refine h.eq_of_version hrow.mem hrow'.mem hkey (Int.le_antisymm ?_ ?_)
  · exact hrow'.highest row hrow.mem hkey
  · exact hrow.highest row' hrow'.mem hkey.symm

end Chained

end Lib
