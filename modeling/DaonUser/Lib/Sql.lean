import DaonUser.Lib.Call
import Mathlib.Data.List.Pairwise
import Mathlib.Logic.Function.Basic

/-!
# Databases

A `Schema` names the tables of a database, the type of the rows of each and when two rows agree on a key. A
`Database` gives every table its rows, oldest first; `Admits` is what the keys of a table ask of a new row,
and `Keyed` says that no two rows agree on a key. What a transaction leaves is read off its writes by
`simp`.
-/

namespace Lib

structure Schema where
  Table : Type
  Row : Table → Type
  clash : (t : Table) → Row t → Row t → Bool
  clash_comm : ∀ t row row', clash t row row' = clash t row' row
  [decidableEq : DecidableEq Table]

instance (S : Schema) : DecidableEq S.Table := S.decidableEq

def Database (S : Schema) := (t : S.Table) → List (S.Row t)

namespace Database

variable {S : Schema}

def empty : Database S := fun _ => []

def write (t : S.Table) (rows : List (S.Row t)) (db : Database S) : Database S :=
  Function.update db t rows

def Admits (db : Database S) (t : S.Table) (row : S.Row t) : Prop :=
  ∀ other ∈ db t, S.clash t other row = false

instance (db : Database S) (t : S.Table) (row : S.Row t) : Decidable (db.Admits t row) :=
  inferInstanceAs (Decidable (∀ other ∈ db t, S.clash t other row = false))

def insert (t : S.Table) (row : S.Row t) (db : Database S) : Database S :=
  db.write t (db t ++ [row])

def insertOrIgnore (t : S.Table) (row : S.Row t) (db : Database S) : Database S :=
  if db.Admits t row then db.insert t row else db

/-- The rows after an `UPDATE` of those that meet `p`. -/
def update (t : S.Table) (p : S.Row t → Bool) (set : S.Row t → S.Row t) (db : Database S) :
    Database S :=
  db.write t ((db t).map fun row => if p row then set row else row)

/-- The rows after a `DELETE` of those that meet `p`. -/
def delete (t : S.Table) (p : S.Row t → Bool) (db : Database S) : Database S :=
  db.write t ((db t).filter fun row => !p row)

/-- The rows after an `INSERT` that updates the rows with the same key instead, when there are any. -/
def upsert (t : S.Table) (row : S.Row t) (set : S.Row t → S.Row t) (db : Database S) :
    Database S :=
  if db.Admits t row then db.insert t row else db.update t (fun other => S.clash t other row) set

variable {t t' : S.Table} {db : Database S}

@[simp] theorem write_self {rows : List (S.Row t)} : db.write t rows t = rows :=
  Function.update_self ..

@[simp] theorem write_of_ne {rows : List (S.Row t)} (h : t' ≠ t) : db.write t rows t' = db t' :=
  Function.update_of_ne h ..

@[simp] theorem insert_self {row : S.Row t} : db.insert t row t = db t ++ [row] := write_self

@[simp] theorem insert_of_ne {row : S.Row t} (h : t' ≠ t) : db.insert t row t' = db t' :=
  write_of_ne h

@[simp] theorem insertOrIgnore_of_ne {row : S.Row t} (h : t' ≠ t) :
    db.insertOrIgnore t row t' = db t' := by
  unfold insertOrIgnore
  split
  · exact insert_of_ne h
  · rfl

@[simp] theorem update_self {p : S.Row t → Bool} {set : S.Row t → S.Row t} :
    db.update t p set t = (db t).map fun row => if p row then set row else row := write_self

@[simp] theorem update_of_ne {p : S.Row t → Bool} {set : S.Row t → S.Row t} (h : t' ≠ t) :
    db.update t p set t' = db t' :=
  write_of_ne h

@[simp] theorem delete_self {p : S.Row t → Bool} :
    db.delete t p t = (db t).filter fun row => !p row := write_self

@[simp] theorem delete_of_ne {p : S.Row t → Bool} (h : t' ≠ t) : db.delete t p t' = db t' :=
  write_of_ne h

@[simp] theorem upsert_of_ne {row : S.Row t} {set : S.Row t → S.Row t} (h : t' ≠ t) :
    db.upsert t row set t' = db t' := by
  unfold upsert
  split
  · exact insert_of_ne h
  · exact update_of_ne h

theorem insertOrIgnore_of_admits {row : S.Row t} (h : db.Admits t row) :
    db.insertOrIgnore t row = db.insert t row := if_pos h

theorem mem_insertOrIgnore {row row' : S.Row t} (h : row' ∈ db.insertOrIgnore t row t) :
    row' ∈ db t ∨ row' = row := by
  unfold insertOrIgnore at h
  split at h
  · simpa using h
  · exact Or.inl h

theorem mem_insertOrIgnore_of_mem {row row' : S.Row t} (h : row' ∈ db t) :
    row' ∈ db.insertOrIgnore t row t := by
  unfold insertOrIgnore
  split
  · rw [insert_self]
    exact List.mem_append_left _ h
  · exact h

theorem mem_upsert {row row' : S.Row t} {set : S.Row t → S.Row t} (h : row' ∈ db.upsert t row set t) :
    row' ∈ db t ∨ row' = row ∨ ∃ old ∈ db t, row' = set old := by
  unfold upsert at h
  split at h
  · rw [insert_self] at h
    rcases List.mem_append.1 h with hold | hnew
    · exact Or.inl hold
    · exact Or.inr (Or.inl (List.mem_singleton.1 hnew))
  · rw [update_self] at h
    obtain ⟨old, hold, rfl⟩ := List.mem_map.1 h
    split
    · exact Or.inr (Or.inr ⟨old, hold, rfl⟩)
    · exact Or.inl hold

theorem exists_insertOrIgnore (db : Database S) {row : S.Row t} (hself : S.clash t row row = true) :
    ∃ row' ∈ db.insertOrIgnore t row t, S.clash t row' row = true := by
  unfold insertOrIgnore
  split
  · next h =>
    refine ⟨row, ?_, hself⟩
    rw [insert_self]
    exact List.mem_append_right _ (List.mem_singleton_self row)
  · next h =>
    unfold Admits at h
    push Not at h
    obtain ⟨other, hother, hclash⟩ := h
    exact ⟨other, hother, by simpa using hclash⟩

/-! ## Looking a row up -/

section Lookup

variable {row : S.Row t} {p q : S.Row t → Bool}

theorem find?_upsert_self (hp : p row = true) (hkey : ∀ other, S.clash t other row = p other) :
    (db.upsert t row (fun _ => row) t).find? p = some row := by
  unfold upsert
  split
  · next hadmits =>
    have hnone : (db t).find? p = none :=
      List.find?_eq_none.2 fun other hother => by rw [← hkey, hadmits other hother]; decide
    rw [insert_self, List.find?_append, hnone, Option.none_or, List.find?_cons, hp]
  · next hadmits =>
    unfold Admits at hadmits
    push Not at hadmits
    obtain ⟨other, hother, hclash⟩ := hadmits
    rw [update_self, List.find?_map]
    have hsome : ((db t).find? (p ∘ fun r => if S.clash t r row = true then row else r)).isSome := by
      refine List.find?_isSome.2 ⟨other, hother, ?_⟩
      rw [Function.comp_apply, if_pos (by simpa using hclash)]
      exact hp
    obtain ⟨found, hfound⟩ := Option.isSome_iff_exists.1 hsome
    have hmet := List.find?_some hfound
    rw [hfound, Option.map_some]
    by_cases hclash' : S.clash t found row = true
    · rw [if_pos hclash']
    · rw [Function.comp_apply, if_neg hclash', ← hkey] at hmet
      exact absurd hmet hclash'

theorem find?_upsert_of_not {set : S.Row t → S.Row t} (hrow : q row = false)
    (hset : ∀ other, S.clash t other row = true → q other = false ∧ q (set other) = false) :
    (db.upsert t row set t).find? q = (db t).find? q := by
  unfold upsert
  split
  · rw [insert_self, List.find?_append, List.find?_cons, hrow, List.find?_nil, Option.or_none]
  · rw [update_self]
    induction db t with
    | nil => rfl
    | cons other rows ih =>
      rw [List.map_cons, List.find?_cons, List.find?_cons, ih]
      by_cases hclash : S.clash t other row = true
      · rw [if_pos hclash, (hset other hclash).1, (hset other hclash).2]
      · rw [if_neg hclash]

theorem find?_update {set : S.Row t → S.Row t} (hset : ∀ other, q (set other) = q other) :
    (db.update t p set t).find? q = ((db t).find? q).map fun r => if p r then set r else r := by
  rw [update_self, List.find?_map]
  congr 2
  funext other
  rw [Function.comp_apply]
  split
  · exact hset other
  · rfl

theorem find?_insert :
    (db.insert t row t).find? q = ((db t).find? q).or (if q row then some row else none) := by
  rw [insert_self, List.find?_append, List.find?_singleton]

theorem find?_insertOrIgnore_self (hp : p row = true) (hkey : ∀ other, S.clash t other row = p other) :
    (db.insertOrIgnore t row t).find? p = ((db t).find? p).or (some row) := by
  unfold insertOrIgnore
  split
  · rw [find?_insert, if_pos hp]
  · next hadmits =>
    unfold Admits at hadmits
    push Not at hadmits
    obtain ⟨other, hother, hclash⟩ := hadmits
    have hsome : ((db t).find? p).isSome :=
      List.find?_isSome.2 ⟨other, hother, by rw [← hkey]; simpa using hclash⟩
    rw [Option.or_of_isSome hsome]

theorem find?_insertOrIgnore_of_not (hq : q row = false) :
    (db.insertOrIgnore t row t).find? q = (db t).find? q := by
  unfold insertOrIgnore
  split
  · rw [find?_insert, if_neg (by rw [hq]; decide), Option.or_none]
  · rfl

theorem find?_eq_none_of_admits (h : db.Admits t row)
    (hkey : ∀ other, p other = true → S.clash t other row = true) : (db t).find? p = none :=
  List.find?_eq_none.2 fun other hother hp => by
    have hclash := hkey other hp
    rw [h other hother] at hclash
    cases hclash

end Lookup

theorem delete_eq_self {p : S.Row t → Bool} (h : ∀ row ∈ db t, p row = false) : db.delete t p = db := by
  have hrows : ((db t).filter fun row => !p row) = db t :=
    List.filter_eq_self.2 fun row hrow => by rw [h row hrow]; rfl
  rw [delete, hrows]
  exact Function.update_eq_self t db

/-! ## Keys -/

/-- No two rows of the table agree on a key. -/
def Keyed (db : Database S) (t : S.Table) : Prop :=
  (db t).Pairwise fun row row' => S.clash t row row' = false

theorem keyed_empty : (empty : Database S).Keyed t := List.Pairwise.nil

theorem Keyed.congr {db' : Database S} (h : db.Keyed t) (hsame : db' t = db t) : db'.Keyed t := by
  rw [Keyed, hsame]
  exact h

theorem Keyed.insert {row : S.Row t} (h : db.Keyed t) (hadmits : db.Admits t row) :
    (db.insert t row).Keyed t := by
  rw [Keyed, insert_self, List.pairwise_append]
  refine ⟨h, List.pairwise_singleton _ _, fun other hother row' hrow' => ?_⟩
  rw [List.mem_singleton.1 hrow']
  exact hadmits other hother

theorem Keyed.update {p : S.Row t → Bool} {set : S.Row t → S.Row t} (h : db.Keyed t)
    (hset : ∀ row row', S.clash t (set row) row' = S.clash t row row') :
    (db.update t p set).Keyed t := by
  have hset' : ∀ row row', S.clash t row' (set row) = S.clash t row' row := by
    intro row row'
    rw [S.clash_comm, hset, S.clash_comm]
  rw [Keyed, update_self, List.pairwise_map]
  refine h.imp fun {row row'} hrow => ?_
  split <;> split <;> simpa only [hset, hset'] using hrow

theorem Keyed.map {db' : Database S} {f : S.Row t → S.Row t} (h : db.Keyed t)
    (hrows : db' t = (db t).map f)
    (hf : ∀ row row', row ∈ db t → row' ∈ db t → S.clash t (f row) (f row') = S.clash t row row') :
    db'.Keyed t := by
  rw [Keyed, hrows, List.pairwise_map]
  exact List.Pairwise.imp_of_mem (fun hrow hrow' hclash => (hf _ _ hrow hrow').trans hclash) h

theorem Keyed.eq (h : db.Keyed t) {row row' : S.Row t} (hrow : row ∈ db t) (hrow' : row' ∈ db t)
    (hclash : S.clash t row row' = true) : row = row' := by
  by_contra hne
  have : Std.Symm fun a b : S.Row t => S.clash t a b = false :=
    ⟨fun a b hab => by rw [S.clash_comm, hab]⟩
  have hapart : S.clash t row row' = false := List.Pairwise.forall h hrow hrow' hne
  rw [hclash] at hapart
  cases hapart

theorem Keyed.countP_le_one (h : db.Keyed t) {p : S.Row t → Bool}
    (hp : ∀ row row', p row = true → p row' = true → S.clash t row row' = true) :
    (db t).countP p ≤ 1 := by
  unfold Keyed at h
  generalize db t = rows at h
  induction rows with
  | nil => exact Nat.zero_le 1
  | cons row rows ih =>
    obtain ⟨hrow, hrows⟩ := List.pairwise_cons.1 h
    by_cases hmeets : p row = true
    · have hnone : rows.countP p = 0 := by
        refine List.countP_eq_zero.2 fun other hother hmeets' => ?_
        have hclash := hp row other hmeets hmeets'
        rw [hrow other hother] at hclash
        cases hclash
      have hone : (row :: rows).countP p = 1 := by
        rw [List.countP_cons_of_pos hmeets, hnone]
      exact Nat.le_of_eq hone
    · rw [List.countP_cons_of_neg hmeets]
      exact ih hrows

end Database

/-! ## Rows that live on -/

/-- Every row is still there, as a row that `R` accepts after it. -/
def Persists {α : Type} (R : α → α → Prop) (rows rows' : List α) : Prop :=
  ∀ row ∈ rows, ∃ row' ∈ rows', R row row'

namespace Persists

variable {α : Type} {R : α → α → Prop} {rows rows' rows'' : List α}

theorem refl (hR : ∀ row, R row row) (rows : List α) : Persists R rows rows :=
  fun row hrow => ⟨row, hrow, hR row⟩

theorem trans (hR : ∀ {a b c}, R a b → R b c → R a c) (h : Persists R rows rows')
    (h' : Persists R rows' rows'') : Persists R rows rows'' := by
  intro row hrow
  obtain ⟨row', hrow', hlater⟩ := h row hrow
  obtain ⟨row'', hrow'', hlater'⟩ := h' row' hrow'
  exact ⟨row'', hrow'', hR hlater hlater'⟩

theorem of_eq (hR : ∀ row, R row row) (h : rows' = rows) : Persists R rows rows' := by
  rw [h]
  exact refl hR rows

theorem append (hR : ∀ row, R row row) (rows added : List α) : Persists R rows (rows ++ added) :=
  fun row hrow => ⟨row, List.mem_append_left added hrow, hR row⟩

theorem map {f : α → α} (h : ∀ row ∈ rows, R row (f row)) : Persists R rows (rows.map f) :=
  fun row hrow => ⟨f row, List.mem_map_of_mem hrow, h row hrow⟩

end Persists

namespace Call

variable {S : Schema} {ε : Type}

/-- `INSERT`: raise `e` when a key of the table refuses the row. -/
def insertRow (t : S.Table) (row : S.Row t) (e : ε) : Call (Database S) ε PUnit := fun db =>
  if db.Admits t row then (.ok ⟨⟩, db.insert t row) else (.error e, db)

@[simp] theorem returns_insertRow {t : S.Table} {row : S.Row t} {e : ε} {db : Database S}
    {V : PUnit → Database S → Prop} :
    Returns (insertRow t row e) db V ↔ (db.Admits t row → V ⟨⟩ (db.insert t row)) := by
  unfold Returns insertRow
  split
  · next h =>
    simp only [h, true_implies]
    constructor
    · intro hv
      exact hv _ _ rfl
    · rintro hv a s' ⟨⟩
      exact hv
  · next h =>
    simp only [h, false_implies, iff_true]
    rintro a s' ⟨⟩

theorem insertRow_bind {α : Type} {t : S.Table} {row : S.Row t} {e : ε} {db : Database S}
    (h : db.Admits t row) (f : PUnit → Call (Database S) ε α) :
    (insertRow t row e >>= f) db = f ⟨⟩ (db.insert t row) :=
  bind_of_ok (show insertRow t row e db = (.ok ⟨⟩, db.insert t row) from if_pos h) f

end Call

end Lib
