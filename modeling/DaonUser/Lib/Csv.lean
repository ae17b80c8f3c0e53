import Mathlib.Data.List.Basic
import Mathlib.Data.List.Forall2

/-!
# Rows of cells, separated by commas

`writeRows` is a writer of the excel dialect that ends a record with LF, and `records` reads what LF, CR or
CRLF outside quotes separates. A cell that holds a CR and is not quoted is cut by the reader, so that what is
written is read back exactly if there is none (`reads_back_iff`).
-/

namespace Lib.Csv

abbrev Cell := List Char

/-! ## Writing -/

def special (c : Char) : Bool := c = ',' || c = '"' || c = '\n'

def quoted (cell : Cell) : Bool := cell.any special

def escape (cell : Cell) : List Char := cell.flatMap fun c => if c = '"' then ['"', '"'] else [c]

def writeCell (cell : Cell) : List Char := if quoted cell then '"' :: escape cell ++ ['"'] else cell

def writeRest (cells : List Cell) : List Char := cells.flatMap (fun cell => ',' :: writeCell cell) ++ ['\n']

/-- A record; `lone` says whether a cell that is empty and alone is quoted. -/
def writeRow (lone : Bool) : List Cell → List Char
  | [] => ['\n']
  | cell :: cells =>
    (if lone ∧ cell :: cells = [[]] then ['"', '"'] else writeCell cell) ++ writeRest cells

def writeRows (lone : Bool) (rows : List (List Cell)) : List Char := rows.flatMap (writeRow lone)

/-- Where the reader is: at the start of a record, there after a CR, at the start of another cell, in a cell
without quotes, in a cell with quotes, or after a quote in one. -/
inductive Place where
  | start
  | cr
  | next
  | plain
  | inside
  | closing
  deriving DecidableEq

def Place.record (place : Place) (row : List Cell) (cell : Cell) : List Cell :=
  if place = .start ∨ place = .cr then [] else row ++ [cell]

/-- The records of a text, with the cells of the current record and the current cell. -/
def recordsFrom (place : Place) (row : List Cell) (cell : Cell) : List Char → List (List Cell)
  | [] => if place = .start ∨ place = .cr then [] else [row ++ [cell]]
  | c :: cs =>
    if place = .inside then
      if c = '"' then recordsFrom .closing row cell cs else recordsFrom .inside row (cell ++ [c]) cs
    else if c = '\n' then
      if place = .cr then recordsFrom .start [] [] cs
      else place.record row cell :: recordsFrom .start [] [] cs
    else if c = '\r' then place.record row cell :: recordsFrom .cr [] [] cs
    else if c = ',' then recordsFrom .next (row ++ [cell]) [] cs
    else if c = '"' ∧ place ≠ .plain then
      if place = .closing then recordsFrom .inside row (cell ++ [c]) cs
      else recordsFrom .inside row cell cs
    else recordsFrom .plain row (cell ++ [c]) cs

def records (text : List Char) : List (List Cell) := recordsFrom .start [] [] text

/-! ## One cell -/

theorem recordsFrom_inside (row : List Cell) (done cell : Cell) (rest : List Char) :
    recordsFrom .inside row done (escape cell ++ '"' :: rest) =
      recordsFrom .closing row (done ++ cell) rest := by
  induction cell generalizing done with
  | nil => simp [escape, recordsFrom]
  | cons c cell ih =>
    have hesc : escape (c :: cell) = (if c = '"' then ['"', '"'] else [c]) ++ escape cell := rfl
    rw [hesc]
    by_cases hc : c = '"'
    · subst hc
      simpa [recordsFrom] using ih (done ++ ['"'])
    · simpa [recordsFrom, hc] using ih (done ++ [c])

theorem recordsFrom_bare {place : Place} (hplace : place ≠ .inside) (row : List Cell) (done : Cell) {c : Char}
    (hc : special c = false) (hcr : c ≠ '\r') (rest : List Char) :
    recordsFrom place row done (c :: rest) = recordsFrom .plain row (done ++ [c]) rest := by
  simp only [special, Bool.or_eq_false_iff, decide_eq_false_iff_not] at hc
  simp [recordsFrom, hplace, hc, hcr]

theorem recordsFrom_plain (row : List Cell) (done cell : Cell) (rest : List Char)
    (hcell : quoted cell = false) (hcr : '\r' ∉ cell) :
    recordsFrom .plain row done (cell ++ rest) = recordsFrom .plain row (done ++ cell) rest := by
  induction cell generalizing done with
  | nil => simp
  | cons c cell ih =>
    rw [quoted, List.any_cons, Bool.or_eq_false_iff] at hcell
    rw [List.mem_cons, not_or] at hcr
    have hplain : Place.plain ≠ .inside := by decide
    rw [List.cons_append, recordsFrom_bare hplain row done hcell.1 (Ne.symm hcr.1), ih _ hcell.2 hcr.2,
      List.append_assoc, List.singleton_append]

/-- A cell is to be read here. -/
def Place.Fresh (place : Place) : Prop := place = .start ∨ place = .next

/-- A cell was read to its end here, and is an empty line only if there was nothing before. -/
structure Place.Ended (place before : Place) (cell : Cell) : Prop where
  inside : place ≠ .inside
  cr : place ≠ .cr
  start : place = .start ↔ before = .start ∧ cell = []

theorem Place.Fresh.ne_inside {place : Place} (h : place.Fresh) : place ≠ .inside := by
  rcases h with rfl | rfl <;> decide

theorem recordsFrom_unquoted {place : Place} (hplace : place.Fresh) (row : List Cell) (cell : Cell)
    (rest : List Char) (hcell : quoted cell = false) (hcr : '\r' ∉ cell) :
    ∃ after : Place, after.Ended place cell ∧
      recordsFrom place row [] (cell ++ rest) = recordsFrom after row cell rest := by
  cases cell with
  | nil =>
    refine ⟨place, ⟨hplace.ne_inside, ?_, (and_iff_left rfl).symm⟩, rfl⟩
    rcases hplace with rfl | rfl <;> decide
  | cons c cell =>
    rw [quoted, List.any_cons, Bool.or_eq_false_iff] at hcell
    rw [List.mem_cons, not_or] at hcr
    refine ⟨.plain, ⟨nofun, nofun, ⟨nofun, nofun⟩⟩, ?_⟩
    rw [List.cons_append, recordsFrom_bare hplace.ne_inside row [] hcell.1 (Ne.symm hcr.1)]
    exact recordsFrom_plain row [c] cell rest hcell.2 hcr.2

/-- The cell is quoted, or has no CR. -/
def Kept (cell : Cell) : Prop := '\r' ∈ cell → quoted cell = true

instance (cell : Cell) : Decidable (Kept cell) := inferInstanceAs (Decidable ('\r' ∈ cell → _))

theorem recordsFrom_writeCell {place : Place} (hplace : place.Fresh) (row : List Cell) {cell : Cell}
    (rest : List Char) (hcell : Kept cell) :
    ∃ after : Place, after.Ended place cell ∧
      recordsFrom place row [] (writeCell cell ++ rest) = recordsFrom after row cell rest := by
  by_cases hq : quoted cell = true
  · have hne : cell ≠ [] := by
      rintro rfl
      exact nomatch hq
    refine ⟨.closing, ⟨nofun, nofun, ⟨nofun, fun h => absurd h.2 hne⟩⟩, ?_⟩
    have hinside := recordsFrom_inside row [] cell rest
    rw [List.nil_append] at hinside
    rw [← hinside, writeCell, if_pos hq]
    rcases hplace with rfl | rfl <;> simp [recordsFrom]
  · rw [writeCell, if_neg hq]
    exact recordsFrom_unquoted hplace row cell rest (Bool.eq_false_iff.mpr hq) fun h => hq (hcell h)

/-! ## One record -/

/-- The cells that are read of a record: the first one that is not kept ends at its CR. -/
def cut : List Cell → List Cell
  | [] => []
  | cell :: cells => if Kept cell then cell :: cut cells else [cell.takeWhile (· ≠ '\r')]

theorem cut_ne_nil (cell : Cell) (cells : List Cell) : cut (cell :: cells) ≠ [] := by
  unfold cut
  split <;> simp

theorem cut_of_kept {cells : List Cell} (h : ∀ cell ∈ cells, Kept cell) : cut cells = cells := by
  induction cells with
  | nil => rfl
  | cons cell cells ih =>
    rw [List.forall_mem_cons] at h
    rw [cut, if_pos h.1, ih h.2]

theorem split_of_not_kept {cell : Cell} (h : ¬ Kept cell) :
    quoted cell = false ∧ ∃ q, '\r' ∉ cell.takeWhile (· ≠ '\r') ∧
      cell = cell.takeWhile (· ≠ '\r') ++ '\r' :: q := by
  rw [Kept, Classical.not_imp, Bool.not_eq_true] at h
  obtain ⟨p, q, hpq, hp⟩ := List.eq_append_cons_of_mem h.1
  have htake : cell.takeWhile (· ≠ '\r') = p := by
    rw [hpq, List.takeWhile_append_of_pos (by simpa using fun c hc (he : c = '\r') => hp (he ▸ hc))]
    simp
  exact ⟨h.2, q, htake ▸ hp, by rw [htake, ← hpq]⟩

theorem Place.Ended.record_eq {after place : Place} {cell : Cell} (h : after.Ended place cell)
    (row : List Cell) :
    after.record row cell = if place = .start ∧ [cell] = [[]] then [] else row ++ [cell] := by
  simp only [Place.record, or_iff_left h.cr, h.start, List.singleton_inj]

theorem recordsFrom_cut {place : Place} (hplace : place.Fresh) (row : List Cell) {cell : Cell}
    (hcell : ¬ Kept cell) (rest : List Char) (cells : List Cell) :
    ∃ more, recordsFrom place row [] (writeCell cell ++ rest) =
      (if place = .start ∧ cut (cell :: cells) = [[]] then [] else row ++ cut (cell :: cells)) :: more := by
  obtain ⟨hq, q, hp, hsplit⟩ := split_of_not_kept hcell
  have hcut : cut (cell :: cells) = [cell.takeWhile (· ≠ '\r')] := if_neg hcell
  rw [hcut, writeCell, hq, if_neg nofun]
  generalize cell.takeWhile (· ≠ '\r') = p at hp hsplit
  subst hsplit
  rw [quoted, List.any_append, Bool.or_eq_false_iff] at hq
  obtain ⟨after, hafter, hread⟩ := recordsFrom_unquoted hplace row p ('\r' :: q ++ rest) hq.1 hp
  rw [List.append_assoc, hread, ← hafter.record_eq]
  exact ⟨recordsFrom .cr [] [] (q ++ rest), by simp [recordsFrom, hafter.inside]⟩

theorem recordsFrom_cells (rest : List Char) (cells : List Cell) {place : Place} (hplace : place.Fresh)
    (row : List Cell) (cell : Cell) :
    ∃ more, recordsFrom place row [] (writeCell cell ++ (writeRest cells ++ rest)) =
        (if place = .start ∧ cut (cell :: cells) = [[]] then [] else row ++ cut (cell :: cells)) :: more ∧
      ((∀ c ∈ cell :: cells, Kept c) → more = records rest) := by
  induction cells generalizing place row cell with
  | nil =>
    by_cases hcell : Kept cell
    · obtain ⟨after, hafter, hread⟩ := recordsFrom_writeCell hplace row (writeRest [] ++ rest) hcell
      refine ⟨records rest, ?_, fun _ => rfl⟩
      rw [hread, cut, if_pos hcell, cut, ← hafter.record_eq]
      simp [writeRest, recordsFrom, hafter.inside, hafter.cr, records]
    · obtain ⟨more, hread⟩ := recordsFrom_cut hplace row hcell (writeRest [] ++ rest) []
      exact ⟨more, hread, fun h => absurd (h cell List.mem_cons_self) hcell⟩
  | cons next cells ih =>
    by_cases hcell : Kept cell
    · obtain ⟨after, hafter, hread⟩ := recordsFrom_writeCell hplace row (writeRest (next :: cells) ++ rest) hcell
      obtain ⟨more, hmore, hkept⟩ := ih (.inr rfl) (row ++ [cell]) next
      refine ⟨more, ?_, fun h => hkept fun c hc => h c (List.mem_cons_of_mem _ hc)⟩
      have hcomma : recordsFrom after row cell (writeRest (next :: cells) ++ rest) =
          recordsFrom .next (row ++ [cell]) [] (writeCell next ++ (writeRest cells ++ rest)) := by
        simp [writeRest, recordsFrom, hafter.inside]
      have hcons : cut (cell :: next :: cells) = cell :: cut (next :: cells) := if_pos hcell
      have hlong : ¬ (place = .start ∧ cell :: cut (next :: cells) = [[]]) :=
        fun h => cut_ne_nil next cells (List.cons.inj h.2).2
      rw [hread, hcomma, hmore, hcons, if_neg (fun h => nomatch h.1), if_neg hlong, List.append_assoc,
        List.singleton_append]
    · obtain ⟨more, hread⟩ := recordsFrom_cut hplace row hcell (writeRest (next :: cells) ++ rest) (next :: cells)
      exact ⟨more, hread, fun h => absurd (h cell List.mem_cons_self) hcell⟩

def line (lone : Bool) (row : List Cell) : List Cell :=
  if ¬ (lone ∧ row = [[]]) ∧ cut row = [[]] then [] else cut row

theorem records_writeRow (lone : Bool) (row : List Cell) (rest : List Char) :
    ∃ more, records (writeRow lone row ++ rest) = line lone row :: more ∧
      ((∀ cell ∈ row, Kept cell) → more = records rest) := by
  cases row with
  | nil => exact ⟨records rest, by simp [writeRow, records, recordsFrom, Place.record, line, cut], fun _ => rfl⟩
  | cons cell cells =>
    by_cases hlone : lone = true ∧ cell :: cells = [[]]
    · obtain ⟨rfl, hempty⟩ := hlone
      rw [hempty]
      exact ⟨records rest, rfl, fun _ => rfl⟩
    · obtain ⟨more, hread, hkept⟩ := recordsFrom_cells rest cells (.inl rfl) [] cell
      refine ⟨more, ?_, hkept⟩
      have hrow : writeRow lone (cell :: cells) = writeCell cell ++ writeRest cells :=
        congrArg (· ++ writeRest cells) (if_neg hlone)
      have hline : (¬ (lone = true ∧ cell :: cells = [[]]) ∧ cut (cell :: cells) = [[]]) =
          (Place.start = .start ∧ cut (cell :: cells) = [[]]) := by simp only [hlone, not_false_eq_true]
      rw [hrow, List.append_assoc, records, hread, line]
      simp only [hline, List.nil_append]

/-- Every cell is kept, and no record is an empty line. -/
def Whole (lone : Bool) (row : List Cell) : Prop :=
  (∀ cell ∈ row, Kept cell) ∧ (lone = true ∨ row ≠ [[]])

section

variable (lit : Cell → Cell) {N : Cell → Cell → Prop} (hlit : ∀ c, N c (lit c))
  (hcut : ∀ c p q, lit c = p ++ '\r' :: q → ¬ N c p)

include hlit hcut

theorem forall₂_cut (row : List Cell) :
    List.Forall₂ N row (cut (row.map lit)) ↔ ∀ cell ∈ row.map lit, Kept cell := by
  induction row with
  | nil => simp [cut]
  | cons c row ih =>
    rw [List.map_cons, cut, List.forall_mem_cons]
    by_cases hc : Kept (lit c)
    · rw [if_pos hc, List.forall₂_cons, ih, and_congr_left fun _ => iff_of_true (hlit c) hc]
    · obtain ⟨-, q, -, hq⟩ := split_of_not_kept hc
      rw [if_neg hc, List.forall₂_cons]
      exact iff_of_false (fun h => hcut c _ q hq h.1) fun h => hc h.1

theorem forall₂_line (lone : Bool) (row : List Cell) :
    List.Forall₂ N row (line lone (row.map lit)) ↔ Whole lone (row.map lit) := by
  have hkept := forall₂_cut lit hlit hcut row
  unfold line Whole
  by_cases hline : ¬ (lone = true ∧ row.map lit = [[]]) ∧ cut (row.map lit) = [[]]
  · rw [if_pos hline, List.forall₂_nil_right_iff]
    refine iff_of_false ?_ ?_
    · rintro rfl
      exact nomatch hline.2
    · rintro ⟨hall, hlone⟩
      rw [cut_of_kept hall] at hline
      exact hlone.elim (fun h => hline.1 ⟨h, hline.2⟩) fun h => h hline.2
  · rw [if_neg hline, hkept]
    refine (and_iff_left_of_imp fun hall => ?_).symm
    by_contra hlone
    rw [not_or, not_not] at hlone
    exact hline ⟨fun h => hlone.1 h.1, by rw [hlone.2]; rfl⟩

theorem reads_back_iff (lone : Bool) (rows : List (List Cell)) :
    List.Forall₂ (List.Forall₂ N) rows (records (writeRows lone (rows.map fun row => row.map lit))) ↔
      ∀ row ∈ rows, Whole lone (row.map lit) := by
  induction rows with
  | nil => exact ⟨fun _ => nofun, fun _ => .nil⟩
  | cons row rows ih =>
    obtain ⟨more, hread, hmore⟩ :=
      records_writeRow lone (row.map lit) (writeRows lone (rows.map fun row => row.map lit))
    have hline := forall₂_line lit hlit hcut lone row
    rw [List.map_cons, writeRows, List.flatMap_cons, ← writeRows, hread, List.forall₂_cons, hline,
      List.forall_mem_cons]
    refine and_congr_right fun hwhole => ?_
    rw [hmore hwhole.1, ih]

end

theorem records_writeRows {lone : Bool} {rows : List (List Cell)} (h : ∀ row ∈ rows, Whole lone row) :
    records (writeRows lone rows) = rows := by
  have hiff := reads_back_iff (N := Eq) id (fun _ => rfl) (fun c p q hc hp => by simp [hp] at hc) lone rows
  simp only [List.map_id_fun, id_eq, List.map_id', List.forall₂_eq_eq_eq] at hiff
  exact (hiff.mpr h).symm

end Lib.Csv
