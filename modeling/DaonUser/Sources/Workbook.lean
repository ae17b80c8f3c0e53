import DaonUser.Lib.Dict
import DaonUser.Lib.Folds
import DaonUser.Lib.Lists
import DaonUser.Sources.Cells

/-!
# Workbooks and views of cells

`read_xlsx` assembles the sheets of a workbook from the records of its parts, and `read_sheet_cell_view`
shows a selected range with a border of one cell. What the view relies on holds of every sheet that is read
(`Assembled`), so a view of a used range fails only where it has more than 324 cells
(`read_sheet_cell_view_spec`).
-/

namespace DaonUser.Sources

open Lib

/-! ## Records -/

abbrev Attrs := List (String × String)

/-- A record of a cell: its attributes, those of its row, and the texts of its elements. -/
structure CellRecord where
  attrs : Attrs
  row : Option Attrs
  value : Option String
  formula : Option String
  hasFormula : Bool
  inline : Option String

inductive Record where
  | dimension (attrs : Attrs)
  | col (attrs : Attrs)
  | row (attrs : Attrs)
  | mergeCell (attrs : Attrs)
  | c (record : CellRecord)
  | other

def reject {α : Type} : Except String α := .error "CORRUPTED_SOURCE"

def unsupported {α : Type} : Except String α := .error "UNSUPPORTED_FORMAT"

def orReject {α : Type} (x : Option α) : Except String α := x.elim reject .ok

def integer (value : Option String) (minimum maximum : Nat) : Except String Nat :=
  match value with
  | none => reject
  | some s =>
    let result := Nat.ofDigitChars 10 s.toList 0
    if s.toList = [] ∨ !s.toList.all Char.isDigit then reject
    else if result < minimum ∨ maximum < result then reject
    else .ok result

def boolean (value : String) : Except String Bool :=
  if value ∈ ["0", "1", "false", "true"] then .ok (value ∈ ["1", "true"]) else reject

def hidden (attrs : Attrs) : Except String Bool := boolean ((attrs.lookup "hidden").getD "0")

/-- `_bounds` of an attribute. -/
def boundsOf (value : Option String) : Except String Area :=
  orReject (value.bind fun s => bounds (Text.ofString s))

/-- What `_cell` takes from the style, the value and the formula. -/
structure CellFacts where
  valueType : String
  rawValue : Option String
  displayValue : Option String
  formula : Option String
  cachedValue : Option String
  numberFormat : Option String
  deriving DecidableEq

structure Cell extends CellFacts where
  address : String
  hiddenRow : Bool
  hiddenColumn : Bool
  deriving DecidableEq

/-- What a cell adds to `nonempty`. -/
def Cell.content (c : Cell) : Nat :=
  if (c.rawValue ≠ none ∧ c.rawValue ≠ some "") ∨ c.formula ≠ none then 1 else 0

def inColumns (columns : List (Nat × Nat)) (col : Nat) : Bool :=
  columns.any fun range => range.1 ≤ col && col ≤ range.2

/-- `_cell`. The shared strings, the formats and the date system are in `facts`, which is any function here. -/
def cell (facts : CellRecord → Except String CellFacts) (hiddenColumns : List (Nat × Nat))
    (record : CellRecord) : Except String Cell := do
  let address ← orReject (record.attrs.lookup "r")
  let place ← orReject (coordinate (Text.ofString address))
  let rowAttrs ← orReject record.row
  let row ← integer (rowAttrs.lookup "r") 1 1048576
  if row ≠ place.2 then reject
  else do
    let facts ← facts record
    let hiddenRow ← hidden rowAttrs
    return { facts with address, hiddenRow, hiddenColumn := inColumns hiddenColumns place.1 }

/-! ## Sheets -/

structure Layout where
  hiddenColumns : List (Nat × Nat)
  hiddenRows : List Nat
  merged : List String
  seenRows : List Nat

def Layout.add (l : Layout) : Record → Except String Layout
  | .dimension attrs => do
    let _ ← boundsOf (attrs.lookup "ref")
    return l
  | .col attrs => do
    let a ← integer (attrs.lookup "min") 1 16384
    let b ← integer (attrs.lookup "max") a 16384
    let isHidden ← hidden attrs
    return if isHidden then { l with hiddenColumns := l.hiddenColumns ++ [(a, b)] } else l
  | .row attrs => do
    let row ← integer (attrs.lookup "r") 1 1048576
    if row ∈ l.seenRows then reject
    else do
      let isHidden ← hidden attrs
      return { l with seenRows := row :: l.seenRows,
                      hiddenRows := if isHidden then l.hiddenRows ++ [row] else l.hiddenRows }
  | .mergeCell attrs => do
    let value ← orReject (attrs.lookup "ref")
    let _ ← boundsOf (some value)
    if value ∈ l.merged then reject else return { l with merged := l.merged ++ [value] }
  | _ => .ok l

/-- What the second loop collects. `nonempty` is counted over all sheets. -/
structure Stored where
  cells : List Cell
  maxCol : Nat
  maxRow : Nat
  nonempty : Nat

variable (facts : CellRecord → Except String CellFacts)

def Stored.add (hiddenColumns : List (Nat × Nat)) (s : Stored) : Record → Except String Stored
  | .c record => do
    let new ← cell facts hiddenColumns record
    if new.address ∈ s.cells.map (·.address) then reject
    else do
      let place ← orReject (coordinate (Text.ofString new.address))
      if 2048 < s.nonempty + new.content then unsupported
      else return ⟨s.cells ++ [new], max s.maxCol place.1, max s.maxRow place.2, s.nonempty + new.content⟩
  | _ => .ok s

structure Sheet where
  sheetName : String
  visibility : String
  cells : List Cell
  mergedRanges : List String
  hiddenRows : List Nat
  hiddenColumns : List (Nat × Nat)
  usedRange : String

def widen (corner : Nat × Nat) (value : String) : Except String (Nat × Nat) := do
  let area ← boundsOf (some value)
  return (max corner.1 area.endCol, max corner.2 area.endRow)

def usedRange (corner : Nat × Nat) : String :=
  if corner ≠ (1, 1) then "A1:" ++ address corner.1 corner.2 else "A1"

def readSheet (name visibility : String) (nonempty : Nat) (rows : List Record) :
    Except String (Sheet × Nat) := do
  let layout ← rows.foldlM Layout.add ⟨[], [], [], []⟩
  let stored ← rows.foldlM (Stored.add facts layout.hiddenColumns) ⟨[], 1, 1, nonempty⟩
  let corner ← layout.merged.foldlM widen (stored.maxCol, stored.maxRow)
  return (⟨name, visibility, stored.cells, layout.merged, layout.hiddenRows, layout.hiddenColumns,
    usedRange corner⟩, stored.nonempty)

/-! ## Workbooks -/

/-- A `sheet` record of the workbook part with the worksheet that its relationship names. -/
structure SheetRecord where
  attrs : Attrs
  target : String
  rows : List Record

structure Package where
  sha256 : String
  date1904 : Bool
  sheets : List SheetRecord

structure Assembling where
  sheets : List Sheet
  targets : List String
  nonempty : Nat

def Assembling.add (a : Assembling) (record : SheetRecord) : Except String Assembling := do
  let name ← orReject (record.attrs.lookup "name")
  let visibility := (record.attrs.lookup "state").getD "visible"
  if !sheetName (Text.ofString name) ∨ name ∈ a.sheets.map (·.sheetName) ∨
      visibility ∉ ["visible", "hidden", "veryHidden"] ∨ record.target ∈ a.targets then reject
  else do
    let (sheet, nonempty) ← readSheet facts name visibility a.nonempty record.rows
    return ⟨a.sheets ++ [sheet], record.target :: a.targets, nonempty⟩

def orNull (s : Option String) : Json Int := s.elim .null .str

def Cell.json (c : Cell) : Json Int :=
  .obj [("address", .str c.address), ("value_type", .str c.valueType), ("raw_value", orNull c.rawValue),
    ("display_value", orNull c.displayValue), ("formula", orNull c.formula),
    ("cached_value", orNull c.cachedValue), ("number_format", orNull c.numberFormat),
    ("hidden_row", .bool c.hiddenRow), ("hidden_column", .bool c.hiddenColumn)]

def Sheet.json (s : Sheet) : Json Int :=
  .obj [("sheet_name", .str s.sheetName), ("sheet_visibility", .str s.visibility),
    ("cells", .arr (s.cells.map Cell.json)), ("merged_ranges", .arr (s.mergedRanges.map .str)),
    ("hidden_rows", .arr (s.hiddenRows.map fun (row : Nat) => .num row)),
    ("hidden_columns", .arr (s.hiddenColumns.map fun range => .arr [.num range.1, .num range.2])),
    ("used_range", .str s.usedRange)]

structure XlsxWorkbook where
  sourceSha256 : String
  sheets : List Sheet
  nativeJson : String

def readXlsx (p : Package) : Except String XlsxWorkbook := do
  if p.sheets.length < 1 ∨ 8 < p.sheets.length then unsupported
  else do
    let a ← p.sheets.foldlM (Assembling.add facts) ⟨[], [], 0⟩
    let native := Json.chars (.obj [("serialization_version", .str "xlsx-structure-v1"),
      ("date1904", .bool p.date1904), ("sheets", .arr (a.sheets.map Sheet.json))] : Json Int)
    if 32768 < (utf8 native).length then unsupported
    else return ⟨p.sha256, a.sheets, String.ofList native⟩

def Area.view (a : Area) : Area :=
  ⟨max 1 (a.startCol - 1), max 1 (a.startRow - 1), min 16384 (a.endCol + 1), min 1048576 (a.endRow + 1)⟩

/-- `_range`. -/
def Area.text (a : Area) : String :=
  let first := address a.startCol a.startRow
  let last := address a.endCol a.endRow
  if first = last then first else first ++ ":" ++ last

def blank (s : Sheet) (col row : Nat) : Cell where
  valueType := "blank"
  rawValue := none
  displayValue := none
  formula := none
  cachedValue := none
  numberFormat := none
  address := address col row
  hiddenRow := s.hiddenRows.contains row
  hiddenColumn := inColumns s.hiddenColumns col

def displayed (s : Sheet) (view : Area) : List Cell :=
  let cells := Dict.ofList (s.cells.map fun c => (c.address, c))
  (List.range' view.startRow (view.endRow + 1 - view.startRow)).flatMap fun row =>
    (List.range' view.startCol (view.endCol + 1 - view.startCol)).map fun col =>
      (cells.get? (address col row)).getD (blank s col row)

def addMerged (view : Area) (merged : List String) (value : String) : Except String (List String) := do
  let area ← boundsOf (some value)
  return if area.startCol ≤ view.endCol ∧ view.startCol ≤ area.endCol ∧ area.startRow ≤ view.endRow ∧
    view.startRow ≤ area.endRow then merged ++ [value] else merged

structure SheetCellView where
  sourceSha256 : String
  sheetName : String
  visibility : String
  selectedRange : Text
  viewRange : String
  cells : List Cell
  mergedRanges : List String

def readSheetCellView (wb : XlsxWorkbook) (locatorValue : Text) : Except String SheetCellView := do
  let x ← orReject (decodeSheetCell locatorValue)
  let s ← orReject (wb.sheets.find? fun s => Text.ofString s.sheetName = x.sheet)
  let selected ← orReject (selectedBounds x.range)
  let used ← boundsOf (some s.usedRange)
  if used.endCol < selected.endCol ∨ used.endRow < selected.endRow then reject
  else if 324 < selected.view.size then reject
  else do
    let merged ← s.mergedRanges.foldlM (addMerged selected.view) []
    return ⟨wb.sourceSha256, s.sheetName, s.visibility, x.range, selected.view.text,
      displayed s selected.view, merged⟩

/-! ## What is assembled -/

def Area.Contains (a : Area) (col row : Nat) : Prop :=
  (a.startCol ≤ col ∧ col ≤ a.endCol) ∧ a.startRow ≤ row ∧ row ≤ a.endRow

theorem orReject_eq_ok {α : Type} {x : Option α} {a : α} : orReject x = .ok a ↔ x = some a := by
  cases x with
  | none => exact iff_of_false nofun nofun
  | some b => simp [orReject]

theorem boundsOf_eq_ok {value : String} {area : Area} :
    boundsOf (some value) = .ok area ↔ bounds (Text.ofString value) = some area := orReject_eq_ok

theorem address_injective {col row col' row' : Nat} (h : OnSheet col row) (h' : OnSheet col' row')
    (heq : address col row = address col' row') : col = col' ∧ row = row' := by
  have hcoordinate := coordinate_address h
  rw [heq, coordinate_address h'] at hcoordinate
  obtain ⟨rfl, rfl⟩ := Prod.mk.inj (Option.some.inj hcoordinate)
  exact ⟨rfl, rfl⟩

theorem colon_not_mem_address {col row : Nat} (h : OnSheet col row) :
    colon ∉ Text.ofString (address col row) := by
  obtain ⟨letters, digits, hvalue, hgroups, -⟩ := coordinate_eq_some (coordinate_address h)
  rw [hvalue, Text.ofChars, List.mem_map]
  rintro ⟨c, hc, heq⟩
  obtain rfl := CodePoint.scalar.inj heq
  rcases List.mem_append.1 hc with hc | hc
  · exact absurd (hgroups.upper _ hc) (by decide)
  · exact absurd (hgroups.digit _ hc) (by decide)

theorem bounds_text {a : Area} (h : a.Placed) : bounds (Text.ofString a.text) = some a := by
  have hfirst := coordinate_address h.first
  have hlast := coordinate_address h.last
  have hsplit := List.splitOn_eq_singleton (colon_not_mem_address h.first)
  have hsplit' := List.splitOn_eq_singleton (colon_not_mem_address h.last)
  have hcols := h.cols
  have hrows := h.rows
  unfold Area.text
  dsimp only
  split
  · next heq =>
    obtain ⟨hcol, hrow⟩ := address_injective h.first h.last heq
    have hcount : (Text.ofString (address a.startCol a.startRow)).count colon = 0 :=
      List.count_eq_zero.2 (colon_not_mem_address h.first)
    rw [bounds, hcount, if_neg (by decide), hsplit]
    simp only [List.headD_cons, List.getLastD_cons, List.getLastD_nil, hfirst, Option.bind_eq_bind,
      Option.bind_some]
    rw [if_neg (by simp)]
    congr
  · next hne =>
    have hvalue : Text.ofString (address a.startCol a.startRow ++ ":" ++ address a.endCol a.endRow) =
        Text.ofString (address a.startCol a.startRow) ++ colon ::
          Text.ofString (address a.endCol a.endRow) := by
      simp [Text.ofString, Text.ofChars, colon]
    have hdiffer : (a.startCol, a.startRow) ≠ (a.endCol, a.endRow) := by
      intro heq
      obtain ⟨hcol, hrow⟩ := Prod.mk.inj heq
      exact hne (by rw [hcol, hrow])
    have hcount : (Text.ofString (address a.startCol a.startRow) ++ colon ::
        Text.ofString (address a.endCol a.endRow)).count colon = 1 := by
      rw [List.count_append, List.count_cons_self, List.count_eq_zero.2 (colon_not_mem_address h.first),
        List.count_eq_zero.2 (colon_not_mem_address h.last)]
    rw [hvalue, bounds, hcount, if_neg (by decide), List.splitOn_append_cons_self, hsplit, hsplit']
    simp only [List.singleton_append, List.headD_cons, List.getLastD_cons, List.getLastD_nil, hfirst, hlast,
      Option.bind_eq_bind, Option.bind_some]
    rw [if_neg]
    simp only [not_or, not_lt, not_and]
    exact ⟨hcols, hrows, fun _ => hdiffer⟩

theorem usedRange_eq {corner : Nat × Nat} (h : OnSheet corner.1 corner.2) :
    usedRange corner = Area.text ⟨1, 1, corner.1, corner.2⟩ := by
  have hfirst : OnSheet 1 1 := by unfold OnSheet; omega
  have htext : address 1 1 = "A1" := by decide
  unfold usedRange Area.text
  dsimp only
  by_cases hcorner : corner = (1, 1)
  · rw [if_neg (not_not.2 hcorner), hcorner, if_pos rfl, htext]
  · rw [if_pos hcorner, if_neg, htext]
    · rfl
    · intro heq
      obtain ⟨hcol, hrow⟩ := address_injective hfirst h heq
      exact hcorner (Prod.ext hcol.symm hrow.symm)

/-- What holds of every sheet that is read. -/
structure Assembled (s : Sheet) : Prop where
  addresses : (s.cells.map (·.address)).Nodup
  merged : ∀ value ∈ s.mergedRanges, ∃ area, bounds (Text.ofString value) = some area
  used : ∃ col row, bounds (Text.ofString s.usedRange) = some ⟨1, 1, col, row⟩ ∧
    ∀ c ∈ s.cells, ∃ place, coordinate (Text.ofString c.address) = some place ∧ place.1 ≤ col ∧ place.2 ≤ row

theorem Layout.add_merged {l l' : Layout} {record : Record} (h : l.add record = .ok l')
    (hl : ∀ value ∈ l.merged, ∃ area, bounds (Text.ofString value) = some area) :
    ∀ value ∈ l'.merged, ∃ area, bounds (Text.ofString value) = some area := by
  cases record with
  | dimension attrs =>
    obtain ⟨area, -, h⟩ := Call.bind_eq_ok.1 h
    rwa [← Except.ok.inj h]
  | col attrs =>
    obtain ⟨a, -, h⟩ := Call.bind_eq_ok.1 h
    obtain ⟨b, -, h⟩ := Call.bind_eq_ok.1 h
    obtain ⟨isHidden, -, h⟩ := Call.bind_eq_ok.1 h
    rw [← Except.ok.inj h]
    split <;> exact hl
  | row attrs =>
    obtain ⟨row, -, h⟩ := Call.bind_eq_ok.1 h
    split at h
    · cases h
    · obtain ⟨isHidden, -, h⟩ := Call.bind_eq_ok.1 h
      rwa [← Except.ok.inj h]
  | mergeCell attrs =>
    obtain ⟨value, -, h⟩ := Call.bind_eq_ok.1 h
    obtain ⟨area, harea, h⟩ := Call.bind_eq_ok.1 h
    split at h
    · cases h
    · rw [← Except.ok.inj h]
      intro other hother
      rcases List.mem_append.1 hother with hother | hother
      · exact hl other hother
      · exact ⟨area, List.mem_singleton.1 hother ▸ boundsOf_eq_ok.1 harea⟩
  | c record =>
    rwa [← Except.ok.inj h]
  | other =>
    rwa [← Except.ok.inj h]

theorem OnSheet.max {col row col' row' : Nat} (h : OnSheet col row) (h' : OnSheet col' row') :
    OnSheet (Max.max col col') (Max.max row row') := by
  unfold OnSheet at h h' ⊢
  omega

/-- The cells so far have different addresses, and the corner covers them. -/
structure Stored.Ok (s : Stored) : Prop where
  addresses : (s.cells.map (·.address)).Nodup
  corner : OnSheet s.maxCol s.maxRow
  covered : ∀ c ∈ s.cells, ∃ place, coordinate (Text.ofString c.address) = some place ∧
    place.1 ≤ s.maxCol ∧ place.2 ≤ s.maxRow

variable {facts}

theorem Stored.add_ok {columns : List (Nat × Nat)} {s s' : Stored} {record : Record}
    (h : s.add facts columns record = .ok s') (hs : s.Ok) : s'.Ok := by
  cases record with
  | c record =>
    obtain ⟨new, -, h⟩ := Call.bind_eq_ok.1 h
    split at h
    · cases h
    next hfresh =>
    obtain ⟨place, hplace, h⟩ := Call.bind_eq_ok.1 h
    have hplace := orReject_eq_ok.1 hplace
    split at h
    · cases h
    rw [← Except.ok.inj h]
    refine ⟨?_, hs.corner.max (address_of_coordinate hplace).2, fun c hc => ?_⟩
    · rw [List.map_append, List.map_singleton, List.nodup_append]
      exact ⟨hs.addresses, List.nodup_singleton _, fun a ha b hb heq =>
        hfresh (List.mem_singleton.1 hb ▸ heq ▸ ha)⟩
    · rcases List.mem_append.1 hc with hc | hc
      · obtain ⟨place', hplace', hcol', hrow'⟩ := hs.covered c hc
        exact ⟨place', hplace', le_max_of_le_left hcol', le_max_of_le_left hrow'⟩
      · rw [List.mem_singleton.1 hc]
        exact ⟨place, hplace, le_max_right _ _, le_max_right _ _⟩
  | _ =>
    rwa [← Except.ok.inj h]

theorem widen_ok {corner corner' : Nat × Nat} {value : String} (h : widen corner value = .ok corner')
    (hcorner : OnSheet corner.1 corner.2) :
    OnSheet corner'.1 corner'.2 ∧ corner.1 ≤ corner'.1 ∧ corner.2 ≤ corner'.2 := by
  obtain ⟨area, harea, h⟩ := Call.bind_eq_ok.1 h
  rw [← Except.ok.inj h]
  exact ⟨hcorner.max (of_bounds (boundsOf_eq_ok.1 harea)).1.last, le_max_left _ _, le_max_left _ _⟩

theorem readSheet_assembled {name visibility : String} {nonempty : Nat} {rows : List Record}
    {out : Sheet × Nat} (h : readSheet facts name visibility nonempty rows = .ok out) :
    Assembled out.1 ∧ out.1.sheetName = name := by
  unfold readSheet at h
  obtain ⟨layout, hlayout, h⟩ := Call.bind_eq_ok.1 h
  obtain ⟨stored, hstored, h⟩ := Call.bind_eq_ok.1 h
  obtain ⟨corner, hcorner, h⟩ := Call.bind_eq_ok.1 h
  have hmerged := foldlM_keeps (P := fun _ l => ∀ value ∈ l.merged, ∃ area,
    bounds (Text.ofString value) = some area) (fun _ _ _ _ hl hadd => Layout.add_merged hadd hl) (by simp) hlayout
  have hok := foldlM_keeps (P := fun _ s => s.Ok) (fun _ _ _ _ hs hadd => Stored.add_ok hadd hs)
    ⟨List.nodup_nil, by simp [OnSheet], by simp⟩ hstored
  have hwide := foldlM_keeps (P := fun _ (c : Nat × Nat) => OnSheet c.1 c.2 ∧ stored.maxCol ≤ c.1 ∧
      stored.maxRow ≤ c.2)
    (fun _ _ _ _ hc hadd =>
      have hstep := widen_ok hadd hc.1
      ⟨hstep.1, hc.2.1.trans hstep.2.1, hc.2.2.trans hstep.2.2⟩)
    ⟨hok.corner, le_rfl, le_rfl⟩ hcorner
  obtain ⟨hplaced, hcol, hrow⟩ := hwide
  rw [← Except.ok.inj h]
  refine ⟨⟨hok.addresses, hmerged, corner.1, corner.2, ?_, fun c hc => ?_⟩, rfl⟩
  · have hfirst : OnSheet 1 1 := by unfold OnSheet; omega
    rw [usedRange_eq hplaced]
    exact bounds_text ⟨hfirst, hplaced, hplaced.1.1, hplaced.2.1⟩
  · obtain ⟨place, hplace, hcol', hrow'⟩ := hok.covered c hc
    exact ⟨place, hplace, hcol'.trans hcol, hrow'.trans hrow⟩

theorem readXlsx_assembled {p : Package} {wb : XlsxWorkbook} (h : readXlsx facts p = .ok wb) :
    (wb.sheets.map (·.sheetName)).Nodup ∧ ∀ s ∈ wb.sheets, Assembled s := by
  unfold readXlsx at h
  split at h
  · cases h
  obtain ⟨a, ha, h⟩ := Call.bind_eq_ok.1 h
  have hall := foldlM_keeps
    (P := fun _ (a : Assembling) => (a.sheets.map (·.sheetName)).Nodup ∧ ∀ s ∈ a.sheets, Assembled s)
    (fun _ record a a' hkept hadd => by
      obtain ⟨name, -, hadd⟩ := Call.bind_eq_ok.1 hadd
      dsimp only at hadd
      split at hadd
      · cases hadd
      next hvalid =>
      obtain ⟨⟨sheet, count⟩, hsheet, hadd⟩ := Call.bind_eq_ok.1 hadd
      obtain ⟨hassembled, hname⟩ := readSheet_assembled hsheet
      rw [← Except.ok.inj hadd]
      constructor
      · rw [List.map_append, List.map_singleton, List.nodup_append]
        refine ⟨hkept.1, List.nodup_singleton _, fun n hn m hm heq => hvalid (.inr (.inl ?_))⟩
        rw [← hname, ← List.mem_singleton.1 hm, ← heq]
        exact hn
      · intro s hs
        rcases List.mem_append.1 hs with hs | hs
        · exact hkept.2 s hs
        · exact List.mem_singleton.1 hs ▸ hassembled)
    (by simp) ha
  dsimp only at h
  split at h
  · cases h
  · rw [← Except.ok.inj h]
    exact hall

/-! ## What a view shows -/

/-- A view of a selected range: each address of the range with its border once, and the cells of the sheet
there as they are. -/
structure Shows (s : Sheet) (selected : Area) (v : SheetCellView) : Prop where
  range : bounds (Text.ofString v.viewRange) = some selected.view
  border : ∀ col row, OnSheet col row → (selected.view.Contains col row ↔
    (selected.startCol ≤ col + 1 ∧ col ≤ selected.endCol + 1) ∧
      selected.startRow ≤ row + 1 ∧ row ≤ selected.endRow + 1)
  once : (v.cells.map (·.address)).Nodup
  addresses : ∀ text, text ∈ v.cells.map (·.address) ↔
    ∃ col row, selected.view.Contains col row ∧ text = address col row
  stored : ∀ c ∈ s.cells, ∀ col row, coordinate (Text.ofString c.address) = some (col, row) →
    selected.view.Contains col row → c ∈ v.cells

theorem Area.Placed.view {a : Area} (h : a.Placed) : a.view.Placed := by
  obtain ⟨⟨hcol, hcolle⟩, hrow, hrowle⟩ := h.first
  obtain ⟨⟨hcol', hcolle'⟩, hrow', hrowle'⟩ := h.last
  have hcols := h.cols
  have hrows := h.rows
  unfold Area.view
  refine ⟨?_, ?_, ?_, ?_⟩
  · unfold OnSheet
    dsimp only
    omega
  · unfold OnSheet
    dsimp only
    omega
  · dsimp only
    omega
  · dsimp only
    omega

theorem Area.Placed.onSheet {a : Area} (h : a.Placed) {col row : Nat} (hin : a.Contains col row) :
    OnSheet col row := by
  obtain ⟨⟨hcol, -⟩, hrow, -⟩ := h.first
  obtain ⟨⟨-, hcolle⟩, -, hrowle⟩ := h.last
  obtain ⟨⟨hfirst, hlast⟩, hfirst', hlast'⟩ := hin
  exact ⟨⟨hcol.trans hfirst, hlast.trans hcolle⟩, hrow.trans hfirst', hlast'.trans hrowle⟩

theorem contains_view {a : Area} {col row : Nat} (h : OnSheet col row) : a.view.Contains col row ↔
    (a.startCol ≤ col + 1 ∧ col ≤ a.endCol + 1) ∧ a.startRow ≤ row + 1 ∧ row ≤ a.endRow + 1 := by
  obtain ⟨⟨hcol, hcolle⟩, hrow, hrowle⟩ := h
  unfold Area.Contains Area.view
  dsimp only
  omega

section Displayed

variable {s : Sheet} {view : Area}

def Area.places (a : Area) : List (Nat × Nat) :=
  (List.range' a.startRow (a.endRow + 1 - a.startRow)).product
    (List.range' a.startCol (a.endCol + 1 - a.startCol))

def cellAt (s : Sheet) (col row : Nat) : Cell :=
  ((Dict.ofList (s.cells.map fun c => (c.address, c))).get? (address col row)).getD (blank s col row)

theorem displayed_eq : displayed s view = view.places.map fun place => cellAt s place.2 place.1 := by
  simp only [displayed, Area.places, List.product, List.map_flatMap, List.map_map]
  rfl

theorem mem_places {row col : Nat} : (row, col) ∈ view.places ↔ view.Contains col row := by
  rw [Area.places, List.pair_mem_product, List.mem_range'_1, List.mem_range'_1]
  unfold Area.Contains
  omega

theorem nodup_places : view.places.Nodup := List.Nodup.product List.nodup_range' List.nodup_range'

theorem address_cellAt {col row : Nat} : (cellAt s col row).address = address col row := by
  unfold cellAt
  cases hget : (Dict.ofList (s.cells.map fun c => (c.address, c))).get? (address col row) with
  | none => rfl
  | some c =>
    obtain ⟨c', -, heq⟩ := List.mem_map.1 (Dict.get?_ofList hget)
    obtain ⟨haddress, rfl⟩ := Prod.mk.inj heq
    exact haddress

theorem cellAt_stored (h : (s.cells.map (·.address)).Nodup) {c : Cell} (hc : c ∈ s.cells) {col row : Nat}
    (hplace : coordinate (Text.ofString c.address) = some (col, row)) : cellAt s col row = c := by
  have hkeys : ((s.cells.map fun c => (c.address, c)).map Prod.fst).Nodup := by
    rwa [List.map_map]
  have haddress : address col row = c.address := by
    have htext := congrArg Text.toChars (address_of_coordinate hplace).1
    rw [Text.ofString, Text.ofString, Text.toChars_ofChars, Text.toChars_ofChars] at htext
    exact String.toList_inj.1 htext
  have hget : (Dict.ofList (s.cells.map fun c => (c.address, c))).get? c.address = some c := by
    rw [Dict.ofList_entries ⟨_, hkeys⟩, ← Dict.mem_entries_iff]
    exact List.mem_map_of_mem hc
  rw [cellAt, haddress, hget, Option.getD_some]

theorem addresses_displayed : (displayed s view).map (·.address) =
    view.places.map fun place => address place.2 place.1 := by
  rw [displayed_eq, List.map_map]
  exact List.map_congr_left fun place _ => address_cellAt

end Displayed

theorem shows_displayed {s : Sheet} {selected : Area} (hs : Assembled s) (hselected : selected.Placed)
    {v : SheetCellView} (hrange : v.viewRange = selected.view.text)
    (hcells : v.cells = displayed s selected.view) : Shows s selected v := by
  refine ⟨hrange ▸ bounds_text hselected.view, fun col row => contains_view, ?_, fun text => ?_,
    fun c hc col row hplace hin => ?_⟩
  · rw [hcells, addresses_displayed]
    refine nodup_places.map_on fun p hp q hq heq => ?_
    obtain ⟨hcol, hrow⟩ := address_injective (hselected.view.onSheet (mem_places.1 hp))
      (hselected.view.onSheet (mem_places.1 hq)) heq
    exact Prod.ext hrow hcol
  · rw [hcells, addresses_displayed, List.mem_map]
    constructor
    · rintro ⟨⟨row, col⟩, hp, rfl⟩
      exact ⟨col, row, mem_places.1 hp, rfl⟩
    · rintro ⟨col, row, hin, rfl⟩
      exact ⟨(row, col), mem_places.2 hin, rfl⟩
  · rw [hcells, displayed_eq, List.mem_map]
    exact ⟨(row, col), mem_places.2 hin, cellAt_stored hs.addresses hc hplace⟩

theorem addMerged_runs (view : Area) {merged : List String}
    (h : ∀ value ∈ merged, ∃ area, bounds (Text.ofString value) = some area) :
    ∃ kept, merged.foldlM (addMerged view) [] = .ok kept := by
  have hstep : ∀ done value rest s, merged = done ++ value :: rest → True →
      ∃ s', addMerged view s value = .ok s' ∧ True := by
    intro done value rest s heq _
    obtain ⟨area, harea⟩ := h value (heq ▸ List.mem_append_right done List.mem_cons_self)
    exact ⟨_, Call.bind_eq_ok.2 ⟨area, boundsOf_eq_ok.2 harea, rfl⟩, trivial⟩
  obtain ⟨kept, hkept, -⟩ := foldlM_runs (P := fun _ _ => True) hstep trivial
  exact ⟨kept, hkept⟩

structure Selects (facts : CellRecord → Except String CellFacts) (p : Package) (wb : XlsxWorkbook)
    (x : SheetCell) (value : Text) (s : Sheet) (selected : Area) : Prop where
  read : readXlsx facts p = .ok wb
  encoded : encodeSheetCell x = some value
  sheet : s ∈ wb.sheets
  named : Text.ofString s.sheetName = x.sheet
  range : bounds x.range = some selected
  inside : ∃ used, bounds (Text.ofString s.usedRange) = some used ∧ selected.endCol ≤ used.endCol ∧
    selected.endRow ≤ used.endRow

namespace Selects

variable {p : Package} {wb : XlsxWorkbook} {x : SheetCell} {value : Text} {s : Sheet} {selected : Area}

theorem found (h : Selects facts p wb x value s selected) :
    wb.sheets.find? (fun s => Text.ofString s.sheetName = x.sheet) = some s := by
  refine find?_eq_some_of_unique h.sheet (decide_eq_true h.named) fun s' hs' hname => ?_
  have htext := congrArg Text.toChars ((of_decide_eq_true hname).trans h.named.symm)
  rw [Text.ofString, Text.ofString, Text.toChars_ofChars, Text.toChars_ofChars] at htext
  exact List.inj_on_of_nodup_map (readXlsx_assembled h.read).1 hs' h.sheet (String.toList_inj.1 htext)

theorem selectedBounds (h : Selects facts p wb x value s selected) :
    selectedBounds x.range = some selected := by
  have hencoded := h.encoded
  unfold encodeSheetCell at hencoded
  split at hencoded
  · next hvalid =>
    obtain ⟨area, harea⟩ := Option.isSome_iff_exists.1 hvalid.2
    have hbounds := harea
    unfold Sources.selectedBounds at harea
    obtain ⟨area', harea', hle⟩ := Option.bind_eq_some_iff.1 harea
    obtain rfl := Option.some.inj (harea'.symm.trans h.range)
    split at hle
    · cases hle
    · rwa [← Option.some.inj hle] at hbounds
  · cases hencoded

theorem view_eq_ok (h : Selects facts p wb x value s selected) : ∃ kept, ∀ v,
    readSheetCellView wb value = .ok v ↔ selected.view.size ≤ 324 ∧
      v = ⟨wb.sourceSha256, s.sheetName, s.visibility, x.range, selected.view.text,
        displayed s selected.view, kept⟩ := by
  have hdecode := (decodeSheetCell_iff x value).2 ⟨h.encoded, h.named ▸ Text.scalar_ofChars⟩
  have hassembled := (readXlsx_assembled h.read).2 s h.sheet
  obtain ⟨kept, hkept⟩ := addMerged_runs selected.view hassembled.merged
  obtain ⟨used, hused, hinside⟩ := h.inside
  refine ⟨kept, fun v => ⟨fun hv => ?_, ?_⟩⟩
  · obtain ⟨x', hx', hv⟩ := Call.bind_eq_ok.1 hv
    obtain rfl := Option.some.inj ((orReject_eq_ok.1 hx').symm.trans hdecode)
    obtain ⟨s', hs', hv⟩ := Call.bind_eq_ok.1 hv
    obtain rfl := Option.some.inj ((orReject_eq_ok.1 hs').symm.trans h.found)
    obtain ⟨selected', hselected', hv⟩ := Call.bind_eq_ok.1 hv
    obtain rfl := Option.some.inj ((orReject_eq_ok.1 hselected').symm.trans h.selectedBounds)
    obtain ⟨used', -, hv⟩ := Call.bind_eq_ok.1 hv
    split at hv
    · cases hv
    split at hv
    · cases hv
    next hsmall =>
    obtain ⟨kept', hkept', hv⟩ := Call.bind_eq_ok.1 hv
    obtain rfl := Except.ok.inj (hkept'.symm.trans hkept)
    exact ⟨not_lt.1 hsmall, (Except.ok.inj hv).symm⟩
  · rintro ⟨hle, rfl⟩
    refine Call.bind_eq_ok.2 ⟨x, orReject_eq_ok.2 hdecode, Call.bind_eq_ok.2 ⟨s, orReject_eq_ok.2 h.found,
      Call.bind_eq_ok.2 ⟨selected, orReject_eq_ok.2 h.selectedBounds, Call.bind_eq_ok.2 ⟨used,
        boundsOf_eq_ok.2 hused, ?_⟩⟩⟩⟩
    rw [if_neg (by omega), if_neg (by omega)]
    exact Call.bind_eq_ok.2 ⟨kept, hkept, rfl⟩

end Selects

/-- A range of a sheet, inside its used range, has a view exactly where the range with its border has at most
324 cells. -/
theorem read_sheet_cell_view_spec {p : Package} {wb : XlsxWorkbook} {x : SheetCell} {value : Text}
    {s : Sheet} {selected : Area} (h : Selects facts p wb x value s selected) :
    (selected.view.size ≤ 324 ↔ ∃ v, readSheetCellView wb value = .ok v) ∧
    ∀ v, readSheetCellView wb value = .ok v → Shows s selected v := by
  obtain ⟨kept, hrun⟩ := h.view_eq_ok
  constructor
  · exact ⟨fun hle => ⟨_, (hrun _).2 ⟨hle, rfl⟩⟩, fun ⟨v, hv⟩ => ((hrun v).1 hv).1⟩
  · intro v hv
    obtain ⟨-, rfl⟩ := (hrun v).1 hv
    exact shows_displayed ((readXlsx_assembled h.read).2 s h.sheet) (of_bounds h.range).1 rfl rfl

namespace Sample

def number (record : CellRecord) : Except String CellFacts :=
  .ok ⟨"number", record.value, record.value, none, none, some "General"⟩

/-- A sheet with a number in `A256`. -/
def tall : Package where
  sha256 := ""
  date1904 := false
  sheets := [⟨[("name", "S")], "xl/worksheets/sheet1.xml",
    [.row [("r", "256")], .c ⟨[("r", "A256")], some [("r", "256")], some "1", none, false, none⟩]⟩]

def cells (range : String) : SheetCell := ⟨Text.ofString "S", Text.ofString range⟩

theorem selects_tall (range : String) (selected : Area)
    (hencode : encodeSheetCell (cells range) = some (Text.dump (cells range).items))
    (hrange : bounds (Text.ofString range) = some selected)
    (hinside : selected.endCol ≤ 1 ∧ selected.endRow ≤ 256) :
    ∃ wb s, Selects number tall wb (cells range) (Text.dump (cells range).items) s selected := by
  have hread : (readXlsx number tall).toOption.map (fun wb => wb.sheets.map fun s =>
      (s.sheetName, s.usedRange)) = some [("S", "A1:A256")] := by decide +kernel
  cases hwb : readXlsx number tall with
  | error e =>
    rw [hwb] at hread
    cases hread
  | ok wb =>
    rw [hwb] at hread
    have hsheets : wb.sheets.map (fun s => (s.sheetName, s.usedRange)) = [("S", "A1:A256")] :=
      Option.some.inj hread
    obtain ⟨s, hs, heq⟩ := List.mem_map.1 (hsheets ▸ List.mem_singleton_self ("S", "A1:A256"))
    obtain ⟨hname, hused⟩ := Prod.mk.inj heq
    refine ⟨wb, s, hwb, hencode, hs, congrArg Text.ofString hname, hrange, ⟨1, 1, 1, 256⟩, ?_, hinside⟩
    rw [hused]
    decide

end Sample

theorem read_sheet_cell_view_spec_tall : ∃ wb v,
    readXlsx Sample.number Sample.tall = .ok wb ∧
    readSheetCellView wb (Text.dump (Sample.cells "A1").items) = .ok v := by
  obtain ⟨wb, s, h⟩ := Sample.selects_tall "A1" ⟨1, 1, 1, 1⟩
    (if_pos ⟨by decide, by decide⟩) (by decide) (by decide)
  obtain ⟨v, hv⟩ := (read_sheet_cell_view_spec h).1.1 (by decide)
  exact ⟨wb, v, h.read, hv⟩

/-- `A1:A256` is a locator, and its border makes 514 cells of 256. -/
theorem tall_selection_refused :
    ¬∀ (facts : CellRecord → Except String CellFacts) (p : Package) (wb : XlsxWorkbook) (x : SheetCell)
      (value : Text) (s : Sheet) (selected : Area), Selects facts p wb x value s selected →
        ∃ v, readSheetCellView wb value = .ok v := by
  intro hall
  obtain ⟨wb, s, h⟩ := Sample.selects_tall "A1:A256" ⟨1, 1, 1, 256⟩
    (if_pos ⟨by decide, by decide⟩) (by decide) (by decide)
  obtain ⟨kept, hrun⟩ := h.view_eq_ok
  obtain ⟨v, hv⟩ := hall _ _ _ _ _ _ _ h
  exact absurd ((hrun v).1 hv).1 (by decide)

end DaonUser.Sources
