import DaonUser.Base
import DaonUser.Lib.Csv
import DaonUser.Lib.Json
import DaonUser.Lib.Utf8

/-!
# Outputs exported as CSV

`export_studio_output` writes the rows of an output with `csv.writer` and `lineterminator="\n"`, after every
cell that a spreadsheet could take for a formula got an apostrophe. The writer quotes no cell for a CR,
which readers take for the end of a record, so the file is read back exactly if every such cell is quoted
for another reason (`export_csv_spec`).
-/

namespace DaonUser.Studio.Export

open Lib Lib.Csv

/-! ## Rows -/

/-- What Python says of the values of a content: which numbers are false, `str` and `json.dumps`. -/
structure Values (ν : Type) where
  zero : ν → Bool
  str : Json ν → String
  dumps : Json ν → String

variable {ν : Type} (v : Values ν)

/-- `str(value)`. -/
def Values.text : Json ν → String
  | .str s => s
  | value => v.str value

def Values.cell : Json ν → String
  | .arr items => v.dumps (.arr items)
  | .obj members => v.dumps (.obj members)
  | value => v.text value

def Values.truthy : Json ν → Bool
  | .null => false
  | .bool b => b
  | .num n => !v.zero n
  | .str s => s ≠ ""
  | .arr items => !items.isEmpty
  | .obj members => !members.isEmpty

/-- `item.get`, which only mappings have. -/
def get? (item : Json ν) (key : String) : Option (Option (Json ν)) :=
  match item with
  | .obj members => some (members.lookup key)
  | _ => none

def recordRows (records : List (Json ν)) : Option (List (List String)) := do
  let headers := (records.flatMap fun
    | .obj members => members.map Prod.fst
    | _ => []).eraseDups
  let rows ← records.mapM fun item => headers.mapM fun key => do
    return ((← get? item key).map v.cell).getD ""
  return headers :: rows

/-- `str(item.get(key, ""))`. -/
def Values.textOf (item : Json ν) (key : String) : Option String := do
  return ((← get? item key).map v.text).getD ""

def nodeRow (item : Json ν) : Option (List String) := do
  return ["Node", ← v.textOf item "id", "", "", ← v.textOf item "label", "", ← v.textOf item "evidence"]

def edgeRow (item : Json ν) : Option (List String) := do
  return ["Edge", ← v.textOf item "id", ← v.textOf item "source", ← v.textOf item "target", "",
    ← v.textOf item "condition", ""]

/-- The edges that are iterated over; the members of other values are no mappings. -/
def edgesOf (members : List (String × Json ν)) : Option (List (Json ν)) :=
  match members.lookup "edges" with
  | none | some (.obj []) => some []
  | some (.arr edges) => some edges
  | some (.str s) => if s = "" then some [] else none
  | _ => none

/-- `_structured_rows`, unless it raises. -/
def structuredRows : Json ν → Option (List (List String))
  | .obj members =>
    let keys := ["items", "rows", "sections", "slides", "metrics", "cards", "questions"]
    match keys.findSome? fun key => (members.lookup key).filter v.truthy with
    | some (.arr records) => recordRows v records
    | _ => match members.lookup "nodes" with
      | some (.arr nodes) => do
        let nodes ← nodes.mapM (nodeRow v)
        let edges ← (← edgesOf members).mapM (edgeRow v)
        return ["구분", "id", "source", "target", "label", "condition", "evidence"] :: nodes ++ edges
      | _ => some (members.map fun (key, value) => [key, v.cell value])
  | value => some [["내용", v.text value]]

def exportedRows (title : String) (content : Json ν) (metadata : List (String × String)) :
    Option (List (List Cell)) := do
  let rows := ["제목", title] :: (← structuredRows v content) ++
    [] :: ["근거 부록"] :: metadata.map fun (key, value) => [key, value]
  return rows.map fun row => row.map String.toList

/-! ## Cells -/

def formulaStarts : List Char := ['=', '+', '-', '@']

def startsFormula (text : Cell) : Bool := (text.dropWhile isSpace).head?.any (· ∈ formulaStarts)

/-- `_literal_csv_cell`. -/
def literalCsvCell (text : Cell) : Cell :=
  if text.head?.any (· ∈ ['\t', '\r', '\n']) ∨ startsFormula text then '\'' :: text else text

/-- The cell is the value, or has one apostrophe in front. -/
def Neutral (value cell : Cell) : Prop := cell = value ∨ cell = '\'' :: value

theorem literalCsvCell_cases (text : Cell) :
    literalCsvCell text = '\'' :: text ∨ literalCsvCell text = text ∧ startsFormula text = false := by
  unfold literalCsvCell
  split
  · exact .inl rfl
  · next h => exact .inr ⟨rfl, Bool.eq_false_iff.mpr fun hf => h (.inr hf)⟩

theorem neutral_literalCsvCell (text : Cell) : Neutral text (literalCsvCell text) :=
  (literalCsvCell_cases text).symm.imp_left And.left

theorem startsFormula_literalCsvCell (text : Cell) : startsFormula (literalCsvCell text) = false := by
  rcases literalCsvCell_cases text with h | ⟨h, hf⟩
  · rw [h]
    rfl
  · rw [h, hf]

theorem kept_literalCsvCell (text : Cell) : Kept (literalCsvCell text) ↔ Kept text := by
  rcases literalCsvCell_cases text with h | ⟨h, -⟩
  · rw [h]
    simp [Kept, quoted, special]
  · rw [h]

theorem not_neutral_of_cut (text p q : Cell) (h : literalCsvCell text = p ++ '\r' :: q) : ¬ Neutral text p := by
  have hlength := congrArg List.length h
  have hcount := congrArg (List.count '\r') h
  rcases literalCsvCell_cases text with hlit | ⟨hlit, -⟩
  · rw [hlit] at hlength hcount
    rintro (rfl | rfl) <;> simp at hlength hcount
  · rw [hlit] at hlength
    rintro (rfl | rfl) <;> simp at hlength
    omega

/-! ## The file -/

inductive StudioExportError where
  | unsupported
  | tooLarge
  /-- Another exception than `StudioExportError`. -/
  | raised
  deriving DecidableEq

/-- `MAX_EXPORT_BYTES`. -/
def maxExportBytes : Nat := 8 * 1024 * 1024

/-- The types whose `OUTPUT_FORMATS` have "csv". -/
def csvTypes : List String := ["compliance_checklist", "comparison_table", "flashcards", "quiz"]

/-- The text of the writer, encoded with `utf-8-sig`. -/
def csvBytes (lone : Bool) (rows : List (List Cell)) : List UInt8 :=
  utf8 ('\uFEFF' :: writeRows lone (rows.map fun row => row.map literalCsvCell))

def Values.encoded : Json ν → String
  | .str s => s
  | value => v.dumps value

/-- `export_studio_output("csv", …)`; `lone` says whether the writer quotes a cell that is empty and alone. -/
def exportCsv (lone : Bool) (title : String) (content : Json ν) (metadata : List (String × String))
    (outputType : Option String) : Except StudioExportError (List UInt8) :=
  if outputType.any (· ∉ csvTypes) then .error .unsupported
  else if maxExportBytes < (utf8 (v.encoded content).toList).length then .error .tooLarge
  else match exportedRows v title content metadata with
    | none => .error .raised
    | some rows =>
      if maxExportBytes < (csvBytes lone rows).length then .error .tooLarge
      else if (metadata.lookup "output_version_id").isNone then .error .raised
      else .ok (csvBytes lone rows)

def readFile (data : List UInt8) : Option (List (List Cell)) :=
  (readUtf8 data.length data).map fun text => records (if text.head? = some '\uFEFF' then text.tail else text)

/-- The file has one record a row, with its cells in order, each of them neutral. -/
def ReadsBack (rows : List (List Cell)) (data : List UInt8) : Prop :=
  ∃ file, readFile data = some file ∧ List.Forall₂ (List.Forall₂ Neutral) rows file ∧
    ∀ record ∈ file, ∀ cell ∈ record, startsFormula cell = false

theorem readFile_csvBytes (lone : Bool) (rows : List (List Cell)) :
    readFile (csvBytes lone rows) = some (records (writeRows lone (rows.map fun row => row.map literalCsvCell))) := by
  rw [readFile, csvBytes, readUtf8_utf8 (length_le_utf8 _)]
  rfl

theorem whole_literal (lone : Bool) (row : List Cell) : Whole lone (row.map literalCsvCell) ↔ Whole lone row := by
  have hempty : row.map literalCsvCell = [[]] ↔ row = [[]] := by
    constructor
    · intro h
      obtain ⟨c, rfl, hc⟩ := List.map_eq_singleton_iff.mp h
      rcases literalCsvCell_cases c with hlit | ⟨hlit, -⟩
      · exact nomatch hlit.symm.trans hc
      · rw [← hlit, hc]
    · rintro rfl
      rfl
  simp only [Whole, List.forall_mem_map, kept_literalCsvCell, ne_eq, hempty]

theorem readsBack_iff (lone : Bool) (rows : List (List Cell)) :
    ReadsBack rows (csvBytes lone rows) ↔ ∀ row ∈ rows, Whole lone row := by
  have hiff := reads_back_iff literalCsvCell neutral_literalCsvCell not_neutral_of_cut lone rows
  simp only [whole_literal] at hiff
  unfold ReadsBack
  rw [readFile_csvBytes, ← hiff]
  constructor
  · rintro ⟨file, hfile, hrows, -⟩
    rw [Option.some.inj hfile]
    exact hrows
  · intro h
    refine ⟨_, rfl, h, ?_⟩
    -- a file that is read back has the cells that were written
    have hwhole : ∀ row ∈ rows.map fun row => row.map literalCsvCell, Whole lone row :=
      List.forall_mem_map.mpr fun row hrow => (whole_literal lone row).mpr (hiff.mp h row hrow)
    rw [records_writeRows hwhole]
    intro record hrecord cell hcell
    obtain ⟨row, -, rfl⟩ := List.mem_map.mp hrecord
    obtain ⟨text, -, rfl⟩ := List.mem_map.mp hcell
    exact startsFormula_literalCsvCell text

theorem rows_of_export {lone : Bool} {title : String} {content : Json ν} {metadata : List (String × String)}
    {outputType : Option String} {data : List UInt8}
    (h : exportCsv v lone title content metadata outputType = .ok data) :
    ∃ rows, exportedRows v title content metadata = some rows ∧ csvBytes lone rows = data := by
  unfold exportCsv at h
  split at h
  · cases h
  split at h
  · cases h
  split at h
  · cases h
  next rows hrows =>
    split at h
    · cases h
    split at h
    · cases h
    exact ⟨rows, hrows, Except.ok.inj h⟩

section Sample

def sampleValues : Values Nat := ⟨(· = 0), fun _ => "", fun _ => "{}"⟩

def sampleContent : Json Nat := .obj [("본문", .str "=1, 2\r")]

def sampleMetadata : List (String × String) := [("output_version_id", "version-1")]

def sampleRows (title : String) : List (List Cell) :=
  [["제목", title], ["본문", "=1, 2\r"], [], ["근거 부록"], ["output_version_id", "version-1"]].map
    fun row => row.map String.toList

end Sample

end DaonUser.Studio.Export
