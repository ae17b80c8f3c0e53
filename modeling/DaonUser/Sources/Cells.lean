import DaonUser.Sources.Locators

/-!
# Cells of sheets

`_coordinate` reads a spreadsheet address and `_address` writes one: they are inverse to each other on the
addresses of a sheet (`address_of_coordinate`, `coordinate_address`). `encode_sheet_cell` takes a sheet
name that holds a lone surrogate, and no bytes can be made of what it writes, so `decode_sheet_cell`
refuses it.
-/

namespace DaonUser.Sources

open Lib

/-! ## Addresses -/

/-- The groups of `([A-Z]{1,3})([1-9][0-9]{0,6})`. -/
def cell? (cs : List Char) : Option (List Char × List Char) :=
  let letters := cs.takeWhile Char.isUpper
  let digits := cs.dropWhile Char.isUpper
  if (1 ≤ letters.length ∧ letters.length ≤ 3) ∧ digits.length ≤ 7 ∧ digits.all Char.isDigit = true ∧
      digits.head?.any (· ≠ '0') = true then some (letters, digits)
  else none

/-- The column of letters: `col * 26 + ord(letter) - 64`, from the left. -/
def column (letters : List Char) : Nat := letters.foldl (fun col letter => col * 26 + letter.toNat - 64) 0

def coordinate (value : Text) : Option (Nat × Nat) := do
  let s ← value.string?
  let (letters, digits) ← cell? s.toList
  let col := column letters
  let row := Nat.ofDigitChars 10 digits 0
  if 16384 < col ∨ 1048576 < row then none else some (col, row)

/-- The rounds of `while col`: `divmod(col - 1, 26)` gives the last letter. -/
def lettersFrom : Nat → Nat → List Char
  | 0, _ => []
  | rounds + 1, col =>
    if col = 0 then []
    else lettersFrom rounds ((col - 1) / 26) ++ [Char.ofNat (65 + (col - 1) % 26)]

def columnLetters (col : Nat) : List Char := lettersFrom col col

def address (col row : Nat) : String := String.ofList (columnLetters col ++ Nat.toDigits 10 row)

/-! ### Columns -/

theorem column_append (letters : List Char) (letter : Char) :
    column (letters ++ [letter]) = column letters * 26 + letter.toNat - 64 := by
  rw [column, List.foldl_append]
  rfl

theorem letter_toNat {n : Nat} (h : n < 26) : (Char.ofNat (65 + n)).toNat = 65 + n := by
  have hall : ∀ m < 26, (Char.ofNat (65 + m)).toNat = 65 + m := by decide
  exact hall n h

theorem isUpper_iff {c : Char} : c.isUpper = true ↔ 65 ≤ c.toNat ∧ c.toNat ≤ 90 := by
  change decide (65 ≤ c.val ∧ c.val ≤ 90) = true ↔ _
  rw [decide_eq_true_eq, UInt32.le_iff_toNat_le, UInt32.le_iff_toNat_le]
  rfl

theorem lettersFrom_rounds {rounds rounds' col : Nat} (h : col ≤ rounds) (h' : col ≤ rounds') :
    lettersFrom rounds col = lettersFrom rounds' col := by
  induction rounds generalizing rounds' col with
  | zero =>
    obtain rfl := Nat.le_zero.1 h
    cases rounds' <;> rfl
  | succ rounds ih =>
    cases rounds' with
    | zero =>
      obtain rfl := Nat.le_zero.1 h'
      rfl
    | succ rounds' =>
      rw [lettersFrom, lettersFrom]
      split
      · rfl
      · rw [@ih rounds' _ (by omega) (by omega)]

theorem columnLetters_eq (col : Nat) : columnLetters col =
    if col = 0 then [] else columnLetters ((col - 1) / 26) ++ [Char.ofNat (65 + (col - 1) % 26)] := by
  cases col with
  | zero => rfl
  | succ col =>
    have hrest : lettersFrom col (col / 26) = columnLetters (col / 26) :=
      lettersFrom_rounds (Nat.div_le_self col 26) le_rfl
    rw [columnLetters, lettersFrom, Nat.add_sub_cancel, hrest]

theorem column_columnLetters (col : Nat) : column (columnLetters col) = col := by
  induction col using Nat.strong_induction_on with
  | _ col ih =>
    rw [columnLetters_eq]
    split
    · next h => exact h.symm
    · have hrest := ih ((col - 1) / 26) (by omega)
      rw [column_append, hrest, letter_toNat (Nat.mod_lt _ (by decide))]
      omega

theorem columnLetters_column {letters : List Char} (h : ∀ c ∈ letters, c.isUpper = true) :
    columnLetters (column letters) = letters := by
  induction letters using List.reverseRecOn with
  | nil => rw [column, List.foldl_nil, columnLetters_eq, if_pos rfl]
  | append_singleton letters letter ih =>
    obtain ⟨hlow, hhigh⟩ := isUpper_iff.1 (h letter (by simp))
    have hrest := ih fun c hc => h c (List.mem_append_left _ hc)
    have hchar : Char.ofNat (65 + (letter.toNat - 65)) = letter := by
      rw [Nat.add_sub_cancel' hlow, Char.ofNat_toNat]
    rw [columnLetters_eq, column_append, if_neg (by omega)]
    rw [show (column letters * 26 + letter.toNat - 64 - 1) / 26 = column letters by omega,
      show (column letters * 26 + letter.toNat - 64 - 1) % 26 = letter.toNat - 65 by omega, hrest, hchar]

theorem isUpper_columnLetters (col : Nat) : ∀ c ∈ columnLetters col, c.isUpper = true := by
  induction col using Nat.strong_induction_on with
  | _ col ih =>
    rw [columnLetters_eq]
    split
    · nofun
    · intro c hc
      rcases List.mem_append.1 hc with hc | hc
      · exact ih _ (by omega) c hc
      · have hlt := Nat.mod_lt (col - 1) (show 0 < 26 by decide)
        rw [List.mem_singleton.1 hc, isUpper_iff, letter_toNat hlt]
        omega

theorem length_columnLetters_le (col : Nat) :
    (columnLetters col).length ≤ (columnLetters ((col - 1) / 26)).length + 1 := by
  rw [columnLetters_eq]
  split
  · exact Nat.zero_le _
  · rw [List.length_append, List.length_singleton]

theorem length_columnLetters {col : Nat} (hpos : 1 ≤ col) (hle : col ≤ 16384) :
    1 ≤ (columnLetters col).length ∧ (columnLetters col).length ≤ 3 := by
  constructor
  · rw [columnLetters_eq, if_neg (by omega), List.length_append]
    exact Nat.le_add_left 1 _
  · have hfirst := length_columnLetters_le col
    have hsecond := length_columnLetters_le ((col - 1) / 26)
    have hthird := length_columnLetters_le (((col - 1) / 26 - 1) / 26)
    have hempty : columnLetters ((((col - 1) / 26 - 1) / 26 - 1) / 26) = [] := by
      rw [show (((col - 1) / 26 - 1) / 26 - 1) / 26 = 0 by omega, columnLetters_eq, if_pos rfl]
    rw [hempty, List.length_nil] at hthird
    omega

/-! ### Rows and columns -/

structure Groups (letters digits : List Char) : Prop where
  upper : ∀ c ∈ letters, c.isUpper = true
  letters_length : 1 ≤ letters.length ∧ letters.length ≤ 3
  digits_length : digits.length ≤ 7
  digit : ∀ c ∈ digits, c.isDigit = true
  head : digits.head?.any (· ≠ '0') = true

theorem cell?_eq_some {cs letters digits : List Char} (h : cell? cs = some (letters, digits)) :
    cs = letters ++ digits ∧ Groups letters digits := by
  unfold cell? at h
  dsimp only at h
  split at h
  · next hvalid =>
    obtain ⟨rfl, rfl⟩ := Prod.mk.inj (Option.some.inj h)
    obtain ⟨hletters, hdigits, hall, hhead⟩ := hvalid
    exact ⟨List.takeWhile_append_dropWhile.symm, List.all_eq_true.1 List.all_takeWhile, hletters, hdigits,
      List.all_eq_true.1 hall, hhead⟩
  · cases h

theorem Groups.cell? {letters digits : List Char} (h : Groups letters digits) :
    cell? (letters ++ digits) = some (letters, digits) := by
  have htail : digits.takeWhile Char.isUpper = [] ∧ digits.dropWhile Char.isUpper = digits := by
    cases digits with
    | nil => exact ⟨rfl, rfl⟩
    | cons c digits =>
      have hc : ¬c.isUpper = true := by
        have hdigit : c.toNat ≤ 57 := (Char.isDigit_iff_toNat.1 (h.digit c List.mem_cons_self)).2
        rw [isUpper_iff]
        omega
      exact ⟨List.takeWhile_cons_of_neg hc, List.dropWhile_cons_of_neg hc⟩
  have htake : (letters ++ digits).takeWhile Char.isUpper = letters := by
    rw [List.takeWhile_append_of_pos h.upper, htail.1, List.append_nil]
  have hdrop : (letters ++ digits).dropWhile Char.isUpper = digits := by
    rw [List.dropWhile_append_of_pos h.upper, htail.2]
  unfold Sources.cell?
  simp only [htake, hdrop]
  exact if_pos ⟨h.letters_length, h.digits_length, List.all_eq_true.2 h.digit, h.head⟩

def OnSheet (col row : Nat) : Prop := (1 ≤ col ∧ col ≤ 16384) ∧ 1 ≤ row ∧ row ≤ 1048576

theorem coordinate_eq_some {value : Text} {col row : Nat} (h : coordinate value = some (col, row)) :
    ∃ letters digits, value = Text.ofChars (letters ++ digits) ∧ Groups letters digits ∧
      column letters = col ∧ Nat.ofDigitChars 10 digits 0 = row ∧ col ≤ 16384 ∧ row ≤ 1048576 := by
  unfold coordinate at h
  obtain ⟨s, hs, h⟩ := Option.bind_eq_some_iff.1 h
  obtain ⟨⟨letters, digits⟩, hcell, h⟩ := Option.bind_eq_some_iff.1 h
  obtain ⟨hsplit, hgroups⟩ := cell?_eq_some hcell
  dsimp only at h
  split at h
  · cases h
  next hle =>
  obtain ⟨rfl, rfl⟩ := Prod.mk.inj (Option.some.inj h)
  obtain ⟨hcol, hrow⟩ := not_or.1 hle
  refine ⟨letters, digits, ?_, hgroups, rfl, rfl, not_lt.1 hcol, not_lt.1 hrow⟩
  rw [Text.string?_eq_some.1 hs, Text.ofString, hsplit]

theorem address_of_coordinate {value : Text} {col row : Nat} (h : coordinate value = some (col, row)) :
    Text.ofString (address col row) = value ∧ OnSheet col row := by
  obtain ⟨letters, digits, rfl, hgroups, rfl, rfl, hcol, hrow⟩ := coordinate_eq_some h
  obtain ⟨hpos, hdigits⟩ := toDigits_ofDigitChars hgroups.digit hgroups.head
  have hletters := columnLetters_column hgroups.upper
  refine ⟨?_, ⟨?_, hcol⟩, hpos, hrow⟩
  · rw [address, hletters, hdigits, Text.ofString, String.toList_ofList]
  · by_contra hzero
    rw [columnLetters_eq, if_pos (by omega)] at hletters
    have hlength := hgroups.letters_length.1
    rw [← hletters] at hlength
    cases hlength

theorem coordinate_address {col row : Nat} (h : OnSheet col row) :
    coordinate (Text.ofString (address col row)) = some (col, row) := by
  obtain ⟨⟨hcol, hcolle⟩, hrow, hrowle⟩ := h
  have hgroups : Groups (columnLetters col) (Nat.toDigits 10 row) :=
    ⟨isUpper_columnLetters col, length_columnLetters hcol hcolle,
      (Nat.length_toDigits_le_iff (by decide) (by decide)).2 (by omega), isDigit_toDigits,
      head?_toDigits hrow⟩
  unfold coordinate
  rw [Text.string?_ofString, address]
  simp only [Option.bind_eq_bind, Option.bind_some, String.toList_ofList, hgroups.cell?, column_columnLetters,
    Nat.ofDigitChars_ten_toDigits]
  exact if_neg (by omega)

theorem coordinate_scalar {value : Text} {col row : Nat} (h : coordinate value = some (col, row)) :
    value.Scalar ∧ value.length ≤ 10 := by
  obtain ⟨letters, digits, rfl, hgroups, -⟩ := coordinate_eq_some h
  refine ⟨Text.scalar_ofChars, ?_⟩
  have hletters := hgroups.letters_length.2
  have hdigits := hgroups.digits_length
  rw [Text.ofChars, List.length_map, List.length_append]
  omega

/-! ## Ranges -/

structure Area where
  startCol : Nat
  startRow : Nat
  endCol : Nat
  endRow : Nat
  deriving DecidableEq

def Area.size (a : Area) : Nat := (a.endCol - a.startCol + 1) * (a.endRow - a.startRow + 1)

def colon : CodePoint := .scalar ':'

def bounds (value : Text) : Option Area :=
  if 1 < value.count colon then none
  else do
    let parts := value.splitOn colon
    let first ← coordinate (parts.headD [])
    let last ← coordinate (parts.getLastD [])
    if last.1 < first.1 ∨ last.2 < first.2 ∨ (parts.length = 2 ∧ first = last) then none
    else some ⟨first.1, first.2, last.1, last.2⟩

/-- `_bounds` with `selected=True`. -/
def selectedBounds (value : Text) : Option Area :=
  (bounds value).bind fun area => if 256 < area.size then none else some area

structure Area.Placed (a : Area) : Prop where
  first : OnSheet a.startCol a.startRow
  last : OnSheet a.endCol a.endRow
  cols : a.startCol ≤ a.endCol
  rows : a.startRow ≤ a.endRow

theorem parts_of_count {value : Text} (h : ¬1 < value.count colon) :
    value.splitOn colon = [value] ∨
      ∃ first last, value.splitOn colon = [first, last] ∧ value = first ++ colon :: last := by
  by_cases hmem : colon ∈ value
  · obtain ⟨first, last, rfl, hfirst⟩ := List.eq_append_cons_of_mem hmem
    have hlast : colon ∉ last := by
      intro hlast
      have hpos := List.count_pos_iff.2 hlast
      rw [List.count_append, List.count_cons_self] at h
      omega
    exact .inr ⟨first, last, by rw [List.splitOn_append_cons_self, List.splitOn_eq_singleton hfirst,
      List.splitOn_eq_singleton hlast]; rfl, rfl⟩
  · exact .inl (List.splitOn_eq_singleton hmem)

theorem of_bounds {value : Text} {area : Area} (h : bounds value = some area) :
    area.Placed ∧ value.Scalar ∧ value.length ≤ 21 := by
  unfold bounds at h
  split at h
  · cases h
  next hcount =>
  obtain ⟨⟨col, row⟩, hfirst, h⟩ := Option.bind_eq_some_iff.1 h
  obtain ⟨⟨col', row'⟩, hlast, h⟩ := Option.bind_eq_some_iff.1 h
  split at h
  · cases h
  next horder =>
  obtain rfl := Option.some.inj h
  have hcols := not_lt.1 fun hlt => horder (.inl hlt)
  have hrows := not_lt.1 fun hlt => horder (.inr (.inl hlt))
  obtain ⟨hscalar, hlength⟩ := coordinate_scalar hfirst
  obtain ⟨hscalar', hlength'⟩ := coordinate_scalar hlast
  refine ⟨⟨(address_of_coordinate hfirst).2, (address_of_coordinate hlast).2, hcols, hrows⟩, ?_⟩
  rcases parts_of_count hcount with hparts | ⟨first, last, hparts, hvalue⟩
  · rw [hparts] at hscalar hlength
    exact ⟨hscalar, hlength.trans (by decide)⟩
  · rw [hparts] at hscalar hlength hscalar' hlength'
    rw [hvalue, List.length_append, List.length_cons]
    refine ⟨Text.scalar_append.2 ⟨hscalar, Text.scalar_cons.2 hscalar'⟩, ?_⟩
    simp only [List.headD_cons, List.getLastD_cons, List.getLastD_nil] at hlength hlength'
    omega

/-! ## Locators of cells -/

/-- `[\x00-\x1f\x7f\[\]:*?/\\]`. -/
def isForbidden (c : Char) : Bool := c.toNat ≤ 0x1f || c.toNat = 0x7f || "[]:*?/\\".toList.contains c

def sheetName (name : Text) : Bool :=
  1 ≤ name.length && name.length ≤ 31 && name.all fun c => !(c.char?.any isForbidden)

structure SheetCell where
  sheet : Text
  range : Text

namespace SheetCell

def items (x : SheetCell) : List (String × Text.Item) := [("sheet", .text x.sheet), ("range", .text x.range)]

theorem names (x : SheetCell) : x.items.map (·.1) = ["sheet", "range"] := rfl

end SheetCell

def encodeSheetCell (x : SheetCell) : Option Text :=
  if sheetName x.sheet ∧ (selectedBounds x.range).isSome then some (Text.dump x.items) else none

def readSheetCell (members : Members) : Option SheetCell := do
  let sheet ← Json.textOf? "sheet" members
  let range ← Json.textOf? "range" members
  return ⟨Text.ofString sheet, Text.ofString range⟩

def decodeSheetCell : Text → Option SheetCell :=
  decode 512 (· = ["sheet", "range"]) readSheetCell encodeSheetCell

theorem scalar_items_iff (x : SheetCell) :
    (∀ member ∈ x.items, member.2.Scalar) ↔ x.sheet.Scalar ∧ x.range.Scalar := by
  simp [SheetCell.items, Text.Item.Scalar]

theorem scalar_of_decoded {x y : SheetCell} {value : Text} (hy : decodeSheetCell value = some y)
    (hx : encodeSheetCell x = some value) : x.sheet.Scalar := by
  have hscalar := (decode_sound hy).2
  unfold encodeSheetCell at hx
  split at hx
  · rw [← Option.some.inj hx, Text.scalar_dump, scalar_items_iff] at hscalar
    exact hscalar.1
  · cases hx

theorem decodeSheetCell_iff (x : SheetCell) (value : Text) :
    decodeSheetCell value = some x ↔ encodeSheetCell x = some value ∧ x.sheet.Scalar := by
  constructor
  · intro h
    exact ⟨(decode_sound h).1, scalar_of_decoded h (decode_sound h).1⟩
  · rintro ⟨h, hsheet⟩
    have hencode := h
    unfold encodeSheetCell at h
    split at h
    · next hvalid =>
      obtain ⟨hname, hselected⟩ := hvalid
      obtain rfl := Option.some.inj h
      obtain ⟨area, harea⟩ := Option.isSome_iff_exists.1 hselected
      obtain ⟨_, harea, -⟩ := Option.bind_eq_some_iff.1 harea
      obtain ⟨-, hrange, hlength⟩ := of_bounds harea
      have hscalar := (scalar_items_iff x).2 ⟨hsheet, hrange⟩
      simp only [sheetName, Bool.and_eq_true, decide_eq_true_eq] at hname
      refine decode_dump hencode hscalar (fits_dump hscalar ?_) x.names ⟨by decide, by decide⟩ ?_
      · have hfirst := Json.textWeight_le (String.ofList x.sheet.toChars)
        have hlast := Json.textWeight_le (String.ofList x.range.toChars)
        have hkeys : Json.textWeight "sheet" = 7 ∧ Json.textWeight "range" = 7 := by decide
        rw [String.toList_ofList, Text.length_toChars hsheet] at hfirst
        rw [String.toList_ofList, Text.length_toChars hrange] at hlast
        simp only [SheetCell.items, Text.value, Text.Item.json, List.map_cons, List.map_nil, Json.weight,
          Json.membersWeight, hkeys]
        omega
      · simp [readSheetCell, SheetCell.items, Text.value, Text.Item.json, Json.textOf?, Json.field?,
          Json.text?, Text.ofString_toChars hsheet, Text.ofString_toChars hrange]
    · cases h

/-- Three codecs are lawful. The one of cells is for the names of sheets that hold no lone surrogate: it
decodes the locator with such a name to what has been encoded, and no locator with another name. -/
theorem locators_lawful (value : Text) :
    Lawful encodeDocxBlock decodeDocxBlock ∧ Lawful encodePptxBlock decodePptxBlock ∧
    Lawful encodeAudioSegment decodeAudioSegment ∧
    (∀ x, encodeSheetCell x = some value → (decodeSheetCell value = some x ↔ x.sheet.Scalar)) ∧
    ((decodeSheetCell value ≠ none ↔ ∃ x, encodeSheetCell x = some value) ↔
      ∀ x, encodeSheetCell x = some value → x.sheet.Scalar) ∧
    (∀ x value', decodeSheetCell value = some x → decodeSheetCell value' = some x → value = value') ∧
    (∀ col row, coordinate value = some (col, row) → Text.ofString (address col row) = value) ∧
    (∀ col row, OnSheet col row → coordinate (Text.ofString (address col row)) = some (col, row)) := by
  refine ⟨.of_iff docx_iff, .of_iff pptx_iff, .of_iff audio_iff, fun x h => ?_, ?_,
    fun x value' h h' => ?_, fun col row h => (address_of_coordinate h).1,
    fun col row => coordinate_address⟩
  · exact (decodeSheetCell_iff x value).trans (and_iff_right h)
  · constructor
    · intro h x hx
      obtain ⟨y, hy⟩ := Option.ne_none_iff_exists'.1 (h.2 ⟨x, hx⟩)
      exact scalar_of_decoded hy hx
    · intro h
      rw [Option.ne_none_iff_exists']
      refine exists_congr fun x => (decodeSheetCell_iff x value).trans (and_iff_left_of_imp (h x))
  · have hvalue := ((decodeSheetCell_iff x value).1 h).1
    exact Option.some.inj (hvalue.symm.trans ((decodeSheetCell_iff x value').1 h').1)

/-- The locator of `A1` in a sheet with half a surrogate pair as its name is not decoded. -/
theorem sheet_cell_not_lawful : ¬Lawful encodeSheetCell decodeSheetCell := by
  intro h
  let x : SheetCell := ⟨[.surrogate 0], Text.ofString "A1"⟩
  have hencode : encodeSheetCell x = some (Text.dump x.items) :=
    if_pos ⟨by decide, by decide⟩
  have hdecoded := (decodeSheetCell_iff x _).1 (h.decoded x _ hencode)
  exact absurd hdecoded.2 (by decide)

end DaonUser.Sources
