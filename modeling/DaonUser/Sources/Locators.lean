import DaonUser.Lib.Regex
import DaonUser.Lib.Text

/-!
# Locators of blocks and segments

`encode_docx_block`, `encode_pptx_block` and `encode_audio_segment` write the place of a quotation as a
JSON text, and their decoders read it back. A decoder compares the text with what the encoder writes for
the values it has read, so it takes nothing but encoded texts (`decode_sound`), and it takes all of them
when the object is read back with its keys (`decode_dump`).
-/

namespace DaonUser.Sources

open Lib

abbrev Members := List (String × Json Int)

/-! ## Encoding and decoding -/

section Codec

variable {α : Type}

/-- `len(value.encode('utf-8')) <= limit`. -/
def fits (limit : Nat) (t : Text) : Bool := t.string?.any fun s => (utf8 s.toList).length ≤ limit

def withKeys (keys : List String → Bool) (members : Members) : Option Members :=
  if (members.map (·.1)).Nodup ∧ keys (members.map (·.1)) = true then some members else none

/-- The reader takes integers and characters only; other numbers and the escapes of lone surrogates, which
`json.loads` takes, are refused with the comparison at the latest. -/
def decode (limit : Nat) (keys : List String → Bool) (item : Members → Option α)
    (encode : α → Option Text) (value : Text) : Option α :=
  if !fits limit value then none
  else do
    let text ← value.string?
    let members ← (Json.read text).bind Json.members?
    let x ← (withKeys keys members).bind item
    if encode x = some value then some x else none

structure Lawful (encode : α → Option Text) (decode : Text → Option α) : Prop where
  decoded : ∀ x value, encode x = some value → decode value = some x
  image : ∀ value, decode value ≠ none ↔ ∃ x, encode x = some value
  spelling : ∀ x value value', decode value = some x → decode value' = some x → value = value'

theorem Lawful.of_iff {encode : α → Option Text} {decode : Text → Option α}
    (h : ∀ x value, decode value = some x ↔ encode x = some value) : Lawful encode decode where
  decoded x value := (h x value).2
  image value := by rw [Option.ne_none_iff_exists']; exact exists_congr fun x => h x value
  spelling x value value' hvalue hvalue' :=
    Option.some.inj (((h x value).1 hvalue).symm.trans ((h x value').1 hvalue'))

variable {limit : Nat} {keys : List String → Bool} {item : Members → Option α} {encode : α → Option Text}

theorem decode_sound {x : α} {value : Text} (h : decode limit keys item encode value = some x) :
    encode x = some value ∧ value.Scalar := by
  unfold decode at h
  split at h
  · cases h
  obtain ⟨text, htext, h⟩ := Option.bind_eq_some_iff.1 h
  obtain ⟨members, -, h⟩ := Option.bind_eq_some_iff.1 h
  obtain ⟨y, -, h⟩ := Option.bind_eq_some_iff.1 h
  split at h
  · next hencode =>
    rw [← Option.some.inj h]
    exact ⟨hencode, Text.string?_eq_some.1 htext ▸ Text.scalar_ofChars⟩
  · cases h

theorem dump_eq_ofString {items : List (String × Text.Item)} (h : ∀ member ∈ items, member.2.Scalar) :
    Text.dump items = Text.ofString (String.ofList (Json.chars (.obj (items.map Text.value)))) := by
  rw [Text.dump_eq h, Text.ofString, String.toList_ofList]

theorem fits_dump {items : List (String × Text.Item)} (hscalar : ∀ member ∈ items, member.2.Scalar)
    (h : Json.weight (.obj (items.map Text.value)) ≤ limit) : fits limit (Text.dump items) = true := by
  rw [dump_eq_ofString hscalar, fits, Text.string?_ofString]
  simp only [Option.any_some, String.toList_ofList, decide_eq_true_eq]
  exact (Json.length_chars _).trans h

theorem decode_dump {x : α} {items : List (String × Text.Item)} (hencode : encode x = some (Text.dump items))
    (hscalar : ∀ member ∈ items, member.2.Scalar) (hfits : fits limit (Text.dump items) = true)
    {names : List String} (hnames : items.map (·.1) = names) (hkeys : names.Nodup ∧ keys names = true)
    (hitem : item (items.map Text.value) = some x) :
    decode limit keys item encode (Text.dump items) = some x := by
  have hmembers : withKeys keys (items.map Text.value) = some (items.map Text.value) := by
    rw [withKeys, List.map_map]
    exact if_pos (hnames ▸ hkeys)
  have hstring : (Text.dump items).string? = some _ := Text.string?_eq_some.2 (dump_eq_ofString hscalar)
  unfold decode
  rw [hfits, hstring]
  simp only [Bool.not_true, Bool.false_eq_true, if_false, Option.bind_eq_bind, Option.bind_some,
    Json.read_chars, Json.members?, hmembers, hitem]
  exact if_pos hencode

end Codec

/-! ## Blocks -/

/-- `_ID.fullmatch`. No class of a pattern here holds a lone surrogate. -/
def fullmatch (r : Regex) (t : Text) : Bool := t.string?.any r.fullmatch

theorem scalar_of_fullmatch {r : Regex} {t : Text} (h : fullmatch r t = true) : t.Scalar := by
  obtain ⟨s, hs, -⟩ := (Option.any_eq_true _ _).1 h
  exact Text.string?_eq_some.1 hs ▸ Text.scalar_ofChars

theorem length_of_fullmatch {r : Regex} {t : Text} {n : Nat} (hlongest : r.longest = some n)
    (h : fullmatch r t = true) : t.length ≤ n := by
  obtain ⟨s, hs, hmatch⟩ := (Option.any_eq_true _ _).1 h
  rw [Text.string?_eq_some.1 hs, Text.ofString, Text.ofChars, List.length_map]
  exact Regex.length_le_longest hlongest (Regex.fullmatch_iff.1 hmatch)

def digit : Regex := .one Char.isDigit

def nonzero : Regex := .one fun c => c.isDigit && c ≠ '0'

/-- `re.findall(r'[0-9]+', block_id)`. -/
def numbers (t : Text) : List Nat :=
  (Regex.findall (fun _ => false) (.plus digit) 0 none t.toChars).map fun s => Nat.ofDigitChars 10 s.toList 0

structure Block where
  blockId : Text
  start : Int
  stop : Int

namespace Block

def items (b : Block) : List (String × Text.Item) :=
  [("block", .text b.blockId), ("start", .int b.start), ("end", .int b.stop)]

theorem names (b : Block) : b.items.map (·.1) = ["block", "start", "end"] := rfl

end Block

/-- `0 <= start < end <= most`. -/
def Within (most start stop : Int) : Prop := 0 ≤ start ∧ start < stop ∧ stop ≤ most

instance (most start stop : Int) : Decidable (Within most start stop) :=
  inferInstanceAs (Decidable (_ ∧ _))

def intOf? (key : String) (members : Members) : Option Int :=
  (Json.field? key members).bind fun
    | .num n => some n
    | _ => none

def readBlock (members : Members) : Option Block := do
  let blockId ← Json.textOf? "block" members
  let start ← intOf? "start" members
  let stop ← intOf? "end" members
  return ⟨Text.ofString blockId, start, stop⟩

/-- `set(parsed) == {...}`. -/
def sameKeys (expected keys : List String) : Bool :=
  keys.all expected.contains && expected.all keys.contains

theorem readBlock_items {b : Block} (h : b.blockId.Scalar) : readBlock (b.items.map Text.value) = some b := by
  have hblock : Text.ofString (String.ofList b.blockId.toChars) = b.blockId := Text.ofString_toChars h
  simp [readBlock, Block.items, Text.value, Text.Item.json, Json.textOf?, intOf?, Json.field?, Json.text?,
    hblock]

theorem scalar_items {b : Block} (h : b.blockId.Scalar) : ∀ member ∈ b.items, member.2.Scalar := by
  simp [Block.items, Text.Item.Scalar, h]

theorem weight_int {k : Nat} {n : Int} (hk : 0 < k) (h : 0 ≤ n) (hn : n < 10 ^ k) :
    (intChars n).length ≤ k := by
  obtain ⟨m, rfl⟩ := Int.eq_ofNat_of_zero_le h
  exact length_intChars hk (by exact_mod_cast hn)

/-- `p:[1-9][0-9]?|t:[1-9][0-9]?:r:[1-9][0-9]?:c:[1-9][0-9]?:p:[1-9][0-9]{0,2}`. -/
def docxId : Regex :=
  let two := .seq nonzero (.optional digit)
  let three := .seq nonzero (.optional (.seq digit (.optional digit)))
  .alt (.seq (.literal "p:".toList) two)
    (.seq (.literal "t:".toList) (.seq two (.seq (.literal ":r:".toList) (.seq two
      (.seq (.literal ":c:".toList) (.seq two (.seq (.literal ":p:".toList) three)))))))

def docxNumbers : List Nat → Bool
  | [t, r, c, p] => t ≤ 64 && max r c ≤ 64 && p ≤ 128
  | n :: _ => n ≤ 64
  | [] => false

def encodeDocxBlock (b : Block) : Option Text :=
  if fullmatch docxId b.blockId ∧ docxNumbers (numbers b.blockId) ∧ Within 2000 b.start b.stop then
    some (Text.dump b.items)
  else none

def decodeDocxBlock : Text → Option Block :=
  decode 256 (· = ["block", "start", "end"]) readBlock encodeDocxBlock

theorem docx_iff (b : Block) (value : Text) :
    decodeDocxBlock value = some b ↔ encodeDocxBlock b = some value := by
  refine ⟨fun h => (decode_sound h).1, fun h => ?_⟩
  have hencode := h
  unfold encodeDocxBlock at h
  split at h
  · next hvalid =>
    obtain ⟨hid, -, hstart, hspan, hstop⟩ := hvalid
    obtain rfl := Option.some.inj h
    have hscalar := scalar_of_fullmatch hid
    have hlength : b.blockId.length ≤ 20 := length_of_fullmatch (by decide) hid
    refine decode_dump hencode (scalar_items hscalar) (fits_dump (scalar_items hscalar) ?_)
      b.names ⟨by decide, by decide⟩ (readBlock_items hscalar)
    have hblock := Json.textWeight_le (String.ofList b.blockId.toChars)
    have hfirst := weight_int (k := 4) (n := b.start) (by decide) hstart (by omega)
    have hlast := weight_int (k := 4) (n := b.stop) (by decide) (by omega) (by omega)
    have hkeys : Json.textWeight "block" = 7 ∧ Json.textWeight "start" = 7 ∧ Json.textWeight "end" = 5 := by
      decide
    rw [String.toList_ofList, Text.length_toChars hscalar] at hblock
    simp only [Block.items, Text.value, Text.Item.json, List.map_cons, List.map_nil, Json.weight,
      Json.membersWeight, hkeys, JsonNumber.chars]
    omega
  · cases h

/-- `s:[1-9][0-9]*:(?:sp:[1-9][0-9]*:p:[1-9][0-9]*|tb:[1-9][0-9]*:r:[1-9][0-9]*:c:[1-9][0-9]*:p:[1-9][0-9]*)`. -/
def pptxId : Regex :=
  let number := .seq nonzero (.star digit)
  .seq (.literal "s:".toList) (.seq number (.seq (.literal ":".toList)
    (.alt (.seq (.literal "sp:".toList) (.seq number (.seq (.literal ":p:".toList) number)))
      (.seq (.literal "tb:".toList) (.seq number (.seq (.literal ":r:".toList) (.seq number
        (.seq (.literal ":c:".toList) (.seq number (.seq (.literal ":p:".toList) number))))))))))

/-- The groups of `_ID` that take part are the numbers in their order. -/
def pptxNumbers : List Nat → Bool
  | [slide, sp, para] => slide ≤ 16 && sp ≤ 4294967295 && para ≤ 128
  | [slide, tb, row, col, para] =>
    slide ≤ 16 && tb ≤ 4294967295 && para ≤ 128 && row ≤ 64 && col ≤ 64
  | _ => false

def encodePptxBlock (b : Block) : Option Text :=
  if b.blockId.length ≤ 100 ∧ fullmatch pptxId b.blockId ∧ pptxNumbers (numbers b.blockId) ∧
      Within 2000 b.start b.stop ∧ fits 256 (Text.dump b.items) then
    some (Text.dump b.items)
  else none

def decodePptxBlock : Text → Option Block :=
  decode 256 (sameKeys ["block", "start", "end"]) readBlock encodePptxBlock

theorem pptx_iff (b : Block) (value : Text) :
    decodePptxBlock value = some b ↔ encodePptxBlock b = some value := by
  refine ⟨fun h => (decode_sound h).1, fun h => ?_⟩
  have hencode := h
  unfold encodePptxBlock at h
  split at h
  · next hvalid =>
    obtain ⟨-, hid, -, -, hfits⟩ := hvalid
    obtain rfl := Option.some.inj h
    have hscalar := scalar_of_fullmatch hid
    exact decode_dump hencode (scalar_items hscalar) hfits b.names ⟨by decide, by decide⟩
      (readBlock_items hscalar)
  · cases h

/-! ## Recordings -/

structure Segment where
  segmentId : Text
  startMs : Int
  endMs : Int
  start : Int
  stop : Int

def Segment.items (s : Segment) : List (String × Text.Item) :=
  [("segment", .text s.segmentId), ("start_ms", .int s.startMs), ("end_ms", .int s.endMs),
    ("start", .int s.start), ("end", .int s.stop)]

theorem Segment.names (s : Segment) :
    s.items.map (·.1) = ["segment", "start_ms", "end_ms", "start", "end"] := rfl

def readSegment (members : Members) : Option Segment := do
  let segmentId ← Json.textOf? "segment" members
  let startMs ← intOf? "start_ms" members
  let endMs ← intOf? "end_ms" members
  let start ← intOf? "start" members
  let stop ← intOf? "end" members
  return ⟨Text.ofString segmentId, startMs, endMs, start, stop⟩

/-- `s:([1-9][0-9]?)`. -/
def segmentPattern : Regex := .seq (.literal "s:".toList) (.seq nonzero (.optional digit))

def encodeAudioSegment (s : Segment) : Option Text :=
  if fullmatch segmentPattern s.segmentId ∧ (numbers s.segmentId).all (· ≤ 64) ∧
      Within 120000 s.startMs s.endMs ∧ Within 2000 s.start s.stop ∧ fits 256 (Text.dump s.items) then
    some (Text.dump s.items)
  else none

def decodeAudioSegment : Text → Option Segment :=
  decode 256 (sameKeys ["segment", "start_ms", "end_ms", "start", "end"]) readSegment encodeAudioSegment

theorem readSegment_items {s : Segment} (h : s.segmentId.Scalar) :
    readSegment (s.items.map Text.value) = some s := by
  have hsegment : Text.ofString (String.ofList s.segmentId.toChars) = s.segmentId := Text.ofString_toChars h
  simp [readSegment, Segment.items, Text.value, Text.Item.json, Json.textOf?, intOf?, Json.field?, Json.text?,
    hsegment]

theorem audio_iff (s : Segment) (value : Text) :
    decodeAudioSegment value = some s ↔ encodeAudioSegment s = some value := by
  refine ⟨fun h => (decode_sound h).1, fun h => ?_⟩
  have hencode := h
  unfold encodeAudioSegment at h
  split at h
  · next hvalid =>
    obtain ⟨hid, -, -, -, hfits⟩ := hvalid
    obtain rfl := Option.some.inj h
    have hscalar := scalar_of_fullmatch hid
    refine decode_dump hencode ?_ hfits s.names ⟨by decide, by decide⟩ (readSegment_items hscalar)
    simp [Segment.items, Text.Item.Scalar, hscalar]
  · cases h

end DaonUser.Sources
