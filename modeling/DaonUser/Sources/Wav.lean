import DaonUser.Sources.Locators
import Mathlib.Data.Nat.Digits.Defs

/-!
# Recordings

`read_wav` accepts a RIFF/WAVE file of padded chunks: one format before one data chunk, and JUNK and LIST
chunks around them. The accepted files are those of a grammar (`Recording`), each in one way
(`read_wav_spec`), and the times up to the duration fit the locators of segments.
-/

namespace DaonUser.Sources

open Lib

/-! ## Chunks -/

/-- `struct.unpack`, of one little-endian number. -/
def unpack (bytes : List UInt8) : Nat := Nat.ofDigits 256 (bytes.map UInt8.toNat)

/-- A padded chunk: its kind, its size as it is written, its body and at most one byte after it. -/
structure Piece where
  kind : List UInt8
  size : List UInt8
  body : List UInt8
  pad : List UInt8
  lengths : kind.length = 4 ∧ size.length = 4 ∧ pad.length = body.length % 2
  sized : unpack size = body.length

def Piece.bytes (p : Piece) : List UInt8 := p.kind ++ p.size ++ p.body ++ p.pad

def readPiece (bytes : List UInt8) : Option (Piece × List UInt8) :=
  let size := unpack ((bytes.drop 4).take 4)
  if h : 8 + size + size % 2 ≤ bytes.length then
    some ({ kind := bytes.take 4, size := (bytes.drop 4).take 4, body := (bytes.drop 8).take size
            pad := (bytes.drop (8 + size)).take (size % 2)
            lengths := by simp only [List.length_take, List.length_drop]; omega
            sized := by simp only [List.length_take, List.length_drop]; omega },
      bytes.drop (8 + size + size % 2))
  else none

theorem readPiece_append (p : Piece) (rest : List UInt8) : readPiece (p.bytes ++ rest) = some (p, rest) := by
  obtain ⟨kind, size, body, pad, ⟨hkind, hsize, hpad⟩, hsized⟩ := p
  have htake : ((kind ++ (size ++ (body ++ (pad ++ rest)))).drop 4).take 4 = size := by
    rw [List.drop_left' hkind, List.take_left' hsize]
  have hdrop : (kind ++ (size ++ (body ++ (pad ++ rest)))).drop 8 = body ++ (pad ++ rest) := by
    rw [show 8 = 4 + 4 from rfl, ← List.drop_drop, List.drop_left' hkind, List.drop_left' hsize]
  simp only [readPiece, Piece.bytes, List.append_assoc, htake, hsized]
  rw [dif_pos (by simp only [List.length_append]; omega)]
  simp only [← List.drop_drop, hdrop, List.take_left' hkind, List.take_left, List.drop_left,
    List.take_left' hpad, List.drop_left' hpad]

theorem readPiece_eq {bytes rest : List UInt8} {p : Piece} :
    readPiece bytes = some (p, rest) ↔ bytes = p.bytes ++ rest := by
  refine ⟨fun h => ?_, fun h => h ▸ readPiece_append p rest⟩
  unfold readPiece at h
  dsimp only at h
  split at h
  · obtain ⟨rfl, rfl⟩ := Prod.mk.inj (Option.some.inj h)
    simp only [Piece.bytes, List.append_assoc, ← List.drop_drop, List.take_append_drop]
    rw [← List.drop_drop (i := 4) (j := 4), List.take_append_drop, List.take_append_drop]
  · cases h

def written (ps : List Piece) : List UInt8 := ps.flatMap Piece.bytes

theorem written_ne_nil (p : Piece) (ps : List Piece) : written (p :: ps) ≠ [] := by
  intro h
  have hkind := p.lengths.1
  simp only [written, List.flatMap_cons, Piece.bytes, List.append_eq_nil_iff] at h
  rw [h.1.1.1.1] at hkind
  cases hkind

theorem exists_written_iff {bytes : List UInt8} (h : bytes ≠ []) {P : List Piece → Prop} :
    (∃ ps, bytes = written ps ∧ P ps) ↔
      ∃ p rest, readPiece bytes = some (p, rest) ∧ ∃ ps, rest = written ps ∧ P (p :: ps) := by
  constructor
  · rintro ⟨ps, rfl, hP⟩
    cases ps with
    | nil => exact absurd rfl h
    | cons p ps => exact ⟨p, _, readPiece_append p _, ps, rfl, hP⟩
  · rintro ⟨p, rest, hread, ps, rfl, hP⟩
    exact ⟨p :: ps, readPiece_eq.mp hread, hP⟩

theorem written_injective {ps qs : List Piece} (h : written ps = written qs) : ps = qs := by
  induction ps generalizing qs with
  | nil =>
    cases qs with
    | nil => rfl
    | cons q qs => exact absurd h.symm (written_ne_nil q qs)
  | cons p ps ih =>
    cases qs with
    | nil => exact absurd h (written_ne_nil p ps)
    | cons q qs =>
      have hread := readPiece_append p (written ps)
      rw [show p.bytes ++ written ps = q.bytes ++ written qs from h, readPiece_append] at hread
      obtain ⟨rfl, hrest⟩ := Prod.mk.inj (Option.some.inj hread)
      rw [ih hrest.symm]

theorem length_readPiece {bytes rest : List UInt8} {p : Piece} (h : readPiece bytes = some (p, rest)) :
    rest.length < bytes.length := by
  rw [readPiece_eq.mp h, List.length_append, Piece.bytes]
  simp only [List.length_append, p.lengths.1]
  omega

/-! ## `read_wav` -/

def kindFmt : List UInt8 := utf8 "fmt ".toList

def kindData : List UInt8 := utf8 "data".toList

def kindJunk : List UInt8 := utf8 "JUNK".toList

def kindList : List UInt8 := utf8 "LIST".toList

/-- The loop over the items of a LIST chunk, which go on with the count of the chunks. -/
def readItems (count : Nat) (rest : List UInt8) : Option Nat :=
  if rest = [] then some count
  else if 64 < count + 1 then none
  else match _h : readPiece rest with
    | none => none
    | some (_, rest) => readItems (count + 1) rest
termination_by rest.length
decreasing_by exact length_readPiece _h

@[ext] structure Heard where
  count : Nat
  metadata : Nat
  fmt : Option (List UInt8)
  dataSize : Option Nat

def Heard.read (s : Heard) (p : Piece) : Option Heard :=
  let size := p.body.length
  if p.kind = kindFmt then
    if s.fmt.isSome ∨ size ≠ 16 then none else some { s with fmt := some p.body }
  else if p.kind = kindData then
    if s.fmt.isNone ∨ s.dataSize.isSome then none else some { s with dataSize := some size }
  else if p.kind = kindJunk ∨ p.kind = kindList then
    if 65536 < s.metadata + size ∨
        p.kind = kindList ∧ (size < 4 ∨ p.body.take 4 ≠ utf8 "INFO".toList) then none
    else if p.kind = kindList then
      (readItems s.count (p.body.drop 4)).map fun count =>
        { s with count := count, metadata := s.metadata + size }
    else some { s with metadata := s.metadata + size }
  else none

def readChunks (s : Heard) (rest : List UInt8) : Option Heard :=
  if rest = [] then some s
  else if 64 < s.count + 1 then none
  else match _h : readPiece rest with
    | none => none
    | some (p, rest) => match { s with count := s.count + 1 }.read p with
      | none => none
      | some s => readChunks s rest
termination_by rest.length
decreasing_by exact length_readPiece _h

structure AudioDocument where
  sourceSha256 : String
  durationMs : Nat
  sampleRate : Nat
  channels : Nat
  content : List UInt8

/-- The fields of `fmt`: "<HHIIHH". -/
structure Format where
  encoding : Nat
  channels : Nat
  rate : Nat
  byteRate : Nat
  alignment : Nat
  bits : Nat

def Format.of (fmt : List UInt8) : Format where
  encoding := unpack (fmt.take 2)
  channels := unpack ((fmt.drop 2).take 2)
  rate := unpack ((fmt.drop 4).take 4)
  byteRate := unpack ((fmt.drop 8).take 4)
  alignment := unpack ((fmt.drop 12).take 2)
  bits := unpack ((fmt.drop 14).take 2)

/-- The checks of the format and the number of frames. -/
def Format.Playable (f : Format) (dataSize : Nat) : Prop :=
  f.encoding = 1 ∧ f.channels ∈ [1, 2] ∧ f.bits = 16 ∧ f.rate ∈ [16000, 22050, 24000, 44100, 48000] ∧
    f.alignment = f.channels * 2 ∧ f.byteRate = f.rate * f.alignment ∧ dataSize % f.alignment = 0 ∧
    f.rate ≤ dataSize / f.alignment ∧ dataSize / f.alignment ≤ 120 * f.rate

instance (f : Format) (dataSize : Nat) : Decidable (f.Playable dataSize) :=
  inferInstanceAs (Decidable (_ ∧ _))

/-- The size of the file and its first twelve bytes. -/
def Header (content : List UInt8) : Prop :=
  (44 ≤ content.length ∧ content.length ≤ 25 * 1024 * 1024) ∧ content.take 4 = utf8 "RIFF".toList ∧
    (content.drop 8).take 4 = utf8 "WAVE".toList ∧ unpack ((content.drop 4).take 4) + 8 = content.length

instance (content : List UInt8) : Decidable (Header content) := inferInstanceAs (Decidable (_ ∧ _))

def AudioDocument.of (sha256 : List UInt8 → String) (content : List UInt8) (f : Format) (dataSize : Nat) :
    AudioDocument :=
  ⟨sha256 content, dataSize / f.alignment * 1000 / f.rate, f.rate, f.channels, content⟩

/-- `read_wav`; `none` is `SourceRejected('CORRUPTED_SOURCE')`. -/
def readWav (sha256 : List UInt8 → String) (content : List UInt8) : Option AudioDocument :=
  if ¬ Header content then none
  else match readChunks ⟨0, 0, none, none⟩ (content.drop 12) with
    | some ⟨_, _, some fmt, some dataSize⟩ =>
      if (Format.of fmt).Playable dataSize then some (.of sha256 content (.of fmt) dataSize) else none
    | _ => none

abbrev Chunk := Piece × List Piece

def isExtra (c : Chunk) : Bool := c.1.kind = kindJunk || c.1.kind = kindList

/-- A JUNK chunk, or a LIST of INFO items. -/
def Extra (c : Chunk) : Prop :=
  c.1.kind = kindJunk ∧ c.2 = [] ∨
    c.1.kind = kindList ∧ c.1.body = utf8 "INFO".toList ++ written c.2

/-- The chunks of a recording whose format and data chunks are `f` and `d`. -/
structure Recording (content : List UInt8) (chunks : List Chunk) (f d : Piece) : Prop where
  header : Header content
  whole : content.drop 12 = written (chunks.map Prod.fst)
  main : chunks.filter (fun c => !isExtra c) = [(f, []), (d, [])]
  kinds : f.kind = kindFmt ∧ d.kind = kindData
  sixteen : f.body.length = 16
  extra : ∀ c ∈ chunks, isExtra c = true → Extra c
  count : (chunks.map fun c => 1 + c.2.length).sum ≤ 64
  metadata : ((chunks.filter isExtra).map fun c => c.1.body.length).sum ≤ 65536
  playable : (Format.of f.body).Playable d.body.length

/-! ## The loops and the grammar -/

theorem readItems_eq {count n : Nat} {bytes : List UInt8} (hcount : count ≤ 64) :
    readItems count bytes = some n ↔
      ∃ items, bytes = written items ∧ n = count + items.length ∧ n ≤ 64 := by
  fun_induction readItems count bytes with
  | case1 count =>
    constructor
    · intro h
      exact ⟨[], rfl, (Option.some.inj h).symm, Option.some.inj h ▸ hcount⟩
    · rintro ⟨items, hitems, rfl, -⟩
      obtain rfl : [] = items := written_injective hitems
      rfl
  | case2 count bytes hne hfull =>
    rw [exists_written_iff hne]
    refine iff_of_false nofun ?_
    rintro ⟨p, rest, -, items, -, rfl, hn⟩
    rw [List.length_cons] at hn
    omega
  | case3 count bytes hne hroom hread =>
    rw [exists_written_iff hne, hread]
    exact iff_of_false nofun fun ⟨_, _, h, _⟩ => nomatch h
  | case4 count bytes hne hroom p rest hread ih =>
    rw [exists_written_iff hne, hread, ih (by omega)]
    constructor
    · rintro ⟨items, hrest, rfl, hn⟩
      exact ⟨p, rest, rfl, items, hrest, by rw [List.length_cons]; omega, hn⟩
    · rintro ⟨p, rest, h, items, hrest, rfl, hn⟩
      obtain ⟨rfl, rfl⟩ := Prod.mk.inj (Option.some.inj h)
      exact ⟨items, hrest, by rw [List.length_cons]; omega, hn⟩

/-- What a chunk does, whose items are counted already. -/
inductive Takes (s : Heard) (c : Chunk) : Heard → Prop
  | extra (h : Extra c) (hsize : s.metadata + c.1.body.length ≤ 65536) :
    Takes s c { s with metadata := s.metadata + c.1.body.length }
  | fmt (hkind : c.1.kind = kindFmt) (hitems : c.2 = []) (hsize : c.1.body.length = 16) (h : s.fmt = none) :
    Takes s c { s with fmt := some c.1.body }
  | data (hkind : c.1.kind = kindData) (hitems : c.2 = []) (h : s.fmt ≠ none) (h' : s.dataSize = none) :
    Takes s c { s with dataSize := some c.1.body.length }

theorem takes_of_read {s t : Heard} {p : Piece} (hcount : s.count ≤ 64) (h : s.read p = some t) :
    ∃ items, s.count + items.length ≤ 64 ∧ Takes { s with count := s.count + items.length } (p, items) t := by
  unfold Heard.read at h
  dsimp only at h
  split at h
  · next hkind =>
    split at h
    · cases h
    · next hfree =>
      rw [not_or, Option.not_isSome_iff_eq_none, not_not] at hfree
      obtain rfl := Option.some.inj h
      exact ⟨[], hcount, .fmt hkind rfl hfree.2 hfree.1⟩
  split at h
  · next hkind =>
    split at h
    · cases h
    · next hfree =>
      rw [not_or, Option.isNone_iff_eq_none, Option.not_isSome_iff_eq_none] at hfree
      obtain rfl := Option.some.inj h
      exact ⟨[], hcount, .data hkind rfl hfree.1 hfree.2⟩
  split at h
  · next hkind =>
    split at h
    · cases h
    · next hfits =>
      rw [not_or, not_lt] at hfits
      split at h
      · next hlist =>
        obtain ⟨n, hn, rfl⟩ := Option.map_eq_some_iff.mp h
        obtain ⟨items, hitems, rfl, hroom⟩ := (readItems_eq hcount).mp hn
        have hinfo : p.body.take 4 = utf8 "INFO".toList := by
          by_contra hne
          exact hfits.2 ⟨hlist, .inr hne⟩
        refine ⟨items, hroom, .extra (.inr ⟨hlist, ?_⟩) hfits.1⟩
        rw [← hinfo, ← hitems, List.take_append_drop]
      · next hlist =>
        obtain rfl := Option.some.inj h
        exact ⟨[], hcount, .extra (.inl ⟨hkind.resolve_right hlist, rfl⟩) hfits.1⟩
  · cases h

theorem read_of_takes {s t : Heard} {p : Piece} {items : List Piece} (hcount : s.count ≤ 64)
    (hroom : s.count + items.length ≤ 64)
    (h : Takes { s with count := s.count + items.length } (p, items) t) : s.read p = some t := by
  unfold Heard.read
  cases h with
  | fmt hkind hitems hsize h =>
    obtain rfl : items = [] := hitems
    simp [show p.kind = kindFmt from hkind, show s.fmt = none from h, show p.body.length = 16 from hsize]
  | data hkind hitems h h' =>
    obtain rfl : items = [] := hitems
    have hne : kindData ≠ kindFmt := by decide
    simp [show p.kind = kindData from hkind, hne, show s.fmt ≠ none from h, show s.dataSize = none from h']
  | extra h hsize =>
    have hsize' : ¬ 65536 < s.metadata + p.body.length := not_lt.mpr hsize
    rcases h with ⟨hkind, hitems⟩ | ⟨hkind, hbody⟩
    · obtain rfl : items = [] := hitems
      have hne : kindJunk ≠ kindFmt ∧ kindJunk ≠ kindData ∧ kindJunk ≠ kindList := by decide
      simp [show p.kind = kindJunk from hkind, hne, hsize']
    · have hne : kindList ≠ kindFmt ∧ kindList ≠ kindData := by decide
      have hinfo : (utf8 "INFO".toList).length = 4 := by decide
      have hbody' : p.body = utf8 "INFO".toList ++ written items := hbody
      have htake : p.body.take 4 = utf8 "INFO".toList := by rw [hbody', List.take_left' hinfo]
      have hlong : ¬ p.body.length < 4 := by rw [hbody', List.length_append]; omega
      have hitems := (readItems_eq hcount).mpr ⟨items, rfl, rfl, hroom⟩
      have hdrop : p.body.drop 4 = written items := by rw [hbody', List.drop_left' hinfo]
      simp [show p.kind = kindList from hkind, hne, hsize', htake, hlong, hdrop, hitems]

/-- The chunks of the format and the data that are still to come. -/
inductive Mains : Option (List UInt8) → Option Nat → List Chunk → List UInt8 → Nat → Prop
  | done (fmt : List UInt8) (size : Nat) : Mains (some fmt) (some size) [] fmt size
  | fmt {n l fmt size} (f : Piece) (hkind : f.kind = kindFmt) (hsize : f.body.length = 16)
    (h : Mains (some f.body) n l fmt size) : Mains none n ((f, []) :: l) fmt size
  | data {b l fmt size} (d : Piece) (hkind : d.kind = kindData)
    (h : Mains (some b) (some d.body.length) l fmt size) : Mains (some b) none ((d, []) :: l) fmt size

theorem mains_iff {l : List Chunk} {fmt : List UInt8} {size : Nat} :
    Mains none none l fmt size ↔ ∃ f d, l = [(f, []), (d, [])] ∧ (f.kind = kindFmt ∧ d.kind = kindData) ∧
      f.body.length = 16 ∧ fmt = f.body ∧ size = d.body.length := by
  constructor
  · rintro (_ | ⟨f, hfmt, hsize, _ | _ | ⟨d, hdata, _ | _⟩⟩)
    exact ⟨f, d, rfl, ⟨hfmt, hdata⟩, hsize, rfl, rfl⟩
  · rintro ⟨f, d, rfl, ⟨hfmt, hdata⟩, hsize, rfl, rfl⟩
    exact .fmt f hfmt hsize (.data d hdata (.done _ _))

/-- The chunks with which the loop comes to its end. -/
structure Rest (s : Heard) (chunks : List Chunk) (fmt : List UInt8) (size : Nat) : Prop where
  extra : ∀ c ∈ chunks, isExtra c = true → Extra c
  count : s.count + (chunks.map fun c => 1 + c.2.length).sum ≤ 64
  metadata : s.metadata + ((chunks.filter isExtra).map fun c => c.1.body.length).sum ≤ 65536
  mains : Mains s.fmt s.dataSize (chunks.filter fun c => !isExtra c) fmt size

theorem isExtra_of_extra {c : Chunk} (h : Extra c) : isExtra c = true := by
  rcases h with h | h <;> simp [isExtra, h.1]

theorem not_isExtra {c : Chunk} (h : c.1.kind = kindFmt ∨ c.1.kind = kindData) : isExtra c = false := by
  rcases h with h | h <;> rw [isExtra, h] <;> decide

theorem rest_cons {s : Heard} {c : Chunk} {chunks : List Chunk} {fmt : List UInt8} {size : Nat} :
    Rest s (c :: chunks) fmt size ↔ s.count + 1 + c.2.length ≤ 64 ∧
      ∃ m, Takes { s with count := s.count + 1 + c.2.length } c m ∧ Rest m chunks fmt size := by
  obtain ⟨count, metadata, b, n⟩ := s
  constructor
  · rintro ⟨hextra, hcount, hmetadata, hmains⟩
    rw [List.map_cons, List.sum_cons] at hcount
    dsimp only at hcount hmetadata hmains ⊢
    have htail : ∀ c' ∈ chunks, isExtra c' = true → Extra c' := fun c' hmem => hextra c' (.tail _ hmem)
    refine ⟨by omega, ?_⟩
    cases hkind : isExtra c with
    | true =>
      rw [List.filter_cons_of_pos hkind, List.map_cons, List.sum_cons] at hmetadata
      rw [List.filter_cons_of_neg (by simp [hkind])] at hmains
      exact ⟨_, .extra (hextra c (.head _) hkind) (by dsimp only; omega),
        htail, by dsimp only; omega, by dsimp only; omega, hmains⟩
    | false =>
      rw [List.filter_cons_of_neg (by simp [hkind])] at hmetadata
      rw [List.filter_cons_of_pos (by simp [hkind])] at hmains
      cases hmains with
      | fmt f hfmt hsize h =>
        exact ⟨_, .fmt hfmt rfl hsize rfl, htail, by dsimp only at hcount ⊢; omega, hmetadata, h⟩
      | data d hdata h =>
        exact ⟨_, .data hdata rfl (by simp) rfl, htail, by dsimp only at hcount ⊢; omega, hmetadata, h⟩
  · rintro ⟨-, m, htakes, hextra, hcount, hmetadata, hmains⟩
    have hcounted : m.count = count + 1 + c.2.length := by cases htakes <;> rfl
    have hsum : count + ((c :: chunks).map fun c => 1 + c.2.length).sum ≤ 64 := by
      rw [List.map_cons, List.sum_cons]
      omega
    obtain ⟨p, items⟩ := c
    cases htakes with
    | extra h hsize =>
      have hkind := isExtra_of_extra h
      refine ⟨List.forall_mem_cons.mpr ⟨fun _ => h, hextra⟩, hsum, ?_, ?_⟩
      · rw [List.filter_cons_of_pos hkind, List.map_cons, List.sum_cons, ← Nat.add_assoc]
        exact hmetadata
      · rw [List.filter_cons_of_neg (by simp [hkind])]
        exact hmains
    | fmt hfmt hitems hsize h =>
      obtain rfl : items = [] := hitems
      obtain rfl : b = none := h
      have hkind := not_isExtra (.inl hfmt)
      refine ⟨List.forall_mem_cons.mpr ⟨fun h => (by rw [hkind] at h; cases h), hextra⟩, hsum, ?_, ?_⟩
      · rw [List.filter_cons_of_neg (by simp [hkind])]
        exact hmetadata
      · rw [List.filter_cons_of_pos (by simp [hkind])]
        exact .fmt p hfmt hsize hmains
    | data hdata hitems h h' =>
      obtain rfl : items = [] := hitems
      obtain rfl : n = none := h'
      obtain ⟨b, rfl⟩ := Option.ne_none_iff_exists'.mp h
      have hkind := not_isExtra (.inr hdata)
      refine ⟨List.forall_mem_cons.mpr ⟨fun h => (by rw [hkind] at h; cases h), hextra⟩, hsum, ?_, ?_⟩
      · rw [List.filter_cons_of_neg (by simp [hkind])]
        exact hmetadata
      · rw [List.filter_cons_of_pos (by simp [hkind])]
        exact .data p hdata hmains

theorem exists_chunks_iff {bytes : List UInt8} (h : bytes ≠ []) {P : List Chunk → Prop} :
    (∃ chunks, bytes = written (chunks.map Prod.fst) ∧ P chunks) ↔
      ∃ p rest, readPiece bytes = some (p, rest) ∧
        ∃ items chunks, rest = written (chunks.map Prod.fst) ∧ P ((p, items) :: chunks) := by
  constructor
  · rintro ⟨_ | ⟨⟨p, items⟩, chunks⟩, rfl, hP⟩
    · exact absurd rfl h
    · exact ⟨p, _, readPiece_append p _, items, chunks, rfl, hP⟩
  · rintro ⟨p, rest, hread, items, chunks, rfl, hP⟩
    exact ⟨(p, items) :: chunks, readPiece_eq.mp hread, hP⟩

theorem readChunks_eq {s : Heard} {bytes fmt : List UInt8} {size : Nat} (hcount : s.count ≤ 64)
    (hmetadata : s.metadata ≤ 65536) :
    (∃ t, readChunks s bytes = some t ∧ t.fmt = some fmt ∧ t.dataSize = some size) ↔
      ∃ chunks, bytes = written (chunks.map Prod.fst) ∧ Rest s chunks fmt size := by
  fun_induction readChunks s bytes with
  | case1 s =>
    constructor
    · rintro ⟨t, ht, hfmt, hsize⟩
      obtain rfl := Option.some.inj ht
      exact ⟨[], rfl, nofun, hcount, hmetadata, by rw [hfmt, hsize]; exact .done fmt size⟩
    · rintro ⟨chunks, hchunks, -, -, -, hmains⟩
      obtain rfl : chunks = [] := List.map_eq_nil_iff.mp (@written_injective [] _ hchunks).symm
      refine ⟨s, rfl, ?_⟩
      obtain ⟨count, metadata, b, n⟩ := s
      cases hmains
      exact ⟨rfl, rfl⟩
  | case2 s bytes hne hfull =>
    rw [exists_chunks_iff hne]
    refine iff_of_false nofun ?_
    rintro ⟨p, rest, -, items, chunks, -, hrest⟩
    have hroom := (rest_cons.mp hrest).1
    omega
  | case3 s bytes hne hroom hread =>
    rw [exists_chunks_iff hne, hread]
    exact iff_of_false nofun fun ⟨_, _, h, _⟩ => nomatch h
  | case4 s bytes hne hroom p rest hread hrefused =>
    rw [exists_chunks_iff hne, hread]
    refine iff_of_false nofun ?_
    rintro ⟨q, rest', h, items, chunks, -, hrest⟩
    obtain ⟨rfl, rfl⟩ := Prod.mk.inj (Option.some.inj h)
    obtain ⟨hroom', m, htakes, -⟩ := rest_cons.mp hrest
    cases hrefused.symm.trans (read_of_takes (by dsimp only; omega) hroom' htakes)
  | case5 s bytes hne hroom p rest hread m hm ih =>
    rw [exists_chunks_iff hne, hread]
    have hcounted : ({ s with count := s.count + 1 } : Heard).count ≤ 64 := by dsimp only; omega
    obtain ⟨items, hroom', htakes⟩ := takes_of_read hcounted hm
    have hcount' : m.count ≤ 64 := by cases htakes <;> exact hroom'
    have hmetadata' : m.metadata ≤ 65536 := by cases htakes <;> assumption
    rw [ih hcount' hmetadata']
    constructor
    · rintro ⟨chunks, hchunks, hrest⟩
      exact ⟨p, rest, rfl, items, chunks, hchunks, rest_cons.mpr ⟨hroom', m, htakes, hrest⟩⟩
    · rintro ⟨q, rest', h, items', chunks, hchunks, hrest⟩
      obtain ⟨rfl, rfl⟩ := Prod.mk.inj (Option.some.inj h)
      obtain ⟨hroom'', m', htakes', hrest'⟩ := rest_cons.mp hrest
      obtain rfl := Option.some.inj (hm.symm.trans (read_of_takes hcounted hroom'' htakes'))
      exact ⟨chunks, hchunks, hrest'⟩

theorem readWav_eq {sha256 : List UInt8 → String} {content : List UInt8} {doc : AudioDocument} :
    readWav sha256 content = some doc ↔ ∃ chunks f d, Recording content chunks f d ∧
      doc = .of sha256 content (.of f.body) d.body.length := by
  have hread : readWav sha256 content = some doc ↔ Header content ∧ ∃ fmt size,
      (∃ t, readChunks ⟨0, 0, none, none⟩ (content.drop 12) = some t ∧ t.fmt = some fmt ∧
        t.dataSize = some size) ∧ (Format.of fmt).Playable size ∧ doc = .of sha256 content (.of fmt) size := by
    unfold readWav
    split
    · next h => exact iff_of_false nofun fun h' => h h'.1
    · next h =>
      rw [not_not] at h
      split
      · next fmt size hchunks =>
        rw [hchunks]
        constructor
        · intro hdoc
          split at hdoc
          · next hplayable =>
            exact ⟨h, fmt, size, ⟨_, rfl, rfl, rfl⟩, hplayable, (Option.some.inj hdoc).symm⟩
          · cases hdoc
        · rintro ⟨-, fmt', size', ⟨t, ht, hfmt, hsize⟩, hplayable, rfl⟩
          obtain rfl := Option.some.inj ht
          obtain rfl := Option.some.inj hfmt
          obtain rfl := Option.some.inj hsize
          exact if_pos hplayable
      · next hother =>
        refine iff_of_false nofun ?_
        rintro ⟨-, fmt, size, ⟨⟨count, metadata, _, _⟩, ht, rfl, rfl⟩, -⟩
        exact hother count metadata fmt size ht
  rw [hread]
  constructor
  · rintro ⟨hheader, fmt, size, hchunks, hplayable, rfl⟩
    obtain ⟨chunks, hwhole, hextra, hcount, hmetadata, hmains⟩ :=
      (readChunks_eq (by decide) (by decide)).mp hchunks
    obtain ⟨f, d, hmain, hkinds, hsixteen, rfl, rfl⟩ := mains_iff.mp hmains
    rw [Nat.zero_add] at hcount hmetadata
    exact ⟨chunks, f, d, ⟨hheader, hwhole, hmain, hkinds, hsixteen, hextra, hcount, hmetadata, hplayable⟩, rfl⟩
  · rintro ⟨chunks, f, d, h, rfl⟩
    refine ⟨h.header, f.body, d.body.length, ?_, h.playable, rfl⟩
    refine (readChunks_eq (by decide) (by decide)).mpr ⟨chunks, h.whole, h.extra, ?_, ?_, ?_⟩
    · rw [Nat.zero_add]
      exact h.count
    · rw [Nat.zero_add]
      exact h.metadata
    · exact mains_iff.mpr ⟨f, d, h.main, h.kinds, h.sixteen, rfl, rfl⟩

theorem Recording.items {content : List UInt8} {chunks : List Chunk} {f d : Piece}
    (h : Recording content chunks f d) {c : Chunk} (hmem : c ∈ chunks) :
    if c.1.kind = kindList then c.1.body = utf8 "INFO".toList ++ written c.2 else c.2 = [] := by
  have hne : kindJunk ≠ kindList := by decide
  split
  · next hlist =>
    rcases h.extra c hmem (by simp [isExtra, hlist]) with ⟨hjunk, -⟩ | ⟨-, hbody⟩
    · exact absurd (hjunk.symm.trans hlist) hne
    · exact hbody
  · next hlist =>
    cases hkind : isExtra c with
    | true => exact ((h.extra c hmem hkind).resolve_right fun hlist' => hlist hlist'.1).2
    | false =>
      have hmain : c ∈ [(f, []), (d, [])] := h.main ▸ List.mem_filter.mpr ⟨hmem, by simp [hkind]⟩
      obtain rfl | hmain := List.mem_cons.mp hmain
      · rfl
      · rw [List.mem_singleton.mp hmain]

theorem chunks_unique {content : List UInt8} {f d f' d' : Piece} {chunks chunks' : List Chunk}
    (h : Recording content chunks f d) (h' : Recording content chunks' f' d') :
    chunks = chunks' ∧ f = f' ∧ d = d' := by
  have hpieces := written_injective (h.whole.symm.trans h'.whole)
  have hchunks : chunks = chunks' := by
    refine List.ext_getElem (by simpa using congrArg List.length hpieces) fun i hi hi' => ?_
    have hpiece : chunks[i].1 = chunks'[i].1 := by
      have hget := congrArg (·[i]?) hpieces
      simpa [hi, hi'] using hget
    refine Prod.ext hpiece ?_
    have hitems := h.items (List.getElem_mem hi)
    have hitems' := h'.items (List.getElem_mem hi')
    rw [← hpiece] at hitems'
    split at hitems
    · next hlist =>
      rw [if_pos hlist] at hitems'
      exact written_injective (List.append_cancel_left (hitems.symm.trans hitems'))
    · next hlist =>
      rw [if_neg hlist] at hitems'
      exact hitems.trans hitems'.symm
  subst hchunks
  have hmain := h.main.symm.trans h'.main
  simpa using hmain

theorem AudioDocument.duration_le (sha256 : List UInt8 → String) (content : List UInt8) {f : Format}
    {size : Nat} (h : f.Playable size) : (AudioDocument.of sha256 content f size).durationMs ≤ 120000 := by
  obtain ⟨-, -, -, -, -, -, -, -, hframes⟩ := h
  exact Nat.div_le_of_le_mul (by omega)

theorem encodeAudioSegment_ne_none {s : Segment}
    (hid : fullmatch segmentPattern s.segmentId) (hnumber : (numbers s.segmentId).all (· ≤ 64))
    (htimes : Within 120000 s.startMs s.endMs) (hspan : Within 2000 s.start s.stop) :
    encodeAudioSegment s ≠ none := by
  have hscalar : ∀ member ∈ s.items, member.2.Scalar := by
    simp [Segment.items, Text.Item.Scalar, scalar_of_fullmatch hid]
  have hlength : s.segmentId.length ≤ 4 := length_of_fullmatch (by decide) hid
  have hfits : fits 256 (Text.dump s.items) = true := by
    refine fits_dump hscalar ?_
    obtain ⟨hstartMs, hms, hendMs⟩ := htimes
    obtain ⟨hstart, hchars, hstop⟩ := hspan
    have hsegment := Json.textWeight_le (String.ofList s.segmentId.toChars)
    have h₁ := weight_int (k := 6) (n := s.startMs) (by decide) hstartMs (by omega)
    have h₂ := weight_int (k := 6) (n := s.endMs) (by decide) (by omega) (by omega)
    have h₃ := weight_int (k := 4) (n := s.start) (by decide) hstart (by omega)
    have h₄ := weight_int (k := 4) (n := s.stop) (by decide) (by omega) (by omega)
    have hkeys : Json.textWeight "segment" = 9 ∧ Json.textWeight "start_ms" = 10 ∧
        Json.textWeight "end_ms" = 8 ∧ Json.textWeight "start" = 7 ∧ Json.textWeight "end" = 5 := by decide
    rw [String.toList_ofList, Text.length_toChars (scalar_of_fullmatch hid)] at hsegment
    simp only [Segment.items, Text.value, Text.Item.json, List.map_cons, List.map_nil, Json.weight,
      Json.membersWeight, hkeys, JsonNumber.chars]
    omega
  rw [encodeAudioSegment, if_pos ⟨hid, hnumber, htimes, hspan, hfits⟩]
  exact Option.some_ne_none _

/-- The accepted bytes are the recordings, each of which is its chunks in one way. The duration is that of
the frames, rounded down, and the times within it are no reason to refuse a segment. -/
theorem read_wav_spec (sha256 : List UInt8 → String) (content : List UInt8) :
    (∀ doc, readWav sha256 content = some doc ↔ ∃ chunks f d, Recording content chunks f d ∧
      doc = .of sha256 content (.of f.body) d.body.length) ∧
    (∀ chunks f d chunks' f' d', Recording content chunks f d → Recording content chunks' f' d' →
      chunks = chunks' ∧ f = f' ∧ d = d') ∧
    ∀ chunks f d doc, Recording content chunks f d → readWav sha256 content = some doc →
      doc.durationMs = d.body.length / (2 * doc.channels) * 1000 / doc.sampleRate ∧
      ∀ s : Segment, Within doc.durationMs s.startMs s.endMs →
        (encodeAudioSegment s ≠ none ↔ fullmatch segmentPattern s.segmentId ∧
          (numbers s.segmentId).all (· ≤ 64) ∧ Within 2000 s.start s.stop) := by
  refine ⟨fun doc => readWav_eq, fun _ _ _ _ _ _ => chunks_unique, fun chunks f d doc h hdoc => ?_⟩
  obtain ⟨chunks', f', d', h', rfl⟩ := readWav_eq.mp hdoc
  obtain ⟨rfl, rfl, rfl⟩ := chunks_unique h h'
  obtain ⟨-, -, -, -, halignment, -⟩ := id h.playable
  refine ⟨by simp only [AudioDocument.of, halignment, Nat.mul_comm 2], fun s hs => ?_⟩
  have htimes : Within 120000 s.startMs s.endMs := by
    have hduration := AudioDocument.duration_le sha256 content h.playable
    exact ⟨hs.1, hs.2.1, hs.2.2.trans (by exact_mod_cast hduration)⟩
  constructor
  · intro hne
    by_contra hinvalid
    rw [encodeAudioSegment, if_neg fun h => hinvalid ⟨h.1, h.2.1, h.2.2.2.1⟩] at hne
    exact hne rfl
  · rintro ⟨hid, hnumber, hspan⟩
    exact encodeAudioSegment_ne_none hid hnumber htimes hspan

end DaonUser.Sources
