import DaonUser.WebsiteFetch.Wire

/-!
# Fetching a website: which bodies are returned

A chunked body is a list of chunks, each with its size in hexadecimal digits, and a last size of zero. The
reader takes lines of up to eight bytes for the sizes, so that it takes every chunked body whose sizes have up
to six digits, and no other (`body_exact`).
-/

namespace DaonUser.WebsiteFetch

open Lib

/-! ## Chunked bodies -/

structure Chunk where
  size : Bytes
  data : Bytes
  hex : IsHex size
  sized : hexNumber size = data.length
  nonempty : data ≠ []

def Chunk.bytes (chunk : Chunk) : Bytes := chunk.size ++ crlf ++ (chunk.data ++ crlf)

structure ChunkedBody where
  chunks : List Chunk
  last : Bytes
  hex : IsHex last
  zero : hexNumber last = 0

namespace ChunkedBody

variable (c : ChunkedBody)

def bytes : Bytes := c.chunks.flatMap Chunk.bytes ++ (c.last ++ crlf ++ crlf)

def decoded : Bytes := c.chunks.flatMap Chunk.data

/-- The sizes are below `16 ^ 6`. -/
def Small : Prop := ∀ chunk ∈ c.chunks, hexNumber chunk.size < 16 ^ 6

/-- The sizes have up to six digits. -/
def Short : Prop := (∀ chunk ∈ c.chunks, chunk.size.length ≤ 6) ∧ c.last.length ≤ 6

def cons (chunk : Chunk) : ChunkedBody := { c with chunks := chunk :: c.chunks }

theorem bytes_cons (chunk : Chunk) : (c.cons chunk).bytes = chunk.bytes ++ c.bytes := by
  rw [bytes, cons, List.flatMap_cons, List.append_assoc]
  rfl

theorem decoded_cons (chunk : Chunk) : (c.cons chunk).decoded = chunk.data ++ c.decoded := by
  rw [decoded, cons, List.flatMap_cons]
  rfl

end ChunkedBody

theorem takeLine_eq_ok {maxLineBytes : Nat} {result read rest s : Bytes}
    (h : takeLine maxLineBytes result s = .ok (read, rest)) :
    result ++ s = read ++ rest ∧ (∃ content, read = content ++ crlf) ∧ read.length ≤ maxLineBytes := by
  induction s generalizing result with
  | nil => cases h
  | cons b s ih =>
    rw [takeLine] at h
    split at h
    · cases h
    next hshort =>
    split at h
    · split at h
      · next hsuffix =>
        obtain ⟨rfl, rfl⟩ := Prod.mk.inj (Except.ok.inj h)
        obtain ⟨content, hcontent⟩ := List.isSuffixOf_iff_suffix.1 hsuffix
        refine ⟨by simp, ⟨content, hcontent.symm⟩, ?_⟩
        rw [List.length_append, List.length_singleton]
        omega
      · cases h
    · obtain ⟨hwhole, hline⟩ := ih h
      exact ⟨by rw [← hwhole, List.append_assoc]; rfl, hline⟩

theorem takeLine_line {maxLineBytes : Nat} {result content : Bytes} (hfeed : 10 ∉ content)
    (hlength : result.length + content.length + 2 ≤ maxLineBytes) (rest : Bytes) :
    takeLine maxLineBytes result (content ++ crlf ++ rest) = .ok (result ++ content ++ crlf, rest) := by
  induction content generalizing result with
  | nil =>
    rw [List.length_nil] at hlength
    have hreturn : ¬maxLineBytes ≤ (result ++ [13]).length := by
      rw [List.length_append, List.length_singleton]
      omega
    have hsuffix : crlf.isSuffixOf (result ++ [13] ++ [10]) = true :=
      List.isSuffixOf_iff_suffix.2 ⟨result, by simp [crlf]⟩
    rw [List.nil_append, crlf, List.cons_append, List.cons_append, List.nil_append, takeLine,
      if_neg (by omega), if_neg (by decide), takeLine, if_neg hreturn, if_pos rfl, if_pos hsuffix]
    simp
  | cons b content ih =>
    obtain ⟨hb, hcontent⟩ := not_or.1 (mt List.mem_cons.2 hfeed)
    rw [List.length_cons] at hlength
    rw [List.cons_append, List.cons_append, takeLine, if_neg (by omega), if_neg fun h => hb h.symm,
      ih hcontent (by rw [List.length_append, List.length_singleton]; omega)]
    simp

theorem not_mem_of_isHex {text : Bytes} (h : IsHex text) : 10 ∉ text := by
  intro hmem
  exact absurd (h.2 10 hmem) (by decide)

theorem take_line (content : Bytes) :
    (content ++ crlf).take ((content ++ crlf).length - 2) = content := by
  have hlength : (content ++ crlf).length - 2 = content.length := by
    rw [List.length_append]
    rfl
  rw [hlength, List.take_left]

theorem takeExact_eq_ok {count : Nat} {data : { data : Bytes // data.length = count }} {rest s : Bytes} :
    takeExact count s = .ok (data, rest) ↔ s = data.1 ++ rest := by
  unfold takeExact
  constructor
  · intro h
    split at h
    · obtain ⟨rfl, rfl⟩ := Prod.mk.inj (Except.ok.inj h)
      exact (List.take_append_drop _ _).symm
    · cases h
  · rintro rfl
    have htake : (data.1 ++ rest).take count = data.1 := List.take_left' data.2
    have hdrop : (data.1 ++ rest).drop count = rest := List.drop_left' data.2
    rw [dif_pos (by rw [List.length_append, data.2]; omega)]
    exact congrArg Except.ok (Prod.ext (Subtype.ext htake) hdrop)

theorem takeChunks_eq_ok {maxBytes : Nat} {result b rest s : Bytes} (hfits : result.length ≤ maxBytes)
    (h : takeChunks maxBytes result s = .ok (b, rest)) :
    ∃ c : ChunkedBody, c.Short ∧ s = c.bytes ++ rest ∧ b = result ++ c.decoded ∧ b.length ≤ maxBytes := by
  induction hleft : maxBytes - result.length using Nat.strong_induction_on generalizing result s with
  | _ left ih =>
    rw [takeChunks] at h
    obtain ⟨read, after, hread, h⟩ := Takes.bind_eq_ok.1 h
    obtain ⟨hwhole, ⟨size, rfl⟩, -⟩ := takeLine_eq_ok hread
    rw [List.nil_append] at hwhole
    simp only [take_line] at h
    by_cases hhex : IsHex size
    swap
    · rw [if_pos hhex] at h
      exact absurd h Takes.raise_ne_ok
    rw [if_neg (not_not.2 hhex)] at h
    by_cases hdigits : 6 < size.length
    · rw [if_pos hdigits] at h
      exact absurd h Takes.raise_ne_ok
    rw [if_neg hdigits] at h
    by_cases hlarge : maxBytes - result.length < hexNumber size
    · rw [if_pos hlarge] at h
      exact absurd h Takes.raise_ne_ok
    rw [if_neg hlarge] at h
    by_cases hcount : hexNumber size = 0
    · rw [if_pos hcount] at h
      obtain ⟨trailer, after', htrailer, h⟩ := Takes.bind_eq_ok.1 h
      by_cases hend : trailer = crlf
      · rw [if_neg (not_not.2 hend)] at h
        obtain ⟨rfl, rfl⟩ := Prod.mk.inj (Except.ok.inj h)
        obtain ⟨hafter, -, -⟩ := takeLine_eq_ok htrailer
        rw [List.nil_append, hend] at hafter
        refine ⟨⟨[], size, hhex, hcount⟩, ⟨by simp, not_lt.1 hdigits⟩, ?_, by simp [ChunkedBody.decoded],
          hfits⟩
        rw [hwhole, hafter]
        simp [ChunkedBody.bytes]
      · rw [if_pos hend] at h
        exact absurd h Takes.raise_ne_ok
    · rw [if_neg hcount] at h
      obtain ⟨data, after₁, hdata, h⟩ := Takes.bind_eq_ok.1 h
      obtain ⟨ending, after₂, hending, h⟩ := Takes.bind_eq_ok.1 h
      rw [takeExact_eq_ok] at hdata hending
      have hlength : data.1.length = hexNumber size := by rw [data.2, take_line]
      by_cases hend : ending.1 = crlf
      · rw [if_neg (not_not.2 hend)] at h
        have hnext : (result ++ data.1).length ≤ maxBytes := by
          rw [List.length_append, hlength]
          omega
        obtain ⟨c, hshort, hbytes, hdecoded, hbound⟩ :=
          ih _ (by rw [List.length_append, hlength]; omega) hnext h rfl
        have hne : data.1 ≠ [] := by
          intro hnil
          rw [hnil] at hlength
          exact hcount hlength.symm
        refine ⟨c.cons ⟨size, data.1, hhex, hlength.symm, hne⟩, ?_, ?_, ?_, hbound⟩
        · exact ⟨List.forall_mem_cons.2 ⟨not_lt.1 hdigits, hshort.1⟩, hshort.2⟩
        · rw [c.bytes_cons, hwhole, hdata, hending, hend, hbytes]
          simp [Chunk.bytes]
        · rw [c.decoded_cons, hdecoded, List.append_assoc]
      · rw [if_pos hend] at h
        exact absurd h Takes.raise_ne_ok

theorem takeLine_size {size : Bytes} (hhex : IsHex size) (hdigits : size.length ≤ 6) (rest : Bytes) :
    takeLine 8 [] (size ++ crlf ++ rest) = .ok (size ++ crlf, rest) := by
  have hread := takeLine_line (not_mem_of_isHex hhex)
    (show ([] : Bytes).length + size.length + 2 ≤ 8 by rw [List.length_nil]; omega) rest
  rwa [List.nil_append] at hread

theorem takeChunks_bytes {maxBytes : Nat} {chunks : List Chunk} {last : Bytes} (hhex : IsHex last)
    (hzero : hexNumber last = 0) (hshort : (ChunkedBody.mk chunks last hhex hzero).Short)
    {result : Bytes}
    (hfits : result.length + (ChunkedBody.mk chunks last hhex hzero).decoded.length ≤ maxBytes)
    (rest : Bytes) :
    takeChunks maxBytes result ((ChunkedBody.mk chunks last hhex hzero).bytes ++ rest) =
      .ok (result ++ (ChunkedBody.mk chunks last hhex hzero).decoded, rest) := by
  induction chunks generalizing result with
  | nil =>
    have hbytes : (ChunkedBody.mk [] last hhex hzero).bytes ++ rest =
        last ++ crlf ++ ([] ++ crlf ++ rest) := by
      simp [ChunkedBody.bytes]
    have hend : takeLine maxHeaders [] ([] ++ crlf ++ rest) = .ok (crlf, rest) :=
      takeLine_line List.not_mem_nil (by decide) rest
    rw [takeChunks, hbytes]
    refine Takes.bind_eq_ok.2 ⟨_, _, takeLine_size hhex hshort.2 _, ?_⟩
    simp only [take_line]
    rw [if_neg (not_not.2 hhex), if_neg (not_lt.2 hshort.2), if_neg (by omega), if_pos hzero]
    refine Takes.bind_eq_ok.2 ⟨_, _, hend, ?_⟩
    rw [if_neg (not_not.2 rfl)]
    exact congrArg (fun b => Except.ok (b, rest)) (List.append_nil result).symm
  | cons chunk chunks ih =>
    have hdigits := hshort.1 chunk List.mem_cons_self
    have hbytes : (ChunkedBody.mk (chunk :: chunks) last hhex hzero).bytes ++ rest =
        chunk.size ++ crlf ++ (chunk.data ++ (crlf ++
          ((ChunkedBody.mk chunks last hhex hzero).bytes ++ rest))) := by
      have hcons := (ChunkedBody.mk chunks last hhex hzero).bytes_cons chunk
      rw [show (ChunkedBody.mk (chunk :: chunks) last hhex hzero).bytes = _ from hcons]
      simp [Chunk.bytes]
    have hdecoded : (ChunkedBody.mk (chunk :: chunks) last hhex hzero).decoded =
        chunk.data ++ (ChunkedBody.mk chunks last hhex hzero).decoded :=
      (ChunkedBody.mk chunks last hhex hzero).decoded_cons chunk
    rw [hdecoded, List.length_append] at hfits
    have hpos : 0 < chunk.data.length := List.length_pos_of_ne_nil chunk.nonempty
    have hlength : chunk.data.length =
        hexNumber ((chunk.size ++ crlf).take ((chunk.size ++ crlf).length - 2)) := by
      rw [take_line, chunk.sized]
    have hsized := chunk.sized
    have hroom : (result ++ chunk.data).length +
        (ChunkedBody.mk chunks last hhex hzero).decoded.length ≤ maxBytes := by
      rw [List.length_append]
      omega
    have hnext := ih ⟨fun other hother => hshort.1 other (List.mem_cons_of_mem _ hother), hshort.2⟩ hroom
    rw [takeChunks, hbytes, hdecoded]
    refine Takes.bind_eq_ok.2 ⟨_, _, takeLine_size chunk.hex hdigits _, ?_⟩
    simp only [take_line]
    rw [if_neg (not_not.2 chunk.hex), if_neg (not_lt.2 hdigits), if_neg (by omega), if_neg (by omega)]
    refine Takes.bind_eq_ok.2 ⟨⟨chunk.data, hlength⟩, _, takeExact_eq_ok.2 rfl, ?_⟩
    refine Takes.bind_eq_ok.2 ⟨⟨crlf, rfl⟩, _, takeExact_eq_ok.2 rfl, ?_⟩
    rw [if_neg (not_not.2 rfl), hnext, List.append_assoc]

/-! ## Bodies -/

inductive Framed (headers : Headers) (stream : Bytes) : Bytes → Prop
  | length {value : String} {b rest : Bytes} (header : headers.values.get? "content-length" = some value)
      (decimal : IsDecimal value) (size : decimalNumber value = b.length) (starts : stream = b ++ rest) :
      Framed headers stream b
  | chunked {value : String} {rest : Bytes} (c : ChunkedBody)
      (absent : headers.values.get? "content-length" = none)
      (header : headers.values.get? "transfer-encoding" = some value) (known : lower value = "chunked")
      (starts : stream = c.bytes ++ rest) : Framed headers stream c.decoded
  | close (absent : headers.values.get? "content-length" = none)
      (plain : headers.values.get? "transfer-encoding" = none) : Framed headers stream stream

structure Headers.Chunked (headers : Headers) : Prop where
  identity : lower ((headers.values.get? "content-encoding").getD "identity") = "identity"
  absent : headers.values.get? "content-length" = none
  chunked : ∃ value, headers.values.get? "transfer-encoding" = some value ∧ lower value = "chunked"

theorem takeBody_eq_ok {headers : Headers} {maxBytes : Nat} {stream b rest : Bytes}
    (h : takeBody headers maxBytes stream = .ok (b, rest)) :
    Framed headers stream b ∧ b.length ≤ maxBytes := by
  unfold takeBody at h
  by_cases hidentity : lower ((headers.values.get? "content-encoding").getD "identity") = "identity"
  swap
  · rw [if_pos hidentity] at h
    exact absurd h Takes.raise_ne_ok
  rw [if_neg (not_not.2 hidentity)] at h
  split at h
  · exact absurd h Takes.raise_ne_ok
  next hencoding =>
  cases hlength : headers.values.get? "content-length" with
  | some length =>
    rw [hlength] at h
    dsimp only at h
    by_cases hdecimal : IsDecimal length
    swap
    · rw [if_pos hdecimal] at h
      exact absurd h Takes.raise_ne_ok
    rw [if_neg (not_not.2 hdecimal)] at h
    split at h
    · exact absurd h Takes.raise_ne_ok
    next hbound =>
    obtain ⟨data, after, hdata, h⟩ := Takes.bind_eq_ok.1 h
    obtain ⟨rfl, rfl⟩ := Prod.mk.inj (Except.ok.inj h)
    refine ⟨.length hlength hdecimal data.2.symm (takeExact_eq_ok.1 hdata), ?_⟩
    have hsize := data.2
    omega
  | none =>
    rw [hlength] at h
    dsimp only at h
    cases hvalue : headers.values.get? "transfer-encoding" with
    | some value =>
      rw [hvalue, Option.isSome_some, if_pos rfl] at h
      obtain ⟨c, -, hstream, rfl, hbound⟩ := takeChunks_eq_ok (Nat.zero_le _) h
      rw [hvalue, hlength] at hencoding
      exact ⟨.chunked c hlength hvalue (by simpa using hencoding) hstream, hbound⟩
    | none =>
      rw [hvalue, Option.isSome_none, if_neg Bool.false_ne_true, takeAll] at h
      split at h
      · next hbound =>
        obtain ⟨rfl, rfl⟩ := Prod.mk.inj (Except.ok.inj h)
        rw [List.nil_append]
        exact ⟨.close hlength hvalue, by rwa [List.length_nil, Nat.zero_add] at hbound⟩
      · cases h

theorem takeBody_chunked {headers : Headers} (h : headers.Chunked) (maxBytes : Nat) :
    takeBody headers maxBytes = takeChunks maxBytes [] := by
  obtain ⟨value, hvalue, hknown⟩ := h.chunked
  have hencoding : (headers.values.get? "transfer-encoding").any (fun encoding =>
      lower encoding ≠ "chunked" || (headers.values.get? "content-length").isSome) = false := by
    rw [hvalue, h.absent]
    simp [hknown]
  rw [takeBody, if_neg (not_not.2 h.identity), if_neg (Bool.eq_false_iff.1 hencoding), h.absent, hvalue]
  rfl

/-- A body that is returned is framed and within the limit, how the stream is cut into pieces does not matter,
and every chunked body is decoded whose sizes have up to six digits. -/
theorem body_exact (headers : Headers) (maxBytes : Nat) (stream : Bytes) :
    (∀ net b w, body headers maxBytes net ⟨stream, 0⟩ = .ok (b, w) →
      Framed headers stream b ∧ b.length ≤ maxBytes) ∧
    (∀ net net' : Network Exn, net'.Faultless →
      (body headers maxBytes net ⟨stream, 0⟩).map (·.1) =
          (body headers maxBytes net' ⟨stream, 0⟩).map (·.1) ∨
        ∃ k e, net k = .error e ∧ body headers maxBytes net ⟨stream, 0⟩ = .error e) ∧
    ∀ (c : ChunkedBody) (rest : Bytes), stream = c.bytes ++ rest → headers.Chunked → c.Short →
      c.decoded.length ≤ maxBytes → ∀ net : Network Exn, net.Faultless →
        (body headers maxBytes net ⟨stream, 0⟩).map (·.1) = .ok c.decoded := by
  refine ⟨?_, ?_, ?_⟩
  · intro net b w hrun
    exact takeBody_eq_ok ((agrees_body headers maxBytes).ok hrun)
  · intro net net' hnet'
    exact (agrees_body headers maxBytes).same hnet' stream
  · rintro c rest rfl hheaders hshort hfits net hnet
    have hwhole : takeBody headers maxBytes (c.bytes ++ rest) = .ok ([] ++ c.decoded, rest) := by
      rw [takeBody_chunked hheaders]
      exact takeChunks_bytes c.hex c.zero hshort (by rwa [List.length_nil, Nat.zero_add]) rest
    have hrun := (agrees_body headers maxBytes).faultless hnet ⟨c.bytes ++ rest, 0⟩
    rw [hwhole] at hrun
    cases hbody : body headers maxBytes net ⟨c.bytes ++ rest, 0⟩ with
    | error e =>
      rw [hbody] at hrun
      cases hrun
    | ok out =>
      rw [hbody] at hrun
      exact congrArg Except.ok (congrArg Prod.fst (Except.ok.inj hrun))

namespace Sample

def headers : Headers where
  values := Dict.empty.set "transfer-encoding" "chunked"
  printable := by
    intro name value h
    have hvalue : value = "chunked" := by
      rcases Dict.of_get?_set h with h | h
      · cases h
      · exact h.2
    rw [hvalue]
    simp

/-- `0000001`, one byte, and the end. -/
def padded : ChunkedBody where
  chunks := [⟨[48, 48, 48, 48, 48, 48, 49], [97], by decide, by decide, by decide⟩]
  last := [48]
  hex := by decide
  zero := by decide

end Sample

theorem padded_size_refused :
    ¬∀ (headers : Headers) (maxBytes : Nat) (c : ChunkedBody) (rest : Bytes) (net : Network Exn),
      headers.Chunked → c.Small → c.decoded.length ≤ maxBytes → net.Faultless →
        (body headers maxBytes net ⟨c.bytes ++ rest, 0⟩).map (·.1) = .ok c.decoded := by
  intro h
  have hheaders : Sample.headers.Chunked := ⟨by decide, by decide, "chunked", by decide, by decide⟩
  have hrun := h Sample.headers 1 Sample.padded [] (fun _ => .ok 0) hheaders
    (by unfold ChunkedBody.Small; decide) (by decide) fun _ => ⟨0, rfl⟩
  cases hbody : body Sample.headers 1 (fun _ => .ok 0) ⟨Sample.padded.bytes ++ [], 0⟩ with
  | error e =>
    rw [hbody] at hrun
    cases hrun
  | ok out =>
    have hwhole := (agrees_body Sample.headers 1).ok hbody
    rw [takeBody_chunked hheaders, takeChunks] at hwhole
    obtain ⟨read, after, hread, -⟩ := Takes.bind_eq_ok.1 hwhole
    have hlong : (takeLine 8 [] (Sample.padded.bytes ++ [])).isOk = false := by decide
    rw [show takeLine 8 [] (Sample.padded.bytes ++ []) = _ from hread] at hlong
    cases hlong

end DaonUser.WebsiteFetch
