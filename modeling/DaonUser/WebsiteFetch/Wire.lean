import DaonUser.Lib.Dict
import DaonUser.Lib.Pieces
import Mathlib.Data.String.Basic

/-!
# Fetching a website: the body of a response

`_WireReader` reads from a socket that delivers as many bytes at a time as it likes, and may time out or
fail at any call. Its loops are `Reads` programs, and each agrees with what a reader would do that has the
whole stream (`agrees_body`). `body_exact` says what a body is that is returned, and which chunked bodies
are.
-/

namespace DaonUser.WebsiteFetch

open Lib

abbrev Bytes := List UInt8

/-- A `WebsiteFetchError` with its code, or an error of the socket. -/
inductive Exn where
  | website (code : String)
  | other
  deriving DecidableEq

def fetchFailed : Exn := .website "WEBSITE_FETCH_FAILED"

def contentTooLarge : Exn := .website "WEBSITE_CONTENT_TOO_LARGE"

def maxHeaders : Nat := 16384

/-- `b'\r\n'`. -/
def crlf : Bytes := [13, 10]

/-- The headers as `checked_headers` leaves them. -/
structure Headers where
  values : Dict String String
  printable : ∀ name value, values.get? name = some value → ∀ c ∈ value.toList, 32 ≤ c.toNat ∧ c.toNat ≤ 126

/-- `str.lower`, of printable ASCII. -/
def lower (s : String) : String := String.ofList (s.toList.map Char.toLower)

/-! ## Numbers -/

def hexDigit? (b : UInt8) : Option Nat :=
  let n := b.toNat
  if 48 ≤ n ∧ n ≤ 57 then some (n - 48)
  else if 65 ≤ n ∧ n ≤ 70 then some (n - 55)
  else if 97 ≤ n ∧ n ≤ 102 then some (n - 87)
  else none

/-- `re.fullmatch(rb'[0-9A-Fa-f]+', text)`. -/
def IsHex (text : Bytes) : Prop := text ≠ [] ∧ ∀ b ∈ text, (hexDigit? b).isSome = true

instance (text : Bytes) : Decidable (IsHex text) :=
  decidable_of_iff (text ≠ [] ∧ text.all (fun b => (hexDigit? b).isSome) = true) <|
    and_congr_right' List.all_eq_true

/-- `int(text, 16)`. -/
def hexNumber (text : Bytes) : Nat := text.foldl (fun n b => 16 * n + (hexDigit? b).getD 0) 0

/-- `re.fullmatch(r'[0-9]+', text)`. -/
def IsDecimal (text : String) : Prop := text.toList ≠ [] ∧ text.toList.all Char.isDigit = true

instance (text : String) : Decidable (IsDecimal text) := inferInstanceAs (Decidable (_ ∧ _))

/-- `int(text)`. -/
def decimalNumber (text : String) : Nat := Nat.ofDigitChars 10 text.toList 0

/-- `line(header=False, max_line_bytes=maxLineBytes)`, after some bytes. -/
def line (maxLineBytes : Nat) (result : Bytes) : Reads Exn UInt8 Bytes :=
  if maxLineBytes ≤ result.length then Reads.raise contentTooLarge
  else do
    let piece ← recv 1
    if piece.1 = [] then Reads.raise fetchFailed
    else if piece.1 = [10] then
      if crlf.isSuffixOf (result ++ piece.1) then pure (result ++ piece.1) else Reads.raise fetchFailed
    else line maxLineBytes (result ++ piece.1)
termination_by maxLineBytes - result.length
decreasing_by
  rename_i hlong hne _
  have hpos := List.length_pos_of_ne_nil hne
  rw [List.length_append]
  omega

/-- `exact`, after some bytes. -/
def exact (count : Nat) (result : { data : Bytes // data.length ≤ count }) :
    Reads Exn UInt8 { data : Bytes // data.length = count } :=
  if h : result.1.length < count then do
    let piece ← recv (min 4096 (count - result.1.length))
    if piece.1 = [] then Reads.raise fetchFailed
    else exact count ⟨result.1 ++ piece.1, by
      have hpiece := piece.2
      rw [List.length_append]
      omega⟩
  else pure ⟨result.1, Nat.le_antisymm result.2 (not_lt.1 h)⟩
termination_by count - result.1.length
decreasing_by
  rename_i hne
  have hpos := List.length_pos_of_ne_nil hne
  rw [List.length_append]
  omega

def chunks (maxBytes : Nat) (result : Bytes) : Reads Exn UInt8 Bytes := do
  let read ← line 8 []
  let size := read.take (read.length - 2)
  if ¬IsHex size then Reads.raise fetchFailed
  else if 6 < size.length then Reads.raise contentTooLarge
  else if maxBytes - result.length < hexNumber size then Reads.raise contentTooLarge
  else if hexNumber size = 0 then do
    let trailer ← line maxHeaders []
    if trailer ≠ crlf then Reads.raise fetchFailed else pure result
  else do
    let data ← exact (hexNumber size) ⟨[], Nat.zero_le _⟩
    let ending ← exact 2 ⟨[], Nat.zero_le _⟩
    if ending.1 ≠ crlf then Reads.raise fetchFailed
    else chunks maxBytes (result ++ data.1)
termination_by maxBytes - result.length
decreasing_by
  rw [List.length_append, data.2]
  omega

def untilClose (maxBytes : Nat) (result : Bytes) : Reads Exn UInt8 Bytes := do
  let piece ← recv (min 4096 (maxBytes - result.length + 1))
  if piece.1 = [] then pure result
  else if maxBytes - result.length < piece.1.length then Reads.raise contentTooLarge
  else untilClose maxBytes (result ++ piece.1)
termination_by maxBytes - result.length
decreasing_by
  rename_i hne hlong
  have hpos := List.length_pos_of_ne_nil hne
  rw [List.length_append]
  omega

def body (headers : Headers) (maxBytes : Nat) : Reads Exn UInt8 Bytes :=
  if lower ((headers.values.get? "content-encoding").getD "identity") ≠ "identity" then
    Reads.raise (.website "WEBSITE_MEDIA_UNSUPPORTED")
  else if (headers.values.get? "transfer-encoding").any (fun encoding =>
      lower encoding ≠ "chunked" || (headers.values.get? "content-length").isSome) then
    Reads.raise fetchFailed
  else match headers.values.get? "content-length" with
    | some length =>
      if ¬IsDecimal length then Reads.raise fetchFailed
      else if 7 < length.toList.length ∨ maxBytes < decimalNumber length then Reads.raise contentTooLarge
      else do
        let data ← exact (decimalNumber length) ⟨[], Nat.zero_le _⟩
        return data.1
    | none =>
      -- an encoding that passed is not empty
      if (headers.values.get? "transfer-encoding").isSome then chunks maxBytes []
      else untilClose maxBytes []

def takeLine (maxLineBytes : Nat) (result : Bytes) : Takes Exn UInt8 Bytes := fun
  | [] => .error (if maxLineBytes ≤ result.length then contentTooLarge else fetchFailed)
  | b :: rest =>
    if maxLineBytes ≤ result.length then .error contentTooLarge
    else if b = 10 then
      if crlf.isSuffixOf (result ++ [b]) then .ok (result ++ [b], rest) else .error fetchFailed
    else takeLine maxLineBytes (result ++ [b]) rest

def takeExact (count : Nat) : Takes Exn UInt8 { data : Bytes // data.length = count } := fun s =>
  if h : count ≤ s.length then .ok (⟨s.take count, List.length_take_of_le h⟩, s.drop count)
  else .error fetchFailed

def takeChunks (maxBytes : Nat) (result : Bytes) : Takes Exn UInt8 Bytes := do
  let read ← takeLine 8 []
  let size := read.take (read.length - 2)
  if ¬IsHex size then Takes.raise fetchFailed
  else if 6 < size.length then Takes.raise contentTooLarge
  else if maxBytes - result.length < hexNumber size then Takes.raise contentTooLarge
  else if hexNumber size = 0 then do
    let trailer ← takeLine maxHeaders []
    if trailer ≠ crlf then Takes.raise fetchFailed else pure result
  else do
    let data ← takeExact (hexNumber size)
    let ending ← takeExact 2
    if ending.1 ≠ crlf then Takes.raise fetchFailed
    else takeChunks maxBytes (result ++ data.1)
termination_by maxBytes - result.length
decreasing_by
  rw [List.length_append, data.2]
  omega

def takeAll (maxBytes : Nat) (result : Bytes) : Takes Exn UInt8 Bytes := fun s =>
  if result.length + s.length ≤ maxBytes then .ok (result ++ s, []) else .error contentTooLarge

def takeBody (headers : Headers) (maxBytes : Nat) : Takes Exn UInt8 Bytes :=
  if lower ((headers.values.get? "content-encoding").getD "identity") ≠ "identity" then
    Takes.raise (.website "WEBSITE_MEDIA_UNSUPPORTED")
  else if (headers.values.get? "transfer-encoding").any (fun encoding =>
      lower encoding ≠ "chunked" || (headers.values.get? "content-length").isSome) then
    Takes.raise fetchFailed
  else match headers.values.get? "content-length" with
    | some length =>
      if ¬IsDecimal length then Takes.raise fetchFailed
      else if 7 < length.toList.length ∨ maxBytes < decimalNumber length then Takes.raise contentTooLarge
      else do
        let data ← takeExact (decimalNumber length)
        return data.1
    | none =>
      if (headers.values.get? "transfer-encoding").isSome then takeChunks maxBytes []
      else takeAll maxBytes []

/-! ## Agreement -/

theorem agrees_line (maxLineBytes : Nat) (result : Bytes) :
    Agrees (line maxLineBytes result) (takeLine maxLineBytes result) := by
  induction hleft : maxLineBytes - result.length generalizing result with
  | zero =>
    have hlong : maxLineBytes ≤ result.length := by omega
    intro net w
    rw [line, if_pos hlong]
    refine Or.inl ?_
    cases hrest : w.rest with
    | nil => rw [takeLine, if_pos hlong]; rfl
    | cons b rest => rw [takeLine, if_pos hlong]; rfl
  | succ left ih =>
    have hshort : ¬maxLineBytes ≤ result.length := by omega
    rw [line, if_neg hshort]
    refine Agrees.recv (by decide) ?_ ?_
    · intro net n
      refine Or.inl ?_
      rw [if_pos rfl, takeLine, if_neg hshort]
      rfl
    · rintro ⟨piece, hsize⟩ hne net w
      obtain ⟨b, rfl⟩ : ∃ b, piece = [b] := by
        refine List.length_eq_one_iff.1 (Nat.le_antisymm hsize ?_)
        exact List.length_pos_of_ne_nil hne
      rw [if_neg hne, List.cons_append, List.nil_append, takeLine, if_neg hshort]
      by_cases hend : b = 10
      · rw [if_pos (congrArg (fun b => [b]) hend), if_pos hend]
        exact Or.inl (by split <;> rfl)
      · rw [if_neg fun h => hend (List.cons.inj h).1, if_neg hend]
        exact ih _ (by rw [List.length_append, List.length_singleton]; omega) net w

def takeFrom (count : Nat) (result : { data : Bytes // data.length ≤ count }) :
    Takes Exn UInt8 { data : Bytes // data.length = count } := fun s =>
  if h : count - result.1.length ≤ s.length then
    .ok (⟨result.1 ++ s.take (count - result.1.length), by
      have hresult := result.2
      rw [List.length_append, List.length_take_of_le h, Nat.add_sub_cancel' hresult]⟩,
      s.drop (count - result.1.length))
  else .error fetchFailed

theorem takeFrom_append {count : Nat} {result : { data : Bytes // data.length ≤ count }} {piece : Bytes}
    (h : (result.1 ++ piece).length ≤ count) (s : Bytes) :
    takeFrom count result (piece ++ s) = takeFrom count ⟨result.1 ++ piece, h⟩ s := by
  have hlength := h
  rw [List.length_append] at hlength
  have hleft : count - result.1.length = piece.length + (count - (result.1 ++ piece).length) := by
    rw [List.length_append]
    omega
  have hcond : count - result.1.length ≤ (piece ++ s).length ↔
      count - (result.1 ++ piece).length ≤ s.length := by
    rw [List.length_append, List.length_append]
    omega
  unfold takeFrom
  by_cases hs : count - (result.1 ++ piece).length ≤ s.length
  · rw [dif_pos (hcond.2 hs), dif_pos hs]
    simp only [hleft, List.take_length_add_append, List.drop_length_add_append, List.append_assoc]
  · rw [dif_neg (mt hcond.1 hs), dif_neg hs]

theorem agrees_exact (count : Nat) (result : { data : Bytes // data.length ≤ count }) :
    Agrees (exact count result) (takeFrom count result) := by
  induction hleft : count - result.1.length using Nat.strong_induction_on generalizing result with
  | _ left ih =>
    by_cases hless : result.1.length < count
    · rw [exact, dif_pos hless]
      refine Agrees.recv (by omega) ?_ ?_
      · intro net n
        refine Or.inl ?_
        rw [if_pos rfl, takeFrom, dif_neg (by rw [List.length_nil]; omega)]
        rfl
      · rintro ⟨piece, hsize⟩ hne net w
        have hpos : 0 < piece.length := List.length_pos_of_ne_nil hne
        have hlength : (result.1 ++ piece).length ≤ count := by
          rw [List.length_append]
          omega
        rw [if_neg hne, takeFrom_append hlength]
        exact ih _ (by rw [List.length_append]; omega) ⟨result.1 ++ piece, hlength⟩ rfl net w
    · have hnone : count - result.1.length = 0 := by omega
      rw [exact, dif_neg hless]
      intro net w
      refine Or.inl ?_
      rw [takeFrom, dif_pos (by rw [hnone]; exact Nat.zero_le _)]
      simp only [hnone, List.take_zero, List.append_nil, List.drop_zero]
      rfl

theorem agrees_chunks (maxBytes : Nat) (result : Bytes) :
    Agrees (chunks maxBytes result) (takeChunks maxBytes result) := by
  induction hleft : maxBytes - result.length using Nat.strong_induction_on generalizing result with
  | _ left ih =>
    rw [chunks, takeChunks]
    refine (agrees_line 8 []).bind fun read => ?_
    refine Agrees.ite (fun _ => Agrees.raise _) fun _ => ?_
    refine Agrees.ite (fun _ => Agrees.raise _) fun _ => ?_
    refine Agrees.ite (fun _ => Agrees.raise _) fun hfits => ?_
    refine Agrees.ite (fun _ => ?_) fun hcount => ?_
    · refine (agrees_line maxHeaders []).bind fun trailer => ?_
      exact Agrees.ite (fun _ => Agrees.raise _) fun _ => Agrees.pure _
    · refine (agrees_exact _ _).bind fun data => ?_
      refine (agrees_exact _ _).bind fun ending => ?_
      refine Agrees.ite (fun _ => Agrees.raise _) fun _ => ?_
      exact ih _ (by rw [List.length_append, data.2]; omega) _ rfl

theorem agrees_untilClose {maxBytes : Nat} {result : Bytes} (h : result.length ≤ maxBytes) :
    Agrees (untilClose maxBytes result) (takeAll maxBytes result) := by
  induction hleft : maxBytes - result.length using Nat.strong_induction_on generalizing result with
  | _ left ih =>
    rw [untilClose]
    refine Agrees.recv (by omega) ?_ ?_
    · intro net n
      refine Or.inl ?_
      rw [if_pos rfl, takeAll, if_pos (by rw [List.length_nil]; omega), List.append_nil]
      rfl
    · rintro ⟨piece, hsize⟩ hne net w
      have hpos : 0 < piece.length := List.length_pos_of_ne_nil hne
      rw [if_neg hne, takeAll, List.length_append]
      dsimp only
      by_cases hlong : maxBytes - result.length < piece.length
      · rw [if_pos hlong, if_neg (by omega)]
        exact Or.inl rfl
      · have hnext : (result ++ piece).length ≤ maxBytes := by
          rw [List.length_append]
          omega
        have hstep := ih _ (by rw [List.length_append]; omega) hnext rfl net w
        rw [takeAll, List.length_append, List.append_assoc, Nat.add_assoc] at hstep
        rwa [if_neg hlong]

theorem agrees_body (headers : Headers) (maxBytes : Nat) :
    Agrees (body headers maxBytes) (takeBody headers maxBytes) := by
  unfold body takeBody
  refine Agrees.ite (fun _ => Agrees.raise _) fun _ => ?_
  refine Agrees.ite (fun _ => Agrees.raise _) fun _ => ?_
  cases headers.values.get? "content-length" with
  | some length =>
    refine Agrees.ite (fun _ => Agrees.raise _) fun _ => ?_
    refine Agrees.ite (fun _ => Agrees.raise _) fun _ => ?_
    exact (agrees_exact _ _).bind fun data => Agrees.pure _
  | none =>
    exact Agrees.ite (fun _ => agrees_chunks _ _) fun _ => agrees_untilClose (Nat.zero_le _)

end DaonUser.WebsiteFetch
