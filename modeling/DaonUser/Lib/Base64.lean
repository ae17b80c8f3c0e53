import Mathlib.Data.List.Basic

/-!
# Base64

`encode` writes bytes without padding, in the alphabet that is safe in URLs. `decode` reads a padded
text the way that `binascii.a2b_base64` does: characters that are not of the alphabet are skipped, and
nothing is read after the padding. `decode_encode`: what is written is read back.
-/

namespace Lib.Base64

def alphabet : List Char :=
  "ABCDEFGHIJKLMNOPQRSTUVWXYZabcdefghijklmnopqrstuvwxyz0123456789-_".toList

def digit (n : Nat) : Char := alphabet.getD n 'A'

/-- The value of a digit of this alphabet or of the one with `+` and `/`. -/
def value (c : Char) : Option Nat :=
  if c = '+' then some 62 else if c = '/' then some 63 else alphabet.idxOf? c

def encode : List Nat → List Char
  | [] => []
  | [a] => [digit (a / 4), digit (a % 4 * 16)]
  | [a, b] => [digit (a / 4), digit (a % 4 * 16 + b / 16), digit (b % 16 * 4)]
  | a :: b :: c :: bytes =>
    digit (a / 4) :: digit (a % 4 * 16 + b / 16) :: digit (b % 16 * 4 + c / 64) ::
      digit (c % 64) :: encode bytes

def pad (cs : List Char) : List Char := cs ++ List.replicate ((4 - cs.length % 4) % 4) '='

/-- What is read after `quad` digits of a group that leave the bits `left`. -/
def decodeFrom (quad left pads : Nat) : List Char → Option (List Nat)
  | [] => if quad = 0 then some [] else none
  | c :: cs =>
    if c = '=' then
      if quad < 2 then decodeFrom quad left pads cs
      else if 4 ≤ quad + (pads + 1) then some []
      else decodeFrom quad left (pads + 1) cs
    else
      match value c with
      | none => decodeFrom quad left pads cs
      | some v =>
        if quad = 0 then decodeFrom 1 v 0 cs
        else if quad = 1 then (decodeFrom 2 (v % 16) 0 cs).map ((left * 4 + v / 16) :: ·)
        else if quad = 2 then (decodeFrom 3 (v % 4) 0 cs).map ((left * 16 + v / 4) :: ·)
        else (decodeFrom 0 0 0 cs).map ((left * 64 + v) :: ·)

def decode (cs : List Char) : Option (List Nat) := decodeFrom 0 0 0 cs

theorem digit_spec : ∀ n < 64, digit n ≠ '=' ∧ value (digit n) = some n := by decide +kernel

theorem decodeFrom_digit {quad left pads n : Nat} {cs : List Char} (hn : n < 64) :
    decodeFrom quad left pads (digit n :: cs) =
      if quad = 0 then decodeFrom 1 n 0 cs
      else if quad = 1 then (decodeFrom 2 (n % 16) 0 cs).map ((left * 4 + n / 16) :: ·)
      else if quad = 2 then (decodeFrom 3 (n % 4) 0 cs).map ((left * 16 + n / 4) :: ·)
      else (decodeFrom 0 0 0 cs).map ((left * 64 + n) :: ·) := by
  obtain ⟨hpad, hvalue⟩ := digit_spec n hn
  rw [decodeFrom, if_neg hpad, hvalue]

theorem encode_ne_pad {bytes : List Nat} (h : ∀ b ∈ bytes, b < 256) :
    ∀ c ∈ encode bytes, c ≠ '=' := by
  fun_induction encode bytes with
  | case1 => simp
  | case2 a =>
    simp only [List.forall_mem_singleton] at h
    simp only [List.forall_mem_cons, List.not_mem_nil, false_imp_iff, implies_true, and_true]
    exact ⟨(digit_spec _ (by omega)).1, (digit_spec _ (by omega)).1⟩
  | case3 a b =>
    simp only [List.forall_mem_cons, List.not_mem_nil, false_imp_iff, implies_true, and_true] at h ⊢
    exact ⟨(digit_spec _ (by omega)).1, (digit_spec _ (by omega)).1, (digit_spec _ (by omega)).1⟩
  | case4 a b c bytes ih =>
    simp only [List.forall_mem_cons] at h ⊢
    exact ⟨(digit_spec _ (by omega)).1, (digit_spec _ (by omega)).1, (digit_spec _ (by omega)).1,
      (digit_spec _ (by omega)).1, ih h.2.2.2⟩

theorem digit_ascii (n : Nat) : (digit n).toNat < 128 := by
  have hall : alphabet.all (fun c => decide (c.toNat < 128)) = true := by decide
  rw [digit, List.getD_eq_getElem?_getD]
  cases h : alphabet[n]? with
  | none => decide
  | some c => exact of_decide_eq_true (List.all_eq_true.1 hall c (List.mem_of_getElem? h))

theorem encode_ascii (bytes : List Nat) : ∀ c ∈ encode bytes, c.toNat < 128 := by
  fun_induction encode bytes with
  | case1 => simp
  | case2 a => simp [digit_ascii]
  | case3 a b => simp [digit_ascii]
  | case4 a b c bytes ih => simpa [digit_ascii] using ih

theorem encode_ne_nil {bytes : List Nat} (h : bytes ≠ []) : encode bytes ≠ [] := by
  fun_cases encode bytes <;> simp_all

theorem length_encode_le (bytes : List Nat) : (encode bytes).length ≤ 2 * bytes.length := by
  fun_induction encode bytes with
  | case1 => simp
  | case2 a => simp
  | case3 a b => simp
  | case4 a b c bytes ih =>
    simp only [List.length_cons]
    omega

theorem decode_encode {bytes : List Nat} (h : ∀ b ∈ bytes, b < 256) :
    decode (pad (encode bytes)) = some bytes := by
  unfold decode
  fun_induction encode bytes with
  | case1 => simp [pad, decodeFrom]
  | case2 a =>
    simp only [List.forall_mem_singleton] at h
    rw [show pad [digit (a / 4), digit (a % 4 * 16)] =
      [digit (a / 4), digit (a % 4 * 16), '=', '='] from rfl, decodeFrom_digit (by omega), if_pos rfl,
      decodeFrom_digit (by omega), if_neg (by decide), if_pos rfl]
    simp [decodeFrom]
    omega
  | case3 a b =>
    simp only [List.forall_mem_cons, List.not_mem_nil, false_imp_iff, implies_true, and_true] at h
    rw [show pad [digit (a / 4), digit (a % 4 * 16 + b / 16), digit (b % 16 * 4)] =
      [digit (a / 4), digit (a % 4 * 16 + b / 16), digit (b % 16 * 4), '='] from rfl,
      decodeFrom_digit (by omega), if_pos rfl, decodeFrom_digit (by omega), if_neg (by decide),
      if_pos rfl, decodeFrom_digit (by omega), if_neg (by decide), if_neg (by decide), if_pos rfl]
    simp [decodeFrom]
    omega
  | case4 a b c bytes ih =>
    simp only [List.forall_mem_cons] at h
    have hpad : ∀ w x y z : Char, pad (w :: x :: y :: z :: encode bytes) =
        w :: x :: y :: z :: pad (encode bytes) := by
      intro w x y z
      rw [pad, pad, List.length_cons, List.length_cons, List.length_cons, List.length_cons,
        Nat.add_assoc, Nat.add_assoc, Nat.add_assoc, Nat.add_mod_right]
      rfl
    rw [hpad, decodeFrom_digit (by omega), if_pos rfl, decodeFrom_digit (by omega),
      if_neg (by decide), if_pos rfl, decodeFrom_digit (by omega), if_neg (by decide),
      if_neg (by decide), if_pos rfl, decodeFrom_digit (by omega), if_neg (by decide),
      if_neg (by decide), if_neg (by decide), ih h.2.2.2]
    simp
    omega

theorem readable_encode {bytes : List Nat} (hne : bytes ≠ []) (hlength : bytes.length ≤ 256)
    (h : ∀ b ∈ bytes, b < 256) :
    ¬(String.ofList (encode bytes) = "" ∨ 512 < (String.ofList (encode bytes)).toList.length) ∧
      ¬((String.ofList (encode bytes)).toList.any fun c => 128 ≤ c.toNat) = true ∧
      decode (pad (String.ofList (encode bytes)).toList) = some bytes := by
  rw [String.toList_ofList]
  refine ⟨?_, ?_, decode_encode h⟩
  · rintro (hnil | hlong)
    · refine encode_ne_nil hne ?_
      rw [← String.toList_ofList (l := encode bytes), hnil]
      rfl
    · have hbound := length_encode_le bytes
      omega
  · rw [List.any_eq_true]
    rintro ⟨c, hc, hlarge⟩
    have hsmall := encode_ascii bytes c hc
    rw [decide_eq_true_eq] at hlarge
    omega

end Lib.Base64
