import Mathlib.Data.List.Basic
import Mathlib.Data.Char
import Mathlib.Data.String.Basic

/-!
# UTF-8

The bytes of a text and the text of bytes. A character is read back only from its own bytes, so that
overlong forms and halves of surrogate pairs are refused.
-/

namespace Lib

def utf8Char (c : Char) : List UInt8 :=
  let n := c.toNat
  if n < 0x80 then [UInt8.ofNat n]
  else if n < 0x800 then [UInt8.ofNat (0xc0 + n / 64), UInt8.ofNat (0x80 + n % 64)]
  else if n < 0x10000 then
    [UInt8.ofNat (0xe0 + n / 4096), UInt8.ofNat (0x80 + n / 64 % 64), UInt8.ofNat (0x80 + n % 64)]
  else
    [UInt8.ofNat (0xf0 + n / 262144), UInt8.ofNat (0x80 + n / 4096 % 64),
      UInt8.ofNat (0x80 + n / 64 % 64), UInt8.ofNat (0x80 + n % 64)]

def utf8 (cs : List Char) : List UInt8 := cs.flatMap utf8Char

def utf8Guess : List UInt8 → Char × Nat
  | a :: rest =>
    if a.toNat < 0x80 then (Char.ofNat a.toNat, 1)
    else match rest with
      | b :: rest =>
        if a.toNat < 0xe0 then (Char.ofNat ((a.toNat - 0xc0) * 64 + (b.toNat - 0x80)), 2)
        else match rest with
          | c :: rest =>
            if a.toNat < 0xf0 then
              (Char.ofNat ((a.toNat - 0xe0) * 4096 + (b.toNat - 0x80) * 64 + (c.toNat - 0x80)), 3)
            else match rest with
              | d :: _ => (Char.ofNat ((a.toNat - 0xf0) * 262144 + (b.toNat - 0x80) * 4096 +
                  (c.toNat - 0x80) * 64 + (d.toNat - 0x80)), 4)
              | [] => ('\x00', 0)
          | [] => ('\x00', 0)
      | [] => ('\x00', 0)
  | [] => ('\x00', 0)

def readUtf8 : Nat → List UInt8 → Option (List Char)
  | _, [] => some []
  | 0, _ => none
  | fuel + 1, bytes =>
    let (c, n) := utf8Guess bytes
    if utf8Char c = bytes.take n then (readUtf8 fuel (bytes.drop n)).map (c :: ·) else none

theorem utf8Guess_utf8Char (c : Char) (rest : List UInt8) :
    utf8Guess (utf8Char c ++ rest) = (c, (utf8Char c).length) := by
  have hlt : c.toNat < 0x110000 := by
    rcases c.valid with h | h
    · exact Nat.lt_trans h (by decide)
    · exact h.2
  have hbyte : ∀ n, n < 256 → (UInt8.ofNat n).toNat = n := fun n hn =>
    UInt8.toNat_ofNat_of_lt' hn
  unfold utf8Char
  dsimp only
  split
  · next h =>
    simp only [List.cons_append, List.nil_append, utf8Guess, hbyte _ (show c.toNat < 256 by omega),
      if_pos h, Char.ofNat_toNat, List.length_cons, List.length_nil]
  split
  · next h h' =>
    have hvalue : (0xc0 + c.toNat / 64 - 0xc0) * 64 + (0x80 + c.toNat % 64 - 0x80) = c.toNat := by
      omega
    simp only [List.cons_append, List.nil_append, utf8Guess,
      hbyte _ (show 0xc0 + c.toNat / 64 < 256 by omega), hbyte _ (show 0x80 + c.toNat % 64 < 256 by omega),
      if_neg (show ¬0xc0 + c.toNat / 64 < 0x80 by omega), if_pos (show 0xc0 + c.toNat / 64 < 0xe0 by omega),
      hvalue, Char.ofNat_toNat, List.length_cons, List.length_nil]
  split
  · next h h' h'' =>
    have hvalue : (0xe0 + c.toNat / 4096 - 0xe0) * 4096 + (0x80 + c.toNat / 64 % 64 - 0x80) * 64 +
        (0x80 + c.toNat % 64 - 0x80) = c.toNat := by
      omega
    simp only [List.cons_append, List.nil_append, utf8Guess,
      hbyte _ (show 0xe0 + c.toNat / 4096 < 256 by omega),
      hbyte _ (show 0x80 + c.toNat / 64 % 64 < 256 by omega),
      hbyte _ (show 0x80 + c.toNat % 64 < 256 by omega),
      if_neg (show ¬0xe0 + c.toNat / 4096 < 0x80 by omega),
      if_neg (show ¬0xe0 + c.toNat / 4096 < 0xe0 by omega),
      if_pos (show 0xe0 + c.toNat / 4096 < 0xf0 by omega), hvalue, Char.ofNat_toNat, List.length_cons,
      List.length_nil]
  · next h h' h'' =>
    have hvalue : (0xf0 + c.toNat / 262144 - 0xf0) * 262144 + (0x80 + c.toNat / 4096 % 64 - 0x80) * 4096 +
        (0x80 + c.toNat / 64 % 64 - 0x80) * 64 + (0x80 + c.toNat % 64 - 0x80) = c.toNat := by
      omega
    simp only [List.cons_append, List.nil_append, utf8Guess,
      hbyte _ (show 0xf0 + c.toNat / 262144 < 256 by omega),
      hbyte _ (show 0x80 + c.toNat / 4096 % 64 < 256 by omega),
      hbyte _ (show 0x80 + c.toNat / 64 % 64 < 256 by omega),
      hbyte _ (show 0x80 + c.toNat % 64 < 256 by omega),
      if_neg (show ¬0xf0 + c.toNat / 262144 < 0x80 by omega),
      if_neg (show ¬0xf0 + c.toNat / 262144 < 0xe0 by omega),
      if_neg (show ¬0xf0 + c.toNat / 262144 < 0xf0 by omega), hvalue, Char.ofNat_toNat, List.length_cons,
      List.length_nil]

theorem utf8Char_ne_nil (c : Char) : utf8Char c ≠ [] := by
  unfold utf8Char
  dsimp only
  split_ifs <;> simp

theorem length_le_utf8 (cs : List Char) : cs.length ≤ (utf8 cs).length := by
  induction cs with
  | nil => simp
  | cons c cs ih =>
    have hpos : 0 < (utf8Char c).length := List.length_pos_of_ne_nil (utf8Char_ne_nil c)
    rw [utf8, List.flatMap_cons, List.length_append, ← utf8, List.length_cons]
    omega

theorem readUtf8_utf8 {cs : List Char} {fuel : Nat} (h : cs.length ≤ fuel) :
    readUtf8 fuel (utf8 cs) = some cs := by
  induction cs generalizing fuel with
  | nil => cases fuel <;> rfl
  | cons c cs ih =>
    obtain ⟨fuel, rfl⟩ : ∃ k, fuel = k + 1 := ⟨fuel - 1, by simp at h; omega⟩
    have hguess := utf8Guess_utf8Char c (utf8 cs)
    have hcs : utf8 (c :: cs) = utf8Char c ++ utf8 cs := List.flatMap_cons
    obtain ⟨b, bs, hb⟩ := List.exists_cons_of_ne_nil (utf8Char_ne_nil c)
    have htext : utf8Char c ++ utf8 cs = b :: (bs ++ utf8 cs) := by rw [hb, List.cons_append]
    have hlength : cs.length ≤ fuel := by simpa using h
    rw [hcs, htext, readUtf8, ← htext, hguess]
    · simp only [List.take_left, if_true, List.drop_left, ih hlength, Option.map_some]
    · simp

theorem utf8_injective : Function.Injective utf8 := by
  intro cs ds h
  have hcs := readUtf8_utf8 (Nat.le_max_left cs.length ds.length)
  rw [h, readUtf8_utf8 (Nat.le_max_right cs.length ds.length)] at hcs
  exact (Option.some.inj hcs).symm

/-! ## Bytes of a string -/

theorem toList_loop (bytes : ByteArray) (i : Nat) (read : List UInt8) :
    ByteArray.toList.loop bytes i read = read.reverse ++ bytes.data.toList.drop i := by
  fun_induction ByteArray.toList.loop bytes i read with
  | case1 i read h ih =>
    have hi : i < bytes.data.toList.length := h
    have hget : bytes.get! i = bytes.data.toList[i] := by
      change bytes.data[i]! = _
      rw [getElem!_pos bytes.data i h]
      rfl
    rw [ih, List.drop_eq_getElem_cons hi, List.reverse_cons, hget, List.append_assoc]
    rfl
  | case2 i read h => rw [List.drop_eq_nil_of_le (Nat.le_of_not_lt h), List.append_nil]

theorem toUTF8_injective {s t : String} (h : s.toUTF8.toList = t.toUTF8.toList) : s = t := by
  rw [ByteArray.toList, ByteArray.toList, toList_loop, toList_loop, List.drop_zero, List.drop_zero] at h
  exact String.toByteArray_inj.1 (ByteArray.ext (Array.toList_inj.1 h))

end Lib
