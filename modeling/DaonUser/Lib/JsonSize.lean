import DaonUser.Lib.JsonRead
import DaonUser.Lib.Utf8

/-!
# The length of JSON texts

`weight` bounds the number of bytes of the text of a value (`length_utf8_canonical`). A string weighs what its
quoted text does: as many bytes as it has characters and two more, where none is escaped (`textWeight_plain`).
-/

namespace Lib

theorem length_flatMap_le {α β : Type} {f : α → List β} {n : Nat} (h : ∀ a, (f a).length ≤ n) (xs : List α) :
    (xs.flatMap f).length ≤ n * xs.length := by
  induction xs with
  | nil => simp
  | cons a xs ih =>
    have ha := h a
    rw [List.flatMap_cons, List.length_append, List.length_cons, Nat.mul_succ]
    omega

theorem length_utf8 (cs : List Char) : (utf8 cs).length ≤ 4 * cs.length := by
  refine length_flatMap_le (fun c => ?_) cs
  unfold utf8Char
  dsimp only
  split_ifs <;> simp

theorem length_utf8_append (cs ds : List Char) :
    (utf8 (cs ++ ds)).length = (utf8 cs).length + (utf8 ds).length := by
  rw [utf8, List.flatMap_append, List.length_append, utf8, utf8]

theorem length_utf8_cons {c : Char} (hc : c.toNat < 0x80) (cs : List Char) :
    (utf8 (c :: cs)).length = (utf8 cs).length + 1 := by
  rw [utf8, List.flatMap_cons, List.length_append, utf8Char, if_pos hc, List.length_singleton, utf8,
    Nat.add_comm]

theorem length_utf8_ascii {cs : List Char} (h : ∀ c ∈ cs, c.toNat < 0x80) : (utf8 cs).length = cs.length := by
  induction cs with
  | nil => rfl
  | cons c cs ih =>
    rw [length_utf8_cons (h c List.mem_cons_self), ih fun d hd => h d (List.mem_cons_of_mem _ hd),
      List.length_cons]

theorem toNat_of_isNumeralChar {c : Char} (h : isNumeralChar c = true) : c.toNat < 0x80 := by
  rcases Bool.or_eq_true_iff.1 h with hdigit | hsign
  · exact (Char.isDigit_iff_toNat.1 hdigit).2.trans_lt (by decide)
  · have hall : ∀ d ∈ "+-.e".toList, d.toNat < 0x80 := by simp
    exact hall c (List.contains_iff_mem.1 hsign)

namespace Json

theorem toNat_digitChar : ∀ n < 16, (Nat.digitChar n).toNat < 0x80 := by decide

theorem length_utf8_escaped (cs : List Char) : (utf8 (escaped cs)).length ≤ 6 * cs.length := by
  rw [utf8, escaped, List.flatMap_assoc]
  refine length_flatMap_le (fun c => ?_) cs
  change (utf8 (escape c)).length ≤ 6
  unfold escape
  split_ifs
  · decide
  · decide
  · decide
  · decide
  · decide
  · decide
  · decide
  · next hlow =>
    have hhigh := toNat_digitChar (c.toNat / 16) (by omega)
    have hrest := toNat_digitChar (c.toNat % 16) (by omega)
    rw [length_utf8_ascii]
    · rfl
    · simp [hhigh, hrest]
  · exact (length_utf8 [c]).trans (by simp)

def textWeight (s : String) : Nat := (utf8 (quoted s)).length

theorem textWeight_eq (s : String) : textWeight s = (utf8 (escaped s.toList)).length + 2 := by
  rw [textWeight, quoted, length_utf8_cons (by decide), length_utf8_append, length_utf8_cons (by decide)]
  rfl

theorem textWeight_le (s : String) : textWeight s ≤ 6 * s.toList.length + 2 := by
  rw [textWeight_eq]
  exact Nat.add_le_add_right (length_utf8_escaped s.toList) 2

/-- A character of ASCII that is written as it is. -/
def IsPlain (c : Char) : Prop := 0x20 ≤ c.toNat ∧ c.toNat < 0x80 ∧ c ≠ '"' ∧ c ≠ '\\'

theorem escape_plain {c : Char} (h : IsPlain c) : escape c = [c] := by
  obtain ⟨hlow, -, hquote, hslash⟩ := h
  have hne : ∀ d : Char, d.toNat < 0x20 → c ≠ d := by
    rintro d hd rfl
    omega
  rw [escape, if_neg hquote, if_neg hslash, if_neg (hne _ (by decide)), if_neg (hne _ (by decide)),
    if_neg (hne _ (by decide)), if_neg (hne _ (by decide)), if_neg (hne _ (by decide)), if_neg (by omega)]

theorem isPlain_of_isAlphanum {c : Char} (h : c.isAlphanum = true) : IsPlain c := by
  have hrange : (0x30 ≤ c.toNat ∧ c.toNat ≤ 0x39) ∨ (0x41 ≤ c.toNat ∧ c.toNat ≤ 0x5a) ∨
      (0x61 ≤ c.toNat ∧ c.toNat ≤ 0x7a) := by
    change ((decide (65 ≤ c.val ∧ c.val ≤ 90) || (97 ≤ c.val && c.val ≤ 122)) ||
      (48 ≤ c.val && c.val ≤ 57)) = true at h
    simp only [Bool.or_eq_true, Bool.and_eq_true, decide_eq_true_eq, UInt32.le_iff_toNat_le] at h
    change ((65 ≤ c.toNat ∧ c.toNat ≤ 90) ∨ (97 ≤ c.toNat ∧ c.toNat ≤ 122)) ∨
      (48 ≤ c.toNat ∧ c.toNat ≤ 57) at h
    omega
  refine ⟨by omega, by omega, ?_, ?_⟩
  · rintro rfl
    revert hrange
    decide
  · rintro rfl
    revert hrange
    decide

theorem textWeight_plain {s : String} (h : ∀ c ∈ s.toList, IsPlain c) :
    textWeight s = s.toList.length + 2 := by
  have hescaped : escaped s.toList = s.toList := by
    rw [escaped, List.flatMap_congr fun c hc => escape_plain (h c hc), List.flatMap_singleton']
  rw [textWeight_eq, hescaped, length_utf8_ascii fun c hc => (h c hc).2.1]

variable {ν : Type} [JsonNumber ν]

mutual

def weight : Json ν → Nat
  | null => 4
  | bool _ => 5
  | num n => (JsonNumber.chars n).length
  | str s => textWeight s
  | arr items => itemsWeight items + 2
  | obj members => membersWeight members + 2

def itemsWeight : List (Json ν) → Nat
  | [] => 0
  | item :: items => weight item + 1 + itemsWeight items

def membersWeight : List (String × Json ν) → Nat
  | [] => 0
  | (key, value) :: members => textWeight key + weight value + 2 + membersWeight members

end

theorem itemsWeight_le {items : List (Json ν)} {n : Nat} (h : ∀ item ∈ items, weight item ≤ n) :
    itemsWeight items ≤ items.length * (n + 1) := by
  induction items with
  | nil => simp [itemsWeight]
  | cons item items ih =>
    have hitem := h item List.mem_cons_self
    have hitems := ih fun item hmem => h item (List.mem_cons_of_mem _ hmem)
    rw [itemsWeight, List.length_cons, Nat.succ_mul]
    omega

theorem membersWeight_perm {xs ys : List (String × Json ν)} (h : xs.Perm ys) :
    membersWeight xs = membersWeight ys := by
  induction h with
  | nil => rfl
  | cons x _ ih => rw [membersWeight, membersWeight, ih]
  | swap x y l =>
    simp only [membersWeight]
    omega
  | trans _ _ ih₁ ih₂ => exact ih₁.trans ih₂

mutual

theorem length_chars : ∀ v : Json ν, (utf8 (chars v)).length ≤ weight v
  | null => by simp [chars, weight, utf8, utf8Char]
  | bool true => by simp [chars, weight, utf8, utf8Char]
  | bool false => by simp [chars, weight, utf8, utf8Char]
  | num n => by
    rw [chars, weight, length_utf8_ascii fun c hc => toNat_of_isNumeralChar (JsonNumber.numeral n c hc)]
  | str s => le_rfl
  | arr [] => by simp [chars, weight, utf8, utf8Char]
  | arr (item :: items) => by
    have hitem := length_chars item
    have hitems := length_itemsChars items
    rw [chars, weight, itemsWeight, length_utf8_cons (by decide), length_utf8_append]
    omega
  | obj [] => by simp [chars, weight, utf8, utf8Char]
  | obj ((key, value) :: members) => by
    have hvalue := length_chars value
    have hmembers := length_membersChars members
    rw [chars, weight, membersWeight, textWeight, length_utf8_cons (by decide), length_utf8_append,
      length_utf8_cons (by decide), length_utf8_append]
    omega

theorem length_itemsChars : ∀ items : List (Json ν),
    (utf8 (itemsChars items)).length ≤ itemsWeight items + 1
  | [] => by simp [itemsChars, utf8, utf8Char]
  | item :: items => by
    have hitem := length_chars item
    have hitems := length_itemsChars items
    rw [itemsChars, itemsWeight, length_utf8_cons (by decide), length_utf8_append]
    omega

theorem length_membersChars : ∀ members : List (String × Json ν),
    (utf8 (membersChars members)).length ≤ membersWeight members + 1
  | [] => by simp [membersChars, utf8, utf8Char]
  | (key, value) :: members => by
    have hvalue := length_chars value
    have hmembers := length_membersChars members
    rw [membersChars, membersWeight, textWeight, length_utf8_cons (by decide), length_utf8_append,
      length_utf8_cons (by decide), length_utf8_append]
    omega

end

mutual

theorem weight_sorted : ∀ v : Json ν, weight (sorted v) = weight v
  | null | bool _ | num _ | str _ => rfl
  | arr items => by rw [sorted, weight, weight, itemsWeight_sorted]
  | obj members => by
    have hperm : (sortMembers (sortedMembers members)).Perm (sortedMembers members) :=
      List.perm_insertionSort _ _
    rw [sorted, weight, weight, membersWeight_perm hperm, membersWeight_sorted]

theorem itemsWeight_sorted : ∀ items : List (Json ν), itemsWeight (sortedItems items) = itemsWeight items
  | [] => rfl
  | item :: items => by rw [sortedItems, itemsWeight, itemsWeight, weight_sorted, itemsWeight_sorted]

theorem membersWeight_sorted : ∀ members : List (String × Json ν),
    membersWeight (sortedMembers members) = membersWeight members
  | [] => rfl
  | (key, value) :: members => by
    rw [sortedMembers, membersWeight, membersWeight, weight_sorted, membersWeight_sorted]

end

theorem length_utf8_canonical (v : Json ν) : (utf8 v.canonical.toList).length ≤ weight v := by
  rw [canonical, String.toList_ofList, ← weight_sorted v]
  exact length_chars v.sorted

end Json

theorem length_intChars {n k : Nat} (hk : 0 < k) (h : n < 10 ^ k) : (intChars n).length ≤ k := by
  have hneg : ¬ (n : Int) < 0 := by omega
  rw [intChars, if_neg hneg, Int.natAbs_natCast]
  exact (Nat.length_toDigits_le_iff (by decide) hk).2 h

end Lib
