import DaonUser.Lib.Numeral
import Mathlib.Data.List.Sort
import Mathlib.Data.String.Basic

/-!
# JSON values and their compact text

`Json ν` is a JSON value with numbers of a type `ν` that can be written (`JsonNumber ν`). `chars`
writes a value without blanks; a value is determined by its text, also where more text follows
(`chars_append_inj`). `canonical` writes the members of objects in the order of their keys; it
determines a value up to the order of members (`canonical_inj`).
-/

namespace Lib

/-- Numbers that are written with the characters of numerals. -/
class JsonNumber (ν : Type) where
  chars : ν → List Char
  numeral : ∀ n, ∀ c ∈ chars n, isNumeralChar c = true
  nonempty : ∀ n, chars n ≠ []
  injective : Function.Injective chars

inductive Json (ν : Type) where
  | null
  | bool (b : Bool)
  | num (n : ν)
  | str (s : String)
  | arr (items : List (Json ν))
  | obj (members : List (String × Json ν))

namespace Json

/-! ## Strings -/

def escape (c : Char) : List Char :=
  if c = '"' then ['\\', '"']
  else if c = '\\' then ['\\', '\\']
  else if c = '\n' then ['\\', 'n']
  else if c = '\r' then ['\\', 'r']
  else if c = '\t' then ['\\', 't']
  else if c = '\x0c' then ['\\', 'f']
  else if c = '\x08' then ['\\', 'b']
  else if c.toNat < 32 then
    ['\\', 'u', '0', '0', Nat.digitChar (c.toNat / 16), Nat.digitChar (c.toNat % 16)]
  else [c]

def hexValue (c : Char) : Nat := if c.isDigit then c.toNat - 48 else c.toNat - 87

def unescape : List Char → Option (Char × List Char)
  | '\\' :: 'n' :: rest => some ('\n', rest)
  | '\\' :: 'r' :: rest => some ('\r', rest)
  | '\\' :: 't' :: rest => some ('\t', rest)
  | '\\' :: 'f' :: rest => some ('\x0c', rest)
  | '\\' :: 'b' :: rest => some ('\x08', rest)
  | '\\' :: 'u' :: _ :: _ :: high :: low :: rest =>
    some (Char.ofNat (16 * hexValue high + hexValue low), rest)
  | '\\' :: c :: rest => some (c, rest)
  | '"' :: _ => none
  | c :: rest => some (c, rest)
  | [] => none

theorem hexValue_digitChar : ∀ n < 16, hexValue (Nat.digitChar n) = n := by decide

theorem unescape_escape (c : Char) (rest : List Char) :
    unescape (escape c ++ rest) = some (c, rest) := by
  unfold escape
  split
  · next h => subst h; rfl
  split
  · next h => subst h; rfl
  split
  · next h => subst h; rfl
  split
  · next h => subst h; rfl
  split
  · next h => subst h; rfl
  split
  · next h => subst h; rfl
  split
  · next h => subst h; rfl
  split
  · next h =>
    have hvalue : 16 * (c.toNat / 16) + c.toNat % 16 = c.toNat := Nat.div_add_mod _ _
    rw [List.cons_append, List.cons_append, List.cons_append, List.cons_append, List.cons_append,
      List.cons_append, List.nil_append, unescape, hexValue_digitChar _ (by omega),
      hexValue_digitChar _ (by omega), hvalue, Char.ofNat_toNat]
  · next hquote hback _ _ _ _ _ _ =>
    rw [List.cons_append, List.nil_append]
    unfold unescape
    split <;> simp_all

def escaped (cs : List Char) : List Char := cs.flatMap escape

theorem escaped_append_inj {cs ds r r' : List Char}
    (h : escaped cs ++ '"' :: r = escaped ds ++ '"' :: r') : cs = ds ∧ r = r' := by
  induction cs generalizing ds with
  | nil =>
    cases ds with
    | nil => exact ⟨rfl, (List.cons.inj h).2⟩
    | cons d ds =>
      have hread := congrArg unescape h
      simp only [escaped, List.flatMap_nil, List.flatMap_cons, List.nil_append, List.append_assoc,
        unescape_escape] at hread
      cases hread
  | cons c cs ih =>
    cases ds with
    | nil =>
      have hread := congrArg unescape h
      simp only [escaped, List.flatMap_nil, List.flatMap_cons, List.nil_append, List.append_assoc,
        unescape_escape] at hread
      cases hread
    | cons d ds =>
      have hread := congrArg unescape h
      simp only [escaped, List.flatMap_cons, List.append_assoc, unescape_escape,
        Option.some.injEq, Prod.mk.injEq] at hread
      obtain ⟨rfl, hrest⟩ := hread
      obtain ⟨rfl, rfl⟩ := ih hrest
      exact ⟨rfl, rfl⟩

variable {ν : Type} [JsonNumber ν]

def quoted (s : String) : List Char := '"' :: (escaped s.toList ++ ['"'])

mutual

def chars : Json ν → List Char
  | null => "null".toList
  | bool true => "true".toList
  | bool false => "false".toList
  | num n => JsonNumber.chars n
  | str s => quoted s
  | arr [] => "[]".toList
  | arr (item :: items) => '[' :: (chars item ++ itemsChars items)
  | obj [] => "{}".toList
  | obj ((key, value) :: members) =>
    '{' :: (quoted key ++ ':' :: (chars value ++ membersChars members))

def itemsChars : List (Json ν) → List Char
  | [] => [']']
  | item :: items => ',' :: (chars item ++ itemsChars items)

def membersChars : List (String × Json ν) → List Char
  | [] => ['}']
  | (key, value) :: members =>
    ',' :: (quoted key ++ ':' :: (chars value ++ membersChars members))

end

/-- The text is at its end or goes on with something that is not part of a number. -/
def Stops (r : List Char) : Prop := ∀ c ∈ r.head?, isNumeralChar c = false

/-! ## Reading a text -/

def kindOf (c : Char) : Nat :=
  if c = 'n' then 0 else if c = 't' then 1 else if c = 'f' then 2 else if c = '"' then 3
  else if c = '[' then 4 else if c = '{' then 5 else if isNumeralChar c then 6 else 7

def kind : Json ν → Nat
  | null => 0
  | bool true => 1
  | bool false => 2
  | str _ => 3
  | arr _ => 4
  | obj _ => 5
  | num _ => 6

omit [JsonNumber ν] in
theorem kind_ne (v : Json ν) : kind v ≠ 7 := by
  cases v with
  | bool b => cases b <;> simp [kind]
  | _ => simp [kind]

theorem kindOf_numeral {c : Char} (h : isNumeralChar c = true) : kindOf c = 6 := by
  have hne : ∀ d, isNumeralChar d = false → c ≠ d := fun d hd hcd => by
    rw [hcd, hd] at h
    cases h
  rw [kindOf, if_neg (hne 'n' (by decide)), if_neg (hne 't' (by decide)),
    if_neg (hne 'f' (by decide)), if_neg (hne '"' (by decide)), if_neg (hne '[' (by decide)),
    if_neg (hne '{' (by decide)), if_pos h]

theorem kindOf_head (v : Json ν) (r : List Char) :
    ∃ c cs, chars v ++ r = c :: cs ∧ kindOf c = kind v := by
  cases v with
  | null => exact ⟨'n', _, rfl, rfl⟩
  | bool b => cases b <;> exact ⟨_, _, rfl, rfl⟩
  | num n =>
    obtain ⟨c, cs, hcs⟩ := List.exists_cons_of_ne_nil (JsonNumber.nonempty n)
    refine ⟨c, cs ++ r, by rw [chars, hcs, List.cons_append], kindOf_numeral ?_⟩
    exact JsonNumber.numeral n c (by rw [hcs]; exact List.mem_cons_self)
  | str s => exact ⟨_, _, rfl, rfl⟩
  | arr items => cases items <;> exact ⟨_, _, rfl, rfl⟩
  | obj members => cases members <;> exact ⟨_, _, rfl, rfl⟩

theorem kind_eq {v w : Json ν} {r r' : List Char} (h : chars v ++ r = chars w ++ r') :
    kind v = kind w := by
  obtain ⟨c, cs, hv, hc⟩ := kindOf_head v r
  obtain ⟨d, ds, hw, hd⟩ := kindOf_head w r'
  rw [hv, hw] at h
  rw [← hc, ← hd, (List.cons.inj h).1]

theorem chars_append_ne {v : Json ν} {c : Char} {r rest : List Char} (hc : kindOf c = 7) :
    chars v ++ r ≠ c :: rest := by
  intro h
  obtain ⟨d, ds, hv, hd⟩ := kindOf_head v r
  rw [hv] at h
  rw [(List.cons.inj h).1, hc] at hd
  exact kind_ne v hd.symm

theorem quoted_append_inj {s t : String} {r r' : List Char}
    (h : quoted s ++ r = quoted t ++ r') : s = t ∧ r = r' := by
  rw [quoted, quoted, List.cons_append, List.cons_append, List.append_assoc,
    List.append_assoc] at h
  have htail := (List.cons.inj h).2
  obtain ⟨hchars, hrest⟩ := escaped_append_inj htail
  exact ⟨String.toList_inj.1 hchars, hrest⟩

omit [JsonNumber ν] in
theorem stops_cons {c : Char} {r : List Char} (h : isNumeralChar c = false) : Stops (c :: r) := by
  intro d hd
  cases hd
  exact h

theorem stops_itemsChars (items : List (Json ν)) (r : List Char) : Stops (itemsChars items ++ r) := by
  cases items <;> exact stops_cons (by decide)

theorem stops_membersChars (members : List (String × Json ν)) (r : List Char) :
    Stops (membersChars members ++ r) := by
  cases members <;> exact stops_cons (by decide)

mutual

theorem chars_append_inj : ∀ {v w : Json ν} {r r' : List Char}, Stops r → Stops r' →
    chars v ++ r = chars w ++ r' → v = w ∧ r = r' := by
  intro v w r r' hr hr' h
  have hkind := kind_eq h
  match v, w, h, hkind with
  | null, null, h, _ => exact ⟨rfl, List.append_cancel_left h⟩
  | bool true, bool true, h, _ => exact ⟨rfl, List.append_cancel_left h⟩
  | bool false, bool false, h, _ => exact ⟨rfl, List.append_cancel_left h⟩
  | num n, num m, h, _ =>
    obtain ⟨hnum, hrest⟩ := append_cancel (JsonNumber.numeral n) (JsonNumber.numeral m) hr hr' h
    exact ⟨congrArg num (JsonNumber.injective hnum), hrest⟩
  | str s, str t, h, _ =>
    obtain ⟨rfl, hrest⟩ := quoted_append_inj h
    exact ⟨rfl, hrest⟩
  | arr [], arr [], h, _ => exact ⟨rfl, List.append_cancel_left h⟩
  | arr [], arr (y :: ys), h, _ =>
    rw [chars, chars, List.cons_append, List.append_assoc] at h
    exact absurd (List.cons.inj h).2.symm (chars_append_ne (by decide))
  | arr (x :: xs), arr [], h, _ =>
    rw [chars, chars, List.cons_append, List.append_assoc] at h
    exact absurd (List.cons.inj h).2 (chars_append_ne (by decide))
  | arr (x :: xs), arr (y :: ys), h, _ =>
    rw [chars, chars, List.cons_append, List.cons_append, List.append_assoc, List.append_assoc] at h
    obtain ⟨rfl, hrest⟩ := chars_append_inj (stops_itemsChars xs r) (stops_itemsChars ys r')
      (List.cons.inj h).2
    obtain ⟨rfl, hend⟩ := itemsChars_append_inj hr hr' hrest
    exact ⟨rfl, hend⟩
  | obj [], obj [], h, _ => exact ⟨rfl, List.append_cancel_left h⟩
  | obj [], obj ((key, value) :: ms), h, _ => cases (List.cons.inj (List.cons.inj h).2).1
  | obj ((key, value) :: ms), obj [], h, _ => cases (List.cons.inj (List.cons.inj h).2).1
  | obj ((key, value) :: ms), obj ((key', value') :: ms'), h, _ =>
    rw [chars, chars, List.cons_append, List.cons_append, List.append_assoc, List.append_assoc] at h
    obtain ⟨rfl, hvalue⟩ := quoted_append_inj (List.cons.inj h).2
    rw [List.cons_append, List.cons_append, List.append_assoc, List.append_assoc] at hvalue
    obtain ⟨rfl, hrest⟩ := chars_append_inj (stops_membersChars ms r) (stops_membersChars ms' r')
      (List.cons.inj hvalue).2
    obtain ⟨rfl, hend⟩ := membersChars_append_inj hr hr' hrest
    exact ⟨rfl, hend⟩

theorem itemsChars_append_inj : ∀ {xs ys : List (Json ν)} {r r' : List Char}, Stops r → Stops r' →
    itemsChars xs ++ r = itemsChars ys ++ r' → xs = ys ∧ r = r'
  | [], [], _, _, _, _, h => ⟨rfl, List.append_cancel_left h⟩
  | [], _ :: _, _, _, _, _, h => by cases (List.cons.inj h).1
  | _ :: _, [], _, _, _, _, h => by cases (List.cons.inj h).1
  | x :: xs, y :: ys, r, r', hr, hr', h => by
    rw [itemsChars, itemsChars, List.cons_append, List.cons_append, List.append_assoc,
      List.append_assoc] at h
    obtain ⟨rfl, hrest⟩ := chars_append_inj (stops_itemsChars xs r) (stops_itemsChars ys r')
      (List.cons.inj h).2
    obtain ⟨rfl, hend⟩ := itemsChars_append_inj hr hr' hrest
    exact ⟨rfl, hend⟩

theorem membersChars_append_inj : ∀ {xs ys : List (String × Json ν)} {r r' : List Char},
    Stops r → Stops r' → membersChars xs ++ r = membersChars ys ++ r' → xs = ys ∧ r = r'
  | [], [], _, _, _, _, h => ⟨rfl, List.append_cancel_left h⟩
  | [], _ :: _, _, _, _, _, h => by cases (List.cons.inj h).1
  | _ :: _, [], _, _, _, _, h => by cases (List.cons.inj h).1
  | (key, value) :: ms, (key', value') :: ms', r, r', hr, hr', h => by
    rw [membersChars, membersChars, List.cons_append, List.cons_append, List.append_assoc,
      List.append_assoc] at h
    obtain ⟨rfl, hvalue⟩ := quoted_append_inj (List.cons.inj h).2
    rw [List.cons_append, List.cons_append, List.append_assoc, List.append_assoc] at hvalue
    obtain ⟨rfl, hrest⟩ := chars_append_inj (stops_membersChars ms r) (stops_membersChars ms' r')
      (List.cons.inj hvalue).2
    obtain ⟨rfl, hend⟩ := membersChars_append_inj hr hr' hrest
    exact ⟨rfl, hend⟩

end

theorem chars_inj {v w : Json ν} (h : chars v = chars w) : v = w := by
  have hnil : Stops [] := by simp [Stops]
  have happend : chars v ++ [] = chars w ++ [] := by rw [h]
  exact (chars_append_inj hnil hnil happend).1

/-! ## The order of members -/

def sortMembers (members : List (String × Json ν)) : List (String × Json ν) :=
  members.insertionSort fun a b => a.1 ≤ b.1

mutual

def sorted : Json ν → Json ν
  | null => null
  | bool b => bool b
  | num n => num n
  | str s => str s
  | arr items => arr (sortedItems items)
  | obj members => obj (sortMembers (sortedMembers members))

def sortedItems : List (Json ν) → List (Json ν)
  | [] => []
  | item :: items => sorted item :: sortedItems items

def sortedMembers : List (String × Json ν) → List (String × Json ν)
  | [] => []
  | (key, value) :: members => (key, sorted value) :: sortedMembers members

end

def canonical (v : Json ν) : String := String.ofList (chars (sorted v))

theorem canonical_inj {v w : Json ν} : canonical v = canonical w ↔ sorted v = sorted w :=
  ⟨fun h => chars_inj (String.ofList_injective h), fun h => by rw [canonical, canonical, h]⟩

omit [JsonNumber ν] in
theorem sortedMembers_eq (members : List (String × Json ν)) :
    sortedMembers members = members.map fun member => (member.1, sorted member.2) := by
  induction members with
  | nil => rfl
  | cons member members ih => rw [sortedMembers, ih, List.map_cons]

omit [JsonNumber ν] in
theorem mem_sortMembers {members : List (String × Json ν)} {member : String × Json ν} :
    member ∈ sortMembers members ↔ member ∈ members :=
  (List.perm_insertionSort _ members).mem_iff

omit [JsonNumber ν] in
theorem mem_of_sorted_obj {xs ys : List (String × Json ν)} (h : sorted (obj xs) = sorted (obj ys))
    {key : String} {value : Json ν} (hmem : (key, value) ∈ xs) :
    ∃ value', (key, value') ∈ ys ∧ sorted value = sorted value' := by
  have hmembers : sortMembers (sortedMembers xs) = sortMembers (sortedMembers ys) := obj.inj h
  have hsorted : (key, sorted value) ∈ sortMembers (sortedMembers xs) := by
    rw [mem_sortMembers, sortedMembers_eq]
    exact List.mem_map.2 ⟨(key, value), hmem, rfl⟩
  rw [hmembers, mem_sortMembers, sortedMembers_eq] at hsorted
  obtain ⟨⟨key', value'⟩, hys, heq⟩ := List.mem_map.1 hsorted
  obtain ⟨rfl, hvalue⟩ := Prod.mk.inj heq
  exact ⟨value', hys, hvalue.symm⟩

omit [JsonNumber ν] in
theorem pairwise_sortMembers (members : List (String × Json ν)) :
    (sortMembers members).Pairwise fun a b => a.1 ≤ b.1 := by
  have htotal : Std.Total fun a b : String × Json ν => a.1 ≤ b.1 := ⟨fun _ _ => le_total _ _⟩
  have htrans : IsTrans (String × Json ν) fun a b => a.1 ≤ b.1 := ⟨fun _ _ _ => le_trans⟩
  exact List.pairwise_insertionSort _ members

omit [JsonNumber ν] in
theorem sortMembers_perm {xs ys : List (String × Json ν)} (h : xs.Perm ys)
    (nodup : (xs.map (·.1)).Nodup) : sortMembers xs = sortMembers ys := by
  have hxs : (sortMembers xs).Perm xs := List.perm_insertionSort _ xs
  have hys : (sortMembers ys).Perm ys := List.perm_insertionSort _ ys
  refine List.Perm.eq_of_pairwise (fun a b ha hb hab hba => ?_) (pairwise_sortMembers xs)
    (pairwise_sortMembers ys) (hxs.trans (h.trans hys.symm))
  exact List.inj_on_of_nodup_map nodup (hxs.mem_iff.1 ha) (h.mem_iff.2 (hys.mem_iff.1 hb))
    (le_antisymm hab hba)

end Json

end Lib
