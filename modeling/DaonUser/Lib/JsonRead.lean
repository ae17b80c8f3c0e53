import DaonUser.Lib.Json

/-!
# Reading JSON texts

`read` reads a value from a text: blanks between tokens, all escapes, surrogate pairs, and numbers that the
type of numbers can read (`ReadableNumber`). What `chars` writes is read again, whatever text follows it
(`readValue_chars`), so `read (canonical v)` is the value with its members in order (`read_canonical`).
`field?` finds the last member with a key.
-/

namespace Lib

/-- Numbers that are read again from their text, and the integers among them. -/
class ReadableNumber (ν : Type) extends JsonNumber ν where
  read : List Char → Option ν
  read_chars : ∀ n, read (chars n) = some n
  ofInt : Int → ν
  toInt? : ν → Option Int
  toInt?_ofInt : ∀ n, toInt? (ofInt n) = some n

namespace Json

/-! ## Strings -/

def hexDigit? (c : Char) : Option Nat :=
  if c.isDigit then some (c.toNat - 48)
  else if 'a' ≤ c ∧ c ≤ 'f' then some (c.toNat - 87)
  else if 'A' ≤ c ∧ c ≤ 'F' then some (c.toNat - 55)
  else none

def readHex : List Char → Option (Nat × List Char)
  | a :: b :: c :: d :: rest => do
    let a ← hexDigit? a
    let b ← hexDigit? b
    let c ← hexDigit? c
    let d ← hexDigit? d
    return (4096 * a + 256 * b + 16 * c + d, rest)
  | _ => none

/-- What follows `\u`: a character, or the two halves of one. -/
def readUnicode (cs : List Char) : Option (Char × List Char) := do
  let (high, rest) ← readHex cs
  if 0xd800 ≤ high ∧ high < 0xdc00 then
    match rest with
    | '\\' :: 'u' :: rest =>
      let (low, rest) ← readHex rest
      if 0xdc00 ≤ low ∧ low < 0xe000 then
        return (Char.ofNat (0x10000 + 0x400 * (high - 0xd800) + (low - 0xdc00)), rest)
      else none
    | _ => none
  else if 0xdc00 ≤ high ∧ high < 0xe000 then none
  else return (Char.ofNat high, rest)

def readChar : List Char → Option (Char × List Char)
  | '\\' :: 'n' :: rest => some ('\n', rest)
  | '\\' :: 'r' :: rest => some ('\r', rest)
  | '\\' :: 't' :: rest => some ('\t', rest)
  | '\\' :: 'f' :: rest => some ('\x0c', rest)
  | '\\' :: 'b' :: rest => some ('\x08', rest)
  | '\\' :: 'u' :: rest => readUnicode rest
  | '\\' :: c :: rest => if c = '"' ∨ c = '\\' ∨ c = '/' then some (c, rest) else none
  | '"' :: _ => none
  | c :: rest => if c.toNat < 32 ∨ c = '\\' then none else some (c, rest)
  | [] => none

def readChars : Nat → List Char → Option (List Char × List Char)
  | 0, _ => none
  | fuel + 1, cs =>
    if cs.head? = some '"' then some ([], cs.tail)
    else do
      let (c, rest) ← readChar cs
      let (more, rest) ← readChars fuel rest
      return (c :: more, rest)

theorem hexDigit?_digitChar : ∀ n < 16, hexDigit? (Nat.digitChar n) = some n := by decide

theorem readUnicode_of_lt {n : Nat} (h : n < 32) (rest : List Char) :
    readUnicode ('0' :: '0' :: Nat.digitChar (n / 16) :: Nat.digitChar (n % 16) :: rest) =
      some (Char.ofNat n, rest) := by
  have hzero : hexDigit? '0' = some 0 := rfl
  have hvalue : 4096 * 0 + 256 * 0 + 16 * (n / 16) + n % 16 = n := by omega
  have hhigh : ¬(0xd800 ≤ n ∧ n < 0xdc00) := by omega
  have hlow : ¬(0xdc00 ≤ n ∧ n < 0xe000) := by omega
  simp only [readUnicode, readHex, hzero, hexDigit?_digitChar _ (show n / 16 < 16 by omega),
    hexDigit?_digitChar _ (show n % 16 < 16 by omega), Option.bind_eq_bind, Option.bind_some,
    Option.pure_def, hvalue, if_neg hhigh, if_neg hlow]

theorem readChar_escape (c : Char) (rest : List Char) :
    readChar (escape c ++ rest) = some (c, rest) := by
  unfold escape
  split
  · next h => subst h; rfl
  split
  · next h => subst h; rfl
  split
  · next h => subst h; rfl
  split
  · next h => subst h; rfl
  split
  · next h => subst h; rfl
  split
  · next h => subst h; rfl
  split
  · next h => subst h; rfl
  split
  · next h =>
    change readUnicode ('0' :: '0' :: Nat.digitChar _ :: Nat.digitChar _ :: rest) = _
    rw [readUnicode_of_lt h, Char.ofNat_toNat]
  · next hquote hback _ _ _ _ _ hlarge =>
    rw [List.cons_append, List.nil_append]
    unfold readChar
    split <;> simp_all

theorem escape_head_ne (c : Char) (rest : List Char) : (escape c ++ rest).head? ≠ some '"' := by
  unfold escape
  split_ifs <;> simp_all

theorem readChars_escaped {cs : List Char} {fuel : Nat} (h : cs.length < fuel) (rest : List Char) :
    readChars fuel (escaped cs ++ '"' :: rest) = some (cs, rest) := by
  induction cs generalizing fuel with
  | nil =>
    obtain ⟨fuel, rfl⟩ : ∃ k, fuel = k + 1 := ⟨fuel - 1, by simp at h; omega⟩
    rfl
  | cons c cs ih =>
    obtain ⟨fuel, rfl⟩ : ∃ k, fuel = k + 1 := ⟨fuel - 1, by simp at h; omega⟩
    have hread := readChar_escape c (escaped cs ++ '"' :: rest)
    have hhead := escape_head_ne c (escaped cs ++ '"' :: rest)
    have hlength : cs.length < fuel := by simpa using h
    simp only [escaped, List.flatMap_cons, List.append_assoc] at *
    simp only [readChars, if_neg hhead, hread, ih hlength, Option.bind_eq_bind, Option.bind_some,
      Option.pure_def]

def skipBlanks (cs : List Char) : List Char := cs.dropWhile fun c => " \t\n\r".toList.contains c

variable {ν : Type} [ReadableNumber ν]

def readNumber (cs : List Char) : Option (Json ν × List Char) :=
  (ReadableNumber.read (cs.takeWhile isNumeralChar)).map fun n => (num n, cs.dropWhile isNumeralChar)

mutual

def readValue : Nat → List Char → Option (Json ν × List Char)
  | 0, _ => none
  | fuel + 1, cs =>
    match skipBlanks cs with
    | 'n' :: 'u' :: 'l' :: 'l' :: rest => some (null, rest)
    | 't' :: 'r' :: 'u' :: 'e' :: rest => some (bool true, rest)
    | 'f' :: 'a' :: 'l' :: 's' :: 'e' :: rest => some (bool false, rest)
    | '"' :: rest => (readChars fuel rest).map fun s => (str (String.ofList s.1), s.2)
    | '[' :: rest =>
      if (skipBlanks rest).head? = some ']' then some (arr [], (skipBlanks rest).tail)
      else (readItems fuel rest).map fun items => (arr items.1, items.2)
    | '{' :: rest =>
      if (skipBlanks rest).head? = some '}' then some (obj [], (skipBlanks rest).tail)
      else (readMembers fuel rest).map fun members => (obj members.1, members.2)
    | rest => readNumber rest

def readItems : Nat → List Char → Option (List (Json ν) × List Char)
  | 0, _ => none
  | fuel + 1, cs => do
    let (item, rest) ← readValue fuel cs
    match skipBlanks rest with
    | ']' :: rest => some ([item], rest)
    | ',' :: rest => (readItems fuel rest).map fun items => (item :: items.1, items.2)
    | _ => none

def readMembers : Nat → List Char → Option (List (String × Json ν) × List Char)
  | 0, _ => none
  | fuel + 1, cs => do
    let (key, rest) ← match skipBlanks cs with
      | '"' :: rest => readChars fuel rest
      | _ => none
    let (value, rest) ← match skipBlanks rest with
      | ':' :: rest => readValue fuel rest
      | _ => none
    match skipBlanks rest with
    | '}' :: rest => some ([(String.ofList key, value)], rest)
    | ',' :: rest =>
      (readMembers fuel rest).map fun members => ((String.ofList key, value) :: members.1, members.2)
    | _ => none

end

def read (text : String) : Option (Json ν) :=
  (readValue (text.toList.length + 1) text.toList).bind fun value =>
    if skipBlanks value.2 = [] then some value.1 else none

/-! ## Round trip -/

theorem length_le_escaped (cs : List Char) : cs.length ≤ (escaped cs).length := by
  induction cs with
  | nil => simp
  | cons c cs ih =>
    have hescape : 1 ≤ (escape c).length := by
      unfold escape
      split_ifs <;> simp
    simp only [escaped, List.flatMap_cons, List.length_append, List.length_cons] at *
    omega

theorem skipBlanks_cons {c : Char} {cs : List Char} (h : " \t\n\r".toList.contains c = false) :
    skipBlanks (c :: cs) = c :: cs := by
  rw [skipBlanks, List.dropWhile_cons_of_neg]
  simpa using h

theorem skipBlanks_chars (v : Json ν) (r : List Char) : skipBlanks (chars v ++ r) = chars v ++ r := by
  obtain ⟨c, cs, hv, hc⟩ := kindOf_head v r
  rw [hv]
  refine skipBlanks_cons (Bool.eq_false_iff.2 fun hblank => kind_ne v ?_)
  have hmem : c = ' ' ∨ c = '\t' ∨ c = '\n' ∨ c = '\r' := by simpa using hblank
  rw [← hc]
  rcases hmem with rfl | rfl | rfl | rfl <;> decide

theorem head?_chars_ne (v : Json ν) {c : Char} (hc : kindOf c = 7) (r : List Char) :
    (skipBlanks (chars v ++ r)).head? ≠ some c := by
  rw [skipBlanks_chars]
  intro h
  obtain ⟨rest, hrest⟩ := List.head?_eq_some_iff.1 h
  exact chars_append_ne hc hrest

theorem takeWhile_chars {cs r : List Char} (hcs : ∀ c ∈ cs, isNumeralChar c = true) (hr : Stops r) :
    (cs ++ r).takeWhile isNumeralChar = cs ∧ (cs ++ r).dropWhile isNumeralChar = r := by
  induction cs with
  | nil =>
    cases r with
    | nil => exact ⟨rfl, rfl⟩
    | cons c r =>
      have hstop : isNumeralChar c = false := hr c rfl
      simp [hstop]
  | cons c cs ih =>
    obtain ⟨htake, hdrop⟩ := ih fun c' hc' => hcs c' (List.mem_cons_of_mem _ hc')
    have hc : isNumeralChar c = true := hcs c List.mem_cons_self
    simp [hc, htake, hdrop]

theorem readQuoted {s : String} {fuel : Nat} (h : (quoted s).length ≤ fuel + 1) (r : List Char) :
    readChars fuel (escaped s.toList ++ '"' :: r) = some (s.toList, r) := by
  refine readChars_escaped ?_ r
  have hle := length_le_escaped s.toList
  simp only [quoted, List.length_cons, List.length_append, List.length_nil] at h
  omega

theorem readValue_num (n : ν) {fuel : Nat} {r : List Char} (hr : Stops r) :
    readValue (fuel + 1) (chars (num n) ++ r) = some (num n, r) := by
  obtain ⟨htake, hdrop⟩ := takeWhile_chars (JsonNumber.numeral n) hr
  have hread : readNumber (ν := ν) (chars (num n) ++ r) = some (num n, r) := by
    rw [readNumber, chars, htake, hdrop, ReadableNumber.read_chars, Option.map_some]
  obtain ⟨c, cs, hcs⟩ := List.exists_cons_of_ne_nil (JsonNumber.nonempty n)
  have hnumeral : isNumeralChar c = true :=
    JsonNumber.numeral n c (by rw [hcs]; exact List.mem_cons_self)
  have htext : chars (num n) ++ r = c :: (cs ++ r) := by rw [chars, hcs, List.cons_append]
  rw [readValue, skipBlanks_chars]
  rw [htext] at hread ⊢
  -- none of the other values begins with a character of a numeral
  split
  all_goals first
    | exact hread
    | next h => exact absurd ((List.cons.inj h).1 ▸ hnumeral) (by decide)

mutual

theorem readValue_chars : ∀ (v : Json ν) {fuel : Nat} {r : List Char}, Stops r →
    (chars v).length < fuel → readValue fuel (chars v ++ r) = some (v, r)
  | _, 0, _, _, h => absurd h (by omega)
  | null, fuel + 1, r, _, _ => rfl
  | bool true, fuel + 1, r, _, _ => rfl
  | bool false, fuel + 1, r, _, _ => rfl
  | str s, fuel + 1, r, _, h => by
    have hquoted : readChars fuel (escaped s.toList ++ '"' :: r) = some (s.toList, r) :=
      readQuoted (Nat.le_of_lt h) r
    rw [chars, quoted, List.cons_append, List.append_assoc, List.singleton_append]
    simp only [readValue, skipBlanks_cons (c := '"') rfl, hquoted, Option.map_some,
      String.ofList_toList]
  | num n, fuel + 1, r, hr, _ => readValue_num n hr
  | arr [], fuel + 1, r, _, _ => rfl
  | obj [], fuel + 1, r, _, _ => rfl
  | arr (item :: items), fuel + 1, r, _, h => by
    have hitems : readItems fuel (chars item ++ (itemsChars items ++ r)) = some (item :: items, r) :=
      readItems_chars item items (by
        simp only [chars, List.length_cons, List.length_append] at h
        omega)
    have hne : ¬(skipBlanks (chars item ++ (itemsChars items ++ r))).head? = some ']' :=
      head?_chars_ne item rfl _
    rw [chars, List.cons_append, List.append_assoc]
    simp only [readValue, skipBlanks_cons (c := '[') rfl, if_neg hne, hitems, Option.map_some]
  | obj ((key, value) :: members), fuel + 1, r, _, h => by
    have hmembers : readMembers fuel (quoted key ++ ':' :: (chars value ++ (membersChars members ++ r))) =
        some ((key, value) :: members, r) :=
      readMembers_chars key value members (by
        simp only [chars, List.length_cons, List.length_append] at h
        omega)
    have hne : ¬(skipBlanks (quoted key ++ ':' :: (chars value ++ (membersChars members ++ r)))).head? =
        some '}' := by
      rw [quoted, List.cons_append, skipBlanks_cons (c := '"') rfl]
      simp
    rw [chars, List.cons_append, List.append_assoc, List.cons_append, List.append_assoc]
    simp only [readValue, skipBlanks_cons (c := '{') rfl, if_neg hne, hmembers, Option.map_some]

theorem readItems_chars : ∀ (item : Json ν) (items : List (Json ν)) {fuel : Nat} {r : List Char},
    (chars item).length + (itemsChars items).length < fuel →
    readItems fuel (chars item ++ (itemsChars items ++ r)) = some (item :: items, r)
  | _, _, 0, _, h => absurd h (by omega)
  | item, [], fuel + 1, r, h => by
    have hitem : readValue fuel (chars item ++ ']' :: r) = some (item, ']' :: r) :=
      readValue_chars item (stops_cons (by decide)) (by
        simp only [itemsChars, List.length_singleton] at h
        omega)
    simp only [itemsChars, List.singleton_append, readItems, hitem, Option.bind_eq_bind,
      Option.bind_some, skipBlanks_cons (c := ']') rfl]
  | item, next :: items, fuel + 1, r, h => by
    simp only [itemsChars, List.length_cons, List.length_append] at h
    have hitem : readValue fuel (chars item ++ ',' :: (chars next ++ (itemsChars items ++ r))) =
        some (item, ',' :: (chars next ++ (itemsChars items ++ r))) :=
      readValue_chars item (stops_cons (by decide)) (by omega)
    have hitems : readItems fuel (chars next ++ (itemsChars items ++ r)) = some (next :: items, r) :=
      readItems_chars next items (by omega)
    simp only [itemsChars, List.cons_append, List.append_assoc, readItems, hitem, hitems,
      Option.bind_eq_bind, Option.bind_some, Option.map_some, skipBlanks_cons (c := ',') rfl]

theorem readMembers_chars : ∀ (key : String) (value : Json ν) (members : List (String × Json ν))
    {fuel : Nat} {r : List Char},
    (quoted key).length + (chars value).length + (membersChars members).length < fuel →
    readMembers fuel (quoted key ++ ':' :: (chars value ++ (membersChars members ++ r))) =
      some ((key, value) :: members, r)
  | _, _, _, 0, _, h => absurd h (by omega)
  | key, value, [], fuel + 1, r, h => by
    simp only [membersChars, List.length_singleton] at h
    have hkey : readChars fuel (escaped key.toList ++ '"' :: ':' :: (chars value ++ '}' :: r)) =
        some (key.toList, ':' :: (chars value ++ '}' :: r)) := readQuoted (by omega) _
    have hvalue : readValue fuel (chars value ++ '}' :: r) = some (value, '}' :: r) :=
      readValue_chars value (stops_cons (by decide)) (by omega)
    simp only [quoted, membersChars, List.cons_append, List.append_assoc, List.nil_append,
      readMembers, skipBlanks_cons (c := '"') rfl, hkey, skipBlanks_cons (c := ':') rfl, hvalue,
      skipBlanks_cons (c := '}') rfl, Option.bind_eq_bind, Option.bind_some, String.ofList_toList]
  | key, value, (key', value') :: members, fuel + 1, r, h => by
    simp only [membersChars, List.length_cons, List.length_append] at h
    have hmembers : readMembers fuel
        (quoted key' ++ ':' :: (chars value' ++ (membersChars members ++ r))) =
          some ((key', value') :: members, r) := readMembers_chars key' value' members (by omega)
    generalize hrest : quoted key' ++ ':' :: (chars value' ++ (membersChars members ++ r)) = rest at hmembers
    have hkey : readChars fuel (escaped key.toList ++ '"' :: ':' :: (chars value ++ ',' :: rest)) =
        some (key.toList, ':' :: (chars value ++ ',' :: rest)) := readQuoted (by omega) _
    have hvalue : readValue fuel (chars value ++ ',' :: rest) = some (value, ',' :: rest) :=
      readValue_chars value (stops_cons (by decide)) (by omega)
    rw [membersChars, List.cons_append, List.append_assoc, List.cons_append, List.append_assoc, hrest]
    simp only [quoted, List.cons_append, List.append_assoc, List.nil_append, readMembers,
      skipBlanks_cons (c := '"') rfl, hkey, skipBlanks_cons (c := ':') rfl, hvalue,
      skipBlanks_cons (c := ',') rfl, hmembers, Option.bind_eq_bind, Option.bind_some,
      Option.map_some, String.ofList_toList]

end

theorem read_chars (v : Json ν) : read (String.ofList (chars v)) = some v := by
  have hread : readValue ((chars v).length + 1) (chars v ++ []) = some (v, []) :=
    readValue_chars v (by simp [Stops]) (by omega)
  rw [List.append_nil] at hread
  rw [read, String.toList_ofList, hread]
  rfl

theorem read_canonical (v : Json ν) : read (canonical v) = some (sorted v) := read_chars (sorted v)

omit [ReadableNumber ν] in
mutual

theorem sorted_sorted : ∀ v : Json ν, sorted (sorted v) = sorted v
  | null => rfl
  | bool _ => rfl
  | num _ => rfl
  | str _ => rfl
  | arr items => congrArg arr (sortedItems_sortedItems items)
  | obj members => by
    have hvalues : sortedMembers (sortMembers (sortedMembers members)) =
        sortMembers (sortedMembers members) := by
      rw [sortedMembers_eq (sortMembers _)]
      refine (List.map_congr_left fun member hmem => ?_).trans (List.map_id _)
      exact Prod.ext rfl (sorted_of_mem members member (mem_sortMembers.1 hmem))
    rw [sorted, sorted, hvalues]
    exact congrArg obj (pairwise_sortMembers _).insertionSort_eq

theorem sortedItems_sortedItems : ∀ items : List (Json ν),
    sortedItems (sortedItems items) = sortedItems items
  | [] => rfl
  | item :: items => by
    rw [sortedItems, sortedItems, sorted_sorted item, sortedItems_sortedItems items]

theorem sorted_of_mem : ∀ (members : List (String × Json ν)) (member : String × Json ν),
    member ∈ sortedMembers members → sorted member.2 = member.2
  | (key, value) :: members, member, hmem => by
    rw [sortedMembers, List.mem_cons] at hmem
    rcases hmem with heq | hmem
    · rw [heq]
      exact sorted_sorted value
    · exact sorted_of_mem members member hmem

end

def field? (key : String) (members : List (String × Json ν)) : Option (Json ν) :=
  (members.reverse.find? (·.1 = key)).map (·.2)

/-! ## Reading values -/

def text? : Json ν → Option String
  | str s => some s
  | _ => none

def nat? : Json ν → Option Nat
  | num n => (ReadableNumber.toInt? n).bind fun n => if 0 ≤ n then some n.toNat else none
  | _ => none

def items? : Json ν → Option (List (Json ν))
  | arr items => some items
  | _ => none

def members? : Json ν → Option (List (String × Json ν))
  | obj members => some members
  | _ => none

/-- The members have these keys and no others. -/
def HasKeys (keys : List String) (members : List (String × Json ν)) : Prop :=
  (∀ member ∈ members, member.1 ∈ keys) ∧ ∀ key ∈ keys, key ∈ members.map (·.1)

instance (keys : List String) (members : List (String × Json ν)) : Decidable (HasKeys keys members) :=
  inferInstanceAs (Decidable (_ ∧ _))

def textOf? (key : String) (members : List (String × Json ν)) : Option String :=
  (field? key members).bind text?

def natOf? (key : String) (members : List (String × Json ν)) : Option Nat :=
  (field? key members).bind nat?

end Json

def intChars (n : Int) : List Char :=
  if n < 0 then '-' :: Nat.toDigits 10 n.natAbs else Nat.toDigits 10 n.natAbs

def readInt : List Char → Option Int
  | '-' :: cs => if cs ≠ [] ∧ cs.all Char.isDigit then some (-(Nat.ofDigitChars 10 cs 0 : Int)) else none
  | cs => if cs ≠ [] ∧ cs.all Char.isDigit then some (Nat.ofDigitChars 10 cs 0 : Int) else none

theorem readInt_intChars (n : Int) : readInt (intChars n) = some n := by
  have hdigits : ∀ m : Nat, Nat.toDigits 10 m ≠ [] ∧ (Nat.toDigits 10 m).all Char.isDigit = true :=
    fun m => ⟨Nat.toDigits_ne_nil, List.all_eq_true.2 fun c hc => isDigit_toDigits c hc⟩
  unfold intChars
  split
  · next h =>
    rw [readInt, if_pos (hdigits _), Nat.ofDigitChars_ten_toDigits]
    congr 1
    omega
  · next h =>
    obtain ⟨c, cs, hcs⟩ := List.exists_cons_of_ne_nil (hdigits n.natAbs).1
    have hc : c ≠ '-' := by
      intro heq
      have hdigit := isDigit_toDigits c (hcs ▸ List.mem_cons_self)
      rw [heq] at hdigit
      exact absurd hdigit (by decide)
    have hread : readInt (c :: cs) = if c :: cs ≠ [] ∧ (c :: cs).all Char.isDigit then
        some (Nat.ofDigitChars 10 (c :: cs) 0 : Int) else none := by
      unfold readInt
      split
      · next heq => exact absurd (List.cons.inj heq).1 hc
      · rfl
    rw [hcs, hread, ← hcs, if_pos (hdigits _), Nat.ofDigitChars_ten_toDigits]
    congr 1
    omega

instance : ReadableNumber Int where
  chars := intChars
  numeral n c hc := by
    unfold intChars at hc
    split at hc
    · rcases List.mem_cons.1 hc with rfl | hc
      · decide
      · exact isNumeralChar_of_isDigit (isDigit_toDigits c hc)
    · exact isNumeralChar_of_isDigit (isDigit_toDigits c hc)
  nonempty n := by
    unfold intChars
    split
    · simp
    · exact Nat.toDigits_ne_nil
  injective n m h := by
    have hread := congrArg readInt h
    rw [readInt_intChars, readInt_intChars] at hread
    exact Option.some.inj hread
  read := readInt
  read_chars := readInt_intChars
  ofInt n := n
  toInt? n := some n
  toInt?_ofInt _ := rfl

end Lib
