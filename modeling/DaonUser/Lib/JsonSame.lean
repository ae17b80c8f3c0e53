import DaonUser.Lib.JsonRead

/-!
# Equality of JSON values

`same` compares values as Python does: the order of members does not matter, of repeated keys the last one
counts, `true` is the number one, and numbers are compared by their value. What `canonical` writes is read
as a value that is the same (`same_sorted`), and values that are the same have the same members
(`field?_of_same`).
-/

namespace Lib

/-- Numbers with an equality by value, whose integers are written in decimal. -/
class PythonNumber (ν : Type) extends ReadableNumber ν where
  same : ν → ν → Bool
  same_refl : ∀ n, same n n = true
  int_of_same : ∀ {n m a b}, same n m = true → toInt? n = some a → toInt? m = some b → a = b
  chars_ofInt : ∀ n : Int, chars (ofInt n) = intChars n

instance : PythonNumber Int where
  same n m := n = m
  same_refl n := by simp
  int_of_same hsame hn hm := by
    rw [← Option.some.inj hn, ← Option.some.inj hm]
    simpa using hsame
  chars_ofInt _ := rfl

namespace Json

variable {ν : Type}

/-! ## The last member of a key -/

@[simp] theorem field?_nil (key : String) : field? key ([] : List (String × Json ν)) = none := rfl

theorem field?_cons (key : String) (member : String × Json ν) (members : List (String × Json ν)) :
    field? key (member :: members) =
      (field? key members).or (if member.1 = key then some member.2 else none) := by
  unfold field?
  rw [List.reverse_cons, List.find?_append]
  cases members.reverse.find? (·.1 = key) with
  | none => by_cases h : member.1 = key <;> simp [h]
  | some found => rfl

theorem mem_of_field? {key : String} {value : Json ν} {members : List (String × Json ν)}
    (h : field? key members = some value) : (key, value) ∈ members := by
  obtain ⟨member, hfind, rfl⟩ := Option.map_eq_some_iff.1 h
  have hkey : member.1 = key := by simpa using List.find?_some hfind
  rw [← hkey]
  exact List.mem_reverse.1 (List.mem_of_find?_eq_some hfind)

theorem field?_isSome {key : String} {members : List (String × Json ν)} :
    (field? key members).isSome = true ↔ key ∈ members.map (·.1) := by
  induction members with
  | nil => simp
  | cons member members ih =>
    rw [field?_cons, List.map_cons, List.mem_cons, ← ih]
    cases field? key members with
    | none =>
      by_cases h : member.1 = key
      · simp [h]
      · simp [h, Ne.symm h]
    | some value => simp

theorem field?_of_mem {key : String} {value : Json ν} {members : List (String × Json ν)}
    (hnodup : (members.map (·.1)).Nodup) (hmem : (key, value) ∈ members) :
    field? key members = some value := by
  obtain ⟨found, hfound⟩ := Option.isSome_iff_exists.1
    (field?_isSome.2 (List.mem_map.2 ⟨(key, value), hmem, rfl⟩))
  have heq := List.inj_on_of_nodup_map hnodup (mem_of_field? hfound) hmem rfl
  rw [hfound, (Prod.mk.inj heq).2]

theorem field?_orderedInsert (key : String) (member : String × Json ν)
    (members : List (String × Json ν)) :
    field? key (members.orderedInsert (fun a b => a.1 ≤ b.1) member) =
      field? key (member :: members) := by
  induction members with
  | nil => rfl
  | cons head members ih =>
    rw [List.orderedInsert_cons]
    split
    · rfl
    · next hle =>
      rw [field?_cons, ih, field?_cons, field?_cons, field?_cons]
      -- the two keys differ, so that at most one of them is the key
      have hne : member.1 ≠ head.1 := fun heq => hle (le_of_eq heq)
      by_cases hmember : member.1 = key
      · have hhead : head.1 ≠ key := fun heq => hne (hmember.trans heq.symm)
        simp [hmember, hhead]
      · simp [hmember]

theorem field?_sortMembers (key : String) (members : List (String × Json ν)) :
    field? key (sortMembers members) = field? key members := by
  induction members with
  | nil => rfl
  | cons member members ih =>
    rw [sortMembers, List.insertionSort_cons, field?_orderedInsert, field?_cons, field?_cons]
    exact congrArg (Option.or · _) ih

theorem field?_sortedMembers (key : String) (members : List (String × Json ν)) :
    field? key (sortedMembers members) = (field? key members).map sorted := by
  induction members with
  | nil => rfl
  | cons member members ih =>
    rw [sortedMembers, field?_cons, field?_cons, ih]
    cases field? key members with
    | none => by_cases h : member.1 = key <;> simp [h]
    | some value => rfl

/-! ## Reading a sorted value -/

theorem text?_sorted (v : Json ν) : text? v.sorted = text? v := by
  cases v <;> rfl

theorem nat?_sorted [ReadableNumber ν] (v : Json ν) : nat? v.sorted = nat? v := by
  cases v <;> rfl

theorem sortedItems_eq (items : List (Json ν)) : sortedItems items = items.map sorted := by
  induction items with
  | nil => rfl
  | cons item items ih => rw [sortedItems, ih, List.map_cons]

theorem items?_sorted (v : Json ν) : items? v.sorted = (items? v).map (·.map sorted) := by
  cases v with
  | arr items => exact congrArg some (sortedItems_eq items)
  | _ => rfl

/-! ## Equality -/

section Equality

variable [PythonNumber ν]

mutual

/-- `==` -/
def same : Json ν → Json ν → Bool
  | null, null => true
  | bool a, bool b => a == b
  | bool a, num n => PythonNumber.same (ReadableNumber.ofInt a.toInt) n
  | num n, bool a => PythonNumber.same n (ReadableNumber.ofInt a.toInt)
  | num n, num m => PythonNumber.same n m
  | str s, str t => s == t
  | arr xs, arr ys => sameItems xs ys
  | obj xs, obj ys => sameMembers xs ys && ys.all fun member => xs.any (·.1 = member.1)
  | _, _ => false

def sameItems : List (Json ν) → List (Json ν) → Bool
  | [], [] => true
  | x :: xs, y :: ys => same x y && sameItems xs ys
  | _, _ => false

def sameMembers : List (String × Json ν) → List (String × Json ν) → Bool
  | [], _ => true
  | (key, value) :: members, others =>
    (members.any (·.1 = key) || (field? key others).any (same value)) && sameMembers members others

end

theorem sameMembers_iff {xs ys : List (String × Json ν)} :
    sameMembers xs ys = true ↔
      ∀ key value, field? key xs = some value → ∃ w, field? key ys = some w ∧ same value w = true := by
  induction xs with
  | nil => simp [sameMembers]
  | cons member xs ih =>
    rw [sameMembers, Bool.and_eq_true, ih, Bool.or_eq_true]
    have hmore : (xs.any (·.1 = member.1)) = true ↔ (field? member.1 xs).isSome = true := by
      rw [field?_isSome]
      simp
    constructor
    · rintro ⟨hhead, htail⟩ key value hvalue
      rw [field?_cons] at hvalue
      cases hfield : field? key xs with
      | some found =>
        rw [hfield, Option.some_or] at hvalue
        exact htail key value (hfield.trans hvalue)
      | none =>
        rw [hfield, Option.none_or] at hvalue
        split at hvalue
        · next heq =>
          cases hvalue
          subst heq
          rw [hmore, hfield] at hhead
          rcases hhead with hhead | hhead
          · cases hhead
          · obtain ⟨w, hw, hsame⟩ := (Option.any_eq_true _ _).1 hhead
            exact ⟨w, hw, hsame⟩
        · cases hvalue
    · intro h
      constructor
      · cases hfield : field? member.1 xs with
        | some found => exact .inl (hmore.2 (by rw [hfield]; rfl))
        | none =>
          obtain ⟨w, hw, hsame⟩ := h member.1 member.2 (by rw [field?_cons, hfield]; simp)
          exact .inr ((Option.any_eq_true _ _).2 ⟨w, hw, hsame⟩)
      · intro key value hvalue
        exact h key value (by rw [field?_cons, hvalue, Option.some_or])

theorem sameItems_iff {xs ys : List (Json ν)} :
    sameItems xs ys = true ↔ List.Forall₂ (fun x y => same x y = true) xs ys := by
  induction xs generalizing ys with
  | nil => cases ys <;> simp [sameItems]
  | cons x xs ih => cases ys <;> simp [sameItems, ih]

theorem field?_of_same {xs ys : List (String × Json ν)} (h : same (obj xs) (obj ys) = true)
    {key : String} {value : Json ν} (hvalue : field? key xs = some value) :
    ∃ w, field? key ys = some w ∧ same value w = true := by
  rw [same, Bool.and_eq_true] at h
  exact sameMembers_iff.1 h.1 key value hvalue

theorem eq_of_same_str {v : Json ν} {s : String} (h : same v (str s) = true) : v = str s := by
  cases v <;> simp_all [same]

theorem nat?_of_same {v w : Json ν} {n m : Nat} (h : same v w = true) (hv : nat? v = some n)
    (hw : nat? w = some m) : n = m := by
  cases v with
  | num a =>
    cases w with
    | num b =>
      obtain ⟨x, hx, hn⟩ := Option.bind_eq_some_iff.1 hv
      obtain ⟨y, hy, hm⟩ := Option.bind_eq_some_iff.1 hw
      have heq : x = y := PythonNumber.int_of_same h hx hy
      subst heq
      rw [hn] at hm
      exact Option.some.inj hm
    | _ => cases hw
  | _ => cases hv

theorem items_of_same {v : Json ν} {ys : List (Json ν)} (h : same v (arr ys) = true) :
    ∃ xs, v = arr xs ∧ List.Forall₂ (fun x y => same x y = true) xs ys := by
  cases v with
  | arr xs => exact ⟨xs, rfl, sameItems_iff.1 h⟩
  | _ => cases h

mutual

theorem same_sorted : ∀ v : Json ν, same (sorted v) v = true
  | null => rfl
  | bool _ => by simp [sorted, same]
  | num n => PythonNumber.same_refl n
  | str _ => by simp [sorted, same]
  | arr items => by
    rw [sorted, same]
    exact sameItems_sorted items
  | obj members => by
    rw [sorted, same, Bool.and_eq_true]
    constructor
    · rw [sameMembers_iff]
      intro key value hvalue
      rw [field?_sortMembers, field?_sortedMembers] at hvalue
      obtain ⟨w, hw, rfl⟩ := Option.map_eq_some_iff.1 hvalue
      exact ⟨w, hw, same_sorted_of_mem members (key, w) (mem_of_field? hw)⟩
    · rw [List.all_eq_true]
      intro member hmem
      rw [List.any_eq_true]
      refine ⟨(member.1, sorted member.2), ?_, by simp⟩
      rw [mem_sortMembers, sortedMembers_eq]
      exact List.mem_map.2 ⟨member, hmem, rfl⟩

theorem sameItems_sorted : ∀ items : List (Json ν), sameItems (sortedItems items) items = true
  | [] => rfl
  | item :: items => by
    rw [sortedItems, sameItems, same_sorted item, sameItems_sorted items, Bool.and_self]

theorem same_sorted_of_mem : ∀ (members : List (String × Json ν)) (member : String × Json ν),
    member ∈ members → same (sorted member.2) member.2 = true
  | (key, value) :: members, member, hmem => by
    rcases List.mem_cons.1 hmem with heq | hmem
    · rw [heq]
      exact same_sorted value
    · exact same_sorted_of_mem members member hmem

end

end Equality

end Json

end Lib
