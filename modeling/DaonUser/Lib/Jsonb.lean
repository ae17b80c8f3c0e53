import DaonUser.Lib.JsonSame

/-!
# The values that `jsonb` keeps

PostgreSQL keeps the members of an object by the length of their keys, and a number as a decimal
(`Jsonb.stored`). `sorted_reorder`: the order of members is all that changes in a value of distinct
keys, the numbers apart.
-/

namespace Lib.Jsonb

open Json

variable {ν ξ : Type}

/-- Members in the order of `jsonb`: shorter keys first. -/
def orderMembers (members : List (String × Json ν)) : List (String × Json ν) :=
  members.insertionSort fun a b =>
    a.1.utf8ByteSize < b.1.utf8ByteSize ∨ a.1.utf8ByteSize = b.1.utf8ByteSize ∧ a.1 ≤ b.1

mutual

/-- The value with the members of every object in the order of `jsonb`. -/
def reorder : Json ν → Json ν
  | .null => .null
  | .bool b => .bool b
  | .num n => .num n
  | .str s => .str s
  | .arr items => .arr (reorderItems items)
  | .obj members => .obj (orderMembers (reorderMembers members))

def reorderItems : List (Json ν) → List (Json ν)
  | [] => []
  | item :: items => reorder item :: reorderItems items

def reorderMembers : List (String × Json ν) → List (String × Json ν)
  | [] => []
  | (key, value) :: members => (key, reorder value) :: reorderMembers members

end

mutual

def mapNumbers (f : ν → ξ) : Json ν → Json ξ
  | .null => .null
  | .bool b => .bool b
  | .num n => .num (f n)
  | .str s => .str s
  | .arr items => .arr (mapNumbersItems f items)
  | .obj members => .obj (mapNumbersMembers f members)

def mapNumbersItems (f : ν → ξ) : List (Json ν) → List (Json ξ)
  | [] => []
  | item :: items => mapNumbers f item :: mapNumbersItems f items

def mapNumbersMembers (f : ν → ξ) : List (String × Json ν) → List (String × Json ξ)
  | [] => []
  | (key, value) :: members => (key, mapNumbers f value) :: mapNumbersMembers f members

end

/-- What a `jsonb` column prints, for a text whose numbers are these. -/
def stored (numeral : ν → Numeral) (v : Json ν) : Json Numeral :=
  mapNumbers (fun n => (numeral n).plain) (reorder v)

mutual

/-- What `::text` prints: blanks after colons and commas. -/
def textChars (print : ν → List Char) : Json ν → List Char
  | .null => "null".toList
  | .bool b => (if b then "true" else "false").toList
  | .num n => print n
  | .str s => quoted s
  | .arr items => '[' :: textItems print items ++ [']']
  | .obj members => '{' :: textMembers print members ++ ['}']

def textItems (print : ν → List Char) : List (Json ν) → List Char
  | [] => []
  | item :: items =>
    textChars print item ++ (if items.isEmpty then [] else [',', ' ']) ++ textItems print items

def textMembers (print : ν → List Char) : List (String × Json ν) → List Char
  | [] => []
  | (key, value) :: members =>
    quoted key ++ [':', ' '] ++ textChars print value ++
      (if members.isEmpty then [] else [',', ' ']) ++ textMembers print members

end

mutual

/-- `=`: the order of members does not matter, and numbers are compared by `eq`. -/
def equal (eq : ν → ν → Bool) : Json ν → Json ν → Bool
  | .null, .null => true
  | .bool a, .bool b => a == b
  | .num n, .num m => eq n m
  | .str s, .str t => s == t
  | .arr xs, .arr ys => equalItems eq xs ys
  | .obj xs, .obj ys => xs.length == ys.length && equalMembers eq xs ys
  | _, _ => false

def equalItems (eq : ν → ν → Bool) : List (Json ν) → List (Json ν) → Bool
  | [], [] => true
  | x :: xs, y :: ys => equal eq x y && equalItems eq xs ys
  | _, _ => false

def equalMembers (eq : ν → ν → Bool) : List (String × Json ν) → List (String × Json ν) → Bool
  | [], _ => true
  | (key, value) :: members, others =>
    (field? key others).any (equal eq value) && equalMembers eq members others

end

theorem mem_equalMembers {eq : ν → ν → Bool} {xs ys : List (String × Json ν)}
    (h : equalMembers eq xs ys = true) {member : String × Json ν} (hmem : member ∈ xs) :
    ∃ w, field? member.1 ys = some w ∧ equal eq member.2 w = true := by
  induction xs with
  | nil => cases hmem
  | cons x xs ih =>
    rw [equalMembers, Bool.and_eq_true] at h
    rcases List.mem_cons.1 hmem with rfl | hmem
    · obtain ⟨w, hw, hequal⟩ := (Option.any_eq_true _ _).1 h.1
      exact ⟨w, hw, hequal⟩
    · exact ih h.2 hmem

/-- `v->key`. -/
def member? (key : String) : Json ν → Option (Json ν)
  | .obj members => field? key members
  | _ => none

theorem member?_of_equal {eq : ν → ν → Bool} {v w a : Json ν} {key : String}
    (h : equal eq v w = true) (ha : member? key v = some a) :
    ∃ b, member? key w = some b ∧ equal eq a b = true := by
  cases v with
  | obj xs =>
    cases w with
    | obj ys =>
      rw [equal, Bool.and_eq_true] at h
      exact mem_equalMembers h.2 (mem_of_field? ha)
    | _ => cases h
  | _ => cases ha

/-- `v->>key`, of the member `v->key`. -/
def text? (print : ν → List Char) : Json ν → Option String
  | .null => none
  | .str s => some s
  | v => some (String.ofList (textChars print v))

/-- `v->>key`. -/
def memberText? (print : ν → List Char) (key : String) (v : Json ν) : Option String :=
  (member? key v).bind (text? print)

/-- `jsonb_typeof(v) = 'string'`. -/
def isString : Json ν → Bool
  | .str _ => true
  | _ => false

/-- `jsonb_typeof(v) = 'number'`. -/
def isNumber : Json ν → Bool
  | .num _ => true
  | _ => false

mutual

def DistinctKeys : Json ν → Prop
  | .null => True
  | .bool _ => True
  | .num _ => True
  | .str _ => True
  | .arr items => DistinctItems items
  | .obj members => (members.map Prod.fst).Nodup ∧ DistinctMembers members

def DistinctItems : List (Json ν) → Prop
  | [] => True
  | item :: items => DistinctKeys item ∧ DistinctItems items

def DistinctMembers : List (String × Json ν) → Prop
  | [] => True
  | (_, value) :: members => DistinctKeys value ∧ DistinctMembers members

end

theorem reorderMembers_eq (members : List (String × Json ν)) :
    reorderMembers members = members.map fun member => (member.1, reorder member.2) := by
  induction members with
  | nil => rfl
  | cons member members ih => rw [reorderMembers, ih, List.map_cons]

theorem orderMembers_perm (members : List (String × Json ν)) :
    (orderMembers members).Perm members :=
  List.perm_insertionSort _ members

mutual

theorem sorted_reorder : ∀ {v : Json ν}, DistinctKeys v → (reorder v).sorted = v.sorted
  | .null, _ => rfl
  | .bool _, _ => rfl
  | .num _, _ => rfl
  | .str _, _ => rfl
  | .arr items, h => congrArg Json.arr (sorted_reorderItems h)
  | .obj members, ⟨nodup, h⟩ => by
    have hperm : ((orderMembers (reorderMembers members)).map fun m => (m.1, m.2.sorted)).Perm
        ((reorderMembers members).map fun m => (m.1, m.2.sorted)) :=
      (orderMembers_perm _).map _
    rw [← sortedMembers_eq, ← sortedMembers_eq, sorted_reorderMembers h] at hperm
    refine congrArg Json.obj (sortMembers_perm hperm ?_)
    refine (hperm.map Prod.fst).nodup_iff.2 ?_
    rw [sortedMembers_eq, List.map_map]
    exact nodup

theorem sorted_reorderItems : ∀ {items : List (Json ν)}, DistinctItems items →
    sortedItems (reorderItems items) = sortedItems items
  | [], _ => rfl
  | item :: items, ⟨h, hitems⟩ => by
    rw [reorderItems, sortedItems, sorted_reorder h, sorted_reorderItems hitems, sortedItems]

theorem sorted_reorderMembers : ∀ {members : List (String × Json ν)}, DistinctMembers members →
    sortedMembers (reorderMembers members) = sortedMembers members
  | [], _ => rfl
  | (key, value) :: members, ⟨h, hmembers⟩ => by
    rw [reorderMembers, sortedMembers, sorted_reorder h, sorted_reorderMembers hmembers,
      sortedMembers]

end

end Lib.Jsonb
