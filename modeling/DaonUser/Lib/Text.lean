import DaonUser.Lib.JsonRead
import DaonUser.Lib.JsonSize

/-!
# Texts with lone surrogates, and their JSON

A string of Python is a list of code points, which can be halves of surrogate pairs. `dump` writes an object
as `json.dumps` does without `ensure_ascii`: a half passes through. Where no text holds a half the result is
the text of a JSON value (`dump_eq`), and it holds a half only where a text does (`scalar_dump`).
-/

namespace Lib

inductive CodePoint where
  | scalar (c : Char)
  | surrogate (n : Fin 2048)
  deriving DecidableEq

namespace CodePoint

def char? : CodePoint → Option Char
  | scalar c => some c
  | surrogate _ => none

end CodePoint

abbrev Text := List CodePoint

namespace Text

def ofChars (cs : List Char) : Text := cs.map .scalar

def ofString (s : String) : Text := ofChars s.toList

def toChars (t : Text) : List Char := t.filterMap CodePoint.char?

/-- Every code point is a character. -/
def Scalar (t : Text) : Prop := t.all (·.char?.isSome) = true

instance (t : Text) : Decidable t.Scalar := inferInstanceAs (Decidable (_ = _))

/-- The characters that are encoded; `str.encode` raises at a lone surrogate. -/
def string? (t : Text) : Option String := if t.Scalar then some (String.ofList t.toChars) else none

variable {t : Text} {cs : List Char}

@[simp] theorem scalar_ofChars : (ofChars cs).Scalar := by
  simp [Scalar, ofChars, CodePoint.char?]

@[simp] theorem toChars_ofChars : (ofChars cs).toChars = cs := by
  induction cs with
  | nil => rfl
  | cons c cs ih => exact congrArg (c :: ·) ih

theorem ofChars_toChars (h : t.Scalar) : ofChars t.toChars = t := by
  induction t with
  | nil => rfl
  | cons c t ih =>
    obtain ⟨hc, ht⟩ := Bool.and_eq_true_iff.1 h
    cases c with
    | scalar c => exact congrArg (CodePoint.scalar c :: ·) (ih ht)
    | surrogate n => cases hc

theorem ofString_toChars (h : t.Scalar) : ofString (String.ofList t.toChars) = t := by
  rw [ofString, String.toList_ofList, ofChars_toChars h]

theorem string?_eq_some {s : String} : t.string? = some s ↔ t = ofString s := by
  unfold string?
  constructor
  · intro h
    split at h
    · next hscalar =>
      rw [← Option.some.inj h, ofString_toChars hscalar]
    · cases h
  · rintro rfl
    rw [ofString, if_pos scalar_ofChars, toChars_ofChars, String.ofList_toList]

@[simp] theorem string?_ofString (s : String) : (ofString s).string? = some s := string?_eq_some.2 rfl

@[simp] theorem scalar_append {u : Text} : (t ++ u).Scalar ↔ t.Scalar ∧ u.Scalar := by
  simp [Scalar, List.all_append]

@[simp] theorem scalar_cons {c : Char} : Scalar (.scalar c :: t) ↔ t.Scalar := by
  simp [Scalar, CodePoint.char?]

theorem length_toChars (h : t.Scalar) : t.toChars.length = t.length := by
  conv => rhs; rw [← ofChars_toChars h, ofChars, List.length_map]

/-! ## Objects -/

inductive Item where
  | text (t : Text)
  | int (n : Int)

def escape : CodePoint → Text
  | .scalar c => ofChars (Json.escape c)
  | .surrogate n => [.surrogate n]

def quoted (t : Text) : Text := .scalar '"' :: (t.flatMap escape ++ [.scalar '"'])

namespace Item

def written : Item → Text
  | text t => quoted t
  | int n => ofChars (intChars n)

def Scalar : Item → Prop
  | text t => t.Scalar
  | int _ => True

def json : Item → Json Int
  | text t => .str (String.ofList t.toChars)
  | int n => .num n

end Item

def members : List (String × Item) → Text
  | [] => [.scalar '}']
  | (key, item) :: rest =>
    .scalar ',' :: (ofChars (Json.quoted key) ++ .scalar ':' :: (item.written ++ members rest))

/-- `json.dumps` of an object, with `ensure_ascii=False` and without blanks. -/
def dump : List (String × Item) → Text
  | [] => ofChars "{}".toList
  | (key, item) :: rest =>
    .scalar '{' :: (ofChars (Json.quoted key) ++ .scalar ':' :: (item.written ++ members rest))

def value (member : String × Item) : String × Json Int := (member.1, member.2.json)

theorem ofChars_append (ds : List Char) : ofChars (cs ++ ds) = ofChars cs ++ ofChars ds := List.map_append

theorem quoted_eq (h : t.Scalar) : quoted t = ofChars (Json.quoted (String.ofList t.toChars)) := by
  have hescape : ∀ cs : List Char, (ofChars cs).flatMap escape = ofChars (Json.escaped cs) := by
    intro cs
    induction cs with
    | nil => rfl
    | cons c cs ih =>
      rw [Json.escaped, List.flatMap_cons, ofChars_append, ← Json.escaped, ← ih]
      rfl
  conv => lhs; rw [quoted, ← ofChars_toChars h, hescape]
  simp [Json.quoted, ofChars]

theorem written_eq {item : Item} (h : item.Scalar) : item.written = ofChars (Json.chars item.json) := by
  cases item with
  | text t => exact quoted_eq h
  | int n => rfl

theorem members_eq {items : List (String × Item)} (h : ∀ member ∈ items, member.2.Scalar) :
    members items = ofChars (Json.membersChars (items.map value)) := by
  induction items with
  | nil => rfl
  | cons member items ih =>
    rw [members, ih fun m hm => h m (List.mem_cons_of_mem _ hm), written_eq (h _ List.mem_cons_self)]
    simp [Json.membersChars, ofChars, value]

theorem dump_eq {items : List (String × Item)} (h : ∀ member ∈ items, member.2.Scalar) :
    dump items = ofChars (Json.chars (.obj (items.map value))) := by
  cases items with
  | nil => rfl
  | cons member items =>
    rw [dump, members_eq fun m hm => h m (List.mem_cons_of_mem _ hm), written_eq (h _ List.mem_cons_self)]
    simp [Json.chars, ofChars, value]

theorem scalar_quoted : (quoted t).Scalar ↔ t.Scalar := by
  have hescape : Scalar (t.flatMap escape) ↔ t.Scalar := by
    induction t with
    | nil => rfl
    | cons c t ih =>
      cases c with
      | scalar c => simp [escape, ih]
      | surrogate n => simp [escape, Scalar, CodePoint.char?]
  rw [quoted, scalar_cons, scalar_append, hescape]
  exact and_iff_left rfl

theorem scalar_written {item : Item} : item.written.Scalar ↔ item.Scalar := by
  cases item with
  | text t => exact scalar_quoted
  | int n => exact iff_of_true scalar_ofChars trivial

theorem scalar_members {items : List (String × Item)} :
    (members items).Scalar ↔ ∀ member ∈ items, member.2.Scalar := by
  induction items with
  | nil => exact iff_of_true rfl nofun
  | cons member items ih => simp [members, scalar_written, ih]

theorem scalar_dump {items : List (String × Item)} :
    (dump items).Scalar ↔ ∀ member ∈ items, member.2.Scalar := by
  cases items with
  | nil => exact iff_of_true rfl nofun
  | cons member items => simp [dump, scalar_written, scalar_members]

end Text

end Lib
