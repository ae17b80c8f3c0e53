import Mathlib.Logic.Function.Basic
import Mathlib.Data.List.Basic

/-!
# What the services share

The patterns that ids, digests and content types must match, the values that `_fingerprint` dumps
before it hashes them, and the tokens that `secrets.token_hex` draws.

SHA-256 is not computed here: a service takes its digest as a parameter, and what is proved of the
service holds for every digest function.
-/

namespace DaonUser

/-! ## Patterns -/

/-- A character that `_SAFE_ID` allows after the first one. -/
def isIdChar (c : Char) : Bool := c.isAlphanum || "._:-".toList.contains c

/-- `_SAFE_ID.fullmatch`. -/
def isSafeId (s : String) : Bool :=
  match s.toList with
  | [] => false
  | c :: cs => c.isAlphanum && cs.all isIdChar && cs.length ≤ 127

/-- `_SAFE_ID.fullmatch` and `_ID.fullmatch`, where ids have up to 256 characters. -/
def isLongId (s : String) : Bool :=
  match s.toList with
  | [] => false
  | c :: cs => c.isAlphanum && cs.all isIdChar && cs.length ≤ 255

/-- `_DIGEST.fullmatch`. -/
def isDigest (s : String) : Bool :=
  s.toList.all (fun c => "0123456789abcdef".toList.contains c) && s.toList.length = 64

/-- A character that `_CONTENT_TYPE` allows after the first one. -/
def isContentTypeChar (c : Char) : Bool := c.isAlphanum || "!#$&^_.+-/".toList.contains c

/-- `_CONTENT_TYPE.fullmatch`. -/
def isContentType (s : String) : Bool :=
  match s.toList with
  | [] => false
  | c :: cs => c.isAlphanum && cs.all isContentTypeChar && cs.length ≤ 254

/-- `str.startswith`. -/
def startsWith (s pre : String) : Bool := pre.toList.isPrefixOf s.toList

/-- `str.isspace`, of one character. -/
def isSpace (c : Char) : Bool :=
  (9 ≤ c.toNat && c.toNat ≤ 13) || (28 ≤ c.toNat && c.toNat ≤ 32) ||
    [0x85, 0xa0, 0x1680, 0x2028, 0x2029, 0x202f, 0x205f, 0x3000].contains c.toNat ||
    (0x2000 ≤ c.toNat && c.toNat ≤ 0x200a)

def stripChars (p : Char → Bool) (cs : List Char) : List Char :=
  ((cs.dropWhile p).reverse.dropWhile p).reverse

/-! ## Dumped values -/

/-- A value as `json.dumps` meets it. A moment stands for its ISO text. -/
inductive Dumped where
  | null
  | bool (b : Bool)
  | int (n : Int)
  | str (s : String)
  | moment (microseconds : Int)
  | list (values : List Dumped)
  | dict (fields : List (String × Dumped))

namespace Dumped

def optional : Option String → Dumped
  | none => null
  | some s => str s

end Dumped

/-- An `expected_version` or `if_match` argument: `"*"`, a number, or anything else. -/
inductive ExpectedVersion where
  | any
  | version (n : Int)
  | malformed (text : String)
  deriving DecidableEq

namespace ExpectedVersion

/-- The argument as `_fingerprint` sees it. -/
def dumped : ExpectedVersion → Dumped
  | any => .str "*"
  | version n => .int n
  | malformed text => .str text

/-- `"*"` or a positive number. -/
def wellFormed : ExpectedVersion → Bool
  | any => true
  | version n => 1 ≤ n
  | malformed _ => false

end ExpectedVersion

/-! ## Tokens -/

/-- The random texts that `secrets.token_hex` draws, numbered by draw. No text is drawn twice. -/
structure TokenSource where
  hex : Nat → String
  injective : Function.Injective hex

namespace TokenSource

/-- `f"{prefix}-{secrets.token_hex(12)}"` for the `n`-th draw. -/
def id (t : TokenSource) (kind : String) (n : Nat) : String := kind ++ "-" ++ t.hex n

theorem id_inj (t : TokenSource) (kind : String) {m n : Nat} :
    t.id kind m = t.id kind n ↔ m = n := by
  constructor
  · intro h
    exact t.injective (String.append_right_inj _ |>.1 h)
  · rintro rfl
    rfl

/-- The source whose `n`-th token is `n + 1` zeros. -/
def counting : TokenSource where
  hex n := String.ofList (List.replicate (n + 1) '0')
  injective := by
    intro m n h
    have hl := congrArg List.length (String.ofList_injective h)
    simpa using hl

end TokenSource

end DaonUser
