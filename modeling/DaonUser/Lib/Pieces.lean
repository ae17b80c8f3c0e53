import Mathlib.Data.List.Basic
import Mathlib.Data.List.DropRight
import Mathlib.Logic.Basic

/-!
# Reading what comes in pieces

A `Reads` program reads a stream that a network delivers in pieces: each `recv` gets as many elements as the
network gives it, at least one until the stream ends, or fails. A `Takes` program has the whole stream.
`Agrees` relates the two: whatever the pieces are, the first comes to what the second does, unless a `recv`
failed.
-/

namespace Lib

/-- What the calls of `recv` come to: a failure, or how many elements there may be beyond the first. -/
abbrev Network (ε : Type) := Nat → Except ε Nat

/-- No call fails. -/
def Network.Faultless {ε : Type} (net : Network ε) : Prop := ∀ k, ∃ n, net k = .ok n

/-- What is left of the stream, and how often `recv` was called. -/
structure Wire (α : Type) where
  rest : List α
  calls : Nat

def Reads (ε α β : Type) : Type := Network ε → Wire α → Except ε (β × Wire α)

def Takes (ε α β : Type) : Type := List α → Except ε (β × List α)

variable {ε α β γ : Type}

instance : Monad (Reads ε α) where
  pure b := fun _ w => .ok (b, w)
  bind x f := fun net w => match x net w with
    | .ok (b, w) => f b net w
    | .error e => .error e

instance : Monad (Takes ε α) where
  pure b := fun s => .ok (b, s)
  bind x f := fun s => match x s with
    | .ok (b, s) => f b s
    | .error e => .error e

theorem Reads.bind_apply (x : Reads ε α β) (f : β → Reads ε α γ) (net : Network ε) (w : Wire α) :
    (x >>= f) net w = match x net w with
      | .ok (b, w) => f b net w
      | .error e => .error e := rfl

theorem Takes.bind_apply (x : Takes ε α β) (f : β → Takes ε α γ) (s : List α) :
    (x >>= f) s = match x s with
      | .ok (b, s) => f b s
      | .error e => .error e := rfl

/-- Raise `e`. -/
def Reads.raise (e : ε) : Reads ε α β := fun _ _ => .error e

/-- Raise `e`. -/
def Takes.raise (e : ε) : Takes ε α β := fun _ => .error e

/-- `recv`: at most `size` elements, and none only where the stream has ended. -/
def recv (size : Nat) : Reads ε α { piece : List α // piece.length ≤ size } := fun net w =>
  match net w.calls with
  | .error e => .error e
  | .ok more => .ok (⟨w.rest.take (min size (more + 1)),
      Nat.le_trans (List.length_take_le _ _) (Nat.min_le_left _ _)⟩,
      ⟨w.rest.drop (min size (more + 1)), w.calls + 1⟩)

theorem Takes.bind_eq_ok {x : Takes ε α β} {f : β → Takes ε α γ} {s : List α} {r : γ × List α} :
    (x >>= f) s = .ok r ↔ ∃ b rest, x s = .ok (b, rest) ∧ f b rest = .ok r := by
  rw [Takes.bind_apply]
  cases x s with
  | error e =>
    constructor
    · rintro ⟨⟩
    · rintro ⟨b, rest, h, -⟩
      cases h
  | ok out =>
    constructor
    · intro h
      exact ⟨out.1, out.2, rfl, h⟩
    · rintro ⟨b, rest, h, hf⟩
      obtain rfl := Except.ok.inj h
      exact hf

theorem Takes.raise_ne_ok {e : ε} {s : List α} {r : β × List α} :
    (Takes.raise e : Takes ε α β) s ≠ .ok r := by
  rintro ⟨⟩

/-! ## Agreement -/

/-- A run in pieces comes to this, or a `recv` failed. -/
def AgreesAt (x : Reads ε α β) (net : Network ε) (w : Wire α) (r : Except ε (β × List α)) : Prop :=
  (x net w).map (fun out => (out.1, out.2.rest)) = r ∨ ∃ k e, net k = .error e ∧ x net w = .error e

/-- In pieces the program comes to what it does on the whole stream, unless a `recv` fails. -/
def Agrees (x : Reads ε α β) (y : Takes ε α β) : Prop := ∀ net w, AgreesAt x net w (y w.rest)

namespace Agrees

variable {x : Reads ε α β} {y : Takes ε α β}

theorem pure (b : β) : Agrees (pure b : Reads ε α β) (pure b) := fun _ _ => Or.inl rfl

theorem raise (e : ε) : Agrees (Reads.raise e : Reads ε α β) (Takes.raise e) := fun _ _ => Or.inl rfl

theorem bind {f : β → Reads ε α γ} {g : β → Takes ε α γ} (h : Agrees x y)
    (hf : ∀ b, Agrees (f b) (g b)) : Agrees (x >>= f) (y >>= g) := by
  intro net w
  rw [AgreesAt, Reads.bind_apply, Takes.bind_apply]
  rcases h net w with hsame | ⟨k, e, hfault, hfail⟩
  · rw [← hsame]
    cases x net w with
    | error e => exact Or.inl rfl
    | ok out => exact hf out.1 net out.2
  · rw [hfail]
    exact Or.inr ⟨k, e, hfault, rfl⟩

theorem ite {c : Prop} [Decidable c] {x' : Reads ε α β} {y' : Takes ε α β} (hpos : c → Agrees x y)
    (hneg : ¬c → Agrees x' y') : Agrees (if c then x else x') (if c then y else y') := by
  split
  · next hc => exact hpos hc
  · next hc => exact hneg hc

theorem recv {size : Nat} (hsize : 0 < size) {f : { piece : List α // piece.length ≤ size } → Reads ε α β}
    (hnil : ∀ net n, AgreesAt (f ⟨[], Nat.zero_le _⟩) net ⟨[], n⟩ (y []))
    (hpiece : ∀ piece, piece.1 ≠ [] → ∀ net w, AgreesAt (f piece) net w (y (piece.1 ++ w.rest))) :
    Agrees (recv size >>= f) y := by
  intro net w
  rw [AgreesAt, Reads.bind_apply, Lib.recv]
  cases hnet : net w.calls with
  | error e => exact Or.inr ⟨_, e, hnet, rfl⟩
  | ok more =>
    obtain ⟨rest, calls⟩ := w
    cases rest with
    | nil =>
      simp only [List.take_nil, List.drop_nil]
      exact hnil net (calls + 1)
    | cons a rest =>
      have hne : (a :: rest).take (min size (more + 1)) ≠ [] := by
        obtain ⟨n, hn⟩ : ∃ n, min size (more + 1) = n + 1 := ⟨min size (more + 1) - 1, by omega⟩
        rw [hn]
        exact List.cons_ne_nil _ _
      have hstep := hpiece ⟨_, Nat.le_trans (List.length_take_le _ _) (Nat.min_le_left _ _)⟩ hne net
        ⟨(a :: rest).drop (min size (more + 1)), calls + 1⟩
      rwa [List.take_append_drop] at hstep

theorem ok (h : Agrees x y) {net : Network ε} {w w' : Wire α} {b : β} (hrun : x net w = .ok (b, w')) :
    y w.rest = .ok (b, w'.rest) := by
  rcases h net w with hsame | ⟨k, e, -, hfail⟩
  · rw [hrun] at hsame
    exact hsame.symm
  · rw [hrun] at hfail
    cases hfail

theorem faultless (h : Agrees x y) {net : Network ε} (hnet : net.Faultless) (w : Wire α) :
    (x net w).map (fun out => (out.1, out.2.rest)) = y w.rest := by
  rcases h net w with hsame | ⟨k, e, hfault, -⟩
  · exact hsame
  · obtain ⟨n, hn⟩ := hnet k
    rw [hn] at hfault
    cases hfault

theorem same (h : Agrees x y) {net net' : Network ε} (hnet' : net'.Faultless) (s : List α) :
    (x net ⟨s, 0⟩).map (·.1) = (x net' ⟨s, 0⟩).map (·.1) ∨
      ∃ k e, net k = .error e ∧ x net ⟨s, 0⟩ = .error e := by
  have hfirst : ∀ r : Except ε (β × Wire α),
      r.map (·.1) = (r.map fun out => (out.1, out.2.rest)).map (·.1) := by
    intro r
    cases r <;> rfl
  rcases h net ⟨s, 0⟩ with hsame | hfail
  · rw [hfirst (x net _), hfirst (x net' _), hsame, h.faultless hnet']
    exact Or.inl rfl
  · exact Or.inr hfail

end Agrees

/-! ## A window over the seam of two pieces -/

theorem infix_append_iff {m s c : List α} {w : Nat} (hm : m.length ≤ w + 1) :
    m <:+: s ++ c ↔ m <:+: s ∨ m <:+: s.rtake w ++ c := by
  constructor
  · rintro ⟨a, b, h⟩
    rcases List.append_eq_append_iff.mp h with ⟨d, rfl, -⟩ | ⟨d, ham, rfl⟩
    · exact .inl ⟨a, d, rfl⟩
    · rcases List.append_eq_append_iff.mp ham with ⟨e, rfl, rfl⟩ | ⟨e, -, rfl⟩
      · by_cases hd : d = []
        · subst hd
          exact .inl ⟨a, [], by simp⟩
        · -- some of `m` is right of the seam, so that what is left of it fits the window
          have hle : e.length ≤ w := by
            have := List.length_pos_iff.mpr hd
            simp only [List.length_append] at hm
            omega
          refine .inr ⟨a.drop (a.length + e.length - w), b, ?_⟩
          have he : a.length + e.length - w - a.length = 0 := by omega
          simp [List.rtake, List.drop_append, he]
      · exact .inr ⟨s.rtake w ++ e, b, by simp⟩
  · rintro (h | h)
    · exact List.infix_append_of_infix_left h
    · refine h.trans ⟨s.take (s.length - w), [], ?_⟩
      rw [List.append_nil, ← List.append_assoc, List.rtake, List.take_append_drop]

theorem rtake_append_rtake (s c : List α) (w : Nat) :
    (s.rtake w ++ c).rtake w = (s ++ c).rtake w := by
  have hc : s.length - (s.length - w) + c.length - w - (s.length - (s.length - w)) =
      s.length + c.length - w - s.length := by omega
  have hs : s.length - w + (s.length - (s.length - w) + c.length - w) = s.length + c.length - w := by omega
  simp only [List.rtake, List.drop_append, List.length_append, List.length_drop, List.drop_drop, hc, hs]

end Lib
