import DaonUser.Lib.Pieces

/-!
# Scripts of a reader

A reader that takes exact counts and looks for the end of the stream is written once, as a `Script`. It has
two meanings: `reads`, in the pieces of a network, and `takes`, on the whole stream. They agree
(`Script.agrees`), so that what is proved of `takes` holds for all pieces.
-/

namespace Lib

variable {ε α β γ : Type}

inductive Script (ε α β : Type) : Type where
  | ret (b : β)
  | raise (e : ε)
  /-- The next `count` elements, or `e` where the stream is too short. -/
  | exact (count : Nat) (e : ε) (k : List α → Script ε α β)
  /-- The next element, if there is one. -/
  | probe (k : Option α → Script ε α β)
  /-- What may fail beside the stream: a deadline or a cancellation. -/
  | check (k : Script ε α β)

namespace Script

def bind (x : Script ε α β) (f : β → Script ε α γ) : Script ε α γ :=
  match x with
  | ret b => f b
  | raise e => raise e
  | exact count e k => exact count e fun data => (k data).bind f
  | probe k => probe fun a => (k a).bind f
  | check k => check (k.bind f)

instance : Monad (Script ε α) where
  pure := ret
  bind := bind

/-! ## In pieces -/

def readExact (count : Nat) (e : ε) (result : List α) : Reads ε α (List α) :=
  if result.length < count then do
    let piece ← recv (count - result.length)
    if piece.1 = [] then Reads.raise e else readExact count e (result ++ piece.1)
  else pure result
termination_by count - result.length
decreasing_by
  rename_i hne
  have hpos := List.length_pos_of_ne_nil hne
  rw [List.length_append]
  omega

def step : Reads ε α Unit := fun net w =>
  match net w.calls with
  | .error e => .error e
  | .ok _ => .ok ((), ⟨w.rest, w.calls + 1⟩)

def reads : Script ε α β → Reads ε α β
  | ret b => pure b
  | raise e => Reads.raise e
  | exact count e k => readExact count e [] >>= fun data => (k data).reads
  | probe k => recv 1 >>= fun piece => (k piece.1.head?).reads
  | check k => step >>= fun _ => k.reads

/-! ## On the whole stream -/

def takeExact (count : Nat) (e : ε) (result : List α) : Takes ε α (List α) := fun s =>
  if count - result.length ≤ s.length then
    .ok (result ++ s.take (count - result.length), s.drop (count - result.length))
  else .error e

def takes : Script ε α β → Takes ε α β
  | ret b => pure b
  | raise e => Takes.raise e
  | exact count e k => takeExact count e [] >>= fun data => (k data).takes
  | probe k => fun s => (k s.head?).takes s.tail
  | check k => k.takes

section Takes

variable {s : List α}

@[simp] theorem takes_pure (b : β) : (pure b : Script ε α β).takes s = .ok (b, s) := rfl

@[simp] theorem takes_raise (e : ε) : (raise e : Script ε α β).takes s = .error e := rfl

@[simp] theorem takes_check (k : Script ε α β) : (check k).takes s = k.takes s := rfl

@[simp] theorem takes_probe (k : Option α → Script ε α β) :
    (probe k).takes s = (k s.head?).takes s.tail := rfl

@[simp] theorem takes_bind (x : Script ε α β) (f : β → Script ε α γ) :
    (x >>= f).takes s = match x.takes s with
      | .ok (b, s) => (f b).takes s
      | .error e => .error e := by
  change (x.bind f).takes s = _
  induction x generalizing s with
  | ret b => rfl
  | raise e => rfl
  | exact count e k ih =>
    simp only [bind, takes, Takes.bind_apply]
    cases takeExact count e [] s with
    | error e => rfl
    | ok out => exact ih _
  | probe k ih => exact ih _
  | check k ih => exact ih

theorem takes_exact_append {data : List α} (e : ε) (k : List α → Script ε α β) :
    (exact data.length e k).takes (data ++ s) = (k data).takes s := by
  simp [takes, Takes.bind_apply, takeExact]

theorem takes_exact_eq_ok {count : Nat} {e : ε} {k : List α → Script ε α β} {r : β × List α}
    (h : (exact count e k).takes s = .ok r) :
    ∃ data rest, data.length = count ∧ s = data ++ rest ∧ (k data).takes rest = .ok r := by
  obtain ⟨data, rest, hdata, hk⟩ := Takes.bind_eq_ok.1 h
  unfold takeExact at hdata
  split at hdata
  · next hle =>
    obtain ⟨rfl, rfl⟩ := Prod.mk.inj (Except.ok.inj hdata)
    exact ⟨s.take count, s.drop count, List.length_take_of_le hle, (List.take_append_drop ..).symm, hk⟩
  · cases hdata

theorem takes_bind_eq_ok {x : Script ε α β} {f : β → Script ε α γ} {r : γ × List α} :
    (x >>= f).takes s = .ok r ↔ ∃ b rest, x.takes s = .ok (b, rest) ∧ (f b).takes rest = .ok r := by
  rw [takes_bind]
  cases x.takes s with
  | error e => simp
  | ok out => simp [Prod.ext_iff]

end Takes

/-! ## Agreement -/

theorem takeExact_append {count : Nat} {e : ε} {result piece : List α}
    (h : (result ++ piece).length ≤ count) (s : List α) :
    takeExact count e result (piece ++ s) = takeExact count e (result ++ piece) s := by
  rw [List.length_append] at h
  have hleft : count - result.length = piece.length + (count - (result ++ piece).length) := by
    rw [List.length_append]
    omega
  unfold takeExact
  simp only [hleft, List.length_append, Nat.add_le_add_iff_left, List.take_length_add_append,
    List.drop_length_add_append, List.append_assoc]

theorem agrees_exact (count : Nat) (e : ε) (result : List α) (h : result.length ≤ count) :
    Agrees (readExact count e result) (takeExact count e result) := by
  induction hleft : count - result.length using Nat.strong_induction_on generalizing result with
  | _ left ih =>
    rw [readExact]
    split
    · next hless =>
      refine Agrees.recv (by omega) (fun net n => Or.inl ?_) fun piece hne net w => ?_
      · rw [if_pos rfl, takeExact, if_neg (by rw [List.length_nil]; omega)]
        rfl
      · have hpos : 0 < piece.1.length := List.length_pos_of_ne_nil hne
        have hsize := piece.2
        have hlength : (result ++ piece.1).length ≤ count := by
          rw [List.length_append]
          omega
        rw [if_neg hne, takeExact_append hlength]
        exact ih _ (by rw [List.length_append]; omega) _ hlength rfl net w
    · next hfull =>
      have hnone : count - result.length = 0 := by omega
      intro net w
      refine Or.inl ?_
      simp only [takeExact, hnone, Nat.zero_le, if_true, List.take_zero, List.append_nil, List.drop_zero]
      rfl

theorem agrees (x : Script ε α β) : Agrees x.reads x.takes := by
  induction x with
  | ret b => exact Agrees.pure b
  | raise e => exact Agrees.raise e
  | exact count e k ih => exact (agrees_exact count e [] (Nat.zero_le _)).bind ih
  | probe k ih =>
    refine Agrees.recv Nat.one_pos (fun net n => ih none net ⟨[], n⟩) fun piece hne net w => ?_
    obtain ⟨a, ha⟩ : ∃ a, piece.1 = [a] :=
      List.length_eq_one_iff.1 (Nat.le_antisymm piece.2 (List.length_pos_of_ne_nil hne))
    rw [ha]
    exact ih (some a) net w
  | check k ih =>
    intro net w
    rw [AgreesAt, reads, Reads.bind_apply, step]
    cases hnet : net w.calls with
    | error e => exact Or.inr ⟨_, e, hnet, rfl⟩
    | ok more => exact ih net ⟨w.rest, w.calls + 1⟩

theorem takes_of_reads {x : Script ε α β} {net : Network ε} {s : List α} {b : β}
    (h : (x.reads net ⟨s, 0⟩).map (·.1) = .ok b) : ∃ rest, x.takes s = .ok (b, rest) := by
  cases hrun : x.reads net ⟨s, 0⟩ with
  | error e => simp [hrun, Except.map] at h
  | ok r =>
    obtain rfl : r.1 = b := by simpa [hrun, Except.map] using h
    exact ⟨_, x.agrees.ok hrun⟩

theorem reads_of_faultless (x : Script ε α β) {net : Network ε} (hnet : net.Faultless) (s : List α) :
    (x.reads net ⟨s, 0⟩).map (·.1) = (x.takes s).map (·.1) := by
  rw [← x.agrees.faultless hnet ⟨s, 0⟩]
  cases x.reads net ⟨s, 0⟩ <;> rfl

end Script

end Lib
