import Mathlib.Computability.Language

/-!
# Patterns

A pattern with the order in which a backtracking matcher tries its ways: `rests r cs` holds what is left of
`cs` after each match at its beginning, the reported one first. `mem_rests` says that these are the words of
the pattern's language.
-/

namespace Lib

inductive Regex where
  | empty
  | one (p : Char → Bool)
  | seq (r s : Regex)
  | alt (r s : Regex)
  | star (r : Regex)

namespace Regex

open Computability

def literal (cs : List Char) : Regex := cs.foldr (fun c r => seq (one (· = c)) r) empty

/-- `r?`. -/
def optional (r : Regex) : Regex := alt r empty

/-- `r+`. -/
def plus (r : Regex) : Regex := seq r (star r)

def language : Regex → Language Char
  | empty => 1
  | one p => {w | ∃ c, p c = true ∧ w = [c]}
  | seq r s => r.language * s.language
  | alt r s => r.language + s.language
  | star r => r.language∗

/-- What is left after each number of rounds. A round that takes nothing ends the matching. -/
def restsStar (rests : List Char → List (List Char)) : Nat → List Char → List (List Char)
  | 0, cs => [cs]
  | fuel + 1, cs =>
    ((rests cs).filter (·.length < cs.length)).flatMap (restsStar rests fuel) ++ [cs]

def rests : Regex → List Char → List (List Char)
  | empty, cs => [cs]
  | one _, [] => []
  | one p, c :: cs => if p c then [cs] else []
  | seq r s, cs => (r.rests cs).flatMap s.rests
  | alt r s, cs => r.rests cs ++ s.rests cs
  | star r, cs => restsStar r.rests cs.length cs

theorem mem_restsStar {l : Language Char} {f : List Char → List (List Char)}
    (hf : ∀ cs rest, rest ∈ f cs ↔ ∃ w ∈ l, cs = w ++ rest) {fuel : Nat} {cs rest : List Char}
    (hfuel : cs.length ≤ fuel) : rest ∈ restsStar f fuel cs ↔ ∃ w ∈ l∗, cs = w ++ rest := by
  induction fuel generalizing cs with
  | zero =>
    obtain rfl := List.eq_nil_of_length_eq_zero (Nat.le_zero.1 hfuel)
    constructor
    · intro h
      exact ⟨[], Language.nil_mem_kstar l, (List.mem_singleton.1 h).symm⟩
    · rintro ⟨w, -, hw⟩
      exact List.mem_singleton.2 (List.append_eq_nil_iff.1 hw.symm).2
  | succ fuel ih =>
    rw [restsStar, List.mem_append, List.mem_flatMap, List.mem_singleton]
    constructor
    · rintro (⟨middle, hmiddle, hrest⟩ | rfl)
      · rw [List.mem_filter, decide_eq_true_eq] at hmiddle
        obtain ⟨u, hu, hcs⟩ := (hf cs middle).1 hmiddle.1
        obtain ⟨w, ⟨words, hw, hwords⟩, heq⟩ :=
          (ih (Nat.lt_succ_iff.1 (hmiddle.2.trans_le hfuel))).1 hrest
        refine ⟨u ++ w, ⟨u :: words, by rw [hw, List.flatten_cons], ?_⟩, ?_⟩
        · exact List.forall_mem_cons.2 ⟨hu, hwords⟩
        · rw [hcs, heq, List.append_assoc]
      · exact ⟨[], Language.nil_mem_kstar l, rfl⟩
    · rintro ⟨w, hw, hcs⟩
      obtain ⟨words, hflat, hwords⟩ := Language.mem_kstar_iff_exists_nonempty.1 hw
      cases words with
      | nil =>
        rw [hflat] at hcs
        exact .inr hcs.symm
      | cons u words =>
        obtain ⟨hu, hne⟩ := hwords u List.mem_cons_self
        have hcs' : cs = u ++ (words.flatten ++ rest) := by
          rw [hcs, hflat, List.flatten_cons, List.append_assoc]
        have hlt : (words.flatten ++ rest).length < cs.length := by
          have hpos := List.length_pos_iff.2 hne
          simp only [hcs', List.length_append]
          omega
        refine .inl ⟨words.flatten ++ rest, ?_, ?_⟩
        · rw [List.mem_filter, decide_eq_true_eq]
          exact ⟨(hf cs _).2 ⟨u, hu, hcs'⟩, hlt⟩
        · refine (ih (Nat.lt_succ_iff.1 (hlt.trans_le hfuel))).2 ⟨words.flatten, ?_, rfl⟩
          exact Language.join_mem_kstar fun v hv => (hwords v (List.mem_cons_of_mem u hv)).1

theorem mem_rests {r : Regex} {cs rest : List Char} :
    rest ∈ r.rests cs ↔ ∃ w ∈ r.language, cs = w ++ rest := by
  induction r generalizing cs rest with
  | empty =>
    constructor
    · intro h
      exact ⟨[], rfl, (List.mem_singleton.1 h).symm⟩
    · rintro ⟨w, hw, rfl⟩
      obtain rfl := Language.mem_one w |>.1 hw
      exact List.mem_singleton_self _
  | one p =>
    cases cs with
    | nil =>
      refine iff_of_false List.not_mem_nil ?_
      rintro ⟨w, ⟨c, -, rfl⟩, hw⟩
      cases hw
    | cons c cs =>
      constructor
      · intro h
        rw [rests] at h
        split at h
        · next hc => exact ⟨[c], ⟨c, hc, rfl⟩, by rw [List.mem_singleton.1 h]; rfl⟩
        · cases h
      · rintro ⟨w, ⟨d, hd, rfl⟩, hw⟩
        obtain ⟨rfl, rfl⟩ := List.cons.inj hw
        rw [rests, if_pos hd]
        exact List.mem_singleton_self _
  | seq r s ihr ihs =>
    rw [rests, List.mem_flatMap]
    constructor
    · rintro ⟨middle, hmiddle, hrest⟩
      obtain ⟨u, hu, hcs⟩ := ihr.1 hmiddle
      obtain ⟨v, hv, heq⟩ := ihs.1 hrest
      exact ⟨u ++ v, Language.append_mem_mul hu hv, by rw [hcs, heq, List.append_assoc]⟩
    · rintro ⟨w, hw, hcs⟩
      obtain ⟨u, hu, v, hv, rfl⟩ := Language.mem_mul.1 hw
      refine ⟨v ++ rest, ihr.2 ⟨u, hu, ?_⟩, ihs.2 ⟨v, hv, rfl⟩⟩
      rw [hcs, List.append_assoc]
  | alt r s ihr ihs =>
    rw [rests, List.mem_append, ihr, ihs]
    constructor
    · rintro (⟨w, hw, hcs⟩ | ⟨w, hw, hcs⟩)
      · exact ⟨w, .inl hw, hcs⟩
      · exact ⟨w, .inr hw, hcs⟩
    · rintro ⟨w, hw | hw, hcs⟩
      · exact .inl ⟨w, hw, hcs⟩
      · exact .inr ⟨w, hw, hcs⟩
  | star r ih => exact mem_restsStar (fun _ _ => ih) le_rfl

theorem mem_literal {cs w : List Char} : w ∈ (literal cs).language ↔ w = cs := by
  induction cs generalizing w with
  | nil => exact Language.mem_one w
  | cons c cs ih =>
    constructor
    · intro h
      obtain ⟨u, ⟨d, hd, rfl⟩, v, hv, rfl⟩ := Language.mem_mul.1 h
      rw [of_decide_eq_true hd, ih.1 hv]
      rfl
    · rintro rfl
      exact Language.append_mem_mul (a := [c]) ⟨c, decide_eq_true rfl, rfl⟩ (ih.2 rfl)

theorem mem_star_one {p : Char → Bool} {w : List Char} :
    w ∈ (star (one p)).language ↔ ∀ c ∈ w, p c = true := by
  constructor
  · rintro ⟨words, rfl, hwords⟩ c hc
    obtain ⟨word, hword, hmem⟩ := List.mem_flatten.1 hc
    obtain ⟨d, hd, rfl⟩ := hwords word hword
    rwa [List.mem_singleton.1 hmem]
  · intro h
    refine ⟨w.map fun c => [c], (List.flatMap_singleton' w).symm, fun word hword => ?_⟩
    obtain ⟨c, hc, rfl⟩ := List.mem_map.1 hword
    exact ⟨c, h c hc, rfl⟩

def longest : Regex → Option Nat
  | empty => some 0
  | one _ => some 1
  | seq r s => do return (← r.longest) + (← s.longest)
  | alt r s => do return max (← r.longest) (← s.longest)
  | star _ => none

theorem length_le_longest {r : Regex} {n : Nat} {w : List Char} (h : r.longest = some n)
    (hw : w ∈ r.language) : w.length ≤ n := by
  induction r generalizing n w with
  | empty =>
    obtain rfl := (Language.mem_one w).1 hw
    exact Nat.zero_le n
  | one p =>
    obtain ⟨c, -, rfl⟩ := hw
    exact (Option.some.inj h).le
  | seq r s ihr ihs =>
    obtain ⟨u, hu, v, hv, rfl⟩ := Language.mem_mul.1 hw
    obtain ⟨k, hk, h⟩ := Option.bind_eq_some_iff.1 h
    obtain ⟨m, hm, h⟩ := Option.bind_eq_some_iff.1 h
    rw [List.length_append, ← Option.some.inj h]
    exact Nat.add_le_add (ihr hk hu) (ihs hm hv)
  | alt r s ihr ihs =>
    obtain ⟨k, hk, h⟩ := Option.bind_eq_some_iff.1 h
    obtain ⟨m, hm, h⟩ := Option.bind_eq_some_iff.1 h
    rw [← Option.some.inj h]
    rcases hw with hw | hw
    · exact (ihr hk hw).trans (le_max_left k m)
    · exact (ihs hm hw).trans (le_max_right k m)
  | star r => cases h

/-! ## Matching -/

/-- `re.fullmatch`. -/
def fullmatch (r : Regex) (s : String) : Bool := (r.rests s.toList).contains []

/-- `re.search`. -/
def search (r : Regex) (s : String) : Bool := s.toList.tails.any fun cs => !(r.rests cs).isEmpty

theorem fullmatch_iff {r : Regex} {s : String} : r.fullmatch s = true ↔ s.toList ∈ r.language := by
  rw [fullmatch, List.contains_iff_mem, mem_rests]
  constructor
  · rintro ⟨w, hw, hs⟩
    rwa [hs, List.append_nil]
  · intro h
    exact ⟨s.toList, h, (List.append_nil _).symm⟩

/-- `re.sub` of `^r` by nothing. -/
def dropStart (r : Regex) (cs : List Char) : List Char :=
  match r.rests cs with
  | rest :: _ => rest
  | [] => cs

/-- `re.sub` of `r$` by nothing, where `r` takes more than a line end. -/
def dropEnd (r : Regex) : List Char → List Char
  | [] => []
  | c :: cs =>
    match (r.rests (c :: cs)).find? fun rest => rest = [] || rest = ['\n'] with
    | some rest => rest
    | none => c :: dropEnd r cs

/-- `re.findall` of `r` where no such character stands before it, after a number of characters to skip. -/
def findall (behind : Char → Bool) (r : Regex) : Nat → Option Char → List Char → List String
  | _, _, [] => []
  | skip + 1, _, c :: cs => findall behind r skip (some c) cs
  | 0, previous, c :: cs =>
    match if previous.any behind then none else (r.rests (c :: cs)).head? with
    | some rest =>
      let length := cs.length + 1 - rest.length
      String.ofList ((c :: cs).take length) :: findall behind r (length - 1) (some c) cs
    | none => findall behind r 0 (some c) cs

theorem dropStart_spec (r : Regex) (cs : List Char) :
    ∃ w, cs = w ++ dropStart r cs ∧ (w = [] ∨ w ∈ r.language) := by
  unfold dropStart
  split
  · next rest _ heq =>
    obtain ⟨w, hw, hcs⟩ := mem_rests.1 (heq ▸ List.mem_cons_self : rest ∈ r.rests cs)
    exact ⟨w, hcs, .inr hw⟩
  · exact ⟨[], rfl, .inl rfl⟩

theorem dropEnd_spec (r : Regex) (cs : List Char) :
    ∃ start w rest, cs = start ++ (w ++ rest) ∧ dropEnd r cs = start ++ rest ∧
      (w = [] ∨ w ∈ r.language) ∧ (rest = [] ∨ rest = ['\n']) := by
  induction cs with
  | nil => exact ⟨[], [], [], rfl, rfl, .inl rfl, .inl rfl⟩
  | cons c cs ih =>
    unfold dropEnd
    split
    · next rest hfind =>
      obtain ⟨w, hw, hcs⟩ := mem_rests.1 (List.mem_of_find?_eq_some hfind)
      have hend := List.find?_some hfind
      rw [Bool.or_eq_true, decide_eq_true_eq, decide_eq_true_eq] at hend
      exact ⟨[], w, rest, hcs, rfl, .inr hw, hend⟩
    · obtain ⟨start, w, rest, hcs, hdrop, hw, hend⟩ := ih
      exact ⟨c :: start, w, rest, by rw [hcs]; rfl, by rw [hdrop]; rfl, hw, hend⟩

end Regex

end Lib
