import Mathlib.Data.List.Basic
import Mathlib.Data.List.Infix
import Mathlib.Order.Lattice

/-!
# Reading a growing log in pages

A log whose keys increase, read from a key on: a page has at most `limit` entries, and the key of its
last entry where more of them follow. `Walk` reads page after page while the log grows at its end.
`Walk.items_eq`: it returns the entries of the last log that it read from, each one once and in order.
-/

namespace Lib.Pages

variable {α κ : Type} [LinearOrder κ] (key : α → κ) (p : α → Bool)

def after (k : κ) (log : List α) : List α := log.filter fun a => decide (k < key a) && p a

def next (limit : Nat) (k : κ) (log : List α) : Option κ :=
  if limit < (after key p k log).length then ((after key p k log).take limit).getLast?.map key
  else none

/-- The entries that are read from a key on, until a page is the last one. -/
inductive Walk (limit : Nat) : List α → κ → List α → List α → Prop where
  | last {log : List α} {k : κ} (done : next key p limit k log = none) :
      Walk limit log k ((after key p k log).take limit) log
  | more {log log' items final : List α} {k k' : κ} (continues : next key p limit k log = some k')
      (grows : log <+: log') (rest : Walk limit log' k' items final) :
      Walk limit log k ((after key p k log).take limit ++ items) final

variable {key p} {limit : Nat} {k k' : κ}

theorem after_append (log log' : List α) :
    after key p k (log ++ log') = after key p k log ++ after key p k log' := by
  rw [after, List.filter_append]
  rfl

theorem of_next {log : List α} (h : next key p limit k log = some k') :
    limit < (after key p k log).length ∧
      ∃ a, ((after key p k log).take limit).getLast? = some a ∧ key a = k' := by
  unfold next at h
  split at h
  · next hlength => exact ⟨hlength, Option.map_eq_some_iff.1 h⟩
  · cases h

theorem of_next_none (hlimit : 0 < limit) {log : List α} (h : next key p limit k log = none) :
    (after key p k log).length ≤ limit := by
  by_contra hlength
  rw [next, if_pos (not_le.1 hlength), Option.map_eq_none_iff, List.getLast?_eq_none_iff] at h
  have htake := congrArg List.length h
  rw [List.length_take, List.length_nil] at htake
  omega

theorem le_getLast {log : List α} (hsorted : log.Pairwise fun a b => key a < key b) {a b : α}
    (ha : log.getLast? = some a) (hb : b ∈ log) : key b ≤ key a := by
  obtain ⟨firsts, rfl⟩ := List.getLast?_eq_some_iff.1 ha
  rcases List.mem_append.1 hb with hb | hb
  · exact ((List.pairwise_append.1 hsorted).2.2 b hb a List.mem_cons_self).le
  · rw [List.mem_singleton.1 hb]

theorem filter_getLast {log : List α} (hsorted : log.Pairwise fun a b => key a < key b) {n : Nat}
    {a : α} (ha : (log.take n).getLast? = some a) :
    log.filter (fun b => decide (key a < key b)) = log.drop n := by
  obtain ⟨firsts, hfirsts⟩ := List.getLast?_eq_some_iff.1 ha
  have hparts : log = firsts ++ [a] ++ log.drop n := by
    rw [← hfirsts, List.take_append_drop]
  have hpairs := hsorted
  rw [hparts, List.pairwise_append, List.pairwise_append] at hpairs
  obtain ⟨⟨-, -, hbefore⟩, -, hrest⟩ := hpairs
  have hnone : (firsts ++ [a]).filter (fun b => decide (key a < key b)) = [] := by
    rw [List.filter_eq_nil_iff]
    intro b hb
    rw [decide_eq_true_eq, not_lt]
    rcases List.mem_append.1 hb with hb | hb
    · exact (hbefore b hb a List.mem_cons_self).le
    · rw [List.mem_singleton.1 hb]
  have hall : (log.drop n).filter (fun b => decide (key a < key b)) = log.drop n := by
    rw [List.filter_eq_self]
    intro b hb
    exact decide_eq_true (hrest a (by simp) b hb)
  calc log.filter (fun b => decide (key a < key b))
      = (firsts ++ [a] ++ log.drop n).filter (fun b => decide (key a < key b)) := by rw [← hparts]
    _ = log.drop n := by rw [List.filter_append, hnone, hall, List.nil_append]

theorem after_of_next {log final : List α}
    (hsorted : final.Pairwise fun a b => key a < key b) (hgrown : log <+: final)
    (h : next key p limit k log = some k') :
    (after key p k log).take limit ++ after key p k' final = after key p k final := by
  obtain ⟨hlength, a, ha, rfl⟩ := of_next h
  obtain ⟨new, rfl⟩ := hgrown
  have htake : (after key p k log).take limit = (after key p k (log ++ new)).take limit := by
    rw [after_append, List.take_append_of_le_length hlength.le]
  have hmem : a ∈ after key p k log := List.mem_of_mem_take (List.mem_of_getLast? ha)
  have hk : k < key a := by
    have hconditions := (List.mem_filter.1 hmem).2
    rw [Bool.and_eq_true, decide_eq_true_eq] at hconditions
    exact hconditions.1
  have hlater : after key p (key a) (log ++ new) =
      (after key p k (log ++ new)).filter fun b => decide (key a < key b) := by
    simp only [after, List.filter_filter]
    refine List.filter_congr fun b _ => ?_
    by_cases hb : key a < key b
    · simp [hb, hk.trans hb]
    · simp [hb]
  rw [htake] at ha ⊢
  have hothers : (after key p k (log ++ new)).filter (fun b => decide (key a < key b)) =
      (after key p k (log ++ new)).drop limit := filter_getLast (hsorted.filter _) ha
  rw [hlater, hothers, List.take_append_drop]

theorem length_after_lt {log : List α} (hlimit : 0 < limit)
    (hsorted : log.Pairwise fun a b => key a < key b) (h : next key p limit k log = some k') :
    (after key p k' log).length < (after key p k log).length := by
  have hparts := congrArg List.length (after_of_next hsorted (List.prefix_refl log) h)
  have hlength := (of_next h).1
  rw [List.length_append, List.length_take] at hparts
  omega

theorem Walk.grown {log items final : List α} (h : Walk key p limit log k items final) :
    log <+: final := by
  induction h with
  | last _ => exact List.prefix_refl _
  | more _ grows _ ih => exact grows.trans ih

theorem Walk.items_eq (hlimit : 0 < limit) {log items final : List α}
    (h : Walk key p limit log k items final) (hsorted : final.Pairwise fun a b => key a < key b) :
    items = after key p k final := by
  induction h with
  | last done => exact List.take_of_length_le (of_next_none hlimit done)
  | more continues grows rest ih =>
    rw [ih hsorted, after_of_next hsorted (grows.trans rest.grown) continues]

end Lib.Pages
