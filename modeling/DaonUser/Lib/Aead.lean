import Mathlib.Data.List.Basic

/-!
# Ideal authenticated encryption

An ideal cipher opens exactly what was sealed: under the same key, with the same nonce, the same
associated data and the same body. `Sealed.table` is the list of all that was sealed so far, and `openSealed`
looks a body up in it.
-/

namespace Lib

structure Sealed (κ η δ μ β : Type) where
  key : κ
  nonce : η
  aad : δ
  message : μ
  body : β
  deriving DecidableEq

variable {κ η δ μ β : Type} [DecidableEq κ] [DecidableEq η] [DecidableEq δ] [DecidableEq β]
  {table : List (Sealed κ η δ μ β)} {key : κ} {nonce : η} {aad : δ} {body : β} {message : μ}

def openSealed (table : List (Sealed κ η δ μ β)) (key : κ) (nonce : η) (aad : δ) (body : β) : Option μ :=
  (table.find? fun x => x.key = key && x.nonce = nonce && x.aad = aad && x.body = body).map (·.message)

theorem mem_of_openSealed (h : openSealed table key nonce aad body = some message) :
    ⟨key, nonce, aad, message, body⟩ ∈ table := by
  obtain ⟨x, hfind, hmessage⟩ := Option.map_eq_some_iff.1 h
  have hx := List.find?_some hfind
  simp only [Bool.and_eq_true, decide_eq_true_eq] at hx
  obtain ⟨⟨⟨rfl, rfl⟩, rfl⟩, rfl⟩ := hx
  obtain rfl := hmessage
  exact List.mem_of_find?_eq_some hfind

theorem openSealed_of_mem (decrypt : κ → η → β → δ → Option μ) {x : Sealed κ η δ μ β} (hmem : x ∈ table)
    (hdecrypt : ∀ y ∈ table, y.key = x.key → decrypt y.key y.nonce y.body y.aad = some y.message) :
    openSealed table x.key x.nonce x.aad x.body = some x.message := by
  have hfind : (table.find? fun y => y.key = x.key && y.nonce = x.nonce && y.aad = x.aad &&
      y.body = x.body).isSome := by
    rw [List.find?_isSome]
    exact ⟨x, hmem, by simp⟩
  obtain ⟨y, hy⟩ := Option.isSome_iff_exists.1 hfind
  have hsame := List.find?_some hy
  simp only [Bool.and_eq_true, decide_eq_true_eq] at hsame
  obtain ⟨⟨⟨hkey, hnonce⟩, haad⟩, hbody⟩ := hsame
  have hopen := hdecrypt y (List.mem_of_find?_eq_some hy) hkey
  rw [hkey, hnonce, haad, hbody, hdecrypt x hmem rfl] at hopen
  rw [openSealed, hy, Option.map_some, hopen]

end Lib
