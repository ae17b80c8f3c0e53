import Mathlib.Data.List.Nodup
import Mathlib.Data.List.Basic

/-!
# Dictionaries that keep insertion order

`Dict κ ν` is a finite map given by its entries in the order in which their keys were first set.
The keys are distinct by construction (`Dict.nodup`), so an entry and a lookup say the same
(`Dict.mem_entries_iff`). Setting a present key replaces its value in place, setting a new key
appends an entry (`Dict.get?_set`, `Dict.entries_set_of_new`).
-/

namespace Lib

universe u v

structure Dict (κ : Type u) (ν : Type v) where
  entries : List (κ × ν)
  nodup : (entries.map Prod.fst).Nodup

namespace Dict

variable {κ : Type u} {ν : Type v}

theorem ext {d e : Dict κ ν} (h : d.entries = e.entries) : d = e := by
  cases d; cases e; cases h; rfl

def empty : Dict κ ν := ⟨[], List.nodup_nil⟩

def keys (d : Dict κ ν) : List κ := d.entries.map Prod.fst

def values (d : Dict κ ν) : List ν := d.entries.map Prod.snd

/-- `{k: f(v) for k, v in d.items()}`. -/
def mapValues {ξ : Type v} (f : ν → ξ) (d : Dict κ ν) : Dict κ ξ where
  entries := d.entries.map fun e => (e.1, f e.2)
  nodup := by rw [List.map_map]; exact d.nodup

/-- The entries whose key meets `p`. -/
def filterKeys (p : κ → Bool) (d : Dict κ ν) : Dict κ ν where
  entries := d.entries.filter fun e => p e.1
  nodup := d.nodup.sublist (List.filter_sublist.map _)

variable [DecidableEq κ]

/-- The entries with `k` set to `v`. -/
def put (k : κ) (v : ν) : List (κ × ν) → List (κ × ν)
  | [] => [(k, v)]
  | e :: es => if e.1 = k then (k, v) :: es else e :: put k v es

theorem keys_put_of_mem {k : κ} {v : ν} {es : List (κ × ν)} (h : k ∈ es.map Prod.fst) :
    (put k v es).map Prod.fst = es.map Prod.fst := by
  induction es with
  | nil => simp at h
  | cons e es ih =>
    unfold put
    split
    · next he => simp [he]
    · next he =>
      have : k ∈ es.map Prod.fst := by
        rcases List.mem_cons.1 h with h | h
        · exact absurd h.symm he
        · exact h
      simp [ih this]

theorem put_of_not_mem {k : κ} {v : ν} {es : List (κ × ν)} (h : k ∉ es.map Prod.fst) :
    put k v es = es ++ [(k, v)] := by
  induction es with
  | nil => rfl
  | cons e es ih =>
    simp only [List.map_cons, List.mem_cons, not_or] at h
    rw [put, if_neg (Ne.symm h.1), ih h.2, List.cons_append]

theorem mem_put {k : κ} {v : ν} {es : List (κ × ν)} {e : κ × ν} (h : e ∈ put k v es) :
    e = (k, v) ∨ e ∈ es := by
  induction es with
  | nil => exact Or.inl (List.mem_singleton.1 h)
  | cons e' es ih =>
    unfold put at h
    split at h
    · exact (List.mem_cons.1 h).imp_right (List.mem_cons_of_mem e')
    · rcases List.mem_cons.1 h with rfl | h
      · exact Or.inr List.mem_cons_self
      · exact (ih h).imp_right (List.mem_cons_of_mem e')

/-- `d[k] = v`. -/
def set (d : Dict κ ν) (k : κ) (v : ν) : Dict κ ν where
  entries := put k v d.entries
  nodup := by
    by_cases h : k ∈ d.entries.map Prod.fst
    · rw [keys_put_of_mem h]; exact d.nodup
    · rw [put_of_not_mem h, List.map_append, List.nodup_append]
      refine ⟨d.nodup, by simp, ?_⟩
      intro a ha b hb
      simp only [List.map_cons, List.map_nil, List.mem_singleton] at hb
      subst hb
      exact fun hab => h (hab ▸ ha)

/-- `d.get(k)`. -/
def get? (d : Dict κ ν) (k : κ) : Option ν :=
  (d.entries.find? fun e => e.1 = k).map Prod.snd

@[simp] theorem get?_empty (k : κ) : (empty : Dict κ ν).get? k = none := rfl

theorem find?_put (k k' : κ) (v : ν) (es : List (κ × ν)) :
    ((put k v es).find? fun e => e.1 = k').map Prod.snd =
      if k = k' then some v else (es.find? fun e => e.1 = k').map Prod.snd := by
  induction es with
  | nil => by_cases h : k = k' <;> simp [put, h]
  | cons e es ih =>
    unfold put
    by_cases he : e.1 = k
    · by_cases h : k = k'
      · simp [he, h]
      · simp [he, h]
    · rw [if_neg he]
      by_cases h : e.1 = k'
      · have hk : k ≠ k' := fun hk => he (h.trans hk.symm)
        simp [h, hk]
      · simp only [List.find?_cons, h, decide_false, ih]

/-- `dict(pairs)`: a later pair replaces the value of an earlier one with its key. -/
def ofList (pairs : List (κ × ν)) : Dict κ ν :=
  pairs.foldl (fun d e => d.set e.1 e.2) empty

theorem put_put (k : κ) (v w : ν) (es : List (κ × ν)) : put k w (put k v es) = put k w es := by
  induction es with
  | nil => simp [put]
  | cons e es ih =>
    by_cases h : e.1 = k
    · simp [put, h]
    · simp [put, h, ih]

theorem set_set (d : Dict κ ν) (k : κ) (v w : ν) : (d.set k v).set k w = d.set k w :=
  ext (put_put k v w d.entries)

theorem get?_set (d : Dict κ ν) (k k' : κ) (v : ν) :
    (d.set k v).get? k' = if k = k' then some v else d.get? k' :=
  find?_put k k' v d.entries

@[simp] theorem get?_set_self (d : Dict κ ν) (k : κ) (v : ν) : (d.set k v).get? k = some v := by
  rw [get?_set, if_pos rfl]

theorem of_get?_set {d : Dict κ ν} {k k' : κ} {v v' : ν} (h : (d.set k v).get? k' = some v') :
    d.get? k' = some v' ∨ k' = k ∧ v' = v := by
  rw [get?_set] at h
  split at h
  · next hsame => exact Or.inr ⟨hsame.symm, (Option.some.inj h).symm⟩
  · exact Or.inl h

theorem get?_set_of_ne (d : Dict κ ν) {k k' : κ} (h : k ≠ k') (v : ν) :
    (d.set k v).get? k' = d.get? k' := by
  rw [get?_set, if_neg h]

theorem get?_set_ne_none {d : Dict κ ν} {k : κ} (h : d.get? k ≠ none) (k' : κ) (v : ν) :
    (d.set k' v).get? k ≠ none := by
  rw [get?_set]
  split
  · simp
  · exact h

/-- `UPDATE … WHERE key = k`: nothing happens to a dictionary without the key. -/
def update (d : Dict κ ν) (k : κ) (f : ν → ν) : Dict κ ν :=
  match d.get? k with
  | none => d
  | some v => d.set k (f v)

theorem get?_update (d : Dict κ ν) (k k' : κ) (f : ν → ν) :
    (d.update k f).get? k' = if k = k' then (d.get? k').map f else d.get? k' := by
  unfold update
  cases h : d.get? k with
  | none =>
    by_cases hk : k = k'
    · subst hk
      simp [h]
    · simp [hk]
  | some v =>
    by_cases hk : k = k'
    · subst hk
      simp [h]
    · simp [hk, get?_set]

theorem get?_update_of_ne (d : Dict κ ν) {k k' : κ} (h : k ≠ k') (f : ν → ν) :
    (d.update k f).get? k' = d.get? k' := by
  rw [get?_update, if_neg h]

theorem get?_update_ne_none {d : Dict κ ν} {k : κ} (h : d.get? k ≠ none) (k' : κ) (f : ν → ν) :
    (d.update k' f).get? k ≠ none := by
  rw [get?_update]
  split
  · simpa using h
  · exact h

theorem update_of_get? {d : Dict κ ν} {k : κ} {v : ν} (h : d.get? k = some v) (f : ν → ν) :
    d.update k f = d.set k (f v) := by
  rw [update, h]

theorem mem_entries_iff {d : Dict κ ν} {k : κ} {v : ν} :
    (k, v) ∈ d.entries ↔ d.get? k = some v := by
  obtain ⟨es, hes⟩ := d
  simp only [get?]
  induction es with
  | nil => simp
  | cons e es ih =>
    obtain ⟨a, b⟩ := e
    simp only [List.map_cons, List.nodup_cons] at hes
    by_cases h : a = k
    · subst h
      have hnot : (a, v) ∉ es := fun hm => hes.1 (List.mem_map.2 ⟨_, hm, rfl⟩)
      simp [hnot, eq_comm]
    · simp [h, Ne.symm h, ih hes.2]

theorem filter_entries (d : Dict κ ν) (k : κ) :
    (d.entries.filter fun e => e.1 = k).map Prod.snd = (d.get? k).toList := by
  obtain ⟨entries, hnodup⟩ := d
  unfold get?
  induction entries with
  | nil => rfl
  | cons e es ih =>
    obtain ⟨hnot, hnodup⟩ := List.nodup_cons.1 hnodup
    by_cases h : e.1 = k
    · have hnone : (es.filter fun e => e.1 = k) = [] := by
        refine List.filter_eq_nil_iff.2 fun e' he' heq => hnot ?_
        rw [h, ← of_decide_eq_true heq]
        exact List.mem_map_of_mem he'
      simp [h, hnone]
    · simp only [h, decide_false, Bool.false_eq_true, not_false_eq_true, List.filter_cons_of_neg,
        List.find?_cons]
      exact ih hnodup

theorem find?_entries {d : Dict κ ν} {k : κ} {v : ν} {p : κ → ν → Bool} (h : d.get? k = some v)
    (hp : p k v = true) (unique : ∀ k' v', d.get? k' = some v' → p k' v' = true → k' = k) :
    (d.entries.find? fun e => p e.1 e.2) = some (k, v) := by
  cases hfind : d.entries.find? fun e => p e.1 e.2 with
  | none => exact absurd hp (List.find?_eq_none.1 hfind (k, v) (mem_entries_iff.2 h))
  | some e =>
    have he := mem_entries_iff.1 (List.mem_of_find?_eq_some hfind)
    have hk : e.1 = k := unique e.1 e.2 he (by simpa using List.find?_some hfind)
    rw [hk, h] at he
    exact congrArg some (Prod.ext hk (Option.some.inj he).symm)

theorem put_self {k : κ} {v : ν} {es : List (κ × ν)} (h : (k, v) ∈ es)
    (nodup : (es.map Prod.fst).Nodup) : put k v es = es := by
  induction es with
  | nil => simp at h
  | cons e es ih =>
    simp only [List.map_cons, List.nodup_cons] at nodup
    rcases List.mem_cons.1 h with rfl | h
    · simp [put]
    · have hne : e.1 ≠ k := fun he => nodup.1 (List.mem_map.2 ⟨_, h, he.symm⟩)
      rw [put, if_neg hne, ih h nodup.2]

theorem set_of_get? {d : Dict κ ν} {k : κ} {v : ν} (h : d.get? k = some v) : d.set k v = d :=
  ext (put_self (mem_entries_iff.2 h) d.nodup)

theorem update_set (d : Dict κ ν) (k : κ) (v : ν) (f : ν → ν) :
    (d.set k v).update k f = d.set k (f v) := by
  rw [update_of_get? (get?_set_self d k v), set_set]

theorem mem_values_iff {d : Dict κ ν} {v : ν} : v ∈ d.values ↔ ∃ k, d.get? k = some v := by
  simp only [values, List.mem_map, Prod.exists, exists_eq_right, mem_entries_iff]

theorem mem_keys_iff {d : Dict κ ν} {k : κ} : k ∈ d.keys ↔ ∃ v, d.get? k = some v := by
  simp only [keys, List.mem_map, Prod.exists, exists_and_right, exists_eq_right, mem_entries_iff]

theorem mem_values_of_get? {d : Dict κ ν} {k : κ} {v : ν} (h : d.get? k = some v) :
    v ∈ d.values :=
  mem_values_iff.2 ⟨k, h⟩

theorem get?_filterKeys {d : Dict κ ν} {p : κ → Bool} {k : κ} {v : ν} :
    (d.filterKeys p).get? k = some v ↔ d.get? k = some v ∧ p k = true := by
  rw [← mem_entries_iff, ← mem_entries_iff, filterKeys, List.mem_filter]

/-- `del d[k]`, if `k` is there. -/
def erase (d : Dict κ ν) (k : κ) : Dict κ ν := d.filterKeys fun k' => decide (k ≠ k')

theorem get?_erase (d : Dict κ ν) (k k' : κ) :
    (d.erase k).get? k' = if k = k' then none else d.get? k' := by
  refine Option.ext fun v => ?_
  rw [erase, get?_filterKeys]
  by_cases h : k = k' <;> simp [h]

theorem entries_foldl_set {pairs : List (κ × ν)} {d : Dict κ ν}
    (h : ((d.entries ++ pairs).map Prod.fst).Nodup) :
    (pairs.foldl (fun d e => d.set e.1 e.2) d).entries = d.entries ++ pairs := by
  induction pairs generalizing d with
  | nil => simp
  | cons e es ih =>
    have hnew : (d.set e.1 e.2).entries = d.entries ++ [e] := by
      refine put_of_not_mem fun hmem => ?_
      rw [List.map_append, List.map_cons, List.nodup_append] at h
      exact h.2.2 _ hmem _ List.mem_cons_self rfl
    rw [List.foldl_cons, ih (by rw [hnew, List.append_assoc]; exact h), hnew, List.append_assoc]
    rfl

theorem ofList_entries (d : Dict κ ν) : ofList d.entries = d :=
  ext (entries_foldl_set d.nodup)

theorem get?_ofList {pairs : List (κ × ν)} {k : κ} {v : ν} (h : (ofList pairs).get? k = some v) :
    (k, v) ∈ pairs := by
  have key : ∀ (pairs : List (κ × ν)) (d : Dict κ ν),
      (pairs.foldl (fun d e => d.set e.1 e.2) d).get? k = some v →
        (k, v) ∈ pairs ∨ d.get? k = some v := by
    intro pairs
    induction pairs with
    | nil => exact fun d h => Or.inr h
    | cons e es ih =>
      intro d h
      rcases ih _ h with h | h
      · exact Or.inl (List.mem_cons_of_mem _ h)
      · rw [get?_set] at h
        split at h
        · next he => exact Or.inl (by rw [← he, ← Option.some.inj h]; exact List.mem_cons_self)
        · exact Or.inr h
  rcases key pairs empty h with h | h
  · exact h
  · simp at h

theorem mem_values_set {d : Dict κ ν} {k : κ} {v w : ν} :
    w ∈ (d.set k v).values ↔ w = v ∨ ∃ k', k' ≠ k ∧ d.get? k' = some w := by
  rw [mem_values_iff]
  constructor
  · rintro ⟨k', h⟩
    rw [get?_set] at h
    split at h
    · exact Or.inl (Option.some.inj h).symm
    · next hne => exact Or.inr ⟨k', Ne.symm hne, h⟩
  · rintro (rfl | ⟨k', hne, h⟩)
    · exact ⟨k, d.get?_set_self k w⟩
    · exact ⟨k', by rw [get?_set_of_ne d (Ne.symm hne), h]⟩

end Dict

end Lib
