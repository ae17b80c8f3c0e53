import DaonUser.Sync.Mirror

/-!
# Sync: what a transaction needs

When the statements of `_mutate` go through, and what they leave. The rules of the statements are
those of `Call.Needs`; where the constraints of a table decide, the condition is about the rows that
were there and the arguments of the call.
-/

namespace DaonUser.Sync.Postgres

open Lib

variable {prim : Primitives}

/-! ## Statements -/

/-- The rows that `insertDrawn` inserts. -/
def drawnRows {ι ρ : Type} (prim : Primitives) (kind : String) (build : String → ι → ρ) :
    Nat → List ι → List ρ
  | _, [] => []
  | n, x :: xs => build (prim.tokens.id kind n) x :: drawnRows prim kind build (n + 1) xs

section Statements

variable {α : Type} {s : Store} {n : Nat} {c : Prop} {R : α → Store → Prop}

theorem insertRows_needs {ρ : Type} (table : Table Tables ρ) (new : List ρ) (hn : n ≤ s.drawn) :
    Call.Needs (insertRows table new) s (table.AdmitsAll s.tables new) (n ≤ ·.drawn)
      fun _ s' => s' = { s with tables := table.append s.tables new } := by
  induction new generalizing s with
  | nil => exact ⟨table.admitsAll_nil _, by rw [table.append_nil]; rfl⟩
  | cons row new ih =>
    refine Call.Needs.iff (c := table.Admits s.tables row ∧
      table.AdmitsAll (table.append s.tables [row]) new) ?_ (table.admitsAll_cons).symm
    refine Call.needs_get (Call.needs_ensure hn fun _ => Call.needs_modify ?_)
    rw [← table.append_cons s.tables row new]
    exact ih (s := { s with tables := table.append s.tables [row] }) hn

theorem insertDrawn_needs {ι ρ : Type} (kind : String) (table : Table Tables ρ)
    (build : String → ι → ρ) (xs : List ι) (hn : n ≤ s.drawn) :
    Call.Needs (insertDrawn prim kind table build xs) s
      (table.AdmitsAll s.tables (drawnRows prim kind build s.drawn xs)) (n ≤ ·.drawn)
      fun _ s' => s' = ⟨table.append s.tables (drawnRows prim kind build s.drawn xs),
        s.drawn + xs.length, s.transmissions⟩ := by
  induction xs generalizing s with
  | nil => exact ⟨table.admitsAll_nil _, by rw [drawnRows, table.append_nil]; rfl⟩
  | cons x xs ih =>
    rw [drawnRows]
    refine Call.Needs.iff ?_ (table.admitsAll_cons).symm
    rw [← table.admitsAll_singleton]
    refine Call.needs_get (Call.needs_modify ?_)
    refine Call.needs_bind (insertRows_needs table _ (s := { s with drawn := s.drawn + 1 })
      (Nat.le_succ_of_le hn)) fun _ _ s' hs' => ?_
    subst hs'
    have h := ih (s := ⟨table.append s.tables [build (prim.tokens.id kind s.drawn) x],
      s.drawn + 1, s.transmissions⟩) (Nat.le_succ_of_le hn)
    rw [table.append_cons] at h
    rw [List.length_cons, Nat.add_comm xs.length, ← Nat.add_assoc]
    exact h

theorem needs_insertRows {ρ : Type} {table : Table Tables ρ} {new : List ρ} {d : Prop}
    {f : PUnit → Statement α} (hn : n ≤ s.drawn) (hd : table.AdmitsAll s.tables new ↔ d)
    (hf : table.AdmitsAll s.tables new → Call.Needs (f ⟨⟩)
      { s with tables := table.append s.tables new } c (n ≤ ·.drawn) R) :
    Call.Needs (insertRows table new >>= f) s (d ∧ c) (n ≤ ·.drawn) R := by
  rw [← hd]
  refine Call.needs_bind (insertRows_needs table new hn) fun h _ s' hs' => ?_
  subst hs'
  exact hf h

theorem needs_insertDrawn_of {ι ρ : Type} {kind : String} {table : Table Tables ρ}
    {build : String → ι → ρ} {xs : List ι} {f : PUnit → Statement α} (hn : n ≤ s.drawn)
    (h : table.AdmitsAll s.tables (drawnRows prim kind build s.drawn xs))
    (hf : Call.Needs (f ⟨⟩) ⟨table.append s.tables (drawnRows prim kind build s.drawn xs),
      s.drawn + xs.length, s.transmissions⟩ c (n ≤ ·.drawn) R) :
    Call.Needs (insertDrawn prim kind table build xs >>= f) s c (n ≤ ·.drawn) R := by
  refine (Call.needs_bind (insertDrawn_needs kind table build xs hn) fun _ _ s' hs' => ?_).iff
    (and_iff_right h)
  subst hs'
  exact hf

theorem needs_firstEntry {r : Repository} {p : Key → Result → Bool} {key : Key}
    {value : String × Result} {f : Key × String × Result → Statement α} {E : Store → Prop}
    (hget : r.idempotency.get? key = some value) (hp : p key value.2 = true)
    (unique : ∀ key' value', r.idempotency.get? key' = some value' → p key' value'.2 = true →
      key' = key)
    (hf : Call.Needs (f (key, value)) s c E R) : Call.Needs (firstEntry r p >>= f) s c E R := by
  refine Call.needs_query (a := (key, value)) ?_ hf
  rw [Dict.find?_entries (p := fun key value => p key value.2) hget hp unique]

theorem updateOperation_needs {operationId : String} {row : StoredOperation} {after : Operation}
    {r : Repository} (hn : n ≤ s.drawn) (hversion : after.version = row.version + 1) :
    Call.Needs (updateOperation operationId row after r) s
      ((row.state, after.state) ∈ transitions) (n ≤ ·.drawn) fun _ s' => s' =
        { s with tables := { s.tables with
            operations := s.tables.operations.update operationId (·.written after r) } } := by
  refine Call.needs_ensure_of hversion ?_
  refine Call.Needs.iff (c := (row.state, after.state) ∈ transitions ∧ True) ?_ (and_true _).to_iff
  exact Call.needs_ensure hn fun _ => ⟨trivial, rfl⟩

theorem raiseAny_needs {failure : Option SyncError} {a : α} (hn : n ≤ s.drawn) :
    Call.Needs (do raiseAny failure; return a) s (failure = none) (n ≤ ·.drawn)
      fun b s' => b = a ∧ s' = s := by
  cases failure with
  | none => exact ⟨rfl, rfl, rfl⟩
  | some e => exact ⟨by simp, hn⟩

theorem transaction_needs {x : Statement α} (h : Call.Needs x s c (s.drawn ≤ ·.drawn) R) :
    Call.Needs (transaction x) s c (fun s' => s'.tables = s.tables ∧ s.drawn ≤ s'.drawn) R := by
  unfold Call.Needs Call.Post at h ⊢
  unfold transaction
  rcases hx : x s with ⟨e | a, s'⟩ <;> rw [hx] at h
  · exact ⟨h.1, rfl, h.2⟩
  · exact h

end Statements

/-! ## `_mutate` -/

/-- The system that `SyncService` runs on. -/
def Store.core (s : Store) (operationId : String) (context : SyncContext) (operation : Operation)
    (r : Repository) : System :=
  ⟨{ r with operations := r.operations.set operationId { operation with context := context } },
    s.drawn, s.transmissions⟩

section Mutate

variable {s : Store} {env : Env} {context : SyncContext} {operationId : String}
  {row : StoredOperation} {operation before after : Operation} {r : Repository} {callback : Op Reply}
  {result : Reply} {s' : System}
  (hbefore : before = { operation with context := context })

include hbefore

theorem mutate_eq (found : s.tables.operations.get? operationId = some row)
    (hydrated : hydrate row.toOperationRow = .ok (operation, r)) :
    mutate prim env context operationId callback s = transaction (do
      let (result, r) ← runService callback (s.core operationId context operation r).repository
      let after ← operationOf r operationId
      if after.version = operation.version then do
        raiseAny env.failure
        return result
      else do
        persist prim env context operationId row before after r result
        raiseAny env.failure
        return result) s := by
  subst hbefore
  unfold mutate transaction
  rw [Call.bind_of_ok (show selectOperation operationId s = (.ok row, s) by
      rw [selectOperation, Call.query, found]),
    Call.bind_of_ok (show Call.query (fun _ => hydrate row.toOperationRow) s =
      (.ok (operation, r), s) by rw [Call.query, hydrated])]
  rfl

theorem mutate_error (found : s.tables.operations.get? operationId = some row)
    (hydrated : hydrate row.toOperationRow = .ok (operation, r)) {e : SyncError}
    (core : callback (s.core operationId context operation r) = (.error e, s')) :
    mutate prim env context operationId callback s =
      (.error e, ⟨s.tables, s'.drawn, s'.transmissions⟩) := by
  rw [mutate_eq hbefore found hydrated, transaction, Call.bind_of_error
    (show runService callback (s.core operationId context operation r).repository s =
      (.error e, ⟨s.tables, s'.drawn, s'.transmissions⟩) by
        unfold runService
        rw [show callback ⟨(s.core operationId context operation r).repository, s.drawn,
          s.transmissions⟩ = (.error e, s') from core])]

variable (found : s.tables.operations.get? operationId = some row)
  (hydrated : hydrate row.toOperationRow = .ok (operation, r))
  (core : callback (s.core operationId context operation r) = (.ok result, s'))
  (written : s'.repository.operations.get? operationId = some after)

include found hydrated core written

theorem mutate_of_ok {c : Prop} {R : Reply → Store → Prop}
    (h : Call.Needs (if after.version = operation.version then do
        raiseAny env.failure
        return result
      else do
        persist prim env context operationId row before after s'.repository result
        raiseAny env.failure
        return result) ⟨s.tables, s'.drawn, s'.transmissions⟩ c (s.drawn ≤ ·.drawn) R) :
    Call.Needs (mutate prim env context operationId callback) s c
      (fun s'' => s''.tables = s.tables ∧ s.drawn ≤ s''.drawn) R := by
  unfold Call.Needs Call.Post
  rw [mutate_eq hbefore found hydrated]
  refine transaction_needs ?_
  unfold Call.Needs Call.Post
  rw [Call.bind_of_ok
    (show runService callback (s.core operationId context operation r).repository s =
      (.ok (result, s'.repository), ⟨s.tables, s'.drawn, s'.transmissions⟩) by
        unfold runService
        rw [show callback ⟨(s.core operationId context operation r).repository, s.drawn,
          s.transmissions⟩ = (.ok result, s') from core])]
  dsimp only
  rw [Call.bind_of_ok (show operationOf s'.repository operationId
    ⟨s.tables, s'.drawn, s'.transmissions⟩ = (.ok after, ⟨s.tables, s'.drawn, s'.transmissions⟩) by
      rw [operationOf, Call.query, written])]
  exact h

variable (grows : s.drawn ≤ s'.drawn)

include grows

theorem mutate_unchanged (same : after.version = operation.version) :
    Call.Needs (mutate prim env context operationId callback) s (env.failure = none)
      (fun s'' => s''.tables = s.tables ∧ s.drawn ≤ s''.drawn)
      fun reply s'' => reply = result ∧ s''.tables = s.tables ∧ s.drawn ≤ s''.drawn := by
  refine mutate_of_ok hbefore found hydrated core written ?_
  rw [if_pos same]
  refine (raiseAny_needs (a := result) grows).mono fun o s'' ho => ?_
  cases o with
  | error e => exact ho
  | ok reply =>
    obtain ⟨hfailure, hreply, hs⟩ := ho
    exact ⟨hfailure, hreply, by rw [hs], by rw [hs]; exact grows⟩

theorem mutate_changed (changed : after.version ≠ operation.version) {c : Prop}
    {T : Store → Prop} (hT : ∀ s'', T s'' → s'.drawn ≤ s''.drawn)
    (hpersist : Call.Needs (persist prim env context operationId row before after
        s'.repository result)
      ⟨s.tables, s'.drawn, s'.transmissions⟩ c (s'.drawn ≤ ·.drawn) fun _ s'' => T s'') :
    Call.Needs (mutate prim env context operationId callback) s (c ∧ env.failure = none)
      (fun s'' => s''.tables = s.tables ∧ s.drawn ≤ s''.drawn)
      fun reply s'' => reply = result ∧ T s'' := by
  refine mutate_of_ok hbefore found hydrated core written ?_
  rw [if_neg changed]
  refine Call.needs_bind (V := fun _ s'' => T s'') (hpersist.mono fun o s'' ho => ?_)
    fun _ _ s'' hs'' => ?_
  · cases o with
    | error e => exact ⟨ho.1, le_trans grows ho.2⟩
    | ok a => exact ho
  · refine (raiseAny_needs (a := result) (le_trans grows (hT s'' hs''))).mono fun o s₃ ho => ?_
    cases o with
    | error e => exact ho
    | ok reply =>
      obtain ⟨hfailure, hreply, rfl⟩ := ho
      exact ⟨hfailure, hreply, hs''⟩

end Mutate

end DaonUser.Sync.Postgres
