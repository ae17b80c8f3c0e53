import DaonUser.Lib.ReadCommitted

/-!
# One call after the other

`serially` is what calls do that run one after the other, each alone. READ COMMITTED allows these runs
(`exists_moves`), so what they show of a program is what a run may show.
-/

namespace Lib

variable {P κ σ L ε α : Type}

def after (rows : σ) (result : Except ε α × σ) : σ :=
  match result.1 with
  | .ok _ => result.2
  | .error _ => rows

def serially (program : κ → Program σ L ε α) : List κ → σ → List (Ended κ ε α) × σ
  | [], rows => ([], rows)
  | call :: calls, rows =>
    let result := (program call).alone rows
    let rest := serially program calls (after rows result)
    (⟨call, result.1⟩ :: rest.1, rest.2)

@[simp] theorem map_call_serially (program : κ → Program σ L ε α) (calls : List κ) (rows : σ) :
    (serially program calls rows).1.map (·.call) = calls := by
  induction calls generalizing rows with
  | nil => rfl
  | cons call calls ih => rw [serially, List.map_cons, ih]

variable [DecidableEq P] [DecidableEq L] {program : κ → Program σ L ε α} {p : P} {rows s₀ : σ}

def Cluster.idle (rows : σ) : Cluster P κ σ L ε α := ⟨rows, fun _ => none, fun _ => none⟩

/-- Only the transaction of `p` runs. -/
def Cluster.OnlyRuns (x : Cluster P κ σ L ε α) (p : P) (session : Session κ σ L ε α) : Prop :=
  x.sessions = Function.update (fun _ => none) p (some session) ∧
    ∀ l, x.holder l = none ∨ x.holder l = some p

omit [DecidableEq L] in
theorem ended_of_onlyRuns {x : Cluster P κ σ L ε α} {session : Session κ σ L ε α}
    (h : x.OnlyRuns p session) (rows : σ) :
    ({ x with committed := rows } : Cluster P κ σ L ε α).ended p = .idle rows := by
  obtain ⟨committed, sessions, holder⟩ := x
  obtain ⟨hsessions, hholder⟩ := h
  dsimp only at hsessions hholder
  subst hsessions
  simp only [Cluster.ended, Cluster.idle, Cluster.mk.injEq, true_and]
  refine ⟨?_, funext fun l => ?_⟩
  · rw [Function.update_idem]
    exact Function.update_eq_self p _
  · rcases hholder l with hnone | hown
    · simp [hnone]
    · simp [hown]

variable (program s₀) in
theorem exists_steps {x : Cluster P κ σ L ε α} {call : κ} {left : Program σ L ε α}
    {written : List (σ → σ)} {v : σ} (h : x.OnlyRuns p ⟨call, left, written⟩)
    (hv : replay written x.committed = v) : ∃ n,
      ((readCommitted program s₀).eventsFrom x (List.replicate n (.step p))).filterMap (·.output) =
          [⟨call, (left.alone v).1⟩] ∧
        (readCommitted program s₀).runFrom x (List.replicate n (.step p)) =
          .idle (after x.committed (left.alone v)) := by
  have hsession : x.sessions p = some ⟨call, left, written⟩ := by rw [h.1, Function.update_self]
  induction left generalizing x written v with
  | finish outcome =>
    refine ⟨1, ?_⟩
    simp only [List.replicate_one, Machine.eventsFrom, Machine.event, Machine.answer, Machine.next,
      Machine.runFrom_cons, Machine.runFrom_nil, readCommitted, hsession, Cluster.advance,
      Program.alone]
    cases outcome with
    | error e => exact ⟨rfl, ended_of_onlyRuns h x.committed⟩
    | ok a =>
      refine ⟨rfl, ?_⟩
      rw [← hv]
      exact ended_of_onlyRuns h _
  | statement locks write next ih =>
    have hstep := step_statement program s₀ hsession hv fun l _ => h.2 l
    have hsessions : (x.ran p (locks v) ⟨call, next v, written ++ [write v]⟩).sessions =
        Function.update (fun _ => none) p (some ⟨call, next v, written ++ [write v]⟩) := by
      change Function.update x.sessions p _ = _
      rw [h.1, Function.update_idem]
    have honly : (x.ran p (locks v) ⟨call, next v, written ++ [write v]⟩).OnlyRuns p
        ⟨call, next v, written ++ [write v]⟩ := by
      refine ⟨hsessions, fun l => ?_⟩
      change (if l ∈ locks v then some p else x.holder l) = none ∨
        (if l ∈ locks v then some p else x.holder l) = some p
      split
      · exact Or.inr rfl
      · exact h.2 l
    have hview : replay (written ++ [write v]) x.committed = write v v := by rw [replay_append, hv]
    obtain ⟨n, hevents, hrun⟩ := ih v honly hview (by rw [hsessions, Function.update_self])
    refine ⟨n + 1, ?_, ?_⟩
    · rw [List.replicate_succ, Machine.eventsFrom, List.filterMap_cons_none
        (by rw [Machine.event, Machine.answer, hstep]), Machine.next, hstep]
      exact hevents
    · rw [List.replicate_succ, Machine.runFrom_cons, Machine.next, hstep]
      exact hrun

variable (program s₀) in
theorem exists_moves (p : P) (calls : List κ) (rows : σ) : ∃ moves,
    ((readCommitted program s₀ : Machine (Cluster P κ σ L ε α) _ _).eventsFrom (.idle rows)
        moves).filterMap (·.output) = (serially program calls rows).1 ∧
      (readCommitted program s₀).runFrom (.idle rows) moves =
        (.idle (serially program calls rows).2 : Cluster P κ σ L ε α) ∧
      ∀ move ∈ moves, (∃ call, move = .start p call) ∨ move = .step p := by
  induction calls generalizing rows with
  | nil => exact ⟨[], rfl, rfl, by simp⟩
  | cons call calls ih =>
    have hstart : (readCommitted program s₀).step (.idle rows) (.start p call) =
        (none, (Cluster.idle rows : Cluster P κ σ L ε α).ran p [] ⟨call, program call, []⟩) := rfl
    have honly : ((Cluster.idle rows : Cluster P κ σ L ε α).ran p [] ⟨call, program call, []⟩).OnlyRuns p
        ⟨call, program call, []⟩ := ⟨rfl, fun _ => Or.inl rfl⟩
    have hview : replay [] ((Cluster.idle rows : Cluster P κ σ L ε α).ran p []
        ⟨call, program call, []⟩).committed = rows := rfl
    obtain ⟨n, hevents, hrun⟩ := exists_steps program s₀ honly hview
    change _ = Cluster.idle (after rows ((program call).alone rows)) at hrun
    obtain ⟨moves, hevents', hrun', hmoves⟩ := ih (after rows ((program call).alone rows))
    refine ⟨.start p call :: (List.replicate n (.step p) ++ moves), ?_, ?_, fun move hmove => ?_⟩
    · rw [Machine.eventsFrom, List.filterMap_cons_none (by rw [Machine.event, Machine.answer, hstart]),
        Machine.next, hstart, Machine.eventsFrom_append, List.filterMap_append, hevents, hrun, hevents']
      rfl
    · rw [Machine.runFrom_cons, Machine.next, hstart, Machine.runFrom_append, hrun, hrun']
      rfl
    · rcases List.mem_cons.1 hmove with rfl | hmove
      · exact Or.inl ⟨call, rfl⟩
      · rcases List.mem_append.1 hmove with hstep | hlater
        · exact Or.inr (List.eq_of_mem_replicate hstep)
        · exact hmoves move hlater

end Lib
