import DaonUser.Retention.Invariant

/-!
# Retention: legal holds protect their sources

Whatever calls are made, in any order, the cleanup port is asked only about requests that no active
hold protects, after their grace period, on behalf of a verified administrator, and the state of a
request tells whether its source is held (`hold_safety`).
-/

namespace DaonUser.Retention

open Lib

variable {prim : Primitives}

/-- A call of the cleanup port that the step of `i` from `s` makes. -/
structure AskedIn (s : System) (i : Input) (invocation : Invocation) : Prop where
  purge : ∃ expectedVersion key, i.operation =
    .purge invocation.requestId expectedVersion key invocation.stepUpVerified
  made : MadeBy i.env i.context invocation.stepUpVerified s.repository invocation

theorem invocations_next {s : System} (h : Consistent prim s) (i : Input) :
    ∃ added, ((machine prim).next s i).invocations = s.invocations ++ added ∧
      ∀ invocation ∈ added, AskedIn s i invocation ∧ CalledSafely invocation := by
  have heffect := effect_next prim s i
  generalize (machine prim).answer s i = o at heffect
  generalize (machine prim).next s i = s' at heffect ⊢
  have hnone : s.invocations = s.invocations ++ [] ∧
      ∀ invocation ∈ ([] : List Invocation), AskedIn s i invocation ∧ CalledSafely invocation :=
    ⟨(List.append_nil _).symm, fun _ h => by cases h⟩
  cases heffect with
  | unchanged same =>
    rw [same.invocations]
    exact ⟨[], hnone⟩
  | purged operation admitted allowed =>
    obtain ⟨added, hadded, hsafe⟩ :=
      (purgeItems_keeps (s := s) admitted.sensitive allowed).invocations
    refine ⟨added, hadded, fun invocation hmem => ?_⟩
    obtain ⟨hid, hmade, hcalled⟩ := hsafe invocation hmem
    have hrequest := h.request_id (Repository.request_eq_ok.1 admitted.found).1
    rw [← hrequest, ← hid, ← hmade.verified] at operation
    exact ⟨⟨⟨_, _, operation⟩, ⟨hmade.context, rfl, hmade.reading, hmade.holds⟩⟩, hcalled⟩
  | _ => exact ⟨[], hnone⟩

/-- In every run, every call of the cleanup port is made while no active hold protects the source
of the request, not before the end of its grace period and for a verified administrator; and in
every reachable state a request whose source is held is blocked or cancelled, and a blocked request
has its source held. -/
theorem hold_safety (prim : Primitives) (is : List Input) :
    (∀ e ∈ (machine prim).events is, ∃ added,
      e.post.invocations = e.pre.invocations ++ added ∧
      ∀ invocation ∈ added, AskedIn e.pre e.input invocation ∧ CalledSafely invocation) ∧
    ∀ {k : String} {request : DeletionRequest},
      ((machine prim).run is).repository.requests.get? k = some request →
      (Held ((machine prim).run is).repository request.scope →
        request.state = .blockedByHold ∨ request.state = .cancelled) ∧
      (request.state = .blockedByHold →
        Held ((machine prim).run is).repository request.scope) := by
  refine ⟨fun e he => ?_, fun hk => ?_⟩
  · obtain ⟨s, i, hs, -, rfl⟩ := Machine.mem_events _ he
    have hconsistent : Consistent prim s :=
      hs.induction Consistent.init fun _ i h => consistent_next h i
    exact invocations_next hconsistent i
  · have hlawful := (consistent_run is).lawful hk
    exact ⟨hlawful.held, hlawful.blocked⟩

end DaonUser.Retention
