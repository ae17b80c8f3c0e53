import DaonUser.Lib.ReadCommitted

/-!
# The turns of a run

What each step of a run makes of an observation that is written under one lock (`made_event`), and calls
that draw a value each: where the draws differ, no two calls that end have drawn the same
(`draw_not_mem_ended`).
-/

namespace Lib

theorem Machine.eventsFrom_induction {σ ι ο : Type} (m : Machine σ ι ο) {J : σ → Prop}
    {E : Event σ ι ο → Prop} {s : σ} {is : List ι} (hs : J s)
    (hstep : ∀ pre i post, is = pre ++ i :: post → J (m.runFrom s pre) →
      J (m.next (m.runFrom s pre) i) ∧ E (m.event (m.runFrom s pre) i)) :
    J (m.runFrom s is) ∧ ∀ e ∈ m.eventsFrom s is, E e := by
  induction is generalizing s with
  | nil => exact ⟨hs, fun e he => by cases he⟩
  | cons i is ih =>
    obtain ⟨hnext, hevent⟩ := hstep [] i is rfl hs
    obtain ⟨hrun, hevents⟩ := ih hnext fun pre j post hsplit hj =>
      hstep (i :: pre) j post (by rw [hsplit, List.cons_append]) hj
    refine ⟨hrun, fun e he => ?_⟩
    rcases List.mem_cons.1 he with rfl | he
    · exact hevent
    · exact hevents e he

variable {P κ σ L ε α β δ : Type} [DecidableEq P] [DecidableEq L]

/-! ## What a step makes of an observation -/

section Made

variable {program : κ → Program σ L ε α} {l : L} {f : σ → β} {Q : κ → α → Hold β → Prop} {rows : σ}
  {x : Cluster P κ σ L ε α}

theorem tracked_of_reachable
    (hprogram : ∀ call, (program call).Meets l f (fun _ => True) (Q call) .free)
    (hx : (readCommitted program rows : Machine (Cluster P κ σ L ε α) _ _).Reachable x) :
    Tracked l f (fun _ _ => True) Q x :=
  hx.induction ⟨by simp [readCommitted], by simp [readCommitted]⟩
    fun x move hx => (hx.next rows hprogram move (finds_true x move)).1

theorem made_next (hprogram : ∀ call, (program call).Meets l f (fun _ => True) (Q call) .free)
    (hx : (readCommitted program rows : Machine (Cluster P κ σ L ε α) _ _).Reachable x)
    (move : Move P κ ε) :
    Made f Q x ((readCommitted program rows).next x move)
      ((readCommitted program rows).answer x move) :=
  ((tracked_of_reachable hprogram hx).next rows hprogram move (finds_true x move)).2

omit [DecidableEq P] [DecidableEq L] in
theorem Made.cases {x' : Cluster P κ σ L ε α} {o : Option (Ended κ ε α)} (h : Made f Q x x' o) :
    f x'.committed = f x.committed ∨ ∃ call a, o = some ⟨call, .ok a⟩ ∧
      Q call a (.held (f x.committed) (f x'.committed)) := by
  obtain _ | ⟨call, e | a⟩ := o
  · exact .inl h
  · exact .inl h
  · rcases h with ⟨-, hsame⟩ | hq
    · exact .inl hsame
    · exact .inr ⟨call, a, rfl, hq⟩

end Made

/-! ## The calls that run -/

section Calls

variable {K : κ → Prop} {x : Cluster P κ σ L ε α}

theorem calls_next (program : κ → Program σ L ε α) (rows : σ)
    (h : ∀ p session, x.sessions p = some session → K session.call) {move : Move P κ ε}
    (hmove : ∀ p call, move = .start p call → K call) :
    ∀ p session, ((readCommitted program rows).next x move).sessions p = some session →
      K session.call := by
  unfold Machine.next readCommitted
  cases move with
  | start p call =>
    simp only
    split
    · exact forall_ran h (hmove p call rfl)
    · exact h
  | abort p e =>
    simp only
    split
    · exact h
    · exact forall_ended h
  | step p =>
    simp only
    split
    · exact h
    · next session hsession =>
      have hcall := h p session hsession
      obtain ⟨call, left, written⟩ := session
      unfold Cluster.advance
      cases left with
      | finish outcome =>
        cases outcome with
        | error e => exact forall_ended h
        | ok a => exact forall_ended h
      | statement locks write next =>
        simp only
        split
        · exact forall_ran h hcall
        · exact h

end Calls

/-! ## Draws -/

section Draws

variable {program : κ → Program σ L ε α} {rows : σ} (draw : κ → Option δ)

def Move.draw? : Move P κ ε → Option δ
  | .start _ call => draw call
  | _ => none

def endedDraws (events : List (Event (Cluster P κ σ L ε α) (Move P κ ε) (Option (Ended κ ε α)))) :
    List δ :=
  events.filterMap fun e => e.output.bind fun ended => draw ended.call

/-- The draws of the calls that have ended and of those that run are apart, and have been made. -/
structure DrawsApart (started past : List δ) (x : Cluster P κ σ L ε α) : Prop where
  made : ∀ d ∈ past, d ∈ started
  running : ∀ p session d, x.sessions p = some session → draw session.call = some d →
    d ∈ started ∧ d ∉ past
  one : ∀ p q session session' d, x.sessions p = some session → x.sessions q = some session' →
    draw session.call = some d → draw session'.call = some d → p = q

variable {draw} {started past : List δ} {x : Cluster P κ σ L ε α} {p : P}

omit [DecidableEq P] [DecidableEq L] in
theorem DrawsApart.more (h : DrawsApart draw started past x) (d : Option δ) :
    DrawsApart draw (started ++ d.toList) past x where
  made := fun e he => List.mem_append_left _ (h.made e he)
  running := by
    intro p session e hsession hdraw
    obtain ⟨hmem, hnot⟩ := h.running p session e hsession hdraw
    exact ⟨List.mem_append_left _ hmem, hnot⟩
  one := h.one

theorem DrawsApart.ran {session session' : Session κ σ L ε α} {locks : List L}
    (h : DrawsApart draw started past x) (hsession : x.sessions p = some session)
    (hcall : session'.call = session.call) :
    DrawsApart draw started past (x.ran p locks session') := by
  have hold : ∀ q session'', (x.ran p locks session').sessions q = some session'' →
      ∃ session₀, x.sessions q = some session₀ ∧ session''.call = session₀.call := by
    intro q session'' hq
    change Function.update x.sessions p (some session') q = some session'' at hq
    by_cases hne : q = p
    · rw [hne, Function.update_self] at hq
      obtain rfl := Option.some.inj hq
      exact ⟨session, hne ▸ hsession, hcall⟩
    · rw [Function.update_of_ne hne] at hq
      exact ⟨session'', hq, rfl⟩
  refine ⟨h.made, ?_, ?_⟩
  · intro q session'' d hq hdraw
    obtain ⟨session₀, h₀, hcall₀⟩ := hold q session'' hq
    exact h.running q session₀ d h₀ (hcall₀ ▸ hdraw)
  · intro q q' session₁ session₂ d hq hq' hdraw hdraw'
    obtain ⟨s₁, h₁, hcall₁⟩ := hold q session₁ hq
    obtain ⟨s₂, h₂, hcall₂⟩ := hold q' session₂ hq'
    exact h.one q q' s₁ s₂ d h₁ h₂ (hcall₁ ▸ hdraw) (hcall₂ ▸ hdraw')

theorem DrawsApart.start {call : κ} {left : Program σ L ε α} (h : DrawsApart draw started past x)
    (hnew : ∀ d, draw call = some d → d ∉ started) :
    DrawsApart draw (started ++ (draw call).toList) past (x.ran p [] ⟨call, left, []⟩) := by
  have hold : ∀ q session, (x.ran p [] ⟨call, left, []⟩).sessions q = some session →
      q = p ∧ session.call = call ∨ x.sessions q = some session := by
    intro q session hq
    change Function.update x.sessions p _ q = some session at hq
    by_cases hne : q = p
    · rw [hne, Function.update_self] at hq
      obtain rfl := Option.some.inj hq
      exact Or.inl ⟨hne, rfl⟩
    · rw [Function.update_of_ne hne] at hq
      exact Or.inr hq
  refine ⟨(h.more _).made, ?_, ?_⟩
  · intro q session d hq hdraw
    rcases hold q session hq with ⟨-, hcall⟩ | hq
    · rw [hcall] at hdraw
      exact ⟨by simp [hdraw], fun hmem => hnew d hdraw (h.made d hmem)⟩
    · exact (h.more _).running q session d hq hdraw
  · intro q q' session session' d hq hq' hdraw hdraw'
    rcases hold q session hq with ⟨hqp, hcall⟩ | hq
    · rcases hold q' session' hq' with ⟨hqp', -⟩ | hq'
      · rw [hqp, hqp']
      · exact absurd (h.running q' session' d hq' hdraw').1 (hnew d (hcall ▸ hdraw))
    · rcases hold q' session' hq' with ⟨-, hcall⟩ | hq'
      · exact absurd (h.running q session d hq hdraw).1 (hnew d (hcall ▸ hdraw'))
      · exact h.one q q' session session' d hq hq' hdraw hdraw'

omit [DecidableEq L] in
theorem DrawsApart.ended {session : Session κ σ L ε α} {s : σ} (h : DrawsApart draw started past x)
    (hsession : x.sessions p = some session) :
    DrawsApart draw started (past ++ (draw session.call).toList)
      (({ x with committed := s } : Cluster P κ σ L ε α).ended p) := by
  have hold : ∀ q session', (({ x with committed := s } : Cluster P κ σ L ε α).ended p).sessions q =
      some session' → q ≠ p ∧ x.sessions q = some session' := by
    intro q session' hq
    change Function.update x.sessions p none q = some session' at hq
    by_cases hne : q = p
    · rw [hne, Function.update_self] at hq
      cases hq
    · rw [Function.update_of_ne hne] at hq
      exact ⟨hne, hq⟩
  refine ⟨?_, ?_, ?_⟩
  · intro d hd
    rcases List.mem_append.1 hd with hd | hd
    · exact h.made d hd
    · exact (h.running p session d hsession (Option.mem_toList.1 hd)).1
  · intro q session' d hq hdraw
    obtain ⟨hne, hq⟩ := hold q session' hq
    obtain ⟨hmem, hnot⟩ := h.running q session' d hq hdraw
    refine ⟨hmem, fun hd => ?_⟩
    rcases List.mem_append.1 hd with hd | hd
    · exact hnot hd
    · exact hne (h.one q p session' session d hq hsession hdraw (Option.mem_toList.1 hd))
  · intro q q' session₁ session₂ d hq hq'
    exact h.one q q' session₁ session₂ d (hold q session₁ hq).2 (hold q' session₂ hq').2

variable (program rows) in
theorem DrawsApart.next (h : DrawsApart draw started past x) (move : Move P κ ε)
    (hnew : ∀ d, move.draw? draw = some d → d ∉ started) :
    DrawsApart draw (started ++ (move.draw? draw).toList)
      (past ++ (((readCommitted program rows).answer x move).bind fun e => draw e.call).toList)
      ((readCommitted program rows).next x move) := by
  unfold Machine.next Machine.answer readCommitted
  cases move with
  | start p call =>
    simp only
    split
    · simpa [Move.draw?] using h.start hnew
    · simpa using h.more _
  | step p =>
    simp only [Move.draw?, Option.toList_none, List.append_nil]
    split
    · simpa using h
    · next session hsession =>
      obtain ⟨call, left, written⟩ := session
      unfold Cluster.advance
      cases left with
      | finish outcome =>
        cases outcome with
        | error e => exact h.ended hsession
        | ok a => exact h.ended hsession
      | statement locks write next =>
        simp only
        split
        · rw [Option.bind_none, Option.toList_none, List.append_nil]
          exact h.ran hsession rfl
        · simpa using h
  | abort p e =>
    simp only [Move.draw?, Option.toList_none, List.append_nil]
    split
    · simpa using h
    · next session hsession => exact h.ended hsession

variable (program rows) in
theorem drawsApart_run {moves : List (Move P κ ε)}
    (hnodup : (moves.filterMap (Move.draw? draw)).Nodup) :
    DrawsApart draw (moves.filterMap (Move.draw? draw))
      (endedDraws draw ((readCommitted program rows).events moves))
      ((readCommitted program rows).run moves) := by
  induction moves using List.reverseRecOn with
  | nil => exact ⟨by simp [endedDraws, Machine.events, Machine.eventsFrom], by simp [readCommitted],
      by simp [readCommitted]⟩
  | append_singleton moves move ih =>
    rw [List.filterMap_append, List.nodup_append] at hnodup
    obtain ⟨hmoves, -, hapart⟩ := hnodup
    have hnext := (ih hmoves).next program rows move fun d hd hmem =>
      hapart d hmem d (by simp [hd]) rfl
    rw [Machine.run_concat, Machine.events_concat, endedDraws, List.filterMap_append,
      List.filterMap_append]
    have hstarted : [move].filterMap (Move.draw? draw) = (move.draw? draw).toList := by
      cases hdraw : move.draw? draw <;> simp [hdraw]
    have hended : ([(readCommitted program rows).event ((readCommitted program rows).run moves)
        move].filterMap fun e => e.output.bind fun ended => draw ended.call) =
        (((readCommitted program rows).answer ((readCommitted program rows).run moves) move).bind
          fun e => draw e.call).toList := by
      cases hdraw : ((readCommitted program rows).answer ((readCommitted program rows).run moves)
        move).bind fun e => draw e.call <;> simp [Machine.event, hdraw]
    rw [hstarted, hended]
    exact hnext

variable (program rows) in
theorem session_of_answer {move : Move P κ ε} {e : Ended κ ε α}
    (h : (readCommitted program rows).answer x move = some e) :
    ∃ p session, x.sessions p = some session ∧ session.call = e.call := by
  unfold Machine.answer readCommitted at h
  cases move with
  | start p call =>
    simp only at h
    split at h
    · cases h
    · cases h
  | abort p e =>
    simp only at h
    split at h
    · cases h
    · next session hsession =>
      obtain rfl := Option.some.inj h
      exact ⟨p, session, hsession, rfl⟩
  | step p =>
    simp only at h
    split at h
    · cases h
    · next session hsession =>
      refine ⟨p, session, hsession, ?_⟩
      obtain ⟨call, left, written⟩ := session
      unfold Cluster.advance at h
      cases left with
      | finish outcome =>
        cases outcome with
        | error e =>
          obtain rfl := Option.some.inj h
          rfl
        | ok a =>
          obtain rfl := Option.some.inj h
          rfl
      | statement locks write next =>
        simp only at h
        split at h
        · cases h
        · cases h

theorem draw_not_mem_ended {moves : List (Move P κ ε)} {move : Move P κ ε}
    (hnodup : (moves.filterMap (Move.draw? draw)).Nodup) {e : Ended κ ε α} {d : δ}
    (hanswer : (readCommitted program rows).answer ((readCommitted program rows).run moves) move = some e)
    (hdraw : draw e.call = some d) :
    d ∉ endedDraws draw ((readCommitted program rows).events moves) := by
  have h := drawsApart_run program rows hnodup
  obtain ⟨p, session, hsession, hcall⟩ := session_of_answer program rows hanswer
  exact (h.running p session d hsession (hcall ▸ hdraw)).2

end Draws

end Lib
