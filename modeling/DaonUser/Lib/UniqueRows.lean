import DaonUser.Lib.ReadCommitted

/-!
# Tables that only grow

A table that transactions at READ COMMITTED only append rows to. `Program.Appends rows keys Q` says that a
program appends a row only while it takes the locks of the keys of the row and sees no row with one of them.
Then no two rows of the table share a key and a step appends what the call that it ends has appended.

While what a call sees meets `V`, `Program.Calm` lets it write nothing, whatever runs beside it
(`calm_run`).
-/

namespace Lib

variable {P κ σ L ε α β ρ : Type}

/-! ## Programs -/

/-- Two rows share a key. -/
def Clash (keys : ρ → List L) (r r' : ρ) : Prop := ∃ l ∈ keys r, l ∈ keys r'

namespace Program

variable (rows : σ → List ρ) (keys : ρ → List L)

/-- Every way that a program goes on appends rows with new keys only, and returns as `Q` says of the
rows that it has seen and of those that it has appended. -/
def Appends (Q : α → List ρ → List ρ → Prop) : Program σ L ε α → List ρ → List ρ → Prop
  | finish (.ok a), seen, added => Q a seen added
  | finish (.error _), _, _ => True
  | statement locks write next, seen, added => ∀ v, seen ⊆ rows v →
      ∃ new : Option ρ, (∀ s, rows (write v s) = rows s ++ new.toList) ∧
        (∀ r ∈ new, keys r ⊆ locks v ∧ ∀ r' ∈ rows v, ¬Clash keys r' r) ∧
        (next v).Appends Q (rows v ++ new.toList) (added ++ new.toList)

section Rules

variable {rows : σ → List ρ} {keys : ρ → List L} {Q : α → List ρ → List ρ → Prop}
  {seen added : List ρ}

@[simp] theorem appends_ensure {c : Prop} [Decidable c] {e : ε} {Q : Unit → List ρ → List ρ → Prop} :
    (ensure c e : Program σ L ε Unit).Appends rows keys Q seen added ↔ (c → Q () seen added) := by
  by_cases h : c <;> simp [ensure, h, Appends]

@[simp] theorem appends_require {o : Option α} {e : ε} :
    (require o e : Program σ L ε α).Appends rows keys Q seen added ↔
      ∀ a, o = some a → Q a seen added := by
  cases o <;> simp [require, Appends]

theorem appends_bind {γ : Type} {Q : γ → List ρ → List ρ → Prop} {p : Program σ L ε α}
    {f : α → Program σ L ε γ} (h : p.Appends rows keys
      (fun a seen added => (f a).Appends rows keys Q seen added) seen added) :
    (p >>= f).Appends rows keys Q seen added := by
  induction p generalizing seen added with
  | finish outcome =>
    cases outcome with
    | error e => trivial
    | ok a => exact h
  | statement locks write next ih =>
    intro v hv
    obtain ⟨new, hwrite, hnew, hnext⟩ := h v hv
    exact ⟨new, hwrite, hnew, ih v hnext⟩

theorem appends_statement {locks : σ → List L} {write : σ → σ → σ} {next : σ → Program σ L ε α}
    (hwrite : ∀ v s, rows (write v s) = rows s)
    (h : ∀ v, seen ⊆ rows v → (next v).Appends rows keys Q (rows v) added) :
    (statement locks write next).Appends rows keys Q seen added := by
  intro v hv
  refine ⟨none, fun s => by simp [hwrite], by simp, ?_⟩
  simpa using h v hv

theorem appends_read {g : σ → α} (h : ∀ v, seen ⊆ rows v → Q (g v) (rows v) added) :
    (read g : Program σ L ε α).Appends rows keys Q seen added :=
  appends_statement (fun _ _ => rfl) h

theorem appends_readLocked {locks : σ → List L} {g : σ → α}
    (h : ∀ v, seen ⊆ rows v → Q (g v) (rows v) added) :
    (readLocked locks g : Program σ L ε α).Appends rows keys Q seen added :=
  appends_statement (fun _ _ => rfl) h

end Rules

/-- Every write leaves what `f` reads as it was. -/
def Keeps (f : σ → β) : Program σ L ε α → Prop
  | finish _ => True
  | statement _ write next => ∀ v, (∀ s, f (write v s) = f s) ∧ (next v).Keeps f

section Keeps

variable {f : σ → β}

theorem keeps_bind {γ : Type} {p : Program σ L ε α} {g : α → Program σ L ε γ} (hp : p.Keeps f)
    (hg : ∀ a, (g a).Keeps f) : (p >>= g).Keeps f := by
  induction p with
  | finish outcome =>
    cases outcome with
    | error e => trivial
    | ok a => exact hg a
  | statement locks write next ih => exact fun v => ⟨(hp v).1, ih v (hp v).2⟩

@[simp] theorem keeps_ensure {c : Prop} [Decidable c] {e : ε} :
    (ensure c e : Program σ L ε Unit).Keeps f := trivial

@[simp] theorem keeps_require {o : Option α} {e : ε} : (require o e : Program σ L ε α).Keeps f :=
  trivial

@[simp] theorem keeps_read {g : σ → α} : (read g : Program σ L ε α).Keeps f :=
  fun _ => ⟨fun _ => rfl, trivial⟩

@[simp] theorem keeps_readLocked {locks : σ → List L} {g : σ → α} :
    (readLocked locks g : Program σ L ε α).Keeps f :=
  fun _ => ⟨fun _ => rfl, trivial⟩

end Keeps

/-- Every way that a program goes on from what meets `V` writes nothing, takes locks of `A` only and
ends within `n` statements as `Q` says. -/
def Calm (V : σ → Prop) (A : L → Prop) (Q : Except ε α → Prop) : Nat → Program σ L ε α → Prop
  | _, finish outcome => Q outcome
  | 0, statement _ _ _ => False
  | n + 1, statement locks write next => ∀ v, V v →
      (∀ s, write v s = s) ∧ (∀ l ∈ locks v, A l) ∧ (next v).Calm V A Q n

section Calm

variable {V : σ → Prop} {A : L → Prop} {Q : Except ε β → Prop} {n : Nat} {f : α → Program σ L ε β}

theorem calm_ensure {c : Prop} [Decidable c] {e : ε} {f : Unit → Program σ L ε β} (hc : c)
    (h : (f ()).Calm V A Q n) : (ensure c e >>= f).Calm V A Q n := by
  rw [ensure_bind, if_pos hc]
  exact h

theorem calm_require {o : Option α} {e : ε} {a : α} (ho : o = some a) (h : (f a).Calm V A Q n) :
    (require o e >>= f).Calm V A Q n := by
  subst ho
  exact h

theorem calm_read {g : σ → α} (h : ∀ v, V v → (f (g v)).Calm V A Q n) :
    (read g >>= f).Calm V A Q (n + 1) :=
  fun v hv => ⟨fun _ => rfl, fun _ hmem => absurd hmem List.not_mem_nil, h v hv⟩

theorem calm_readLocked {locks : σ → List L} {g : σ → α} (hA : ∀ v, V v → ∀ l ∈ locks v, A l)
    (h : ∀ v, V v → (f (g v)).Calm V A Q n) : (readLocked locks g >>= f).Calm V A Q (n + 1) :=
  fun v hv => ⟨fun _ => rfl, hA v hv, h v hv⟩

end Calm

end Program

/-! ## The table in a run -/

section Growing

variable [DecidableEq P] [DecidableEq L] {program : κ → Program σ L ε α} {rows : σ → List ρ}
  {keys : ρ → List L} {Q : κ → α → List ρ → List ρ → Prop} {x : Cluster P κ σ L ε α} {p : P}
  {session : Session κ σ L ε α} {s₀ : σ}

variable (rows keys Q) in
/-- A transaction that has seen some rows and appended others, whose keys are its own. -/
structure Grows (x : Cluster P κ σ L ε α) (p : P) (session : Session κ σ L ε α)
    (seen added : List ρ) : Prop where
  appends : session.program.Appends rows keys (Q session.call) seen added
  written : ∀ s, rows (replay session.written s) = rows s ++ added
  seen : seen ⊆ rows x.committed ++ added
  held : ∀ r ∈ added, ∀ l ∈ keys r, x.holder l = some p
  fresh : ∀ r ∈ added, ∀ r' ∈ rows x.committed, ¬Clash keys r' r
  apart : added.Pairwise fun r r' => ¬Clash keys r r'

variable (rows keys Q) in
/-- No two rows share a key, and the transactions only append. -/
structure Growing (x : Cluster P κ σ L ε α) : Prop where
  unique : (rows x.committed).Pairwise fun r r' => ¬Clash keys r r'
  sessions : ∀ p session, x.sessions p = some session →
    ∃ seen added, Grows rows keys Q x p session seen added

theorem Grows.ran {q : P} {session' : Session κ σ L ε α} {locks : List L} {seen added : List ρ}
    (h : Grows rows keys Q x q session seen added) (hgrants : x.Grants p locks) (hne : q ≠ p) :
    Grows rows keys Q (x.ran p locks session') q session seen added := by
  refine ⟨h.appends, h.written, h.seen, fun r hr l hl => ?_, h.fresh, h.apart⟩
  have hheld := h.held r hr l hl
  change (if l ∈ locks then some p else x.holder l) = some q
  split
  · next hmem =>
    rcases hgrants l hmem with hnone | hown
    · rw [hheld] at hnone
      cases hnone
    · rw [hheld] at hown
      exact absurd (Option.some.inj hown) hne
  · exact hheld

theorem Growing.ran {locks : List L} {seen added : List ρ} (h : Growing rows keys Q x)
    (hgrants : x.Grants p locks)
    (hsession : Grows rows keys Q (x.ran p locks session) p session seen added) :
    Growing rows keys Q (x.ran p locks session) where
  unique := h.unique
  sessions := by
    intro q session' hq
    change Function.update x.sessions p (some session) q = some session' at hq
    by_cases hne : q = p
    · subst hne
      rw [Function.update_self] at hq
      obtain rfl := Option.some.inj hq
      exact ⟨seen, added, hsession⟩
    · rw [Function.update_of_ne hne] at hq
      obtain ⟨seen', added', hgrows⟩ := h.sessions q session' hq
      exact ⟨seen', added', hgrows.ran hgrants hne⟩

omit [DecidableEq L] in
theorem Growing.ended {s : σ} {new : List ρ} (h : Growing rows keys Q x)
    (hrows : rows s = rows x.committed ++ new)
    (hheld : ∀ r ∈ new, ∀ l ∈ keys r, x.holder l = some p)
    (hfresh : ∀ r ∈ new, ∀ r' ∈ rows x.committed, ¬Clash keys r' r)
    (hapart : new.Pairwise fun r r' => ¬Clash keys r r') :
    Growing rows keys Q (({ x with committed := s } : Cluster P κ σ L ε α).ended p) where
  unique := by
    change (rows s).Pairwise _
    rw [hrows, List.pairwise_append]
    exact ⟨h.unique, hapart, fun r' hr' r hr => hfresh r hr r' hr'⟩
  sessions := by
    intro q session hq
    change Function.update x.sessions p none q = some session at hq
    have hne : q ≠ p := by
      rintro rfl
      rw [Function.update_self] at hq
      cases hq
    rw [Function.update_of_ne hne] at hq
    obtain ⟨seen, added, hgrows⟩ := h.sessions q session hq
    refine ⟨seen, added, hgrows.appends, hgrows.written, fun r hr => ?_, fun r hr l hl => ?_,
      fun r hr r' hr' => ?_, hgrows.apart⟩
    · change r ∈ rows s ++ added
      rw [hrows, List.append_assoc]
      rcases List.mem_append.1 (hgrows.seen hr) with hold | hadded
      · exact List.mem_append_left _ hold
      · exact List.mem_append_right _ (List.mem_append_right _ hadded)
    · change (if x.holder l = some p then none else x.holder l) = some q
      rw [hgrows.held r hr l hl, if_neg fun heq => hne (Option.some.inj heq)]
    · change r' ∈ rows s at hr'
      rw [hrows] at hr'
      rcases List.mem_append.1 hr' with hold | hnew
      · exact hgrows.fresh r hr r' hold
      · -- both transactions would hold the lock of the key
        rintro ⟨l, hl', hl⟩
        have hheld' := hheld r' hnew l hl'
        rw [hgrows.held r hr l hl] at hheld'
        exact hne (Option.some.inj hheld')

omit [DecidableEq L] in
theorem Growing.gone (h : Growing rows keys Q x) : Growing rows keys Q (x.ended p) := by
  have hnone : rows x.committed = rows x.committed ++ [] := (List.append_nil _).symm
  exact h.ended hnone (by simp) (by simp) .nil

variable (rows Q) in
/-- What a step does to the table: the call that it ends has appended what is new, if it returns. -/
def Grew (x x' : Cluster P κ σ L ε α) : Option (Ended κ ε α) → Prop
  | some ⟨call, .ok a⟩ => ∃ seen added, Q call a seen added ∧ seen ⊆ rows x'.committed ∧
      rows x'.committed = rows x.committed ++ added
  | _ => x'.committed = x.committed

theorem Growing.advance (h : Growing rows keys Q x) (hsession : x.sessions p = some session) :
    Growing rows keys Q (x.advance p session).2 ∧
      Grew rows Q x (x.advance p session).2 (x.advance p session).1 := by
  obtain ⟨seen, added, hgrows⟩ := h.sessions p session hsession
  obtain ⟨call, program, written⟩ := session
  have happends := hgrows.appends
  have hwritten := hgrows.written
  unfold Cluster.advance
  cases program with
  | finish outcome =>
    cases outcome with
    | error e => exact ⟨h.gone, rfl⟩
    | ok a =>
      have hrows : rows (replay written x.committed) = rows x.committed ++ added := hwritten _
      refine ⟨h.ended hrows hgrows.held hgrows.fresh hgrows.apart,
        seen, added, happends, ?_, hrows⟩
      change seen ⊆ rows (replay written x.committed)
      rw [hrows]
      exact hgrows.seen
  | statement locks write next =>
    simp only
    split
    · next hgrants =>
      refine ⟨?_, rfl⟩
      generalize hv : x.view ⟨call, .statement locks write next, written⟩ = v at hgrants ⊢
      have hrows : rows v = rows x.committed ++ added := by
        rw [← hv]
        exact hwritten _
      obtain ⟨new, hwrite, hnew, hnext⟩ := happends v (by rw [hrows]; exact hgrows.seen)
      refine h.ran hgrants ⟨hnext, fun s => ?_, ?_, ?_, ?_, ?_⟩
      · rw [replay_append, hwrite, hwritten, List.append_assoc]
      · change rows v ++ new.toList ⊆ rows x.committed ++ (added ++ new.toList)
        rw [hrows, List.append_assoc]
        exact List.Subset.refl _
      · intro r hr l hl
        change (if l ∈ locks v then some p else x.holder l) = some p
        rcases List.mem_append.1 hr with hold | hr
        · split
          · rfl
          · exact hgrows.held r hold l hl
        · exact if_pos ((hnew r (Option.mem_toList.1 hr)).1 hl)
      · intro r hr r' hr'
        rcases List.mem_append.1 hr with hold | hr
        · exact hgrows.fresh r hold r' hr'
        · exact (hnew r (Option.mem_toList.1 hr)).2 r' (hrows ▸ List.mem_append_left _ hr')
      · rw [List.pairwise_append]
        refine ⟨hgrows.apart, by cases new <;> simp, fun r' hr' r hr => ?_⟩
        exact (hnew r (Option.mem_toList.1 hr)).2 r' (hrows ▸ List.mem_append_right _ hr')
    · exact ⟨h, rfl⟩

variable (s₀) in
theorem Growing.next (h : Growing rows keys Q x)
    (hprogram : ∀ call, (program call).Appends rows keys (Q call) [] []) (move : Move P κ ε) :
    Growing rows keys Q ((readCommitted program s₀).next x move) ∧
      Grew rows Q x ((readCommitted program s₀).next x move)
        ((readCommitted program s₀).answer x move) := by
  unfold Machine.next Machine.answer readCommitted
  cases move with
  | start p call =>
    simp only
    split
    · have hstart : Grows rows keys Q (x.ran p [] ⟨call, program call, []⟩) p
          ⟨call, program call, []⟩ [] [] :=
        ⟨hprogram call, fun s => by simp [replay], by simp, by simp, by simp, .nil⟩
      exact ⟨h.ran (fun _ hmem => by cases hmem) hstart, rfl⟩
    · exact ⟨h, rfl⟩
  | step p =>
    simp only
    split
    · exact ⟨h, rfl⟩
    · next session hsession => exact h.advance hsession
  | abort p e =>
    simp only
    split
    · exact ⟨h, rfl⟩
    · exact ⟨h.gone, rfl⟩

end Growing

section Kept

variable [DecidableEq P] [DecidableEq L] {program : κ → Program σ L ε α} {f : σ → β}
  {kept : κ → Prop} {x : Cluster P κ σ L ε α} {p : P} {session : Session κ σ L ε α} {s₀ : σ}

variable (f kept) in
/-- The transactions of these calls leave what `f` reads as it was. -/
def Keeping (x : Cluster P κ σ L ε α) : Prop :=
  ∀ p session, x.sessions p = some session → kept session.call →
    session.program.Keeps f ∧ ∀ s, f (replay session.written s) = f s

omit [DecidableEq L] in
theorem Keeping.ended {s : σ} (h : Keeping f kept x) :
    Keeping f kept (({ x with committed := s } : Cluster P κ σ L ε α).ended p) := by
  intro q session hq
  change Function.update x.sessions p none q = some session at hq
  by_cases hne : q = p
  · rw [hne, Function.update_self] at hq
    cases hq
  · rw [Function.update_of_ne hne] at hq
    exact h q session hq

theorem Keeping.ran {locks : List L} (h : Keeping f kept x)
    (hsession : kept session.call →
      session.program.Keeps f ∧ ∀ s, f (replay session.written s) = f s) :
    Keeping f kept (x.ran p locks session) := by
  intro q session' hq
  change Function.update x.sessions p (some session) q = some session' at hq
  by_cases hne : q = p
  · rw [hne, Function.update_self] at hq
    obtain rfl := Option.some.inj hq
    exact hsession
  · rw [Function.update_of_ne hne] at hq
    exact h q session' hq

variable (s₀) in
theorem Keeping.next (h : Keeping f kept x) (hprogram : ∀ call, kept call → (program call).Keeps f)
    (move : Move P κ ε) :
    Keeping f kept ((readCommitted program s₀).next x move) ∧
      ∀ ended, (readCommitted program s₀).answer x move = some ended → kept ended.call →
        f ((readCommitted program s₀).next x move).committed = f x.committed := by
  unfold Machine.next Machine.answer readCommitted
  cases move with
  | start p call =>
    simp only
    split
    · exact ⟨h.ran fun hkept => ⟨hprogram call hkept, fun _ => rfl⟩, by simp⟩
    · exact ⟨h, by simp⟩
  | abort p e =>
    simp only
    split
    · exact ⟨h, by simp⟩
    · refine ⟨h.ended, ?_⟩
      intro ended _ _
      rfl
  | step p =>
    simp only
    split
    · exact ⟨h, by simp⟩
    · next session hsession =>
      have hkeeps := h p session hsession
      obtain ⟨call, program, written⟩ := session
      unfold Cluster.advance
      cases program with
      | finish outcome =>
        cases outcome with
        | error e =>
          refine ⟨h.ended, ?_⟩
          intro ended _ _
          rfl
        | ok a =>
          refine ⟨h.ended, ?_⟩
          rintro ended ⟨⟩ hkept
          exact (hkeeps hkept).2 _
      | statement locks write next =>
        simp only
        split
        · refine ⟨h.ran fun hkept => ?_, by simp⟩
          obtain ⟨hprogram, hwritten⟩ := hkeeps hkept
          refine ⟨(hprogram _).2, fun s => ?_⟩
          rw [replay_append, (hprogram _).1, hwritten]
        · exact ⟨h, by simp⟩

theorem keeping_event (hprogram : ∀ call, kept call → (program call).Keeps f)
    {moves : List (Move P κ ε)}
    {e : Event (Cluster P κ σ L ε α) (Move P κ ε) (Option (Ended κ ε α))}
    (he : e ∈ (readCommitted program s₀).events moves) {ended : Ended κ ε α}
    (houtput : e.output = some ended) (hkept : kept ended.call) :
    f e.post.committed = f e.pre.committed := by
  obtain ⟨x, move, hreachable, -, rfl⟩ := (readCommitted program s₀).mem_events he
  have hkeeping := hreachable.induction (I := Keeping f kept) (by simp [Keeping, readCommitted])
    fun x move hx => (Keeping.next s₀ hx hprogram move).1
  exact (hkeeping.next s₀ hprogram move).2 ended houtput hkept

end Kept

/-! ## A call that writes nothing -/

section Calm

variable [DecidableEq P] [DecidableEq L] {program : κ → Program σ L ε α} {V : σ → Prop}
  {A : L → Prop} {Q : Except ε α → Prop} {n : Nat} {x : Cluster P κ σ L ε α} {p : P}
  {call : κ} {s₀ : σ}

variable (V A Q call) in
/-- The transaction of the process, when it has one, is that call and has written nothing. -/
def Calmly (x : Cluster P κ σ L ε α) (p : P) : Prop :=
  ∀ session, x.sessions p = some session → session.call = call ∧
    (∃ n, session.program.Calm V A Q n) ∧ ∀ s, replay session.written s = s

/-- The process only runs its next statement. -/
def Move.Leaves (p : P) : Move P κ ε → Prop
  | .start q _ => q ≠ p
  | .step _ => True
  | .abort q _ => q ≠ p

variable (Q call) in
/-- A step of the process ends its call as `Q` says and without effect, or does not end it. -/
def EndsCalmly (p : P) (e : Event (Cluster P κ σ L ε α) (Move P κ ε) (Option (Ended κ ε α))) : Prop :=
  e.input = .step p → ∀ ended, e.output = some ended →
    ended.call = call ∧ Q ended.outcome ∧ e.post.committed = e.pre.committed

omit [DecidableEq L] in
theorem Calmly.ended {q : P} {s : σ} (h : Calmly V A Q call x p) :
    Calmly V A Q call (({ x with committed := s } : Cluster P κ σ L ε α).ended q) p := by
  intro session hsession
  change Function.update x.sessions q none p = some session at hsession
  by_cases hne : p = q
  · rw [hne, Function.update_self] at hsession
    cases hsession
  · rw [Function.update_of_ne hne] at hsession
    exact h session hsession

theorem Calmly.ran_of_ne {q : P} {locks : List L} {session : Session κ σ L ε α}
    (h : Calmly V A Q call x p) (hne : p ≠ q) : Calmly V A Q call (x.ran q locks session) p := by
  intro session' hsession
  change Function.update x.sessions q (some session) p = some session' at hsession
  rw [Function.update_of_ne hne] at hsession
  exact h session' hsession

theorem Calmly.advance {q : P} {session : Session κ σ L ε α} (h : Calmly V A Q call x p)
    (hV : V x.committed) (hsession : x.sessions q = some session) :
    Calmly V A Q call (x.advance q session).2 p ∧ (q = p → ∀ ended,
      (x.advance q session).1 = some ended → ended.call = call ∧ Q ended.outcome ∧
        (x.advance q session).2.committed = x.committed) := by
  obtain ⟨call', program, written⟩ := session
  unfold Cluster.advance
  cases program with
  | finish outcome =>
    cases outcome with
    | error e =>
      refine ⟨h.ended, ?_⟩
      rintro rfl ended ⟨⟩
      obtain ⟨hcall, ⟨n, hcalm⟩, -⟩ := h _ hsession
      exact ⟨hcall, by cases n <;> exact hcalm, rfl⟩
    | ok a =>
      refine ⟨h.ended, ?_⟩
      rintro rfl ended ⟨⟩
      obtain ⟨hcall, ⟨n, hcalm⟩, hwritten⟩ := h _ hsession
      exact ⟨hcall, by cases n <;> exact hcalm, hwritten _⟩
  | statement locks write next =>
    simp only
    split
    · refine ⟨?_, by simp⟩
      by_cases hne : p = q
      · subst hne
        obtain ⟨hcall, ⟨n, hcalm⟩, hwritten⟩ := h _ hsession
        have hview : x.view ⟨call', .statement locks write next, written⟩ = x.committed := hwritten _
        cases n with
        | zero => exact hcalm.elim
        | succ n =>
          rw [hview]
          obtain ⟨hwrite, -, hnext⟩ := hcalm x.committed hV
          intro session' hsession'
          change Function.update x.sessions p _ p = some session' at hsession'
          rw [Function.update_self] at hsession'
          obtain rfl := Option.some.inj hsession'
          exact ⟨hcall, ⟨n, hnext⟩, fun s => by rw [replay_append, hwrite, hwritten]⟩
      · exact h.ran_of_ne hne
    · exact ⟨h, by simp⟩

variable (program s₀) in
theorem Calmly.next (h : Calmly V A Q call x p) (hV : V x.committed) {move : Move P κ ε}
    (hmove : move.Leaves p) :
    Calmly V A Q call ((readCommitted program s₀).next x move) p ∧
      EndsCalmly Q call p ((readCommitted program s₀).event x move) := by
  unfold EndsCalmly Machine.event Machine.next Machine.answer readCommitted
  cases move with
  | start q call' =>
    simp only
    split
    · exact ⟨h.ran_of_ne (Ne.symm hmove), by simp⟩
    · exact ⟨h, by simp⟩
  | abort q e =>
    simp only
    split
    · exact ⟨h, by simp⟩
    · exact ⟨h.ended, by simp⟩
  | step q =>
    simp only
    split
    · exact ⟨h, by simp⟩
    · next session hsession =>
      obtain ⟨hcalmly, hends⟩ := h.advance hV hsession
      refine ⟨hcalmly, ?_⟩
      rintro ⟨⟩
      exact hends rfl

/-- While the committed rows meet `V`, whatever the other processes do, the call ends as `Q` says and
without effect when it ends. -/
theorem calm_run (h : Calmly V A Q call x p) {moves : List (Move P κ ε)}
    (hmoves : (readCommitted program s₀).AllSteps
      (fun x move => V x.committed ∧ move.Leaves p) x moves)
    {e : Event (Cluster P κ σ L ε α) (Move P κ ε) (Option (Ended κ ε α))}
    (he : e ∈ (readCommitted program s₀).eventsFrom x moves) : EndsCalmly Q call p e := by
  induction moves generalizing x with
  | nil => cases he
  | cons move moves ih =>
    obtain ⟨⟨hV, hmove⟩, hrest⟩ := hmoves
    obtain ⟨hnext, hevent⟩ := h.next program s₀ hV hmove
    rcases List.mem_cons.1 he with rfl | he
    · exact hevent
    · exact ih hnext hrest he

variable (program s₀) in
theorem calm_alone {session : Session κ σ L ε α} (hsession : x.sessions p = some session)
    (hcalm : session.program.Calm V A Q n) (hwritten : ∀ s, replay session.written s = s)
    (hV : V x.committed) (hfree : ∀ l, A l → x.holder l = none ∨ x.holder l = some p) :
    ∃ m ≤ n, ∃ outcome, Q outcome ∧ (readCommitted program s₀).answer
      ((readCommitted program s₀).runFrom x (List.replicate m (.step p))) (.step p) =
        some ⟨session.call, outcome⟩ := by
  obtain ⟨call', program', written⟩ := session
  induction n generalizing x program' written with
  | zero =>
    cases program' with
    | statement locks write next => exact hcalm.elim
    | finish outcome => exact ⟨0, Nat.le_refl 0, outcome, hcalm, answer_finish program s₀ hsession⟩
  | succ n ih =>
    cases program' with
    | finish outcome => exact ⟨0, Nat.zero_le _, outcome, hcalm, answer_finish program s₀ hsession⟩
    | statement locks write next =>
      obtain ⟨hwrite, hlocks, hnext⟩ := hcalm x.committed hV
      have hstep := step_statement program s₀ hsession (hwritten _) fun l hl => hfree l (hlocks l hl)
      have hfree' : ∀ l, A l → (if l ∈ locks x.committed then some p else x.holder l) = none ∨
          (if l ∈ locks x.committed then some p else x.holder l) = some p := by
        intro l hl
        split
        · exact Or.inr rfl
        · exact hfree l hl
      obtain ⟨m, hm, outcome, hQ, hanswer⟩ := ih
        (x := x.ran p (locks x.committed) ⟨call', next x.committed, written ++ [write x.committed]⟩)
        hV hfree' _ _ (Function.update_self ..) hnext fun s => by rw [replay_append, hwrite, hwritten]
      refine ⟨m + 1, Nat.succ_le_succ hm, outcome, hQ, ?_⟩
      rw [List.replicate_succ, Machine.runFrom_cons, Machine.next, hstep]
      exact hanswer

variable (program s₀) in
theorem next_start (hidle : x.sessions p = none) :
    (readCommitted program s₀).next x (.start p call) = x.ran p [] ⟨call, program call, []⟩ := by
  simp only [Machine.next, readCommitted, hidle]

theorem calm_call_run (hidle : x.sessions p = none) (hcalm : (program call).Calm V A Q n)
    {later : List (Move P κ ε)}
    (hlater : (readCommitted program s₀).AllSteps (fun x move => V x.committed ∧ move.Leaves p)
      ((readCommitted program s₀).next x (.start p call)) later)
    {e : Event (Cluster P κ σ L ε α) (Move P κ ε) (Option (Ended κ ε α))}
    (he : e ∈ (readCommitted program s₀).eventsFrom
      ((readCommitted program s₀).next x (.start p call)) later) : EndsCalmly Q call p e := by
  rw [next_start program s₀ hidle] at hlater he
  have hcalmly : Calmly V A Q call (x.ran p [] ⟨call, program call, []⟩) p := by
    intro session hsession
    change Function.update x.sessions p _ p = some session at hsession
    rw [Function.update_self] at hsession
    obtain rfl := Option.some.inj hsession
    exact ⟨rfl, ⟨n, hcalm⟩, fun _ => rfl⟩
  exact calm_run hcalmly hlater he

variable (s₀) in
theorem calm_call_alone (hidle : x.sessions p = none) (hcalm : (program call).Calm V A Q n)
    (hV : V x.committed) (hfree : ∀ l, A l → x.holder l = none) :
    ∃ m ≤ n, ∃ outcome, Q outcome ∧ (readCommitted program s₀).answer
      ((readCommitted program s₀).runFrom ((readCommitted program s₀).next x (.start p call))
        (List.replicate m (.step p))) (.step p) = some ⟨call, outcome⟩ := by
  rw [next_start program s₀ hidle]
  have hsession : (x.ran p [] ⟨call, program call, []⟩).sessions p =
      some ⟨call, program call, []⟩ := Function.update_self ..
  exact calm_alone program s₀ hsession hcalm (fun _ => rfl) hV fun l hl => Or.inl (hfree l hl)

end Calm

end Lib
