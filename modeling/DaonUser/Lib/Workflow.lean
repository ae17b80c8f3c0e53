import DaonUser.Lib.Turns

/-!
# Processes of several transactions

A `Workflow` is what a process does: transactions on a database, one after the other, and operations on what
is outside of it. In `workflows` every operation may end in any answer, every transaction may fail, the
answer of a commit may be lost, and a process may crash between any two of its steps.

`Workflow.Guarded` is the logic of one process: what it holds allows its operations, and is changed by them
and by its transactions. An invariant that such changes keep holds in every state of every run
(`guarded_reachable`).
-/

namespace Lib

/-- What a process does: it has ended, or has a transaction or an operation to do next. -/
inductive Workflow (κ ε α Op : Type) (Answer : Op → Type) (β : Type) where
  | finish (outcome : Except ε β)
  | transact (call : κ) (next : Except ε α → Workflow κ ε α Op Answer β)
  | perform (op : Op) (next : Except ε (Answer op) → Workflow κ ε α Op Answer β)

namespace Workflow

variable {κ ε α Op β δ : Type} {Answer : Op → Type}

/-- `w` and then `f` on how it ended: `try … except …`. -/
def handle : Workflow κ ε α Op Answer β → (Except ε β → Workflow κ ε α Op Answer δ) →
    Workflow κ ε α Op Answer δ
  | finish outcome, f => f outcome
  | transact call next, f => transact call fun a => (next a).handle f
  | perform op next, f => perform op fun a => (next a).handle f

/-- `f` on what has been returned. -/
def onReturn (f : β → Workflow κ ε α Op Answer δ) : Except ε β → Workflow κ ε α Op Answer δ
  | .ok b => f b
  | .error e => finish (.error e)

instance : Monad (Workflow κ ε α Op Answer) where
  pure b := finish (.ok b)
  bind w f := w.handle (onReturn f)

def call (c : κ) : Workflow κ ε α Op Answer α := transact c finish

def ask (op : Op) : Workflow κ ε α Op Answer (Answer op) := perform op finish

/-- Raise `e` unless `c` holds. -/
def ensure (c : Prop) [Decidable c] (e : ε) : Workflow κ ε α Op Answer Unit :=
  finish (if c then .ok () else .error e)

def ofExcept (outcome : Except ε β) : Workflow κ ε α Op Answer β := finish outcome

/-- Raise `e`. -/
def raise (e : ε) : Workflow κ ε α Op Answer β := finish (.error e)

end Workflow

/-! ## Runs -/

/-- The database, what the processes have left to do, and the operations so far. -/
structure World (P κ σ L ε α Op : Type) (Answer : Op → Type) (β : Type) where
  cluster : Cluster P κ σ L ε α
  flows : P → Option (Workflow κ ε α Op Answer β)
  performed : List Op

/-- What happens next: a process starts, begins its transaction, runs a statement of it (when that ends
it, the answer may be lost), loses its transaction, performs an operation, ends or crashes. -/
inductive Act (P J ε Op : Type) (Answer : Op → Type) where
  | start (p : P) (job : J)
  | begin (p : P)
  | step (p : P) (lost : Option ε)
  | abort (p : P) (e : ε)
  | perform (p : P) (answer : ∀ op, Except ε (Answer op))
  | stop (p : P)
  | crash (p : P) (e : ε)

section Runs

variable {P J κ σ L ε α Op β : Type} {Answer : Op → Type} [DecidableEq P] [DecidableEq L]

def World.goes (x : World P κ σ L ε α Op Answer β) (p : P)
    (flow : Option (Workflow κ ε α Op Answer β)) : World P κ σ L ε α Op Answer β :=
  { x with flows := Function.update x.flows p flow }

def heard (lost : Option ε) (outcome : Except ε α) : Except ε α :=
  match lost with
  | none => outcome
  | some e => .error e

variable (program : κ → Program σ L ε α) (flow : J → Workflow κ ε α Op Answer β)

def workflows (rows : σ) :
    Machine (World P κ σ L ε α Op Answer β) (Act P J ε Op Answer) (Option (P × Except ε β)) where
  init := ⟨(readCommitted program rows).init, fun _ => none, []⟩
  step x
    | .start p job => match x.flows p with
      | none => (none, x.goes p (some (flow job)))
      | some _ => (none, x)
    | .begin p => match x.flows p with
      | some (.transact call _) =>
        (none, { x with cluster := (readCommitted program rows).next x.cluster (.start p call) })
      | _ => (none, x)
    | .step p lost => match x.flows p with
      | some (.transact _ next) =>
        let cluster := (readCommitted program rows).next x.cluster (.step p)
        match (readCommitted program rows).answer x.cluster (.step p) with
        | none => (none, { x with cluster })
        | some ended =>
          (none, { x with cluster }.goes p (some (next (heard lost ended.outcome))))
      | _ => (none, x)
    | .abort p e => match x.flows p with
      | some (.transact _ next) =>
        (none, { x with cluster := (readCommitted program rows).next x.cluster (.abort p e) }.goes p
          (some (next (.error e))))
      | _ => (none, x)
    | .perform p answer => match x.flows p with
      | some (.perform op next) =>
        (none, { x with performed := x.performed ++ [op] }.goes p (some (next (answer op))))
      | _ => (none, x)
    | .stop p => match x.flows p with
      | some (.finish outcome) => (some (p, outcome), x.goes p none)
      | _ => (none, x)
    | .crash p e =>
      (none, { x with cluster := (readCommitted program rows).next x.cluster (.abort p e) }.goes p none)

end Runs

section Sessions

variable {P κ σ L ε α : Type} [DecidableEq P] [DecidableEq L] {program : κ → Program σ L ε α}
  {rows : σ} {x : Cluster P κ σ L ε α} {p q : P}

def Move.process : Move P κ ε → P
  | .start p _ => p
  | .step p => p
  | .abort p _ => p

theorem sessions_next_of_ne {move : Move P κ ε} (h : q ≠ move.process) :
    ((readCommitted program rows).next x move).sessions q = x.sessions q := by
  unfold Machine.next readCommitted
  cases move with
  | start p call =>
    simp only
    split
    · exact Function.update_of_ne h _ _
    · rfl
  | abort p e =>
    simp only
    split
    · rfl
    · exact Function.update_of_ne h _ _
  | step p =>
    simp only
    split
    · rfl
    · unfold Cluster.advance
      split
      · exact Function.update_of_ne h _ _
      · exact Function.update_of_ne h _ _
      · simp only
        split
        · exact Function.update_of_ne h _ _
        · rfl

theorem sessions_start {call : κ} {session : Session κ σ L ε α}
    (h : ((readCommitted program rows).next x (.start p call)).sessions p = some session) :
    x.sessions p = some session ∨ session.call = call := by
  unfold Machine.next readCommitted at h
  simp only at h
  split at h
  · change Function.update x.sessions p _ p = some session at h
    rw [Function.update_self] at h
    exact Or.inr (by rw [← Option.some.inj h])
  · exact Or.inl h

theorem sessions_abort {e : ε} :
    ((readCommitted program rows).next x (.abort p e)).sessions p = none := by
  unfold Machine.next readCommitted
  simp only
  split
  · assumption
  · exact Function.update_self _ _ _

theorem committed_abort {B : Type} (f : σ → B) {e : ε} :
    f ((readCommitted program rows).next x (.abort p e)).committed = f x.committed := by
  unfold Machine.next readCommitted
  simp only
  split
  · rfl
  · rfl

theorem sessions_step_of_none {session : Session κ σ L ε α}
    (hanswer : (readCommitted program rows).answer x (.step p) = none)
    (h : ((readCommitted program rows).next x (.step p)).sessions p = some session) :
    ∃ session', x.sessions p = some session' ∧ session.call = session'.call := by
  unfold Machine.next readCommitted at h
  unfold Machine.answer readCommitted at hanswer
  simp only at h hanswer
  split at h
  · exact ⟨session, h, rfl⟩
  · next session' hsession =>
    refine ⟨session', hsession, ?_⟩
    simp only [hsession] at hanswer
    obtain ⟨call, left, written⟩ := session'
    unfold Cluster.advance at h hanswer
    cases left with
    | finish outcome =>
      cases outcome with
      | error e => cases hanswer
      | ok a => cases hanswer
    | statement locks write next =>
      simp only at h
      split at h
      · change Function.update x.sessions p _ p = some session at h
        rw [Function.update_self] at h
        rw [← Option.some.inj h]
      · rw [Option.some.inj (hsession.symm.trans h)]

theorem sessions_step_of_some {ended : Ended κ ε α}
    (hanswer : (readCommitted program rows).answer x (.step p) = some ended) :
    (∃ session, x.sessions p = some session ∧ session.call = ended.call) ∧
      ((readCommitted program rows).next x (.step p)).sessions p = none := by
  unfold Machine.next readCommitted
  unfold Machine.answer readCommitted at hanswer
  simp only at hanswer ⊢
  split at hanswer
  · cases hanswer
  · next session hsession =>
    obtain ⟨call, left, written⟩ := session
    unfold Cluster.advance at hanswer ⊢
    cases left with
    | finish outcome =>
      cases outcome with
      | error e =>
        refine ⟨⟨_, hsession, ?_⟩, Function.update_self _ _ _⟩
        rw [← Option.some.inj hanswer]
      | ok a =>
        refine ⟨⟨_, hsession, ?_⟩, Function.update_self _ _ _⟩
        rw [← Option.some.inj hanswer]
    | statement locks write next =>
      simp only at hanswer
      split at hanswer
      · cases hanswer
      · cases hanswer

end Sessions

/-! ## What a process holds -/

def Hold.Makes {B : Type} : Hold B → B → B → Prop
  | .free, b, b' => b' = b
  | .held before now, b, b' => before = b ∧ now = b'

/-- How what a process holds allows operations and is changed by them and by its transactions. -/
structure Discipline (κ α Op γ B : Type) where
  made : κ → α → Hold B → Prop
  does : γ → Op → γ → Prop
  gains : γ → Hold B → γ → Prop

section Logic

variable {P J κ σ L ε α Op β δ γ B : Type} {Answer : Op → Type} {d : Discipline κ α Op γ B} {g : γ}

namespace Workflow

variable (d) in
/-- Every way that a process goes on keeps to what it holds, and ends as `R` says. -/
def Guarded (R : Except ε β → γ → Prop) : Workflow κ ε α Op Answer β → γ → Prop
  | finish outcome, g => R outcome g
  | transact call next, g => (∀ e, (next (.error e)).Guarded R g) ∧
      ∀ a hold, d.made call a hold → ∃ g', d.gains g hold g' ∧ (next (.ok a)).Guarded R g'
  | perform op next, g => ∃ g', d.does g op g' ∧ ∀ answer, (next answer).Guarded R g'

variable {R : Except ε β → γ → Prop}

@[simp] theorem guarded_finish {outcome : Except ε β} :
    (finish outcome : Workflow κ ε α Op Answer β).Guarded d R g ↔ R outcome g := Iff.rfl

@[simp] theorem guarded_ensure {c : Prop} [Decidable c] {e : ε} {R : Except ε Unit → γ → Prop} :
    (ensure c e : Workflow κ ε α Op Answer Unit).Guarded d R g ↔
      (c → R (.ok ()) g) ∧ (¬c → R (.error e) g) := by
  by_cases h : c <;> simp [ensure, h]

@[simp] theorem guarded_call {c : κ} {R : Except ε α → γ → Prop} :
    (call c : Workflow κ ε α Op Answer α).Guarded d R g ↔ (∀ e, R (.error e) g) ∧
      ∀ a hold, d.made c a hold → ∃ g', d.gains g hold g' ∧ R (.ok a) g' := Iff.rfl

theorem guarded_handle {R : Except ε δ → γ → Prop} {w : Workflow κ ε α Op Answer β}
    {f : Except ε β → Workflow κ ε α Op Answer δ} :
    (w.handle f).Guarded d R g ↔ w.Guarded d (fun outcome g => (f outcome).Guarded d R g) g := by
  induction w generalizing g with
  | finish outcome => exact Iff.rfl
  | transact call next ih => simp only [handle, Guarded, ih]
  | perform op next ih => simp only [handle, Guarded, ih]

theorem guarded_bind {R : Except ε δ → γ → Prop} {w : Workflow κ ε α Op Answer β}
    {f : β → Workflow κ ε α Op Answer δ} :
    (w >>= f).Guarded d R g ↔
      w.Guarded d (fun outcome g => (onReturn f outcome).Guarded d R g) g :=
  guarded_handle

theorem Guarded.mono {R' : Except ε β → γ → Prop} {w : Workflow κ ε α Op Answer β}
    (h : w.Guarded d R g) (hR : ∀ outcome g, R outcome g → R' outcome g) : w.Guarded d R' g := by
  induction w generalizing g with
  | finish outcome => exact hR outcome g h
  | transact call next ih =>
    refine ⟨fun e => ih _ (h.1 e), fun a hold hmade => ?_⟩
    obtain ⟨g', hgains, hnext⟩ := h.2 a hold hmade
    exact ⟨g', hgains, ih _ hnext⟩
  | perform op next ih =>
    obtain ⟨g', hdoes, hnext⟩ := h
    exact ⟨g', hdoes, fun answer => ih _ (hnext answer)⟩

end Workflow

/-! ## Runs of guarded processes -/

variable [DecidableEq P]

/-- An invariant of the observation, the operations so far and what the processes hold. -/
structure Keeps (d : Discipline κ α Op γ B) (start : γ)
    (I : B → List Op → (P → Option γ) → Prop) : Prop where
  start : ∀ {b ops held} {p : P}, I b ops held → held p = none →
    I b ops (Function.update held p (some start))
  leave : ∀ {b ops held} {p : P}, I b ops held → I b ops (Function.update held p none)
  does : ∀ {b ops held} {p : P} {g op g'}, I b ops held → held p = some g → d.does g op g' →
    I b (ops ++ [op]) (Function.update held p (some g'))
  commit : ∀ {b b' ops held call a hold}, I b ops held → d.made call a hold → hold.Makes b b' →
    I b' ops held
  gains : ∀ {b b' ops held} {p : P} {g call a hold g'}, I b ops held → held p = some g →
    d.made call a hold → hold.Makes b b' → d.gains g hold g' →
    I b' ops (Function.update held p (some g'))

variable [DecidableEq L] {program : κ → Program σ L ε α} {flow : J → Workflow κ ε α Op Answer β}
  {l : L} {f : σ → B} {R : Except ε β → γ → Prop} {start : γ}
  {I : B → List Op → (P → Option γ) → Prop} {rows : σ}

variable (d R I f program rows) in
/-- What holds of every state: the transaction of a process is the one it asks for, and what the
processes hold guards what they have left to do. -/
structure GuardedWorld (x : World P κ σ L ε α Op Answer β) : Prop where
  reachable : (readCommitted program rows : Machine (Cluster P κ σ L ε α) _ _).Reachable x.cluster
  matched : ∀ p session, x.cluster.sessions p = some session →
    ∃ next, x.flows p = some (.transact session.call next)
  guarded : ∃ held, I (f x.cluster.committed) x.performed held ∧
    ∀ p w, x.flows p = some w → ∃ g, held p = some g ∧ w.Guarded d R g

section Update

variable {W : Type} {S : W → γ → Prop} {flows : P → Option W} {held : P → Option γ} {p : P}

omit [DecidableEq L] in
theorem holds_update (h : ∀ q w, flows q = some w → ∃ g, held q = some g ∧ S w g) {w : W} {g : γ}
    (hw : S w g) : ∀ q w', Function.update flows p (some w) q = some w' →
      ∃ g', Function.update held p (some g) q = some g' ∧ S w' g' := by
  intro q w' hq
  by_cases hne : q = p
  · subst hne
    rw [Function.update_self] at hq ⊢
    exact ⟨g, rfl, Option.some.inj hq ▸ hw⟩
  · rw [Function.update_of_ne hne] at hq ⊢
    exact h q w' hq

omit [DecidableEq L] in
theorem holds_leave (h : ∀ q w, flows q = some w → ∃ g, held q = some g ∧ S w g) :
    ∀ q w, Function.update flows p none q = some w →
      ∃ g, Function.update held p none q = some g ∧ S w g := by
  intro q w hq
  by_cases hne : q = p
  · subst hne
    rw [Function.update_self] at hq
    cases hq
  · rw [Function.update_of_ne hne] at hq ⊢
    exact h q w hq

end Update

section Next

variable {x : World P κ σ L ε α Op Answer β} {p : P} {w : Workflow κ ε α Op Answer β}

theorem GuardedWorld.matched_goes {flow' : Option (Workflow κ ε α Op Answer β)}
    (h : GuardedWorld d program f R I rows x) (hp : x.cluster.sessions p = none) :
    ∀ q session, (x.goes p flow').cluster.sessions q = some session →
      ∃ next, (x.goes p flow').flows q = some (.transact session.call next) := by
  intro q session hsession
  have hne : q ≠ p := by
    rintro rfl
    rw [show (x.goes q flow').cluster.sessions q = none from hp] at hsession
    cases hsession
  obtain ⟨next, hnext⟩ := h.matched q session hsession
  exact ⟨next, (Function.update_of_ne hne _ _).trans hnext⟩

theorem GuardedWorld.idle (h : GuardedWorld d program f R I rows x)
    (hp : ∀ call next, x.flows p ≠ some (.transact call next)) : x.cluster.sessions p = none := by
  cases hsession : x.cluster.sessions p with
  | none => rfl
  | some session =>
    obtain ⟨next, hnext⟩ := h.matched p session hsession
    exact absurd hnext (hp _ _)

theorem matched_ended {c : Cluster P κ σ L ε α} (h : GuardedWorld d program f R I rows x)
    (hp : c.sessions p = none) (hother : ∀ q, q ≠ p → c.sessions q = x.cluster.sessions q)
    (flow' : Option (Workflow κ ε α Op Answer β)) : ∀ q session, c.sessions q = some session →
      ∃ next, Function.update x.flows p flow' q = some (.transact session.call next) := by
  intro q session hsession
  have hne : q ≠ p := by
    rintro rfl
    rw [hp] at hsession
    cases hsession
  obtain ⟨next, hnext⟩ := h.matched q session (hother q hne ▸ hsession)
  exact ⟨next, (Function.update_of_ne hne _ _).trans hnext⟩

omit [DecidableEq L] in
theorem holds_failed {held : P → Option γ} {call : κ}
    {next : Except ε α → Workflow κ ε α Op Answer β}
    (h : ∀ q w, x.flows q = some w → ∃ g, held q = some g ∧ w.Guarded d R g)
    (hp : x.flows p = some (.transact call next)) (e : ε) :
    ∀ q w, Function.update x.flows p (some (next (.error e))) q = some w →
      ∃ g, held q = some g ∧ w.Guarded d R g := by
  obtain ⟨g, hg, hfailed, -⟩ := h p _ hp
  have hupdate := holds_update h (p := p) (hfailed e)
  rwa [← hg, Function.update_eq_self] at hupdate

omit [DecidableEq P] [DecidableEq L] in
theorem exists_makes {call : κ} {a : α} {x x' : Cluster P κ σ L ε α}
    (h : Made f d.made x x' (some ⟨call, .ok a⟩)) :
    ∃ hold, d.made call a hold ∧ hold.Makes (f x.committed) (f x'.committed) := by
  rcases h with ⟨hmade, hsame⟩ | hmade
  · exact ⟨.free, hmade, hsame⟩
  · exact ⟨_, hmade, rfl, rfl⟩

theorem GuardedWorld.next
    (hprogram : ∀ call, (program call).Meets l f (fun _ => True) (d.made call) .free)
    (hflow : ∀ job, (flow job).Guarded d R start) (hkeeps : Keeps d start I)
    (h : GuardedWorld d program f R I rows x) (act : Act P J ε Op Answer) :
    GuardedWorld d program f R I rows ((workflows program flow rows).next x act) := by
  obtain ⟨held, hI, hguarded⟩ := h.guarded
  unfold Machine.next workflows
  cases act with
  | start p job =>
    cases hp : x.flows p with
    | some w => simpa only [hp] using h
    | none =>
      simp only [hp]
      have hstart := hkeeps.start (hkeeps.leave hI (p := p)) (Function.update_self p none held)
      rw [Function.update_idem] at hstart
      exact ⟨h.reachable, h.matched_goes (h.idle fun _ _ heq => by rw [hp] at heq; cases heq),
        _, hstart, holds_update hguarded (hflow job)⟩
  | begin p =>
    cases hp : x.flows p with
    | none => simpa only [hp] using h
    | some w =>
      cases w with
      | finish outcome => simpa only [hp] using h
      | perform op next => simpa only [hp] using h
      | transact call next =>
        simp only [hp]
        have hsame := made_next hprogram h.reachable (.start p call)
        have hanswer : (readCommitted program rows).answer x.cluster (.start p call) = none := by
          unfold Machine.answer readCommitted
          simp only
          split
          · rfl
          · rfl
        rw [hanswer] at hsame
        refine ⟨h.reachable.next _, fun q session hsession => ?_, held, ?_, hguarded⟩
        · by_cases hne : q = p
          · subst hne
            rcases sessions_start hsession with hold | hcall
            · exact h.matched q session hold
            · exact ⟨next, hcall ▸ hp⟩
          · rw [sessions_next_of_ne hne] at hsession
            exact h.matched q session hsession
        · simpa only [show f ((readCommitted program rows).next x.cluster (.start p call)).committed =
            f x.cluster.committed from hsame] using hI
  | step p lost =>
    cases hp : x.flows p with
    | none => simpa only [hp] using h
    | some w =>
      cases w with
      | finish outcome => simpa only [hp] using h
      | perform op next => simpa only [hp] using h
      | transact call next =>
        have hmade := made_next hprogram h.reachable (.step p)
        have hother : ∀ q, q ≠ p → ((readCommitted program rows).next x.cluster (.step p)).sessions q =
            x.cluster.sessions q := fun q hne => sessions_next_of_ne hne
        cases hanswer : (readCommitted program rows).answer x.cluster (.step p) with
        | none =>
          rw [hanswer] at hmade
          simp only [hp, hanswer]
          refine ⟨h.reachable.next _, fun q session hsession => ?_, held, ?_, hguarded⟩
          · by_cases hne : q = p
            · subst hne
              obtain ⟨session', hsession', hcall⟩ := sessions_step_of_none hanswer hsession
              rw [hcall]
              exact h.matched q session' hsession'
            · exact h.matched q session (hother q hne ▸ hsession)
          · simpa only [show f ((readCommitted program rows).next x.cluster (.step p)).committed =
              f x.cluster.committed from hmade] using hI
        | some ended =>
          rw [hanswer] at hmade
          obtain ⟨⟨session, hsession, hcall⟩, hnone⟩ := sessions_step_of_some hanswer
          obtain ⟨next', hnext'⟩ := h.matched p session hsession
          obtain ⟨call', outcome⟩ := ended
          obtain rfl : call = call' := by
            rw [hp] at hnext'
            cases hnext'
            exact hcall
          have hmatched := matched_ended h hnone hother
          simp only [hp, hanswer]
          cases outcome with
          | error e =>
            -- Nothing is committed, and the process hears of an error in any case.
            have hI' : I (f ((readCommitted program rows).next x.cluster (.step p)).committed)
                x.performed held := by
              rwa [show f ((readCommitted program rows).next x.cluster (.step p)).committed =
                f x.cluster.committed from hmade]
            cases lost with
            | none => exact ⟨h.reachable.next _, hmatched _, held, hI', holds_failed hguarded hp e⟩
            | some e' => exact ⟨h.reachable.next _, hmatched _, held, hI', holds_failed hguarded hp e'⟩
          | ok a =>
            obtain ⟨hold, hq, hmakes⟩ := exists_makes hmade
            cases lost with
            | some e =>
              exact ⟨h.reachable.next _, hmatched _, held, hkeeps.commit hI hq hmakes,
                holds_failed hguarded hp e⟩
            | none =>
              obtain ⟨g, hg, -, hreturns⟩ := hguarded p _ hp
              obtain ⟨g', hgains, hnext⟩ := hreturns a hold hq
              exact ⟨h.reachable.next _, hmatched _, _, hkeeps.gains hI hg hq hmakes hgains,
                holds_update hguarded hnext⟩
  | abort p e =>
    cases hp : x.flows p with
    | none => simpa only [hp] using h
    | some w =>
      cases w with
      | finish outcome => simpa only [hp] using h
      | perform op next => simpa only [hp] using h
      | transact call next =>
        have hother : ∀ q, q ≠ p → ((readCommitted program rows).next x.cluster (.abort p e)).sessions q =
            x.cluster.sessions q := fun q hne => sessions_next_of_ne hne
        have hmatched := matched_ended h sessions_abort hother
        simp only [hp]
        refine ⟨h.reachable.next _, hmatched _, held, ?_, holds_failed hguarded hp e⟩
        change I (f ((readCommitted program rows).next x.cluster (.abort p e)).committed) _ _
        rwa [committed_abort f]
  | perform p answer =>
    cases hp : x.flows p with
    | none => simpa only [hp] using h
    | some w =>
      cases w with
      | finish outcome => simpa only [hp] using h
      | transact call next => simpa only [hp] using h
      | perform op next =>
        simp only [hp]
        obtain ⟨g, hg, g', hdoes, hnext⟩ := hguarded p _ hp
        have hidle := h.idle (p := p) fun _ _ heq => by rw [hp] at heq; cases heq
        exact ⟨h.reachable, h.matched_goes hidle, _, hkeeps.does hI hg hdoes,
          holds_update hguarded (hnext (answer op))⟩
  | stop p =>
    cases hp : x.flows p with
    | none => simpa only [hp] using h
    | some w =>
      cases w with
      | transact call next => simpa only [hp] using h
      | perform op next => simpa only [hp] using h
      | finish outcome =>
        simp only [hp]
        have hidle := h.idle (p := p) fun _ _ heq => by rw [hp] at heq; cases heq
        exact ⟨h.reachable, h.matched_goes hidle, _, hkeeps.leave hI, holds_leave hguarded⟩
  | crash p e =>
    have hother : ∀ q, q ≠ p → ((readCommitted program rows).next x.cluster (.abort p e)).sessions q =
        x.cluster.sessions q := fun q hne => sessions_next_of_ne hne
    have hmatched := matched_ended h sessions_abort hother
    refine ⟨h.reachable.next _, hmatched _, _, ?_, holds_leave hguarded⟩
    change I (f ((readCommitted program rows).next x.cluster (.abort p e)).committed) _ _
    rw [committed_abort f]
    exact hkeeps.leave hI

theorem guarded_reachable
    (hprogram : ∀ call, (program call).Meets l f (fun _ => True) (d.made call) .free)
    (hflow : ∀ job, (flow job).Guarded d R start) (hkeeps : Keeps d start I)
    (hrows : I (f rows) [] fun _ => none)
    (hx : (workflows program flow rows : Machine (World P κ σ L ε α Op Answer β) _ _).Reachable x) :
    GuardedWorld d program f R I rows x :=
  hx.induction ⟨Machine.reachable_init _, by simp [workflows, readCommitted], _, hrows,
    by simp [workflows]⟩ fun _ act h => h.next hprogram hflow hkeeps act

theorem GuardedWorld.answer (h : GuardedWorld d program f R I rows x) {act : Act P J ε Op Answer}
    {outcome : Except ε β}
    (hanswer : (workflows program flow rows).answer x act = some (p, outcome)) :
    ∃ held g, I (f x.cluster.committed) x.performed held ∧ held p = some g ∧ R outcome g := by
  obtain ⟨held, hI, hguarded⟩ := h.guarded
  have hfinish : x.flows p = some (.finish outcome) := by
    unfold Machine.answer workflows at hanswer
    simp only at hanswer
    split at hanswer
    · split at hanswer
      · cases hanswer
      · cases hanswer
    · split at hanswer
      · cases hanswer
      · cases hanswer
    · split at hanswer
      · split at hanswer
        · cases hanswer
        · cases hanswer
      · cases hanswer
    · split at hanswer
      · cases hanswer
      · cases hanswer
    · split at hanswer
      · cases hanswer
      · cases hanswer
    · split at hanswer
      · next hfinish =>
        cases hanswer
        exact hfinish
      · cases hanswer
    · cases hanswer
  obtain ⟨g, hg, hends⟩ := hguarded p _ hfinish
  exact ⟨held, g, hI, hg, hends⟩

end Next

end Logic

end Lib
