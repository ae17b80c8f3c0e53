import DaonUser.Lib.Machine
import DaonUser.Lib.Program

/-!
# Transactions at READ COMMITTED

Processes run transactions on one database. A step runs the next statement of one process: it sees the rows
that are committed then, with what its own transaction has written, and waits while another process holds a
lock that it asks for. Locks are kept until the transaction ends, and any transaction may be aborted.

`Program.Meets l f pre` is the logic of an observation `f` of the rows that is written under the lock `l`
only: while the lock is free no statement writes what `f` reads, and from the statement that takes it on the
value of `f` is what the program made of the value found then (`Hold`). `serial_run`: the committed value of
`f` is what the calls that returned made of it one after the other.
-/

namespace Lib

variable {P κ σ L ε α β : Type}

/-! ## Runs -/

/-- A transaction that has not ended: the call it runs, the statements left and what it wrote. -/
structure Session (κ σ L ε α : Type) where
  call : κ
  program : Program σ L ε α
  written : List (σ → σ)

def replay (written : List (σ → σ)) (rows : σ) : σ := written.foldl (fun s write => write s) rows

/-- The rows that are committed, the transactions of the processes, and who holds each lock. -/
structure Cluster (P κ σ L ε α : Type) where
  committed : σ
  sessions : P → Option (Session κ σ L ε α)
  holder : L → Option P

namespace Cluster

def view (x : Cluster P κ σ L ε α) (session : Session κ σ L ε α) : σ :=
  replay session.written x.committed

variable [DecidableEq P] [DecidableEq L]

def ended (x : Cluster P κ σ L ε α) (p : P) : Cluster P κ σ L ε α :=
  { x with
    sessions := Function.update x.sessions p none
    holder := fun l => if x.holder l = some p then none else x.holder l }

def ran (x : Cluster P κ σ L ε α) (p : P) (locks : List L) (session : Session κ σ L ε α) :
    Cluster P κ σ L ε α :=
  { x with
    sessions := Function.update x.sessions p (some session)
    holder := fun l => if l ∈ locks then some p else x.holder l }

/-- No other process holds one of the locks. -/
def Grants (x : Cluster P κ σ L ε α) (p : P) (locks : List L) : Prop :=
  ∀ l ∈ locks, x.holder l = none ∨ x.holder l = some p

instance (x : Cluster P κ σ L ε α) (p : P) (locks : List L) : Decidable (x.Grants p locks) :=
  inferInstanceAs (Decidable (∀ l ∈ locks, x.holder l = none ∨ x.holder l = some p))

end Cluster

inductive Move (P κ ε : Type) where
  | start (p : P) (call : κ)
  | step (p : P)
  | abort (p : P) (e : ε)

structure Ended (κ ε α : Type) where
  call : κ
  outcome : Except ε α

section Runs

variable [DecidableEq P] [DecidableEq L] (program : κ → Program σ L ε α)

def Cluster.advance (x : Cluster P κ σ L ε α) (p : P) (session : Session κ σ L ε α) :
    Option (Ended κ ε α) × Cluster P κ σ L ε α :=
  match session.program with
  | .finish (.ok a) =>
    (some ⟨session.call, .ok a⟩, { x with committed := x.view session }.ended p)
  | .finish (.error e) => (some ⟨session.call, .error e⟩, x.ended p)
  | .statement locks write next =>
    let v := x.view session
    if x.Grants p (locks v) then
      (none, x.ran p (locks v)
        { session with program := next v, written := session.written ++ [write v] })
    else (none, x)

def readCommitted (rows : σ) :
    Machine (Cluster P κ σ L ε α) (Move P κ ε) (Option (Ended κ ε α)) where
  init := { committed := rows, sessions := fun _ => none, holder := fun _ => none }
  step x
    | .start p call => match x.sessions p with
      | none => (none, x.ran p [] { call, program := program call, written := [] })
      | some _ => (none, x)
    | .step p => match x.sessions p with
      | none => (none, x)
      | some session => x.advance p session
    | .abort p e => match x.sessions p with
      | none => (none, x)
      | some session => (some ⟨session.call, .error e⟩, x.ended p)

def Ended.returned? (ended : Ended κ ε α) : Option (κ × α) :=
  ended.outcome.toOption.map fun a => (ended.call, a)

/-- The calls that have returned, in the order of their commits, with what they returned. -/
def returned (events : List (Event (Cluster P κ σ L ε α) (Move P κ ε) (Option (Ended κ ε α)))) :
    List (κ × α) :=
  events.filterMap fun event => event.output.bind Ended.returned?

end Runs

section Steps

variable [DecidableEq P] [DecidableEq L] (program : κ → Program σ L ε α) (rows : σ)
  {x : Cluster P κ σ L ε α} {p : P}

theorem step_statement {call : κ} {locks : σ → List L} {write : σ → σ → σ}
    {next : σ → Program σ L ε α} {written : List (σ → σ)} {v : σ}
    (hsession : x.sessions p = some ⟨call, .statement locks write next, written⟩)
    (hv : replay written x.committed = v) (hgrants : x.Grants p (locks v)) :
    (readCommitted program rows).step x (.step p) =
      (none, x.ran p (locks v) ⟨call, next v, written ++ [write v]⟩) := by
  subst hv
  simp only [readCommitted, hsession, Cluster.advance, Cluster.view]
  exact if_pos hgrants

theorem answer_finish {call : κ} {outcome : Except ε α} {written : List (σ → σ)}
    (hsession : x.sessions p = some ⟨call, .finish outcome, written⟩) :
    (readCommitted program rows).answer x (.step p) = some ⟨call, outcome⟩ := by
  simp only [Machine.answer, readCommitted, hsession, Cluster.advance]
  cases outcome <;> rfl

end Steps

/-! ## One observation under one lock -/

/-- What a transaction has done to an observation: nothing yet, or it holds the lock since the
observation was `before`, and it has made `now` of it. -/
inductive Hold (β : Type) where
  | free
  | held (before now : β)

namespace Program

variable (l : L) (f : σ → β) (pre : β → Prop)

/-- Every way that a program goes on keeps to the lock and returns as `Q` says. -/
def Meets (Q : α → Hold β → Prop) : Program σ L ε α → Hold β → Prop
  | finish (.ok a), hold => Q a hold
  | finish (.error _), _ => True
  | statement locks write next, .free => ∀ v,
      (l ∉ locks v → (∀ s, f (write v s) = f s) ∧ (next v).Meets Q .free) ∧
      (l ∈ locks v → pre (f v) →
        ∃ b, (∀ s, f s = f v → f (write v s) = b) ∧ (next v).Meets Q (.held (f v) b))
  | statement _ write next, .held before now => ∀ v, f v = now →
      ∃ b, (∀ s, f s = now → f (write v s) = b) ∧ (next v).Meets Q (.held before b)

/-- No way that a program goes on takes the lock or writes what the observation reads. -/
def Ignores : Program σ L ε α → Prop
  | finish _ => True
  | statement locks write next => ∀ v,
      l ∉ locks v ∧ (∀ s, f (write v s) = f s) ∧ (next v).Ignores

section Rules

variable {l : L} {f : σ → β} {pre : β → Prop} {Q : α → Hold β → Prop} {hold : Hold β}
  {before now : β}

@[simp] theorem meets_pure {a : α} : (pure a : Program σ L ε α).Meets l f pre Q hold ↔ Q a hold := by
  cases hold <;> exact Iff.rfl

@[simp] theorem meets_ite {c : Prop} [Decidable c] {p q : Program σ L ε α} :
    (if c then p else q).Meets l f pre Q hold ↔
      (c → p.Meets l f pre Q hold) ∧ (¬c → q.Meets l f pre Q hold) := by
  by_cases h : c <;> simp [h]

@[simp] theorem meets_bind {γ : Type} {Q : γ → Hold β → Prop} {p : Program σ L ε α}
    {g : α → Program σ L ε γ} :
    (p >>= g).Meets l f pre Q hold ↔ p.Meets l f pre (fun a h => (g a).Meets l f pre Q h) hold := by
  induction p generalizing hold with
  | finish outcome =>
    cases outcome with
    | error e => cases hold <;> exact Iff.rfl
    | ok a => cases hold <;> exact Iff.rfl
  | statement locks write next ih =>
    cases hold with
    | free => simp only [statement_bind, Meets, ih]
    | held before now => simp only [statement_bind, Meets, ih]

theorem Meets.mono {R : α → Hold β → Prop} {p : Program σ L ε α} (h : p.Meets l f pre Q hold)
    (hQR : ∀ a hold', Q a hold' → R a hold') : p.Meets l f pre R hold := by
  induction p generalizing hold with
  | finish outcome =>
    cases outcome with
    | error e => cases hold <;> exact trivial
    | ok a => cases hold <;> exact hQR _ _ h
  | statement locks write next ih =>
    cases hold with
    | free =>
      intro v
      refine ⟨fun hmem => ?_, fun hmem hpre => ?_⟩
      · obtain ⟨hsame, hnext⟩ := (h v).1 hmem
        exact ⟨hsame, ih v hnext⟩
      · obtain ⟨b, hb, hnext⟩ := (h v).2 hmem hpre
        exact ⟨b, hb, ih v hnext⟩
    | held before now =>
      intro v hv
      obtain ⟨b, hb, hnext⟩ := h v hv
      exact ⟨b, hb, ih v hnext⟩

@[simp] theorem meets_ensure {c : Prop} [Decidable c] {e : ε} {Q : Unit → Hold β → Prop} :
    (ensure c e : Program σ L ε Unit).Meets l f pre Q hold ↔ (c → Q () hold) := by
  by_cases h : c <;> cases hold <;> simp [ensure, h, Meets]

@[simp] theorem meets_require {o : Option α} {e : ε} :
    (require o e : Program σ L ε α).Meets l f pre Q hold ↔ ∀ a, o = some a → Q a hold := by
  cases o <;> cases hold <;> simp [require, Meets]

@[simp] theorem meets_read_free {g : σ → α} :
    (read g : Program σ L ε α).Meets l f pre Q .free ↔ ∀ v, Q (g v) .free := by
  simp [read, Meets]

@[simp] theorem meets_read_held {g : σ → α} :
    (read g : Program σ L ε α).Meets l f pre Q (.held before now) ↔
      ∀ v, f v = now → Q (g v) (.held before now) := by
  unfold read
  constructor
  · intro h v hv
    obtain ⟨b, hb, hq⟩ := h v hv
    obtain rfl : b = now := (hb v hv).symm.trans hv
    exact hq
  · intro h v hv
    exact ⟨now, fun s hs => hs, h v hv⟩

@[simp] theorem meets_readLocked_free {locks : σ → List L} {g : σ → α} :
    (readLocked locks g : Program σ L ε α).Meets l f pre Q .free ↔ ∀ v,
      (l ∉ locks v → Q (g v) .free) ∧
      (l ∈ locks v → pre (f v) → Q (g v) (.held (f v) (f v))) := by
  unfold readLocked
  constructor
  · intro h v
    refine ⟨fun hmem => ((h v).1 hmem).2, fun hmem hpre => ?_⟩
    obtain ⟨b, hb, hq⟩ := (h v).2 hmem hpre
    obtain rfl : f v = b := hb v rfl
    exact hq
  · intro h v
    exact ⟨fun hmem => ⟨fun _ => rfl, (h v).1 hmem⟩,
      fun hmem hpre => ⟨f v, fun _ hs => hs, (h v).2 hmem hpre⟩⟩

@[simp] theorem meets_readLocked_held {locks : σ → List L} {g : σ → α} :
    (readLocked locks g : Program σ L ε α).Meets l f pre Q (.held before now) ↔
      ∀ v, f v = now → Q (g v) (.held before now) :=
  meets_read_held

theorem meets_write_held {locks : σ → List L} {g : σ → σ} {b : β} {Q : Unit → Hold β → Prop}
    (hb : ∀ s, f s = now → f (g s) = b) (hq : Q () (.held before b)) :
    (write locks g : Program σ L ε Unit).Meets l f pre Q (.held before now) :=
  fun _ _ => ⟨b, hb, hq⟩

theorem meets_insert_admitted {locks : σ → List L} {admits : σ → Prop} [DecidablePred admits]
    {g : σ → σ} {e : ε} {b : β} {Q : Unit → Hold β → Prop} (hb : ∀ s, f s = now → f (g s) = b)
    (hq : ∀ v, f v = now → admits v → Q () (.held before b)) :
    (insert locks admits g e : Program σ L ε Unit).Meets l f pre Q (.held before now) := by
  intro v hv
  by_cases hadmits : admits v
  · simp only [if_pos hadmits]
    exact ⟨b, hb, hq v hv hadmits⟩
  · simp only [if_neg hadmits]
    exact ⟨now, fun s hs => hs, trivial⟩

theorem meets_insert_held {locks : σ → List L} {admits : σ → Prop} [DecidablePred admits]
    {g : σ → σ} {e : ε} {b : β} {Q : Unit → Hold β → Prop} (hb : ∀ s, f s = now → f (g s) = b)
    (hq : Q () (.held before b)) :
    (insert locks admits g e : Program σ L ε Unit).Meets l f pre Q (.held before now) :=
  meets_insert_admitted hb fun _ _ _ => hq

theorem meets_insert_free {locks : σ → List L} {admits : σ → Prop} [DecidablePred admits]
    {g : σ → σ} {e : ε} {Q : Unit → Hold β → Prop} (hlocks : ∀ v, l ∈ locks v)
    (hq : ∀ v, admits v → ∃ b, (∀ s, f s = f v → f (g s) = b) ∧ Q () (.held (f v) b)) :
    (insert locks admits g e : Program σ L ε Unit).Meets l f pre Q .free := by
  intro v
  refine ⟨fun hfree => absurd (hlocks v) hfree, fun _ _ => ?_⟩
  by_cases hadmits : admits v
  · simp only [if_pos hadmits]
    exact hq v hadmits
  · simp only [if_neg hadmits]
    exact ⟨f v, fun s hs => hs, trivial⟩

theorem Ignores.meets {p : Program σ L ε α} (h : p.Ignores l f) (hq : ∀ a, Q a hold) :
    p.Meets l f pre Q hold := by
  induction p with
  | finish outcome =>
    cases outcome with
    | error e => cases hold <;> exact trivial
    | ok a => cases hold <;> exact hq a
  | statement locks write next ih =>
    cases hold with
    | free =>
      intro v
      obtain ⟨hlocks, hsame, hnext⟩ := h v
      exact ⟨fun _ => ⟨hsame, ih v hnext⟩, fun hmem => absurd hmem hlocks⟩
    | held before now =>
      intro v hv
      obtain ⟨-, hsame, hnext⟩ := h v
      exact ⟨now, fun s hs => (hsame s).trans hs, ih v hnext⟩

@[simp] theorem ignores_pure {a : α} : (pure a : Program σ L ε α).Ignores l f := trivial

@[simp] theorem ignores_ensure {c : Prop} [Decidable c] {e : ε} :
    (ensure c e : Program σ L ε Unit).Ignores l f := trivial

theorem ignores_readLocked {locks : σ → List L} {g : σ → α} (hlocks : ∀ v, l ∉ locks v) :
    (readLocked locks g : Program σ L ε α).Ignores l f :=
  fun v => ⟨hlocks v, fun _ => rfl, trivial⟩

theorem Ignores.bind {γ : Type} {p : Program σ L ε α} {g : α → Program σ L ε γ}
    (hp : p.Ignores l f) (hg : ∀ a, (g a).Ignores l f) : (p >>= g).Ignores l f := by
  induction p with
  | finish outcome =>
    cases outcome with
    | error e => trivial
    | ok a => exact hg a
  | statement locks write next ih =>
    intro v
    exact ⟨(hp v).1, (hp v).2.1, ih v (hp v).2.2⟩

theorem ignores_write {locks : σ → List L} {g : σ → σ} (hlocks : ∀ v, l ∉ locks v)
    (hsame : ∀ s, f (g s) = f s) : (write locks g : Program σ L ε Unit).Ignores l f :=
  fun v => ⟨hlocks v, hsame, trivial⟩

theorem ignores_insert {locks : σ → List L} {admits : σ → Prop} [DecidablePred admits] {g : σ → σ}
    {e : ε} (hlocks : ∀ v, l ∉ locks v) (hsame : ∀ s, f (g s) = f s) :
    (insert locks admits g e : Program σ L ε Unit).Ignores l f := by
  intro v
  refine ⟨hlocks v, fun s => ?_, trivial⟩
  change f (if admits v then g s else s) = f s
  split
  · exact hsame s
  · rfl

end Rules

end Program

/-! ## Runs of programs that keep to the lock -/

/-- What the calls that returned made of the observation, one after the other. -/
inductive Serial (Q : κ → α → Hold β → Prop) : β → List (κ × α) → β → Prop where
  | nil (b : β) : Serial Q b [] b
  | passed {b b' : β} {calls : List (κ × α)} {call : κ} {a : α} (h : Serial Q b calls b')
      (hq : Q call a .free) : Serial Q b (calls ++ [(call, a)]) b'
  | wrote {b b' b'' : β} {calls : List (κ × α)} {call : κ} {a : α} (h : Serial Q b calls b')
      (hq : Q call a (.held b' b'')) : Serial Q b (calls ++ [(call, a)]) b''

section Serial

variable [DecidableEq P] [DecidableEq L] {program : κ → Program σ L ε α} {l : L} {f : σ → β}
  {pre : κ → β → Prop} {Q : κ → α → Hold β → Prop} {x : Cluster P κ σ L ε α} {p : P}
  {session : Session κ σ L ε α} {rows : σ}

variable (l f pre) in
/-- Where the step takes the lock, it finds what the call asks of the observation. -/
def Cluster.Finds (x : Cluster P κ σ L ε α) : Move P κ ε → Prop
  | .step p => ∀ session, x.sessions p = some session →
      match session.program with
      | .statement locks _ _ => l ∈ locks (x.view session) → x.holder l = none →
          pre session.call (f (x.view session))
      | .finish _ => True
  | _ => True

variable (l f) in
/-- What a transaction has done to the observation. -/
def Holds (x : Cluster P κ σ L ε α) (p : P) (session : Session κ σ L ε α) : Hold β → Prop
  | .free => x.holder l ≠ some p ∧ ∀ s, f (replay session.written s) = f s
  | .held before now => x.holder l = some p ∧ f x.committed = before ∧
      ∀ s, f s = before → f (replay session.written s) = now

variable (l f pre Q) in
/-- Every transaction keeps to the lock from where it is, and only a transaction holds it. -/
structure Tracked (x : Cluster P κ σ L ε α) : Prop where
  sessions : ∀ p session, x.sessions p = some session →
    ∃ hold, session.program.Meets l f (pre session.call) (Q session.call) hold ∧
      Holds l f x p session hold
  holder : ∀ p, x.sessions p = none → x.holder l ≠ some p

theorem replay_append {written : List (σ → σ)} {write : σ → σ} {s : σ} :
    replay (written ++ [write]) s = write (replay written s) := by
  simp [replay]

theorem Holds.ran {q : P} {session' : Session κ σ L ε α} {locks : List L} {hold : Hold β}
    (h : Holds l f x q session hold) (hgrants : x.Grants p locks) (hne : q ≠ p) :
    Holds l f (x.ran p locks session') q session hold := by
  have hother : l ∈ locks → x.holder l ≠ some q := by
    intro hmem hheld
    rcases hgrants l hmem with hnone | hown
    · rw [hnone] at hheld
      cases hheld
    · rw [hown] at hheld
      exact hne (Option.some.inj hheld).symm
  cases hold with
  | free =>
    refine ⟨?_, h.2⟩
    change (if l ∈ locks then some p else x.holder l) ≠ some q
    split
    · exact fun heq => hne (Option.some.inj heq).symm
    · exact h.1
  | held before now =>
    refine ⟨?_, h.2⟩
    change (if l ∈ locks then some p else x.holder l) = some q
    rw [if_neg fun hmem => hother hmem h.1]
    exact h.1

omit [DecidableEq L] in
theorem Holds.ended {q : P} {hold : Hold β} (h : Holds l f x q session hold) (hne : q ≠ p)
    (hrows : x.holder l = some q → f rows = f x.committed) :
    Holds l f (({ x with committed := rows } : Cluster P κ σ L ε α).ended p) q session hold := by
  cases hold with
  | free =>
    refine ⟨?_, h.2⟩
    change (if x.holder l = some p then none else x.holder l) ≠ some q
    split
    · simp
    · exact h.1
  | held before now =>
    refine ⟨?_, (hrows h.1).trans h.2.1, h.2.2⟩
    change (if x.holder l = some p then none else x.holder l) = some q
    rw [if_neg fun heq => hne (Option.some.inj (h.1.symm.trans heq))]
    exact h.1

omit [DecidableEq L] in
theorem Tracked.ended (h : Tracked l f pre Q x)
    (hrows : ∀ q, q ≠ p → x.holder l = some q → f rows = f x.committed) :
    Tracked l f pre Q (({ x with committed := rows } : Cluster P κ σ L ε α).ended p) where
  sessions := by
    intro q session hq
    change Function.update x.sessions p none q = some session at hq
    have hne : q ≠ p := by
      rintro rfl
      rw [Function.update_self] at hq
      cases hq
    rw [Function.update_of_ne hne] at hq
    obtain ⟨hold, hmeets, hholds⟩ := h.sessions q session hq
    exact ⟨hold, hmeets, hholds.ended hne (hrows q hne)⟩
  holder := by
    intro q hq
    change Function.update x.sessions p none q = none at hq
    change (if x.holder l = some p then none else x.holder l) ≠ some q
    split
    · simp
    · next hnot =>
      by_cases hne : q = p
      · rw [hne]
        exact hnot
      · rw [Function.update_of_ne hne] at hq
        exact h.holder q hq

theorem Tracked.ran {locks : List L} {hold : Hold β} (h : Tracked l f pre Q x)
    (hgrants : x.Grants p locks)
    (hmeets : session.program.Meets l f (pre session.call) (Q session.call) hold)
    (hholds : Holds l f (x.ran p locks session) p session hold) :
    Tracked l f pre Q (x.ran p locks session) where
  sessions := by
    intro q session' hq
    change Function.update x.sessions p (some session) q = some session' at hq
    by_cases hne : q = p
    · subst hne
      rw [Function.update_self] at hq
      obtain rfl := Option.some.inj hq
      exact ⟨hold, hmeets, hholds⟩
    · rw [Function.update_of_ne hne] at hq
      obtain ⟨hold', hmeets', hholds'⟩ := h.sessions q session' hq
      exact ⟨hold', hmeets', hholds'.ran hgrants hne⟩
  holder := by
    intro q hq
    change Function.update x.sessions p (some session) q = none at hq
    have hne : q ≠ p := by
      rintro rfl
      rw [Function.update_self] at hq
      cases hq
    rw [Function.update_of_ne hne] at hq
    change (if l ∈ locks then some p else x.holder l) ≠ some q
    split
    · exact fun heq => hne (Option.some.inj heq).symm
    · exact h.holder q hq

/-- What a step makes of the observation: what the call that it ends made of it, if it returns. -/
def Made (f : σ → β) (Q : κ → α → Hold β → Prop) (x x' : Cluster P κ σ L ε α) :
    Option (Ended κ ε α) → Prop
  | some ⟨call, .ok a⟩ => (Q call a .free ∧ f x'.committed = f x.committed) ∨
      Q call a (.held (f x.committed) (f x'.committed))
  | _ => f x'.committed = f x.committed

omit [DecidableEq P] [DecidableEq L] in
theorem Made.serial {x' : Cluster P κ σ L ε α} {o : Option (Ended κ ε α)} {b : β}
    {calls : List (κ × α)} (h : Made f Q x x' o) (hserial : Serial Q b calls (f x.committed)) :
    Serial Q b (calls ++ (o.bind Ended.returned?).toList) (f x'.committed) := by
  obtain _ | ⟨call, e | a⟩ := o
  · simpa [show f x'.committed = f x.committed from h] using hserial
  · simpa [Ended.returned?, Except.toOption, show f x'.committed = f x.committed from h] using hserial
  · rcases h with ⟨hq, hsame⟩ | hq
    · rw [hsame]
      exact hserial.passed hq
    · exact hserial.wrote hq

theorem Tracked.advance (h : Tracked l f pre Q x) (hsession : x.sessions p = some session)
    (hfinds : x.Finds l f pre (.step p : Move P κ ε)) :
    Tracked l f pre Q (x.advance p session).2 ∧
      Made f Q x (x.advance p session).2 (x.advance p session).1 := by
  obtain ⟨hold, hmeets, hholds⟩ := h.sessions p session hsession
  have hfinds := hfinds session hsession
  obtain ⟨call, program, written⟩ := session
  unfold Cluster.advance
  cases program with
  | finish outcome =>
    cases outcome with
    | error e => exact ⟨h.ended fun _ _ _ => rfl, rfl⟩
    | ok a =>
      cases hold with
      | free =>
        have hsame : f (replay written x.committed) = f x.committed := hholds.2 _
        exact ⟨h.ended fun _ _ _ => hsame, Or.inl ⟨hmeets, hsame⟩⟩
      | held before now =>
        obtain ⟨hholder, hbefore, hnow⟩ := hholds
        have hmade : f (replay written x.committed) = now := hnow _ hbefore
        refine ⟨h.ended fun q hne hq => ?_, Or.inr ?_⟩
        · exact absurd (Option.some.inj (hq.symm.trans hholder)) hne
        · change Q call a (.held (f x.committed) (f (replay written x.committed)))
          rw [hbefore, hmade]
          exact hmeets
  | statement locks write next =>
    simp only
    split
    · next hgrants =>
      refine ⟨?_, rfl⟩
      generalize hv : x.view ⟨call, .statement locks write next, written⟩ = v at hfinds hgrants ⊢
      have hv : replay written x.committed = v := hv
      cases hold with
      | free =>
        obtain ⟨hfree, hsame⟩ := hholds
        by_cases hmem : l ∈ locks v
        · have hnone : x.holder l = none := (hgrants l hmem).resolve_right hfree
          obtain ⟨b, hb, hnext⟩ := (hmeets v).2 hmem (hfinds hmem hnone)
          have hcommitted : f x.committed = f v := by rw [← hv, hsame]
          refine h.ran hgrants hnext ⟨if_pos hmem, hcommitted, fun s hs => ?_⟩
          rw [replay_append]
          exact hb _ ((hsame s).trans hs)
        · obtain ⟨hwrite, hnext⟩ := (hmeets v).1 hmem
          refine h.ran hgrants hnext ⟨?_, fun s => ?_⟩
          · change (if l ∈ locks v then some p else x.holder l) ≠ some p
            rw [if_neg hmem]
            exact hfree
          · rw [replay_append, hwrite, hsame]
      | held before now =>
        obtain ⟨hholder, hbefore, hnow⟩ := hholds
        obtain ⟨b, hb, hnext⟩ := hmeets v (by rw [← hv, hnow _ hbefore])
        refine h.ran hgrants hnext ⟨?_, hbefore, fun s hs => ?_⟩
        · change (if l ∈ locks v then some p else x.holder l) = some p
          split
          · rfl
          · exact hholder
        · rw [replay_append]
          exact hb _ (hnow s hs)
    · exact ⟨h, rfl⟩

variable (rows) in
theorem Tracked.next (h : Tracked l f pre Q x)
    (hprogram : ∀ call, (program call).Meets l f (pre call) (Q call) .free) (move : Move P κ ε)
    (hfinds : x.Finds l f pre move) :
    Tracked l f pre Q ((readCommitted program rows).next x move) ∧
      Made f Q x ((readCommitted program rows).next x move)
        ((readCommitted program rows).answer x move) := by
  unfold Machine.next Machine.answer readCommitted
  cases move with
  | start p call =>
    simp only
    split
    · next hnone =>
      refine ⟨h.ran (fun _ hmem => by cases hmem) (hprogram call) ⟨?_, fun _ => rfl⟩, rfl⟩
      exact h.holder p hnone
    · exact ⟨h, rfl⟩
  | step p =>
    simp only
    split
    · exact ⟨h, rfl⟩
    · next session hsession => exact h.advance hsession hfinds
  | abort p e =>
    simp only
    split
    · exact ⟨h, rfl⟩
    · exact ⟨h.ended fun _ _ _ => rfl, rfl⟩

/-- In a run whose steps find what the calls ask for where they take the lock, the observation that
is committed is what the calls that returned made of it, one after the other. -/
theorem serial_run (hprogram : ∀ call, (program call).Meets l f (pre call) (Q call) .free)
    {moves : List (Move P κ ε)}
    (hfinds : (readCommitted program rows).AllSteps (fun x move => x.Finds l f pre move)
      (readCommitted program rows).init moves) :
    Serial Q (f rows) (returned ((readCommitted program rows).events moves))
      (f ((readCommitted program rows).run moves).committed) := by
  have hrun := (readCommitted program rows).history_induction_of
    (C := fun x move => x.Finds l f pre move)
    (J := fun events x => Tracked l f pre Q x ∧ Serial Q (f rows) (returned events) (f x.committed))
    ⟨⟨by simp [readCommitted], by simp [readCommitted]⟩, .nil _⟩ ?_ moves hfinds
  · exact hrun.2
  rintro events x move ⟨htracked, hserial⟩ hfinds
  obtain ⟨htracked', hmade⟩ := htracked.next rows hprogram move hfinds
  refine ⟨htracked', ?_⟩
  have hreturned : returned (events ++ [(readCommitted program rows).event x move]) =
      returned events ++
        (((readCommitted program rows).answer x move).bind Ended.returned?).toList := by
    rw [returned, List.filterMap_append, returned]
    congr 1
  rw [hreturned]
  exact hmade.serial hserial

omit [DecidableEq P] [DecidableEq L] in
theorem finds_true (x : Cluster P κ σ L ε α) (move : Move P κ ε) :
    x.Finds l f (fun _ _ => True) move := by
  cases move with
  | start p call => trivial
  | abort p e => trivial
  | step p =>
    intro session _
    cases session.program with
    | finish outcome => trivial
    | statement locks write next => exact fun _ _ => trivial

theorem serial_run_of
    (hprogram : ∀ call, (program call).Meets l f (fun _ => True) (Q call) .free)
    (moves : List (Move P κ ε)) :
    Serial Q (f rows) (returned ((readCommitted program rows).events moves))
      (f ((readCommitted program rows).run moves).committed) :=
  serial_run hprogram (((readCommitted program rows).allSteps_true _ moves).mono
    fun x move _ => finds_true x move)

end Serial

/-! ## Calls that write nothing -/

namespace Program

variable (R : α → Prop)

/-- No way that a program goes on returns a value of this kind. -/
def Never : Program σ L ε α → Prop
  | finish (.ok a) => ¬R a
  | finish (.error _) => True
  | statement _ _ next => ∀ v, (next v).Never

/-- A program that returns a value of this kind has written nothing. -/
def Silent : Program σ L ε α → Prop
  | finish _ => True
  | statement _ write next => ∀ v,
      ((∀ s, write v s = s) ∧ (next v).Silent) ∨ (next v).Never R

variable {R}

theorem Never.bind {γ : Type} {R : γ → Prop} (p : Program σ L ε α) {g : α → Program σ L ε γ}
    (hg : ∀ a, (g a).Never R) : (p >>= g).Never R := by
  induction p with
  | finish outcome =>
    cases outcome with
    | error e => trivial
    | ok a => exact hg a
  | statement locks write next ih => exact fun v => ih v

theorem Never.silent {p : Program σ L ε α} (h : p.Never R) : p.Silent R := by
  cases p with
  | finish outcome => trivial
  | statement locks write next => exact fun v => Or.inr (h v)

theorem silent_read {γ : Type} {R : γ → Prop} {g : σ → α} {h : α → Program σ L ε γ}
    (hh : ∀ a, (h a).Silent R) : (read g >>= h).Silent R :=
  fun v => Or.inl ⟨fun _ => rfl, hh (g v)⟩

theorem silent_readLocked {γ : Type} {R : γ → Prop} {locks : σ → List L} {g : σ → α}
    {h : α → Program σ L ε γ} (hh : ∀ a, (h a).Silent R) : (readLocked locks g >>= h).Silent R :=
  fun v => Or.inl ⟨fun _ => rfl, hh (g v)⟩

end Program

section Silent

variable [DecidableEq P] [DecidableEq L] {program : κ → Program σ L ε α} {R : κ → α → Prop}
  {x : Cluster P κ σ L ε α} {p : P} {session : Session κ σ L ε α} {rows : σ}

/-- The transaction has written nothing, or it does not return a value of this kind. -/
def Session.Silent (R : κ → α → Prop) (session : Session κ σ L ε α) : Prop :=
  (∀ s, replay session.written s = s) ∧ session.program.Silent (R session.call) ∨
    session.program.Never (R session.call)

omit [DecidableEq L] in
theorem forall_ended {S : Session κ σ L ε α → Prop}
    (h : ∀ p session, x.sessions p = some session → S session) :
    ∀ q session, (({ x with committed := rows } : Cluster P κ σ L ε α).ended p).sessions q =
      some session → S session := by
  intro q session hq
  change Function.update x.sessions p none q = some session at hq
  by_cases hne : q = p
  · rw [hne, Function.update_self] at hq
    cases hq
  · rw [Function.update_of_ne hne] at hq
    exact h q session hq

/-- … and when one goes on to where it holds. -/
theorem forall_ran {S : Session κ σ L ε α → Prop} {locks : List L}
    (h : ∀ p session, x.sessions p = some session → S session) (hsession : S session) :
    ∀ q session', (x.ran p locks session).sessions q = some session' → S session' := by
  intro q session' hq
  change Function.update x.sessions p (some session) q = some session' at hq
  by_cases hne : q = p
  · rw [hne, Function.update_self] at hq
    obtain rfl := Option.some.inj hq
    exact hsession
  · rw [Function.update_of_ne hne] at hq
    exact h q session' hq

omit [DecidableEq L] in
theorem Session.Silent.statement {call : κ} {locks : σ → List L} {write : σ → σ → σ}
    {next : σ → Program σ L ε α} {written : List (σ → σ)}
    (h : (⟨call, .statement locks write next, written⟩ : Session κ σ L ε α).Silent R) (v : σ) :
    (⟨call, next v, written ++ [write v]⟩ : Session κ σ L ε α).Silent R := by
  rcases h with ⟨hwritten, hprogram⟩ | hnever
  · rcases hprogram v with ⟨hwrite, hnext⟩ | hnever
    · refine Or.inl ⟨fun s => ?_, hnext⟩
      rw [replay_append, hwrite, hwritten]
    · exact Or.inr hnever
  · exact Or.inr (hnever v)

variable (program rows) in
theorem silent_next (hprogram : ∀ call, (program call).Silent (R call))
    (h : ∀ p session, x.sessions p = some session → session.Silent R) (move : Move P κ ε) :
    (∀ p session, ((readCommitted program rows).next x move).sessions p = some session →
      session.Silent R) ∧
    ∀ call a, (readCommitted program rows).answer x move = some ⟨call, .ok a⟩ → R call a →
      ((readCommitted program rows).next x move).committed = x.committed := by
  unfold Machine.next Machine.answer readCommitted
  cases move with
  | start p call =>
    simp only
    split
    · exact ⟨forall_ran h (Or.inl ⟨fun _ => rfl, hprogram call⟩), by simp⟩
    · exact ⟨h, by simp⟩
  | abort p e =>
    simp only
    split
    · exact ⟨h, by simp⟩
    · exact ⟨forall_ended h, by simp⟩
  | step p =>
    simp only
    split
    · exact ⟨h, by simp⟩
    · next session hsession =>
      have hsilent := h p session hsession
      obtain ⟨call, program, written⟩ := session
      unfold Cluster.advance
      cases program with
      | finish outcome =>
        cases outcome with
        | error e => exact ⟨forall_ended h, by simp⟩
        | ok a =>
          refine ⟨forall_ended h, ?_⟩
          rintro call' a' ⟨⟩ hR
          rcases hsilent with ⟨hwritten, -⟩ | hnever
          · exact hwritten _
          · exact absurd hR hnever
      | statement locks write next =>
        simp only
        split
        · exact ⟨forall_ran h (hsilent.statement _), by simp⟩
        · exact ⟨h, by simp⟩

theorem silent_run (hprogram : ∀ call, (program call).Silent (R call)) {moves : List (Move P κ ε)}
    {e : Event (Cluster P κ σ L ε α) (Move P κ ε) (Option (Ended κ ε α))}
    (he : e ∈ (readCommitted program rows).events moves) {call : κ} {a : α}
    (houtput : e.output = some ⟨call, .ok a⟩) (hR : R call a) :
    e.post.committed = e.pre.committed := by
  obtain ⟨x, move, hreachable, -, rfl⟩ := (readCommitted program rows).mem_events he
  have hsilent := hreachable.induction (I := fun x => ∀ p session, x.sessions p = some session →
    session.Silent R) (by simp [readCommitted])
    (fun x move hx => (silent_next program rows hprogram hx move).1)
  exact (silent_next program rows hprogram hsilent move).2 call a houtput hR

end Silent

end Lib
