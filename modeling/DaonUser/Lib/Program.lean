import DaonUser.Lib.Sql

/-!
# Transactions, statement by statement

A `Program σ L ε α` is a transaction on rows of type `σ`: it has ended, or its next statement names the rows
that it locks (by values of `L`), writes, and goes on with what it saw. What it saw is read when the
statement runs, so a program can be run where other transactions commit between its statements
(`Lib.ReadCommitted`) as well as alone (`Program.alone`, a `Call`).
-/

namespace Lib

inductive Program (σ L ε α : Type) where
  | finish (outcome : Except ε α)
  | statement (locks : σ → List L) (write : σ → σ → σ) (next : σ → Program σ L ε α)

namespace Program

variable {σ L ε α β γ : Type}

/-- `p` and then, if it returned, `f` on what it returned. -/
def andThen : Program σ L ε α → (α → Program σ L ε β) → Program σ L ε β
  | finish (.ok a), f => f a
  | finish (.error e), _ => finish (.error e)
  | statement locks write next, f => statement locks write fun s => (next s).andThen f

instance : Monad (Program σ L ε) where
  pure a := finish (.ok a)
  bind := andThen

/-- A `SELECT`. -/
def read (g : σ → α) : Program σ L ε α :=
  statement (fun _ => []) (fun _ s => s) fun v => finish (.ok (g v))

/-- A `SELECT … FOR UPDATE`. -/
def readLocked (locks : σ → List L) (g : σ → α) : Program σ L ε α :=
  statement locks (fun _ s => s) fun v => finish (.ok (g v))

/-- An `UPDATE`, a `DELETE` or an `INSERT … ON CONFLICT`. -/
def write (locks : σ → List L) (f : σ → σ) : Program σ L ε Unit :=
  statement locks (fun _ => f) fun _ => finish (.ok ())

/-- An `UPDATE` whose number of rows is read. -/
def writeCount (locks : σ → List L) (f : σ → σ) (count : σ → Nat) : Program σ L ε Nat :=
  statement locks (fun _ => f) fun v => finish (.ok (count v))

/-- An `INSERT`: raise `e` when a key refuses the row. -/
def insert (locks : σ → List L) (admits : σ → Prop) [DecidablePred admits] (f : σ → σ) (e : ε) :
    Program σ L ε Unit :=
  statement locks (fun v s => if admits v then f s else s) fun v =>
    finish (if admits v then .ok () else .error e)

/-- Raise `e` unless `c` holds. -/
def ensure (c : Prop) [Decidable c] (e : ε) : Program σ L ε Unit :=
  finish (if c then .ok () else .error e)

/-- Raise `e` when there is no value. -/
def require (o : Option α) (e : ε) : Program σ L ε α :=
  finish (match o with
    | some a => .ok a
    | none => .error e)

/-- Raise `e`. -/
def raise (e : ε) : Program σ L ε α := finish (.error e)

section Tables

variable {S : Schema}

/-- `INSERT` of a row, which takes the lock of its key. -/
def insertRow (lock : L) (t : S.Table) (row : S.Row t) (e : ε) : Program (Database S) L ε Unit :=
  insert (fun _ => [lock]) (fun db => db.Admits t row) (fun db => db.insert t row) e

/-- `INSERT OR IGNORE`. -/
def putIfAbsent (lock : L) (t : S.Table) (row : S.Row t) : Program (Database S) L ε Unit :=
  write (fun db => if db.Admits t row then [lock] else []) fun db => db.insertOrIgnore t row

/-- `INSERT … ON CONFLICT DO UPDATE`: the row takes the place of the one with its key. -/
def put (lock : L) (t : S.Table) (row : S.Row t) : Program (Database S) L ε Unit :=
  write (fun _ => [lock]) fun db => db.upsert t row fun _ => row

end Tables

section Bind

variable {f : α → Program σ L ε β}

@[simp] theorem pure_bind {a : α} : (pure a : Program σ L ε α) >>= f = f a := rfl

@[simp] theorem statement_bind {locks : σ → List L} {write : σ → σ → σ}
    {next : σ → Program σ L ε α} :
    statement locks write next >>= f = statement locks write fun s => next s >>= f := rfl

theorem ensure_bind {c : Prop} [Decidable c] {e : ε} {f : Unit → Program σ L ε β} :
    ensure c e >>= f = if c then f () else raise e := by
  unfold ensure
  split <;> rfl

theorem bind_assoc (p : Program σ L ε α) (f : α → Program σ L ε β) (g : β → Program σ L ε γ) :
    (p >>= f) >>= g = p >>= fun a => f a >>= g := by
  induction p with
  | finish outcome =>
    cases outcome with
    | error e => rfl
    | ok a => rfl
  | statement locks write next ih =>
    simp only [statement_bind, ih]

end Bind

/-! ## Alone -/

def alone : Program σ L ε α → Call σ ε α
  | finish outcome, s => (outcome, s)
  | statement _ write next, s => (next s).alone (write s s)

section Alone

variable {f : α → Program σ L ε β} {s : σ} {V : β → σ → Prop}

theorem alone_bind (p : Program σ L ε α) (f : α → Program σ L ε β) :
    (p >>= f).alone = p.alone >>= fun a => (f a).alone := by
  funext s
  induction p generalizing s with
  | finish outcome =>
    cases outcome with
    | error e => rfl
    | ok a => rfl
  | statement locks write next ih => exact ih s (write s s)

@[simp] theorem returns_alone_bind {p : Program σ L ε α} :
    Call.Returns (p >>= f).alone s V ↔
      Call.Returns p.alone s fun a s' => Call.Returns (f a).alone s' V := by
  rw [alone_bind, Call.returns_bind]

@[simp] theorem returns_alone_pure {b : β} :
    Call.Returns (pure b : Program σ L ε β).alone s V ↔ V b s := Call.returns_pure

@[simp] theorem returns_alone_read {g : σ → β} :
    Call.Returns (read g : Program σ L ε β).alone s V ↔ V (g s) s := by
  constructor
  · intro h
    exact h _ _ rfl
  · rintro h b s' ⟨⟩
    exact h

@[simp] theorem returns_alone_readLocked {locks : σ → List L} {g : σ → β} :
    Call.Returns (readLocked locks g : Program σ L ε β).alone s V ↔ V (g s) s :=
  returns_alone_read (L := L)

@[simp] theorem returns_alone_write {locks : σ → List L} {g : σ → σ} {V : Unit → σ → Prop} :
    Call.Returns (write locks g : Program σ L ε Unit).alone s V ↔ V () (g s) := by
  constructor
  · intro h
    exact h _ _ rfl
  · rintro h b s' ⟨⟩
    exact h

@[simp] theorem returns_alone_writeCount {locks : σ → List L} {g : σ → σ} {count : σ → Nat}
    {V : Nat → σ → Prop} :
    Call.Returns (writeCount locks g count : Program σ L ε Nat).alone s V ↔ V (count s) (g s) := by
  constructor
  · intro h
    exact h _ _ rfl
  · rintro h b s' ⟨⟩
    exact h

@[simp] theorem returns_alone_insert {locks : σ → List L} {admits : σ → Prop}
    [DecidablePred admits] {g : σ → σ} {e : ε} {V : Unit → σ → Prop} :
    Call.Returns (insert locks admits g e).alone s V ↔ (admits s → V () (g s)) := by
  by_cases h : admits s
  · simp only [Call.Returns, insert, alone, h, if_true, Prod.mk.injEq, true_implies]
    exact ⟨fun hv => hv () _ ⟨trivial, rfl⟩, fun hv _ _ hs => hs.2 ▸ hv⟩
  · simp [Call.Returns, insert, alone, h]

@[simp] theorem returns_alone_ensure {c : Prop} [Decidable c] {e : ε} {V : Unit → σ → Prop} :
    Call.Returns (ensure c e : Program σ L ε Unit).alone s V ↔ (c → V () s) := by
  by_cases h : c
  · simp only [Call.Returns, ensure, alone, h, if_true, Prod.mk.injEq, true_implies]
    exact ⟨fun hv => hv () _ ⟨trivial, rfl⟩, fun hv _ _ hs => hs.2 ▸ hv⟩
  · simp [Call.Returns, ensure, alone, h]

@[simp] theorem returns_alone_require {o : Option β} {e : ε} :
    Call.Returns (require o e : Program σ L ε β).alone s V ↔ ∀ b, o = some b → V b s := by
  cases o with
  | none => simp [require, alone, Call.Returns]
  | some b => simp [require, alone, Call.Returns]

@[simp] theorem returns_alone_raise {e : ε} :
    Call.Returns (raise e : Program σ L ε β).alone s V := by
  rintro b s' ⟨⟩

@[simp] theorem returns_alone_ite {c : Prop} [Decidable c] {p q : Program σ L ε β} :
    Call.Returns (if c then p else q).alone s V ↔
      (c → Call.Returns p.alone s V) ∧ (¬c → Call.Returns q.alone s V) := by
  by_cases h : c <;> simp [h]

section Tables

variable {S : Schema} {t : S.Table} {row : S.Row t} {lock : L} {db : Database S}
  {V : Unit → Database S → Prop}

@[simp] theorem returns_alone_insertRow {e : ε} :
    Call.Returns (insertRow lock t row e).alone db V ↔ (db.Admits t row → V () (db.insert t row)) :=
  returns_alone_insert

@[simp] theorem returns_alone_putIfAbsent :
    Call.Returns (putIfAbsent lock t row : Program (Database S) L ε Unit).alone db V ↔
      V () (db.insertOrIgnore t row) :=
  returns_alone_write

@[simp] theorem returns_alone_put :
    Call.Returns (put lock t row : Program (Database S) L ε Unit).alone db V ↔
      V () (db.upsert t row fun _ => row) :=
  returns_alone_write

end Tables

end Alone

end Program

end Lib
