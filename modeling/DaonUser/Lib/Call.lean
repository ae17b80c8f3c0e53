import Mathlib.Logic.Basic
import Mathlib.Tactic.Common

/-!
# Calls that return or raise

A `Call σ ε α` runs on a mutable object with state `σ`: it returns a value or raises an error, and what it
wrote before it raised stays written, unless `atomically` rolls it back.

`Call.Post x s Q` says that `x`, started in `s`, ends in an outcome and a state that `Q` accepts; each
statement has one rule. `Call.Needs` says besides exactly when the call returns. `Call.Returns` asks only
about the calls that return and `Call.Reverts` only about those that raise.
-/

namespace Lib

universe u

def Call (σ ε α : Type u) := σ → Except ε α × σ

namespace Call

variable {σ ε α β : Type u}

/-- `x` and then, if it returned, `f` on what it returned. -/
def andThen (x : Call σ ε α) (f : α → Call σ ε β) : Call σ ε β := fun s =>
  match x s with
  | (.ok a, s') => f a s'
  | (.error e, s') => (.error e, s')

instance : Monad (Call σ ε) where
  pure a := fun s => (.ok a, s)
  bind := andThen

def query (g : σ → Except ε α) : Call σ ε α := fun s => (g s, s)

def get : Call σ ε σ := fun s => (.ok s, s)

/-- Raise `e` unless `c` holds. -/
def ensure (c : Prop) [Decidable c] (e : ε) : Call σ ε PUnit := fun s =>
  if c then (.ok ⟨⟩, s) else (.error e, s)

def modify (g : σ → σ) : Call σ ε PUnit := fun s => (.ok ⟨⟩, g s)

/-- Raise `e`. -/
def raise (e : ε) : Call σ ε α := fun s => (.error e, s)

/-- What a transaction from `s` that has written `s'` leaves when it ends in `o`. -/
def kept (s s' : σ) : Except ε α → σ
  | .ok _ => s'
  | .error _ => s

/-- Run `x` in a transaction: when it raises, what it had written is rolled back. -/
def atomically (x : Call σ ε α) : Call σ ε α := fun s =>
  match x s with
  | (.ok a, s') => (.ok a, s')
  | (.error e, _) => (.error e, s)

theorem bind_of_ok {x : Call σ ε α} {s s' : σ} {a : α} (h : x s = (.ok a, s'))
    (f : α → Call σ ε β) : (x >>= f) s = f a s' := by
  change andThen x f s = f a s'
  rw [andThen, h]

theorem bind_of_error {x : Call σ ε α} {s s' : σ} {e : ε} (h : x s = (.error e, s'))
    (f : α → Call σ ε β) : (x >>= f) s = (.error e, s') := by
  change andThen x f s = (.error e, s')
  rw [andThen, h]

theorem map_apply (x : Call σ ε α) (f : α → β) (s : σ) : (f <$> x) s = ((x s).1.map f, (x s).2) := by
  change (x >>= fun a => pure (f a)) s = _
  rcases hx : x s with ⟨e | a, s'⟩
  · rw [bind_of_error hx]
    rfl
  · rw [bind_of_ok hx]
    rfl

theorem map_of_ok {x : Call σ ε α} {s s' : σ} {a : α} (h : x s = (.ok a, s')) (f : α → β) :
    (f <$> x) s = (.ok (f a), s') := by
  change (x >>= fun a => pure (f a)) s = _
  rw [bind_of_ok h]
  rfl

theorem query_bind {g : σ → Except ε α} {s : σ} {a : α} (h : g s = .ok a) (f : α → Call σ ε β) :
    (query g >>= f) s = f a s :=
  bind_of_ok (by rw [query, h]) f

theorem get_bind (s : σ) (f : σ → Call σ ε β) : (get >>= f) s = f s s := rfl

theorem ensure_bind {c : Prop} [Decidable c] {s : σ} (h : c) (e : ε) (f : PUnit → Call σ ε β) :
    (ensure c e >>= f) s = f ⟨⟩ s :=
  bind_of_ok (show (ensure c e : Call σ ε PUnit) s = (.ok ⟨⟩, s) from if_pos h) f

theorem ensure_of_not {c : Prop} [Decidable c] {s : σ} {e : ε} (h : ¬c) :
    ensure c e s = (.error e, s) := if_neg h

theorem bind_assoc {γ : Type u} (x : Call σ ε α) (f : α → Call σ ε β) (g : β → Call σ ε γ) :
    (x >>= f) >>= g = x >>= fun a => f a >>= g := by
  funext s
  rcases h : x s with ⟨e | a, s'⟩
  · rw [bind_of_error h, bind_of_error (bind_of_error h f)]
  · rw [bind_of_ok h]
    change andThen (x >>= f) g s = andThen (f a) g s'
    rw [andThen, andThen, bind_of_ok h]

/-! ## What a call ends in -/

/-- `x`, started in `s`, ends in an outcome and a state that `Q` accepts. -/
def Post (x : Call σ ε α) (s : σ) (Q : Except ε α → σ → Prop) : Prop := Q (x s).1 (x s).2

variable {Q : Except ε β → σ → Prop} {s : σ}

theorem Post.mono {Q R : Except ε α → σ → Prop} {x : Call σ ε α} (h : Post x s Q)
    (hQR : ∀ o s', Q o s' → R o s') : Post x s R :=
  hQR _ _ h

theorem post_pure {b : β} (h : Q (.ok b) s) : Post (pure b) s Q := h

theorem post_pure_bind {a : α} {f : α → Call σ ε β} (h : Post (f a) s Q) :
    Post (pure a >>= f) s Q := h

theorem post_raise {e : ε} (h : Q (.error e) s) : Post (raise e) s Q := h

theorem post_ite {c : Prop} [Decidable c] {x y : Call σ ε β} (hpos : c → Post x s Q)
    (hneg : ¬c → Post y s Q) : Post (if c then x else y) s Q := by
  split
  · next h => exact hpos h
  · next h => exact hneg h

theorem post_bind {x : Call σ ε α} {f : α → Call σ ε β} {R : Except ε α → σ → Prop}
    (hx : Post x s R) (herror : ∀ e s', R (.error e) s' → Q (.error e) s')
    (hok : ∀ a s', R (.ok a) s' → Post (f a) s' Q) : Post (x >>= f) s Q := by
  unfold Post at hx
  rcases h : x s with ⟨e | a, s'⟩ <;> rw [h] at hx
  · rw [Post, bind_of_error h]
    exact herror e s' hx
  · rw [Post, bind_of_ok h]
    exact hok a s' hx

theorem post_query {g : σ → Except ε α} {f : α → Call σ ε β}
    (herror : ∀ e, g s = .error e → Q (.error e) s)
    (hok : ∀ a, g s = .ok a → Post (f a) s Q) : Post (query g >>= f) s Q := by
  rcases h : g s with e | a
  · rw [Post, bind_of_error (by rw [query, h])]
    exact herror e h
  · rw [Post, bind_of_ok (by rw [query, h])]
    exact hok a h

theorem post_get {f : σ → Call σ ε β} (h : Post (f s) s Q) : Post (get >>= f) s Q := h

theorem post_ensure {c : Prop} [Decidable c] {e : ε} {f : PUnit → Call σ ε β}
    (herror : ¬c → Q (.error e) s) (hok : c → Post (f ⟨⟩) s Q) : Post (ensure c e >>= f) s Q := by
  by_cases h : c
  · rw [Post, bind_of_ok (show (ensure c e : Call σ ε PUnit) s = (.ok ⟨⟩, s) from if_pos h)]
    exact hok h
  · rw [Post, bind_of_error (show (ensure c e : Call σ ε PUnit) s = (.error e, s) from if_neg h)]
    exact herror h

theorem post_map {x : Call σ ε α} {f : α → β} (h : Post x s fun o s' => Q (o.map f) s') :
    Post (f <$> x) s Q := by
  change Post (x >>= fun a => pure (f a)) s Q
  exact post_bind h (fun _ _ h => h) fun _ _ h => h

theorem post_modify {g : σ → σ} {f : PUnit → Call σ ε β} (h : Post (f ⟨⟩) (g s) Q) :
    Post (modify g >>= f) s Q := h

theorem post_atomically {x : Call σ ε β} (h : Post x s fun o s' => Q o (kept s s' o)) :
    Post (atomically x) s Q := by
  unfold Post at h ⊢
  rcases hx : x s with ⟨e | b, s'⟩ <;> rw [hx] at h <;> simpa only [atomically, hx, kept] using h

theorem bind_eq_ok {x : Except ε α} {f : α → Except ε β} {b : β} :
    x >>= f = .ok b ↔ ∃ a, x = .ok a ∧ f a = .ok b := by
  cases x with
  | error e => simp [bind, Except.bind]
  | ok a => simp [bind, Except.bind]

theorem ok_of_toOption {o : Except ε α} {a : α} (h : o.toOption = some a) : o = .ok a := by
  cases o with
  | error e => cases h
  | ok b => exact congrArg Except.ok (Option.some.inj h)

/-! ## When a call returns -/

/-- `x`, started in `s`, returns exactly when `c` holds. What it then returns and leaves is in `Q`; what
it leaves when it raises is in `E`. -/
def Needs (x : Call σ ε α) (s : σ) (c : Prop) (E : σ → Prop) (Q : α → σ → Prop) : Prop :=
  Post x s fun o s' => match o with
    | .ok a => c ∧ Q a s'
    | .error _ => ¬c ∧ E s'

variable {c d : Prop} {E : σ → Prop} {R : β → σ → Prop}

theorem Needs.iff {x : Call σ ε β} (h : Needs x s c E R) (hcd : c ↔ d) : Needs x s d E R := by
  rwa [propext hcd] at h

theorem Needs.imp {x : Call σ ε β} {V : β → σ → Prop} (h : Needs x s c E R)
    (hRV : c → ∀ b s', R b s' → V b s') : Needs x s c E V := by
  refine Post.mono h fun o s' ho => ?_
  cases o with
  | error e => exact ho
  | ok b => exact ⟨ho.1, hRV ho.1 b s' ho.2⟩

theorem Needs.answer_iff {x : Call σ ε β} {b : β} (h : Needs x s c E R)
    (hR : ∀ b' s', R b' s' → b' = b) : (x s).1 = .ok b ↔ c := by
  unfold Needs Post at h
  rcases hx : x s with ⟨e | b', s'⟩ <;> rw [hx] at h
  · exact iff_of_false (by simp) h.1
  · exact iff_of_true (congrArg Except.ok (hR b' s' h.2)) h.1

theorem needs_pure {b : β} (h : R b s) : Needs (pure b : Call σ ε β) s True E R := ⟨trivial, h⟩

theorem needs_pure_bind {a : α} {f : α → Call σ ε β} (hf : Needs (f a) s c E R) :
    Needs (pure a >>= f) s c E R := hf

theorem needs_bind {V : α → σ → Prop} {x : Call σ ε α} {f : α → Call σ ε β}
    (hx : Needs x s d E V) (hf : d → ∀ a s', V a s' → Needs (f a) s' c E R) :
    Needs (x >>= f) s (d ∧ c) E R := by
  refine post_bind hx (fun e s' ⟨hd, hE⟩ => ⟨fun h => hd h.1, hE⟩) fun a s' ⟨hd, hV⟩ => ?_
  refine (hf hd a s' hV).mono fun o s'' ho => ?_
  cases o with
  | error e => exact ⟨fun h => ho.1 h.2, ho.2⟩
  | ok b => exact ⟨⟨hd, ho.1⟩, ho.2⟩

theorem needs_get {f : σ → Call σ ε β} (hf : Needs (f s) s c E R) : Needs (get >>= f) s c E R := hf

theorem needs_modify {g : σ → σ} {f : PUnit → Call σ ε β} (hf : Needs (f ⟨⟩) (g s) c E R) :
    Needs (modify g >>= f) s c E R := hf

theorem needs_ensure [Decidable d] {e : ε} {f : PUnit → Call σ ε β} (hE : E s)
    (hf : d → Needs (f ⟨⟩) s c E R) : Needs (ensure d e >>= f) s (d ∧ c) E R := by
  refine needs_bind (V := fun _ s' => s' = s) ?_ fun hd _ s' hs => hs ▸ hf hd
  by_cases h : d
  · rw [Needs, Post, ensure, if_pos h]
    exact ⟨h, rfl⟩
  · rw [Needs, Post, ensure, if_neg h]
    exact ⟨h, hE⟩

theorem needs_ensure_of [Decidable d] {e : ε} {f : PUnit → Call σ ε β} (hd : d)
    (hf : Needs (f ⟨⟩) s c E R) : Needs (ensure d e >>= f) s c E R := by
  rw [Needs, Post, ensure_bind hd]
  exact hf

theorem needs_query {g : σ → Except ε α} {a : α} {f : α → Call σ ε β} (hg : g s = .ok a)
    (hf : Needs (f a) s c E R) : Needs (query g >>= f) s c E R := by
  rw [Needs, Post, query_bind hg]
  exact hf

/-! ## What a call returns, and what it leaves when it raises -/

/-- Whenever `x`, started in `s`, returns, `V` accepts what it returns and leaves. -/
def Returns (x : Call σ ε α) (s : σ) (V : α → σ → Prop) : Prop :=
  ∀ a s', x s = (.ok a, s') → V a s'

/-- Whenever `x`, started in `s`, raises, it leaves `s`. -/
def Reverts (x : Call σ ε α) (s : σ) : Prop := ∀ e s', x s = (.error e, s') → s' = s

/-- `P` holds of what `x`, started in `s`, leaves, whether it returns or raises. -/
def Leaves (x : Call σ ε α) (s : σ) (P : σ → Prop) : Prop := P (x s).2

/-- Read a value that may be missing; raise `e` when it is. -/
def require (g : σ → Option α) (e : ε) : Call σ ε α := fun s =>
  match g s with
  | some a => (.ok a, s)
  | none => (.error e, s)

theorem require_bind {g : σ → Option α} {s : σ} {a : α} (h : g s = some a) (e : ε)
    (f : α → Call σ ε β) : (require g e >>= f) s = f a s :=
  bind_of_ok (show require g e s = (.ok a, s) by rw [require, h]) f

theorem post_require {g : σ → Option α} {e : ε} {f : α → Call σ ε β}
    (herror : g s = none → Q (.error e) s) (hok : ∀ a, g s = some a → Post (f a) s Q) :
    Post (require g e >>= f) s Q := by
  cases h : g s with
  | none =>
    rw [Post, bind_of_error (show require g e s = (.error e, s) by rw [require, h])]
    exact herror h
  | some a =>
    rw [Post, require_bind h]
    exact hok a h

/-- Run `x`; when it raises, raise what `f` makes of its error. -/
def mapError (f : ε → ε) (x : Call σ ε α) : Call σ ε α := fun s =>
  match x s with
  | (.ok a, s') => (.ok a, s')
  | (.error e, s') => (.error (f e), s')

theorem bind_congr {x : Call σ ε α} {f g : α → Call σ ε β}
    (h : Returns x s fun a s' => f a s' = g a s') : (x >>= f) s = (x >>= g) s := by
  rcases hx : x s with ⟨e | a, s'⟩
  · rw [bind_of_error hx, bind_of_error hx]
  · rw [bind_of_ok hx, bind_of_ok hx]
    exact h a s' hx

section Rules

variable {V : β → σ → Prop}

@[simp] theorem returns_pure {b : β} : Returns (pure b : Call σ ε β) s V ↔ V b s := by
  constructor
  · intro h
    exact h b s rfl
  · rintro h b' s' ⟨⟩
    exact h

@[simp] theorem returns_raise {e : ε} : Returns (raise e : Call σ ε β) s V := by
  rintro b s' ⟨⟩

@[simp] theorem returns_bind {x : Call σ ε α} {f : α → Call σ ε β} :
    Returns (x >>= f) s V ↔ Returns x s fun a s' => Returns (f a) s' V := by
  constructor
  · intro h a s' hx b s'' hf
    exact h b s'' (by rw [bind_of_ok hx, hf])
  · intro h b s'' hbind
    rcases hx : x s with ⟨e | a, s'⟩
    · rw [bind_of_error hx] at hbind
      cases hbind
    · rw [bind_of_ok hx] at hbind
      exact h a s' hx b s'' hbind

@[simp] theorem returns_map {x : Call σ ε α} {f : α → β} :
    Returns (f <$> x) s V ↔ Returns x s fun a s' => V (f a) s' := by
  change Returns (x >>= fun a => pure (f a)) s V ↔ _
  simp only [returns_bind, returns_pure]

@[simp] theorem returns_query {g : σ → Except ε β} :
    Returns (query g) s V ↔ ∀ b, g s = .ok b → V b s := by
  simp only [Returns, query, Prod.mk.injEq]
  constructor
  · intro h b hb
    exact h b s ⟨hb, rfl⟩
  · rintro h b s' ⟨hb, rfl⟩
    exact h b hb

@[simp] theorem returns_get {V : σ → σ → Prop} : Returns (get : Call σ ε σ) s V ↔ V s s := by
  constructor
  · intro h
    exact h s s rfl
  · rintro h b s' ⟨⟩
    exact h

@[simp] theorem returns_ensure {c : Prop} [Decidable c] {e : ε} {V : PUnit → σ → Prop} :
    Returns (ensure c e : Call σ ε PUnit) s V ↔ (c → V ⟨⟩ s) := by
  by_cases h : c
  · simp only [Returns, h, true_implies]
    constructor
    · intro hv
      exact hv _ _ rfl
    · rintro hv a s' ⟨⟩
      exact hv
  · simp only [Returns, h, false_implies, iff_true]
    rintro a s' ⟨⟩

@[simp] theorem returns_require {g : σ → Option β} {e : ε} :
    Returns (require g e) s V ↔ ∀ b, g s = some b → V b s := by
  cases h : g s with
  | none => simp [Returns, require, h]
  | some b => simp [Returns, require, h]

@[simp] theorem returns_modify {g : σ → σ} {V : PUnit → σ → Prop} :
    Returns (modify g : Call σ ε PUnit) s V ↔ V ⟨⟩ (g s) := by
  constructor
  · intro h
    exact h _ _ rfl
  · rintro h b s' ⟨⟩
    exact h

@[simp] theorem returns_atomically {x : Call σ ε β} :
    Returns (atomically x) s V ↔ Returns x s V := by
  unfold Returns
  rcases hx : x s with ⟨e | b, s'⟩ <;> simp [atomically, hx]

@[simp] theorem returns_mapError {f : ε → ε} {x : Call σ ε β} :
    Returns (mapError f x) s V ↔ Returns x s V := by
  unfold Returns
  rcases hx : x s with ⟨e | b, s'⟩ <;> simp [mapError, hx]

@[simp] theorem returns_ite {c : Prop} [Decidable c] {x y : Call σ ε β} :
    Returns (if c then x else y) s V ↔ (c → Returns x s V) ∧ (¬c → Returns y s V) := by
  by_cases h : c <;> simp [h]

theorem Returns.mono {W : β → σ → Prop} {x : Call σ ε β} (h : Returns x s V)
    (hVW : ∀ b s', V b s' → W b s') : Returns x s W :=
  fun b s' hx => hVW b s' (h b s' hx)

theorem Returns.of_map {α β : Type u} {W : α → σ → Prop} {x : Call σ ε α} {f : α → β}
    (h : Returns x s W) {b : β} (hb : ((f <$> x) s).1 = .ok b) :
    ∃ a, b = f a ∧ W a ((f <$> x) s).2 := by
  rw [map_apply] at hb ⊢
  rcases hx : x s with ⟨e | a, s'⟩
  · rw [hx] at hb
    cases hb
  · rw [hx] at hb
    exact ⟨a, (Except.ok.inj hb).symm, h a s' hx⟩

theorem Returns.leaves {P : σ → Prop} {x : Call σ ε β} (h : Returns x s fun _ => P)
    (hreverts : Reverts x s) (hs : P s) : Leaves x s P := by
  unfold Leaves
  rcases hx : x s with ⟨e | b, s'⟩
  · rw [hreverts e s' hx]
    exact hs
  · exact h b s' hx

theorem leaves_bind {P : σ → Prop} {x : Call σ ε α} {f : α → Call σ ε β} (hx : Leaves x s P)
    (hf : ∀ a s', P s' → Leaves (f a) s' P) : Leaves (x >>= f) s P := by
  unfold Leaves at hx ⊢
  rcases h : x s with ⟨e | a, s'⟩ <;> rw [h] at hx
  · rw [bind_of_error h]
    exact hx
  · rw [bind_of_ok h]
    exact hf a s' hx

theorem Returns.leaves_bind {P : σ → Prop} {V : α → σ → Prop} {x : Call σ ε α} {f : α → Call σ ε β}
    (hx : Returns x s V) (hreverts : Reverts x s) (hs : P s)
    (hf : ∀ a s', V a s' → Leaves (f a) s' P) : Leaves (x >>= f) s P := by
  unfold Leaves
  rcases h : x s with ⟨e | a, s'⟩
  · rw [bind_of_error h, hreverts e s' h]
    exact hs
  · rw [bind_of_ok h]
    exact hf a s' (hx a s' h)

theorem leaves_ensure {P : σ → Prop} {c : Prop} [Decidable c] {e : ε} (hs : P s) :
    Leaves (ensure c e) s P := by
  unfold Leaves ensure
  split <;> exact hs

theorem leaves_require {P : σ → Prop} {g : σ → Option β} {e : ε} (hs : P s) :
    Leaves (require g e) s P := by
  unfold Leaves require
  split <;> exact hs

theorem leaves_atomically {P : σ → Prop} {x : Call σ ε β} (h : Returns x s fun _ => P) (hs : P s) :
    Leaves (atomically x) s P := by
  unfold Leaves atomically
  split
  · next b s' hx => exact h b s' hx
  · exact hs

@[simp] theorem reverts_pure {b : β} : Reverts (pure b : Call σ ε β) s := by
  rintro e s' ⟨⟩

@[simp] theorem reverts_ensure_bind {c : Prop} [Decidable c] {e : ε} {f : PUnit → Call σ ε β} :
    Reverts (ensure c e >>= f) s ↔ (c → Reverts (f ⟨⟩) s) := by
  by_cases h : c
  · simp only [Reverts, ensure_bind h, h, true_implies]
  · have hraises : (ensure c e : Call σ ε PUnit) s = (.error e, s) := if_neg h
    simp only [Reverts, bind_of_error hraises, h, false_implies, iff_true]
    rintro e' s' ⟨⟩
    rfl

@[simp] theorem reverts_query_bind {g : σ → Except ε α} {f : α → Call σ ε β} :
    Reverts (query g >>= f) s ↔ ∀ a, g s = .ok a → Reverts (f a) s := by
  cases h : g s with
  | error e =>
    have hraises : query g s = (.error e, s) := by rw [query, h]
    simp only [Reverts, bind_of_error hraises, reduceCtorEq, false_implies, implies_true, iff_true]
    rintro e' s' ⟨⟩
    rfl
  | ok a =>
    have hreturns : query g s = (.ok a, s) := by rw [query, h]
    simp only [Reverts, bind_of_ok hreturns, Except.ok.injEq, forall_eq']

@[simp] theorem reverts_require_bind {g : σ → Option α} {e : ε} {f : α → Call σ ε β} :
    Reverts (require g e >>= f) s ↔ ∀ a, g s = some a → Reverts (f a) s := by
  cases h : g s with
  | none =>
    have hraises : require g e s = (.error e, s) := by rw [require, h]
    simp only [Reverts, bind_of_error hraises, reduceCtorEq, false_implies, implies_true, iff_true]
    rintro e' s' ⟨⟩
    rfl
  | some a =>
    have hreturns : require g e s = (.ok a, s) := by rw [require, h]
    simp only [Reverts, bind_of_ok hreturns, Option.some.injEq, forall_eq']

@[simp] theorem reverts_pure_bind {a : α} {f : α → Call σ ε β} :
    Reverts (pure a >>= f) s ↔ Reverts (f a) s := Iff.rfl

@[simp] theorem reverts_map {x : Call σ ε α} {f : α → β} :
    Reverts (f <$> x) s ↔ Reverts x s := by
  change Reverts (x >>= fun a => pure (f a)) s ↔ Reverts x s
  rcases hx : x s with ⟨e | a, s'⟩
  · simp only [Reverts, bind_of_error hx, hx]
    constructor <;> rintro h e' s'' ⟨⟩ <;> exact h _ _ rfl
  · simp only [Reverts, bind_of_ok hx, hx]
    exact iff_of_true (by rintro e' s'' ⟨⟩) (by rintro e' s'' ⟨⟩)

@[simp] theorem reverts_atomically {x : Call σ ε β} : Reverts (atomically x) s := by
  unfold Reverts
  rcases hx : x s with ⟨e | b, s'⟩
  · simp only [atomically, hx]
    rintro e' s'' ⟨⟩
    rfl
  · simp only [atomically, hx]
    rintro e' s'' ⟨⟩

end Rules

end Call

end Lib
