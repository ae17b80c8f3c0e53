import DaonUser.Lib.Call
import DaonUser.Lib.Machine

/-!
# Two calls in lockstep

`Call.Lockstep R V x y` says that two calls, started in states related by `R`, end in states related by `R`,
both with the same error or with values related by `V`. There is one rule for each statement.
`Machine.outputsFrom_eq` carries it to machines: related states give the same answers for ever.
-/

namespace Lib

universe u

namespace Call

variable {σ τ ε α β γ δ : Type u}

/-- The same error, or values related by `V`. -/
inductive Match (V : α → β → Prop) : Except ε α → Except ε β → Prop where
  | ok {a : α} {b : β} (h : V a b) : Match V (.ok a) (.ok b)
  | error (e : ε) : Match V (.error e) (.error e)

def Lockstep (R : σ → τ → Prop) (V : α → β → Prop) (x : Call σ ε α) (y : Call τ ε β) : Prop :=
  ∀ s t, R s t → Match V (x s).1 (y t).1 ∧ R (x s).2 (y t).2

variable {R : σ → τ → Prop} {V : α → β → Prop} {W : γ → δ → Prop}

theorem Match.eq {a b : Except ε α} (h : Match Eq a b) : a = b := by
  cases h with
  | ok h => rw [h]
  | error e => rfl

theorem Match.refl (o : Except ε α) : Match Eq o o := by
  cases o with
  | ok a => exact .ok rfl
  | error e => exact .error e

theorem lockstep_get {R : σ → σ → Prop} : Lockstep R R (get : Call σ ε σ) get :=
  fun _ _ hR => ⟨.ok hR, hR⟩

theorem lockstep_pure {a : α} {b : β} (h : V a b) :
    Lockstep R V (pure a : Call σ ε α) (pure b : Call τ ε β) :=
  fun _ _ hR => ⟨.ok h, hR⟩

theorem lockstep_raise {e : ε} : Lockstep R V (raise e : Call σ ε α) (raise e : Call τ ε β) :=
  fun _ _ hR => ⟨.error e, hR⟩

theorem lockstep_bind {x : Call σ ε α} {y : Call τ ε β} {f : α → Call σ ε γ} {g : β → Call τ ε δ}
    (hx : Lockstep R V x y) (hf : ∀ a b, V a b → Lockstep R W (f a) (g b)) :
    Lockstep R W (x >>= f) (y >>= g) := by
  intro s t hR
  obtain ⟨hmatch, hnext⟩ := hx s t hR
  rcases hxs : x s with ⟨o, s'⟩
  rcases hyt : y t with ⟨o', t'⟩
  rw [hxs, hyt] at hmatch hnext
  cases hmatch with
  | ok h =>
    rw [bind_of_ok hxs, bind_of_ok hyt]
    exact hf _ _ h s' t' hnext
  | error e =>
    rw [bind_of_error hxs, bind_of_error hyt]
    exact ⟨.error e, hnext⟩

theorem lockstep_query {g : σ → Except ε α} {g' : τ → Except ε β}
    (h : ∀ s t, R s t → Match V (g s) (g' t)) : Lockstep R V (query g) (query g') :=
  fun s t hR => ⟨h s t hR, hR⟩

theorem lockstep_modify {g : σ → σ} {g' : τ → τ} (h : ∀ s t, R s t → R (g s) (g' t)) :
    Lockstep R Eq (modify g : Call σ ε PUnit) (modify g' : Call τ ε PUnit) :=
  fun s t hR => ⟨.ok rfl, h s t hR⟩

theorem lockstep_ensure {c : Prop} [Decidable c] {e : ε} :
    Lockstep R Eq (ensure c e : Call σ ε PUnit) (ensure c e : Call τ ε PUnit) := by
  intro s t hR
  unfold ensure
  split
  · exact ⟨.ok rfl, hR⟩
  · exact ⟨.error e, hR⟩

theorem lockstep_ite {c : Prop} [Decidable c] {x x' : Call σ ε α} {y y' : Call τ ε β}
    (hpos : c → Lockstep R V x y) (hneg : ¬c → Lockstep R V x' y') :
    Lockstep R V (if c then x else x') (if c then y else y') := by
  split
  · next h => exact hpos h
  · next h => exact hneg h

theorem lockstep_map {x : Call σ ε α} {y : Call τ ε β} {f : α → γ} {g : β → δ}
    (hx : Lockstep R V x y) (hf : ∀ a b, V a b → W (f a) (g b)) :
    Lockstep R W (f <$> x) (g <$> y) :=
  lockstep_bind hx fun a b h => lockstep_pure (hf a b h)

end Call

namespace Machine

variable {σ τ ι ο : Type*}

/-- What a run from `s` answers. -/
def outputsFrom (m : Machine σ ι ο) (s : σ) (is : List ι) : List ο :=
  (m.eventsFrom s is).map (·.output)

theorem outputsFrom_eq {m : Machine σ ι ο} {m' : Machine τ ι ο} {R : σ → τ → Prop} {P : ι → Prop}
    (h : ∀ s t i, R s t → P i → m.answer s i = m'.answer t i ∧ R (m.next s i) (m'.next t i)) :
    ∀ {s t} {is : List ι}, R s t → (∀ i ∈ is, P i) → m.outputsFrom s is = m'.outputsFrom t is
  | _, _, [], _, _ => rfl
  | s, t, i :: is, hR, hP => by
    obtain ⟨hanswer, hnext⟩ := h s t i hR (hP i List.mem_cons_self)
    have ih := outputsFrom_eq h hnext fun j hj => hP j (List.mem_cons_of_mem _ hj)
    simp only [outputsFrom, eventsFrom, List.map_cons, event] at ih ⊢
    rw [hanswer, ih]

end Machine

end Lib
