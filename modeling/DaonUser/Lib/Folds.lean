import DaonUser.Lib.Call

/-!
# Loops that may raise

Rules for `foldlM` in `Except`: what each round keeps holds at the end (`foldlM_keeps`), and a loop whose
rounds all succeed succeeds (`foldlM_runs`). For a loop over `List.range` the fact may speak of the number of
rounds, and `mapM` is a relation of its lists (`mapM_eq_ok`).
-/

namespace Lib

variable {ε α σ : Type} {f : σ → α → Except ε σ} {P : List α → σ → Prop}

theorem foldlM_keeps_append (hstep : ∀ done a s s', P done s → f s a = .ok s' → P (done ++ [a]) s')
    {done xs : List α} {s s' : σ} (hs : P done s) (h : xs.foldlM f s = .ok s') : P (done ++ xs) s' := by
  induction xs generalizing done s with
  | nil =>
    cases h
    rwa [List.append_nil]
  | cons a xs ih =>
    rw [List.foldlM_cons] at h
    obtain ⟨s₁, ha, hrest⟩ := Call.bind_eq_ok.1 h
    have hdone := ih (hstep done a s s₁ hs ha) hrest
    rwa [List.append_assoc] at hdone

theorem foldlM_keeps (hstep : ∀ done a s s', P done s → f s a = .ok s' → P (done ++ [a]) s')
    {xs : List α} {s s' : σ} (hs : P [] s) (h : xs.foldlM f s = .ok s') : P xs s' :=
  foldlM_keeps_append hstep hs h

theorem foldlM_runs {xs : List α} (hstep : ∀ done a rest s, xs = done ++ a :: rest → P done s →
      ∃ s', f s a = .ok s' ∧ P (done ++ [a]) s') {s : σ} (hs : P [] s) :
    ∃ s', xs.foldlM f s = .ok s' ∧ P xs s' := by
  have hrest : ∀ rest done s, xs = done ++ rest → P done s → ∃ s', rest.foldlM f s = .ok s' ∧ P xs s' := by
    intro rest
    induction rest with
    | nil =>
      rintro done s heq hdone
      rw [List.append_nil] at heq
      exact ⟨s, rfl, heq ▸ hdone⟩
    | cons a rest ih =>
      rintro done s heq hdone
      obtain ⟨s₁, ha, hs₁⟩ := hstep done a rest s heq hdone
      obtain ⟨s', hrest, hs'⟩ := ih (done ++ [a]) s₁ (by rw [heq, List.append_assoc]; rfl) hs₁
      refine ⟨s', ?_, hs'⟩
      rw [List.foldlM_cons]
      exact Call.bind_eq_ok.2 ⟨s₁, ha, hrest⟩
  exact hrest xs [] s rfl hs

theorem foldlM_forall₂ {β : Type} {g : σ → β → Except ε σ} {R : α → β → Prop}
    (hstep : ∀ a b s s', R a b → f s a = .ok s' → g s b = .ok s') {xs : List α} {ys : List β}
    (hR : List.Forall₂ R xs ys) {s s' : σ} (h : xs.foldlM f s = .ok s') : ys.foldlM g s = .ok s' := by
  induction hR generalizing s with
  | nil => exact h
  | cons hab _ ih =>
    rw [List.foldlM_cons] at h ⊢
    obtain ⟨s₁, ha, hrest⟩ := Call.bind_eq_ok.1 h
    exact Call.bind_eq_ok.2 ⟨s₁, hstep _ _ _ _ hab ha, ih hrest⟩

theorem mapM_eq_ok {β : Type} {g : α → Except ε β} {xs : List α} {ys : List β} :
    xs.mapM g = .ok ys ↔ List.Forall₂ (fun x y => g x = .ok y) xs ys := by
  induction xs generalizing ys with
  | nil =>
    rw [List.mapM_nil]
    cases ys with
    | nil => exact iff_of_true rfl .nil
    | cons y ys => exact iff_of_false (by simp [pure, Except.pure]) fun h => by cases h
  | cons x xs ih =>
    rw [List.mapM_cons, Call.bind_eq_ok]
    simp only [Call.bind_eq_ok, pure, Except.pure, Except.ok.injEq]
    constructor
    · rintro ⟨y, hy, rest, hrest, rfl⟩
      exact .cons hy (ih.1 hrest)
    · intro h
      cases h with
      | cons hy hrest => exact ⟨_, hy, _, ih.2 hrest, rfl⟩

section Range

variable {g : σ → Nat → Except ε σ} {Q : Nat → σ → Prop} {n : Nat} {s s' : σ}

theorem foldlM_range_succ : (List.range (n + 1)).foldlM g s = .ok s' ↔
    ∃ t, (List.range n).foldlM g s = .ok t ∧ g t n = .ok s' := by
  rw [List.range_succ, List.foldlM_append]
  have hlast : ∀ t, [n].foldlM g t = g t n := fun t => by
    rw [List.foldlM_cons]
    cases g t n <;> rfl
  simp only [hlast, Call.bind_eq_ok]

theorem foldlM_range_keeps (hstep : ∀ i s s', i < n → Q i s → g s i = .ok s' → Q (i + 1) s')
    (hs : Q 0 s) (h : (List.range n).foldlM g s = .ok s') : Q n s' := by
  induction n generalizing s' with
  | zero =>
    cases h
    exact hs
  | succ n ih =>
    obtain ⟨t, ht, hlast⟩ := foldlM_range_succ.1 h
    have hn := ih (fun i s s' hi => hstep i s s' (Nat.lt_succ_of_lt hi)) ht
    exact hstep n t s' (Nat.lt_succ_self n) hn hlast

theorem foldlM_range_runs (hstep : ∀ i s, i < n → Q i s → ∃ s', g s i = .ok s' ∧ Q (i + 1) s')
    (hs : Q 0 s) : ∃ s', (List.range n).foldlM g s = .ok s' ∧ Q n s' := by
  induction n with
  | zero => exact ⟨s, rfl, hs⟩
  | succ n ih =>
    obtain ⟨t, ht, hn⟩ := ih fun i s hi => hstep i s (Nat.lt_succ_of_lt hi)
    obtain ⟨s', hlast, hs'⟩ := hstep n t (Nat.lt_succ_self n) hn
    exact ⟨s', foldlM_range_succ.2 ⟨t, ht, hlast⟩, hs'⟩

end Range

end Lib
