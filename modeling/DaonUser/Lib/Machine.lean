import Mathlib.Data.List.Basic
import Mathlib.Data.List.Infix
import Mathlib.Logic.Function.Basic

/-!
# State machines and the laws of their runs

A machine answers every input with an output and a next state. Nondeterminism (clock readings, answers of a
port, random draws, rows another transaction has locked) is part of the input, so a statement about every
input list is a statement about every behaviour of the environment.

`run_induction`, `run_induction_of` and `history_induction` are the invariant rules: for every run, for the
runs whose steps meet a condition (`Machine.AllSteps`), and for invariants that read the past.
-/

namespace Lib

universe u v w

/-- A machine with states `σ`, inputs `ι` and outputs `ο`. -/
structure Machine (σ : Type u) (ι : Type v) (ο : Type w) where
  init : σ
  step : σ → ι → ο × σ

/-- One step of a run: the state before it, its input, its output and the state after it. -/
structure Event (σ : Type u) (ι : Type v) (ο : Type w) where
  pre : σ
  input : ι
  output : ο
  post : σ

namespace Machine

variable {σ : Type u} {ι : Type v} {ο : Type w} (m : Machine σ ι ο)

def next (s : σ) (i : ι) : σ := (m.step s i).2

def answer (s : σ) (i : ι) : ο := (m.step s i).1

/-- The step of input `i` from `s`. -/
def event (s : σ) (i : ι) : Event σ ι ο := ⟨s, i, m.answer s i, m.next s i⟩

/-- The state that the inputs lead to from `s`. -/
def runFrom (s : σ) : List ι → σ
  | [] => s
  | i :: is => runFrom (m.next s i) is

def run (is : List ι) : σ := m.runFrom m.init is

/-- The steps of a run from `s`, in order. -/
def eventsFrom (s : σ) : List ι → List (Event σ ι ο)
  | [] => []
  | i :: is => m.event s i :: eventsFrom (m.next s i) is

def events (is : List ι) : List (Event σ ι ο) := m.eventsFrom m.init is

/-- A state that some inputs lead to. -/
def Reachable (s : σ) : Prop := ∃ is, m.run is = s

/-- Every step of the run from `s` meets `C`. -/
def AllSteps (C : σ → ι → Prop) (s : σ) : List ι → Prop
  | [] => True
  | i :: is => C s i ∧ AllSteps C (m.next s i) is

/-- Every state of the run from `s` meets `Q`. -/
def AllStates (Q : σ → Prop) (s : σ) : List ι → Prop
  | [] => Q s
  | i :: is => Q s ∧ AllStates Q (m.next s i) is

@[simp] theorem runFrom_nil (s : σ) : m.runFrom s [] = s := rfl

@[simp] theorem runFrom_cons (s : σ) (i : ι) (is : List ι) :
    m.runFrom s (i :: is) = m.runFrom (m.next s i) is := rfl

@[simp] theorem run_nil : m.run [] = m.init := rfl

theorem runFrom_append (s : σ) (is js : List ι) :
    m.runFrom s (is ++ js) = m.runFrom (m.runFrom s is) js := by
  induction is generalizing s with
  | nil => rfl
  | cons i is ih => exact ih (m.next s i)

theorem run_append (is js : List ι) : m.run (is ++ js) = m.runFrom (m.run is) js :=
  m.runFrom_append m.init is js

theorem run_concat (is : List ι) (i : ι) : m.run (is ++ [i]) = m.next (m.run is) i :=
  m.run_append is [i]

theorem reachable_init : m.Reachable m.init := ⟨[], rfl⟩

theorem Reachable.next {m : Machine σ ι ο} {s : σ} (h : m.Reachable s) (i : ι) :
    m.Reachable (m.next s i) := by
  obtain ⟨is, rfl⟩ := h
  exact ⟨is ++ [i], m.run_concat is i⟩

theorem eventsFrom_append (s : σ) (is js : List ι) :
    m.eventsFrom s (is ++ js) = m.eventsFrom s is ++ m.eventsFrom (m.runFrom s is) js := by
  induction is generalizing s with
  | nil => rfl
  | cons i is ih => simp only [List.cons_append, eventsFrom, ih, runFrom_cons]

theorem events_concat (is : List ι) (i : ι) :
    m.events (is ++ [i]) = m.events is ++ [m.event (m.run is) i] :=
  m.eventsFrom_append m.init is [i]

/-! ## Invariant rules -/

theorem runFrom_induction {I : σ → Prop} (hs : ∀ s i, I s → I (m.next s i)) :
    ∀ {s : σ}, I s → ∀ is, I (m.runFrom s is)
  | _, h, [] => h
  | s, h, i :: is => runFrom_induction hs (hs s i h) is

theorem run_induction {I : σ → Prop} (h0 : I m.init) (hs : ∀ s i, I s → I (m.next s i))
    (is : List ι) : I (m.run is) :=
  m.runFrom_induction hs h0 is

theorem Reachable.induction {m : Machine σ ι ο} {I : σ → Prop} {s : σ} (h : m.Reachable s)
    (h0 : I m.init) (hs : ∀ s i, I s → I (m.next s i)) : I s := by
  obtain ⟨is, rfl⟩ := h
  exact m.run_induction h0 hs is

theorem runFrom_induction_of {C : σ → ι → Prop} {I : σ → Prop}
    (hs : ∀ s i, I s → C s i → I (m.next s i)) {s : σ} {is : List ι} (h : I s)
    (hc : m.AllSteps C s is) : I (m.runFrom s is) := by
  induction is generalizing s with
  | nil => exact h
  | cons i is ih => exact ih (hs s i h hc.1) hc.2

theorem run_induction_of {C : σ → ι → Prop} {I : σ → Prop} (h0 : I m.init)
    (hs : ∀ s i, I s → C s i → I (m.next s i)) {is : List ι} (hc : m.AllSteps C m.init is) :
    I (m.run is) :=
  m.runFrom_induction_of hs h0 hc

theorem history_induction_of {C : σ → ι → Prop} {J : List (Event σ ι ο) → σ → Prop}
    (h0 : J [] m.init)
    (hs : ∀ h s i, J h s → C s i → J (h ++ [m.event s i]) (m.next s i)) :
    ∀ is, m.AllSteps C m.init is → J (m.events is) (m.run is) := by
  have key : ∀ (is : List ι) (s : σ) (h : List (Event σ ι ο)), J h s → m.AllSteps C s is →
      J (h ++ m.eventsFrom s is) (m.runFrom s is) := by
    intro is
    induction is with
    | nil => intro s h hj _; simpa [eventsFrom] using hj
    | cons i is ih =>
      intro s h hj hc
      have := ih (m.next s i) (h ++ [m.event s i]) (hs h s i hj hc.1) hc.2
      simpa [eventsFrom] using this
  intro is hc
  exact key is m.init [] h0 hc

theorem allSteps_true (s : σ) (is : List ι) : m.AllSteps (fun _ _ => True) s is := by
  induction is generalizing s with
  | nil => trivial
  | cons i is ih => exact ⟨trivial, ih _⟩

theorem history_induction {J : List (Event σ ι ο) → σ → Prop} (h0 : J [] m.init)
    (hs : ∀ h s i, J h s → J (h ++ [m.event s i]) (m.next s i)) (is : List ι) :
    J (m.events is) (m.run is) :=
  m.history_induction_of (C := fun _ _ => True) h0 (fun h s i hj _ => hs h s i hj) is
    (m.allSteps_true _ _)

/-! ## Steps and states of a run -/

theorem allSteps_append {C : σ → ι → Prop} (s : σ) (is js : List ι) :
    m.AllSteps C s (is ++ js) ↔ m.AllSteps C s is ∧ m.AllSteps C (m.runFrom s is) js := by
  induction is generalizing s with
  | nil => simp [AllSteps]
  | cons i is ih => simp [AllSteps, ih, and_assoc]

theorem allSteps_iff {C : σ → ι → Prop} {s : σ} {is : List ι} :
    m.AllSteps C s is ↔ ∀ pre i post, is = pre ++ i :: post → C (m.runFrom s pre) i := by
  constructor
  · rintro h pre i post rfl
    exact ((m.allSteps_append s pre (i :: post)).1 h).2.1
  · induction is generalizing s with
    | nil => exact fun _ => trivial
    | cons i is ih =>
      intro h
      refine ⟨h [] i is rfl, ih fun pre j post hsplit => ?_⟩
      exact h (i :: pre) j post (by rw [hsplit, List.cons_append])

theorem AllSteps.mono {m : Machine σ ι ο} {C D : σ → ι → Prop} (hCD : ∀ s i, C s i → D s i) :
    ∀ {s : σ} {is : List ι}, m.AllSteps C s is → m.AllSteps D s is
  | _, [], _ => trivial
  | s, i :: _, h => ⟨hCD s i h.1, AllSteps.mono hCD h.2⟩

theorem allStates_of {C : σ → ι → Prop} {Q : σ → Prop}
    (hs : ∀ s i, Q s → C s i → Q (m.next s i)) :
    ∀ {s : σ} {is : List ι}, Q s → m.AllSteps C s is → m.AllStates Q s is
  | _, [], h, _ => h
  | s, i :: _, h, hc => ⟨h, allStates_of hs (hs s i h hc.1) hc.2⟩

theorem AllStates.head {m : Machine σ ι ο} {Q : σ → Prop} {s : σ} :
    ∀ {is : List ι}, m.AllStates Q s is → Q s
  | [], h => h
  | _ :: _, h => h.1

theorem AllStates.last {m : Machine σ ι ο} {Q : σ → Prop} {s : σ} {is : List ι}
    (h : m.AllStates Q s is) : Q (m.runFrom s is) := by
  induction is generalizing s with
  | nil => exact h
  | cons i is ih => exact ih h.2

theorem allStates_iff_allSteps {C : σ → ι → Prop} {I Q : σ → Prop}
    (hI : ∀ s i, I s → I (m.next s i))
    (hQ : ∀ s i, I s → Q s → (Q (m.next s i) ↔ C s i)) :
    ∀ {s : σ} {is : List ι}, I s → Q s → (m.AllStates Q s is ↔ m.AllSteps C s is)
  | s, [], _, hq => ⟨fun _ => trivial, fun _ => hq⟩
  | s, i :: is, h, hq => by
    have hnext : Q (m.next s i) → (m.AllStates Q (m.next s i) is ↔ m.AllSteps C (m.next s i) is) :=
      allStates_iff_allSteps hI hQ (hI s i h)
    constructor
    · intro hs
      have hq' : Q (m.next s i) := hs.2.head
      exact ⟨(hQ s i h hq).1 hq', (hnext hq').1 hs.2⟩
    · intro hs
      have hq' := (hQ s i h hq).2 hs.1
      exact ⟨hq, (hnext hq').2 hs.2⟩

/-- Where a property of the inputs so far survives a step exactly when the step meets `C`, it holds
of every prefix exactly when every step meets `C`. -/
theorem prefixes_iff_allSteps {C : σ → ι → Prop} {P : List ι → Prop} (h0 : P [])
    (hs : ∀ is i, P is → (P (is ++ [i]) ↔ C (m.run is) i)) (is : List ι) :
    (∀ pre, pre <+: is → P pre) ↔ m.AllSteps C m.init is := by
  induction is using List.reverseRecOn with
  | nil =>
    refine ⟨fun _ => trivial, fun _ pre hpre => ?_⟩
    rw [List.prefix_nil.1 hpre]
    exact h0
  | append_singleton is i ih =>
    have hsplit : (∀ pre, pre <+: is ++ [i] → P pre) ↔
        (∀ pre, pre <+: is → P pre) ∧ P (is ++ [i]) := by
      constructor
      · intro h
        exact ⟨fun pre hpre => h pre (hpre.trans (List.prefix_append is [i])),
          h _ (List.prefix_refl _)⟩
      · rintro ⟨hinit, hlast⟩ pre hpre
        rcases List.prefix_concat_iff.1 hpre with rfl | hold
        · exact hlast
        · exact hinit pre hold
    rw [hsplit, m.allSteps_append, ih]
    change _ ↔ m.AllSteps C m.init is ∧ C (m.run is) i ∧ True
    rw [and_true]
    refine and_congr_right fun hsteps => hs is i ?_
    exact ih.2 hsteps is (List.prefix_refl _)

theorem AllStates.runFrom {m : Machine σ ι ο} {Q : σ → Prop} {s : σ} {post : List ι} :
    ∀ {pre : List ι}, m.AllStates Q s (pre ++ post) → Q (m.runFrom s pre) := by
  intro pre
  induction pre generalizing s with
  | nil => exact AllStates.head
  | cons i pre ih => exact fun h => ih h.2

theorem AllStates.mono {m : Machine σ ι ο} {P Q : σ → Prop} (hPQ : ∀ s, P s → Q s) :
    ∀ {s : σ} {is : List ι}, m.AllStates P s is → m.AllStates Q s is
  | s, [], h => hPQ s h
  | s, _ :: _, h => ⟨hPQ s h.1, AllStates.mono hPQ h.2⟩

theorem allSteps_of {C D : σ → ι → Prop} {Q : σ → Prop}
    (hs : ∀ s i, Q s → C s i → Q (m.next s i)) (hd : ∀ s i, Q s → C s i → D s i) :
    ∀ {s : σ} {is : List ι}, Q s → m.AllSteps C s is → m.AllSteps D s is
  | _, [], _, _ => trivial
  | s, i :: _, h, hc => ⟨hd s i h hc.1, allSteps_of hs hd (hs s i h hc.1) hc.2⟩

theorem mem_events {is : List ι} {e : Event σ ι ο} (h : e ∈ m.events is) :
    ∃ s i, m.Reachable s ∧ i ∈ is ∧ e = m.event s i := by
  induction is using List.reverseRecOn with
  | nil => simp [events, eventsFrom] at h
  | append_singleton is i ih =>
    rw [events_concat] at h
    rcases List.mem_append.1 h with h | h
    · obtain ⟨s, j, hs, hj, rfl⟩ := ih h
      exact ⟨s, j, hs, List.mem_append_left _ hj, rfl⟩
    · rw [List.mem_singleton] at h
      exact ⟨m.run is, i, ⟨is, rfl⟩, List.mem_append_right _ (List.mem_singleton_self i), h⟩

/-- Where every step leads to a state that comes after the one before it, every state of a run comes
after every state before it. -/
theorem related_runFrom {R : σ → σ → Prop} (hrefl : ∀ s, R s s)
    (htrans : ∀ {s t u}, R s t → R t u → R s u) {I : σ → Prop} (hI : ∀ s i, I s → I (m.next s i))
    (hstep : ∀ s i, I s → R s (m.next s i)) {s : σ} (hs : I s) (is : List ι) :
    R s (m.runFrom s is) := by
  induction is generalizing s with
  | nil => exact hrefl s
  | cons i is ih => exact htrans (hstep s i hs) (ih (hI s i hs))

theorem related_run {R : σ → σ → Prop} (hrefl : ∀ s, R s s)
    (htrans : ∀ {s t u}, R s t → R t u → R s u) {I : σ → Prop} (h0 : I m.init)
    (hI : ∀ s i, I s → I (m.next s i)) (hstep : ∀ s i, I s → R s (m.next s i)) {is js ks : List ι}
    (hjs : js <+: is) (hks : ks <+: is) :
    R (m.run js) (m.run ks) ∨ R (m.run ks) (m.run js) := by
  have hforward : ∀ {as bs : List ι}, as <+: bs → R (m.run as) (m.run bs) := by
    rintro as bs ⟨cs, rfl⟩
    rw [run_append]
    exact m.related_runFrom hrefl htrans hI hstep (m.run_induction h0 hI as) cs
  rcases List.prefix_or_prefix_of_prefix hjs hks with h | h
  · exact Or.inl (hforward h)
  · exact Or.inr (hforward h)

/-- Where every event leaves something behind that later steps keep, and a step that finds it agrees
with the event that left it, every event of a run agrees with every later one. -/
theorem events_pairwise {I : σ → Prop} {Left : Event σ ι ο → σ → Prop}
    {R : Event σ ι ο → Event σ ι ο → Prop} (h0 : I m.init) (hI : ∀ s i, I s → I (m.next s i))
    (hleft : ∀ s i, I s → Left (m.event s i) (m.next s i))
    (hkept : ∀ e s i, I s → Left e s → Left e (m.next s i))
    (hR : ∀ e s i, I s → Left e s → R e (m.event s i)) (is : List ι) :
    (m.events is).Pairwise R := by
  have key : I (m.run is) ∧ (∀ e ∈ m.events is, Left e (m.run is)) ∧ (m.events is).Pairwise R := by
    refine m.history_induction (J := fun h s => I s ∧ (∀ e ∈ h, Left e s) ∧ h.Pairwise R)
      ⟨h0, by simp, List.Pairwise.nil⟩ ?_ is
    rintro h s i ⟨hs, hlefts, hpairs⟩
    refine ⟨hI s i hs, fun e he => ?_, ?_⟩
    · rcases List.mem_append.1 he with hold | hnew
      · exact hkept e s i hs (hlefts e hold)
      · rw [List.mem_singleton.1 hnew]
        exact hleft s i hs
    · refine List.pairwise_append.2 ⟨hpairs, List.pairwise_singleton .., fun e he e' he' => ?_⟩
      rw [List.mem_singleton.1 he']
      exact hR e s i hs (hlefts e he)
  exact key.2.2

/-! ## Machines side by side -/

def sharded {κ : Type*} [DecidableEq κ] (key : ι → κ) (shards : κ → Machine σ ι ο) :
    Machine (κ → σ) ι ο where
  init k := (shards k).init
  step s i := ((shards (key i)).answer (s (key i)) i,
    Function.update s (key i) ((shards (key i)).next (s (key i)) i))

end Machine

end Lib
