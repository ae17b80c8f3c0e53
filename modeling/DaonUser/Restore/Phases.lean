import DaonUser.Restore.Materialize

/-!
# What the phase receipts say

The receipts of a request are those of the phases in their order (`stage_of_lawful`), whatever calls run
beside each other and wherever they fail. A process writes on the target in a phase only while it holds the
intent of the phase, which one process alone gets (`Kept`), so the writes of a phase are those of one
execution (`phases_kept`).
-/

namespace DaonUser.Restore

open Lib

variable {b : List PhaseReceipt} {r : PhaseReceipt} {phase : Nat} {op : Operation} {plan : RestorePlan}
  {w : Write}

/-! ## The receipts -/

def PhaseReceipt.step (r : PhaseReceipt) : Nat × PhaseOutcome := (r.phase, r.outcome)

/-- The receipts of the first `n` phases, when they have succeeded. -/
def succeededPhases (n : Nat) : List (Nat × PhaseOutcome) :=
  (List.range n).flatMap fun k => [(k + 1, .intent), (k + 1, .succeeded)]

theorem succeededPhases_succ (n : Nat) : succeededPhases (n + 1) =
    succeededPhases n ++ [(n + 1, .intent), (n + 1, .succeeded)] := by
  simp [succeededPhases, List.range_succ]

theorem succeededPhases_mono {m n : Nat} (h : m ≤ n) : succeededPhases m <+: succeededPhases n := by
  induction n with
  | zero =>
    obtain rfl := Nat.le_zero.1 h
    exact List.prefix_refl _
  | succ n ih =>
    rcases Nat.lt_or_eq_of_le h with hlt | rfl
    · rw [succeededPhases_succ]
      exact (ih (Nat.lt_succ_iff.1 hlt)).trans (List.prefix_append _ _)
    · exact List.prefix_refl _

@[simp] theorem mem_succeededPhases {n k : Nat} {o : PhaseOutcome} : (k, o) ∈ succeededPhases n ↔
    (1 ≤ k ∧ k ≤ n) ∧ (o = .intent ∨ o = .succeeded) := by
  simp only [succeededPhases, List.mem_flatMap, List.mem_range, List.mem_cons, Prod.mk.injEq,
    List.not_mem_nil, or_false]
  constructor
  · rintro ⟨j, hj, ⟨rfl, rfl⟩ | ⟨rfl, rfl⟩⟩
    · exact ⟨⟨by omega, by omega⟩, Or.inl rfl⟩
    · exact ⟨⟨by omega, by omega⟩, Or.inr rfl⟩
  · rintro ⟨⟨hone, hk⟩, ho⟩
    refine ⟨k - 1, by omega, ?_⟩
    rcases ho with rfl | rfl
    · exact Or.inl ⟨by omega, rfl⟩
    · exact Or.inr ⟨by omega, rfl⟩

/-- Receipts that were appended one after the other. -/
inductive Lawful : List PhaseReceipt → Prop where
  | nil : Lawful []
  | append {b : List PhaseReceipt} {r : PhaseReceipt} (h : Lawful b) (hr : Follows b r) :
    Lawful (b ++ [r])

theorem latest_append (h : Follows b r) :
    latest (b ++ [r]) = some r := by
  have hfollows := h.1
  unfold latest at hfollows ⊢
  rw [List.argmax_concat]
  cases hlatest : b.argmax (·.sequence) with
  | none => rfl
  | some previous =>
    simp only [hlatest] at hfollows
    have hsequence : previous.sequence < r.sequence := by rw [hfollows.1]; omega
    simp only [if_pos hsequence]

/-- How far the receipts have come. -/
inductive Stage (b : List PhaseReceipt) : Prop where
  | fresh (h : b = [])
  | opened (n : Nat) (hn : n < 7) (h : b.map PhaseReceipt.step = succeededPhases n ++ [(n + 1, .intent)])
      (last : PhaseReceipt) (hlast : latest b = some last) (hstep : last.step = (n + 1, .intent))
  | done (n : Nat) (hn : n < 7) (h : b.map PhaseReceipt.step = succeededPhases (n + 1))
      (last : PhaseReceipt) (hlast : latest b = some last) (hstep : last.step = (n + 1, .succeeded))
  | stopped (n : Nat) (hn : n < 7) (o : PhaseOutcome) (ho : o = .failed ∨ o = .uncertain)
      (h : b.map PhaseReceipt.step = succeededPhases n ++ [(n + 1, .intent), (n + 1, o)])
      (last : PhaseReceipt) (hlast : latest b = some last) (hstep : last.step = (n + 1, o))

theorem stage_of_lawful (h : Lawful b) : Stage b := by
  induction h with
  | nil => exact .fresh rfl
  | @append b r h hr ih =>
    have hlatest := latest_append hr
    obtain ⟨hfollows, hphase⟩ := hr
    cases ih with
    | fresh hb =>
      subst hb
      obtain ⟨-, hp, ho⟩ := hfollows
      have hstep : r.step = (1, .intent) := by rw [PhaseReceipt.step, hp, ho]
      exact .opened 0 (by omega) (by simp [succeededPhases, hstep]) r hlatest hstep
    | opened n hn hb last hlast hlaststep =>
      rw [hlast] at hfollows
      obtain ⟨hp, ho⟩ := Prod.mk.inj hlaststep
      obtain ⟨hsame, hs | hs | hs⟩ := Continues.closes hfollows ho
      · have hstep : r.step = (n + 1, .succeeded) := by rw [PhaseReceipt.step, hsame, hp, hs]
        refine .done n hn ?_ r hlatest hstep
        rw [List.map_append, hb, succeededPhases_succ]
        simp [hstep]
      · have hstep : r.step = (n + 1, .failed) := by rw [PhaseReceipt.step, hsame, hp, hs]
        refine .stopped n hn .failed (Or.inl rfl) ?_ r hlatest hstep
        rw [List.map_append, hb]
        simp [hstep]
      · have hstep : r.step = (n + 1, .uncertain) := by rw [PhaseReceipt.step, hsame, hp, hs]
        refine .stopped n hn .uncertain (Or.inr rfl) ?_ r hlatest hstep
        rw [List.map_append, hb]
        simp [hstep]
    | done n hn hb last hlast hlaststep =>
      rw [hlast] at hfollows
      obtain ⟨hp, ho⟩ := Prod.mk.inj hlaststep
      obtain ⟨hnext, hintent⟩ := Continues.opens hfollows ho
      have hstep : r.step = (n + 1 + 1, .intent) := by rw [PhaseReceipt.step, hnext, hp, hintent]
      refine .opened (n + 1) ?_ ?_ r hlatest hstep
      · rw [hnext, hp] at hphase
        omega
      · rw [List.map_append, hb]
        simp [hstep]
    | stopped n hn o ho hb last hlast hlaststep =>
      rw [hlast] at hfollows
      obtain ⟨-, -, hopen, -⟩ := hfollows
      obtain ⟨-, ho'⟩ := Prod.mk.inj hlaststep
      exact absurd (ho' ▸ ho) hopen

/-- The receipts are those of the phases up to some point, with at most one that ends them. -/
def IsPhasePrefix (b : List PhaseReceipt) : Prop :=
  ∃ done ending, b.map PhaseReceipt.step = done ++ ending ∧ done <+: succeededPhases 7 ∧
    (ending = [] ∨ ∃ k, done.getLast? = some (k, .intent) ∧
      (ending = [(k, .failed)] ∨ ending = [(k, .uncertain)]))

theorem opened_prefix {n : Nat} (hn : n < 7) :
    succeededPhases n ++ [(n + 1, PhaseOutcome.intent)] <+: succeededPhases 7 := by
  refine List.IsPrefix.trans ?_ (succeededPhases_mono hn)
  rw [succeededPhases_succ]
  exact ⟨[(n + 1, .succeeded)], by simp⟩

theorem Stage.isPhasePrefix (h : Stage b) : IsPhasePrefix b := by
  cases h with
  | fresh h => exact ⟨[], [], by rw [h]; rfl, List.nil_prefix, Or.inl rfl⟩
  | opened n hn h last hlast hstep =>
    exact ⟨_, [], by rw [h, List.append_nil], opened_prefix hn, Or.inl rfl⟩
  | done n hn h last hlast hstep =>
    exact ⟨_, [], by rw [h, List.append_nil], succeededPhases_mono hn, Or.inl rfl⟩
  | stopped n hn o ho h last hlast hstep =>
    refine ⟨_, [(n + 1, o)], by rw [h]; simp, opened_prefix hn, Or.inr ⟨n + 1, by simp, ?_⟩⟩
    rcases ho with rfl | rfl
    · exact Or.inl rfl
    · exact Or.inr rfl

/-- The first `n` phases have succeeded, with this plan. -/
def Reached (b : List PhaseReceipt) (n : Nat) (digest : String) : Prop :=
  ∀ k, 1 ≤ k → k ≤ n → ∃ r ∈ b, r.step = (k, .succeeded) ∧ r.targetDigest = digest

/-- The intent of a phase is recorded, with this plan. -/
def Opened (b : List PhaseReceipt) (phase : Nat) (digest : String) : Prop :=
  ∃ r ∈ b, r.step = (phase, .intent) ∧ r.targetDigest = digest

section Facts

variable {b : List PhaseReceipt} {r : PhaseReceipt} {k n : Nat} {digest : String}

theorem Reached.append (h : Reached b n digest) (r : PhaseReceipt) : Reached (b ++ [r]) n digest := by
  intro k hone hk
  obtain ⟨r', hr', hstep⟩ := h k hone hk
  exact ⟨r', List.mem_append_left _ hr', hstep⟩

theorem Opened.append (h : Opened b k digest) (r : PhaseReceipt) : Opened (b ++ [r]) k digest := by
  obtain ⟨r', hr', hstep⟩ := h
  exact ⟨r', List.mem_append_left _ hr', hstep⟩

theorem Reached.mono {m : Nat} (h : Reached b n digest) (hm : m ≤ n) : Reached b m digest :=
  fun k hone hk => h k hone (hk.trans hm)

theorem digest_of_lawful (h : Lawful b) :
    ∀ last, latest b = some last → ∀ r ∈ b, r.targetDigest = last.targetDigest := by
  induction h with
  | nil => intro last hlast r hr; cases hr
  | @append b r h hr ih =>
    intro last hlast r' hr'
    obtain rfl := Option.some.inj ((latest_append hr).symm.trans hlast)
    rcases List.mem_append.1 hr' with hr' | hr'
    · cases hlatest : latest b with
      | none =>
        rw [latest, List.argmax_eq_none] at hlatest
        rw [hlatest] at hr'
        cases hr'
      | some previous =>
        have hfollows := hr.1
        rw [hlatest] at hfollows
        rw [ih previous hlatest r' hr', hfollows.2.1.2.2.2]
    · rw [List.mem_singleton.1 hr']

theorem Lawful.same_digest (h : Lawful b) {r' : PhaseReceipt} (hr : r ∈ b) (hr' : r' ∈ b) :
    r.targetDigest = r'.targetDigest := by
  cases hlatest : latest b with
  | none =>
    rw [latest, List.argmax_eq_none] at hlatest
    rw [hlatest] at hr
    cases hr
  | some last =>
    rw [digest_of_lawful h last hlatest r hr, digest_of_lawful h last hlatest r' hr']

theorem reached_of_mem_step (h : Lawful b) (hr : r ∈ b) : Reached b (r.phase - 1) r.targetDigest := by
  intro j hone hj
  have hstep : (r.phase, r.outcome) ∈ b.map PhaseReceipt.step := List.mem_map_of_mem hr
  have hmem : (j, PhaseOutcome.succeeded) ∈ b.map PhaseReceipt.step := by
    cases stage_of_lawful h with
    | fresh hb =>
      rw [hb] at hr
      cases hr
    | opened n hn hb last hlast hlaststep =>
      rw [hb] at hstep ⊢
      simp only [List.mem_append, mem_succeededPhases, List.mem_singleton, Prod.mk.injEq] at hstep ⊢
      exact Or.inl ⟨⟨hone, by omega⟩, Or.inr trivial⟩
    | done n hn hb last hlast hlaststep =>
      rw [hb] at hstep ⊢
      simp only [mem_succeededPhases] at hstep ⊢
      exact ⟨⟨hone, by omega⟩, Or.inr trivial⟩
    | stopped n hn o ho hb last hlast hlaststep =>
      rw [hb] at hstep ⊢
      simp only [List.mem_append, mem_succeededPhases, List.mem_cons, Prod.mk.injEq,
        List.not_mem_nil, or_false] at hstep ⊢
      exact Or.inl ⟨⟨hone, by omega⟩, Or.inr trivial⟩
  obtain ⟨r', hr', hstep'⟩ := List.mem_map.1 hmem
  exact ⟨r', hr', hstep', h.same_digest hr' hr⟩

theorem reached_of_opened (h : Lawful b) (ho : Opened b k digest) : Reached b (k - 1) digest := by
  obtain ⟨r, hr, hstep, rfl⟩ := ho
  obtain ⟨rfl, -⟩ := Prod.mk.inj hstep
  exact reached_of_mem_step h hr

theorem not_opened (h : Lawful b) (hr : Follows b r) (ho : r.outcome = .intent) :
    ¬Opened b r.phase digest := by
  rintro ⟨r', hr', hstep', -⟩
  have hmem : (r.phase, PhaseOutcome.intent) ∈ b.map PhaseReceipt.step := hstep' ▸ List.mem_map_of_mem hr'
  have hfollows := hr.1
  cases stage_of_lawful h with
  | fresh hb =>
    rw [hb] at hr'
    cases hr'
  | opened n hn hb last hlast hlaststep =>
    rw [hlast] at hfollows
    obtain ⟨-, hs | hs | hs⟩ := Continues.closes hfollows (Prod.mk.inj hlaststep).2
    · rw [ho] at hs; cases hs
    · rw [ho] at hs; cases hs
    · rw [ho] at hs; cases hs
  | done n hn hb last hlast hlaststep =>
    rw [hlast] at hfollows
    obtain ⟨hp, ho'⟩ := Prod.mk.inj hlaststep
    rw [hb, mem_succeededPhases, (Continues.opens hfollows ho').1, hp] at hmem
    omega
  | stopped n hn o ho' hb last hlast hlaststep =>
    rw [hlast] at hfollows
    exact hfollows.2.2.1 ((Prod.mk.inj hlaststep).2 ▸ ho')

theorem complete_of_reached (h : Lawful b) (hr : Reached b 7 digest) :
    b.map PhaseReceipt.step = succeededPhases 7 ∧ ∀ r ∈ b, r.targetDigest = digest := by
  obtain ⟨r, hmem, hstep, rfl⟩ := hr 7 (by omega) le_rfl
  refine ⟨?_, fun r' hr' => h.same_digest hr' hmem⟩
  have hstep : (7, PhaseOutcome.succeeded) ∈ b.map PhaseReceipt.step := hstep ▸ List.mem_map_of_mem hmem
  cases stage_of_lawful h with
  | fresh hb =>
    rw [hb] at hmem
    cases hmem
  | opened n hn hb last hlast hlaststep =>
    rw [hb] at hstep
    simp only [List.mem_append, mem_succeededPhases, List.mem_singleton, Prod.mk.injEq] at hstep
    rcases hstep with hstep | ⟨-, hs⟩
    · omega
    · cases hs
  | done n hn hb last hlast hlaststep =>
    rw [hb] at hstep ⊢
    simp only [mem_succeededPhases] at hstep
    rw [show n + 1 = 7 by omega]
  | stopped n hn o ho hb last hlast hlaststep =>
    rw [hb] at hstep
    simp only [List.mem_append, mem_succeededPhases, List.mem_cons, Prod.mk.injEq,
      List.not_mem_nil, or_false] at hstep
    rcases hstep with hstep | ⟨-, hs⟩ | ⟨-, hs⟩
    · omega
    · cases hs
    · rcases ho with rfl | rfl
      · cases hs
      · cases hs

end Facts

/-! ## What a process holds -/

def objectWrites (objectId : String) : List Write :=
  [.upload objectId, .registerObjectJob objectId, .claim objectId, .processClaimed objectId]

def mutations (plan : RestorePlan) (phase : Nat) : List Write :=
  if phase = 1 then [.foundation]
  else if phase = 2 then plan.objectIds.flatMap objectWrites
  else if phase < 7 then [.insertPhase phase]
  else []

def RestorePlan.writes (plan : RestorePlan) (phase : Nat) : List Write :=
  mutations plan phase ++ [.auditPhase phase]

structure Entered where
  plan : RestorePlan
  phase : Nat
  written : List Write
  left : List Write

structure Standing where
  reached : Nat
  digest : String
  entered : Option Entered

/-- A process writes in its phase only, and each write once. -/
inductive Does : Standing → Operation → Standing → Prop where
  | reads (g : Standing) {op : Operation} (h : ∀ plan phase w, op ≠ .write plan phase w) : Does g op g
  | writes {n : Nat} {digest : String} {plan : RestorePlan} {phase : Nat} {written left : List Write}
    {w : Write} :
    Does ⟨n, digest, some ⟨plan, phase, written, w :: left⟩⟩ (.write plan phase w)
      ⟨n, digest, some ⟨plan, phase, written ++ [w], left⟩⟩

/-- How a process enters and leaves a phase. -/
inductive Gains : Standing → Hold (List PhaseReceipt) → Standing → Prop where
  | keeps (g : Standing) (hold : Hold (List PhaseReceipt)) : Gains g hold g
  | knows (g : Standing) {b : List PhaseReceipt} {n : Nat} {digest : String} (h : Reached b n digest) :
    Gains g (.held b b) ⟨n, digest, none⟩
  | enters {b : List PhaseReceipt} {r : PhaseReceipt} {n : Nat} {plan : RestorePlan}
    (ho : r.outcome = .intent) (hd : r.targetDigest = plan.digest) :
    Gains ⟨n, plan.digest, none⟩ (.held b (b ++ [r]))
      ⟨n, plan.digest, some ⟨plan, r.phase, [], plan.writes r.phase⟩⟩
  | succeeds {b : List PhaseReceipt} {r : PhaseReceipt} {n : Nat} {digest : String}
    {entered : Option Entered} (ho : r.outcome = .succeeded) (hp : r.phase = n + 1)
    (hd : r.targetDigest = digest) :
    Gains ⟨n, digest, entered⟩ (.held b (b ++ [r])) ⟨n + 1, digest, none⟩

def discipline : Discipline JournalCall JournalAnswer Operation Standing (List PhaseReceipt) :=
  ⟨journalMade, Does, Gains⟩

def Operation.writeOf (phase : Nat) : Operation → Option (RestorePlan × Write)
  | .write plan phase' w => if phase' = phase then some (plan, w) else none
  | _ => none

def writesOf (phase : Nat) (ops : List Operation) : List (RestorePlan × Write) :=
  ops.filterMap (Operation.writeOf phase)

/-- What holds of the receipts, the operations so far and what the processes hold. -/
structure Kept {P : Type} (b : List PhaseReceipt) (ops : List Operation) (held : P → Option Standing) :
    Prop where
  lawful : Lawful b
  reached : ∀ p g, held p = some g → Reached b g.reached g.digest
  entered : ∀ p g e, held p = some g → g.entered = some e →
    Opened b e.phase e.plan.digest ∧ writesOf e.phase ops = e.written.map (e.plan, ·) ∧
      e.written ++ e.left = e.plan.writes e.phase
  apart : ∀ p q g g' e e', held p = some g → held q = some g' → g.entered = some e →
    g'.entered = some e' → e.phase = e'.phase → p = q
  written : ∀ phase, writesOf phase ops = [] ∨ ∃ plan : RestorePlan, Opened b phase plan.digest ∧
    writesOf phase ops <+: (plan.writes phase).map (plan, ·)

section Kept

variable {P : Type} {b b' : List PhaseReceipt} {ops : List Operation} {held : P → Option Standing}
  {p : P} {g : Standing}

theorem follows_of_made {call : JournalCall} {a : JournalAnswer} {hold : Hold (List PhaseReceipt)}
    (h : journalMade call a hold) (hmakes : hold.Makes b b') :
    b' = b ∨ ∃ r, b' = b ++ [r] ∧ Follows b r := by
  cases call with
  | load context binding destination scope =>
    cases a with
    | done => exact absurd h id
    | history rows =>
      obtain ⟨b₀, rfl, -⟩ := h
      exact Or.inl (hmakes.2.symm.trans hmakes.1)
  | append context binding phase outcome targetDigest resultDigest =>
    cases a with
    | history rows => exact absurd h id
    | done =>
      obtain ⟨b₀, new, rfl, -, -, -, hfollows⟩ := h
      obtain ⟨rfl, rfl⟩ := hmakes
      exact Or.inr ⟨new, rfl, hfollows⟩
  | change locks write =>
    cases a with
    | history rows => exact absurd h id
    | done =>
      rcases h with rfl | ⟨b₀, rfl⟩
      · exact Or.inl hmakes
      · exact Or.inl (hmakes.2.symm.trans hmakes.1)

theorem Kept.append (h : Kept b ops held) (hr : Follows b r) :
    Kept (b ++ [r]) ops held where
  lawful := h.lawful.append hr
  reached p g hg := (h.reached p g hg).append r
  entered := by
    intro p g e hg he
    obtain ⟨hopened, hwritten⟩ := h.entered p g e hg he
    exact ⟨hopened.append r, hwritten⟩
  apart := h.apart
  written := by
    intro phase
    rcases h.written phase with hnil | ⟨plan, hopened, hprefix⟩
    · exact Or.inl hnil
    · exact Or.inr ⟨plan, hopened.append r, hprefix⟩

variable [DecidableEq P]

theorem Kept.update (h : Kept b ops held) (hreached : Reached b g.reached g.digest)
    (hentered : ∀ e, g.entered = some e → Opened b e.phase e.plan.digest ∧
      writesOf e.phase ops = e.written.map (e.plan, ·) ∧
      e.written ++ e.left = e.plan.writes e.phase)
    (hapart : ∀ e q g' e', g.entered = some e → held q = some g' → g'.entered = some e' →
      e.phase = e'.phase → p = q) :
    Kept b ops (Function.update held p (some g)) where
  lawful := h.lawful
  reached := by
    intro q g' hq
    by_cases hne : q = p
    · rw [hne, Function.update_self] at hq
      obtain rfl := Option.some.inj hq
      exact hreached
    · rw [Function.update_of_ne hne] at hq
      exact h.reached q g' hq
  entered := by
    intro q g' e hq he
    by_cases hne : q = p
    · rw [hne, Function.update_self] at hq
      obtain rfl := Option.some.inj hq
      exact hentered e he
    · rw [Function.update_of_ne hne] at hq
      exact h.entered q g' e hq he
  apart := by
    intro q q' g₁ g₂ e e' hq hq' he he' hphase
    by_cases hne : q = p
    · by_cases hne' : q' = p
      · rw [hne, hne']
      · rw [hne, Function.update_self] at hq
        rw [Function.update_of_ne hne'] at hq'
        obtain rfl := Option.some.inj hq
        exact hne.trans (hapart e q' g₂ e' he hq' he' hphase)
    · rw [Function.update_of_ne hne] at hq
      by_cases hne' : q' = p
      · rw [hne', Function.update_self] at hq'
        obtain rfl := Option.some.inj hq'
        exact (hne'.trans (hapart e' q g₁ e he' hq he hphase.symm)).symm
      · rw [Function.update_of_ne hne'] at hq'
        exact h.apart q q' g₁ g₂ e e' hq hq' he he' hphase
  written := h.written

theorem Kept.leave (h : Kept b ops held) : Kept b ops (Function.update held p none) := by
  have hold : ∀ q g, Function.update held p none q = some g → held q = some g := by
    intro q g hq
    by_cases hne : q = p
    · rw [hne, Function.update_self] at hq
      cases hq
    · rwa [Function.update_of_ne hne] at hq
  exact ⟨h.lawful, fun q g hq => h.reached q g (hold q g hq),
    fun q g e hq => h.entered q g e (hold q g hq),
    fun q q' g g' e e' hq hq' => h.apart q q' g g' e e' (hold q g hq) (hold q' g' hq'), h.written⟩

omit [DecidableEq P] in
theorem writesOf_append_of_none (h : op.writeOf phase = none) :
    writesOf phase (ops ++ [op]) = writesOf phase ops := by
  rw [writesOf, List.filterMap_append, List.filterMap_cons_none h, List.filterMap_nil, List.append_nil]
  rfl

theorem writeOf_of_read (h : ∀ plan phase w, op ≠ .write plan phase w) :
    op.writeOf phase = none := by
  cases op with
  | write plan phase' w => exact absurd rfl (h plan phase' w)
  | _ => rfl

theorem writeOf_write_of_ne {phase' : Nat} (h : phase ≠ phase') :
    (Operation.write plan phase w).writeOf phase' = none := if_neg h

omit [DecidableEq P] in
theorem writesOf_append_write :
    writesOf phase (ops ++ [.write plan phase w]) = writesOf phase ops ++ [(plan, w)] := by
  rw [writesOf, List.filterMap_append]
  congr 1
  exact List.filterMap_cons_some (if_pos rfl)

omit [DecidableEq P] in
theorem Kept.read (h : Kept b ops held)
    (hop : ∀ plan phase w, op ≠ .write plan phase w) : Kept b (ops ++ [op]) held where
  lawful := h.lawful
  reached := h.reached
  entered := by
    intro p g e hg he
    rw [writesOf_append_of_none (writeOf_of_read hop)]
    exact h.entered p g e hg he
  apart := h.apart
  written := by
    intro phase
    rw [writesOf_append_of_none (writeOf_of_read hop)]
    exact h.written phase

theorem Kept.write {n : Nat} {digest : String} {written left : List Write} (h : Kept b ops held)
    (hg : held p = some ⟨n, digest, some ⟨plan, phase, written, w :: left⟩⟩) :
    Kept b (ops ++ [.write plan phase w])
      (Function.update held p (some ⟨n, digest, some ⟨plan, phase, written ++ [w], left⟩⟩)) := by
  obtain ⟨hopened, hwritten, hwrites⟩ := h.entered p _ _ hg rfl
  have hreached : Reached b n digest := h.reached p _ hg
  have hnow : writesOf phase (ops ++ [.write plan phase w]) = (written ++ [w]).map (plan, ·) := by
    rw [writesOf_append_write, hwritten, List.map_append]
    rfl
  have hleft : (written ++ [w]) ++ left = plan.writes phase := by
    rw [List.append_assoc]
    exact hwrites
  refine ⟨h.lawful, ?_, ?_, ?_, fun phase' => ?_⟩
  · intro q g hq
    by_cases hne : q = p
    · rw [hne, Function.update_self] at hq
      obtain rfl := Option.some.inj hq
      exact hreached
    · rw [Function.update_of_ne hne] at hq
      exact h.reached q g hq
  · intro q g e hq he
    by_cases hne : q = p
    · rw [hne, Function.update_self] at hq
      obtain rfl := Option.some.inj hq
      obtain rfl := Option.some.inj he
      exact ⟨hopened, hnow, hleft⟩
    · rw [Function.update_of_ne hne] at hq
      have hother : phase ≠ e.phase := fun heq =>
        hne (h.apart q p g _ e _ hq hg he rfl heq.symm)
      rw [writesOf_append_of_none (writeOf_write_of_ne hother)]
      exact h.entered q g e hq he
  · intro q q' g g' e e' hq hq' he he' hphase
    have hold : ∀ q g e, Function.update held p
        (some ⟨n, digest, some ⟨plan, phase, written ++ [w], left⟩⟩) q = some g → g.entered = some e →
        ∃ g₀ e₀, held q = some g₀ ∧ g₀.entered = some e₀ ∧ e₀.phase = e.phase := by
      intro q g e hq he
      by_cases hne : q = p
      · rw [hne, Function.update_self] at hq
        obtain rfl := Option.some.inj hq
        obtain rfl := Option.some.inj he
        exact ⟨_, ⟨plan, phase, written, w :: left⟩, hne ▸ hg, rfl, rfl⟩
      · rw [Function.update_of_ne hne] at hq
        exact ⟨g, e, hq, he, rfl⟩
    obtain ⟨g₀, e₀, hg₀, he₀, hphase₀⟩ := hold q g e hq he
    obtain ⟨g₁, e₁, hg₁, he₁, hphase₁⟩ := hold q' g' e' hq' he'
    exact h.apart q q' g₀ g₁ e₀ e₁ hg₀ hg₁ he₀ he₁ (hphase₀.trans (hphase.trans hphase₁.symm))
  · by_cases hphase : phase = phase'
    · subst hphase
      refine Or.inr ⟨plan, hopened, ?_⟩
      rw [hnow, ← hleft]
      exact (List.prefix_append _ _).map _
    · rw [writesOf_append_of_none (writeOf_write_of_ne hphase)]
      exact h.written phase'

theorem Kept.gains {call : JournalCall} {a : JournalAnswer} {hold : Hold (List PhaseReceipt)}
    {g' : Standing} (h : Kept b ops held) (hg : held p = some g) (hmade : journalMade call a hold)
    (hmakes : hold.Makes b b') (hgains : Gains g hold g') :
    Kept b' ops (Function.update held p (some g')) := by
  cases hgains with
  | keeps =>
    rw [← hg, Function.update_eq_self]
    rcases follows_of_made hmade hmakes with rfl | ⟨r, rfl, hr⟩
    · exact h
    · exact h.append hr
  | knows _ hreached =>
    obtain ⟨rfl, rfl⟩ := hmakes
    exact h.update hreached (fun _ he => by cases he) fun _ _ _ _ he => by cases he
  | @enters b₀ r n plan ho hd =>
    obtain ⟨rfl, rfl⟩ := hmakes
    obtain heq | ⟨r', heq, hr⟩ := follows_of_made hmade ⟨rfl, rfl⟩
    · exact absurd heq (by simp)
    obtain rfl : r = r' := by simpa using heq
    have hfresh : ∀ digest, ¬Opened b₀ r.phase digest := fun digest => not_opened h.lawful hr ho
    have hopened : Opened (b₀ ++ [r]) r.phase plan.digest :=
      ⟨r, by simp, by rw [PhaseReceipt.step, ho], hd⟩
    refine (h.append hr).update ((h.reached p _ hg).append r) ?_ ?_
    · intro e he
      obtain rfl := Option.some.inj he
      refine ⟨hopened, ?_, rfl⟩
      rcases h.written r.phase with hnil | ⟨plan', hopened', -⟩
      · rw [hnil, List.map_nil]
      · exact absurd hopened' (hfresh _)
    · intro e q g' e' he hq he' hphase
      obtain rfl := Option.some.inj he
      exact absurd (hphase ▸ (h.entered q g' e' hq he').1) (hfresh _)
  | @succeeds b₀ r n digest entered ho hp hd =>
    obtain ⟨rfl, rfl⟩ := hmakes
    obtain heq | ⟨r', heq, hr⟩ := follows_of_made hmade ⟨rfl, rfl⟩
    · exact absurd heq (by simp)
    obtain rfl : r = r' := by simpa using heq
    refine (h.append hr).update ?_ (fun _ he => by cases he) fun _ _ _ _ he => by cases he
    intro k hone hk
    rcases Nat.lt_or_eq_of_le hk with hlt | rfl
    · exact (h.reached p _ hg).append r k hone (Nat.lt_succ_iff.1 hlt)
    · exact ⟨r, by simp, by rw [PhaseReceipt.step, ho, hp], hd⟩

theorem keeps_kept : Keeps discipline ⟨0, "", none⟩ (Kept (P := P)) where
  start h _ := h.update (fun k hone hk => absurd (hone.trans hk) (by decide)) (fun _ he => by cases he)
    fun _ _ _ _ he => by cases he
  leave h := h.leave
  does := by
    intro b ops held p g op g' h hg hdoes
    cases hdoes with
    | reads _ hop =>
      rw [← hg, Function.update_eq_self]
      exact h.read hop
    | writes => exact h.write hg
  commit := by
    intro b b' ops held call a hold h hmade hmakes
    rcases follows_of_made hmade hmakes with rfl | ⟨r, rfl, hr⟩
    · exact h
    · exact h.append hr
  gains h hg hmade hmakes hgains := h.gains hg hmade hmakes hgains

end Kept

end DaonUser.Restore
