import DaonUser.Restore.Phases

/-!
# The executions of the phases

`materialize_lineage` keeps to what it holds (`materializeLineage_guarded`): it writes in a phase between
the receipt of its intent and the receipt of its success, each write once, and returns after the seventh
success. What holds of the runs follows (`phases_kept`).
-/

namespace DaonUser.Restore

open Lib
open DaonUser.Recovery

section Guarded

variable {M β δ : Type} {ports : Ports M} {key : RestoreKey} {c : Materialize key} {g : Standing}

/-! ## Steps that write nothing -/

/-- Whatever a process holds, it keeps it. -/
def Quiet (w : Steps M β) : Prop :=
  ∀ (g : Standing) (R : Except RestoreError β → Standing → Prop), (∀ outcome, R outcome g) →
    w.Guarded discipline R g

theorem quiet_ensure {p : Prop} [Decidable p] {e : RestoreError} :
    Quiet (Workflow.ensure p e : Steps M Unit) :=
  fun _ _ hR => Workflow.guarded_ensure.2 ⟨fun _ => hR _, fun _ => hR _⟩

theorem quiet_ofExcept {outcome : Except RestoreError β} :
    Quiet (Workflow.ofExcept outcome : Steps M β) :=
  fun _ _ hR => hR _

theorem quiet_ask {op : Operation} (h : ∀ plan phase w, op ≠ .write plan phase w) :
    Quiet (Workflow.ask op : Steps M (op.Answer M)) :=
  fun g _ hR => ⟨g, .reads g h, hR⟩

theorem Quiet.bind {w : Steps M β} {f : β → Steps M δ} (hw : Quiet w) (hf : ∀ b, Quiet (f b)) :
    Quiet (w >>= f) := by
  intro g R hR
  refine Workflow.guarded_bind.2 (hw g _ fun outcome => ?_)
  cases outcome with
  | error e => exact hR _
  | ok b => exact hf b g R hR

theorem Quiet.before {w : Steps M β} {f : β → Steps M δ} {R : Except RestoreError δ → Standing → Prop}
    (hw : Quiet w) (herror : ∀ e, R (.error e) g) (hf : ∀ b, (f b).Guarded discipline R g) :
    (w >>= f).Guarded discipline R g := by
  refine Workflow.guarded_bind.2 (hw g _ fun outcome => ?_)
  cases outcome with
  | error e => exact herror e
  | ok b => exact hf b

theorem quiet_current : Quiet (current c : Steps M Unit) :=
  Quiet.bind (quiet_ask (by simp)) fun _ => quiet_ensure

theorem quiet_now : Quiet (now : Steps M Int) := quiet_ask (by simp)

theorem quiet_check {fresh : Bool} : Quiet (check fresh : Steps M Unit) := quiet_ask (by simp)

theorem quiet_verifyObjects {objectId : String} : Quiet (verifyObjects objectId : Steps M Unit) :=
  quiet_ask (by simp)

theorem quiet_verifyPhase {plan : RestorePlan} {phase : Nat} :
    Quiet (verifyPhase plan phase : Steps M Unit) :=
  quiet_ask (by simp)

theorem quiet_verifyLast {plan : RestorePlan} {last : Nat} :
    Quiet (verifyLast plan last : Steps M Unit) := by
  unfold verifyLast
  split
  · exact quiet_verifyPhase
  · exact fun _ _ hR => hR _

theorem quiet_unexpired : Quiet (unexpired ports c) :=
  quiet_now.bind fun _ => quiet_ensure.bind fun _ => quiet_ofExcept.bind fun _ =>
    quiet_now.bind fun _ => quiet_ensure

theorem quiet_boundary : Quiet (boundary ports c) :=
  quiet_current.bind fun _ => quiet_unexpired.bind fun _ => quiet_check

section Writes

variable {plan : RestorePlan} {phase n : Nat} {digest : String} {written left : List Write} {w : Write}
  {R : Except RestoreError β → Standing → Prop}

theorem write_before {f : Unit → Steps M β} (herror : ∀ e g, R (.error e) g)
    (hf : (f ()).Guarded discipline R ⟨n, digest, some ⟨plan, phase, written ++ [w], left⟩⟩) :
    (write plan phase w >>= f).Guarded discipline R
      ⟨n, digest, some ⟨plan, phase, written, w :: left⟩⟩ := by
  refine Workflow.guarded_bind.2 ⟨_, .writes, fun outcome => ?_⟩
  cases outcome with
  | error e => exact herror e _
  | ok u => exact hf

theorem objects_guarded {R : Except RestoreError Unit → Standing → Prop}
    (herror : ∀ e g, R (.error e) g)
    (hok : ∀ written, R (.ok ()) ⟨n, digest, some ⟨plan, 2, written, left⟩⟩) (objectIds : List String)
    (written : List Write) :
    (objects ports c plan objectIds).Guarded discipline R
      ⟨n, digest, some ⟨plan, 2, written, objectIds.flatMap objectWrites ++ left⟩⟩ := by
  induction objectIds generalizing written with
  | nil => exact hok written
  | cons objectId rest ih =>
    refine write_before herror ?_
    refine quiet_boundary.before (fun e => herror e _) fun _ => ?_
    refine write_before herror (write_before herror (write_before herror ?_))
    exact quiet_verifyObjects.before (fun e => herror e _) fun _ => ih _

theorem mutate_guarded {R : Except RestoreError Unit → Standing → Prop}
    (herror : ∀ e g, R (.error e) g)
    (hok : ∀ written, R (.ok ()) ⟨n, digest, some ⟨plan, phase, written, left⟩⟩) :
    (mutate ports c plan phase).Guarded discipline R
      ⟨n, digest, some ⟨plan, phase, [], mutations plan phase ++ left⟩⟩ := by
  have hwrite : ∀ w, (write plan phase w : Steps M Unit).Guarded discipline R
      ⟨n, digest, some ⟨plan, phase, [], [w] ++ left⟩⟩ := by
    refine fun w => ⟨_, .writes, fun outcome => ?_⟩
    cases outcome with
    | error e => exact herror e _
    | ok u => exact hok _
  unfold mutate mutations
  by_cases hone : phase = 1
  · simp only [if_pos hone]
    exact hwrite _
  · by_cases htwo : phase = 2
    · subst htwo
      simp only [if_neg hone, if_true]
      exact objects_guarded herror hok plan.objectIds []
    · simp only [if_neg hone, if_neg htwo]
      by_cases hlt : phase < 7
      · simp only [if_pos hlt]
        exact hwrite _
      · simp only [if_neg hlt]
        exact hok []

theorem phaseBody_guarded {R : Except RestoreError String → Standing → Prop}
    (herror : ∀ e g, R (.error e) g)
    (hok : ∀ result entered, R (.ok result) ⟨n, digest, entered⟩) :
    (phaseBody ports c plan phase).Guarded discipline R
      ⟨n, digest, some ⟨plan, phase, [], plan.writes phase⟩⟩ := by
  refine Workflow.guarded_bind.2 (mutate_guarded (fun e g => herror e g) fun written => ?_)
  refine quiet_boundary.before (fun e => herror e _) fun _ => write_before herror ?_
  refine quiet_verifyPhase.before (fun e => herror e _) fun _ => ?_
  exact quiet_boundary.before (fun e => herror e _) fun _ => hok _ _

end Writes

section Phases

variable {execution : RecoveryContext} {plan : RestorePlan} {phase n : Nat} {fresh : Bool}

theorem appendReceipt_guarded {outcome : PhaseOutcome} {result : Option String}
    {R : Except RestoreError Unit → Standing → Prop} (herror : ∀ e, R (.error e) g)
    (hok : ∀ b r, r.phase = phase → r.outcome = outcome → r.targetDigest = plan.digest →
      ∃ g', Gains g (.held b (b ++ [r])) g' ∧ R (.ok ()) g') :
    (appendReceipt c execution plan phase outcome result : Steps M Unit).Guarded discipline R g := by
  refine Workflow.guarded_bind.2 (Workflow.guarded_call.2 ⟨herror, fun a hold hmade => ?_⟩)
  cases a with
  | history rows => exact absurd hmade id
  | done =>
    obtain ⟨b, r, rfl, hphase, houtcome, hdigest, -⟩ := hmade
    exact hok b r hphase houtcome hdigest

theorem runPhase_guarded {R : Except RestoreError Unit → Standing → Prop}
    (herror : ∀ e g, R (.error e) g) (hok : R (.ok ()) ⟨n + 1, plan.digest, none⟩) :
    (runPhase ports c execution plan fresh (n + 1)).Guarded discipline R ⟨n, plan.digest, none⟩ := by
  refine quiet_unexpired.before (fun e => herror e _) fun _ => ?_
  refine quiet_current.before (fun e => herror e _) fun _ => ?_
  refine quiet_check.before (fun e => herror e _) fun _ => ?_
  refine Workflow.guarded_bind.2 (appendReceipt_guarded (fun e => herror e _) ?_)
  intro b r hphase hintent hdigest
  refine ⟨_, .enters hintent hdigest, ?_⟩
  rw [hphase]
  refine Workflow.guarded_bind.2 (Workflow.guarded_handle.2 (phaseBody_guarded ?_ ?_))
  · -- The phase has failed: the process raises, whether it can record that or not.
    intro e g
    refine Workflow.guarded_handle.2 (appendReceipt_guarded (fun _ => herror _ _) ?_)
    exact fun b r _ _ _ => ⟨g, .keeps g _, herror _ _⟩
  · intro result entered
    refine Workflow.guarded_handle.2 (appendReceipt_guarded (fun _ => herror _ _) ?_)
    exact fun b r hphase hsucceeded hdigest => ⟨_, .succeeds hsucceeded hphase hdigest, hok⟩

theorem phases_guarded {R : Except RestoreError Unit → Standing → Prop} {m : Nat}
    (herror : ∀ e g, R (.error e) g) (hok : R (.ok ()) ⟨n + m, plan.digest, none⟩) :
    (phases ports c execution plan fresh (List.range' (n + 1) m)).Guarded discipline R
      ⟨n, plan.digest, none⟩ := by
  induction m generalizing n with
  | zero => exact hok
  | succ m ih =>
    refine Workflow.guarded_bind.2 (runPhase_guarded (fun e g => herror e g) ?_)
    exact ih (by rwa [Nat.add_right_comm, Nat.add_assoc])

end Phases

/-! ## The call -/

theorem reached_of_replayed {plan : RestorePlan} {trace : String} {b : List PhaseReceipt}
    {rows : List HistoryRow} {index last n : Nat} (hindex : index / 2 = last)
    (hrows : ∀ row ∈ rows, ∃ r ∈ b, row = r.row) (hlast : Reached b last plan.digest)
    (h : replayed ports c plan trace index last rows = .ok n) : Reached b n plan.digest := by
  induction rows generalizing index last with
  | nil =>
    obtain rfl := Except.ok.inj h
    exact hlast
  | cons row rest ih =>
    obtain ⟨r, hr, rfl⟩ := hrows row (List.mem_cons_self ..)
    have hrest := fun row hrow => hrows row (List.mem_cons_of_mem _ hrow)
    unfold replayed at h
    split at h
    · cases h
    · next hrow =>
      simp only [PhaseReceipt.row, not_or, not_not] at hrow
      obtain ⟨-, hphase, houtcome, hdigest, -⟩ := hrow
      split at h
      · next hsucceeded =>
        change r.outcome = .succeeded at hsucceeded
        have hodd : index % 2 ≠ 0 := by
          intro heven
          rw [expectedOutcome, if_pos heven, hsucceeded] at houtcome
          cases houtcome
        split at h
        · cases h
        · refine ih (by change _ = r.phase; omega) hrest (fun k hone hk => ?_) h
          change k ≤ r.phase at hk
          rcases Nat.lt_or_eq_of_le hk with hlt | rfl
          · exact hlast k hone (by omega)
          · exact ⟨r, hr, by rw [PhaseReceipt.step, hsucceeded], hdigest⟩
      · next hnot =>
        change ¬r.outcome = .succeeded at hnot
        have heven : index % 2 = 0 := by
          by_contra hodd
          exact hnot (by rw [houtcome, expectedOutcome, if_neg hodd])
        exact ih (by omega) hrest hlast h

/-- What a call has seen when it returns. -/
def Materialized : Except RestoreError MaterializationResult → Standing → Prop
  | .ok result, g => 7 ≤ g.reached ∧ g.digest = result.targetDigest
  | .error _, _ => True

theorem materialized_error {e : RestoreError} {g : Standing} : Materialized (.error e) g := trivial

theorem resume_guarded {plan : RestorePlan} {b : List PhaseReceipt} {rows : List HistoryRow}
    (hrows : ∀ row ∈ rows, ∃ r ∈ b, row = r.row) (g : Standing) :
    ∃ g', Gains g (.held b b) g' ∧ (resume ports c plan rows).Guarded discipline Materialized g' := by
  unfold resume
  cases executionOf c rows with
  | error e => exact ⟨g, .keeps g _, materialized_error⟩
  | ok execution =>
    change ∃ g', Gains g (.held b b) g' ∧ Workflow.Guarded discipline Materialized
      (Workflow.ofExcept (replayed ports c plan execution.traceId 0 0 rows) >>= _) g'
    cases hreplayed : replayed ports c plan execution.traceId 0 0 rows with
    | error e => exact ⟨g, .keeps g _, materialized_error⟩
    | ok last =>
      have hreached : Reached b last plan.digest :=
        reached_of_replayed rfl hrows (fun k hone hk => absurd (hone.trans hk) (by decide)) hreplayed
      refine ⟨_, .knows g hreached, ?_⟩
      refine quiet_ensure.before (fun _ => materialized_error) fun _ => ?_
      refine quiet_check.before (fun _ => materialized_error) fun _ => ?_
      refine quiet_verifyLast.before (fun _ => materialized_error) fun _ => ?_
      refine Workflow.guarded_bind.2 (phases_guarded (fun _ _ => materialized_error) ?_)
      refine quiet_current.before (fun _ => materialized_error) fun _ => ?_
      exact quiet_check.before (fun _ => materialized_error) fun _ => ⟨(by omega : 7 ≤ last + (7 - last)), rfl⟩

theorem materializeLineage_guarded (c : Materialize key) :
    (materializeLineage ports c).Guarded discipline Materialized ⟨0, "", none⟩ := by
  refine quiet_ensure.before (fun _ => materialized_error) fun _ => ?_
  refine quiet_current.before (fun _ => materialized_error) fun _ => ?_
  refine (quiet_ask (by simp)).before (fun _ => materialized_error) fun metadata => ?_
  refine quiet_ofExcept.before (fun _ => materialized_error) fun plan => ?_
  refine quiet_current.before (fun _ => materialized_error) fun _ => ?_
  refine Workflow.guarded_bind.2 (Workflow.guarded_bind.2 (Workflow.guarded_call.2
    ⟨fun _ => trivial, fun a hold hmade => ?_⟩))
  cases a with
  | done => exact absurd hmade id
  | history rows =>
    obtain ⟨b, rfl, hrows⟩ := hmade
    exact resume_guarded hrows _

/-- What a process has seen when it returns. -/
def Returned : Except RestoreError (Option MaterializationResult) → Standing → Prop
  | .ok (some result), g => 7 ≤ g.reached ∧ g.digest = result.targetDigest
  | _, _ => True

theorem steps_guarded (job : RestoreJob key) :
    (job.steps ports).Guarded discipline Returned ⟨0, "", none⟩ := by
  cases job with
  | materialize c =>
    refine Workflow.guarded_bind.2 ((materializeLineage_guarded c).mono fun outcome g h => ?_)
    cases outcome with
    | error e => trivial
    | ok result => exact h
  | change locks write =>
    refine Workflow.guarded_bind.2 (Workflow.guarded_call.2 ⟨fun _ => trivial, fun a hold _ => ?_⟩)
    exact ⟨_, .keeps _ _, trivial⟩

end Guarded

section Runs

variable {M P : Type} [DecidableEq P] (ports : Ports M) {key : RestoreKey} (surroundings : PhaseRecords)

omit [DecidableEq P] in
theorem kept_nil : Kept (P := P) [] [] fun _ => none where
  lawful := .nil
  reached _ _ h := by cases h
  entered _ _ _ h := by cases h
  apart _ _ _ _ _ _ h := by cases h
  written _ := Or.inl rfl

theorem guarded_run (acts : List (Act P (RestoreJob key) RestoreError Operation (Operation.Answer M))) :
    GuardedWorld discipline (JournalCall.program ports.sha256 key) PhaseRows.receipts Returned Kept
      ⟨[], surroundings⟩ ((restore ports surroundings).run acts) :=
  guarded_reachable (journal_meets ·) steps_guarded keeps_kept kept_nil ⟨acts, rfl⟩

/-- In every run the receipts are those of the phases in their order, with at most one that ends them.
The writes of a phase are those of one execution or the first of them, after the earlier phases have
succeeded with the same plan, and a call returns after all phases have succeeded. -/
theorem phases_kept
    (acts : List (Act P (RestoreJob key) RestoreError Operation (Operation.Answer M))) :
    IsPhasePrefix ((restore ports surroundings).run acts).cluster.committed.receipts ∧
      (∀ phase, ∃ plan : RestorePlan,
        writesOf phase ((restore ports surroundings).run acts).performed <+:
          (plan.writes phase).map (plan, ·) ∧
        (writesOf phase ((restore ports surroundings).run acts).performed ≠ [] →
          ∀ k, 1 ≤ k → k < phase →
            ∃ r ∈ ((restore ports surroundings).run acts).cluster.committed.receipts,
              r.step = (k, .succeeded) ∧ r.targetDigest = plan.digest)) ∧
      ∀ e ∈ (restore ports surroundings).events acts, ∀ p result, e.output = some (p, .ok (some result)) →
        e.pre.cluster.committed.receipts.map PhaseReceipt.step = succeededPhases 7 ∧
          ∀ r ∈ e.pre.cluster.committed.receipts, r.targetDigest = result.targetDigest := by
  refine ⟨?_, fun phase => ?_, fun e he p result houtput => ?_⟩
  · obtain ⟨held, hkept, -⟩ := (guarded_run ports surroundings acts).guarded
    exact (stage_of_lawful hkept.lawful).isPhasePrefix
  · obtain ⟨held, hkept, -⟩ := (guarded_run ports surroundings acts).guarded
    rcases hkept.written phase with hnil | ⟨plan, hopened, hprefix⟩
    · exact ⟨⟨[], "", ""⟩, by rw [hnil]; exact List.nil_prefix, fun hne => absurd hnil hne⟩
    · refine ⟨plan, hprefix, fun _ k hone hk => ?_⟩
      exact reached_of_opened hkept.lawful hopened k hone (by omega)
  · obtain ⟨x, act, hx, -, rfl⟩ := (restore ports surroundings).mem_events he
    obtain ⟨acts', rfl⟩ := hx
    obtain ⟨held, g, hkept, hg, hreached, hdigest⟩ :=
      (guarded_run ports surroundings acts').answer houtput
    rw [← hdigest]
    exact complete_of_reached hkept.lawful ((hkept.reached p g hg).mono hreached)

end Runs

def sampleDigest : String := String.ofList (List.replicate 64 '0')

def samplePorts : Ports Unit where
  sha256 _ := sampleDigest
  fromisoformat _ := some 100
  buildRestorePlan _ _ _ := .ok ⟨["object"], sampleDigest, sampleDigest⟩

def sampleKey : RestoreKey := ⟨"tenant", "workspace", "request"⟩

def sampleRecords : PhaseRecords where
  records := ⟨[⟨"tenant", "workspace", "request", "backup", "actor", .restoring⟩], [], [],
    [⟨"tenant", "workspace", "backup", 3, sampleDigest, []⟩], [⟨"actor", "active"⟩],
    [⟨"tenant", "workspace", "personal"⟩], [⟨"tenant", "actor", "personal_owner", "active"⟩], [], []⟩
  reservations := [⟨"generation", "destination", "tenant", "workspace", "request", "actor", 1, "backup", 3,
    sampleDigest, sampleDigest, sampleDigest, sampleDigest, "owner"⟩]
  previews := [⟨1, "actor", "generation", "destination", 1, "backup", 3, sampleDigest, sampleDigest,
    sampleDigest, sampleDigest, sampleDigest, 100⟩]
  clock := 0

def sampleCall : Materialize sampleKey where
  context := ⟨"tenant", "workspace", "actor", "trace", "policy", false, none, none⟩
  scope := ⟨"capture", "tenant", "workspace", "actor", "notebook", ["version"], ["version"], ["source"],
    sampleDigest, "schema", "policy", sampleDigest, sampleDigest⟩
  receipt := .null
  binding := ⟨"request", "backup", sampleDigest, sampleDigest, sampleDigest, sampleDigest, 1,
    ["version"], "generation", "destination", 1, "owner", "operation", "key", 100, sampleDigest,
    sampleDigest⟩
  destination := ⟨"generation", "destination", 1, "2030-01-01T00:00:00Z", "tenant", "workspace", "actor",
    sampleDigest, sampleDigest, sampleDigest, "owner", 0⟩
  ofRequest := by decide

def sampleAnswer : ∀ op, Except RestoreError (Operation.Answer Unit op)
  | .recheck => .ok ⟨sampleCall.context, sampleCall.binding, sampleDigest⟩
  | .verify => .ok ()
  | .now => .ok (0 : Int)
  | .check _ => .ok ()
  | .verifyObjects _ => .ok ()
  | .verifyPhase _ _ => .ok ()
  | .write _ _ _ => .ok ()

def sampleActs : List (Act Unit (RestoreJob sampleKey) RestoreError Operation (Operation.Answer Unit)) :=
  .start () (.materialize sampleCall) ::
    (List.replicate 270 [Act.perform () sampleAnswer, .begin (), .step () none]).flatten ++ [.stop ()]

/-- A call that nothing disturbs returns. -/
example : ((restore samplePorts sampleRecords).events sampleActs).filterMap
    (fun e => e.output.bind fun o => o.2.toOption.join.map (·.lastPhase)) = [7] := by
  decide +kernel

end DaonUser.Restore
