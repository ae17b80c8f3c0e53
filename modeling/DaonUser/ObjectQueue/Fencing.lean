import DaonUser.ObjectQueue.Invariant

/-!
# Object queue: leases fence stale workers

A worker may come back with an `ObjectJob` of any age and a clock of any reading. Only the holder of the
most recent claim of a job ends its attempt, every attempt is recorded at most once, and a job that is done
stays as it is (`fenced`). The history invariant is `LastClaim`.
-/

namespace DaonUser.ObjectQueue

open Lib

variable {sha256 : String → String}

def claimedJob : Outcome → Option ObjectJob
  | .ok (.claimed job) => some job
  | _ => none

/-- The most recent claim of the job in the history returned `job`. -/
def LastClaim (history : List (Event System Input Outcome)) (job : ObjectJob) : Prop :=
  ∃ before e later, history = before ++ e :: later ∧ claimedJob e.output = some job ∧
    ∀ e' ∈ later, ∀ other ∈ claimedJob e'.output, other.jobId ≠ job.jobId

def Transaction.settles : Transaction → Option (Nat × String)
  | .complete ticket workerId _ _ => some (ticket, workerId)
  | .fail ticket workerId _ _ _ => some (ticket, workerId)
  | _ => none

/-- What leases are for. -/
structure Fenced (sha256 : String → String) : Prop where
  /-- An attempt is ended with the job that the most recent claim returned, by its owner. -/
  current : ∀ (is : List Input) (i : Input) (ticket : Nat) workerId reply,
    i.transaction.settles = some (ticket, workerId) →
    (machine sha256).answer ((machine sha256).run is) i = .ok (.job reply) →
    ∃ job, ((machine sha256).run is).issued[ticket]? = some job ∧
      LastClaim ((machine sha256).events is) job ∧ job.leaseOwner = some workerId
  /-- An attempt is recorded once. -/
  attempts : ∀ is, (((machine sha256).run is).tables.attempts.map AttemptRow.key).Nodup
  /-- The key of `job_attempts` refuses no holder of a lease. -/
  recordable : ∀ (is : List Input) (ticket : Nat) job row workerId now,
    ((machine sha256).run is).issued[ticket]? = some job →
    ((machine sha256).run is).tables.jobs.get? job.jobId = some row →
    HoldsLease job row workerId now →
    ∀ a ∈ ((machine sha256).run is).tables.attempts, a.key ≠ (job.jobId, job.attempt)
  /-- A job that is done stays as it is. -/
  final : ∀ is js jobId row, ((machine sha256).run is).tables.jobs.get? jobId = some row →
    row.state.Final → ((machine sha256).run (is ++ js)).tables.jobs.get? jobId = some row
  /-- Owner and deadline are set while a job is leased, and neither is otherwise. -/
  leased : ∀ is, ∀ row ∈ ((machine sha256).run is).tables.jobs.values,
    (row.state = .leased ↔ row.leaseOwner.isSome ∧ row.leaseUntil.isSome) ∧
      (row.state ≠ .leased → row.leaseOwner = none ∧ row.leaseUntil = none)

/-! ## The most recent claim -/

theorem lastClaim_concat {history : List (Event System Input Outcome)}
    {e : Event System Input Outcome} {job : ObjectJob} (h : claimedJob e.output = some job) :
    LastClaim (history ++ [e]) job :=
  ⟨history, e, [], rfl, h, by simp⟩

theorem LastClaim.concat {history : List (Event System Input Outcome)}
    {e : Event System Input Outcome} {job : ObjectJob} (h : LastClaim history job)
    (other : ∀ job' ∈ claimedJob e.output, job'.jobId ≠ job.jobId) :
    LastClaim (history ++ [e]) job := by
  obtain ⟨before, e', later, rfl, hclaimed, hlater⟩ := h
  refine ⟨before, e', later ++ [e], by simp, hclaimed, ?_⟩
  intro e'' he''
  rcases List.mem_append.1 he'' with hold | hnew
  · exact hlater e'' hold
  · rw [List.mem_singleton.1 hnew]
    exact other

theorem leased_of_set {jobs : Dict String JobRow} {jobId k : String} {row row' : JobRow}
    (h : (jobs.set jobId row').get? k = some row) (leased : row.state = .leased)
    (left : row'.state ≠ .leased) : jobs.get? k = some row := by
  rw [Dict.get?_set] at h
  split at h
  · obtain rfl := Option.some.inj h
    exact absurd leased left
  · exact h

theorem leased_next {s : System} (h : Consistent s) (i : Input) {k : String} {row : JobRow}
    (found : ((machine sha256).next s i).tables.jobs.get? k = some row)
    (leased : row.state = .leased) :
    claimedJob ((machine sha256).answer s i) = some (jobFromRow row) ∨
      (s.tables.jobs.get? k = some row ∧
        ∀ job ∈ claimedJob ((machine sha256).answer s i), job.jobId ≠ row.jobId) := by
  have heffect := effect_next sha256 s i
  generalize (machine sha256).answer s i = o at heffect ⊢
  generalize ((machine sha256).next s i).tables = t' at heffect found
  cases heffect with
  | unchanged refused answers =>
    refine Or.inr ⟨found, fun job hjob => ?_⟩
    have hclaimed : o = .ok (.claimed job) := by
      unfold claimedJob at hjob
      split at hjob
      · cases hjob
        rfl
      · cases hjob
    exact absurd hclaimed (answers.notClaimed job)
  | registered other pending new hid unusedObject unused leaves =>
    rw [leaves.jobs] at found
    refine Or.inr ⟨leased_of_set found leased (by simp [new.state]), fun job hjob => ?_⟩
    cases hjob
  | @claimed workerId now lease row' _ transaction admitted leaves =>
    rw [leaves.jobs, Dict.get?_set] at found
    split at found
    · obtain rfl := Option.some.inj found
      exact Or.inl rfl
    · next hne =>
      refine Or.inr ⟨found, fun job hjob => ?_⟩
      cases hjob
      change row'.jobId ≠ row.jobId
      rwa [h.jobId found]
  | completed transaction issued found' holds object ends leaves =>
    rw [leaves.jobs] at found
    refine Or.inr ⟨leased_of_set found leased (by simp [JobRow.complete]), fun job hjob => ?_⟩
    cases hjob
  | @failed _ _ error _ _ job row' _ _ transaction issued admitted ends leaves =>
    rw [leaves.jobs] at found
    refine Or.inr ⟨leased_of_set found leased ?_, fun job hjob => ?_⟩
    · cases hretry : retries job error <;> simp [JobRow.fail]
    · cases hjob
  | reprocessed transaction admitted leaves =>
    rw [leaves.jobs] at found
    refine Or.inr ⟨leased_of_set found leased (by simp [reprocessJob, newJob]), fun job hjob => ?_⟩
    cases hjob

/-- A leased row is the one that the most recent claim of its job returned. -/
def Claimed (history : List (Event System Input Outcome)) (s : System) : Prop :=
  ∀ k row, s.tables.jobs.get? k = some row → row.state = .leased →
    LastClaim history (jobFromRow row)

theorem claimed_run (sha256 : String → String) (is : List Input) :
    Claimed ((machine sha256).events is) ((machine sha256).run is) := by
  have h := (machine sha256).history_induction
    (J := fun history s => Consistent s ∧ Claimed history s)
    ⟨.init, fun k row found => by simp [machine, Tables.empty] at found⟩ ?_ is
  · exact h.2
  rintro history s i ⟨hconsistent, hclaimed⟩
  refine ⟨consistent_next hconsistent i, fun k row found leased => ?_⟩
  rcases leased_next hconsistent i found leased with hnew | ⟨hold, hother⟩
  · exact lastClaim_concat hnew
  · exact (hclaimed k row hold leased).concat hother

/-! ## Jobs that are done -/

theorem final_next {s : System} (h : Consistent s) (i : Input) {jobId : String} {row : JobRow}
    (found : s.tables.jobs.get? jobId = some row) (final : row.state.Final) :
    ((machine sha256).next s i).tables.jobs.get? jobId = some row := by
  rcases jobs_next sha256 h i with hjobs | ⟨new, _, unused, hjobs⟩ |
    ⟨old, old', hold, moves, hjobs⟩
  · rw [hjobs, found]
  · rw [hjobs, Dict.get?_set_of_ne, found]
    intro hid
    simp [hid, found] at unused
  · rw [hjobs, Dict.get?_set_of_ne, found]
    intro hid
    rw [hid] at hold
    obtain rfl : old = row := Option.some.inj (hold.symm.trans found)
    exact moves.not_final final

theorem final_run (is js : List Input) {jobId : String} {row : JobRow}
    (found : ((machine sha256).run is).tables.jobs.get? jobId = some row)
    (final : row.state.Final) :
    ((machine sha256).run (is ++ js)).tables.jobs.get? jobId = some row := by
  rw [Machine.run_append]
  have h := (machine sha256).runFrom_induction
    (I := fun s => Consistent s ∧ s.tables.jobs.get? jobId = some row)
    (fun s i hs => ⟨consistent_next hs.1 i, final_next hs.1 i hs.2 final⟩)
    ⟨consistent_run sha256 is, found⟩ js
  exact h.2

/-! ## Fencing -/

/-- Leases fence stale workers, in every run. -/
theorem fenced (sha256 : String → String) : Fenced sha256 where
  current is i ticket workerId reply hsettles hanswer := by
    have hconsistent := consistent_run sha256 is
    have hclaimed := claimed_run sha256 is
    have heffect := effect_next sha256 ((machine sha256).run is) i
    rw [hanswer] at heffect
    generalize ((machine sha256).next ((machine sha256).run is) i).tables = t' at heffect
    generalize (machine sha256).run is = s at hconsistent hclaimed heffect ⊢
    cases heffect with
    | unchanged refused answers =>
      have hreads := (answers.read reply (List.mem_singleton_self reply)).1
      revert hreads hsettles
      cases i.transaction <;> simp [Transaction.settles, Transaction.Reads]
    | completed transaction issued found holds object ends leaves =>
      simp only [transaction, Transaction.settles, Option.some.injEq, Prod.mk.injEq] at hsettles
      obtain ⟨rfl, rfl⟩ := hsettles
      obtain rfl := hconsistent.held issued found holds
      exact ⟨_, issued, hclaimed _ _ found holds.state, holds.owner⟩
    | failed transaction issued admitted ends leaves =>
      simp only [transaction, Transaction.settles, Option.some.injEq, Prod.mk.injEq] at hsettles
      obtain ⟨rfl, rfl⟩ := hsettles
      obtain rfl := hconsistent.held issued admitted.found admitted.holds
      exact ⟨_, issued, hclaimed _ _ admitted.found admitted.holds.state, admitted.holds.owner⟩
    | reprocessed transaction admitted leaves =>
      simp [transaction, Transaction.settles] at hsettles
  attempts is := (consistent_run sha256 is).attemptKeys
  recordable is ticket job row workerId now issued found holds := by
    have hconsistent := consistent_run sha256 is
    obtain rfl := hconsistent.held issued found holds
    exact hconsistent.unrecorded found holds.state
  final is js jobId row found final := final_run is js found final
  leased is row hrow := by
    have hsound := (consistent_run sha256 is).sound ((consistent_run sha256 is).get?_of_mem hrow)
    refine ⟨⟨hsound.leased, fun hset => ?_⟩, hsound.unleased⟩
    by_contra hleft
    simp [hsound.unleased hleft] at hset

end DaonUser.ObjectQueue
