import DaonUser.DocumentQueue.Invariant

/-!
# Document queue: claims, attempts and leases

A claim takes a job whose lease has expired whatever its attempt: `max_attempts` is stored and returned
and compared with nothing. `orderly_iff` says which claims have to be kept away for the bound to hold;
the history of attempts and the fencing of stale workers hold of every run.
-/

namespace DaonUser.DocumentQueue

open Lib

abbrev Step := Event System Input Outcome

/-! ## The property -/

def claimCount (history : List Step) (key : JobKey) : Nat :=
  history.countP fun e => (claimedJob e.output).any fun job => job.key = key

def attemptCount (db : Db) (key : JobKey) (n : Nat) : Nat :=
  (db .attempts).countP fun attempt => attempt.key = key && attempt.attemptNumber = n

/-- The most recent claim of the job returned `job`. -/
def LastClaim (history : List Step) (job : DocumentProcessingJob) : Prop :=
  ∃ before e later, history = before ++ e :: later ∧ claimedJob e.output = some job ∧
    ∀ e' ∈ later, ∀ other ∈ claimedJob e'.output, other.key ≠ job.key

structure Orderly (is : List Input) : Prop where
  /-- No job is handed out more than `max_attempts` times. -/
  bounded : ∀ pre post, is = pre ++ post → ∀ row ∈ (machine.run pre).db .jobs,
    claimCount (machine.events pre) row.key ≤ row.maxAttempts
  /-- Every attempt that has been handed out is recorded once when it has ended, and not before. -/
  recorded : ∀ pre post, is = pre ++ post → ∀ row ∈ (machine.run pre).db .jobs, ∀ n,
    attemptCount (machine.run pre).db row.key n =
      if 0 < n ∧ n ≤ claimCount (machine.events pre) row.key ∧
        ¬(row.state = .leased ∧ n = claimCount (machine.events pre) row.key) then 1 else 0
  /-- A job is completed or failed with what its most recent claim returned, by the worker that
  claimed it. -/
  fenced : ∀ pre i post, is = pre ++ i :: post → ∀ (ticket : Nat) workerId processed now,
    i.transaction = .settle ticket workerId processed now →
    machine.answer (machine.run pre) i = .ok .done →
    ∃ job, (machine.run pre).issued[ticket]? = some job ∧ LastClaim (machine.events pre) job ∧
      job.leaseOwner = some workerId

/-- The transaction does not claim a job whose last attempt has lost its lease. -/
def SparesExhausted (s : System) (i : Input) : Prop :=
  match i.transaction with
  | .claim workerId leaseSeconds => ∀ row, ClaimAdmitted i.env workerId leaseSeconds s.db row →
      row.state = .leased → row.attempt < row.maxAttempts
  | _ => True

/-! ## The number of claims -/

def attemptOf (db : Db) (key : JobKey) : Nat :=
  ((db .jobs).find? fun row => row.key = key).elim 0 JobRow.attempt

theorem attemptOf_of_mem {db : Db} (h : db.Keyed .jobs) {row : JobRow} (hrow : row ∈ db .jobs) :
    attemptOf db row.key = row.attempt := by
  unfold attemptOf
  cases hfound : (db .jobs).find? fun other => other.key = row.key with
  | none => simpa using List.find?_eq_none.1 hfound row hrow
  | some other =>
    rw [eq_of_key h (List.mem_of_find?_eq_some hfound) hrow (by simpa using List.find?_some hfound)]
    rfl

theorem attemptOf_advanced {db : Db} {key : JobKey} {f : JobRow → JobRow}
    (hf : ∀ row, (f row).key = row.key) (other : JobKey) :
    attemptOf (advanced key f db) other =
      ((db .jobs).find? fun row => row.key = other).elim 0 fun row =>
        if row.key = key then (f row).attempt else row.attempt := by
  have hfound : (advanced key f db .jobs).find? (fun row => row.key = other) =
      ((db .jobs).find? fun row => row.key = other).map fun row =>
        if row.key = key then f row else row := by
    refine (@Database.find?_update schema .jobs db _ _ _ fun row => ?_).trans ?_
    · simp only [hf]
    · simp only [decide_eq_true_eq]
  rw [attemptOf, hfound]
  cases (db .jobs).find? fun row => row.key = other with
  | none => rfl
  | some row =>
    simp only [Option.map_some, Option.elim_some]
    split <;> rfl

variable {s : System}

theorem claimCount_concat (history : List Step) (e : Step) (key : JobKey) :
    claimCount (history ++ [e]) key = claimCount history key +
      if (claimedJob e.output).any fun job => job.key = key then 1 else 0 := by
  rw [claimCount, List.countP_append, List.countP_singleton]
  rfl

theorem attemptOf_next (h : Consistent s) (i : Input) (key : JobKey) :
    attemptOf (machine.next s i).db key = attemptOf s.db key +
      if (claimedJob (machine.answer s i)).any fun job => job.key = key then 1 else 0 := by
  have heffect := effect_next s i
  generalize machine.answer s i = o at heffect ⊢
  generalize (machine.next s i).db = db at heffect ⊢
  cases heffect with
  | refused => simp [claimedJob]
  | idle => simp [claimedJob]
  | @enqueued env new now hadmits =>
    have hfound : (enqueued (new.row now) s.db .jobs).find? (fun row => row.key = key) =
        ((s.db .jobs).find? fun row => row.key = key).or
          (if (new.row now).key = key then some (new.row now) else none) := by
      refine (@Database.find?_insert schema .jobs s.db _ _).trans ?_
      simp only [decide_eq_true_eq]
    rw [attemptOf, attemptOf, hfound]
    cases (s.db .jobs).find? fun row => row.key = key with
    | some row => simp [claimedJob]
    | none => split <;> simp [claimedJob, NewJob.row]
  | @claimed env workerId leaseSeconds row hadmitted =>
    generalize env.leasedAt + leaseSeconds * 1000000 = leaseUntil
    obtain ⟨hrow, -⟩ := candidate_mem hadmitted.chosen
    have hjobs : leaseLoss row env.lostAt s.db .jobs = s.db .jobs := leaseLoss_jobs
    rw [leased, attemptOf_advanced (f := fun other => other.lease workerId leaseUntil) fun _ => rfl,
      hjobs]
    by_cases hkey : row.key = key
    · subst hkey
      have hattempt := attemptOf_of_mem h.jobs hrow
      unfold attemptOf at hattempt ⊢
      cases hfound : (s.db .jobs).find? fun other => other.key = row.key with
      | none => simpa using List.find?_eq_none.1 hfound row hrow
      | some other =>
        have hsame : other.key = row.key := by simpa using List.find?_some hfound
        rw [hfound] at hattempt
        simp only [Option.elim_some] at hattempt ⊢
        have hclaimed : (jobFromRow (row.lease workerId leaseUntil)).key = row.key := rfl
        rw [if_pos hsame, JobRow.lease, hattempt]
        simp [claimedJob, hclaimed]
    · have hother : (jobFromRow (row.lease workerId leaseUntil)).key ≠ key := hkey
      simp only [claimedJob, Option.any_some, decide_eq_true_eq, if_neg hother, add_zero, attemptOf]
      cases hfound : (s.db .jobs).find? fun other => other.key = key with
      | none => rfl
      | some other =>
        have hsame : other.key = key := by simpa using List.find?_some hfound
        rw [Option.elim_some, Option.elim_some, if_neg fun h => hkey (h.symm.trans hsame)]
  | @settled env ticket workerId processed now job row state outcome code old hissued hrow hkey hholds
      hstate =>
    have hsame : attemptOf (finished (job.attempted workerId outcome code now)
        (fun other => other.finish state (old other.lastSafeErrorCode) now) s.db) key =
        attemptOf (advanced job.key
          (fun other => other.finish state (old other.lastSafeErrorCode) now) s.db) key := by
      rw [attemptOf, finished_jobs, key_attempted, attemptOf]
    rw [hsame, attemptOf_advanced
      (f := fun other => other.finish state (old other.lastSafeErrorCode) now) fun _ => rfl]
    simp [claimedJob, attemptOf, JobRow.finish]

theorem counted_run (is : List Input) (key : JobKey) :
    claimCount (machine.events is) key = attemptOf (machine.run is).db key := by
  have h := machine.history_induction
    (J := fun history s => Consistent s ∧ ∀ key, claimCount history key = attemptOf s.db key)
    ⟨consistent_init, fun key => rfl⟩ ?_ is
  · exact h.2 key
  rintro history s i ⟨hconsistent, hcounted⟩
  refine ⟨consistent_next hconsistent i, fun key => ?_⟩
  rw [claimCount_concat, hcounted key]
  exact (attemptOf_next hconsistent i key).symm

theorem claimCount_of_mem {is : List Input} {row : JobRow} (hrow : row ∈ (machine.run is).db .jobs) :
    claimCount (machine.events is) row.key = row.attempt := by
  rw [counted_run, attemptOf_of_mem (consistent_run is).jobs hrow]

theorem attemptCount_of_mem (h : Consistent s) {row : JobRow} (hrow : row ∈ s.db .jobs) (n : Nat) :
    attemptCount s.db row.key n = if 0 < n ∧ n ≤ row.ended then 1 else 0 := by
  split
  · next hn =>
    have hatMost : attemptCount s.db row.key n ≤ 1 := by
      refine h.attempts.countP_le_one fun attempt other hattempt hother => ?_
      simp only [Bool.and_eq_true, decide_eq_true_eq] at hattempt hother
      simp [Table.clash, hattempt, hother]
    obtain ⟨attempt, hattempt, hkey, hnumber⟩ := h.recorded row hrow n hn.1 hn.2
    have hatLeast : 0 < attemptCount s.db row.key n :=
      List.countP_pos_iff.2 ⟨attempt, hattempt, by simp [hkey, hnumber]⟩
    omega
  · next hn =>
    refine List.countP_eq_zero.2 fun attempt hattempt => ?_
    simp only [Bool.and_eq_true, decide_eq_true_eq]
    rintro ⟨hkey, rfl⟩
    obtain ⟨other, hother, hkey', hpos, hle⟩ := h.within attempt hattempt
    obtain rfl := eq_of_key h.jobs hother hrow (hkey'.trans hkey)
    exact hn ⟨hpos, hle⟩

theorem lastClaim_concat {history : List Step} {e : Step} {job : DocumentProcessingJob}
    (h : claimedJob e.output = some job) : LastClaim (history ++ [e]) job :=
  ⟨history, e, [], rfl, h, by simp⟩

theorem LastClaim.concat {history : List Step} {e : Step} {job : DocumentProcessingJob}
    (h : LastClaim history job) (hother : ∀ other ∈ claimedJob e.output, other.key ≠ job.key) :
    LastClaim (history ++ [e]) job := by
  obtain ⟨before, e', later, rfl, hclaimed, hlater⟩ := h
  refine ⟨before, e', later ++ [e], by simp, hclaimed, fun e'' he'' => ?_⟩
  rcases List.mem_append.1 he'' with hold | hnew
  · exact hlater e'' hold
  · rw [List.mem_singleton.1 hnew]
    exact hother

theorem leased_next (h : Consistent s) (i : Input) {row : JobRow}
    (hrow : row ∈ (machine.next s i).db .jobs) (hleased : row.state = .leased) :
    claimedJob (machine.answer s i) = some (jobFromRow row) ∨ (row ∈ s.db .jobs ∧
      ∀ job ∈ claimedJob (machine.answer s i), job.key ≠ row.key) := by
  have heffect := effect_next s i
  generalize machine.answer s i = o at heffect ⊢
  generalize (machine.next s i).db = db at heffect hrow
  cases heffect with
  | refused => exact Or.inr ⟨hrow, fun job hjob => (by cases hjob)⟩
  | idle => exact Or.inr ⟨hrow, fun job hjob => (by cases hjob)⟩
  | enqueued hadmits =>
    rw [enqueued, Database.insert_self] at hrow
    rcases List.mem_append.1 hrow with hold | hnew
    · exact Or.inr ⟨hold, fun job hjob => (by cases hjob)⟩
    · rw [List.mem_singleton.1 hnew] at hleased
      cases hleased
  | @claimed env workerId leaseSeconds old hadmitted =>
    generalize env.leasedAt + leaseSeconds * 1000000 = leaseUntil at hrow ⊢
    rw [leased_jobs] at hrow
    rcases mem_advanced h.jobs (candidate_mem hadmitted.chosen).1 hrow with rfl | ⟨hold, hkey⟩
    · exact Or.inl rfl
    · refine Or.inr ⟨hold, fun job hjob => ?_⟩
      obtain rfl := Option.some.inj hjob
      exact fun hsame => hkey hsame.symm
  | @settled env ticket workerId processed now job old state outcome code f hissued hold hkey hholds
      hstate =>
    rw [finished_jobs, key_attempted, ← hkey] at hrow
    rcases mem_advanced h.jobs hold hrow with rfl | ⟨hrow, -⟩
    · have hnot : state ≠ .leased := by rcases hstate with rfl | rfl <;> decide
      exact absurd hleased hnot
    · exact Or.inr ⟨hrow, fun job hjob => (by cases hjob)⟩

theorem claimed_run (is : List Input) : ∀ row ∈ (machine.run is).db .jobs, row.state = .leased →
    LastClaim (machine.events is) (jobFromRow row) := by
  have h := machine.history_induction
    (J := fun history s => Consistent s ∧ ∀ row ∈ s.db .jobs, row.state = .leased →
      LastClaim history (jobFromRow row))
    ⟨consistent_init, fun row hrow => (by cases hrow)⟩ ?_ is
  · exact h.2
  rintro history s i ⟨hconsistent, hclaimed⟩
  refine ⟨consistent_next hconsistent i, fun row hrow hleased => ?_⟩
  rcases leased_next hconsistent i hrow hleased with hnew | ⟨hold, hother⟩
  · exact lastClaim_concat hnew
  · exact (hclaimed row hold hleased).concat hother

theorem settled_holder (is : List Input) {i : Input} {ticket : Nat} {workerId : String}
    {processed : Processed} {now : Int} (hi : i.transaction = .settle ticket workerId processed now)
    (hdone : machine.answer (machine.run is) i = .ok .done) :
    ∃ job, (machine.run is).issued[ticket]? = some job ∧ LastClaim (machine.events is) job ∧
      job.leaseOwner = some workerId ∧ ∃ leaseUntil ∈ job.leaseUntil, now < leaseUntil := by
  have heffect := effect_next (machine.run is) i
  rw [hdone] at heffect
  generalize (machine.next (machine.run is) i).db = db at heffect
  cases heffect with
  | settled hissued hrow hkey hholds hstate =>
    cases hi
    have hsame := (consistent_run is).held (List.mem_of_getElem? hissued) hrow hkey hholds.version
    have hlast := claimed_run is _ hrow hholds.state
    rw [← hsame] at hlast
    refine ⟨_, hissued, hlast, ?_⟩
    rw [hsame]
    exact ⟨hholds.owner, hholds.alive⟩

theorem settled_last (is : List Input) {i : Input} {ticket : Nat} {workerId : String}
    {processed : Processed} {now : Int} (hi : i.transaction = .settle ticket workerId processed now)
    (hdone : machine.answer (machine.run is) i = .ok .done) :
    ∃ job, (machine.run is).issued[ticket]? = some job ∧ LastClaim (machine.events is) job ∧
      job.leaseOwner = some workerId := by
  obtain ⟨job, hissued, hlast, howner, -⟩ := settled_holder is hi hdone
  exact ⟨job, hissued, hlast, howner⟩

/-- A job is handed out again only when the lease of its most recent claim has run out, and completed or
failed only before that. -/
theorem leases_exclusive (is : List Input) (i : Input) :
    (∀ job ∈ claimedJob (machine.answer (machine.run is) i),
      claimCount (machine.events is) job.key = 0 ∨
        ∃ holder, LastClaim (machine.events is) holder ∧ holder.key = job.key ∧
          ∃ leaseUntil ∈ holder.leaseUntil, leaseUntil ≤ i.env.checkedAt job.key) ∧
    ∀ ticket workerId processed now, i.transaction = .settle ticket workerId processed now →
      machine.answer (machine.run is) i = .ok .done →
      ∃ holder, (machine.run is).issued[ticket]? = some holder ∧ LastClaim (machine.events is) holder ∧
        holder.leaseOwner = some workerId ∧ ∃ leaseUntil ∈ holder.leaseUntil, now < leaseUntil := by
  refine ⟨fun job hjob => ?_, fun _ _ _ _ hi hdone => settled_holder is hi hdone⟩
  have heffect := effect_next (machine.run is) i
  generalize machine.answer (machine.run is) i = o at heffect hjob
  generalize (machine.next (machine.run is) i).db = db at heffect
  cases heffect with
  | claimed hadmitted =>
    obtain rfl := Option.some.inj hjob
    obtain ⟨hrow, ⟨hready, -⟩ | ⟨hleased, hover⟩⟩ := candidate_mem hadmitted.chosen
    · have hsound := (consistent_run is).sound _ hrow
      refine .inl ((claimCount_of_mem hrow).trans ?_)
      exact hsound.pending (hready.resolve_right hsound.waiting)
    · exact .inr ⟨_, claimed_run is _ hrow hleased, rfl, hover⟩
  | _ => cases hjob

/-! ## The bound -/

/-- No stored job has been tried more often than it may be. -/
def WithinAttempts (s : System) : Prop := ∀ row ∈ s.db .jobs, row.attempt ≤ row.maxAttempts

theorem candidate_below (h : Consistent s) {row : JobRow} {i : Input} {workerId : String}
    {leaseSeconds : Int} (hi : i.transaction = .claim workerId leaseSeconds)
    (hadmitted : ClaimAdmitted i.env workerId leaseSeconds s.db row) (hspares : SparesExhausted s i) :
    row.attempt < row.maxAttempts := by
  obtain ⟨hrow, hclaimable⟩ := candidate_mem hadmitted.chosen
  have hsound := h.sound row hrow
  rcases hclaimable with ⟨hpending | hwaiting, -⟩ | ⟨hleased, -⟩
  · rw [hsound.pending hpending]
    exact hsound.limit
  · exact absurd hwaiting hsound.waiting
  · simp only [SparesExhausted, hi] at hspares
    exact hspares row hadmitted hleased

theorem execute_of_admitted {env : Env} {workerId : String} {leaseSeconds : Int} {row : JobRow}
    (h : ClaimAdmitted env workerId leaseSeconds s.db row) :
    execute s.issued ⟨env, .claim workerId leaseSeconds⟩ s.db =
      (.ok (.claimed (jobFromRow (row.lease workerId (env.leasedAt + leaseSeconds * 1000000)))),
        leased row workerId (env.leasedAt + leaseSeconds * 1000000) env.lostAt s.db) := by
  have hclaim : claimDocumentProcessingJob env workerId leaseSeconds s.db =
      (.ok (some (row.lease workerId (env.leasedAt + leaseSeconds * 1000000))),
        leased row workerId (env.leasedAt + leaseSeconds * 1000000) env.lostAt s.db) := by
    rw [claimDocumentProcessingJob, Call.ensure_bind ⟨h.worker, h.lease⟩, Call.get_bind, h.chosen]
    rfl
  have hreturns : claim env workerId leaseSeconds s.db =
      (.ok (some (jobFromRow (row.lease workerId (env.leasedAt + leaseSeconds * 1000000)))),
        leased row workerId (env.leasedAt + leaseSeconds * 1000000) env.lostAt s.db) := by
    rw [claim, safeId, Call.ensure_bind h.worker, Call.ensure_bind h.lease, Call.atomically,
      Call.bind_of_ok hclaim, h.commits]
    rfl
  exact Call.map_of_ok hreturns _

theorem withinAttempts_next (h : Consistent s) {i : Input} (hs : WithinAttempts s)
    (hspares : SparesExhausted s i) : WithinAttempts (machine.next s i) := by
  have heffect := effect_next s i
  unfold WithinAttempts at hs ⊢
  generalize machine.answer s i = o at heffect
  generalize (machine.next s i).db = db at heffect ⊢
  intro row hrow
  cases heffect with
  | refused => exact hs row hrow
  | idle => exact hs row hrow
  | enqueued hadmits =>
    rw [enqueued, Database.insert_self] at hrow
    rcases List.mem_append.1 hrow with hold | hnew
    · exact hs row hold
    · rw [List.mem_singleton.1 hnew]
      exact Nat.zero_le _
  | claimed hadmitted =>
    rw [leased_jobs] at hrow
    rcases mem_advanced h.jobs (candidate_mem hadmitted.chosen).1 hrow with rfl | ⟨hold, -⟩
    · exact candidate_below h rfl hadmitted hspares
    · exact hs row hold
  | settled hissued hold hkey hholds hstate =>
    rw [finished_jobs, key_attempted, ← hkey] at hrow
    rcases mem_advanced h.jobs hold hrow with rfl | ⟨hold, -⟩
    · have hbound := hs _ hold
      exact hbound
    · exact hs row hold

/-- The queue is orderly in a run exactly when no claim in it takes over the lease of a last attempt. -/
theorem orderly_iff (is : List Input) :
    Orderly is ↔ machine.AllSteps SparesExhausted machine.init is := by
  constructor
  · intro h
    rw [Machine.allSteps_iff]
    intro pre i post hsplit
    change SparesExhausted (machine.run pre) i
    unfold SparesExhausted
    obtain ⟨env, transaction⟩ := i
    cases transaction with
    | claim workerId leaseSeconds =>
      intro row hadmitted _
      obtain ⟨hrow, -⟩ := candidate_mem hadmitted.chosen
      -- the claim hands out the row with one more attempt
      have hafter : row.lease workerId (env.leasedAt + leaseSeconds * 1000000) ∈
          (machine.run (pre ++ [⟨env, .claim workerId leaseSeconds⟩])).db .jobs := by
        have hnext : (machine.next (machine.run pre) ⟨env, .claim workerId leaseSeconds⟩).db =
            leased row workerId (env.leasedAt + leaseSeconds * 1000000) env.lostAt
              (machine.run pre).db :=
          congrArg Prod.snd (execute_of_admitted hadmitted)
        rw [Machine.run_concat, hnext, leased_jobs, advanced, Database.update_self]
        exact List.mem_map.2 ⟨row, hrow, by simp⟩
      have hbound := h.bounded (pre ++ [⟨env, .claim workerId leaseSeconds⟩]) post
        (by rw [hsplit, List.append_assoc, List.singleton_append]) _ hafter
      rw [claimCount_of_mem hafter] at hbound
      exact hbound
    | _ => trivial
  · intro h
    have hstep : ∀ s i, Consistent s ∧ WithinAttempts s → SparesExhausted s i →
        Consistent (machine.next s i) ∧ WithinAttempts (machine.next s i) :=
      fun s i hs hspares => ⟨consistent_next hs.1 i, withinAttempts_next hs.1 hs.2 hspares⟩
    have hinit : Consistent machine.init ∧ WithinAttempts machine.init :=
      ⟨consistent_init, fun row hrow => (by cases hrow)⟩
    refine ⟨?_, ?_, ?_⟩
    · rintro pre post rfl row hrow
      rw [claimCount_of_mem hrow]
      exact (machine.run_induction_of hinit hstep ((Machine.allSteps_append ..).1 h).1).2 row hrow
    · rintro pre post rfl row hrow n
      rw [claimCount_of_mem hrow, attemptCount_of_mem (consistent_run pre) hrow]
      refine if_congr ?_ rfl rfl
      have hsound := (consistent_run pre).sound row hrow
      by_cases hleased : row.state = .leased
      · have hended : row.ended = row.attempt - 1 := if_pos hleased
        have hpos := hsound.leased hleased
        rw [hended]
        simp only [hleased, true_and]
        omega
      · have hended : row.ended = row.attempt := if_neg hleased
        rw [hended]
        simp only [hleased, false_and, not_false_eq_true, and_true]
    · rintro pre i post - ticket workerId processed now hi hdone
      exact settled_last pre hi hdone

namespace Sample

def env (now : Int) : Env where
  locked _ := false
  checkedAt _ := now
  lostAt := now
  leasedAt := now
  failure := none

def enqueue : Input :=
  ⟨env 0, .enqueue ⟨"tenant", "workspace", "job", "source", "source-version", "run", "actor", "trace",
    "policy"⟩ 0⟩

def claim (now : Int) : Input := ⟨env now, .claim "worker" 10⟩

end Sample

/-- A job of three attempts is claimed a fourth time after its worker died in the third. -/
theorem fourth_claim : ¬∀ is, Orderly is := by
  intro h
  have hbound := (h [Sample.enqueue, Sample.claim 0, Sample.claim 10000000, Sample.claim 20000000,
    Sample.claim 30000000]).bounded _ [] (List.append_nil _).symm
  revert hbound
  decide

end DaonUser.DocumentQueue
