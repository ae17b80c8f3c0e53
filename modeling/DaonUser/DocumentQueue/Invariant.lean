import DaonUser.DocumentQueue.Model

/-!
# Document queue: what every transaction keeps

`Effect` has one case for each transaction that changes the rows. `Consistent` is what all of them
keep: an attempt that has ended is in the history once, the one that runs is not, and a job that a
claim has returned is older than its row or the same.
-/

namespace DaonUser.DocumentQueue

open Lib

variable {f : JobRow → JobRow} {db : Db} {row : JobRow} {now : Int} {workerId : String}
  {job : DocumentProcessingJob} {env : Env} {issued : List DocumentProcessingJob} {state : JobState}

/-! ## Effects -/

/-- The rows after `updateJob`. -/
def advanced (key : JobKey) (f : JobRow → JobRow) (db : Db) : Db :=
  db.update .jobs (fun row => row.key = key) f

@[simp] theorem advanced_attempts {key : JobKey} :
    advanced key f db .attempts = db .attempts :=
  Database.update_of_ne (by decide)

@[simp] theorem leaseLoss_jobs :
    leaseLoss row now db .jobs = db .jobs := by
  unfold leaseLoss
  split
  · exact Database.insertOrIgnore_of_ne (by decide)
  · rfl

/-- The rows after an `INSERT INTO document_processing_jobs`. -/
def enqueued (row : JobRow) (db : Db) : Db := db.insert .jobs row

def leased (row : JobRow) (workerId : String) (leaseUntil lostAt : Int) (db : Db) : Db :=
  advanced row.key (fun other => other.lease workerId leaseUntil) (leaseLoss row lostAt db)

@[simp] theorem leased_jobs {leaseUntil lostAt : Int} :
    leased row workerId leaseUntil lostAt db .jobs =
      advanced row.key (fun other => other.lease workerId leaseUntil) db .jobs := by
  rw [leased, advanced, advanced, Database.update_self, Database.update_self, leaseLoss_jobs]

def finished (attempt : AttemptRow) (finish : JobRow → JobRow) (db : Db) : Db :=
  let db : Db := advanced attempt.key finish db
  db.insert .attempts attempt

@[simp] theorem finished_jobs {attempt : AttemptRow} {finish : JobRow → JobRow} :
    finished attempt finish db .jobs = advanced attempt.key finish db .jobs :=
  Database.insert_of_ne (by decide)

@[simp] theorem key_attempted {outcome : AttemptOutcome} {code : Option String} :
    (job.attempted workerId outcome code now).key = job.key := rfl

/-- What `claim` asks for before it takes the candidate. -/
structure ClaimAdmitted (env : Env) (workerId : String) (leaseSeconds : Int) (db : Db)
    (row : JobRow) : Prop where
  worker : isQueueId workerId = true
  lease : 10 ≤ leaseSeconds ∧ leaseSeconds ≤ 600
  chosen : candidate env db = some row
  commits : env.failure = none

/-- What a transaction answers and leaves. -/
inductive Effect (db : Db) (issued : List DocumentProcessingJob) : Input → Outcome → Db → Prop where
  | refused {i : Input} {e : DocumentProcessingQueueError} : Effect db issued i (.error e) db
  | idle {i : Input} : Effect db issued i (.ok .idle) db
  | enqueued {env : Env} {new : NewJob} {now : Int} (hadmits : db.Admits .jobs (new.row now)) :
      Effect db issued ⟨env, .enqueue new now⟩ (.ok .idle) (enqueued (new.row now) db)
  | claimed {env : Env} {workerId : String} {leaseSeconds : Int} {row : JobRow}
      (hadmitted : ClaimAdmitted env workerId leaseSeconds db row) :
      Effect db issued ⟨env, .claim workerId leaseSeconds⟩
        (.ok (.claimed (jobFromRow
          (row.lease workerId (env.leasedAt + leaseSeconds * 1000000)))))
        (leased row workerId (env.leasedAt + leaseSeconds * 1000000) env.lostAt db)
  | settled {env : Env} {ticket : Nat} {workerId : String} {processed : Processed} {now : Int}
      {job : DocumentProcessingJob} {row : JobRow} {state : JobState} {outcome : AttemptOutcome}
      {code : Option String} {old : Option String → Option String}
      (hissued : issued[ticket]? = some job) (hrow : row ∈ db .jobs) (hkey : row.key = job.key)
      (hholds : HoldsLease job (currentFromRow job row) workerId now)
      (hstate : state = .completed ∨ state = .deadLetter) :
      Effect db issued ⟨env, .settle ticket workerId processed now⟩ (.ok .done)
        (finished (job.attempted workerId outcome code now)
          (fun other => other.finish state (old other.lastSafeErrorCode) now) db)

theorem returns_raiseAny {e : Option DocumentProcessingQueueError}
    {V : PUnit → Db → Prop} : Call.Returns (raiseAny e) db V ↔ (e = none → V ⟨⟩ db) := by
  cases e with
  | none => simp [raiseAny]
  | some e => simp [raiseAny]

theorem returns_insertAttempt {row : AttemptRow} {V : PUnit → Db → Prop} :
    Call.Returns (insertAttempt row) db V ↔
      (0 < row.attemptNumber → db.Admits .attempts row → V ⟨⟩ (db.insert .attempts row)) := by
  simp only [insertAttempt, Call.returns_bind, Call.returns_ensure, Call.returns_insertRow]

theorem returns_lockedCurrent {V : DocumentProcessingJob → Db → Prop} :
    Call.Returns (lockedCurrent job) db V ↔
      ∀ row, (db .jobs).find? (fun row => row.key = job.key) = some row →
        V (currentFromRow job row) db := by
  unfold lockedCurrent
  rw [Call.returns_query]
  cases (db .jobs).find? fun row => row.key = job.key with
  | none => simp
  | some row => simp

theorem returns_claim {leaseSeconds : Int} :
    Call.Returns (claim env workerId leaseSeconds) db fun job db' =>
      Effect db issued ⟨env, .claim workerId leaseSeconds⟩ (.ok (job.elim .idle .claimed)) db' := by
  simp only [claim, safeId, claimDocumentProcessingJob, updateJob, Call.returns_bind,
    Call.returns_ensure, Call.returns_atomically, Call.returns_get, returns_raiseAny,
    Call.returns_pure]
  intro hworker hlease _
  cases hcandidate : candidate env db with
  | none =>
    rw [Call.returns_pure]
    exact fun _ => .idle
  | some row =>
    simp only [Call.returns_bind, Call.returns_modify, Call.returns_pure, Option.map_some,
      Option.elim_some]
    exact fun hcommits => .claimed ⟨hworker, hlease, hcandidate, hcommits⟩

theorem Effect.settledWith {ticket : Nat} {processed : Processed}
    {outcome : AttemptOutcome} {code : Option String}
    (old : Option String → Option String) (hissued : issued[ticket]? = some job)
    (hrow : row ∈ db .jobs) (hkey : row.key = job.key)
    (hholds : HoldsLease job (currentFromRow job row) workerId now)
    (hstate : state = .completed ∨ state = .deadLetter) :
    Effect db issued ⟨env, .settle ticket workerId processed now⟩ (.ok .done)
      (finished (job.attempted workerId outcome code now)
        (fun other => other.finish state (old other.lastSafeErrorCode) now) db) :=
  .settled hissued hrow hkey hholds hstate

theorem returns_settle {processed : Processed} {ticket : Nat} (hissued : issued[ticket]? = some job) :
    Call.Returns (settle env job workerId now processed) db fun _ db' =>
      Effect db issued ⟨env, .settle ticket workerId processed now⟩ (.ok .done) db' := by
  have hfound : ∀ {row}, (db .jobs).find? (fun row => row.key = job.key) = some row →
      row ∈ db .jobs ∧ row.key = job.key := fun h =>
    ⟨List.mem_of_find?_eq_some h, by simpa using List.find?_some h⟩
  cases processed with
  | done =>
    simp only [settle, complete, safeId, scope, updateJob, Call.returns_bind, Call.returns_ensure,
      Call.returns_atomically, returns_lockedCurrent, Call.returns_modify, returns_insertAttempt,
      returns_raiseAny]
    intro _ _ row hrow hholds _ _ _
    exact .settledWith id hissued (hfound hrow).1 (hfound hrow).2 hholds (Or.inl rfl)
  | raised code =>
    simp only [settle, failTerminal, safeId, scope, updateJob, Call.returns_bind,
      Call.returns_ensure, Call.returns_atomically, returns_lockedCurrent, Call.returns_modify,
      returns_insertAttempt, returns_raiseAny]
    intro _ _ _ row hrow hholds _ _ _
    exact .settledWith (fun _ => some code) hissued (hfound hrow).1 (hfound hrow).2 hholds
      (Or.inr rfl)

theorem returns_execute {i : Input} :
    Call.Returns (execute issued i) db fun reply db' => Effect db issued i (.ok reply) db' := by
  obtain ⟨env, transaction⟩ := i
  cases transaction with
  | enqueue new now =>
    simp only [execute, Call.returns_bind, Call.returns_modify, Call.returns_pure]
    unfold Database.insertOrIgnore
    split
    · next hadmits => exact .enqueued hadmits
    · exact .idle
  | claim workerId leaseSeconds =>
    simp only [execute, Call.returns_map]
    exact returns_claim
  | settle ticket workerId processed now =>
    simp only [execute]
    cases hissued : issued[ticket]? with
    | none =>
      rw [Call.returns_pure]
      exact .idle
    | some job =>
      simp only [Call.returns_map]
      exact returns_settle hissued

theorem reverts_execute {i : Input} :
    Call.Reverts (execute issued i) db := by
  obtain ⟨env, transaction⟩ := i
  cases transaction with
  | enqueue new now =>
    rintro e db' h
    cases h
  | claim workerId leaseSeconds => simp [execute, claim, safeId]
  | settle ticket workerId processed now =>
    simp only [execute]
    cases issued[ticket]? with
    | none => simp
    | some job =>
      cases processed <;>
        simp only [Call.reverts_map, settle, complete, failTerminal, safeId, scope,
          Call.reverts_ensure_bind, Call.reverts_atomically, implies_true]

theorem effect_next (s : System) (i : Input) :
    Effect s.db s.issued i (machine.answer s i) (machine.next s i).db := by
  change Effect s.db s.issued i (execute s.issued i s.db).1 (execute s.issued i s.db).2
  rcases h : execute s.issued i s.db with ⟨e | reply, db⟩
  · rw [reverts_execute e db h]
    exact .refused
  · exact returns_execute reply db h

/-! ## The invariant -/

def JobRow.ended (row : JobRow) : Nat := if row.state = .leased then row.attempt - 1 else row.attempt

structure JobRow.Sound (row : JobRow) : Prop where
  limit : 0 < row.maxAttempts
  pending : row.state = .pending → row.attempt = 0
  waiting : row.state ≠ .retryWait
  leased : row.state = .leased → 0 < row.attempt

structure Consistent (s : System) : Prop where
  jobs : s.db.Keyed .jobs
  attempts : s.db.Keyed .attempts
  sound : ∀ row ∈ s.db .jobs, row.Sound
  /-- Every attempt that has ended is in the history. -/
  recorded : ∀ row ∈ s.db .jobs, ∀ n, 0 < n → n ≤ row.ended →
    ∃ attempt ∈ s.db .attempts, attempt.key = row.key ∧ attempt.attemptNumber = n
  /-- What is in the history is an attempt of a job that has ended. -/
  within : ∀ attempt ∈ s.db .attempts, ∃ row ∈ s.db .jobs, row.key = attempt.key ∧
    0 < attempt.attemptNumber ∧ attempt.attemptNumber ≤ row.ended
  /-- A job that a claim has returned is older than its row or the same. -/
  issued : ∀ job ∈ s.issued, ∃ row ∈ s.db .jobs, row.key = job.key ∧ job.version ≤ row.version ∧
    (job.version = row.version → job = jobFromRow row)

variable {s : System}

theorem eq_of_key (h : db.Keyed .jobs) {row' : JobRow} (hrow : row ∈ db .jobs)
    (hrow' : row' ∈ db .jobs) (hkey : row.key = row'.key) : row = row' :=
  h.eq hrow hrow' (by simp [Table.clash, hkey])

/-- A new version of one row: it has its keys, and at most one more attempt that has ended. -/
structure Advance (row : JobRow) (f : JobRow → JobRow) : Prop where
  key : ∀ other, (f other).key = other.key
  processingRunId : ∀ other, (f other).processingRunId = other.processingRunId
  sound : (f row).Sound
  version : row.version < (f row).version

theorem Advance.clash (h : Advance row f) (other other' : JobRow) :
    Table.clash .jobs (f other) other' = Table.clash .jobs other other' := by
  have hkey := h.key other
  simp only [JobRow.key, Prod.mk.injEq] at hkey
  simp only [Table.clash, h.key, hkey.1, hkey.2.1, h.processingRunId]

theorem mem_advanced (h : db.Keyed .jobs) (hrow : row ∈ db .jobs) {other : JobRow}
    (hother : other ∈ advanced row.key f db .jobs) :
    other = f row ∨ other ∈ db .jobs ∧ other.key ≠ row.key := by
  rw [advanced, Database.update_self] at hother
  obtain ⟨old, hold, rfl⟩ := List.mem_map.1 hother
  simp only [decide_eq_true_eq]
  split
  · next hkey =>
    obtain rfl := eq_of_key h hold hrow hkey
    exact Or.inl rfl
  · next hkey => exact Or.inr ⟨hold, hkey⟩

theorem consistent_advance (h : Consistent s) (hrow : row ∈ s.db .jobs) (hf : Advance row f)
    (hjobs : db .jobs = advanced row.key f s.db .jobs)
    (hattempts : (db .attempts = s.db .attempts ∧ (f row).ended = row.ended) ∨
      ∃ attempt : AttemptRow, attempt.key = row.key ∧ attempt.attemptNumber = row.ended + 1 ∧
        (f row).ended = row.ended + 1 ∧
          db .attempts = (s.db.insert .attempts attempt : Db) .attempts)
    (hissued : ∀ job ∈ issued, job ∈ s.issued ∨ job = jobFromRow (f row)) :
    Consistent { db, issued } := by
  have hlater : ∀ other ∈ s.db .jobs, (if other.key = row.key then f row else other) ∈ db .jobs := by
    intro other hother
    rw [hjobs, advanced, Database.update_self]
    refine List.mem_map.2 ⟨other, hother, ?_⟩
    simp only [decide_eq_true_eq]
    split
    · next hkey => rw [eq_of_key h.jobs hother hrow hkey]
    · rfl
  have hnew : f row ∈ db .jobs := by
    have hmem := hlater row hrow
    rwa [if_pos rfl] at hmem
  have hcases : ∀ other ∈ db .jobs, other = f row ∨ other ∈ s.db .jobs ∧ other.key ≠ row.key := by
    intro other hother
    rw [hjobs] at hother
    exact mem_advanced h.jobs hrow hother
  have hended : row.ended ≤ (f row).ended := by
    rcases hattempts with ⟨-, hsame⟩ | ⟨-, -, -, hmore, -⟩ <;> omega
  have hold : ∀ attempt ∈ s.db .attempts, attempt ∈ db .attempts := by
    intro attempt hattempt
    rcases hattempts with ⟨hsame, -⟩ | ⟨new, -, -, -, happend⟩
    · rw [hsame]
      exact hattempt
    · rw [happend, Database.insert_self]
      exact List.mem_append_left _ hattempt
  -- the row of an attempt that was there stays or is advanced
  have hwithin : ∀ attempt ∈ s.db .attempts, ∃ other ∈ db .jobs, other.key = attempt.key ∧
      0 < attempt.attemptNumber ∧ attempt.attemptNumber ≤ other.ended := by
    intro attempt hattempt
    obtain ⟨other, hother, hkey, hpos, hle⟩ := h.within attempt hattempt
    by_cases hsame : other.key = row.key
    · obtain rfl := eq_of_key h.jobs hother hrow hsame
      exact ⟨f other, hnew, (hf.key other).trans hkey, hpos, hle.trans hended⟩
    · have hmem := hlater other hother
      rw [if_neg hsame] at hmem
      exact ⟨other, hmem, hkey, hpos, hle⟩
  refine ⟨(h.jobs.update hf.clash).congr hjobs, ?_, fun other hother => ?_,
    fun other hother n hpos hn => ?_, fun attempt hattempt => ?_, fun job hjob => ?_⟩
  · rcases hattempts with ⟨hsame, -⟩ | ⟨new, hkey, hnumber, -, happend⟩
    · exact h.attempts.congr hsame
    · refine Database.Keyed.congr (h.attempts.insert fun attempt hattempt => ?_) happend
      simp only [Table.clash, Bool.and_eq_false_iff, decide_eq_false_iff_not]
      by_contra hboth
      rw [not_or, not_not, not_not] at hboth
      obtain ⟨other, hother, hkey', -, hle⟩ := h.within attempt hattempt
      obtain rfl := eq_of_key h.jobs hother hrow (hkey'.trans (hboth.1.trans hkey))
      omega
  · rcases hcases other hother with rfl | ⟨hother, -⟩
    · exact hf.sound
    · exact h.sound other hother
  · rcases hcases other hother with rfl | ⟨hother, -⟩
    · have hsame : (f row).key = row.key := hf.key row
      by_cases hlast : n ≤ row.ended
      · obtain ⟨attempt, hattempt, hkey, hnumber⟩ := h.recorded row hrow n hpos hlast
        exact ⟨attempt, hold attempt hattempt, hkey.trans hsame.symm, hnumber⟩
      · rcases hattempts with ⟨-, heq⟩ | ⟨new, hkey, hnumber, hmore, happend⟩
        · omega
        · refine ⟨new, ?_, hkey.trans hsame.symm, by omega⟩
          change new ∈ db .attempts
          rw [happend, Database.insert_self]
          exact List.mem_append_right _ (List.mem_singleton_self new)
    · obtain ⟨attempt, hattempt, hkey, hnumber⟩ := h.recorded other hother n hpos hn
      exact ⟨attempt, hold attempt hattempt, hkey, hnumber⟩
  · rcases hattempts with ⟨hsame, -⟩ | ⟨new, hkey, hnumber, hmore, happend⟩
    · exact hwithin attempt (hsame ▸ hattempt)
    · change attempt ∈ db .attempts at hattempt
      rw [happend, Database.insert_self] at hattempt
      rcases List.mem_append.1 hattempt with hattempt | hattempt
      · exact hwithin attempt hattempt
      · obtain rfl := List.mem_singleton.1 hattempt
        exact ⟨f row, hnew, (hf.key row).trans hkey.symm, by omega, by omega⟩
  · rcases hissued job hjob with hissued | rfl
    · obtain ⟨other, hother, hkey, hle, heq⟩ := h.issued job hissued
      by_cases hsame : other.key = row.key
      · obtain rfl := eq_of_key h.jobs hother hrow hsame
        refine ⟨f other, hnew, (hf.key other).trans hkey, hle.trans hf.version.le, fun hversion => ?_⟩
        have := hf.version
        omega
      · have hmem := hlater other hother
        rw [if_neg hsame] at hmem
        exact ⟨other, hmem, hkey, hle, heq⟩
    · exact ⟨f row, hnew, rfl, le_refl _, fun _ => rfl⟩

/-! ## Every transaction keeps it -/

theorem advance_lease (hrow : row.Sound) (workerId : String) (leaseUntil : Int) :
    Advance row fun other => other.lease workerId leaseUntil where
  key _ := rfl
  processingRunId _ := rfl
  sound := ⟨hrow.limit, fun h => (by cases h), fun h => (by cases h), fun _ => Nat.succ_pos _⟩
  version := Nat.lt_succ_self _

theorem advance_finish (hrow : row.Sound)
    (hstate : state = .completed ∨ state = .deadLetter) (old : Option String → Option String)
    (now : Int) : Advance row fun other => other.finish state (old other.lastSafeErrorCode) now where
  key _ := rfl
  processingRunId _ := rfl
  sound := by
    rcases hstate with rfl | rfl <;>
      exact ⟨hrow.limit, fun h => (by cases h), fun h => (by cases h), fun h => (by cases h)⟩
  version := Nat.lt_succ_self _

theorem candidate_mem (h : candidate env db = some row) :
    row ∈ db .jobs ∧ row.Claimable (env.checkedAt row.key) := by
  have hmem := @List.argmin_mem _ _ candidateOrder.toPreorder candidateOrder.toDecidableLT _ _ _
    (Option.mem_def.2 h)
  obtain ⟨hrow, hclaimable⟩ := List.mem_filter.1 hmem
  simp only [decide_eq_true_eq] at hclaimable
  exact ⟨hrow, hclaimable.1⟩

theorem Consistent.unrecorded (h : Consistent s) (hrow : row ∈ s.db .jobs) {n : Nat}
    (hn : row.ended < n) {attempt : AttemptRow} (hattempt : attempt ∈ s.db .attempts)
    (hkey : attempt.key = row.key) : attempt.attemptNumber ≠ n := by
  obtain ⟨other, hother, hkey', -, hle⟩ := h.within attempt hattempt
  obtain rfl := eq_of_key h.jobs hother hrow (hkey'.trans hkey)
  omega

theorem consistent_claimed (h : Consistent s) (hrow : row ∈ s.db .jobs)
    (workerId : String) (leaseUntil lostAt : Int) :
    Consistent ⟨leased row workerId leaseUntil lostAt s.db,
      s.issued ++ [jobFromRow (row.lease workerId leaseUntil)]⟩ := by
  refine consistent_advance h hrow (advance_lease (h.sound row hrow) workerId leaseUntil) ?_ ?_ ?_
  · exact leased_jobs
  · have hended : (row.lease workerId leaseUntil).ended = row.attempt := Nat.add_sub_cancel ..
    have hsame : leased row workerId leaseUntil lostAt s.db .attempts =
        leaseLoss row lostAt s.db .attempts := advanced_attempts
    rw [hsame]
    by_cases hleased : row.state = .leased
    · have hpos := (h.sound row hrow).leased hleased
      have hbefore : row.ended = row.attempt - 1 := if_pos hleased
      refine Or.inr ⟨row.lost lostAt, rfl, ?_, ?_, ?_⟩
      · change row.attempt = row.ended + 1
        omega
      · omega
      · rw [leaseLoss, if_pos hleased, Database.insertOrIgnore_of_admits]
        intro attempt hattempt
        simp only [Table.clash, Bool.and_eq_false_iff, decide_eq_false_iff_not]
        by_contra hboth
        rw [not_or, not_not, not_not] at hboth
        exact h.unrecorded hrow (n := row.attempt) (by omega) hattempt hboth.1 hboth.2
    · refine Or.inl ⟨by rw [leaseLoss, if_neg hleased], hended.trans ?_⟩
      exact (if_neg hleased).symm
  · intro job hjob
    rcases List.mem_append.1 hjob with hold | hnew
    · exact Or.inl hold
    · exact Or.inr (List.mem_singleton.1 hnew)

theorem Consistent.held (h : Consistent s) (hjob : job ∈ s.issued)
    (hrow : row ∈ s.db .jobs) (hkey : row.key = job.key)
    (hversion : row.version = job.version) : job = jobFromRow row := by
  obtain ⟨other, hother, hkey', -, heq⟩ := h.issued job hjob
  obtain rfl := eq_of_key h.jobs hother hrow (hkey'.trans hkey.symm)
  exact heq hversion.symm

theorem consistent_finished (h : Consistent s) (hjob : job ∈ s.issued)
    (hrow : row ∈ s.db .jobs) (hkey : row.key = job.key)
    (hholds : HoldsLease job (currentFromRow job row) workerId now)
    (hstate : state = .completed ∨ state = .deadLetter) (old : Option String → Option String)
    (outcome : AttemptOutcome) (code : Option String) :
    Consistent ⟨finished (job.attempted workerId outcome code now)
      (fun other => other.finish state (old other.lastSafeErrorCode) now) s.db, s.issued⟩ := by
  obtain rfl := h.held hjob hrow hkey hholds.version
  have hleased : row.state = .leased := hholds.state
  have hpos := (h.sound row hrow).leased hleased
  have hbefore : row.ended = row.attempt - 1 := if_pos hleased
  refine consistent_advance h hrow (advance_finish (h.sound row hrow) hstate old now) ?_ (Or.inr ?_)
    fun job hjob => Or.inl hjob
  · exact finished_jobs
  · refine ⟨(jobFromRow row).attempted workerId outcome code now, rfl, ?_, ?_, ?_⟩
    · change row.attempt = row.ended + 1
      omega
    · have hnot : state ≠ .leased := by rcases hstate with rfl | rfl <;> decide
      have hafter : (row.finish state (old row.lastSafeErrorCode) now).ended = row.attempt :=
        if_neg hnot
      omega
    · unfold finished
      simp

theorem consistent_enqueued (h : Consistent s) {new : NewJob} (hadmits : s.db.Admits .jobs (new.row now)) :
    Consistent ⟨enqueued (new.row now) s.db, s.issued⟩ := by
  have hattempts : enqueued (new.row now) s.db .attempts = s.db .attempts :=
    Database.insert_of_ne (by decide)
  have hold : ∀ row ∈ s.db .jobs, row ∈ enqueued (new.row now) s.db .jobs := by
    intro row hrow
    rw [enqueued, Database.insert_self]
    exact List.mem_append_left _ hrow
  refine ⟨h.jobs.insert hadmits, h.attempts.congr hattempts, fun row hrow => ?_,
    fun row hrow n hpos hn => ?_, fun attempt hattempt => ?_, fun job hjob => ?_⟩
  · change row ∈ enqueued (new.row now) s.db .jobs at hrow
    rw [enqueued, Database.insert_self] at hrow
    rcases List.mem_append.1 hrow with hrow | hrow
    · exact h.sound row hrow
    · rw [List.mem_singleton.1 hrow]
      exact ⟨Nat.succ_pos 2, fun _ => rfl, fun h => (by cases h), fun h => (by cases h)⟩
  · change row ∈ enqueued (new.row now) s.db .jobs at hrow
    rw [enqueued, Database.insert_self] at hrow
    rcases List.mem_append.1 hrow with hrow | hrow
    · change ∃ attempt ∈ enqueued (new.row now) s.db .attempts, _
      rw [hattempts]
      exact h.recorded row hrow n hpos hn
    · rw [List.mem_singleton.1 hrow] at hn
      change n ≤ 0 at hn
      omega
  · change attempt ∈ enqueued (new.row now) s.db .attempts at hattempt
    rw [hattempts] at hattempt
    obtain ⟨row, hrow, hwithin⟩ := h.within attempt hattempt
    exact ⟨row, hold row hrow, hwithin⟩
  · obtain ⟨row, hrow, hissued⟩ := h.issued job hjob
    exact ⟨row, hold row hrow, hissued⟩

theorem consistent_next (h : Consistent s) (i : Input) : Consistent (machine.next s i) := by
  have heffect := effect_next s i
  have hsystem : machine.next s i =
      ⟨(machine.next s i).db, s.issued ++ (claimedJob (machine.answer s i)).toList⟩ := rfl
  rw [hsystem]
  generalize machine.answer s i = o at heffect
  generalize (machine.next s i).db = db at heffect
  cases heffect with
  | refused => simpa [claimedJob] using h
  | idle => simpa [claimedJob] using h
  | enqueued hadmits => simpa [claimedJob] using consistent_enqueued h hadmits
  | claimed hadmitted => exact consistent_claimed h (candidate_mem hadmitted.chosen).1 _ _ _
  | settled hissued hrow hkey hholds hstate =>
    have hjob := List.mem_of_getElem? hissued
    simpa [claimedJob] using consistent_finished h hjob hrow hkey hholds hstate _ _ _

theorem consistent_init : Consistent machine.init where
  jobs := Database.keyed_empty
  attempts := Database.keyed_empty
  sound _ h := by cases h
  recorded _ h := by cases h
  within _ h := by cases h
  issued _ h := by cases h

theorem consistent_run (is : List Input) : Consistent (machine.run is) :=
  machine.run_induction consistent_init (fun _ i hs => consistent_next hs i) is

end DaonUser.DocumentQueue
